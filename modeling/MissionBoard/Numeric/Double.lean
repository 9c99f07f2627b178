import Mathlib.Algebra.Order.Field.Rat

/-!
Owns the values of a C++ `double` as the flight code uses them: a finite value is
the rational it denotes, and the infinities and NaN stay apart. Rounding of
arithmetic is not owned here.
-/

namespace MissionBoard

/-- A `double`: a finite value, an infinity, or NaN. -/
inductive Double where
  | finite (value : ℚ)
  | infinite (negative : Bool)
  | nan
deriving DecidableEq

namespace Double

/-- `0.0` -/
def zero : Double := .finite 0

/-- `std::isfinite` -/
def isFinite : Double → Bool
  | .finite _ => true
  | .infinite _ | .nan => false

/-- `std::abs(value) <= limit` for a finite limit. -/
def absLe (limit : ℚ) : Double → Bool
  | .finite value => decide (-limit ≤ value ∧ value ≤ limit)
  | .infinite _ | .nan => false

end Double

end MissionBoard
