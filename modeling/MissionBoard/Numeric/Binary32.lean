import Mathlib.Data.UInt

/-!
Owns the values of a C++ `float` as the records carry them: the 32 bits of IEEE 754
binary32, the tests for a finite value, and the order. Arithmetic is not owned here.
-/

namespace MissionBoard

/-- A `float`, by its bits -/
abbrev Binary32 := UInt32

namespace Binary32

/-- The value without its sign, as a number that orders finite values -/
def magnitude (value : Binary32) : ℕ := value.toNat % 2 ^ 31

/-- `std::isfinite` -/
def isFinite (value : Binary32) : Bool := decide (magnitude value < 0x7F800000)

/-- A NaN compares with nothing. -/
def isNaN (value : Binary32) : Bool := decide (0x7F800000 < magnitude value)

/-- The place of a value in the order; both zeros have the same. -/
def rank (value : Binary32) : ℤ :=
  if value.toNat < 2 ^ 31 then (magnitude value : ℤ) else -(magnitude value : ℤ)

/-- `left < right` -/
def lt (left right : Binary32) : Bool :=
  !isNaN left && !isNaN right && decide (rank left < rank right)

end Binary32

end MissionBoard
