import Mathlib.Algebra.Order.Round
import Mathlib.Data.Int.Log
import Mathlib.Data.Rat.Floor
import Mathlib.Tactic.Linarith
import Mathlib.Tactic.NormNum
import MissionBoard.Numeric.Double

/-!
Owns the arithmetic of a C++ `double`: the exact result is rounded to the nearest number with 53
bits, ties to even, and what is too large becomes an infinity. The sign of a zero is left out.
-/

namespace MissionBoard

namespace Double

/-- The exponent of the last bit of a number of this size -/
def lastBit (value : ℚ) : ℤ := max (Int.log 2 |value| - 52) (-1074)

/-- The nearest integer, ties to even -/
def nearestEven (value : ℚ) : ℤ :=
  if value - ⌊value⌋ < 1 / 2 ∨ (value - ⌊value⌋ = 1 / 2 ∧ ⌊value⌋ % 2 = 0) then ⌊value⌋
  else ⌊value⌋ + 1

/-- The least number that is too large -/
def overflow : ℚ := 2 ^ 1024

/-- The exact result as a `double` -/
def rounded (value : ℚ) : Double :=
  if overflow ≤ |(nearestEven (value / 2 ^ lastBit value) : ℚ) * 2 ^ lastBit value| then
    .infinite (decide (value < 0))
  else .finite ((nearestEven (value / 2 ^ lastBit value) : ℚ) * 2 ^ lastBit value)

def neg : Double → Double
  | .finite value => .finite (-value)
  | .infinite negative => .infinite !negative
  | .nan => .nan

def add : Double → Double → Double
  | .finite left, .finite right => rounded (left + right)
  | .infinite left, .infinite right => if left = right then .infinite left else .nan
  | .infinite negative, .finite _ | .finite _, .infinite negative => .infinite negative
  | .nan, _ | _, .nan => .nan

def sub (left right : Double) : Double := left.add right.neg

def mul : Double → Double → Double
  | .finite left, .finite right => rounded (left * right)
  | .infinite left, .infinite right => .infinite (xor left right)
  | .infinite negative, .finite value | .finite value, .infinite negative =>
      if value = 0 then .nan else .infinite (xor negative (decide (value < 0)))
  | .nan, _ | _, .nan => .nan

/-- A quotient. A zero divisor counts as a positive zero. -/
def div : Double → Double → Double
  | .finite left, .finite right =>
      if right = 0 then if left = 0 then .nan else .infinite (decide (left < 0))
      else rounded (left / right)
  | .finite _, .infinite _ => .zero
  | .infinite negative, .finite value => .infinite (xor negative (decide (value < 0)))
  | .infinite _, .infinite _ | .nan, _ | _, .nan => .nan

/-- `left < right` -/
def lt : Double → Double → Bool
  | .finite left, .finite right => decide (left < right)
  | .infinite left, .infinite right => left && !right
  | .infinite negative, .finite _ => negative
  | .finite _, .infinite negative => !negative
  | .nan, _ | _, .nan => false

/-- `static_cast<double>` of an integer -/
def ofInt (value : ℤ) : Double := rounded value

/-- The nearest integer, ties away from zero -/
def nearestAway (value : ℚ) : ℤ :=
  if 0 ≤ value then ⌊value + 1 / 2⌋ else ⌈value - 1 / 2⌉

/-- A `long` of the target, which has 32 bits -/
def IsLong (value : ℤ) : Prop := -2 ^ 31 ≤ value ∧ value < 2 ^ 31

instance (value : ℤ) : Decidable (IsLong value) := inferInstanceAs (Decidable (_ ∧ _))

/-- `std::lround`; what it gives where no `long` holds the result is not specified. -/
def lround (unspecified : Double → ℤ) : Double → ℤ
  | .finite value =>
      if IsLong (nearestAway value) then nearestAway value else unspecified (.finite value)
  | .infinite negative => unspecified (.infinite negative)
  | .nan => unspecified .nan

/-- `std::floor` as an integer -/
def floor : Double → ℤ
  | .finite value => ⌊value⌋
  | .infinite _ | .nan => 0

/-- A finite value of at most this size -/
def Within (limit : ℚ) (double : Double) : Prop := ∃ value, double = .finite value ∧ |value| ≤ limit

theorem isFinite_of_within {limit : ℚ} {double : Double} (within : double.Within limit) :
    double.isFinite = true := by
  obtain ⟨value, rfl, -⟩ := within
  rfl

theorem Within.mono {lower upper : ℚ} {double : Double} (within : double.Within lower)
    (le : lower ≤ upper) : double.Within upper := by
  obtain ⟨value, same, small⟩ := within
  exact ⟨value, same, small.trans le⟩

theorem abs_nearestEven_sub_le (value : ℚ) : |(nearestEven value : ℚ) - value| ≤ 1 / 2 := by
  have lower := Int.floor_le value
  have upper := Int.lt_floor_add_one value
  unfold nearestEven
  split
  · rename_i down
    have close : value - ⌊value⌋ ≤ 1 / 2 := down.elim le_of_lt fun tie => tie.1.le
    rw [abs_le]
    constructor <;> linarith
  · rename_i up
    have far : 1 / 2 ≤ value - ⌊value⌋ := by
      by_contra close
      exact up (Or.inl (not_le.mp close))
    push_cast
    rw [abs_le]
    constructor <;> linarith

/-- The last bit of a number is not greater than the number, or tiny. -/
theorem two_zpow_lastBit_le {value limit : ℚ} (small : |value| ≤ limit) (one : 1 ≤ limit) :
    (2 : ℚ) ^ lastBit value ≤ limit := by
  have least : (2 : ℚ) ^ (-1074 : ℤ) ≤ limit :=
    (zpow_le_one_of_nonpos₀ one_le_two (by decide)).trans one
  rcases max_cases (Int.log 2 |value| - 52) (-1074) with ⟨same, -⟩ | ⟨same, -⟩
  · rw [lastBit, same]
    rcases (abs_nonneg value).eq_or_lt with zero | positive
    · rw [← zero, Int.log_zero_right]
      exact (zpow_le_one_of_nonpos₀ one_le_two (by decide)).trans one
    · have log := Int.zpow_log_le_self (R := ℚ) (b := 2) one_lt_two positive
      calc (2 : ℚ) ^ (Int.log 2 |value| - 52) ≤ 2 ^ Int.log 2 |value| :=
            zpow_le_zpow_right₀ one_le_two (by omega)
        _ ≤ |value| := by exact_mod_cast log
        _ ≤ limit := small
  · rw [lastBit, same]
    exact least

/-- The nearest multiple of the last bit is off by half of it at most. -/
theorem abs_nearestMultiple_sub_le (value : ℚ) :
    |(nearestEven (value / 2 ^ lastBit value) : ℚ) * 2 ^ lastBit value - value| ≤
      2 ^ lastBit value / 2 := by
  have bit : (0 : ℚ) < 2 ^ lastBit value := zpow_pos two_pos _
  have near := abs_nearestEven_sub_le (value / 2 ^ lastBit value)
  have scaled : (nearestEven (value / 2 ^ lastBit value) : ℚ) * 2 ^ lastBit value - value =
      ((nearestEven (value / 2 ^ lastBit value) : ℚ) - value / 2 ^ lastBit value) *
        2 ^ lastBit value := by
    rw [sub_mul, div_mul_cancel₀ _ bit.ne']
  rw [scaled, abs_mul, abs_of_pos bit]
  calc _ ≤ 1 / 2 * (2 : ℚ) ^ lastBit value := mul_le_mul_of_nonneg_right near bit.le
    _ = 2 ^ lastBit value / 2 := by ring

/-- So is a rounded value that is finite. -/
theorem abs_rounded_sub_le {value result : ℚ} (found : rounded value = .finite result) :
    |result - value| ≤ 2 ^ lastBit value / 2 := by
  unfold rounded at found
  split at found
  · cases found
  · obtain rfl := Double.finite.inj found
    exact abs_nearestMultiple_sub_le value

/-- The last bit of a number below a power of two -/
theorem lastBit_le {value : ℚ} {exponent : ℤ} (small : |value| < 2 ^ exponent)
    (one : 1 ≤ exponent) : lastBit value ≤ exponent - 53 := by
  have log : Int.log 2 |value| < exponent := by
    rcases (abs_nonneg value).eq_or_lt with zero | positive
    · rw [← zero, Int.log_zero_right]
      omega
    · exact (Int.lt_zpow_iff_log_lt (b := 2) one_lt_two positive).mp (by exact_mod_cast small)
  exact max_le (by omega) (by omega)

/-- Rounding at most doubles a bound. -/
theorem within_rounded {value limit : ℚ} (small : |value| ≤ limit) (one : 1 ≤ limit)
    (finite : 2 * limit < overflow) : (rounded value).Within (2 * limit) := by
  have near := abs_nearestMultiple_sub_le value
  have size := two_zpow_lastBit_le small one
  have total : |(nearestEven (value / 2 ^ lastBit value) : ℚ) * 2 ^ lastBit value| ≤ 2 * limit := by
    rw [abs_le] at near small ⊢
    constructor <;> linarith
  refine ⟨_, if_neg (not_le.mpr (total.trans_lt finite)), total⟩

/-- Below a power of two a rounded value is finite and off by half of a last bit at most. -/
theorem rounded_near (value : ℚ) (exponent : ℕ) (small : |value| < 2 ^ exponent)
    (one : 1 ≤ exponent) (finite : exponent ≤ 1000) :
    ∃ result, rounded value = .finite result ∧
      |result - value| ≤ 2 ^ ((exponent : ℤ) - 53) / 2 := by
  have bit : lastBit value ≤ (exponent : ℤ) - 53 :=
    lastBit_le (by exact_mod_cast small) (by exact_mod_cast one)
  have bound : (2 : ℚ) ^ lastBit value ≤ 2 ^ ((exponent : ℤ) - 53) :=
    zpow_le_zpow_right₀ one_le_two bit
  have room : 2 * (2 : ℚ) ^ exponent < overflow := by
    rw [← pow_succ']
    exact pow_lt_pow_right₀ one_lt_two (by omega)
  obtain ⟨result, found, -⟩ := within_rounded small.le (one_le_pow₀ one_le_two) room
  refine ⟨result, found, (abs_rounded_sub_le found).trans ?_⟩
  linarith

theorem within_neg {limit : ℚ} {double : Double} (within : double.Within limit) :
    double.neg.Within limit := by
  obtain ⟨value, rfl, small⟩ := within
  exact ⟨-value, rfl, by rwa [abs_neg]⟩

theorem within_add {left right : Double} {first second : ℚ} (small : left.Within first)
    (little : right.Within second) (one : 1 ≤ first + second)
    (finite : 2 * (first + second) < overflow) :
    (left.add right).Within (2 * (first + second)) := by
  obtain ⟨value, rfl, bound⟩ := small
  obtain ⟨other, rfl, limit⟩ := little
  exact within_rounded ((abs_add_le value other).trans (add_le_add bound limit)) one finite

theorem within_sub {left right : Double} {first second : ℚ} (small : left.Within first)
    (little : right.Within second) (one : 1 ≤ first + second)
    (finite : 2 * (first + second) < overflow) :
    (left.sub right).Within (2 * (first + second)) :=
  within_add small (within_neg little) one finite

theorem within_mul {left right : Double} {first second : ℚ} (small : left.Within first)
    (little : right.Within second) (one : 1 ≤ first * second)
    (finite : 2 * (first * second) < overflow) :
    (left.mul right).Within (2 * (first * second)) := by
  obtain ⟨value, rfl, bound⟩ := small
  obtain ⟨other, rfl, limit⟩ := little
  refine within_rounded ?_ one finite
  rw [abs_mul]
  exact mul_le_mul bound limit (abs_nonneg _) ((abs_nonneg _).trans bound)

end Double

end MissionBoard
