import Mathlib.Algebra.Order.Floor.Ring
import Mathlib.Tactic.Linarith
import Mathlib.Tactic.Ring

/-!
Owns the uniform quantizer: the values that are a whole number of steps from an offset, and the
counts of steps that a rounding gives of the values in between.
-/

namespace UniformQuantizer

variable {𝕜 : Type*} [Field 𝕜] [LinearOrder 𝕜]

/-- A rounding keeps the order and every integer. -/
structure Rounding (round : 𝕜 → ℤ) : Prop where
  monotone : ∀ ⦃lower upper : 𝕜⦄, lower ≤ upper → round lower ≤ round upper
  keeps : ∀ count : ℤ, round count = count

/-- It gives a nearest integer. -/
structure Nearest (round : 𝕜 → ℤ) : Prop extends Rounding round where
  near : ∀ value : 𝕜, |(round value : 𝕜) - value| ≤ 1 / 2

/-- The value of a count -/
def value (offset bit : 𝕜) (count : ℤ) : 𝕜 := offset + count * bit

/-- The count of a value -/
def count (round : 𝕜 → ℤ) (offset bit input : 𝕜) : ℤ := round ((input - offset) / bit)

variable {round : 𝕜 → ℤ} {offset bit : 𝕜}

/-- The count of the value of a count -/
theorem count_value (rounding : Rounding round) (positive : 0 < bit) (steps : ℤ) :
    count round offset bit (value offset bit steps) = steps := by
  rw [count, value, add_sub_cancel_left, mul_div_cancel_right₀ _ positive.ne', rounding.keeps]

/-- A count is as far from its place as the rounding is from the quotient. -/
theorem value_count_sub (positive : 0 < bit) (input : 𝕜) :
    value offset bit (count round offset bit input) - input =
      ((round ((input - offset) / bit) : 𝕜) - (input - offset) / bit) * bit := by
  rw [value, count, sub_mul, div_mul_cancel₀ _ positive.ne']
  ring

variable [IsStrictOrderedRing 𝕜]

theorem rounding_floor [FloorRing 𝕜] : Rounding (Int.floor : 𝕜 → ℤ) where
  monotone := Int.floor_mono
  keeps := Int.floor_intCast

theorem value_monotone (positive : 0 < bit) ⦃first second : ℤ⦄ (le : first ≤ second) :
    value offset bit first ≤ value offset bit second := by
  unfold value
  have scaled := mul_le_mul_of_nonneg_right (Int.cast_le (R := 𝕜).mpr le) positive.le
  linarith

theorem count_monotone (rounding : Rounding round) (positive : 0 < bit) ⦃lower upper : 𝕜⦄
    (le : lower ≤ upper) : count round offset bit lower ≤ count round offset bit upper := by
  apply rounding.monotone
  exact div_le_div_of_nonneg_right (sub_le_sub_right le offset) positive.le

/-- What lies between two values has a count between theirs. -/
theorem count_mem (rounding : Rounding round) (positive : 0 < bit) {least greatest : ℤ}
    {input : 𝕜} (low : value offset bit least ≤ input) (high : input ≤ value offset bit greatest) :
    least ≤ count round offset bit input ∧ count round offset bit input ≤ greatest := by
  have lower : count round offset bit (value offset bit least) ≤ count round offset bit input :=
    count_monotone rounding positive low
  have upper : count round offset bit input ≤ count round offset bit (value offset bit greatest) :=
    count_monotone rounding positive high
  rw [count_value rounding positive] at lower upper
  exact ⟨lower, upper⟩

/-- The nearest value is within half a step. -/
theorem abs_value_count_sub_le (nearest : Nearest round) (positive : 0 < bit) (input : 𝕜) :
    |value offset bit (count round offset bit input) - input| ≤ bit / 2 := by
  rw [value_count_sub positive, abs_mul, abs_of_pos positive]
  have scaled := mul_le_mul_of_nonneg_right (nearest.near ((input - offset) / bit)) positive.le
  linarith

/-- The value below is within one step. -/
theorem value_floor_le [FloorRing 𝕜] (positive : 0 < bit) (input : 𝕜) :
    value offset bit (count Int.floor offset bit input) ≤ input ∧
      input < value offset bit (count Int.floor offset bit input) + bit := by
  have apart : value offset bit (count Int.floor offset bit input) - input = _ :=
    value_count_sub positive input
  have below := Int.floor_le ((input - offset) / bit)
  have above := Int.lt_floor_add_one ((input - offset) / bit)
  have scaled := mul_le_mul_of_nonneg_right below positive.le
  have strict := mul_lt_mul_of_pos_right above positive
  rw [add_mul] at strict
  rw [sub_mul] at apart
  constructor <;> linarith

end UniformQuantizer
