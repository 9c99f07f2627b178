import Mathlib.Data.List.Basic
import Mathlib.Logic.Function.Basic

/-!
Owns folds whose step forgets nothing: a step that is injective in the state and in the element. Two
lists that differ in one element are folded to different states, whatever follows that element.
-/

namespace InjectiveFold

variable {State Element : Type}

/-- Neither the state nor the element is forgotten by a step. -/
structure Faithful (step : State → Element → State) : Prop where
  state : ∀ element, Function.Injective fun state => step state element
  element : ∀ state, Function.Injective (step state)

namespace Faithful

variable {step : State → Element → State}

/-- A fold over the same elements keeps two states apart. -/
theorem foldl_injective (faithful : Faithful step) (elements : List Element) :
    Function.Injective fun state => elements.foldl step state := by
  induction elements with
  | nil => exact Function.injective_id
  | cons element rest inductionHypothesis =>
      exact inductionHypothesis.comp (faithful.state element)

/-- A change of one element changes the fold. -/
theorem foldl_set_ne (faithful : Faithful step) {elements : List Element} {index : ℕ}
    {element : Element} (state : State) (within : index < elements.length)
    (other : elements[index]? ≠ some element) :
    (elements.set index element).foldl step state ≠ elements.foldl step state := by
  induction elements generalizing index state with
  | nil => exact absurd within (Nat.not_lt_zero _)
  | cons first rest inductionHypothesis =>
      cases index with
      | zero =>
          intro same
          have stepped := faithful.foldl_injective rest same
          exact other (congrArg some (faithful.element state stepped).symm)
      | succ index =>
          exact inductionHypothesis (step state first) (Nat.lt_of_succ_lt_succ within) other

end Faithful

/-! ### The multiplicative step of a 32-bit hash -/

/-- A step of a hash: exclusive or with the byte, then a multiplication -/
def mix (prime hash : UInt32) (value : UInt8) : UInt32 := (hash ^^^ value.toUInt32) * prime

/-- With a multiplier that has an inverse, that is an odd one, the step forgets nothing. -/
theorem faithful_mix {prime inverse : UInt32} (inverts : prime * inverse = 1) :
    Faithful (mix prime) := by
  have cancel : ∀ left right : UInt32, left * prime = right * prime → left = right := by
    intro left right same
    have scaled := congrArg (· * inverse) same
    rwa [UInt32.mul_assoc, UInt32.mul_assoc, inverts, UInt32.mul_one, UInt32.mul_one] at scaled
  constructor
  · intro value first second same
    have mixed := cancel _ _ same
    exact (UInt32.xor_left_inj _).mp mixed
  · intro hash first second same
    have mixed := cancel _ _ same
    have wide := (UInt32.xor_right_inj _).mp mixed
    exact UInt8.toUInt32_inj.mp wide

end InjectiveFold
