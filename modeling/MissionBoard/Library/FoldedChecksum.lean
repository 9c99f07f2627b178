import Mathlib.Data.Nat.Notation

/-!
Owns the fold of a 64-bit word to sixteen bits by exclusive or, and what it does to the
flip of one bit. The fold is linear, so a flip shows exactly when the fold of what it changes
in the word is not zero.
-/

namespace FoldedChecksum

/-- The word folded to sixteen bits -/
def fold (value : UInt64) : UInt16 :=
  let value := value ^^^ (value >>> 32)
  let value := value ^^^ (value >>> 16)
  value.toUInt16

/-- What a 64-bit field contributes that enters the word once more, shifted by half. -/
def halves (field : UInt64) : UInt64 := field ^^^ (field >>> 32)

/-- One bit of a word -/
def bit64 (position : Fin 64) : UInt64 := 1 <<< UInt64.ofNat position

def bit32 (position : Fin 32) : UInt32 := 1 <<< UInt32.ofNat position

def bit16 (position : Fin 16) : UInt16 := 1 <<< UInt16.ofNat position

def bit8 (position : Fin 8) : UInt8 := 1 <<< UInt8.ofNat position

theorem fold_xor (left right : UInt64) : fold (left ^^^ right) = fold left ^^^ fold right := by
  simp only [fold, UInt64.shiftRight_xor, UInt64.toUInt16_xor]
  ac_rfl

theorem halves_xor (left right : UInt64) :
    halves (left ^^^ right) = halves left ^^^ halves right := by
  simp only [halves, UInt64.shiftRight_xor]
  ac_rfl

/-- A checksum changes with the word exactly when the fold of the difference is not zero. -/
theorem fold_xor_eq_iff (value change : UInt64) :
    fold (value ^^^ change) = fold value ↔ fold change = 0 := by
  rw [fold_xor]
  constructor
  · intro same
    rw [← UInt16.xor_right_inj (fold value), same, UInt16.xor_zero]
  · intro nothing
    rw [nothing, UInt16.xor_zero]

/-- What the contributions of a record's fields add up to -/
def total : List UInt64 → UInt64
  | [] => 0
  | contribution :: rest => contribution ^^^ total rest

/-- A change of one contribution is a change of the total. -/
theorem total_modify {contributions : List UInt64} {index : ℕ} (change : UInt64)
    (within : index < contributions.length) :
    total (contributions.modify index (· ^^^ change)) = total contributions ^^^ change := by
  induction contributions generalizing index with
  | nil => exact absurd within (Nat.not_lt_zero _)
  | cons contribution rest inductionHypothesis =>
      cases index with
      | zero =>
          show contribution ^^^ change ^^^ total rest = contribution ^^^ total rest ^^^ change
          rw [UInt64.xor_assoc, UInt64.xor_comm change, ← UInt64.xor_assoc]
      | succ index =>
          show contribution ^^^ total (rest.modify index _) = contribution ^^^ total rest ^^^ change
          rw [inductionHypothesis (Nat.lt_of_succ_lt_succ within), UInt64.xor_assoc]

/-- What a flag contributes -/
def flagged (flag : Bool) (set clear : UInt64) : UInt64 := if flag then set else clear

/-- A flag changes the word by both of its contributions. -/
theorem flagged_not (flag : Bool) (set clear : UInt64) :
    flagged (!flag) set clear = flagged flag set clear ^^^ (set ^^^ clear) := by
  cases flag with
  | false =>
      show set = clear ^^^ (set ^^^ clear)
      rw [UInt64.xor_comm set, ← UInt64.xor_assoc, UInt64.xor_self, UInt64.zero_xor]
  | true =>
      show clear = set ^^^ (set ^^^ clear)
      rw [← UInt64.xor_assoc, UInt64.xor_self, UInt64.zero_xor]

/-! ### One bit -/

/-- A bit of the upper half meets itself in the fold and is gone. -/
theorem fold_halves_bit64_eq_zero_iff (position : Fin 64) :
    fold (halves (bit64 position)) = 0 ↔ 32 ≤ position.val := by
  revert position
  decide

theorem bit16_ne (position : Fin 16) : bit16 position ≠ 0 := by
  revert position
  decide

theorem fold_bit32_ne (position : Fin 32) : fold (bit32 position).toUInt64 ≠ 0 := by
  revert position
  decide

theorem fold_bit16_shifted_ne (position : Fin 16) :
    fold ((bit16 position).toUInt32 <<< 16).toUInt64 ≠ 0 := by
  revert position
  decide

/-- An eight-bit field that enters the word at a multiple of eight is seen in each place. -/
theorem fold_bit8_shifted_ne (position : Fin 8) :
    fold (bit8 position).toUInt64 ≠ 0 ∧
      fold ((bit8 position).toUInt32 <<< 8).toUInt64 ≠ 0 ∧
      fold ((bit8 position).toUInt32 <<< 16).toUInt64 ≠ 0 ∧
      fold ((bit8 position).toUInt32 <<< 24).toUInt64 ≠ 0 := by
  revert position
  decide

/-- A field that was changed is another value. -/
theorem xor_ne16 {field change : UInt16} (some : change ≠ 0) : field ^^^ change ≠ field := by
  intro same
  exact some ((UInt16.xor_right_inj field).mp (by rw [same, UInt16.xor_zero]))

/-! ### Records that store the fold -/

section Sealed

variable {Record : Type} {valid : Record → Bool} {sum : Record → UInt64}
  {stored : Record → UInt16}

/-- A valid record stores the fold of its word. -/
def Sealed (valid : Record → Bool) (sum : Record → UInt64) (stored : Record → UInt16) : Prop :=
  ∀ record, valid record = true → stored record = fold (sum record)

/-- A change of the word that the fold sees is rejected. -/
theorem Sealed.rejects {record changed : Record} {change : UInt64}
    (isSealed : Sealed valid sum stored) (accepted : valid record = true)
    (word : sum changed = sum record ^^^ change) (kept : stored changed = stored record)
    (seen : fold change ≠ 0) : valid changed ≠ true := by
  intro still
  have same : fold (sum record ^^^ change) = fold (sum record) := by
    rw [← word, ← isSealed changed still, kept, isSealed record accepted]
  exact seen ((fold_xor_eq_iff _ _).mp same)

/-- A change of the stored fold alone is rejected. -/
theorem Sealed.rejects_stored {record changed : Record} {change : UInt16}
    (isSealed : Sealed valid sum stored) (accepted : valid record = true)
    (word : sum changed = sum record) (other : stored changed = stored record ^^^ change)
    (some : change ≠ 0) : valid changed ≠ true := by
  intro still
  have same : stored record ^^^ change = stored record := by
    rw [← other, isSealed changed still, word, isSealed record accepted]
  exact xor_ne16 some same

end Sealed

end FoldedChecksum
