import Mathlib.Data.BitVec
import Mathlib.Data.List.GetD
import Mathlib.Logic.Function.Iterate

/-!
Owns the cyclic redundancy check as a register of any width that the bits of a message enter
at its low end. The register is linear in exclusive or, and a polynomial with its top bit set
makes a shift injective; an error no longer than the register therefore leaves a trace that
no later bit removes.
-/

namespace Crc

variable {w : ℕ}

/-- One shift of the register. The polynomial is reflected. -/
def shift (poly crc : BitVec w) : BitVec w :=
  (crc >>> 1) ^^^ (if crc.getLsbD 0 then poly else 0#w)

/-- A bit at the low end of the register -/
def low (bit : Bool) : BitVec w := BitVec.ofNat w bit.toNat

/-- The register after the bits, the first of which enters first -/
def feed (poly crc : BitVec w) (bits : List Bool) : BitVec w :=
  bits.foldl (fun crc bit => shift poly (crc ^^^ low bit)) crc

/-- The word whose low bits these are -/
def ofBits : List Bool → BitVec w
  | [] => 0#w
  | bit :: rest => low bit ^^^ (ofBits rest <<< 1)

/-- The bits of a byte, the lowest first -/
def byteBits (byte : BitVec 8) : List Bool := (List.range 8).map byte.getLsbD

variable {poly crc change : BitVec w} {bits : List Bool}

@[simp] theorem feed_nil : feed poly crc [] = crc := rfl

@[simp] theorem feed_cons (bit : Bool) : feed poly crc (bit :: bits) =
    feed poly (shift poly (crc ^^^ low bit)) bits := rfl

theorem feed_append (first second : List Bool) :
    feed poly crc (first ++ second) = feed poly (feed poly crc first) second :=
  List.foldl_append

@[simp] theorem length_byteBits (byte : BitVec 8) : (byteBits byte).length = 8 := rfl

/-! ### The shift -/

theorem shift_xor (left right : BitVec w) :
    shift poly (left ^^^ right) = shift poly left ^^^ shift poly right := by
  unfold shift
  rw [BitVec.ushiftRight_xor_distrib, BitVec.getLsbD_xor]
  cases left.getLsbD 0 <;> cases right.getLsbD 0
  · simp
  · simp [BitVec.xor_assoc]
  · simp only [Bool.xor_false, if_true, Bool.false_eq_true, if_false, BitVec.xor_zero]
    rw [BitVec.xor_assoc, BitVec.xor_assoc, BitVec.xor_comm poly]
  · simp only [Bool.xor_self, Bool.false_eq_true, if_false, if_true, BitVec.xor_zero]
    rw [BitVec.xor_comm (right >>> 1) poly, ← BitVec.xor_assoc,
      BitVec.xor_assoc (left >>> 1) poly poly, BitVec.xor_self, BitVec.xor_zero]

@[simp] theorem shift_zero : shift poly 0#w = 0#w := by
  simp [shift]

/-- A shift takes only the empty register to the empty register, when the polynomial puts the
bit that left back at the top. -/
theorem shift_eq_zero_iff (top : poly.getLsbD (w - 1) = true) : shift poly crc = 0#w ↔ crc = 0#w := by
  constructor
  · intro gone
    have wide : 0 < w := by
      by_contra none
      obtain rfl : w = 0 := by omega
      exact absurd top (by simp)
    have low : crc.getLsbD 0 = false := by
      by_contra set
      have topBit := congrArg (fun word : BitVec w => word.getLsbD (w - 1)) gone
      simp only [shift, Bool.not_eq_false _ ▸ set, if_true, BitVec.getLsbD_xor,
        BitVec.getLsbD_ushiftRight, top] at topBit
      rw [BitVec.getLsbD_of_ge crc _ (by omega)] at topBit
      simp at topBit
    rw [shift, low, if_neg (by decide), BitVec.xor_zero] at gone
    apply BitVec.eq_of_getLsbD_eq
    intro index within
    cases index with
    | zero => rw [low, BitVec.getLsbD_zero]
    | succ index =>
        have bit := congrArg (fun word : BitVec w => word.getLsbD index) gone
        simp only [BitVec.getLsbD_ushiftRight, BitVec.getLsbD_zero] at bit
        rwa [BitVec.getLsbD_zero, Nat.add_comm]
  · rintro rfl
    exact shift_zero

theorem iterate_shift_eq_zero_iff (top : poly.getLsbD (w - 1) = true) (count : ℕ) :
    (shift poly)^[count] crc = 0#w ↔ crc = 0#w := by
  induction count generalizing crc with
  | zero => rfl
  | succ count inductionHypothesis =>
      rw [Function.iterate_succ_apply, inductionHypothesis, shift_eq_zero_iff top]

theorem iterate_shift_xor (count : ℕ) (left right : BitVec w) :
    (shift poly)^[count] (left ^^^ right) =
      (shift poly)^[count] left ^^^ (shift poly)^[count] right := by
  induction count generalizing left right with
  | zero => rfl
  | succ count inductionHypothesis =>
      simp only [Function.iterate_succ_apply, shift_xor, inductionHypothesis]

/-- A register whose low end is clear is only moved. -/
theorem iterate_shift_of_clear {count : ℕ} (clear : ∀ index < count, crc.getLsbD index = false) :
    (shift poly)^[count] crc = crc >>> count := by
  induction count generalizing crc with
  | zero => simp
  | succ count inductionHypothesis =>
      have moved : shift poly crc = crc >>> 1 := by
        rw [shift, clear 0 (Nat.zero_lt_succ _), if_neg (by decide), BitVec.xor_zero]
      have clearAfter : ∀ index < count, (crc >>> 1).getLsbD index = false := by
        intro index below
        rw [BitVec.getLsbD_ushiftRight]
        exact clear (1 + index) (by omega)
      rw [Function.iterate_succ_apply, moved, inductionHypothesis clearAfter,
        ← BitVec.shiftRight_add, Nat.add_comm]

/-- The rule of a table: the shifts take what stands above the low end down, and add what they
make of the low end alone. -/
theorem iterate_shift_eq_table {count : ℕ} (crc : BitVec w) :
    (shift poly)^[count] crc =
      (crc >>> count) ^^^ (shift poly)^[count] ((crc.setWidth count).setWidth w) := by
  have low : ∀ index, ((crc.setWidth count).setWidth w).getLsbD index =
      (decide (index < count) && crc.getLsbD index) := by
    intro index
    by_cases within : index < w
    · simp [BitVec.getLsbD_setWidth, within]
    · rw [BitVec.getLsbD_of_ge _ _ (by omega), BitVec.getLsbD_of_ge crc _ (by omega),
        Bool.and_false]
  have split : crc = (crc ^^^ (crc.setWidth count).setWidth w) ^^^
      (crc.setWidth count).setWidth w := by
    rw [BitVec.xor_assoc, BitVec.xor_self, BitVec.xor_zero]
  have clear : ∀ index < count,
      (crc ^^^ (crc.setWidth count).setWidth w).getLsbD index = false := by
    intro index below
    rw [BitVec.getLsbD_xor, low]
    simp [below]
  have above : (crc ^^^ (crc.setWidth count).setWidth w) >>> count = crc >>> count := by
    apply BitVec.eq_of_getLsbD_eq
    intro index within
    rw [BitVec.getLsbD_ushiftRight, BitVec.getLsbD_ushiftRight, BitVec.getLsbD_xor, low,
      decide_eq_false (Nat.not_lt_of_le (Nat.le_add_right count index)), Bool.false_and,
      Bool.xor_false]
  calc (shift poly)^[count] crc
      = (shift poly)^[count] (crc ^^^ (crc.setWidth count).setWidth w) ^^^
          (shift poly)^[count] ((crc.setWidth count).setWidth w) := by
        rw [← iterate_shift_xor, ← split]
    _ = _ := by rw [iterate_shift_of_clear clear, above]

/-! ### Linearity -/

theorem low_xor (left right : Bool) : (low (left ^^ right) : BitVec w) = low left ^^^ low right := by
  cases left <;> cases right <;> simp [low]

/-- The registers of two messages differ by the register of their difference. -/
theorem feed_xor {first second : List Bool} (same : first.length = second.length) :
    feed poly (crc ^^^ change) (List.zipWith xor first second) =
      feed poly crc first ^^^ feed poly change second := by
  induction first generalizing second crc change with
  | nil =>
      obtain rfl := List.length_eq_zero_iff.mp same.symm
      rfl
  | cons bit rest inductionHypothesis =>
      cases second with
      | nil => cases same
      | cons other others =>
          rw [List.zipWith_cons_cons, feed_cons, feed_cons, feed_cons,
            ← inductionHypothesis (Nat.succ.inj same), ← shift_xor, low_xor]
          congr 2
          rw [BitVec.xor_assoc, BitVec.xor_assoc, ← BitVec.xor_assoc change,
            BitVec.xor_comm change (low bit), BitVec.xor_assoc]

/-- Bits that are not set only shift the register. -/
theorem feed_of_clear (clear : ∀ bit ∈ bits, bit = false) :
    feed poly crc bits = (shift poly)^[bits.length] crc := by
  induction bits generalizing crc with
  | nil => rfl
  | cons bit rest inductionHypothesis =>
      obtain rfl : bit = false := clear bit List.mem_cons_self
      rw [feed_cons, inductionHypothesis fun later within =>
        clear later (List.mem_cons_of_mem _ within)]
      simp [low]

/-! ### A few bits -/

theorem getLsbD_ofBits (bits : List Bool) {index : ℕ} (within : index < w) :
    (ofBits bits : BitVec w).getLsbD index = bits.getD index false := by
  induction bits generalizing index with
  | nil => simp [ofBits]
  | cons bit rest inductionHypothesis =>
      rw [ofBits, BitVec.getLsbD_xor, BitVec.getLsbD_shiftLeft]
      cases index with
      | zero => cases bit <;> simp [low, within]
      | succ index =>
          rw [inductionHypothesis (by omega)]
          cases bit <;> simp [low, within]

/-- As many bits as the register is wide enter it all at once. -/
theorem feed_eq_iterate (short : bits.length ≤ w) :
    feed poly crc bits = (shift poly)^[bits.length] (crc ^^^ ofBits bits) := by
  induction bits generalizing crc with
  | nil => simp [ofBits]
  | cons bit rest inductionHypothesis =>
      have fits : rest.length < w := short
      -- the register's top bit is still free for the later bits
      have moved : shift poly (ofBits rest <<< 1) = ofBits rest := by
        unfold shift
        rw [BitVec.getLsbD_shiftLeft]
        simp only [Nat.lt_one_iff, decide_true, Bool.not_true, Bool.and_false, Bool.false_and,
          Bool.false_eq_true, if_false, BitVec.xor_zero]
        apply BitVec.eq_of_getLsbD_eq
        intro index within
        rw [BitVec.getLsbD_ushiftRight, BitVec.getLsbD_shiftLeft]
        by_cases last : 1 + index < w
        · simp [last]
        · rw [getLsbD_ofBits rest within, List.getD_eq_default _ _ (by omega)]
          simp [last]
      rw [feed_cons, inductionHypothesis (by omega), List.length_cons, Function.iterate_succ_apply,
        ofBits, ← BitVec.xor_assoc, shift_xor _ (ofBits rest <<< 1), moved]

/-! ### Bytes -/

theorem getD_byteBits (byte : BitVec 8) (index : ℕ) :
    (byteBits byte).getD index false = byte.getLsbD index := by
  by_cases within : index < 8
  · rw [List.getD_eq_getElem _ _ (by simpa using within)]
    simp [byteBits]
  · rw [List.getD_eq_default _ _ (by simpa using within), BitVec.getLsbD_of_ge _ _ (by omega)]

/-- The number that the bytes give, the lowest first -/
def littleEndian : List (BitVec 8) → ℕ
  | [] => 0
  | byte :: rest => 2 ^ 8 * littleEndian rest + byte.toNat

theorem testBit_littleEndian (bytes : List (BitVec 8)) (index : ℕ) :
    (littleEndian bytes).testBit index = (bytes.flatMap byteBits).getD index false := by
  induction bytes generalizing index with
  | nil => simp [littleEndian]
  | cons byte rest inductionHypothesis =>
      rw [littleEndian, Nat.testBit_two_pow_mul_add _ byte.isLt, List.flatMap_cons]
      by_cases within : index < 8
      · rw [if_pos within, List.getD_append _ _ _ _ (by simpa using within), getD_byteBits]
        rfl
      · rw [if_neg within, List.getD_append_right _ _ _ _ (by simpa using within),
          inductionHypothesis, length_byteBits]

/-- The bits of a few bytes are the word that they give. -/
theorem ofBits_flatMap (bytes : List (BitVec 8)) :
    (ofBits (bytes.flatMap byteBits) : BitVec w) = BitVec.ofNat w (littleEndian bytes) := by
  apply BitVec.eq_of_getLsbD_eq
  intro index within
  rw [getLsbD_ofBits _ within, BitVec.getLsbD_ofNat, testBit_littleEndian]
  simp [within]

theorem length_flatMap_byteBits (bytes : List (BitVec 8)) :
    (bytes.flatMap byteBits).length = 8 * bytes.length := by
  induction bytes with
  | nil => rfl
  | cons byte rest inductionHypothesis =>
      rw [List.flatMap_cons, List.length_append, inductionHypothesis, length_byteBits,
        List.length_cons]
      omega

/-- A bit of a message stands in its byte. -/
theorem getD_flatMap_byteBits (bytes : List (BitVec 8)) (index : ℕ) :
    (bytes.flatMap byteBits).getD index false = (bytes.getD (index / 8) 0#8).getLsbD (index % 8) := by
  induction bytes generalizing index with
  | nil => simp
  | cons byte rest inductionHypothesis =>
      rw [List.flatMap_cons]
      by_cases within : index < 8
      · rw [List.getD_append _ _ _ _ (by simpa using within), getD_byteBits,
          Nat.div_eq_of_lt within, Nat.mod_eq_of_lt within, List.getD_cons_zero]
      · obtain ⟨later, rfl⟩ := Nat.exists_eq_add_of_le (not_lt.mp within)
        rw [List.getD_append_right _ _ _ _ (by simp), length_byteBits, inductionHypothesis,
          Nat.add_sub_cancel_left, Nat.add_mod_left, Nat.add_div_left _ (by decide),
          List.getD_cons_succ]

/-- One byte: eight shifts of what it makes of the low end -/
theorem feed_byteBits (wide : 8 ≤ w) (byte : BitVec 8) :
    feed poly crc (byteBits byte) = (shift poly)^[8] (crc ^^^ byte.setWidth w) := by
  have word : ofBits (byteBits byte) = byte.setWidth w := by
    have whole := @ofBits_flatMap w [byte]
    rw [List.flatMap_singleton] at whole
    rw [whole, ← BitVec.ofNat_toNat]
    simp [littleEndian]
  rw [feed_eq_iterate (by simpa using wide), word, length_byteBits]

/-- An error burst no longer than the register is wide leaves a register that is not empty. -/
theorem feed_burst_ne (top : poly.getLsbD (w - 1) = true) {before burst after : List Bool}
    (clearBefore : ∀ bit ∈ before, bit = false) (short : burst.length ≤ w)
    (set : true ∈ burst) (clearAfter : ∀ bit ∈ after, bit = false) :
    feed poly 0#w (before ++ burst ++ after) ≠ 0#w := by
  rw [feed_append, feed_append, feed_of_clear clearAfter, feed_of_clear clearBefore,
    feed_eq_iterate short, Ne, iterate_shift_eq_zero_iff top, iterate_shift_eq_zero_iff top]
  intro none
  obtain ⟨index, within, isSet⟩ := List.getElem_of_mem set
  have start : (shift poly)^[before.length] 0#w = 0#w := (iterate_shift_eq_zero_iff top _).mpr rfl
  rw [start, BitVec.zero_xor] at none
  have bit := @getLsbD_ofBits w burst index (by omega)
  rw [none, BitVec.getLsbD_zero, List.getD_eq_getElem _ _ within, isSet] at bit
  exact absurd bit (by decide)

/-- The same for the bits of a whole message: those that are set stand within the width of the
register. -/
theorem feed_window_ne (top : poly.getLsbD (w - 1) = true) {start : ℕ}
    (window : ∀ index, bits.getD index false = true → start ≤ index ∧ index < start + w)
    (set : true ∈ bits) : feed poly 0#w bits ≠ 0#w := by
  have split : bits = bits.take start ++ (bits.drop start).take w ++ (bits.drop start).drop w := by
    rw [List.append_assoc, List.take_append_drop, List.take_append_drop]
  have outside : ∀ index (within : index < bits.length),
      ¬ (start ≤ index ∧ index < start + w) → bits[index] = false := by
    intro index within beyond
    by_contra isSet
    rw [Bool.not_eq_false] at isSet
    exact beyond (window index (by rw [List.getD_eq_getElem _ _ within, isSet]))
  have before : ∀ bit ∈ bits.take start, bit = false := by
    intro bit early
    obtain ⟨index, within, rfl⟩ := List.getElem_of_mem early
    rw [List.length_take] at within
    rw [List.getElem_take]
    exact outside index (by omega) (by omega)
  have after : ∀ bit ∈ (bits.drop start).drop w, bit = false := by
    intro bit late
    obtain ⟨index, within, rfl⟩ := List.getElem_of_mem late
    simp only [List.length_drop] at within
    rw [List.getElem_drop, List.getElem_drop]
    exact outside _ (by omega) (by omega)
  have burst : true ∈ (bits.drop start).take w := by
    rw [split, List.mem_append, List.mem_append] at set
    rcases set with (early | inWindow) | late
    · exact absurd (before true early) (by decide)
    · exact inWindow
    · exact absurd (after true late) (by decide)
  rw [split]
  exact feed_burst_ne top before (List.length_take_le _ _) burst after

end Crc
