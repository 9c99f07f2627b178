import MissionBoard.Bringup.FrameBytes
import MissionBoard.Library.Crc

/-!
Owns frames whose bytes are altered on their way: which alterations the host notices and which it does not.
The checksum takes the bits of a byte from the highest on, but its own low byte is sent first, so that it
promises nothing of an alteration that reaches from the payload into it.
-/

namespace MissionBoard.Bringup

open LittleEndian

/-! ### The checksum of altered bytes -/

/-- The polynomial of `crc16`, from its low bit on -/
def crc16Polynomial : BitVec 16 := 0x8408#16

/-- The bits of a few bytes, the highest of each first -/
def enteringBits (bytes : List UInt8) : List Bool :=
  (bytes.map fun byte => byte.toBitVec.reverse).flatMap Crc.byteBits

theorem enteringBits_cons (byte : UInt8) (rest : List UInt8) :
    enteringBits (byte :: rest) = Crc.byteBits byte.toBitVec.reverse ++ enteringBits rest := rfl

theorem reverse_xor {w : ℕ} (left right : BitVec w) :
    (left ^^^ right).reverse = left.reverse ^^^ right.reverse := by
  apply BitVec.eq_of_getLsbD_eq
  intro index within
  simp [BitVec.getLsbD_reverse]

theorem reverse_shiftLeft {w : ℕ} (word : BitVec w) (count : ℕ) :
    (word <<< count).reverse = word.reverse >>> count := by
  apply BitVec.eq_of_getLsbD_eq
  intro index within
  rw [BitVec.getLsbD_reverse, BitVec.getMsbD_shiftLeft, BitVec.getLsbD_ushiftRight,
    BitVec.getLsbD_reverse, Nat.add_comm]

theorem reverse_crc16Bit (crc : UInt16) :
    (crc16Bit crc).toBitVec.reverse = Crc.shift crc16Polynomial crc.toBitVec.reverse := by
  have top : crc &&& 0x8000 ≠ 0 ↔ crc.toBitVec.reverse.getLsbD 0 = true := by
    have bit : crc.toNat &&& 0x8000 = (crc.toNat.testBit 15).toNat * 2 ^ 15 :=
      Nat.and_two_pow crc.toNat 15
    have there : crc.toBitVec.reverse.getLsbD 0 = crc.toNat.testBit 15 := by
      rw [BitVec.getLsbD_reverse, BitVec.getMsbD_eq_getLsbD]
      rfl
    have masked : (crc &&& 0x8000).toNat = crc.toNat &&& 0x8000 := UInt16.toNat_and _ _
    rw [Ne, ← UInt16.toNat_inj, masked, bit, there]
    cases crc.toNat.testBit 15 <;> simp
  unfold crc16Bit Crc.shift
  by_cases set : crc &&& 0x8000 ≠ 0
  · rw [if_pos set, if_pos (top.mp set), UInt16.toBitVec_xor, reverse_xor]
    exact congrArg₂ _ (reverse_shiftLeft crc.toBitVec 1) rfl
  · rw [if_neg set, if_neg (mt top.mpr set), BitVec.xor_zero]
    exact reverse_shiftLeft crc.toBitVec 1

theorem reverse_entered (byte : BitVec 8) :
    (byte.setWidth 16 <<< 8).reverse = byte.reverse.setWidth 16 := by
  apply BitVec.eq_of_getLsbD_eq
  intro index within
  rw [BitVec.getLsbD_reverse, BitVec.getMsbD_shiftLeft, BitVec.getLsbD_setWidth,
    BitVec.getLsbD_reverse]
  simp [BitVec.getMsbD_setWidth, within]

theorem reverse_crc16Byte (crc : UInt16) (byte : UInt8) :
    (crc16Byte crc byte).toBitVec.reverse =
      Crc.feed crc16Polynomial crc.toBitVec.reverse (Crc.byteBits byte.toBitVec.reverse) := by
  have steps : Function.Semiconj (fun crc : UInt16 => crc.toBitVec.reverse) crc16Bit
      (Crc.shift crc16Polynomial) := reverse_crc16Bit
  rw [Crc.feed_byteBits (by decide), ← reverse_entered, ← reverse_xor]
  exact (steps.iterate_right 8).eq _

theorem reverse_foldl_crc16Byte (bytes : List UInt8) (crc : UInt16) :
    (bytes.foldl crc16Byte crc).toBitVec.reverse =
      Crc.feed crc16Polynomial crc.toBitVec.reverse (enteringBits bytes) := by
  induction bytes generalizing crc with
  | nil => rfl
  | cons byte rest inductionHypothesis =>
      rw [List.foldl_cons, inductionHypothesis, reverse_crc16Byte, ← Crc.feed_append]
      rfl

theorem getElem_byteBits (byte : BitVec 8) {index : ℕ}
    (within : index < (Crc.byteBits byte).length) : (Crc.byteBits byte)[index] = byte.getLsbD index := by
  rw [← List.getD_eq_getElem _ false within, Crc.getD_byteBits]

/-- The bytes with the bits of the mask turned over -/
def alter (bytes mask : List UInt8) : List UInt8 := List.zipWith (· ^^^ ·) bytes mask

theorem enteringBits_alter {bytes mask : List UInt8} (same : bytes.length = mask.length) :
    enteringBits (alter bytes mask) =
      List.zipWith xor (enteringBits bytes) (enteringBits mask) := by
  induction bytes generalizing mask with
  | nil => rfl
  | cons byte rest inductionHypothesis =>
      cases mask with
      | nil => cases same
      | cons change others =>
          have here : Crc.byteBits (byte ^^^ change).toBitVec.reverse =
              List.zipWith xor (Crc.byteBits byte.toBitVec.reverse)
                (Crc.byteBits change.toBitVec.reverse) := by
            apply List.ext_getElem
            · simp
            · intro index within _
              rw [List.getElem_zipWith, getElem_byteBits, getElem_byteBits, getElem_byteBits,
                UInt8.toBitVec_xor, reverse_xor, BitVec.getLsbD_xor]
          have later := inductionHypothesis (Nat.succ.inj same)
          show enteringBits ((byte ^^^ change) :: alter rest others) = _
          rw [enteringBits_cons, enteringBits_cons, enteringBits_cons, List.zipWith_append (by simp),
            here, later]

/-- What an alteration makes of the checksum -/
def trace (mask : List UInt8) : UInt16 := mask.foldl crc16Byte 0

theorem reverse_trace (mask : List UInt8) : (trace mask).toBitVec.reverse =
    Crc.feed crc16Polynomial 0#16 (enteringBits mask) := by
  have empty : (0 : UInt16).toBitVec.reverse = 0#16 := by decide
  unfold trace
  rw [reverse_foldl_crc16Byte, empty]

theorem reverse_injective {w : ℕ} {left right : BitVec w} (same : left.reverse = right.reverse) :
    left = right := by
  rw [← BitVec.reverse_reverse_eq (x := left), same, BitVec.reverse_reverse_eq]

/-- The checksum changes by the trace of the alteration, whatever the bytes are. -/
theorem crc16_alter {bytes mask : List UInt8} (same : bytes.length = mask.length) :
    crc16 (alter bytes mask) = crc16 bytes ^^^ trace mask := by
  have lengths : (enteringBits bytes).length = (enteringBits mask).length := by
    unfold enteringBits
    rw [Crc.length_flatMap_byteBits, Crc.length_flatMap_byteBits, List.length_map, List.length_map,
      same]
  have difference := @Crc.feed_xor 16 crc16Polynomial (0xFFFF : UInt16).toBitVec.reverse 0#16 _ _
    lengths
  apply UInt16.toBitVec_inj.mp
  apply reverse_injective
  rw [UInt16.toBitVec_xor, reverse_xor, reverse_trace]
  unfold crc16
  rw [reverse_foldl_crc16Byte, reverse_foldl_crc16Byte, enteringBits_alter same, ← difference,
    BitVec.xor_zero]

/-- No alteration within sixteen bits leaves the checksum as it was. -/
theorem trace_ne_zero {mask : List UInt8} {start : ℕ}
    (window : ∀ index, (enteringBits mask).getD index false = true →
      start ≤ index ∧ index < start + 16)
    (altered : ∃ byte ∈ mask, byte ≠ 0) : trace mask ≠ 0 := by
  have set : true ∈ enteringBits mask := by
    obtain ⟨byte, within, nonzero⟩ := altered
    unfold enteringBits
    rw [List.mem_flatMap]
    refine ⟨_, List.mem_map_of_mem within, ?_⟩
    by_contra clear
    apply nonzero
    apply UInt8.toBitVec_inj.mp
    apply reverse_injective
    apply BitVec.eq_of_getLsbD_eq
    intro index below
    have length : index < (Crc.byteBits byte.toBitVec.reverse).length := below
    have empty : (0#8).reverse = 0#8 := by decide
    show byte.toBitVec.reverse.getLsbD index = (0#8).reverse.getLsbD index
    rw [← getElem_byteBits _ length]
    have bit : (Crc.byteBits byte.toBitVec.reverse)[index] = false := by
      apply Bool.eq_false_of_not_eq_true
      intro isSet
      exact clear (isSet ▸ List.getElem_mem length)
    rw [bit, empty, BitVec.getLsbD_zero]
  intro none
  have gone := reverse_trace mask
  rw [none] at gone
  exact Crc.feed_window_ne (by decide) window set (gone.symm.trans (by decide))

/-! ### Altered frames -/

/-- What is altered in a frame behind its marks -/
structure Alteration (frame : StreamFrame) where
  /-- The bits that are turned over in the bytes that the checksum covers -/
  body : List UInt8
  /-- The bits that are turned over in the checksum -/
  check : UInt16
  sized : body.length = frame.covered.length
  /-- The size of the payload is as it was. -/
  kept : (body.drop 2).take 2 = [0, 0]

namespace Alteration

variable {frame : StreamFrame} (alteration : Alteration frame)

/-- The bytes that arrive -/
def bytes : List UInt8 :=
  assembled (alter frame.covered alteration.body) (crc16 frame.covered ^^^ alteration.check)

/-- A few bits next to each other are altered, in the bytes that the checksum covers or in the checksum. -/
def Burst : Prop :=
  (alteration.check = 0 ∧ (∃ byte ∈ alteration.body, byte ≠ 0) ∧ ∃ start, ∀ index,
    (enteringBits alteration.body).getD index false = true → start ≤ index ∧ index < start + 16) ∨
  (alteration.check ≠ 0 ∧ ∀ byte ∈ alteration.body, byte = 0)

theorem length_altered : (alter frame.covered alteration.body).length =
    frame.payload.bytes.length + 8 := by
  unfold alter
  rw [List.length_zipWith, alteration.sized, Nat.min_self, frame.length_covered]

theorem told_altered : numberOf (((alter frame.covered alteration.body).drop 2).take 2) =
    frame.payload.bytes.length := by
  have kept : ((alter frame.covered alteration.body).drop 2).take 2 =
      List.zipWith (· ^^^ ·) ((frame.covered.drop 2).take 2) ((alteration.body.drop 2).take 2) := by
    unfold alter
    rw [List.drop_zipWith, List.take_zipWith]
  have same : List.zipWith (· ^^^ ·) ((frame.covered.drop 2).take 2) [0, 0] =
      (frame.covered.drop 2).take 2 := by
    show [_ ^^^ 0, _ ^^^ 0] = _
    rw [UInt8.xor_zero, UInt8.xor_zero]
    rfl
  rw [kept, alteration.kept, same, frame.told_covered]

/-- What the host makes of an altered frame does not depend on its bytes beside the version. -/
theorem front_altered (rest : List UInt8) :
    streamFront (alteration.bytes ++ rest) =
      if (alter frame.covered alteration.body).getD 0 0 ≠ PROTOCOL_VERSION then .noise .malformed
      else if trace alteration.body ≠ alteration.check then .noise .checksum
      else .frame (frame.payload.bytes.length + 12) (contentOf (alter frame.covered alteration.body)) := by
  have front := front_assembled alteration.length_altered
    (crc16 frame.covered ^^^ alteration.check) rest alteration.told_altered frame.payload.bounded
  have checks : crc16 (alter frame.covered alteration.body) ≠
      crc16 frame.covered ^^^ alteration.check ↔ trace alteration.body ≠ alteration.check := by
    rw [crc16_alter alteration.sized.symm]
    exact not_congr (UInt16.xor_right_inj _)
  unfold bytes
  rw [front]
  simp only [checks]

theorem trace_clear {mask : List UInt8} (clear : ∀ byte ∈ mask, byte = 0) : trace mask = 0 := by
  induction mask with
  | nil => rfl
  | cons byte rest inductionHypothesis =>
      obtain rfl : byte = 0 := clear byte List.mem_cons_self
      exact inductionHypothesis fun other within => clear other (List.mem_cons_of_mem _ within)

/-- A burst is noticed. -/
theorem noise_of_burst (burst : alteration.Burst) (rest : List UInt8) :
    streamFront (alteration.bytes ++ rest) = .noise .malformed ∨
      streamFront (alteration.bytes ++ rest) = .noise .checksum := by
  have noticed : trace alteration.body ≠ alteration.check := by
    rcases burst with ⟨whole, altered, start, window⟩ | ⟨altered, clear⟩
    · rw [whole]
      exact trace_ne_zero window altered
    · rw [trace_clear clear]
      exact altered.symm
  rw [alteration.front_altered, if_pos noticed]
  split_ifs
  · exact Or.inl rfl
  · exact Or.inr rfl

/-- Where a burst has altered a frame, no frame is taken, and the host counts an error, unless bytes before it
seem to begin a frame that goes on in it. -/
theorem burst_noticed {chunks : List (List UInt8)} {before after : List UInt8}
    (burst : alteration.Burst) (arrived : chunks.flatten = before ++ (alteration.bytes ++ after)) :
    (∀ taken ∈ (chunks.foldl FrameParser.feed {}).frames, taken.rawOffset ≠ before.length) ∧
      (MAX_FRAME_SIZE ≤ (alteration.bytes ++ after).length →
        0 < (chunks.foldl FrameParser.feed {}).crcErrors +
            (chunks.foldl FrameParser.feed {}).malformedHeaders ∨
          ∃ taken ∈ (chunks.foldl FrameParser.feed {}).frames,
            taken.rawOffset < before.length ∧ before.length < taken.rawOffset + taken.size) := by
  have here : chunks.flatten.drop before.length = alteration.bytes ++ after := by
    rw [arrived, List.drop_left]
  have noise : ∃ cause, streamFront (chunks.flatten.drop before.length) = .noise cause ∧
      cause ≠ .unmarked := by
    rw [here]
    rcases alteration.noise_of_burst burst after with malformed | mismatch
    · exact ⟨.malformed, malformed, by decide⟩
    · exact ⟨.checksum, mismatch, by decide⟩
  obtain ⟨cause, judged, marked⟩ := noise
  refine ⟨?_, ?_⟩
  · intro taken within there
    have frame := (FrameParser.parse_accounts chunks).2.placed taken within
    rw [there, judged] at frame
    cases frame
  · intro followed
    apply FrameParser.noise_counted chunks judged marked
    rw [arrived, List.length_append]
    omega

/-- One bit of the only byte of a payload -/
def single : Alteration ⟨.encoder, 3, ⟨[7], by decide⟩⟩ where
  body := [0, 0, 0, 0, 0, 0, 0, 0, 0x10]
  check := 0
  sized := rfl
  kept := rfl

theorem burst_noticed_single :
    (∀ taken ∈ ([[0x20, 0x20], single.bytes, List.replicate 96 0].foldl FrameParser.feed {}).frames,
        taken.rawOffset ≠ 2) ∧
      (MAX_FRAME_SIZE ≤ (single.bytes ++ List.replicate 96 0).length →
        0 < ([[0x20, 0x20], single.bytes, List.replicate 96 0].foldl FrameParser.feed {}).crcErrors +
            ([[0x20, 0x20], single.bytes, List.replicate 96 0].foldl
              FrameParser.feed {}).malformedHeaders ∨
          ∃ taken ∈ ([[0x20, 0x20], single.bytes, List.replicate 96 0].foldl
              FrameParser.feed {}).frames,
            taken.rawOffset < 2 ∧ 2 < taken.rawOffset + taken.size) := by
  have window : ∀ index, (enteringBits single.body).getD index false = true →
      64 ≤ index ∧ index < 64 + 16 := by
    have within : ∀ index < 72, (enteringBits single.body).getD index false = true → 64 ≤ index := by
      decide +kernel
    intro index set
    rcases Nat.lt_or_ge index 72 with inside | beyond
    · have above := within index inside set
      omega
    · rw [List.getD_eq_default _ _ beyond] at set
      cases set
  exact @burst_noticed _ single _ [0x20, 0x20] _
    (Or.inl ⟨rfl, ⟨0x10, by decide, by decide⟩, 64, window⟩) rfl

end Alteration

/-! ### An alteration that is not noticed -/

theorem alter_append {first second mask other : List UInt8} (same : first.length = mask.length) :
    alter (first ++ second) (mask ++ other) = alter first mask ++ alter second other :=
  List.zipWith_append same

theorem clear_of_alter {bytes mask : List UInt8} (length : bytes.length = mask.length)
    (same : alter bytes mask = bytes) : ∀ byte ∈ mask, byte = 0 := by
  induction bytes generalizing mask with
  | nil =>
      obtain rfl := List.length_eq_zero_iff.mp length.symm
      exact fun _ within => absurd within List.not_mem_nil
  | cons byte rest inductionHypothesis =>
      cases mask with
      | nil => cases length
      | cons change others =>
          have first : byte ^^^ change = byte := (List.cons.inj same).1
          have later := inductionHypothesis (Nat.succ.inj length) (List.cons.inj same).2
          have none : change = 0 := by
            apply (UInt8.xor_right_inj byte).mp
            rw [first, UInt8.xor_zero]
          intro other within
          rcases List.mem_cons.mp within with rfl | further
          · exact none
          · exact later other further

theorem bytes16_xor (left right : UInt16) :
    bytes16 (left ^^^ right) = alter (bytes16 left) (bytes16 right) := by
  show [(left ^^^ right).toUInt8, ((left ^^^ right) >>> 8).toUInt8] =
    [left.toUInt8 ^^^ right.toUInt8, (left >>> 8).toUInt8 ^^^ (right >>> 8).toUInt8]
  rw [UInt16.toUInt8_xor, UInt16.shiftRight_xor, UInt16.toUInt8_xor]

theorem numberOf_injective {first second : List UInt8} (length : first.length = second.length)
    (same : numberOf first = numberOf second) : first = second := by
  induction first generalizing second with
  | nil => exact (List.length_eq_zero_iff.mp length.symm).symm
  | cons byte rest inductionHypothesis =>
      cases second with
      | nil => cases length
      | cons other others =>
          have small := byte.toNat_lt
          have smallToo := other.toNat_lt
          rw [numberOf_cons, numberOf_cons] at same
          have here : byte = other := UInt8.toNat_inj.mp (by omega)
          rw [here, inductionHypothesis (Nat.succ.inj length) (by omega)]

/-- Eight bits of the last byte before the checksum and of the byte after it, with the trace of the former -/
def crossing (frame : StreamFrame) : Alteration frame where
  body := List.replicate (frame.payload.bytes.length + 7) 0 ++ [0x89]
  check := 0x00A1
  sized := by
    rw [List.length_append, List.length_replicate, frame.length_covered]
    rfl
  kept := rfl

theorem trace_crossing (frame : StreamFrame) :
    trace (crossing frame).body = (crossing frame).check := by
  have front : (List.replicate (frame.payload.bytes.length + 7) (0 : UInt8)).foldl crc16Byte 0 = 0 :=
    Alteration.trace_clear fun _ within => List.eq_of_mem_replicate within
  show trace (List.replicate (frame.payload.bytes.length + 7) 0 ++ [0x89]) = _
  unfold trace
  rw [List.foldl_append, front]
  exact (by decide +kernel : [0x89].foldl crc16Byte 0 = 0x00A1)

/-- They are two bytes that go out one after the other. -/
theorem bytes_crossing (frame : StreamFrame) : (crossing frame).bytes =
    alter frame.bytes (List.replicate (frame.bytes.length - 3) 0 ++ [0x89, 0xA1, 0]) := by
  have split : List.replicate (frame.bytes.length - 3) (0 : UInt8) ++ [0x89, 0xA1, 0] =
      [0, 0] ++ (crossing frame).body ++ bytes16 (crossing frame).check := by
    have count : frame.bytes.length - 3 = 2 + (frame.payload.bytes.length + 7) := by
      rw [frame.length_bytes]
      omega
    have low : bytes16 (crossing frame).check = [0xA1, 0] :=
      (by decide : bytes16 0x00A1 = [0xA1, 0])
    rw [count, List.replicate_add, low]
    simp [crossing]
  have marks : alter [kMagic0, kMagic1] [0, 0] = [kMagic0, kMagic1] := by decide
  have front : ([kMagic0, kMagic1] ++ frame.covered).length = ([0, 0] ++ (crossing frame).body).length := by
    rw [List.length_append, List.length_append, (crossing frame).sized]
    rfl
  rw [split]
  unfold Alteration.bytes assembled StreamFrame.bytes
  rw [alter_append front, @alter_append [kMagic0, kMagic1] _ [0, 0] _ rfl, marks, bytes16_xor]

theorem content_crossing (frame : StreamFrame) :
    contentOf (alter frame.covered (crossing frame).body) ≠ contentOf frame.covered := by
  intro same
  have length := frame.length_covered
  have altered := (crossing frame).length_altered
  have number : ((alter frame.covered (crossing frame).body).drop 4).take 4 =
      (frame.covered.drop 4).take 4 := by
    apply numberOf_injective
    · simp only [List.length_take, List.length_drop]
      omega
    · exact congrArg FrameContent.sequence same
  have payload : (alter frame.covered (crossing frame).body).drop 8 = frame.covered.drop 8 :=
    congrArg FrameContent.payload same
  have halves : ∀ bytes : List UInt8, bytes.drop 4 = (bytes.drop 4).take 4 ++ bytes.drop 8 := by
    intro bytes
    have joined := List.take_append_drop 4 (bytes.drop 4)
    rw [List.drop_drop] at joined
    exact joined.symm
  have apart : alter (frame.covered.drop 4) ((crossing frame).body.drop 4) =
      frame.covered.drop 4 := by
    have rest := halves (alter frame.covered (crossing frame).body)
    rw [number, payload, ← halves] at rest
    have dropped : (alter frame.covered (crossing frame).body).drop 4 =
        alter (frame.covered.drop 4) ((crossing frame).body.drop 4) := List.drop_zipWith
    exact dropped.symm.trans rest
  have lengths : (frame.covered.drop 4).length = ((crossing frame).body.drop 4).length := by
    rw [List.length_drop, List.length_drop, (crossing frame).sized]
  have clear := clear_of_alter lengths apart 0x89 (by
    show (0x89 : UInt8) ∈ List.replicate (frame.payload.bytes.length + 3) 0 ++ [0x89]
    simp)
  exact absurd clear (by decide)

/-- The host takes what it has not noticed for a frame, and it has no error to count. -/
theorem crossing_unnoticed (frame : StreamFrame) :
    ∃ content, content ≠ frame.content ∧
      (FrameParser.feed {} (alter frame.bytes
        (List.replicate (frame.bytes.length - 3) 0 ++ [0x89, 0xA1, 0]))).finish =
          { streamOffset := frame.bytes.length, validFrames := 1, frames := [⟨content, 0⟩] } := by
  have front := (crossing frame).front_altered []
  have version : (alter frame.covered (crossing frame).body).getD 0 0 = PROTOCOL_VERSION := by
    show kVersion ^^^ 0 = 1
    decide
  have judged : streamFormat.front (crossing frame).bytes = .frame frame.bytes.length
      (contentOf (alter frame.covered (crossing frame).body)) := by
    rw [if_neg (not_not.mpr version), if_neg (not_not.mpr (trace_crossing frame)),
      List.append_nil] at front
    rw [frame.length_bytes]
    exact front
  have size : (crossing frame).bytes.length = frame.bytes.length := by
    rw [frame.length_bytes]
    exact length_assembled (crossing frame).length_altered _
  refine ⟨contentOf (alter frame.covered (crossing frame).body), ?_, ?_⟩
  · rw [← frame.content_covered]
    exact content_crossing frame
  · have fed := FrameParser.foldl_feed_eq [(crossing frame).bytes]
    rw [List.flatten_singleton, FrameFormat.scan_frame judged, ← size, List.drop_length] at fed
    rw [← bytes_crossing, ← size]
    show ([(crossing frame).bytes].foldl FrameParser.feed {}).finish = _
    have none : streamFormat.scan [] = ([], []) := rfl
    rw [fed, none]
    simp [FrameParser.absorb, FrameParser.finish, FrameParser.discard]

end MissionBoard.Bringup
