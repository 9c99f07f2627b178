import MissionBoard.Characterization.LogWriter
import MissionBoard.Storage.FlightLogCodec

/-!
Owns the agreement of the two checksums: `crc32` of `characterization/log_format_v5.cpp`, which
looks the low byte of its register up in a table, and `crc32` of `runtime/flight_log.cpp`, which
shifts bit by bit. Both are the register that the bits of the message enter. It also owns the
checksum of a file that is written in pieces.
-/

namespace MissionBoard.Characterization

open Storage (crcPolynomial messageBits)

theorem tableShift_toBitVec (value : UInt32) :
    ((value >>> 1) ^^^ (0xEDB88320 &&& (0 - (value &&& 1)))).toBitVec =
      Crc.shift crcPolynomial value.toBitVec := by
  have lowBit : value &&& 1 = if value.toBitVec.getLsbD 0 then 1 else 0 := by
    rw [← UInt32.toNat_inj, UInt32.toNat_and, BitVec.getLsbD, Nat.testBit_zero]
    show value.toNat &&& 1 = _
    rw [Nat.and_one_is_mod, UInt32.toNat_toBitVec]
    rcases Nat.mod_two_eq_zero_or_one value.toNat with even | odd
    · simp [even]
    · simp [odd]
  unfold Crc.shift
  rw [UInt32.toBitVec_xor, lowBit]
  cases value.toBitVec.getLsbD 0 <;> rfl

theorem crc32TableEntry_toBitVec (value : UInt32) :
    (crc32TableEntry value).toBitVec = (Crc.shift crcPolynomial)^[8] value.toBitVec := by
  unfold crc32TableEntry
  rw [List.foldl_const, List.length_range]
  have steps : Function.Semiconj UInt32.toBitVec
      (fun value => (value >>> 1) ^^^ (0xEDB88320 &&& (0 - (value &&& 1))))
      (Crc.shift crcPolynomial) := tableShift_toBitVec
  exact (steps.iterate_right 8).eq value

/-- One byte through the table is its eight bits through the register. -/
theorem crc32Step_toBitVec (crc : UInt32) (byte : UInt8) :
    (crc32Step crc byte).toBitVec =
      Crc.feed crcPolynomial crc.toBitVec (Crc.byteBits byte.toBitVec) := by
  have entered : (crc ^^^ byte.toUInt32).toBitVec = crc.toBitVec ^^^ byte.toBitVec.setWidth 32 := rfl
  have index : (crc ^^^ byte.toUInt32).toUInt8.toUInt32.toBitVec =
      ((crc.toBitVec ^^^ byte.toBitVec.setWidth 32).setWidth 8).setWidth 32 := rfl
  have gone : (byte.toBitVec.setWidth 32) >>> 8 = 0#32 := by
    apply BitVec.eq_of_getLsbD_eq
    intro position within
    rw [BitVec.getLsbD_ushiftRight, BitVec.getLsbD_setWidth,
      BitVec.getLsbD_of_ge byte.toBitVec _ (by omega), Bool.and_false, BitVec.getLsbD_zero]
  have kept : (crc.toBitVec ^^^ byte.toBitVec.setWidth 32) >>> 8 = crc.toBitVec >>> 8 := by
    rw [BitVec.ushiftRight_xor_distrib, gone, BitVec.xor_zero]
  unfold crc32Step
  rw [UInt32.toBitVec_xor, crc32TableEntry_toBitVec, index, Crc.feed_byteBits (by decide),
    Crc.iterate_shift_eq_table (crc.toBitVec ^^^ byte.toBitVec.setWidth 32), kept]
  rfl

theorem foldl_crc32Step_toBitVec (bytes : List UInt8) (crc : UInt32) :
    (bytes.foldl crc32Step crc).toBitVec =
      Crc.feed crcPolynomial crc.toBitVec (messageBits bytes) := by
  induction bytes generalizing crc with
  | nil => rfl
  | cons byte rest inductionHypothesis =>
      rw [List.foldl_cons, inductionHypothesis, crc32Step_toBitVec, ← Crc.feed_append]
      rfl

/-- The table and the bits give one checksum. -/
theorem crc32_eq_bitwise (bytes : List UInt8) : crc32 bytes 0 = Storage.crc32 bytes := by
  have registers : bytes.foldl crc32Step 0xFFFFFFFF = bytes.foldl Storage.crc32Byte 0xFFFFFFFF := by
    rw [← UInt32.toBitVec_inj, foldl_crc32Step_toBitVec, Storage.foldl_crc32Byte_toBitVec]
  unfold crc32 Storage.crc32
  rw [UInt32.zero_xor, registers, ← UInt32.toBitVec_inj, UInt32.toBitVec_xor, UInt32.toBitVec_not]
  exact BitVec.xor_allOnes

/-! ### Pieces -/

/-- The checksum of a text goes on from the checksum of its beginning. -/
theorem crc32_append (first second : List UInt8) (previousCrc : UInt32) :
    crc32 second (crc32 first previousCrc) = crc32 (first ++ second) previousCrc := by
  unfold crc32
  rw [List.foldl_append, UInt32.xor_assoc, UInt32.xor_self, UInt32.xor_zero]

@[simp] theorem crc32_nil (previousCrc : UInt32) : crc32 [] previousCrc = previousCrc := by
  unfold crc32
  rw [List.foldl_nil, UInt32.xor_assoc, UInt32.xor_self, UInt32.xor_zero]

theorem batchBytes_append (first second : List StagedRecord) :
    batchBytes (first ++ second) = batchBytes first ++ batchBytes second :=
  List.flatMap_append

/-- However the records are cut into batches, the writer has the checksum of all of them. -/
theorem foldl_drainedCrc32 (batches : List (List StagedRecord)) (before : List UInt8) :
    batches.foldl (fun fileCrc32 batch => drainedCrc32 batch fileCrc32) (crc32 before 0) =
      crc32 (before ++ batchBytes batches.flatten) 0 := by
  induction batches generalizing before with
  | nil => simp [batchBytes]
  | cons batch rest inductionHypothesis =>
      rw [List.foldl_cons, drainedCrc32, crc32_append, inductionHypothesis, List.flatten_cons,
        batchBytes_append, List.append_assoc]

/-- The two checksums are one, it composes, and what the writer keeps while it writes the header
and the batches is what `validateCapture` computes over all that is before the footer. -/
theorem capture_checksum :
    (∀ bytes : List UInt8, crc32 bytes 0 = Storage.crc32 bytes) ∧
      (∀ (first second : List UInt8) (previousCrc : UInt32),
        crc32 second (crc32 first previousCrc) = crc32 (first ++ second) previousCrc) ∧
      ∀ (image : HeaderBytes) (batches : List (List StagedRecord)) (footer : FooterBytes),
        let data := image.toList ++ batchBytes batches.flatten ++ footer.toList
        let payload := data.length - kHeaderBytes - kFooterBytes
        batches.foldl (fun fileCrc32 batch => drainedCrc32 batch fileCrc32) (openedCrc32 image) =
          crc32 (data.take (kHeaderBytes + payload)) 0 := by
  refine ⟨crc32_eq_bitwise, crc32_append, ?_⟩
  intro image batches footer
  have covered : (image.toList ++ batchBytes batches.flatten ++ footer.toList).take
      (kHeaderBytes + ((image.toList ++ batchBytes batches.flatten ++ footer.toList).length -
        kHeaderBytes - kFooterBytes)) = image.toList ++ batchBytes batches.flatten := by
    apply List.take_left'
    simp only [List.length_append, Vector.length_toList, kHeaderBytes, kFooterBytes]
    omega
  dsimp only
  rw [covered, openedCrc32, foldl_drainedCrc32]

end MissionBoard.Characterization
