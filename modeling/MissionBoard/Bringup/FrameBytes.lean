import MissionBoard.Bringup.FrameParser

/-!
Owns the bytes of a frame between the firmware and the host: both sides compute the same checksum, and what
`send` puts together is read by `FrameParser` as the frame that it was.
-/

namespace MissionBoard.Bringup

open LittleEndian

/-! ### The checksum on both sides -/

theorem crc16CcittBit_eq (crc : UInt16) : crc16CcittBit crc.toNat = (crc16Bit crc).toNat := by
  have bound := crc.toNat_lt
  have low : ∀ number : ℕ, number &&& 0xFFFF = number % 2 ^ 16 := fun number =>
    Nat.and_two_pow_sub_one_eq_mod number 16
  have top : crc &&& 0x8000 ≠ 0 ↔ crc.toNat &&& 0x8000 ≠ 0 := by
    rw [Ne, ← UInt16.toNat_inj, UInt16.toNat_and]
    rfl
  unfold crc16CcittBit crc16Bit
  by_cases set : crc.toNat &&& 0x8000 ≠ 0
  · rw [if_pos set, if_pos (top.mpr set), low, UInt16.toNat_xor, UInt16.toNat_shiftLeft,
      Nat.xor_mod_two_pow]
    rfl
  · rw [if_neg set, if_neg (fun other => set (top.mp other)), low, UInt16.toNat_shiftLeft]
    rfl

theorem crc16Ccitt_eq (data : List UInt8) : crc16Ccitt data = (crc16 data).toNat := by
  have bits : ∀ (count : ℕ) (crc : UInt16),
      crc16CcittBit^[count] crc.toNat = (crc16Bit^[count] crc).toNat := by
    intro count
    induction count with
    | zero => exact fun _ => rfl
    | succ count inductionHypothesis =>
        intro crc
        rw [Function.iterate_succ_apply, Function.iterate_succ_apply, crc16CcittBit_eq,
          inductionHypothesis]
  have bytes : ∀ (data : List UInt8) (crc : UInt16),
      data.foldl (fun crc value => crc16CcittBit^[8] (crc ^^^ (value.toNat <<< 8))) crc.toNat =
        (data.foldl crc16Byte crc).toNat := by
    intro data
    induction data with
    | nil => exact fun _ => rfl
    | cons value rest inductionHypothesis =>
        intro crc
        have entered : crc.toNat ^^^ (value.toNat <<< 8) =
            (crc ^^^ (value.toUInt16 <<< 8)).toNat := by
          have small := value.toNat_lt
          rw [UInt16.toNat_xor, UInt16.toNat_shiftLeft, UInt8.toNat_toUInt16]
          congr 1
          refine (Nat.mod_eq_of_lt ?_).symm
          show value.toNat <<< 8 < 2 ^ 16
          rw [Nat.shiftLeft_eq]
          omega
        rw [List.foldl_cons, List.foldl_cons, entered, bits]
        exact inductionHypothesis _
  exact bytes data 0xFFFF

/-! ### The bytes of a frame -/

/-- What the host should read in a frame -/
def StreamFrame.content (frame : StreamFrame) : FrameContent where
  version := 1
  recordType := frame.type.code
  sequence := frame.sequence.toNat
  payload := frame.payload.bytes

/-- Bytes that are put together like those of a frame -/
def assembled (covered : List UInt8) (checksum : UInt16) : List UInt8 :=
  [kMagic0, kMagic1] ++ covered ++ bytes16 checksum

/-- What the host reads in the bytes that the checksum covers -/
def contentOf (covered : List UInt8) : FrameContent where
  version := covered.getD 0 0
  recordType := covered.getD 1 0
  sequence := numberOf ((covered.drop 4).take 4)
  payload := covered.drop 8

section Assembled

variable {covered : List UInt8} {size : ℕ} (length : covered.length = size + 8)

include length

theorem length_assembled (checksum : UInt16) : (assembled covered checksum).length = size + 12 := by
  simp only [assembled, bytes16, List.length_append, List.length_cons, List.length_nil, length]
  omega

theorem body_assembled (checksum : UInt16) :
    ((assembled covered checksum).take (HEADER_SIZE + size)).drop 2 = covered := by
  have front : ([kMagic0, kMagic1] ++ covered).length = HEADER_SIZE + size := by
    rw [List.length_append, length]
    show 2 + (size + 8) = 10 + size
    omega
  unfold assembled
  rw [← front, List.take_left]
  rfl

theorem trailer_assembled (checksum : UInt16) :
    ((assembled covered checksum).drop (HEADER_SIZE + size)).take 2 = bytes16 checksum := by
  have front : ([kMagic0, kMagic1] ++ covered).length = HEADER_SIZE + size := by
    rw [List.length_append, length]
    show 2 + (size + 8) = 10 + size
    omega
  unfold assembled
  rw [← front, List.drop_left]
  rfl

theorem payloadSize_assembled (checksum : UInt16) :
    FrameParser.payloadSize (assembled covered checksum) = numberOf ((covered.drop 2).take 2) := by
  show numberOf (((covered ++ bytes16 checksum).drop 2).take 2) = _
  rw [slice_append _ (by omega)]

theorem version_assembled (checksum : UInt16) :
    (assembled covered checksum).getD 2 0 = covered.getD 0 0 := by
  show (covered ++ bytes16 checksum).getD 0 0 = _
  exact getD_append _ (by omega)

theorem frontFrame_assembled (checksum : UInt16)
    (told : numberOf ((covered.drop 2).take 2) = size) :
    FrameParser.frontFrame (assembled covered checksum) = contentOf covered := by
  have type : (assembled covered checksum).getD 3 0 = covered.getD 1 0 := by
    show (covered ++ bytes16 checksum).getD 1 0 = _
    exact getD_append _ (by omega)
  have sequence : ((assembled covered checksum).drop 6).take 4 = (covered.drop 4).take 4 := by
    show ((covered ++ bytes16 checksum).drop 4).take 4 = _
    rw [slice_append _ (by omega)]
  have payload : ((assembled covered checksum).drop HEADER_SIZE).take size = covered.drop 8 := by
    show ((covered ++ bytes16 checksum).drop 8).take size = _
    rw [slice_append _ (by omega)]
    apply List.take_of_length_le
    rw [List.length_drop]
    omega
  unfold FrameParser.frontFrame contentOf
  rw [payloadSize_assembled length, told, version_assembled length, type, sequence, payload]

/-- What the host makes of such bytes, whatever comes after -/
theorem front_assembled (checksum : UInt16) (rest : List UInt8)
    (told : numberOf ((covered.drop 2).take 2) = size) (bounded : size ≤ MAX_PAYLOAD_SIZE) :
    streamFront (assembled covered checksum ++ rest) =
      if covered.getD 0 0 ≠ PROTOCOL_VERSION then .noise .malformed
      else if crc16 covered ≠ checksum then .noise .checksum
      else .frame (size + 12) (contentOf covered) := by
  have alone : streamFront (assembled covered checksum) =
      if covered.getD 0 0 ≠ PROTOCOL_VERSION then .noise .malformed
      else if crc16 covered ≠ checksum then .noise .checksum
      else .frame (size + 12) (contentOf covered) := by
    have marked : streamFront (assembled covered checksum) =
        markedFront (assembled covered checksum) := by
      show (if kMagic0 = 0xA5 ∧ kMagic1 = 0x5A then markedFront (assembled covered checksum)
        else .noise .unmarked) = _
      exact if_pos ⟨rfl, rfl⟩
    have total : HEADER_SIZE + size + TRAILER_SIZE = size + 12 := by
      show 10 + size + 2 = size + 12
      omega
    have header : ¬size + 12 < HEADER_SIZE := by
      show ¬size + 12 < 10
      omega
    rw [marked, markedFront, length_assembled length, payloadSize_assembled length, told,
      version_assembled length, body_assembled length, trailer_assembled length, crc16Ccitt_eq,
      numberOf_bytes16, frontFrame_assembled length checksum told, total, if_neg header]
    by_cases supported : covered.getD 0 0 = PROTOCOL_VERSION
    · have wellFormed : ¬(covered.getD 0 0 ≠ PROTOCOL_VERSION ∨ size > MAX_PAYLOAD_SIZE) :=
        not_or.mpr ⟨not_not.mpr supported, Nat.not_lt.mpr bounded⟩
      rw [if_neg wellFormed, if_neg (Nat.lt_irrefl _), if_neg (not_not.mpr supported)]
      exact if_congr (not_congr UInt16.toNat_inj) rfl rfl
    · rw [if_pos (Or.inl supported), if_pos supported]
  rw [streamFront_stable _ rest, alone]
  rw [alone]
  split_ifs
  · exact fun same => by cases same
  · exact fun same => by cases same
  · exact fun same => by cases same

end Assembled

namespace StreamFrame

variable (frame : StreamFrame)

theorem length_covered : frame.covered.length = frame.payload.bytes.length + 8 := by
  simp only [covered, bytes32, List.length_append, List.length_cons, List.length_nil]
  omega

theorem told_covered : numberOf ((frame.covered.drop 2).take 2) = frame.payload.bytes.length := by
  have bounded := frame.payload.bounded
  unfold kCapacity at bounded
  show numberOf [UInt8.ofNat frame.payload.bytes.length,
    UInt8.ofNat (frame.payload.bytes.length >>> 8)] = _
  simp only [numberOf_cons, numberOf_nil, UInt8.toNat_ofNat', Nat.shiftRight_eq_div_pow]
  omega

theorem content_covered : contentOf frame.covered = frame.content := by
  have sequence : numberOf ((frame.covered.drop 4).take 4) = frame.sequence.toNat :=
    numberOf_bytes32 frame.sequence
  unfold contentOf
  rw [sequence]
  rfl

/-- The bytes that the firmware makes of a frame are that frame to the host, whatever comes after. -/
theorem front_bytes (rest : List UInt8) :
    streamFront (frame.bytes ++ rest) = .frame frame.bytes.length frame.content := by
  have front := front_assembled frame.length_covered (crc16 frame.covered) rest frame.told_covered
    frame.payload.bounded
  have version : frame.covered.getD 0 0 = PROTOCOL_VERSION := rfl
  rw [if_neg (not_not.mpr version), if_neg (not_not.mpr rfl), frame.content_covered] at front
  rw [length_bytes]
  exact front

end StreamFrame

end MissionBoard.Bringup
