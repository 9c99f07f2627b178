import MissionBoard.Characterization.LogFormatV5

/-!
Owns the round trip of the V5 header: every header that `encodeHeader` accepts is read back
as it was, and every image that `decodeHeader` accepts is written again.
-/

namespace MissionBoard.Characterization

open ByteLayout

variable {header : LogHeader} {data : List UInt8}

/-! ### The layout -/

/-- Where the fields of a header begin and end -/
def headerExtents : List (ℕ × ℕ) :=
  [(0, 8), (8, 10), (10, 12), (12, 14), (14, 16), (16, 17), (18, 20), (20, 24), (24, 28), (28, 32),
    (32, 36), (36, 40), (40, 44), (44, 48), (48, 52), (52, 56), (56, 60), (64, 72), (72, 104),
    (104, 144), (144, 184), (184, 248), (248, 252)]

theorem map_extent_headerFields (header : LogHeader) :
    (headerFields header).map (fun field => (field.offset, field.stop)) = headerExtents := by
  simp [headerFields, headerExtents, Field.stop, Value.bytes, kHeaderMagic, LittleEndian.bytes16,
    LittleEndian.bytes32, LittleEndian.bytes64]

theorem pairwise_apart_headerFields (header : LogHeader) :
    (headerFields header).Pairwise Image.Apart :=
  Image.pairwise_apart_of_extents headerExtents (map_extent_headerFields header) (by decide)

theorem stop_le_of_mem_headerFields {field : Field} (written : field ∈ headerFields header) :
    field.stop ≤ 252 := by
  have extent : (field.offset, field.stop) ∈ headerExtents := by
    rw [← map_extent_headerFields header]
    exact List.mem_map_of_mem written
  have all : ∀ extent ∈ headerExtents, extent.2 ≤ 252 := by decide
  exact all _ extent

/-- What is written nowhere is reserved. -/
theorem reserved_of_untouched_header {address : ℕ} (before : address < 252)
    (untouched : Image.Untouched (headerFields header) address) :
    address = 17 ∨ (60 ≤ address ∧ address < 64) := by
  have outside : ∀ extent ∈ headerExtents, address < extent.1 ∨ extent.2 ≤ address := by
    intro extent stands
    rw [← map_extent_headerFields header] at stands
    obtain ⟨field, written, rfl⟩ := List.mem_map.mp stands
    exact untouched field written
  simp only [headerExtents, List.forall_mem_cons] at outside
  omega

/-- The reserved bytes lie outside the fields. -/
theorem untouched_header_of_reserved {address : ℕ}
    (reserved : address = 17 ∨ (60 ≤ address ∧ address < 64)) :
    Image.Untouched (headerFields header) address := by
  have apart : ∀ extent ∈ headerExtents,
      (17 < extent.1 ∨ extent.2 ≤ 17) ∧ (64 ≤ extent.1 ∨ extent.2 ≤ 60) := by
    decide
  intro field written
  have extent : (field.offset, field.stop) ∈ headerExtents := by
    rw [← map_extent_headerFields header]
    exact List.mem_map_of_mem written
  have bounds := apart _ extent
  dsimp only at bounds
  omega

/-! ### What an accepted image is -/

/-- What `decodeHeader` asks of the bytes before it looks at the header -/
structure HeaderFramed (data : List UInt8) : Prop where
  long : data.length = 256
  magic : (Image.ofBytes data).slice 0 8 = kHeaderMagic
  schema : (Image.ofBytes data).getU16 8 = kSchemaVersion
  headerSize : (Image.ofBytes data).getU16 10 = 256
  recordSize : (Image.ofBytes data).getU16 12 = 320
  footerSize : (Image.ofBytes data).getU16 14 = 192
  consumerRate : (Image.ofBytes data).getU16 18 = kConsumerRateHz
  contract : (Image.ofBytes data).getU32 24 = kProfileContractVersion
  checked : (Image.ofBytes data).getU32 252 = ownCrc ((Image.ofBytes data).slice 0 252)
  reserved : ∀ address, address = 17 ∨ (60 ≤ address ∧ address < 64) →
    Image.ofBytes data address = 0

/-- What it asks of the header -/
structure HeaderSound (data : List UInt8) (encoderRate : EncoderRate) (runKind : RunKind) :
    Prop where
  run : runOfFlags ((Image.ofBytes data).getU32 248) = some runKind
  rate : EncoderRate.ofWord ((Image.ofBytes data).getU32 20) = some encoderRate
  stage : ByteEnum.valid AssemblyStage (Image.ofBytes data 16) = true
  valid : headerValid (readHeader (Image.ofBytes data) encoderRate runKind) = true

/-- A framed image with a sound header is accepted. -/
theorem decodeHeader_of_sound {encoderRate : EncoderRate} {runKind : RunKind}
    (framed : HeaderFramed data) (sound : HeaderSound data encoderRate runKind) :
    decodeHeader data = .ok (readHeader (Image.ofBytes data) encoderRate runKind) := by
  have zeros : allZero ((Image.ofBytes data).slice 60 4) = true :=
    (allZero_slice_iff _ _ _).mpr fun address from_offset below =>
      framed.reserved address (Or.inr ⟨from_offset, below⟩)
  have long := framed.long
  unfold decodeHeader
  dsimp only
  rw [if_neg (by rw [long]; decide), if_neg (by rw [long]; decide), if_neg (by simp [framed.magic]),
    if_neg (by simp [framed.schema]),
    if_neg (by simp [framed.headerSize, framed.recordSize, framed.footerSize, framed.consumerRate,
      framed.contract]),
    if_neg (by simp [framed.checked]),
    if_neg (by simp [framed.reserved 17 (Or.inl rfl), zeros]), sound.run]
  dsimp only
  rw [sound.rate]
  dsimp only
  rw [if_neg (by simp [sound.stage, sound.valid])]

theorem framed_of_decodeHeader {decoded : LogHeader} (accepted : decodeHeader data = .ok decoded) :
    HeaderFramed data := by
  unfold decodeHeader at accepted
  dsimp only at accepted
  split_ifs at accepted with short long magic schema sizes checked reserved
  simp only [not_or, not_not, Bool.not_eq_false, allZero_slice_iff] at sizes reserved
  unfold kHeaderBytes at short long
  exact
    { long := by omega
      magic := not_not.mp magic
      schema := not_not.mp schema
      headerSize := sizes.1
      recordSize := sizes.2.1
      footerSize := sizes.2.2.1
      consumerRate := sizes.2.2.2.1
      contract := sizes.2.2.2.2
      checked := not_not.mp checked
      reserved := by
        rintro address (rfl | ⟨from_offset, below⟩)
        · exact reserved.1
        · exact reserved.2 address from_offset below }

theorem sound_of_decodeHeader {decoded : LogHeader} (accepted : decodeHeader data = .ok decoded) :
    ∃ encoderRate runKind, HeaderSound data encoderRate runKind ∧
      readHeader (Image.ofBytes data) encoderRate runKind = decoded := by
  unfold decodeHeader at accepted
  dsimp only at accepted
  split_ifs at accepted with short long magic schema sizes checked reserved
  split at accepted
  · cases accepted
  · rename_i runKind run
    split at accepted
    · cases accepted
    · rename_i encoderRate rate
      split_ifs at accepted with refused
      simp only [not_or, Bool.not_eq_false] at refused
      exact ⟨encoderRate, runKind, ⟨run, rate, refused.1, refused.2⟩, Except.ok.inj accepted⟩

/-! ### Writing and reading -/

/-- The image that `encodeHeader` writes -/
def headerImage (header : LogHeader) : HeaderBytes :=
  Image.sealBytes ownCrc (headerFields header) 252

theorem encodeHeader_eq_some_iff {bytes : HeaderBytes} :
    encodeHeader header = some bytes ↔ headerValid header = true ∧ headerImage header = bytes := by
  unfold encodeHeader headerImage
  split_ifs with valid
  · simp [valid]
  · simp [valid]

theorem readLike_headerImage {field : Field} (written : field ∈ headerFields header) :
    (Image.ofBytes (headerImage header).toList).readLike field.offset field.value = field.value :=
  Image.readLike_sealBytes (pairwise_apart_headerFields header)
    (fun _ other => stop_le_of_mem_headerFields other) written

theorem readHeader_headerImage (header : LogHeader) :
    readHeader (Image.ofBytes (headerImage header).toList) header.encoderRate header.runKind =
      header := by
  have session := Image.getVector_eq <| Value.text.inj <|
    @readLike_headerImage header ⟨72, .text header.sessionId.toList⟩ (by simp [headerFields])
  have firmware := Image.getVector_eq <| Value.text.inj <|
    @readLike_headerImage header ⟨104, .text header.firmwareSha.toList⟩ (by simp [headerFields])
  have libs := Image.getVector_eq <| Value.text.inj <|
    @readLike_headerImage header ⟨144, .text header.aviEspLibsSha.toList⟩ (by simp [headerFields])
  have board := Image.getVector_eq <| Value.text.inj <|
    @readLike_headerImage header ⟨184, .text header.boardBuildId.toList⟩ (by simp [headerFields])
  have stands : ∀ field ∈ headerFields header, _ := fun _ => readLike_headerImage
  simp only [headerFields, List.forall_mem_cons, Image.readLike, Value.byte.injEq,
    Value.word32.injEq, Value.word64.injEq] at stands
  simp only [readHeader, stands, ByteEnum.ofByte_toByte, session, firmware, libs, board]

theorem headerFramed_headerImage (header : LogHeader) :
    HeaderFramed (headerImage header).toList where
  long := Vector.length_toList
  magic := Value.text.inj <|
    @readLike_headerImage header ⟨0, .text kHeaderMagic⟩ (by simp [headerFields])
  schema := Value.word16.inj <|
    @readLike_headerImage header ⟨8, .word16 kSchemaVersion⟩ (by simp [headerFields])
  headerSize := Value.word16.inj <|
    @readLike_headerImage header ⟨10, .word16 256⟩ (by simp [headerFields])
  recordSize := Value.word16.inj <|
    @readLike_headerImage header ⟨12, .word16 320⟩ (by simp [headerFields])
  footerSize := Value.word16.inj <|
    @readLike_headerImage header ⟨14, .word16 192⟩ (by simp [headerFields])
  consumerRate := Value.word16.inj <|
    @readLike_headerImage header ⟨18, .word16 kConsumerRateHz⟩ (by simp [headerFields])
  contract := Value.word32.inj <|
    @readLike_headerImage header ⟨24, .word32 kProfileContractVersion⟩ (by simp [headerFields])
  checked := Image.getU32_sealBytes (pairwise_apart_headerFields header)
    fun _ written => stop_le_of_mem_headerFields written
  reserved address reserved := Image.ofBytes_sealBytes_of_untouched (by omega)
    (untouched_header_of_reserved reserved)

theorem knownRun_of_headerValid (valid : headerValid header = true) :
    knownRun header.runKind = true := by
  simp only [headerValid, Bool.and_eq_true] at valid
  exact valid.1.1.1.1.1.1.1.1.2

theorem runOfFlags_runFlags {kind : RunKind} (known : knownRun kind = true) :
    runOfFlags (runFlags kind) = some kind := by
  cases kind with
  | none => cases known
  | rateCheck => rfl
  | full => rfl

theorem runFlags_of_runOfFlags {flags : UInt32} {kind : RunKind}
    (read : runOfFlags flags = some kind) : runFlags kind = flags := by
  unfold runOfFlags at read
  split_ifs at read with check whole
  · rw [← Option.some.inj read, check]
    rfl
  · rw [← Option.some.inj read, whole]
    rfl

/-- An accepted header is read back as it was. -/
theorem decodeHeader_of_encodeHeader {bytes : HeaderBytes}
    (accepted : encodeHeader header = some bytes) : decodeHeader bytes.toList = .ok header := by
  obtain ⟨valid, rfl⟩ := encodeHeader_eq_some_iff.mp accepted
  have run : (Image.ofBytes (headerImage header).toList).getU32 248 = runFlags header.runKind :=
    Value.word32.inj <|
      @readLike_headerImage header ⟨248, .word32 (runFlags header.runKind)⟩ (by simp [headerFields])
  have rate : (Image.ofBytes (headerImage header).toList).getU32 20 = header.encoderRate.toWord :=
    Value.word32.inj <|
      @readLike_headerImage header ⟨20, .word32 header.encoderRate.toWord⟩ (by simp [headerFields])
  have stage : Image.ofBytes (headerImage header).toList 16 = ByteEnum.toByte header.stage :=
    Value.byte.inj <|
      @readLike_headerImage header ⟨16, .byte (ByteEnum.toByte header.stage)⟩
        (by simp [headerFields])
  have sound : HeaderSound (headerImage header).toList header.encoderRate header.runKind :=
    { run := by rw [run, runOfFlags_runFlags (knownRun_of_headerValid valid)]
      rate := by rw [rate, EncoderRate.ofWord_toWord]
      stage := by rw [stage, ByteEnum.valid_toByte]
      valid := (congrArg headerValid (readHeader_headerImage header)).trans valid }
  rw [decodeHeader_of_sound (headerFramed_headerImage header) sound, readHeader_headerImage]

/-- The image of an accepted header is written again from what was read. -/
theorem encodeHeader_of_decodeHeader {decoded : LogHeader}
    (accepted : decodeHeader data = .ok decoded) :
    ∃ bytes, encodeHeader decoded = some bytes ∧ bytes.toList = data := by
  have framed := framed_of_decodeHeader accepted
  obtain ⟨encoderRate, runKind, sound, rfl⟩ := sound_of_decodeHeader accepted
  refine ⟨headerImage (readHeader (Image.ofBytes data) encoderRate runKind),
    encodeHeader_eq_some_iff.mpr ⟨sound.valid, rfl⟩, ?_⟩
  apply Image.sealBytes_eq (pairwise_apart_headerFields _)
    (fun _ written => stop_le_of_mem_headerFields written) framed.long _ _ framed.checked
  · simp only [headerFields, List.forall_mem_cons, Image.readLike, readHeader, Value.text.injEq,
      Image.toList_getVector, ByteEnum.toByte_ofByte _ sound.stage,
      EncoderRate.toWord_of_ofWord sound.rate, runFlags_of_runOfFlags sound.run, framed.schema,
      framed.headerSize, framed.recordSize, framed.footerSize, framed.consumerRate, framed.contract,
      true_and]
    exact ⟨framed.magic, by simp⟩
  · intro address before untouched
    exact framed.reserved address (reserved_of_untouched_header before untouched)

end MissionBoard.Characterization
