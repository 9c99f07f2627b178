import MissionBoard.Characterization.LogFormatV5

/-!
Owns the round trip of the V5 footer. Every image that `decodeFooter` accepts is written
again, and every footer that `encodeFooter` writes is read back but for those that bucket
collisions alone justify: they are not on the wire, so the decoder finds no evidence.
-/

namespace MissionBoard.Characterization

open ByteLayout

variable {footer : LogFooter} {data : List UInt8}

/-- The footer as far as it is written: three of the statistics are not. -/
def LogFooter.onWire (footer : LogFooter) : LogFooter :=
  { footer with
    statistics :=
      { footer.statistics with releasedEpochs := 0, incompleteEpochs := 0, bucketCollisions := 0 } }

/-! ### The layout -/

/-- Where the fields of a footer begin and end -/
def footerExtents : List (ℕ × ℕ) :=
  [(0, 8), (8, 10), (10, 12), (12, 13), (13, 14), (14, 15), (16, 24), (24, 32), (32, 40), (40, 48),
    (48, 56), (56, 64), (64, 72), (72, 80), (80, 88), (88, 96), (96, 104), (104, 112), (112, 120),
    (120, 128), (128, 136), (136, 144), (144, 152), (152, 156), (156, 160), (160, 164), (164, 168),
    (168, 172)]

theorem map_extent_footerFields (footer : LogFooter) :
    (footerFields footer).map (fun field => (field.offset, field.stop)) = footerExtents := rfl

theorem pairwise_apart_footerFields (footer : LogFooter) :
    (footerFields footer).Pairwise Image.Apart :=
  Image.pairwise_apart_of_extents footerExtents (map_extent_footerFields footer) (by decide)

theorem stop_le_of_mem_footerFields {field : Field} (written : field ∈ footerFields footer) :
    field.stop ≤ 188 := by
  have extent : (field.offset, field.stop) ∈ footerExtents := by
    rw [← map_extent_footerFields footer]
    exact List.mem_map_of_mem written
  have all : ∀ extent ∈ footerExtents, extent.2 ≤ 188 := by decide
  exact all _ extent

/-- What is written nowhere is reserved. -/
theorem reserved_of_untouched_footer {address : ℕ} (before : address < 188)
    (untouched : Image.Untouched (footerFields footer) address) :
    address = 15 ∨ 172 ≤ address := by
  have outside : ∀ extent ∈ footerExtents, address < extent.1 ∨ extent.2 ≤ address := by
    intro extent stands
    rw [← map_extent_footerFields footer] at stands
    obtain ⟨field, written, rfl⟩ := List.mem_map.mp stands
    exact untouched field written
  simp only [footerExtents, List.forall_mem_cons] at outside
  omega

theorem untouched_footer_of_extents {address : ℕ}
    (outside : ∀ extent ∈ footerExtents, address < extent.1 ∨ extent.2 ≤ address) :
    Image.Untouched (footerFields footer) address := by
  intro field written
  apply outside (field.offset, field.stop)
  rw [← map_extent_footerFields footer]
  exact List.mem_map_of_mem written

/-! ### What an accepted image is -/

/-- What `decodeFooter` asks of the bytes before it looks at the footer -/
structure FooterFramed (data : List UInt8) : Prop where
  long : data.length = 192
  magic : (Image.ofBytes data).slice 0 8 = kFooterMagic
  schema : (Image.ofBytes data).getU16 8 = kSchemaVersion
  size : (Image.ofBytes data).getU16 10 = 192
  checked : (Image.ofBytes data).getU32 188 = ownCrc ((Image.ofBytes data).slice 0 188)
  supported : Image.ofBytes data 13 ≤ 1
  reserved : Image.ofBytes data 15 = 0
  tail : ∀ address, 172 ≤ address → address < 188 → Image.ofBytes data address = 0

/-- What it asks of the footer -/
structure FooterSound (data : List UInt8) : Prop where
  completion : ByteEnum.valid CompletionCode (Image.ofBytes data 12) = true
  reason : ByteEnum.valid UnsupportedReason (Image.ofBytes data 14) = true
  valid : footerValid (readFooter (Image.ofBytes data)) = true

/-- A framed image is accepted when its footer is sound. -/
theorem decodeFooter_of_framed (framed : FooterFramed data) :
    decodeFooter data =
      if ByteEnum.valid CompletionCode (Image.ofBytes data 12) = false ∨
          ByteEnum.valid UnsupportedReason (Image.ofBytes data 14) = false ∨
          footerValid (readFooter (Image.ofBytes data)) = false then
        .error .enum
      else .ok (readFooter (Image.ofBytes data)) := by
  have zeros : allZero ((Image.ofBytes data).slice 172 16) = true :=
    (allZero_slice_iff _ _ _).mpr framed.tail
  have long := framed.long
  unfold decodeFooter
  dsimp only
  rw [if_neg (by rw [long]; decide), if_neg (by rw [long]; decide), if_neg (by simp [framed.magic]),
    if_neg (by simp [framed.schema]), if_neg (by simp [framed.size]),
    if_neg (by simp [framed.checked]),
    if_neg (by simp [framed.reserved, zeros, framed.supported])]

theorem framed_of_decodeFooter {decoded : LogFooter} (accepted : decodeFooter data = .ok decoded) :
    FooterFramed data := by
  unfold decodeFooter at accepted
  dsimp only at accepted
  split_ifs at accepted with short long magic schema size checked reserved
  rw [not_or, not_or, Bool.not_eq_false, allZero_slice_iff] at reserved
  unfold kFooterBytes at short long
  exact
    { long := by omega
      magic := not_not.mp magic
      schema := not_not.mp schema
      size := not_not.mp size
      checked := not_not.mp checked
      supported := UInt8.not_lt.mp reserved.1
      reserved := not_not.mp reserved.2.1
      tail := reserved.2.2 }

theorem decodeFooter_eq_ok_iff {decoded : LogFooter} :
    decodeFooter data = .ok decoded ↔
      FooterFramed data ∧ FooterSound data ∧ readFooter (Image.ofBytes data) = decoded := by
  constructor
  · intro accepted
    have framed := framed_of_decodeFooter accepted
    rw [decodeFooter_of_framed framed] at accepted
    split_ifs at accepted with refused
    simp only [not_or, Bool.not_eq_false] at refused
    exact ⟨framed, ⟨refused.1, refused.2.1, refused.2.2⟩, Except.ok.inj accepted⟩
  · rintro ⟨framed, sound, rfl⟩
    rw [decodeFooter_of_framed framed, if_neg]
    simp [sound.completion, sound.reason, sound.valid]

/-! ### Writing and reading -/

/-- The image that `encodeFooter` writes -/
def footerImage (footer : LogFooter) : FooterBytes :=
  Image.sealBytes ownCrc (footerFields footer) 188

theorem encodeFooter_eq_some_iff {bytes : FooterBytes} :
    encodeFooter footer = some bytes ↔ footerValid footer = true ∧ footerImage footer = bytes := by
  unfold encodeFooter footerImage
  split_ifs with valid
  · simp [valid]
  · simp [valid]

theorem readLike_footerImage {field : Field} (written : field ∈ footerFields footer) :
    (Image.ofBytes (footerImage footer).toList).readLike field.offset field.value = field.value :=
  Image.readLike_sealBytes (pairwise_apart_footerFields footer)
    (fun _ other => stop_le_of_mem_footerFields other) written

theorem readFooter_footerImage (footer : LogFooter) :
    readFooter (Image.ofBytes (footerImage footer).toList) = footer.onWire := by
  have stands : ∀ field ∈ footerFields footer, _ := fun _ => readLike_footerImage
  simp only [footerFields, List.forall_mem_cons, Image.readLike, Value.byte.injEq,
    Value.word32.injEq, Value.word64.injEq] at stands
  simp only [readFooter, readStatistics, stands, LogFooter.onWire, ByteEnum.ofByte_toByte,
    flagByte_beq, Int32.toInt32_toUInt32]

theorem footerFramed_footerImage (footer : LogFooter) :
    FooterFramed (footerImage footer).toList where
  long := Vector.length_toList
  magic := Value.text.inj <|
    @readLike_footerImage footer ⟨0, .text kFooterMagic⟩ (by simp [footerFields])
  schema := Value.word16.inj <|
    @readLike_footerImage footer ⟨8, .word16 kSchemaVersion⟩ (by simp [footerFields])
  size := Value.word16.inj <|
    @readLike_footerImage footer ⟨10, .word16 192⟩ (by simp [footerFields])
  checked := Image.getU32_sealBytes (pairwise_apart_footerFields footer)
    fun _ written => stop_le_of_mem_footerFields written
  supported := by
    have flag : Image.ofBytes (footerImage footer).toList 13 = flagByte footer.rateSupported :=
      Value.byte.inj <|
        @readLike_footerImage footer ⟨13, .byte (flagByte footer.rateSupported)⟩
          (by simp [footerFields])
    rw [flag]
    exact flagByte_le _
  reserved := Image.ofBytes_sealBytes_of_untouched (by decide)
    (untouched_footer_of_extents (by decide))
  tail address from_tail before := by
    have all : ∀ extent ∈ footerExtents, extent.2 ≤ 172 := by decide
    exact Image.ofBytes_sealBytes_of_untouched before <|
      untouched_footer_of_extents fun extent stands =>
        Or.inr ((all extent stands).trans from_tail)

/-- A written footer is read back when the rules accept what is on the wire. -/
theorem decodeFooter_footerImage (footer : LogFooter) :
    decodeFooter (footerImage footer).toList =
      if footerValid footer.onWire then .ok footer.onWire else .error .enum := by
  have completion : Image.ofBytes (footerImage footer).toList 12 =
      ByteEnum.toByte footer.completion :=
    Value.byte.inj <|
      @readLike_footerImage footer ⟨12, .byte (ByteEnum.toByte footer.completion)⟩
        (by simp [footerFields])
  have reason : Image.ofBytes (footerImage footer).toList 14 =
      ByteEnum.toByte footer.unsupportedReason :=
    Value.byte.inj <|
      @readLike_footerImage footer ⟨14, .byte (ByteEnum.toByte footer.unsupportedReason)⟩
        (by simp [footerFields])
  rw [decodeFooter_of_framed (footerFramed_footerImage footer), readFooter_footerImage, completion,
    reason, ByteEnum.valid_toByte, ByteEnum.valid_toByte]
  by_cases valid : footerValid footer.onWire = true
  · simp [valid]
  · simp [valid]

/-- The image of an accepted footer is written again from what was read. -/
theorem encodeFooter_of_decodeFooter {decoded : LogFooter}
    (accepted : decodeFooter data = .ok decoded) :
    ∃ bytes, encodeFooter decoded = some bytes ∧ bytes.toList = data := by
  obtain ⟨framed, sound, rfl⟩ := decodeFooter_eq_ok_iff.mp accepted
  refine ⟨footerImage (readFooter (Image.ofBytes data)), encodeFooter_eq_some_iff.mpr
    ⟨sound.valid, rfl⟩, ?_⟩
  apply Image.sealBytes_eq (pairwise_apart_footerFields _)
    (fun _ written => stop_le_of_mem_footerFields written) framed.long _ _ framed.checked
  · simp only [footerFields, List.forall_mem_cons, Image.readLike, readFooter, readStatistics,
      Value.text.injEq, UInt32.toUInt32_toInt32, ByteEnum.toByte_ofByte _ sound.completion,
      ByteEnum.toByte_ofByte _ sound.reason, flagByte_of_le framed.supported, framed.schema,
      framed.size, true_and]
    exact ⟨framed.magic, by simp⟩
  · intro address before untouched
    rcases reserved_of_untouched_footer before untouched with rfl | behind
    · exact framed.reserved
    · exact framed.tail address behind before

/-! ### The evidence that is not on the wire -/

theorem validFooterState_queueOverflow
    (state : validFooterState footer.completion footer.rateSupported footer.unsupportedReason = true)
    (reason : footer.unsupportedReason = .queueOverflow) : footer.completion = .unsupported := by
  rw [reason] at state
  cases completion : footer.completion with
  | normal => simp [completion, validFooterState] at state
  | aborted => simp [completion, validFooterState] at state
  | unsupported => rfl

/-- Only the evidence of a queue overflow uses a statistic that is not written. -/
theorem hasUnsupportedEvidence_onWire (footer : LogFooter) :
    hasUnsupportedEvidence footer.onWire =
      if footer.unsupportedReason = .queueOverflow then
        footer.statistics.rawQueueOverflows != 0 || footer.statistics.writerQueueOverflows != 0
      else hasUnsupportedEvidence footer := by
  unfold hasUnsupportedEvidence LogFooter.onWire
  cases footer.unsupportedReason <;> simp

theorem footerValid_onWire_iff (valid : footerValid footer = true) :
    footerValid footer.onWire = true ↔
      (footer.unsupportedReason = .queueOverflow →
        footer.statistics.rawQueueOverflows ≠ 0 ∨ footer.statistics.writerQueueOverflows ≠ 0) := by
  have fields : footerFieldsValid footer.onWire = footerFieldsValid footer := rfl
  unfold footerValid at valid ⊢
  simp only [Bool.and_eq_true] at valid
  obtain ⟨⟨state, fieldsValid⟩, evidence⟩ := valid
  rw [fields, fieldsValid, hasUnsupportedEvidence_onWire]
  show (validFooterState footer.completion footer.rateSupported footer.unsupportedReason && true &&
      (footer.completion != .unsupported || _)) = true ↔ _
  rw [state]
  by_cases overflow : footer.unsupportedReason = .queueOverflow
  · simp [overflow, validFooterState_queueOverflow state overflow]
  · simpa [overflow] using evidence

/-- The footer of a run that ended before its first record, with one of its epochs refused -/
def abandonedFooter : LogFooter :=
  { completion := .unsupported
    unsupportedReason := .queueOverflow
    statistics := { rawQueueOverflows := 1 }
    shutdownStepMask := 0x3F }

/-- The same footer with a bucket collision for its evidence -/
def collidedFooter : LogFooter :=
  { abandonedFooter with statistics := { bucketCollisions := 1 } }

end MissionBoard.Characterization
