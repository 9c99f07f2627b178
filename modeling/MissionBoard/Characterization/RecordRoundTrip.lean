import MissionBoard.Characterization.HeaderRoundTrip
import MissionBoard.Characterization.RecordFormat

/-!
Owns the round trip of the V5 record: every record without errors is read back but for what
is not written, and every image that `decodeRecord` accepts is written again. With the header
this is the round trip of all that stands before the footer.
-/

namespace MissionBoard.Characterization

open ByteLayout RecordValidationError

variable {record : LogRecord} {data : List UInt8}

/-- The epoch as far as it is written: the count of observed samples and the mean are not, nor
is what stands in the slots without a sample. -/
def EncoderEpochBlock.onWire (block : EncoderEpochBlock) : EncoderEpochBlock :=
  { block with
    observedSampleCount := block.actualSampleCount
    meanUnwrappedCountsQ16 := 0
    samples := Vector.ofFn fun slot => if block.presentAt slot then block.sampleAt slot else {} }

def LogRecord.onWire (record : LogRecord) : LogRecord :=
  { record with encoder := record.encoder.onWire }

/-! ### The layout -/

/-- Where the fields before the samples begin and end -/
def epochExtents : List (ℕ × ℕ) :=
  [(0, 4), (4, 12), (12, 20), (20, 28), (28, 36), (36, 44), (44, 52), (52, 60), (60, 68), (68, 76),
    (76, 80), (80, 84), (84, 88), (88, 92), (92, 96), (96, 100), (100, 104), (104, 106), (106, 108),
    (108, 110), (110, 112), (112, 113), (113, 114), (114, 115), (115, 116), (116, 117), (117, 118),
    (118, 119), (120, 121), (121, 122), (122, 123), (123, 124), (124, 125), (125, 126), (126, 128),
    (128, 129), (129, 130), (130, 131), (132, 136)]

theorem map_extent_epochFields (record : LogRecord) :
    (epochFields record).map (fun field => (field.offset, field.stop)) = epochExtents := rfl

theorem extent_of_mem_epochFields {field : Field} (written : field ∈ epochFields record) :
    (field.offset, field.stop) ∈ epochExtents := by
  rw [← map_extent_epochFields record]
  exact List.mem_map_of_mem written

theorem pairwise_apart_epochFields (record : LogRecord) :
    (epochFields record).Pairwise Image.Apart :=
  Image.pairwise_apart_of_extents epochExtents (map_extent_epochFields record) (by decide)

theorem stop_le_of_mem_epochFields {field : Field} (written : field ∈ epochFields record) :
    field.stop ≤ 136 := by
  have all : ∀ extent ∈ epochExtents, extent.2 ≤ 136 := by decide
  exact all _ (extent_of_mem_epochFields written)

/-- The fields of a sample fill its slot but for the last two bytes. -/
theorem map_extent_sampleFields (base : ℕ) (sample : RawEncoderSample) (slot : UInt8) :
    (sampleFields base sample slot).map (fun field => (field.offset, field.stop)) =
      [(base, base + 8), (base + 8, base + 16), (base + 16, base + 24), (base + 24, base + 26),
        (base + 26, base + 28), (base + 28, base + 32), (base + 32, base + 33),
        (base + 33, base + 34)] := rfl

theorem pairwise_apart_sampleFields (base : ℕ) (sample : RawEncoderSample) (slot : UInt8) :
    (sampleFields base sample slot).Pairwise Image.Apart := by
  apply Image.pairwise_apart_of_extents _ (map_extent_sampleFields base sample slot)
  simp

theorem bounds_of_mem_sampleFields {base : ℕ} {sample : RawEncoderSample} {slot : UInt8}
    {field : Field} (written : field ∈ sampleFields base sample slot) :
    base ≤ field.offset ∧ field.stop ≤ base + 34 := by
  have extent : (field.offset, field.stop) ∈ _ :=
    map_extent_sampleFields base sample slot ▸ List.mem_map_of_mem written
  simp only [List.mem_cons, Prod.mk.injEq, List.not_mem_nil, or_false] at extent
  omega

theorem bounds_of_mem_slotFields {block : EncoderEpochBlock} {slot : Fin 5} {field : Field}
    (written : field ∈ slotFields block slot) :
    slotBase slot ≤ field.offset ∧ field.stop ≤ slotBase slot + 34 := by
  unfold slotFields at written
  split_ifs at written
  · exact bounds_of_mem_sampleFields written
  · cases written

theorem pairwise_apart_slotFields (block : EncoderEpochBlock) (slot : Fin 5) :
    (slotFields block slot).Pairwise Image.Apart := by
  unfold slotFields
  split_ifs
  · exact pairwise_apart_sampleFields _ _ _
  · exact List.Pairwise.nil

theorem pairwise_apart_recordFields (record : LogRecord) :
    (recordFields record).Pairwise Image.Apart := by
  refine List.pairwise_append.mpr ⟨pairwise_apart_epochFields record, ?_, ?_⟩
  · refine List.pairwise_flatMap.mpr
      ⟨fun slot _ => pairwise_apart_slotFields record.encoder slot, ?_⟩
    refine (List.pairwise_lt_finRange 5).imp ?_
    intro slot later below first written second after
    have firstBounds := bounds_of_mem_slotFields written
    have secondBounds := bounds_of_mem_slotFields after
    have apart : slot.val < later.val := below
    unfold slotBase at firstBounds secondBounds
    exact Or.inl (by omega)
  · intro first written second after
    obtain ⟨slot, _, within⟩ := List.mem_flatMap.mp after
    have firstBound := stop_le_of_mem_epochFields written
    have secondBounds := bounds_of_mem_slotFields within
    unfold slotBase at secondBounds
    exact Or.inl (by omega)

theorem stop_le_of_mem_recordFields {field : Field} (written : field ∈ recordFields record) :
    field.stop ≤ 316 := by
  rcases List.mem_append.mp written with before | sample
  · exact (stop_le_of_mem_epochFields before).trans (by decide)
  · obtain ⟨slot, _, within⟩ := List.mem_flatMap.mp sample
    have bounds := bounds_of_mem_slotFields within
    have small := slot.isLt
    unfold slotBase at bounds
    omega

/-! ### Bytes that are not written -/

/-- The reserved bytes before the samples -/
theorem untouched_of_reserved {address : ℕ} (reserved : address = 119 ∨ address = 131) :
    Image.Untouched (recordFields record) address := by
  intro field written
  rcases List.mem_append.mp written with before | sample
  · have apart : ∀ extent ∈ epochExtents,
        (119 < extent.1 ∨ extent.2 ≤ 119) ∧ (131 < extent.1 ∨ extent.2 ≤ 131) := by
      decide
    have bounds := apart _ (extent_of_mem_epochFields before)
    dsimp only at bounds
    omega
  · obtain ⟨slot, _, within⟩ := List.mem_flatMap.mp sample
    have bounds := bounds_of_mem_slotFields within
    unfold slotBase at bounds
    omega

/-- The bytes of a slot that its sample, if there is one, leaves alone -/
theorem untouched_in_slot {slot : Fin 5} {index : ℕ} (inside : index < 36)
    (spare : record.encoder.presentAt slot = true → 34 ≤ index) :
    Image.Untouched (recordFields record) (slotBase slot + index) := by
  intro field written
  rcases List.mem_append.mp written with before | sample
  · have bound := stop_le_of_mem_epochFields before
    unfold slotBase
    omega
  · obtain ⟨other, _, within⟩ := List.mem_flatMap.mp sample
    have bounds := bounds_of_mem_slotFields within
    by_cases same : other = slot
    · subst same
      unfold slotFields at within
      split_ifs at within with present
      · have behind := spare present
        omega
      · cases within
    · have distinct : other.val ≠ slot.val := Fin.val_ne_of_ne same
      unfold slotBase at bounds ⊢
      omega

theorem outside_of_outside_sampleFields {base address : ℕ} {sample : RawEncoderSample}
    {slot : UInt8}
    (outside : Image.Untouched (sampleFields base sample slot) address) :
    address < base ∨ base + 34 ≤ address := by
  have extents : ∀ extent ∈
      (sampleFields base sample slot).map (fun field => (field.offset, field.stop)),
      address < extent.1 ∨ extent.2 ≤ address := by
    intro extent stands
    obtain ⟨field, written, rfl⟩ := List.mem_map.mp stands
    exact outside field written
  rw [map_extent_sampleFields] at extents
  simp only [List.forall_mem_cons] at extents
  omega

/-- What is written nowhere is reserved, or spare in its slot. -/
theorem reserved_of_untouched_record {address : ℕ} (before : address < 316)
    (untouched : Image.Untouched (recordFields record) address) :
    address = 119 ∨ address = 131 ∨
      ∃ slot : Fin 5, ∃ index < 36, address = slotBase slot + index ∧
        (record.encoder.presentAt slot = true → 34 ≤ index) := by
  by_cases samples : address < 136
  · have outside : ∀ extent ∈ epochExtents, address < extent.1 ∨ extent.2 ≤ address := by
      intro extent stands
      rw [← map_extent_epochFields record] at stands
      obtain ⟨field, written, rfl⟩ := List.mem_map.mp stands
      exact untouched field (List.mem_append_left _ written)
    simp only [epochExtents, List.forall_mem_cons] at outside
    omega
  · obtain ⟨slot, located⟩ : ∃ slot : Fin 5, slot.val = (address - 136) / 36 :=
      ⟨⟨(address - 136) / 36, by omega⟩, rfl⟩
    have place : address = slotBase slot + (address - 136) % 36 := by
      unfold slotBase
      omega
    refine Or.inr (Or.inr ⟨slot, (address - 136) % 36, Nat.mod_lt _ (by decide), place, ?_⟩)
    intro present
    have outside : Image.Untouched (sampleFields (slotBase slot) (record.encoder.sampleAt slot)
        (UInt8.ofNat slot.val)) address := by
      intro field written
      apply untouched field
      refine List.mem_append_right _ (List.mem_flatMap.mpr ⟨slot, List.mem_finRange slot, ?_⟩)
      unfold slotFields
      rwa [if_pos present]
    have behind := outside_of_outside_sampleFields outside
    omega

/-! ### What an accepted image is -/

/-- What `decodeRecord` asks of the bytes before it looks at the record -/
structure RecordFramed (data : List UInt8) : Prop where
  long : data.length = 320
  magic : (Image.ofBytes data).slice 0 4 = kRecordMagic
  checked : (Image.ofBytes data).getU32 316 = ownCrc ((Image.ofBytes data).slice 0 316)
  reserved : Image.ofBytes data 119 = 0 ∧ Image.ofBytes data 131 = 0
  power : Image.ofBytes data 118 ≤ 1
  slots : ∀ slot, slotError (Image.ofBytes data) slot = none

/-- What it asks of the record -/
structure RecordSound (data : List UInt8) (encoderRate : EncoderRate) : Prop where
  rate : rateOfSamples (Image.ofBytes data 120) = some encoderRate
  zeroReference : ByteEnum.valid ZeroReferenceKind (Image.ofBytes data 128) = true
  enums : recordEnumsValid (Image.ofBytes data) = true
  valid : validateRecordStrict (readRecord (Image.ofBytes data) encoderRate) = 0

theorem findSome?_slotError_eq_none_iff (image : Image) :
    (List.finRange 5).findSome? (slotError image) = none ↔ ∀ slot, slotError image slot = none := by
  simp [List.findSome?_eq_none_iff]

theorem decodeRecord_eq_ok_iff {decoded : LogRecord} :
    decodeRecord data = .ok decoded ↔
      ∃ encoderRate, RecordFramed data ∧ RecordSound data encoderRate ∧
        readRecord (Image.ofBytes data) encoderRate = decoded := by
  constructor
  · intro accepted
    unfold decodeRecord at accepted
    dsimp only at accepted
    split_ifs at accepted with short long magic checked reserved power
    split at accepted
    · cases accepted
    · rename_i encoderRate rate
      split at accepted
      · cases accepted
      · rename_i slots
        unfold acceptRecord at accepted
        split_ifs at accepted with zeroReference enums error
        simp only [not_or, not_not] at reserved
        unfold kRecordBytes at short long
        exact ⟨encoderRate,
          { long := by omega
            magic := not_not.mp magic
            checked := not_not.mp checked
            reserved := reserved
            power := UInt8.not_lt.mp power
            slots := (findSome?_slotError_eq_none_iff _).mp slots },
          { rate := rate
            zeroReference := Bool.not_eq_false _ ▸ zeroReference
            enums := Bool.not_eq_false _ ▸ enums
            valid := by simpa [hasError] using error },
          Except.ok.inj accepted⟩
  · rintro ⟨encoderRate, framed, sound, rfl⟩
    have long := framed.long
    have clean : hasError (validateRecordStrict (readRecord (Image.ofBytes data) encoderRate)) =
        false := by
      rw [sound.valid]
      rfl
    unfold decodeRecord
    dsimp only
    rw [if_neg (by rw [long]; decide), if_neg (by rw [long]; decide),
      if_neg (by simp [framed.magic]), if_neg (by simp [framed.checked]),
      if_neg (by simp [framed.reserved]), if_neg (UInt8.not_lt.mpr framed.power), sound.rate]
    dsimp only
    rw [(findSome?_slotError_eq_none_iff _).mpr framed.slots]
    dsimp only
    unfold acceptRecord
    rw [if_neg (by simp [sound.zeroReference]), if_neg (by simp [sound.enums]),
      if_neg (by simp [clean])]

/-! ### Slots -/

theorem getU64_of_allZero {image : Image} {base : ℕ}
    (zeros : allZero (image.slice base 36) = true) : image.getU64 base = 0 := by
  rw [allZero_slice_iff] at zeros
  unfold Image.getU64
  rw [zeros base (by omega) (by omega), zeros (base + 1) (by omega) (by omega),
    zeros (base + 2) (by omega) (by omega), zeros (base + 3) (by omega) (by omega),
    zeros (base + 4) (by omega) (by omega), zeros (base + 5) (by omega) (by omega),
    zeros (base + 6) (by omega) (by omega), zeros (base + 7) (by omega) (by omega)]
  decide

/-- A slot without error has nothing in its spare bytes, and a sample in it names its slot. -/
theorem slotError_eq_none_iff {image : Image} {slot : Fin 5} :
    slotError image slot = none ↔
      (image (slotBase slot + 34) = 0 ∧ image (slotBase slot + 35) = 0) ∧
        (slotOccupied image slot = true →
          image (slotBase slot + 32) ≤ 1 ∧ image (slotBase slot + 33) = UInt8.ofNat slot.val) := by
  have spare : allZero (image.slice (slotBase slot + 34) 2) = true ↔
      image (slotBase slot + 34) = 0 ∧ image (slotBase slot + 35) = 0 := by
    simp [allZero, Image.slice, List.range_succ, Nat.add_assoc]
  unfold slotError
  by_cases clear : allZero (image.slice (slotBase slot + 34) 2) = true
  · rw [if_neg (by simp [clear]), ← spare]
    by_cases occupied : slotOccupied image slot = true
    · rw [if_neg (by simp [occupied])]
      split_ifs with wrong
      · simp only [clear, occupied, true_and, false_iff, forall_const]
        rintro ⟨flag, named⟩
        rcases wrong with high | other
        · exact absurd high (UInt8.not_lt.mpr flag)
        · exact other named
      · rw [not_or, UInt8.not_lt, not_not] at wrong
        simp [clear, occupied, wrong]
    · simp [clear, occupied]
  · rw [if_pos (by simpa using clear), ← spare]
    simp [clear]

/-! ### Writing and reading -/

/-- The image that `encodeRecord` writes -/
def recordImage (record : LogRecord) : RecordBytes :=
  Image.sealBytes ownCrc (recordFields record) 316

theorem encodeRecord_eq_some_iff {bytes : RecordBytes} :
    encodeRecord record = some bytes ↔
      validateRecordStrict record = 0 ∧ recordImage record = bytes := by
  unfold encodeRecord recordImage hasError
  by_cases valid : validateRecordStrict record = 0
  · simp [valid]
  · simp [valid]

theorem readLike_recordImage {field : Field} (written : field ∈ recordFields record) :
    (Image.ofBytes (recordImage record).toList).readLike field.offset field.value = field.value :=
  Image.readLike_sealBytes (pairwise_apart_recordFields record)
    (fun _ other => stop_le_of_mem_recordFields other) written

theorem readLike_recordImage_epoch {field : Field} (written : field ∈ epochFields record) :
    (Image.ofBytes (recordImage record).toList).readLike field.offset field.value = field.value :=
  readLike_recordImage (List.mem_append_left _ written)

theorem recordImage_of_untouched {address : ℕ} (before : address < 316)
    (untouched : Image.Untouched (recordFields record) address) :
    Image.ofBytes (recordImage record).toList address = 0 :=
  Image.ofBytes_sealBytes_of_untouched before untouched

/-- What stands in the slot of a sample that is present -/
theorem stands_in_slot {slot : Fin 5} (present : record.encoder.presentAt slot = true) :
    ∀ field ∈ sampleFields (slotBase slot) (record.encoder.sampleAt slot) (UInt8.ofNat slot.val),
      (Image.ofBytes (recordImage record).toList).readLike field.offset field.value =
        field.value := by
  intro field written
  apply readLike_recordImage
  refine List.mem_append_right _ (List.mem_flatMap.mpr ⟨slot, List.mem_finRange slot, ?_⟩)
  unfold slotFields
  rwa [if_pos present]

theorem slotOccupied_recordImage (sound : record.encoder.SlotsSound (List.finRange 5))
    (slot : Fin 5) :
    slotOccupied (Image.ofBytes (recordImage record).toList) slot =
      record.encoder.presentAt slot := by
  unfold slotOccupied
  cases present : record.encoder.presentAt slot with
  | true =>
      have generated := (sound slot (List.mem_finRange slot) present).1.generated
      have written : (Image.ofBytes (recordImage record).toList).getU64 (slotBase slot) =
          (record.encoder.sampleAt slot).generation :=
        Value.word64.inj (stands_in_slot present
          ⟨slotBase slot, .word64 (record.encoder.sampleAt slot).generation⟩ (by simp [sampleFields]))
      rw [Bool.not_eq_true', ← Bool.not_eq_true]
      intro zeros
      exact generated (written ▸ getU64_of_allZero zeros)
  | false =>
      rw [Bool.not_eq_false', allZero_slice_iff]
      intro address begun before
      have small := slot.isLt
      have bound : slotBase slot + 36 ≤ 316 := by
        unfold slotBase
        omega
      obtain ⟨index, rfl⟩ := Nat.exists_eq_add_of_le begun
      apply recordImage_of_untouched (by omega)
      apply untouched_in_slot (by omega)
      intro here
      rw [present] at here
      cases here

theorem ofNat_eq_slot {block : EncoderEpochBlock} {slot : Fin 5} {sample : RawEncoderSample}
    (placed : SamplePlaced block slot sample) : UInt8.ofNat slot.val = sample.slot := by
  rw [← placed.slot, UInt8.ofNat_toNat]

theorem readSample_recordImage {slot : Fin 5} (present : record.encoder.presentAt slot = true)
    (placed : SamplePlaced record.encoder slot (record.encoder.sampleAt slot)) :
    readSample (Image.ofBytes (recordImage record).toList) (slotBase slot) =
      record.encoder.sampleAt slot := by
  have stands := stands_in_slot present
  simp only [sampleFields, List.forall_mem_cons, Image.readLike, Value.byte.injEq,
    Value.word16.injEq, Value.word32.injEq, Value.word64.injEq] at stands
  simp only [readSample, stands, Int32.toInt32_toUInt32, flagByte_beq, ofNat_eq_slot placed]

/-- What is read from the image of a record without errors -/
theorem readRecord_recordImage (valid : validateRecordStrict record = 0) :
    readRecord (Image.ofBytes (recordImage record).toList) record.encoderRate = record.onWire := by
  obtain ⟨before, sound, _, _⟩ := (validateRecordStrict_eq_zero_iff record).mp valid
  have occupied := slotOccupied_recordImage sound
  have selected : record.encoder.validSampleCount + record.encoder.invalidSampleCount =
      record.encoder.selectedSampleCount := by
    have counts := before (!record.encoder.countsConsistent, InconsistentCounts)
      (by simp [LogRecord.checksBeforeSamples])
    simp only [Bool.not_eq_false', EncoderEpochBlock.countsConsistent, Bool.and_eq_true,
      beq_iff_eq] at counts
    have bound := record.encoder.selectedSampleCount.toNat_lt
    rw [← UInt8.toNat_inj, UInt8.toNat_add]
    omega
  have samples : ∀ slot : Fin 5,
      (if slotOccupied (Image.ofBytes (recordImage record).toList) slot then
        readSample (Image.ofBytes (recordImage record).toList) (slotBase slot) else {}) =
      if record.encoder.presentAt slot then record.encoder.sampleAt slot else {} := by
    intro slot
    rw [occupied slot]
    split_ifs with present
    · exact readSample_recordImage present (sound slot (List.mem_finRange slot) present).1
    · rfl
  have present : Vector.ofFn (slotOccupied (Image.ofBytes (recordImage record).toList)) =
      record.encoder.samplePresent := by
    apply Vector.ext
    intro index inside
    rw [Vector.getElem_ofFn]
    exact occupied ⟨index, inside⟩
  have stands : ∀ field ∈ epochFields record, _ := fun _ => readLike_recordImage_epoch
  simp only [epochFields, List.forall_mem_cons, Image.readLike, Value.byte.injEq,
    Value.word16.injEq, Value.word32.injEq, Value.word64.injEq] at stands
  simp only [readRecord, readCommand, readPower, readEpoch, stands, samples, present, selected,
    LogRecord.onWire, EncoderEpochBlock.onWire, ByteEnum.ofByte_toByte, flagByte_beq,
    AbortReason.ofWord_toWord, Int32.toInt32_toUInt32, Int16.toInt16_toUInt16]

/-- The rules do not look at what is not written. -/
theorem validateRecordStrict_onWire (record : LogRecord) :
    validateRecordStrict record.onWire = 0 ↔ validateRecordStrict record = 0 := by
  have sample : ∀ slot : Fin 5, record.encoder.presentAt slot = true →
      record.onWire.encoder.sampleAt slot = record.encoder.sampleAt slot := by
    intro slot present
    simp only [LogRecord.onWire, EncoderEpochBlock.onWire, EncoderEpochBlock.sampleAt,
      Fin.getElem_fin, Vector.getElem_ofFn]
    exact if_pos present
  have sound : record.onWire.encoder.SlotsSound (List.finRange 5) ↔
      record.encoder.SlotsSound (List.finRange 5) := by
    unfold EncoderEpochBlock.SlotsSound
    refine forall₂_congr fun slot _ => forall_congr' fun present => ?_
    rw [sample slot present]
    exact and_congr_left fun _ => ⟨fun placed => { placed with }, fun placed => { placed with }⟩
  have samples : record.onWire.encoder.presentSamples = record.encoder.presentSamples := by
    unfold EncoderEpochBlock.presentSamples EncoderEpochBlock.samplesIn
    apply List.filterMap_congr
    intro slot _
    by_cases present : record.encoder.presentAt slot = true
    · rw [sample slot present]
      rfl
    · rw [if_neg present]
      exact if_neg present
  rw [validateRecordStrict_eq_zero_iff, validateRecordStrict_eq_zero_iff, sound, samples]
  rfl

theorem rateOfSamples_expectedSamplesPerEpoch (rate : EncoderRate) :
    rateOfSamples (expectedSamplesPerEpoch rate) = some rate := by
  cases rate <;> rfl

theorem recordFramed_recordImage (sound : record.encoder.SlotsSound (List.finRange 5)) :
    RecordFramed (recordImage record).toList where
  long := Vector.length_toList
  magic := Value.text.inj <|
    @readLike_recordImage_epoch record ⟨0, .text kRecordMagic⟩ (by simp [epochFields])
  checked := Image.getU32_sealBytes (pairwise_apart_recordFields record)
    fun _ written => stop_le_of_mem_recordFields written
  reserved := ⟨recordImage_of_untouched (by decide) (untouched_of_reserved (Or.inl rfl)),
    recordImage_of_untouched (by decide) (untouched_of_reserved (Or.inr rfl))⟩
  power := by
    have flag : Image.ofBytes (recordImage record).toList 118 = flagByte record.power.valid :=
      Value.byte.inj <|
        @readLike_recordImage_epoch record ⟨118, .byte (flagByte record.power.valid)⟩
          (by simp [epochFields])
    rw [flag]
    exact flagByte_le _
  slots slot := by
    have small := slot.isLt
    have bound : slotBase slot + 36 ≤ 316 := by
      unfold slotBase
      omega
    rw [slotError_eq_none_iff, slotOccupied_recordImage sound]
    refine ⟨⟨recordImage_of_untouched (by omega) (untouched_in_slot (by decide) (by simp)),
      recordImage_of_untouched (by omega) (untouched_in_slot (by decide) (by simp))⟩, ?_⟩
    intro present
    have stands := stands_in_slot present
    simp only [sampleFields, List.forall_mem_cons, Image.readLike, Value.byte.injEq] at stands
    obtain ⟨_, _, _, _, _, _, flag, named, _⟩ := stands
    rw [flag, named]
    exact ⟨flagByte_le _, rfl⟩

/-- A record without errors is read back. -/
theorem decodeRecord_of_encodeRecord {bytes : RecordBytes}
    (accepted : encodeRecord record = some bytes) :
    decodeRecord bytes.toList = .ok record.onWire := by
  obtain ⟨valid, rfl⟩ := encodeRecord_eq_some_iff.mp accepted
  obtain ⟨before, sound, _, after⟩ := (validateRecordStrict_eq_zero_iff record).mp valid
  have stands : ∀ field ∈ epochFields record, _ := fun _ => readLike_recordImage_epoch
  simp only [epochFields, List.forall_mem_cons, Image.readLike, Value.byte.injEq,
    Value.word16.injEq] at stands
  simp only [LogRecord.checksBeforeSamples, List.forall_mem_cons, Bool.not_eq_false'] at before
  simp only [LogRecord.checksAfterSamples, List.forall_mem_cons] at after
  refine decodeRecord_eq_ok_iff.mpr ⟨record.encoderRate, recordFramed_recordImage sound, ?_,
    readRecord_recordImage valid⟩
  have stage : isKnownStage record.stage = true := before.1
  have run : knownRun record.runKind = true := before.2.1
  have expected : record.encoder.expectedSampleCount =
      expectedSamplesPerEpoch record.encoderRate := by
    simpa using before.2.2.2.2.2.2.2.2.1
  have qualification : record.qualification ≤ 2 := by
    have equal : record.qualification = if record.runKind = .rateCheck then 0 else 1 := by
      simpa using after.2.2.2.1
    rw [equal]
    split_ifs <;> decide
  exact
    { rate := by
        rw [show Image.ofBytes (recordImage record).toList 120 = record.encoder.expectedSampleCount
          by simp only [stands], expected, rateOfSamples_expectedSamplesPerEpoch]
      zeroReference := by simp only [stands, ByteEnum.valid_toByte]
      enums := by
        simp only [recordEnumsValid, stands, ByteEnum.valid_toByte, ByteEnum.ofByte_toByte, stage,
          run, AbortReason.toWord_le, qualification, decide_true, Bool.and_self]
      valid := by
        rw [readRecord_recordImage valid]
        exact (validateRecordStrict_onWire record).mpr valid }

/-- What was read from a sound image stands in it. -/
theorem stands_readRecord {encoderRate : EncoderRate} (framed : RecordFramed data)
    (sound : RecordSound data encoderRate) :
    ∀ field ∈ epochFields (readRecord (Image.ofBytes data) encoderRate),
      (Image.ofBytes data).readLike field.offset field.value = field.value := by
  have enums := sound.enums
  simp only [recordEnumsValid, Bool.and_eq_true, decide_eq_true_eq] at enums
  obtain ⟨⟨⟨⟨⟨⟨⟨⟨⟨stage, _⟩, phase⟩, branch⟩, requested⟩, applied⟩, guard⟩, abort⟩, _⟩, run, _⟩ := enums
  simp only [epochFields, List.forall_mem_cons, Image.readLike, readRecord, readCommand, readPower,
    readEpoch, Value.text.injEq, UInt32.toUInt32_toInt32, UInt16.toUInt16_toInt16,
    ByteEnum.toByte_ofByte _ stage, ByteEnum.toByte_ofByte _ phase, ByteEnum.toByte_ofByte _ branch,
    ByteEnum.toByte_ofByte _ requested, ByteEnum.toByte_ofByte _ applied,
    ByteEnum.toByte_ofByte _ guard, ByteEnum.toByte_ofByte _ sound.zeroReference,
    ByteEnum.toByte_ofByte _ run, AbortReason.toWord_ofWord abort, flagByte_of_le framed.power,
    true_and]
  exact ⟨framed.magic, by simp⟩

/-- The image of an accepted record is written again from what was read. -/
theorem encodeRecord_of_decodeRecord {decoded : LogRecord}
    (accepted : decodeRecord data = .ok decoded) :
    ∃ bytes, encodeRecord decoded = some bytes ∧ bytes.toList = data := by
  obtain ⟨encoderRate, framed, sound, rfl⟩ := decodeRecord_eq_ok_iff.mp accepted
  have occupied : ∀ slot : Fin 5,
      (readRecord (Image.ofBytes data) encoderRate).encoder.presentAt slot =
        slotOccupied (Image.ofBytes data) slot := by
    intro slot
    simp [EncoderEpochBlock.presentAt, readRecord, readEpoch]
  refine ⟨recordImage (readRecord (Image.ofBytes data) encoderRate),
    encodeRecord_eq_some_iff.mpr ⟨sound.valid, rfl⟩, ?_⟩
  apply Image.sealBytes_eq (pairwise_apart_recordFields _)
    (fun _ written => stop_le_of_mem_recordFields written) framed.long _ _ framed.checked
  · intro field written
    rcases List.mem_append.mp written with epoch | sample
    · exact stands_readRecord framed sound field epoch
    · obtain ⟨slot, _, within⟩ := List.mem_flatMap.mp sample
      unfold slotFields at within
      split_ifs at within with present
      · rw [occupied slot] at present
        obtain ⟨flag, named⟩ := (slotError_eq_none_iff.mp (framed.slots slot)).2 present
        have read : (readRecord (Image.ofBytes data) encoderRate).encoder.sampleAt slot =
            readSample (Image.ofBytes data) (slotBase slot) := by
          simp [EncoderEpochBlock.sampleAt, readRecord, readEpoch, present]
        have stands : ∀ field ∈ sampleFields (slotBase slot)
            (readSample (Image.ofBytes data) (slotBase slot)) (UInt8.ofNat slot.val),
            (Image.ofBytes data).readLike field.offset field.value = field.value := by
          simp only [sampleFields, List.forall_mem_cons, Image.readLike, readSample, named,
            UInt32.toUInt32_toInt32, flagByte_of_le flag, true_and]
          simp
        rw [read] at within
        exact stands field within
      · cases within
  · intro address before untouched
    rcases reserved_of_untouched_record before untouched with rfl | rfl | spare
    · exact framed.reserved.1
    · exact framed.reserved.2
    · obtain ⟨slot, index, inside, rfl, spare⟩ := spare
      obtain ⟨clear, _⟩ := slotError_eq_none_iff.mp (framed.slots slot)
      by_cases present : slotOccupied (Image.ofBytes data) slot = true
      · have behind := spare (by rw [occupied slot, present])
        obtain rfl | rfl : index = 34 ∨ index = 35 := by omega
        · exact clear.1
        · exact clear.2
      · unfold slotOccupied at present
        rw [Bool.not_eq_true, Bool.not_eq_false', allZero_slice_iff] at present
        exact present _ (by omega) (by omega)

/-- Header and record are read back as far as they are written, and their accepted images are
written again. -/
theorem header_record_round_trip :
    (∀ header bytes, encodeHeader header = some bytes →
      decodeHeader bytes.toList = .ok header) ∧
    (∀ record, validateRecordStrict record = 0 →
      ∃ bytes, encodeRecord record = some bytes ∧
        decodeRecord bytes.toList = .ok record.onWire) ∧
    (∀ data header, decodeHeader data = .ok header →
      ∃ bytes, encodeHeader header = some bytes ∧ bytes.toList = data) ∧
    ∀ data record, decodeRecord data = .ok record →
      ∃ bytes, encodeRecord record = some bytes ∧ bytes.toList = data := by
  refine ⟨fun _ _ => decodeHeader_of_encodeHeader, ?_, fun _ _ => encodeHeader_of_decodeHeader,
    fun _ _ => encodeRecord_of_decodeRecord⟩
  intro record valid
  have encoded := encodeRecord_eq_some_iff.mpr ⟨valid, rfl⟩
  exact ⟨recordImage record, encoded, decodeRecord_of_encodeRecord encoded⟩

/-- The header of a rate check with the limits of the fin -/
def rateCheckHeader : LogHeader where
  stage := .fv
  runKind := .rateCheck
  profileSeed := 1
  pwmFrequencyHz := 20000
  totalReduction := 0x43302CCD
  physicalLimitDeg := 0x41700000
  routineGuardDeg := 0x41000000
  hardAbortDeg := 0x41200000
  backlashFullWidthDeg := 0x3EB020C5
  epochZeroTimestampUs := 1000
  sessionId := (Vector.replicate 32 0).set 0 0x41
  firmwareSha := Vector.replicate 40 0x30
  aviEspLibsSha := Vector.replicate 40 0x30
  boardBuildId := (Vector.replicate 64 0).set 0 0x41

/-- The record of its second epoch, with the one sample of that epoch -/
def rateCheckRecord : LogRecord where
  sequence := 1
  stage := .fv
  profilePhase := .stationaryBaseline
  runKind := .rateCheck
  episodeIndex := 1
  command :=
    { commandGeneration := 1, commandApplyTimestampUs := 500, loggerSnapshotTimestampUs := 3000 }
  power := { readResult := -1 }
  encoder :=
    { epochIndex := 1
      epochStartTimestampUs := 2000
      epochEndTimestampUs := 3000
      releaseTimestampUs := 3000
      expectedSampleCount := 1
      observedSampleCount := 1
      actualSampleCount := 1
      selectedSampleCount := 1
      validSampleCount := 1
      flags := EpochAggregateValid
      samples := (Vector.replicate 5 {}).set 0
        { generation := 1, scheduledTimestampUs := 2100, captureTimestampUs := 2200, valid := true }
      samplePresent := (Vector.replicate 5 false).set 0 true }

theorem header_record_round_trip_rateCheck :
    decodeHeader (headerImage rateCheckHeader).toList = .ok rateCheckHeader ∧
      ∃ bytes, encodeRecord rateCheckRecord = some bytes ∧
        decodeRecord bytes.toList = .ok rateCheckRecord.onWire :=
  ⟨header_record_round_trip.1 rateCheckHeader (headerImage rateCheckHeader)
      (encodeHeader_eq_some_iff.mpr ⟨by decide +kernel, rfl⟩),
    header_record_round_trip.2.1 rateCheckRecord (by decide +kernel)⟩

end MissionBoard.Characterization
