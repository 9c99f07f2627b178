import MissionBoard.Characterization.RecordValidation

/-!
Owns what `validateRecordStrict` says of the slots of a record: which are empty, and when the
counts of the record are the numbers of its slots.

The counts are checked against each other and the slots one by one; no check ties the two.
-/

namespace MissionBoard.Characterization

open RecordValidationError

namespace EncoderEpochBlock

variable (block : EncoderEpochBlock)

/-- The slots that hold a sample -/
def presentSlots : List (Fin 5) := (List.finRange 5).filter fun slot => block.presentAt slot

/-- Those whose sample is valid -/
def validSlots : List (Fin 5) :=
  block.presentSlots.filter fun slot => (block.sampleAt slot).valid

/-- Those whose sample is not -/
def invalidSlots : List (Fin 5) :=
  block.presentSlots.filter fun slot => !(block.sampleAt slot).valid

/-- The slots of the epoch that hold no sample -/
def emptySlots : List (Fin 5) :=
  (List.finRange 5).filter fun slot =>
    slot.val < block.expectedSampleCount.toNat && !block.presentAt slot

/-- The counts are the numbers of the slots, and no other slot is used. -/
structure StructurallyComplete : Prop where
  selected : block.presentSlots.length = block.selectedSampleCount.toNat
  valid : block.validSlots.length = block.validSampleCount.toNat
  beyond : ∀ slot : Fin 5, block.expectedSampleCount.toNat ≤ slot.val →
    block.presentAt slot = false
  aggregate : hasFlag block.flags EpochAggregateValid = true →
    ∀ slot : Fin 5, slot.val < block.expectedSampleCount.toNat → block.presentAt slot = true

/-- The number of slots of an epoch is that of one of the rates. -/
def KnownRate : Prop :=
  block.expectedSampleCount = 1 ∨ block.expectedSampleCount = 2 ∨ block.expectedSampleCount = 5

variable {block}

theorem slotCount_toNat (known : block.KnownRate) :
    block.slotCount.toNat = block.expectedSampleCount.toNat := by
  unfold slotCount
  rcases known with one | two | five
  · rw [one]
    rfl
  · rw [two]
    rfl
  · rw [five]
    rfl

/-- Where a slot begins, as a number of microseconds after the begin of the epoch -/
theorem slotStart_eq (known : block.KnownRate) {index : ℕ} (small : index ≤ 5) :
    ∃ offset, block.slotStart index = block.epochStartTimestampUs + offset ∧
      offset.toNat = index * 1000 / block.expectedSampleCount.toNat := by
  refine ⟨_, rfl, ?_⟩
  rw [UInt64.toNat_div, UInt64.toNat_mul, UInt64.toNat_ofNat', slotCount_toNat known]
  have duration : kEpochDurationUs.toNat = 1000 := rfl
  rw [duration, Nat.mod_eq_of_lt (show index < 2 ^ 64 by omega), Nat.mod_eq_of_lt (by omega)]

/-- No sample lies in a slot behind the end of the epoch. -/
theorem not_placed_beyond (known : block.KnownRate)
    (ends : block.epochEndTimestampUs = block.epochStartTimestampUs + kEpochDurationUs)
    {slot : Fin 5} (beyond : block.expectedSampleCount.toNat ≤ slot.val)
    {sample : RawEncoderSample} : ¬SamplePlaced block slot sample := by
  intro placed
  have begun := UInt64.le_iff_toNat_le.mp placed.begun
  have before := UInt64.lt_iff_toNat_lt.mp placed.before
  have slotBegun := UInt64.le_iff_toNat_le.mp placed.slotBegun
  have slotBefore := UInt64.lt_iff_toNat_lt.mp placed.slotBefore
  obtain ⟨first, begins, begin⟩ := slotStart_eq known (show slot.val ≤ 5 by omega)
  obtain ⟨last, follows, follow⟩ := slotStart_eq known (show slot.val + 1 ≤ 5 by omega)
  rw [begins, UInt64.toNat_add] at slotBegun
  rw [follows, UInt64.toNat_add] at slotBefore
  rw [ends, UInt64.toNat_add] at before
  have duration : kEpochDurationUs.toNat = 1000 := rfl
  rw [duration] at before
  have top := sample.captureTimestampUs.toNat_lt
  have bottom := block.epochStartTimestampUs.toNat_lt
  have late : 1000 ≤ first.toNat ∧ first.toNat ≤ last.toNat ∧ last.toNat ≤ 5000 := by
    rw [begin, follow]
    rcases known with one | two | five
    · rw [one, show (1 : UInt8).toNat = 1 from rfl] at beyond ⊢
      omega
    · rw [two, show (2 : UInt8).toNat = 2 from rfl] at beyond ⊢
      omega
    · rw [five, show (5 : UInt8).toNat = 5 from rfl] at beyond
      omega
  -- The epoch does not wrap around; a slot that does ends before the epoch begins.
  have whole : block.epochStartTimestampUs.toNat + 1000 < 2 ^ 64 := by omega
  by_cases wraps : block.epochStartTimestampUs.toNat + first.toNat < 2 ^ 64
  · rw [Nat.mod_eq_of_lt wraps] at slotBegun
    rw [Nat.mod_eq_of_lt whole] at before
    omega
  · have ended : (block.epochStartTimestampUs.toNat + last.toNat) % 2 ^ 64 < 5000 := by omega
    omega

/-! ### The counts and the slots -/

/-- A sample in a slot is valid or not. -/
theorem validSlots_add_invalidSlots (block : EncoderEpochBlock) :
    block.validSlots.length + block.invalidSlots.length = block.presentSlots.length :=
  List.length_eq_length_filter_add _ |>.symm

/-- When the slots beyond the epoch are empty, each slot of the epoch holds a sample or does not. -/
theorem presentSlots_add_emptySlots (known : block.KnownRate)
    (beyond : ∀ slot : Fin 5, block.expectedSampleCount.toNat ≤ slot.val →
      block.presentAt slot = false) :
    block.presentSlots.length + block.emptySlots.length = block.expectedSampleCount.toNat := by
  have present : block.presentSlots =
      ((List.finRange 5).filter fun slot : Fin 5 =>
        decide (slot.val < block.expectedSampleCount.toNat)).filter
          fun slot => block.presentAt slot := by
    rw [List.filter_filter]
    apply List.filter_congr
    intro slot _
    by_cases below : slot.val < block.expectedSampleCount.toNat
    · simp [below]
    · simp [below, beyond slot (Nat.le_of_not_lt below)]
  have empty : block.emptySlots =
      ((List.finRange 5).filter fun slot : Fin 5 =>
        decide (slot.val < block.expectedSampleCount.toNat)).filter
          fun slot => !block.presentAt slot := by
    rw [List.filter_filter]
    exact List.filter_congr fun _ _ => Bool.and_comm _ _
  rw [present, empty, ← List.length_eq_length_filter_add]
  rcases known with one | two | five
  · rw [one]
    rfl
  · rw [two]
    rfl
  · rw [five]
    rfl

end EncoderEpochBlock

/-! ### A record without errors -/

namespace LogRecord

variable {record : LogRecord}

/-- The checks of the epoch and of its counts and flags pass. -/
structure EpochChecked (record : LogRecord) : Prop where
  ends : record.encoder.epochEndTimestampUs =
    record.encoder.epochStartTimestampUs + kEpochDurationUs
  released : record.encoder.epochEndTimestampUs ≤ record.encoder.releaseTimestampUs
  expected : record.encoder.expectedSampleCount = expectedSamplesPerEpoch record.encoderRate
  counts : record.encoder.countsConsistent = true
  flags : record.flagsInconsistent = false

theorem epochChecked_of_accepted (accepted : validateRecordStrict record = 0) :
    record.EpochChecked := by
  obtain ⟨checks, -⟩ := (validateRecordStrict_eq_zero_iff record).mp accepted
  simp only [checksBeforeSamples, List.forall_mem_cons, Bool.or_eq_false_iff,
    bne_eq_false_iff_eq, Bool.not_eq_false', decide_eq_false_iff_not, UInt64.not_lt] at checks
  obtain ⟨-, -, -, -, -, -, -, ⟨ends, released⟩, expected, counts, flags, -⟩ := checks
  exact ⟨ends, released, expected, counts, flags⟩

theorem EpochChecked.knownRate (checked : record.EpochChecked) : record.encoder.KnownRate := by
  unfold EncoderEpochBlock.KnownRate
  rw [checked.expected]
  cases record.encoderRate <;> decide

theorem EpochChecked.aggregateValid (checked : record.EpochChecked) :
    hasFlag record.encoder.flags EpochAggregateValid = record.encoder.complete := by
  have flags := checked.flags
  simp only [flagsInconsistent, Bool.or_eq_false_iff, bne_eq_false_iff_eq] at flags
  exact flags.1.1.1.1.1.1.1.1.1.symm

/-- The slots at or beyond the expected number are empty in every record that is accepted. -/
theorem beyond_of_accepted (accepted : validateRecordStrict record = 0) (slot : Fin 5)
    (beyond : record.encoder.expectedSampleCount.toNat ≤ slot.val) :
    record.encoder.presentAt slot = false := by
  have checked := epochChecked_of_accepted accepted
  obtain ⟨-, sound, -⟩ := (validateRecordStrict_eq_zero_iff record).mp accepted
  rw [← Bool.not_eq_true]
  intro present
  have placed := (sound slot (List.mem_finRange slot) present).1
  exact EncoderEpochBlock.not_placed_beyond checked.knownRate checked.ends beyond placed

/-- A rate check's epoch of one valid sample, which is in its slot -/
def wholeRecord : LogRecord where
  stage := .fv
  runKind := .rateCheck
  command :=
    { commandGeneration := 1
      commandApplyTimestampUs := 1
      loggerSnapshotTimestampUs := 1000 }
  power := { readResult := 0x106 }
  encoder :=
    { epochEndTimestampUs := 1000
      releaseTimestampUs := 1000
      expectedSampleCount := 1
      observedSampleCount := 1
      actualSampleCount := 1
      selectedSampleCount := 1
      validSampleCount := 1
      flags := EpochAggregateValid
      samples := #v[⟨1, 500, 500, 0, 0, 0, true, 0⟩, {}, {}, {}, {}]
      samplePresent := #v[true, false, false, false, false] }

/-- The same epoch with its slot empty: no check compares the presence of a sample with the counts. -/
def tornRecord : LogRecord :=
  { wholeRecord with
    encoder := { wholeRecord.encoder with samplePresent := Vector.replicate 5 false } }

end LogRecord

end MissionBoard.Characterization
