import Mathlib.Logic.Function.Basic
import MissionBoard.Characterization.RecordValidation

/-!
Owns `FixedEpochAssembler` of `characterization/fixed_epoch_assembler.cpp`: the samples of an encoder
put into the slots of the epoch in which they were captured, and the block of an epoch when it is
released.

A slot of a bucket holds a sample or is not `present`. The unwrapped count and its sums are
integers: `checkedAdd` and `checkedQ16` keep them in 64 bits.
-/

namespace MissionBoard.Characterization

/-! ### Checked arithmetic -/

def kInt64Max : ℤ := 2 ^ 63 - 1

def kInt64Min : ℤ := -2 ^ 63

/-- `checkedAdd`, with nothing where it returns false -/
def checkedAdd (lhs rhs : ℤ) : Option ℤ :=
  if (0 < rhs ∧ kInt64Max - rhs < lhs) ∨ (rhs < 0 ∧ lhs < kInt64Min - rhs) then none
  else some (lhs + rhs)

/-- `checkedQ16` -/
def checkedQ16 (counts : ℤ) : Option ℤ :=
  if kInt64Max.tdiv 65536 < counts ∨ counts < kInt64Min.tdiv 65536 then none
  else some (counts * 65536)

/-- `wrappedDelta` -/
def wrappedDelta (current previous : UInt16) : ℤ :=
  let delta : ℤ := current.toNat - previous.toNat
  if 8192 < delta then delta - 16384 else if delta < -8192 then delta + 16384 else delta

/-- `absoluteDifference` -/
def absoluteDifference (lhs rhs : UInt64) : UInt64 := if rhs ≤ lhs then lhs - rhs else rhs - lhs

/-! ### The slots of an epoch -/

/-- `slotForCaptureOffset` -/
def slotForCaptureOffset (rate : EncoderRate) (offsetUs : UInt64) : Fin 5 :=
  let slot := offsetUs * (expectedSamplesPerEpoch rate).toUInt64 / kEpochDurationUs
  ⟨min slot.toNat ((expectedSamplesPerEpoch rate).toNat - 1), by
    cases rate <;> simp [expectedSamplesPerEpoch]⟩

/-- `slotCenterOffsetUs` -/
def slotCenterOffsetUs (rate : EncoderRate) (slot : Fin 5) : UInt64 :=
  (2 * UInt64.ofNat slot + 1) * kEpochDurationUs / (2 * (expectedSamplesPerEpoch rate).toUInt64)

/-- `Bucket`; `initialized` and `epoch_index` are one value here. -/
structure Bucket where
  epochIndex : Option UInt64 := none
  observedCount : UInt8 := 0
  repeatedCount : UInt8 := 0
  kept : Fin 5 → Option RawEncoderSample := fun _ => none

/-- `AddResult` -/
inductive AddResult where
  | accepted
  | preEpoch
  | alreadyReleased
  | bucketCollision
deriving DecidableEq

/-- What is left of a sample of an epoch: the end of `add`. A sample takes the place of another when it
lies nearer to the centre of the slot, or as near and earlier. -/
def Bucket.put (bucket : Bucket) (rate : EncoderRate) (epochStartUs : UInt64)
    (sample : RawEncoderSample) : Bucket :=
  let offsetUs := sample.captureTimestampUs - epochStartUs
  let slot := slotForCaptureOffset rate offsetUs
  let observed := { bucket with observedCount := bucket.observedCount + 1 }
  match bucket.kept slot with
  | none => { observed with kept := Function.update bucket.kept slot (some sample) }
  | some old =>
      let center := slotCenterOffsetUs rate slot
      let oldDistance := absoluteDifference (old.captureTimestampUs - epochStartUs) center
      let newDistance := absoluteDifference offsetUs center
      let repeated := { observed with repeatedCount := bucket.repeatedCount + 1 }
      if newDistance < oldDistance ∨
          (newDistance = oldDistance ∧ sample.captureTimestampUs < old.captureTimestampUs) then
        { repeated with kept := Function.update bucket.kept slot (some sample) }
      else repeated

/-! ### The unwrapped count -/

/-- The reference of the unwrapped count, and what `release` sums up from it -/
structure Unwrapping where
  hasReference : Bool := false
  lastRaw : UInt16 := 0
  lastCount : ℤ := 0
  sumQ16 : ℤ := 0
  aggregateCount : ℕ := 0
  /-- A checked operation has failed, and `release` returns false. -/
  failed : Bool := false
deriving DecidableEq

/-- The count of the next sample -/
def Unwrapping.unwrap (state : Unwrapping) (raw : UInt16) : Option ℤ :=
  if !state.hasReference then some raw.toNat
  else checkedAdd state.lastCount (wrappedDelta raw state.lastRaw)

/-- A sample that is used -/
def Unwrapping.step (state : Unwrapping) (raw : UInt16) : Unwrapping :=
  if state.failed then state
  else
    match state.unwrap raw with
    | none => { state with failed := true }
    | some count =>
        let moved := { state with hasReference := true, lastRaw := raw, lastCount := count }
        match (checkedQ16 count).bind (checkedAdd state.sumQ16) with
        | none => { moved with failed := true }
        | some sum => { moved with sumQ16 := sum, aggregateCount := state.aggregateCount + 1 }

/-! ### The assembler -/

/-- `FixedEpochAssembler`; `released` is the last released epoch. -/
structure FixedEpochAssembler where
  rate : EncoderRate := .hz1000
  deadlineBudgetUs : UInt32 := 100
  epochZeroTimestampUs : UInt64 := 0
  initialized : Bool := false
  released : Option UInt64 := none
  hasUnwrappedReference : Bool := false
  lastReleasedRaw : UInt16 := 0
  lastUnwrappedCount : ℤ := 0
  unreportedLateSamples : UInt64 := 0
  buckets : Fin 8 → Bucket := fun _ => {}
  statistics : SamplerStatistics := {}

namespace FixedEpochAssembler

variable (assembler : FixedEpochAssembler)

/-- `reset(epoch_zero_timestamp_us)` -/
def reset (epochZeroTimestampUs : UInt64) : FixedEpochAssembler where
  rate := assembler.rate
  deadlineBudgetUs := assembler.deadlineBudgetUs
  epochZeroTimestampUs
  initialized := true

/-- `reset(epoch_zero_timestamp_us, initial_raw)` -/
def resetFrom (epochZeroTimestampUs : UInt64) (initialRaw : UInt16) : FixedEpochAssembler :=
  { assembler.reset epochZeroTimestampUs with
    lastReleasedRaw := initialRaw
    lastUnwrappedCount := initialRaw.toNat
    hasUnwrappedReference := true }

/-- `reset(rate, epoch_zero_timestamp_us)` -/
def resetRate (rate : EncoderRate) (epochZeroTimestampUs : UInt64) : FixedEpochAssembler :=
  { assembler with rate }.reset epochZeroTimestampUs

/-- The epoch in which a sample was captured -/
def epochOf (sample : RawEncoderSample) : UInt64 :=
  (sample.captureTimestampUs - assembler.epochZeroTimestampUs) / kEpochDurationUs

/-- The begin of an epoch -/
def epochStartUs (epochIndex : UInt64) : UInt64 :=
  assembler.epochZeroTimestampUs + epochIndex * kEpochDurationUs

/-- `epoch_index % kBucketCount` -/
def bucketIndex (epochIndex : UInt64) : Fin 8 :=
  ⟨epochIndex.toNat % 8, Nat.mod_lt _ (by decide)⟩

/-- The epoch has been released. -/
def isReleased (epochIndex : UInt64) : Bool :=
  match assembler.released with
  | none => false
  | some last => epochIndex ≤ last

/-- `add` -/
def add (sample : RawEncoderSample) : AddResult × FixedEpochAssembler :=
  let statistics := assembler.statistics
  if !assembler.initialized ∨ sample.captureTimestampUs < assembler.epochZeroTimestampUs then
    (.preEpoch,
      { assembler with
        statistics := { statistics with preEpochSamples := statistics.preEpochSamples + 1 } })
  else
    let epochIndex := assembler.epochOf sample
    let index := bucketIndex epochIndex
    let put bucket :=
      { assembler with
        buckets := Function.update assembler.buckets index
          (Bucket.put bucket assembler.rate (assembler.epochStartUs epochIndex) sample) }
    if assembler.isReleased epochIndex then
      (.alreadyReleased,
        { assembler with
          statistics := { statistics with lateAfterRelease := statistics.lateAfterRelease + 1 }
          unreportedLateSamples := assembler.unreportedLateSamples + 1 })
    else
      match (assembler.buckets index).epochIndex with
      | none => (.accepted, put { epochIndex := some epochIndex })
      | some other =>
          if other ≠ epochIndex then
            (.bucketCollision,
              { assembler with
                statistics :=
                  { statistics with bucketCollisions := statistics.bucketCollisions + 1 } })
          else (.accepted, put (assembler.buckets index))

/-! ### The release of an epoch -/

/-- The checks before `release` touches anything: the epoch is the next one, its end is a time, and it
is over. -/
def admits (epochIndex releaseTimestampUs : UInt64) : Bool :=
  let next :=
    match assembler.released with
    | none => epochIndex == 0
    | some last => epochIndex == last + 1
  assembler.initialized && next &&
    epochIndex < (0xFFFFFFFFFFFFFFFF - assembler.epochZeroTimestampUs) / kEpochDurationUs &&
    assembler.epochStartUs (epochIndex + 1) ≤ releaseTimestampUs

/-- What the bucket of the epoch has, empty when it is another's -/
def taken (epochIndex : UInt64) : Bucket :=
  let bucket := assembler.buckets (bucketIndex epochIndex)
  if bucket.epochIndex = some epochIndex then bucket else {}

/-- `bucket = {}`, when it is the epoch's -/
def emptied (epochIndex : UInt64) : Fin 8 → Bucket :=
  if (assembler.buckets (bucketIndex epochIndex)).epochIndex = some epochIndex then
    Function.update assembler.buckets (bucketIndex epochIndex) {}
  else assembler.buckets

end FixedEpochAssembler

/-- The slots of an epoch at this rate -/
def epochSlots (rate : EncoderRate) : List (Fin 5) :=
  (List.finRange 5).filter fun slot => slot.val < (expectedSamplesPerEpoch rate).toNat

/-- `valid && read_result_code == 0` -/
def usable (sample : RawEncoderSample) : Bool := sample.valid && sample.readResultCode == 0

namespace Bucket

variable (bucket : Bucket) (rate : EncoderRate)

/-- What a slot of the epoch holds -/
def slotOf (slot : Fin 5) : Option RawEncoderSample :=
  if slot.val < (expectedSamplesPerEpoch rate).toNat then bucket.kept slot else none

/-- The samples that are selected, in the order of their slots -/
def selected : List RawEncoderSample := (epochSlots rate).filterMap bucket.kept

/-- The slots of the epoch that hold none -/
def skippedCount : ℕ := (epochSlots rate).countP fun slot => (bucket.kept slot).isNone

/-- The samples selected that cannot be used -/
def invalidCount : ℕ := (bucket.selected rate).countP fun sample => !usable sample

/-- `complete` -/
def complete : Bool :=
  bucket.observedCount == expectedSamplesPerEpoch rate &&
    (bucket.selected rate).length == (expectedSamplesPerEpoch rate).toNat &&
    (bucket.selected rate).countP usable == (expectedSamplesPerEpoch rate).toNat &&
    bucket.repeatedCount == 0

/-- The flags of the counts -/
def countFlags (epochIndex : UInt64) : UInt16 :=
  let flag (condition : Bool) (value : UInt16) := if condition then value else 0
  flag (bucket.repeatedCount != 0) EpochRepeated |||
    flag (bucket.skippedCount rate != 0) EpochSkipped |||
    flag (bucket.invalidCount rate != 0) EpochInvalid ||| flag (!bucket.complete rate) EpochIncomplete |||
    flag (!bucket.complete rate && epochIndex == 0) EpochStartup |||
    flag (bucket.complete rate) EpochAggregateValid

end Bucket

namespace FixedEpochAssembler

variable (assembler : FixedEpochAssembler)

/-- The loop over the slots that are usable, with the reference that the assembler has -/
def unwrapping (bucket : Bucket) : Unwrapping :=
  (((bucket.selected assembler.rate).filter usable).map (·.angleRaw)).foldl Unwrapping.step
    { hasReference := assembler.hasUnwrappedReference
      lastRaw := assembler.lastReleasedRaw
      lastCount := assembler.lastUnwrappedCount }

/-- `release_timestamp_us > block.epoch_end_timestamp_us + deadline_budget_us_` -/
def releasedLate (epochIndex releaseTimestampUs : UInt64) : Bool :=
  releaseTimestampUs >
    assembler.epochStartUs epochIndex + kEpochDurationUs + assembler.deadlineBudgetUs.toUInt64

/-- The block of an epoch -/
def block (epochIndex releaseTimestampUs : UInt64) : EncoderEpochBlock :=
  let bucket := assembler.taken epochIndex
  let selected := bucket.selected assembler.rate
  let unwrapped := assembler.unwrapping bucket
  let epochStart := assembler.epochStartUs epochIndex
  let epochEnd := epochStart + kEpochDurationUs
  let lateness := (releaseTimestampUs - epochEnd).toInt64.toInt
  { epochIndex
    epochStartTimestampUs := epochStart
    epochEndTimestampUs := epochEnd
    releaseTimestampUs
    consumerLatenessUs := Int32.ofInt (max (-2 ^ 31) (min (2 ^ 31 - 1) lateness))
    expectedSampleCount := expectedSamplesPerEpoch assembler.rate
    observedSampleCount := bucket.observedCount
    actualSampleCount := bucket.observedCount
    selectedSampleCount := UInt8.ofNat selected.length
    validSampleCount := UInt8.ofNat (selected.countP usable)
    repeatedSampleCount := bucket.repeatedCount
    skippedSampleCount := UInt8.ofNat (bucket.skippedCount assembler.rate)
    invalidSampleCount := UInt8.ofNat (bucket.invalidCount assembler.rate)
    flags :=
      (if assembler.unreportedLateSamples ≠ 0 then EpochLate else 0) |||
        bucket.countFlags assembler.rate epochIndex |||
        (if assembler.releasedLate epochIndex releaseTimestampUs then EpochDeadline else 0)
    meanUnwrappedCountsQ16 :=
      if unwrapped.aggregateCount = 0 then 0
      else Int64.ofInt (unwrapped.sumQ16.tdiv unwrapped.aggregateCount)
    samples := Vector.ofFn fun slot =>
      match bucket.slotOf assembler.rate slot with
      | none => {}
      | some sample => { sample with slot := UInt8.ofNat slot }
    samplePresent := Vector.ofFn fun slot => (bucket.slotOf assembler.rate slot).isSome }

/-- `release`: the block, or nothing where it returns false. When a checked operation fails, the bucket
is gone all the same. -/
def release (epochIndex releaseTimestampUs : UInt64) :
    Option EncoderEpochBlock × FixedEpochAssembler :=
  let bucket := assembler.taken epochIndex
  let unwrapped := assembler.unwrapping bucket
  let complete := bucket.complete assembler.rate
  let statistics := assembler.statistics
  let add (counter : UInt64) (condition : Bool) := if condition then counter + 1 else counter
  let closed :=
    { assembler with
      unreportedLateSamples := 0
      buckets := assembler.emptied epochIndex
      hasUnwrappedReference := unwrapped.hasReference
      lastReleasedRaw := unwrapped.lastRaw
      lastUnwrappedCount := unwrapped.lastCount
      statistics :=
        { statistics with
          consumerDeadlineMisses :=
            add statistics.consumerDeadlineMisses
              (assembler.releasedLate epochIndex releaseTimestampUs) } }
  if !assembler.admits epochIndex releaseTimestampUs then (none, assembler)
  else if unwrapped.failed then (none, closed)
  else
    (some (assembler.block epochIndex releaseTimestampUs),
      { closed with
        released := some epochIndex
        statistics :=
          { closed.statistics with
            releasedEpochs := statistics.releasedEpochs + 1
            repeatedSamples := statistics.repeatedSamples + bucket.repeatedCount.toUInt64
            skippedSamples :=
              statistics.skippedSamples + UInt64.ofNat (bucket.skippedCount assembler.rate)
            invalidSamples :=
              statistics.invalidSamples + UInt64.ofNat (bucket.invalidCount assembler.rate)
            incompleteEpochs := add statistics.incompleteEpochs (!complete)
            startupIncompleteEpochs :=
              add statistics.startupIncompleteEpochs (!complete && epochIndex == 0)
            steadyStateIncompleteEpochs :=
              add statistics.steadyStateIncompleteEpochs (!complete && epochIndex != 0) } })

end FixedEpochAssembler

end MissionBoard.Characterization
