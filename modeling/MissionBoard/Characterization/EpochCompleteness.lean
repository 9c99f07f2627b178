import MissionBoard.Characterization.EpochAssembly

/-!
Owns when a released epoch is complete. The counts of a bucket have eight bits, so they are the
numbers of its samples as long as fewer than 256 samples found their slot taken; and the bucket has
every sample that was accepted for its epoch, unless a release of the epoch has failed before.
-/

namespace MissionBoard.Characterization

/-! ### The flags of a block -/

@[simp] theorem hasFlag_or (left right flag : UInt16) :
    hasFlag (left ||| right) flag = (hasFlag left flag || hasFlag right flag) := by
  unfold hasFlag
  have distributed : (left ||| right) &&& flag = left &&& flag ||| right &&& flag := by
    rw [← UInt16.toBitVec_inj]
    exact BitVec.and_or_distrib_right
  rw [distributed, Bool.eq_iff_iff]
  simp only [bne_iff_ne, ne_eq, UInt16.or_eq_zero_iff, Bool.or_eq_true]
  exact not_and_or

@[simp] theorem hasFlag_ite (condition : Prop) [Decidable condition] (set flag : UInt16) :
    hasFlag (if condition then set else 0) flag = (decide condition && hasFlag set flag) := by
  by_cases holds : condition
  · simp [holds]
  · simp [holds, hasFlag]

namespace FixedEpochAssembler

variable {assembler : FixedEpochAssembler} {epochIndex releaseTimestampUs : UInt64}

theorem hasFlag_block (flag : UInt16) :
    hasFlag (assembler.block epochIndex releaseTimestampUs).flags flag =
      ((decide (assembler.unreportedLateSamples ≠ 0) && hasFlag EpochLate flag) ||
        hasFlag ((assembler.taken epochIndex).countFlags assembler.rate epochIndex) flag ||
        (assembler.releasedLate epochIndex releaseTimestampUs && hasFlag EpochDeadline flag)) := by
  unfold block
  simp only [hasFlag_or, hasFlag_ite, Bool.decide_eq_true]

end FixedEpochAssembler

namespace Bucket

theorem hasFlag_countFlags (bucket : Bucket) (rate : EncoderRate) (epochIndex : UInt64)
    (flag : UInt16) :
    hasFlag (bucket.countFlags rate epochIndex) flag =
      ((bucket.repeatedCount != 0 && hasFlag EpochRepeated flag) ||
        (bucket.skippedCount rate != 0 && hasFlag EpochSkipped flag) ||
        (bucket.invalidCount rate != 0 && hasFlag EpochInvalid flag) ||
        (!bucket.complete rate && hasFlag EpochIncomplete flag) ||
        (!bucket.complete rate && epochIndex == 0 && hasFlag EpochStartup flag) ||
        (bucket.complete rate && hasFlag EpochAggregateValid flag)) := by
  unfold countFlags
  simp only [hasFlag_or, hasFlag_ite, Bool.decide_eq_true]

end Bucket

theorem FixedEpochAssembler.hasFlag_aggregateValid {assembler : FixedEpochAssembler}
    {epochIndex releaseTimestampUs : UInt64} :
    hasFlag (assembler.block epochIndex releaseTimestampUs).flags EpochAggregateValid =
      (assembler.taken epochIndex).complete assembler.rate := by
  rw [hasFlag_block, Bucket.hasFlag_countFlags]
  have apart : hasFlag EpochLate EpochAggregateValid = false ∧
      hasFlag EpochRepeated EpochAggregateValid = false ∧
      hasFlag EpochSkipped EpochAggregateValid = false ∧
      hasFlag EpochInvalid EpochAggregateValid = false ∧
      hasFlag EpochIncomplete EpochAggregateValid = false ∧
      hasFlag EpochStartup EpochAggregateValid = false ∧
      hasFlag EpochAggregateValid EpochAggregateValid = true ∧
      hasFlag EpochDeadline EpochAggregateValid = false := by
    decide
  simp [apart]

/-! ### The counts of a bucket -/

namespace Bucket

variable {rate : EncoderRate} {epochStartUs : UInt64} {samples : List RawEncoderSample}

/-- Samples lie in the slots of the epoch. -/
theorem slotAt_lt (sample : RawEncoderSample) :
    (slotAt rate epochStartUs sample).val < (expectedSamplesPerEpoch rate).toNat := by
  have positive : 0 < (expectedSamplesPerEpoch rate).toNat := by cases rate <;> decide
  unfold slotAt slotForCaptureOffset
  dsimp only
  omega

theorem mem_epochSlots {slot : Fin 5} :
    slot ∈ epochSlots rate ↔ slot.val < (expectedSamplesPerEpoch rate).toNat := by
  unfold epochSlots
  rw [List.mem_filter, decide_eq_true_eq]
  exact and_iff_right (List.mem_finRange slot)

theorem filledSlots_subset : filledSlots rate epochStartUs samples ⊆ (epochSlots rate).toFinset := by
  intro slot filled
  obtain ⟨sample, -, rfl⟩ := List.mem_map.mp (List.mem_toFinset.mp filled)
  exact List.mem_toFinset.mpr (mem_epochSlots.mpr (slotAt_lt sample))

theorem card_epochSlots : (epochSlots rate).toFinset.card = (expectedSamplesPerEpoch rate).toNat := by
  cases rate <;> decide

theorem nodup_epochSlots : (epochSlots rate).Nodup := (List.nodup_finRange 5).filter _

variable (index : Option UInt64)

/-- Each slot that is filled has one sample selected. -/
theorem length_selected :
    ((fill rate epochStartUs { epochIndex := index } samples).selected rate).length =
      (filledSlots rate epochStartUs samples).card := by
  unfold selected
  rw [List.length_filterMap_eq_countP, List.countP_eq_length_filter,
    ← List.toFinset_card_of_nodup (nodup_epochSlots.filter _)]
  congr 1
  ext slot
  rw [List.mem_toFinset, List.mem_filter, isSome_fill_kept]
  constructor
  · intro both
    exact both.2
  · intro filled
    exact ⟨List.mem_toFinset.mp (filledSlots_subset filled), filled⟩

theorem mem_selected {sample : RawEncoderSample} :
    sample ∈ (fill rate epochStartUs { epochIndex := index } samples).selected rate ↔
      (fill rate epochStartUs { epochIndex := index } samples).kept
        (slotAt rate epochStartUs sample) = some sample := by
  unfold selected
  rw [List.mem_filterMap]
  constructor
  · rintro ⟨slot, -, found⟩
    have nearest := found
    rw [fill_kept] at nearest
    have within := List.argmin_mem (Option.mem_def.mpr nearest)
    have same := of_decide_eq_true (List.mem_filter.mp within).2
    rwa [← same]
  · intro found
    exact ⟨_, mem_epochSlots.mpr (slotAt_lt sample), found⟩

theorem selected_subset :
    (fill rate epochStartUs { epochIndex := index } samples).selected rate ⊆ samples := by
  intro sample within
  rw [mem_selected, fill_kept] at within
  exact (List.mem_filter.mp (List.argmin_mem (Option.mem_def.mpr within))).1

/-- When no two samples share a slot, all of them are selected. -/
theorem subset_selected (apart : (samples.map (slotAt rate epochStartUs)).Nodup) :
    samples ⊆ (fill rate epochStartUs { epochIndex := index } samples).selected rate := by
  intro sample within
  rw [mem_selected]
  have filled : slotAt rate epochStartUs sample ∈ filledSlots rate epochStartUs samples :=
    List.mem_toFinset.mpr (List.mem_map_of_mem within)
  obtain ⟨found, there⟩ := Option.isSome_iff_exists.mp ((isSome_fill_kept samples index _).mpr filled)
  have nearest := there
  rw [fill_kept] at nearest
  obtain ⟨inside, slot⟩ := List.mem_filter.mp (List.argmin_mem (Option.mem_def.mpr nearest))
  have same : sample = found :=
    List.inj_on_of_nodup_map apart within inside (of_decide_eq_true slot)
  rw [there, same]

/-! ### Complete epochs -/

end Bucket

/-- One usable sample in each slot of the epoch, and no other -/
structure CompleteEpoch (rate : EncoderRate) (epochStartUs : UInt64)
    (samples : List RawEncoderSample) : Prop where
  number : samples.length = (expectedSamplesPerEpoch rate).toNat
  each : ∀ slot ∈ epochSlots rate, ∃ sample ∈ samples,
    Bucket.slotAt rate epochStartUs sample = slot
  usable : ∀ sample ∈ samples, usable sample = true

/-- A complete epoch has no repetitions. -/
theorem CompleteEpoch.card_filledSlots {rate : EncoderRate} {epochStartUs : UInt64}
    {samples : List RawEncoderSample} (whole : CompleteEpoch rate epochStartUs samples) :
    (Bucket.filledSlots rate epochStartUs samples).card = samples.length := by
  have covered : (epochSlots rate).toFinset ⊆ Bucket.filledSlots rate epochStartUs samples := by
    intro slot within
    obtain ⟨sample, inside, same⟩ := whole.each slot (List.mem_toFinset.mp within)
    exact List.mem_toFinset.mpr (List.mem_map.mpr ⟨sample, inside, same⟩)
  have least := Finset.card_le_card covered
  have most := @Bucket.card_filledSlots_le rate epochStartUs samples
  rw [Bucket.card_epochSlots] at least
  have number := whole.number
  omega

namespace Bucket

variable {rate : EncoderRate} {epochStartUs : UInt64} {samples : List RawEncoderSample}
  (index : Option UInt64)

theorem expectedSamplesPerEpoch_le (rate : EncoderRate) : (expectedSamplesPerEpoch rate).toNat ≤ 5 := by
  cases rate <;> decide

/-- With fewer than 256 repetitions the decision is exact. -/
theorem complete_iff (few : samples.length - (filledSlots rate epochStartUs samples).card < 256) :
    (fill rate epochStartUs { epochIndex := index } samples).complete rate = true ↔
      CompleteEpoch rate epochStartUs samples := by
  have fewer := @card_filledSlots_le rate epochStartUs samples
  have slots := Finset.card_le_card (@filledSlots_subset rate epochStartUs samples)
  rw [card_epochSlots] at slots
  have small := expectedSamplesPerEpoch_le rate
  unfold complete
  simp only [Bool.and_eq_true, beq_iff_eq]
  rw [fill_observedCount, fill_repeatedCount, length_selected]
  constructor
  · rintro ⟨⟨⟨-, filled⟩, valid⟩, repeated⟩
    have none : samples.length - (filledSlots rate epochStartUs samples).card = 0 := by
      have zero := congrArg UInt8.toNat repeated
      rwa [UInt8.toNat_ofNat', Nat.mod_eq_of_lt few] at zero
    have number : samples.length = (expectedSamplesPerEpoch rate).toNat := by omega
    have apart : (samples.map (slotAt rate epochStartUs)).Nodup := by
      rw [← Multiset.coe_nodup, ← Multiset.toFinset_card_eq_card_iff_nodup, Multiset.coe_card,
        List.length_map, number, ← filled]
      rfl
    constructor
    · exact number
    · intro slot within
      have all : filledSlots rate epochStartUs samples = (epochSlots rate).toFinset :=
        Finset.eq_of_subset_of_card_le filledSlots_subset (by rw [card_epochSlots, filled])
      have there : slot ∈ filledSlots rate epochStartUs samples :=
        all ▸ List.mem_toFinset.mpr within
      exact List.mem_map.mp (List.mem_toFinset.mp there)
    · intro sample within
      rw [← filled, ← length_selected index, List.countP_eq_length] at valid
      exact valid sample (subset_selected index apart within)
  · intro whole
    have filled : (filledSlots rate epochStartUs samples).card =
        (expectedSamplesPerEpoch rate).toNat := by
      rw [whole.card_filledSlots, whole.number]
    have valid : ∀ sample ∈ (fill rate epochStartUs { epochIndex := index } samples).selected rate,
        usable sample = true := by
      intro sample within
      exact whole.usable sample (selected_subset index within)
    rw [List.countP_eq_length.mpr valid, length_selected, filled, whole.number, Nat.sub_self,
      UInt8.ofNat_toNat]
    exact ⟨⟨⟨rfl, rfl⟩, rfl⟩, rfl⟩

/-- At one sample for an epoch, a number of samples that wraps to one looks complete. -/
theorem complete_of_wrapped (valid : ∀ sample ∈ samples, usable sample = true)
    (wrapped : samples.length % 256 = 1) :
    (fill .hz1000 epochStartUs { epochIndex := index } samples).complete .hz1000 = true := by
  have slots := Finset.card_le_card (@filledSlots_subset .hz1000 epochStartUs samples)
  rw [card_epochSlots] at slots
  have nonempty : samples ≠ [] := by
    intro nothing
    rw [nothing] at wrapped
    cases wrapped
  have one : (filledSlots .hz1000 epochStartUs samples).card = 1 := by
    obtain ⟨sample, rest, rfl⟩ := List.exists_cons_of_ne_nil nonempty
    have some : slotAt .hz1000 epochStartUs sample ∈
        filledSlots .hz1000 epochStartUs (sample :: rest) :=
      List.mem_toFinset.mpr (List.mem_map_of_mem List.mem_cons_self)
    exact Nat.le_antisymm slots (Finset.card_pos.mpr ⟨_, some⟩)
  have used : ∀ sample ∈ (fill .hz1000 epochStartUs { epochIndex := index } samples).selected
      .hz1000, usable sample = true :=
    fun sample within => valid sample (selected_subset index within)
  have observed : UInt8.ofNat samples.length = 1 := by
    rw [← UInt8.toNat_inj, UInt8.toNat_ofNat']
    exact wrapped
  have repeated : UInt8.ofNat (samples.length - 1) = 0 := by
    rw [← UInt8.toNat_inj, UInt8.toNat_ofNat']
    show (samples.length - 1) % 256 = 0
    omega
  unfold complete
  rw [List.countP_eq_length.mpr used, length_selected, one, fill_observedCount,
    fill_repeatedCount, one, observed, repeated]
  rfl

end Bucket

/-! ### Runs -/

/-- What the block of an epoch says of the samples accepted for it -/
structure EpochExact (rate : EncoderRate) (epochStartUs : UInt64) (accepted : List RawEncoderSample)
    (block : EncoderEpochBlock) : Prop where
  aggregate : hasFlag block.flags EpochAggregateValid = true ↔
    CompleteEpoch rate epochStartUs accepted
  counts : hasFlag block.flags EpochAggregateValid = false →
    block.repeatedSampleCount.toNat + block.selectedSampleCount.toNat = accepted.length

namespace Assembly

variable (assembly : Assembly) (epochIndex : UInt64)

/-- The samples that a bucket holds are the last of those that were accepted for its epoch. -/
theorem held_suffix : assembly.held epochIndex <:+ assembly.accepted epochIndex := by
  unfold held accepted
  induction assembly.events using List.reverseRecOn with
  | nil => exact List.suffix_rfl
  | append_singleton events event inductionHypothesis =>
      rw [List.foldl_concat, List.foldl_concat]
      generalize events.foldl (heldAfter assembly.assembler.epochOf epochIndex) [] = held
        at inductionHypothesis ⊢
      generalize events.foldl (acceptedAfter assembly.assembler.epochOf epochIndex) [] = accepted
        at inductionHypothesis ⊢
      cases event with
      | added sample result =>
          cases result with
          | accepted =>
              unfold heldAfter acceptedAfter
              dsimp only
              split
              · obtain ⟨earlier, rfl⟩ := inductionHypothesis
                exact ⟨earlier, (List.append_assoc ..).symm⟩
              · exact inductionHypothesis
          | preEpoch => exact inductionHypothesis
          | alreadyReleased => exact inductionHypothesis
          | bucketCollision => exact inductionHypothesis
      | released released admitted block =>
          cases admitted with
          | false => exact inductionHypothesis
          | true =>
              unfold heldAfter
              dsimp only
              split
              · exact List.nil_suffix
              · exact inductionHypothesis

/-- The samples accepted for the epoch that found their slot taken -/
def repetitions : ℕ :=
  (assembly.accepted epochIndex).length -
    (Bucket.filledSlots assembly.assembler.rate (assembly.assembler.epochStartUs epochIndex)
      (assembly.accepted epochIndex)).card

variable {assembly epochIndex} {releaseTimestampUs : UInt64} {block : EncoderEpochBlock}

/-- A block that is returned is the one of its epoch. -/
theorem released_block
    (released : (assembly.assembler.release epochIndex releaseTimestampUs).1 = some block) :
    block = assembly.assembler.block epochIndex releaseTimestampUs := by
  rcases @FixedEpochAssembler.release_cases assembly.assembler epochIndex releaseTimestampUs with
    ⟨-, same⟩ | ⟨-, next, -, -, -, -, ⟨-, same, -⟩ | ⟨-, same, -⟩⟩
  · rw [same] at released
    cases released
  · rw [same] at released
    cases released
  · exact Option.some.inj (released.symm.trans same)

/-- What a bucket makes of its samples when its epoch is released -/
theorem Assembled.complete_taken (assembled : Assembled assembly)
    (few : (assembly.held epochIndex).length -
      (Bucket.filledSlots assembly.assembler.rate (assembly.assembler.epochStartUs epochIndex)
        (assembly.held epochIndex)).card < 256) :
    (assembly.assembler.taken epochIndex).complete assembly.assembler.rate = true ↔
      CompleteEpoch assembly.assembler.rate (assembly.assembler.epochStartUs epochIndex)
        (assembly.held epochIndex) := by
  rw [assembled epochIndex]
  exact Bucket.complete_iff _ few

/-- The counts of a block are those of the samples that its bucket holds. -/
theorem Assembled.block_counts (assembled : Assembled assembly) :
    (assembly.assembler.block epochIndex releaseTimestampUs).repeatedSampleCount.toNat +
        (assembly.assembler.block epochIndex releaseTimestampUs).selectedSampleCount.toNat =
      ((assembly.held epochIndex).length -
          (Bucket.filledSlots assembly.assembler.rate (assembly.assembler.epochStartUs epochIndex)
            (assembly.held epochIndex)).card) % 256 +
        (Bucket.filledSlots assembly.assembler.rate (assembly.assembler.epochStartUs epochIndex)
          (assembly.held epochIndex)).card := by
  have slots := Finset.card_le_card (@Bucket.filledSlots_subset assembly.assembler.rate
    (assembly.assembler.epochStartUs epochIndex) (assembly.held epochIndex))
  rw [Bucket.card_epochSlots] at slots
  have small := Bucket.expectedSamplesPerEpoch_le assembly.assembler.rate
  unfold FixedEpochAssembler.block
  dsimp only
  rw [assembled epochIndex, FixedEpochAssembler.filled, Bucket.fill_repeatedCount,
    Bucket.length_selected, UInt8.toNat_ofNat', UInt8.toNat_ofNat', Nat.mod_eq_of_lt
      (lt_of_le_of_lt (slots.trans small) (by decide))]

/-- A bucket that counts as complete holds as many samples as the epoch has slots, in eight bits. -/
theorem Assembled.number_of_complete (assembled : Assembled assembly)
    (complete : (assembly.assembler.taken epochIndex).complete assembly.assembler.rate = true) :
    (assembly.held epochIndex).length % 256 =
      (expectedSamplesPerEpoch assembly.assembler.rate).toNat := by
  unfold Bucket.complete at complete
  simp only [Bool.and_eq_true, beq_iff_eq] at complete
  have number := congrArg UInt8.toNat complete.1.1.1
  rwa [assembled epochIndex, FixedEpochAssembler.filled, Bucket.fill_observedCount,
    UInt8.toNat_ofNat'] at number

/-- A block is exact exactly when its bucket holds every sample that was accepted for its epoch, and
fewer than 256 of them are repetitions. -/
theorem released_exact_iff {before : FixedEpochAssembler} {reset : AssemblerReset}
    {calls : List AssemblerCall} (run : assembly = after before reset calls)
    (released : (assembly.assembler.release epochIndex releaseTimestampUs).1 = some block) :
    EpochExact assembly.assembler.rate (assembly.assembler.epochStartUs epochIndex)
        (assembly.accepted epochIndex) block ↔
      assembly.held epochIndex = assembly.accepted epochIndex ∧
        assembly.repetitions epochIndex < 256 := by
  have assembled : Assembled assembly := run ▸ assembled_after before reset calls
  have kept := assembly.held_suffix epochIndex
  have most := kept.length_le
  have counts := @Assembled.block_counts assembly epochIndex releaseTimestampUs assembled
  have fewer := @Bucket.card_filledSlots_le assembly.assembler.rate
    (assembly.assembler.epochStartUs epochIndex) (assembly.held epochIndex)
  rw [released_block released]
  constructor
  · intro truthful
    cases flag : hasFlag (assembly.assembler.block epochIndex releaseTimestampUs).flags
        EpochAggregateValid with
    | true =>
        -- Then few samples were accepted, and the count of the bucket has not wrapped.
        have whole := truthful.aggregate.mp flag
        have all := whole.card_filledSlots
        have number := whole.number
        have small := Bucket.expectedSamplesPerEpoch_le assembly.assembler.rate
        rw [FixedEpochAssembler.hasFlag_aggregateValid] at flag
        have wrapped := assembled.number_of_complete flag
        have same : assembly.held epochIndex = assembly.accepted epochIndex :=
          kept.eq_of_length (by omega)
        refine ⟨same, ?_⟩
        unfold repetitions
        omega
    | false =>
        have sum := truthful.counts flag
        rw [counts] at sum
        have same : assembly.held epochIndex = assembly.accepted epochIndex :=
          kept.eq_of_length (by omega)
        refine ⟨same, ?_⟩
        unfold repetitions
        rw [same] at sum
        omega
  · rintro ⟨same, few⟩
    unfold repetitions at few
    constructor
    · rw [FixedEpochAssembler.hasFlag_aggregateValid, assembled.complete_taken (by rwa [same]), same]
    · intro
      rw [counts, same, Nat.mod_eq_of_lt few]
      rw [same] at fewer
      omega

/-- One sample of the first epoch, which has no other at 1 kHz -/
def singleRun : Assembly := after {} (.zeroRate .hz1000 0) [.add { valid := true }]

theorem released_exact_iff_single :
    EpochExact singleRun.assembler.rate (singleRun.assembler.epochStartUs 0) (singleRun.accepted 0)
      (singleRun.assembler.block 0 1000) :=
  (released_exact_iff rfl
    (FixedEpochAssembler.release_returns (by decide +kernel) (by decide +kernel))).mpr
    ⟨by decide +kernel, by decide +kernel⟩

/-- A usable sample at the begin of the first epoch -/
def firstSample : RawEncoderSample := { valid := true }

/-- It is accepted as often as it is added. -/
theorem after_replicate (number : ℕ) :
    ∃ buckets : Fin 8 → Bucket,
      after {} (.zeroRate .hz1000 0) (List.replicate number (.add firstSample)) =
        { assembler := { rate := .hz1000, initialized := true, buckets }
          events := List.replicate number (.added firstSample .accepted) } ∧
      ((buckets 0).epochIndex = none ∨ (buckets 0).epochIndex = some 0) := by
  induction number with
  | zero => exact ⟨fun _ => {}, rfl, Or.inl rfl⟩
  | succ number inductionHypothesis =>
      obtain ⟨buckets, same, found⟩ := inductionHypothesis
      have accepts : ∃ bucket : Bucket, bucket.epochIndex = some 0 ∧
          FixedEpochAssembler.add { rate := .hz1000, initialized := true, buckets } firstSample =
            (.accepted,
              { rate := .hz1000
                initialized := true
                buckets := Function.update buckets 0 (bucket.put .hz1000 0 firstSample) }) := by
        have first : FixedEpochAssembler.epochOf
            { rate := .hz1000, initialized := true, buckets } firstSample = 0 :=
          (by decide : (0 - 0) / kEpochDurationUs = 0)
        have begins : FixedEpochAssembler.epochStartUs
            { rate := .hz1000, initialized := true, buckets } 0 = 0 :=
          (by decide : 0 + 0 * kEpochDurationUs = 0)
        have zero : FixedEpochAssembler.bucketIndex 0 = 0 := by decide
        unfold FixedEpochAssembler.add FixedEpochAssembler.isReleased
        simp only [first, begins, zero]
        rcases found with empty | owned
        · refine ⟨{ epochIndex := some 0 }, rfl, ?_⟩
          rw [empty]
          simp [firstSample]
        · refine ⟨buckets 0, owned, ?_⟩
          rw [owned]
          simp [firstSample]
      obtain ⟨bucket, owned, added⟩ := accepts
      refine ⟨Function.update buckets 0 (bucket.put .hz1000 0 firstSample), ?_, Or.inr ?_⟩
      · rw [List.replicate_succ', List.replicate_succ']
        unfold after at same ⊢
        rw [Run.after_concat, same, step]
        dsimp only
        rw [added]
      · rw [Function.update_self, Bucket.put_epochIndex, owned]

theorem accepted_replicate {epochOf : RawEncoderSample → UInt64} (first : epochOf firstSample = 0)
    (number : ℕ) :
    (List.replicate number (AssemblerEvent.added firstSample .accepted)).foldl
        (acceptedAfter epochOf 0) [] = List.replicate number firstSample ∧
      (List.replicate number (AssemblerEvent.added firstSample .accepted)).foldl
        (heldAfter epochOf 0) [] = List.replicate number firstSample := by
  induction number with
  | zero => exact ⟨rfl, rfl⟩
  | succ number inductionHypothesis =>
      rw [List.replicate_succ', List.replicate_succ', List.foldl_concat, List.foldl_concat,
        inductionHypothesis.1, inductionHypothesis.2]
      exact ⟨if_pos first, if_pos first⟩

/-- After 257 samples in its one slot the first epoch is released as complete. -/
theorem wrapped_epoch_released :
    ∃ block,
      ((after {} (.zeroRate .hz1000 0)
          (List.replicate 257 (.add firstSample))).assembler.release 0 1000).1 = some block ∧
        hasFlag block.flags EpochAggregateValid = true ∧
        (after {} (.zeroRate .hz1000 0)
          (List.replicate 257 (.add firstSample))).accepted 0 = List.replicate 257 firstSample ∧
        ¬ EpochExact .hz1000 0 (List.replicate 257 firstSample) block := by
  have assembled := assembled_after {} (.zeroRate .hz1000 0) (List.replicate 257 (.add firstSample))
  obtain ⟨buckets, same, -⟩ := after_replicate 257
  rw [same] at assembled ⊢
  have first : FixedEpochAssembler.epochOf
      { rate := .hz1000, initialized := true, buckets } firstSample = 0 :=
    (by decide : (0 - 0) / kEpochDurationUs = 0)
  have held : Assembly.held
      { assembler := { rate := .hz1000, initialized := true, buckets }
        events := List.replicate 257 (.added firstSample .accepted) } 0 =
      List.replicate 257 firstSample := (accepted_replicate first 257).2
  have taken := assembled 0
  rw [held, FixedEpochAssembler.filled, if_neg (by simp)] at taken
  dsimp only at taken
  have usable : ∀ sample ∈ List.replicate 257 firstSample, usable sample = true := by
    intro sample within
    rw [List.eq_of_mem_replicate within]
    rfl
  have complete := @Bucket.complete_of_wrapped 0 _ (some 0) usable (by rw [List.length_replicate])
  have start : FixedEpochAssembler.epochStartUs
      { rate := .hz1000, initialized := true, buckets } 0 = 0 :=
    (by decide : 0 + 0 * kEpochDurationUs = 0)
  rw [start] at taken
  -- One sample is selected, and its count is no overflow.
  have selected : ((Bucket.fill .hz1000 0 { epochIndex := some 0 }
      (List.replicate 257 firstSample)).selected .hz1000) = [firstSample] := by
    have one : ((Bucket.fill .hz1000 0 { epochIndex := some 0 }
        (List.replicate 257 firstSample)).selected .hz1000).length = 1 := by
      unfold Bucket.complete at complete
      simp only [Bool.and_eq_true, beq_iff_eq] at complete
      exact complete.1.1.2
    obtain ⟨sample, alone⟩ := List.length_eq_one_iff.mp one
    have within := Bucket.selected_subset (some 0) (alone ▸ List.mem_singleton_self sample)
    rw [alone, List.eq_of_mem_replicate within]
  have unwrapped : FixedEpochAssembler.unwrapping
      { rate := .hz1000, initialized := true, buckets }
      (Bucket.fill .hz1000 0 { epochIndex := some 0 } (List.replicate 257 firstSample)) =
        [(0 : UInt16)].foldl Unwrapping.step {} := by
    unfold FixedEpochAssembler.unwrapping
    dsimp only
    rw [selected]
    rfl
  refine ⟨FixedEpochAssembler.block { rate := .hz1000, initialized := true, buckets } 0 1000,
    ?_, ?_, (accepted_replicate first 257).1, ?_⟩
  · apply FixedEpochAssembler.release_returns
    · exact (by decide : FixedEpochAssembler.admits { rate := .hz1000, initialized := true } 0 1000)
    · rw [taken, unwrapped]
      decide
  · rw [FixedEpochAssembler.hasFlag_aggregateValid, taken]
    exact complete
  · intro truthful
    have whole := truthful.aggregate.mp
      (by rw [FixedEpochAssembler.hasFlag_aggregateValid, taken]; exact complete)
    have number := whole.number
    rw [List.length_replicate] at number
    exact absurd number (by decide)

end Assembly

end MissionBoard.Characterization
