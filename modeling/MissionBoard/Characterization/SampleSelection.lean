import Mathlib.Algebra.Order.Group.Abs
import MissionBoard.Characterization.EpochAssembly
import MissionBoard.Library.PhaseUnwrap

/-!
Owns what the assembler selects over a run: which sample a slot keeps, how each sample is accounted
for, the order in which epochs are released, and the unwrapped counts of the samples that are used.

Which sample is kept does not depend on the order of the samples accepted for its epoch. Which samples
are accepted does: of two epochs that share a bucket the first one to come has it.
-/

namespace MissionBoard.Characterization

/-! ### The sample of a slot -/

namespace Bucket

variable {rate : EncoderRate} {epochStartUs : UInt64} {samples : List RawEncoderSample}

/-- The sample is the nearest one of its slot. -/
def Nearest (rate : EncoderRate) (epochStartUs : UInt64) (samples : List RawEncoderSample)
    (slot : Fin 5) (sample : RawEncoderSample) : Prop :=
  sample ∈ samples ∧ slotAt rate epochStartUs sample = slot ∧
    ∀ other ∈ samples, slotAt rate epochStartUs other = slot →
      nearness rate epochStartUs slot sample ≤ nearness rate epochStartUs slot other

/-- Of samples captured at different times a slot keeps the nearest one. -/
theorem fill_kept_iff (index : Option UInt64)
    (distinct : (samples.map (·.captureTimestampUs)).Nodup) (slot : Fin 5)
    (sample : RawEncoderSample) :
    (fill rate epochStartUs { epochIndex := index } samples).kept slot = some sample ↔
      Nearest rate epochStartUs samples slot sample := by
  rw [fill_kept]
  constructor
  · intro found
    obtain ⟨within, same⟩ := List.mem_filter.mp (List.argmin_mem found)
    refine ⟨within, (of_decide_eq_true same).symm, ?_⟩
    intro other inside there
    apply List.le_of_mem_argmin _ found
    exact List.mem_filter.mpr ⟨inside, decide_eq_true there.symm⟩
  · intro nearest
    obtain ⟨within, same, least⟩ := nearest
    have candidate : sample ∈ samples.filter fun sample => slot = slotAt rate epochStartUs sample :=
      List.mem_filter.mpr ⟨within, decide_eq_true same.symm⟩
    cases found : (samples.filter fun sample => slot = slotAt rate epochStartUs sample).argmin
        (nearness rate epochStartUs slot) with
    | none =>
        rw [List.argmin_eq_none.mp found] at candidate
        cases candidate
    | some kept =>
        obtain ⟨inside, there⟩ := List.mem_filter.mp (List.argmin_mem found)
        have below := least kept inside (of_decide_eq_true there).symm
        have above := List.le_of_mem_argmin candidate found
        have times := congrArg (fun pair => (ofLex pair).2) (le_antisymm above below)
        exact congrArg some
          (List.inj_on_of_nodup_map distinct inside within (UInt64.toNat_inj.mp times))

theorem Nearest.of_perm {others : List RawEncoderSample} (same : samples.Perm others) {slot : Fin 5}
    {sample : RawEncoderSample} (nearest : Nearest rate epochStartUs samples slot sample) :
    Nearest rate epochStartUs others slot sample := by
  obtain ⟨within, there, least⟩ := nearest
  refine ⟨same.mem_iff.mp within, there, ?_⟩
  intro other inside
  exact least other (same.mem_iff.mpr inside)

end Bucket

namespace Assembly

variable (assembly : Assembly)

/-- No release of the epoch has passed its checks. -/
def Unreleased (epochIndex : UInt64) : Prop :=
  ∀ block, .released epochIndex true block ∉ assembly.events

variable {assembly} {epochIndex : UInt64}

/-- Until then the bucket of the epoch holds all that was accepted for it. -/
theorem held_of_unreleased (unreleased : assembly.Unreleased epochIndex) :
    assembly.held epochIndex = assembly.accepted epochIndex := by
  unfold Unreleased at unreleased
  unfold held accepted
  generalize assembly.assembler.epochOf = epochOf
  generalize assembly.events = events at unreleased ⊢
  induction events using List.reverseRecOn with
  | nil => rfl
  | append_singleton events event inductionHypothesis =>
      have same := inductionHypothesis fun block within =>
        unreleased block (List.mem_append_left _ within)
      have last : ∀ block, .released epochIndex true block ≠ event := fun block same =>
        unreleased block (same ▸ List.mem_append_right _ (List.mem_singleton_self _))
      rw [List.foldl_concat, List.foldl_concat, same]
      cases event with
      | added sample result => cases result <;> rfl
      | released released admitted block =>
          cases admitted with
          | false => rfl
          | true =>
              have other : released ≠ epochIndex := fun same => last block (same ▸ rfl)
              exact if_neg other

theorem Assembled.kept_iff (assembled : Assembled assembly)
    (unreleased : assembly.Unreleased epochIndex)
    (distinct : ((assembly.accepted epochIndex).map (·.captureTimestampUs)).Nodup) (slot : Fin 5)
    (sample : RawEncoderSample) :
    (assembly.assembler.taken epochIndex).kept slot = some sample ↔
      Bucket.Nearest assembly.assembler.rate (assembly.assembler.epochStartUs epochIndex)
        (assembly.accepted epochIndex) slot sample := by
  rw [assembled epochIndex, held_of_unreleased unreleased]
  exact Bucket.fill_kept_iff _ distinct slot sample

/-! ### The accounts -/

end Assembly

/-- Where a sample that is added is counted: an accepted one in its bucket, any other one in the counter
of its result -/
def SamplerStatistics.afterAdd (statistics : SamplerStatistics) : AddResult → SamplerStatistics
  | .accepted => statistics
  | .preEpoch => { statistics with preEpochSamples := statistics.preEpochSamples + 1 }
  | .alreadyReleased => { statistics with lateAfterRelease := statistics.lateAfterRelease + 1 }
  | .bucketCollision => { statistics with bucketCollisions := statistics.bucketCollisions + 1 }

namespace FixedEpochAssembler

variable {assembler : FixedEpochAssembler}

theorem add_statistics (sample : RawEncoderSample) :
    (assembler.add sample).2.statistics =
      assembler.statistics.afterAdd (assembler.add sample).1 := by
  unfold add
  dsimp only
  split
  · rfl
  · split
    · rfl
    · split
      · rfl
      · split <;> rfl

theorem release_statistics (epochIndex releaseTimestampUs : UInt64) :
    (assembler.release epochIndex releaseTimestampUs).2.statistics.preEpochSamples =
        assembler.statistics.preEpochSamples ∧
      (assembler.release epochIndex releaseTimestampUs).2.statistics.lateAfterRelease =
        assembler.statistics.lateAfterRelease ∧
      (assembler.release epochIndex releaseTimestampUs).2.statistics.bucketCollisions =
        assembler.statistics.bucketCollisions := by
  unfold release
  dsimp only
  split
  · exact ⟨rfl, rfl, rfl⟩
  · split <;> exact ⟨rfl, rfl, rfl⟩

end FixedEpochAssembler

namespace Assembly

/-- How often `add` was called -/
def adds (assembly : Assembly) : ℕ :=
  assembly.events.countP fun
    | .added .. => true
    | .released .. => false

/-- How often `add` has returned this result -/
def resultCount (assembly : Assembly) (result : AddResult) : ℕ :=
  assembly.events.countP fun
    | .added _ other => other = result
    | .released .. => false

/-- Each call of `add` has one result, and each refused sample is in the counter of its result. -/
structure Accounted (assembly : Assembly) : Prop where
  once : assembly.adds =
    assembly.resultCount .accepted + assembly.resultCount .preEpoch +
      assembly.resultCount .alreadyReleased + assembly.resultCount .bucketCollision
  preEpoch : assembly.assembler.statistics.preEpochSamples =
    UInt64.ofNat (assembly.resultCount .preEpoch)
  alreadyReleased : assembly.assembler.statistics.lateAfterRelease =
    UInt64.ofNat (assembly.resultCount .alreadyReleased)
  bucketCollision : assembly.assembler.statistics.bucketCollisions =
    UInt64.ofNat (assembly.resultCount .bucketCollision)

variable {assembly : Assembly}

theorem resultCount_add (sample : RawEncoderSample) (result : AddResult) :
    (assembly.step (.add sample)).resultCount result =
      assembly.resultCount result +
        if (assembly.assembler.add sample).1 = result then 1 else 0 := by
  unfold resultCount step
  dsimp only
  rw [List.countP_append, List.countP_singleton]
  simp only [decide_eq_true_eq]

theorem resultCount_release (epochIndex releaseTimestampUs : UInt64) (result : AddResult) :
    (assembly.step (.release epochIndex releaseTimestampUs)).resultCount result =
      assembly.resultCount result := by
  unfold resultCount step
  dsimp only
  rw [List.countP_append, List.countP_singleton]
  rfl

theorem Accounted.add (accounted : Accounted assembly) (sample : RawEncoderSample) :
    Accounted (assembly.step (.add sample)) := by
  have adds : (assembly.step (.add sample)).adds = assembly.adds + 1 := by
    unfold Assembly.adds step
    dsimp only
    rw [List.countP_append, List.countP_singleton]
    rfl
  have statistics : (assembly.step (.add sample)).assembler.statistics =
      assembly.assembler.statistics.afterAdd (assembly.assembler.add sample).1 :=
    FixedEpochAssembler.add_statistics sample
  have once := accounted.once
  constructor
  · rw [adds, resultCount_add, resultCount_add, resultCount_add, resultCount_add]
    cases (assembly.assembler.add sample).1 <;> simp <;> omega
  all_goals
    rw [statistics, resultCount_add]
    cases (assembly.assembler.add sample).1 <;>
      simp [SamplerStatistics.afterAdd, accounted.preEpoch, accounted.alreadyReleased,
        accounted.bucketCollision, UInt64.ofNat_add]

theorem Accounted.release (accounted : Accounted assembly)
    (epochIndex releaseTimestampUs : UInt64) :
    Accounted (assembly.step (.release epochIndex releaseTimestampUs)) := by
  have adds : (assembly.step (.release epochIndex releaseTimestampUs)).adds = assembly.adds := by
    unfold Assembly.adds step
    dsimp only
    rw [List.countP_append, List.countP_singleton]
    rfl
  obtain ⟨preEpoch, alreadyReleased, bucketCollision⟩ :=
    @FixedEpochAssembler.release_statistics assembly.assembler epochIndex releaseTimestampUs
  constructor
  · simp only [adds, resultCount_release]
    exact accounted.once
  · rw [resultCount_release, ← accounted.preEpoch]
    exact preEpoch
  · rw [resultCount_release, ← accounted.alreadyReleased]
    exact alreadyReleased
  · rw [resultCount_release, ← accounted.bucketCollision]
    exact bucketCollision

/-! ### The order of the epochs -/

/-- The epochs of the blocks that were released, in order -/
def releasedEpochs (assembly : Assembly) : List UInt64 :=
  assembly.events.filterMap fun
    | .released epochIndex _ (some _) => some epochIndex
    | _ => none

/-- The epochs are released in order and without gaps, and the assembler knows the last one. -/
structure InOrder (assembly : Assembly) : Prop where
  noGaps : assembly.releasedEpochs.map (·.toNat) = List.range assembly.releasedEpochs.length
  last : assembly.assembler.released = assembly.releasedEpochs.getLast?
  bounded : ∀ epochIndex ∈ assembly.releasedEpochs, epochIndex.toNat < 2 ^ 63

theorem releasedEpochs_add (sample : RawEncoderSample) :
    (assembly.step (.add sample)).releasedEpochs = assembly.releasedEpochs := by
  unfold releasedEpochs step
  dsimp only
  rw [List.filterMap_append]
  exact List.append_nil _

theorem releasedEpochs_release (epochIndex releaseTimestampUs : UInt64) :
    (assembly.step (.release epochIndex releaseTimestampUs)).releasedEpochs =
      assembly.releasedEpochs ++
        if (assembly.assembler.release epochIndex releaseTimestampUs).1.isSome then [epochIndex]
        else [] := by
  unfold releasedEpochs step
  dsimp only
  rw [List.filterMap_append]
  cases (assembly.assembler.release epochIndex releaseTimestampUs).1 <;> rfl

/-- It depends on nothing else. -/
theorem InOrder.of_same (inOrder : InOrder assembly) {next : Assembly}
    (epochs : next.releasedEpochs = assembly.releasedEpochs)
    (released : next.assembler.released = assembly.assembler.released) : InOrder next := by
  constructor
  · rw [epochs]
    exact inOrder.noGaps
  · rw [epochs, released]
    exact inOrder.last
  · rw [epochs]
    exact inOrder.bounded

theorem InOrder.add (inOrder : InOrder assembly) (sample : RawEncoderSample) :
    InOrder (assembly.step (.add sample)) := by
  apply inOrder.of_same (releasedEpochs_add sample)
  rcases @FixedEpochAssembler.add_cases assembly.assembler sample with
    ⟨-, -, -, bucket, -, same⟩ | ⟨-, statistics, late, same⟩
  · exact congrArg (·.released) same
  · exact congrArg (·.released) same

/-- An admitted epoch is the one after the last, and far from the end of its range. -/
theorem admits_next {assembler : FixedEpochAssembler} {epochIndex releaseTimestampUs : UInt64}
    (admitted : assembler.admits epochIndex releaseTimestampUs = true) :
    (match assembler.released with
      | none => epochIndex = 0
      | some last => epochIndex = last + 1) ∧ epochIndex.toNat < 2 ^ 63 := by
  unfold FixedEpochAssembler.admits at admitted
  simp only [Bool.and_eq_true, decide_eq_true_eq] at admitted
  obtain ⟨⟨⟨-, next⟩, below⟩, -⟩ := admitted
  constructor
  · cases released : assembler.released with
    | none =>
        rw [released] at next
        exact eq_of_beq next
    | some last =>
        rw [released] at next
        exact eq_of_beq next
  · rw [UInt64.lt_iff_toNat_lt, UInt64.toNat_div] at below
    have most := UInt64.toNat_lt (0xFFFFFFFFFFFFFFFF - assembler.epochZeroTimestampUs)
    have duration : kEpochDurationUs.toNat = 1000 := rfl
    rw [duration] at below
    omega

theorem InOrder.release (inOrder : InOrder assembly) (epochIndex releaseTimestampUs : UInt64) :
    InOrder (assembly.step (.release epochIndex releaseTimestampUs)) := by
  rcases @FixedEpochAssembler.release_cases assembly.assembler epochIndex releaseTimestampUs with
    ⟨-, same⟩ | ⟨admitted, next, same, -, -, -, ⟨-, nothing, kept⟩ | ⟨-, block, moved⟩⟩
  · apply inOrder.of_same
    · rw [releasedEpochs_release, same]
      exact List.append_nil _
    · exact congrArg (·.2.released) same
  · apply inOrder.of_same
    · rw [releasedEpochs_release, nothing]
      exact List.append_nil _
    · exact (congrArg (·.released) same).trans kept
  · obtain ⟨following, small⟩ := admits_next admitted
    have number : epochIndex.toNat = assembly.releasedEpochs.length := by
      rw [inOrder.last] at following
      cases found : assembly.releasedEpochs.getLast? with
      | none =>
          rw [found] at following
          rw [following, List.getLast?_eq_none_iff.mp found]
          rfl
      | some last =>
          rw [found] at following
          obtain ⟨earlier, split⟩ := List.getLast?_eq_some_iff.mp found
          have order := inOrder.noGaps
          rw [split, List.length_append, List.length_singleton, List.range_succ, List.map_append,
            List.map_singleton] at order
          have position := List.append_inj_right' order rfl
          have value : last.toNat = earlier.length := by simpa using position
          have room := inOrder.bounded last (split ▸ List.mem_append_right _ List.mem_cons_self)
          rw [following, split, List.length_append, List.length_singleton, UInt64.toNat_add,
            ← value]
          exact Nat.mod_eq_of_lt (by
            have one : (1 : UInt64).toNat = 1 := rfl
            omega)
    have epochs : (assembly.step (.release epochIndex releaseTimestampUs)).releasedEpochs =
        assembly.releasedEpochs ++ [epochIndex] := by
      rw [releasedEpochs_release, block]
      rfl
    have released : (assembly.step (.release epochIndex releaseTimestampUs)).assembler.released =
        some epochIndex := (congrArg (·.released) same).trans moved
    constructor
    · rw [epochs, List.map_append, inOrder.noGaps, List.length_append, List.length_singleton,
        List.range_succ, List.map_singleton, number]
    · rw [epochs, released, List.getLast?_concat]
    · intro other within
      rw [epochs, List.mem_append, List.mem_singleton] at within
      cases within with
      | inl earlier => exact inOrder.bounded other earlier
      | inr last => rwa [last]

end Assembly

/-! ### The unwrapped counts -/

/-- A raw angle as a number -/
def rawValue (raw : UInt16) : ℤ := raw.toNat

theorem wrappedDelta_congruent (current previous : UInt16) :
    wrappedDelta current previous ≡ rawValue current - rawValue previous [ZMOD 16384] := by
  unfold wrappedDelta rawValue
  dsimp only
  rw [Int.modEq_iff_dvd]
  split
  · exact ⟨1, by ring⟩
  · split
    · exact ⟨-1, by ring⟩
    · exact ⟨0, by ring⟩

/-- Two angles of 14 bits are at most half a turn apart. -/
theorem abs_wrappedDelta_le {current previous : UInt16} (currentProper : current ≤ 0x3FFF)
    (previousProper : previous ≤ 0x3FFF) : |wrappedDelta current previous| ≤ 8192 := by
  have currentSmall : current.toNat ≤ 16383 := currentProper
  have previousSmall : previous.toNat ≤ 16383 := previousProper
  rw [abs_le]
  unfold wrappedDelta
  dsimp only
  split
  · omega
  · split <;> omega

theorem checkedAdd_eq {lhs rhs sum : ℤ} (added : checkedAdd lhs rhs = some sum) :
    sum = lhs + rhs := by
  unfold checkedAdd at added
  split at added
  · cases added
  · exact (Option.some.inj added).symm

namespace Unwrapping

/-- The angle that was used last, with its count -/
def reference (state : Unwrapping) : Option (UInt16 × ℤ) :=
  if state.hasReference then some (state.lastRaw, state.lastCount) else none

/-- A sample that does not fail moves the reference on. -/
theorem step_reference {state : Unwrapping} {raw : UInt16}
    (sound : (state.step raw).failed = false) :
    state.failed = false ∧
      (state.step raw).reference =
        some (PhaseUnwrap.advance rawValue wrappedDelta state.reference raw) := by
  unfold step at sound ⊢
  split at sound
  · rename_i failed
    exact absurd (failed.symm.trans sound) nofun
  · rename_i before
    refine ⟨Bool.eq_false_of_not_eq_true before, ?_⟩
    rw [if_neg before]
    split at sound
    · cases sound
    · rename_i count unwrapped
      have advanced : PhaseUnwrap.advance rawValue wrappedDelta state.reference raw =
          (raw, count) := by
        unfold unwrap at unwrapped
        unfold reference
        cases known : state.hasReference with
        | false =>
            rw [known] at unwrapped
            exact congrArg (Prod.mk raw) (Option.some.inj unwrapped)
        | true =>
            rw [known] at unwrapped
            exact congrArg (Prod.mk raw) (checkedAdd_eq unwrapped).symm
      rw [advanced]
      dsimp only at sound ⊢
      split at sound
      · cases sound
      · rfl

/-- And so do samples one after another. -/
theorem foldl_reference {state : Unwrapping} {raws : List UInt16}
    (sound : (raws.foldl step state).failed = false) :
    (raws.foldl step state).reference =
      PhaseUnwrap.last rawValue wrappedDelta state.reference raws := by
  induction raws using List.reverseRecOn with
  | nil => rfl
  | append_singleton raws raw inductionHypothesis =>
      rw [List.foldl_concat] at sound ⊢
      obtain ⟨before, moved⟩ := step_reference sound
      rw [moved, inductionHypothesis before, PhaseUnwrap.last_append]
      rfl

end Unwrapping

/-- The angles of the samples of a block that are present and usable, in the order of their slots -/
def EncoderEpochBlock.usedRaws (block : EncoderEpochBlock) : List UInt16 :=
  (List.finRange 5).filterMap fun slot =>
    if block.presentAt slot && usable (block.sampleAt slot) then
      some (block.sampleAt slot).angleRaw
    else none

namespace FixedEpochAssembler

variable {assembler : FixedEpochAssembler} {epochIndex releaseTimestampUs : UInt64}

/-- The reference that the assembler has -/
def reference (assembler : FixedEpochAssembler) : Option (UInt16 × ℤ) :=
  if assembler.hasUnwrappedReference then
    some (assembler.lastReleasedRaw, assembler.lastUnwrappedCount)
  else none

theorem usedRaws_block :
    (assembler.block epochIndex releaseTimestampUs).usedRaws =
      (((assembler.taken epochIndex).selected assembler.rate).filter usable).map (·.angleRaw) := by
  unfold EncoderEpochBlock.usedRaws EncoderEpochBlock.presentAt EncoderEpochBlock.sampleAt block
    Bucket.selected epochSlots
  rw [List.filterMap_filter, List.filter_filterMap, List.map_filterMap]
  congr 1
  funext slot
  simp only [Vector.getElem_ofFn, Fin.getElem_fin, Bucket.slotOf, decide_eq_true_eq]
  by_cases inside : slot.val < (expectedSamplesPerEpoch assembler.rate).toNat
  · simp only [if_pos inside]
    cases (assembler.taken epochIndex).kept slot with
    | none => rfl
    | some sample =>
        rw [Option.filter_some]
        show (if (true && usable sample) = true then some sample.angleRaw else none) =
          (if usable sample = true then some sample else none).map (·.angleRaw)
        cases usable sample <;> rfl
  · simp only [if_neg inside]
    rfl

/-- A release that returns a block has the reference moved on by the samples of the block. -/
theorem release_reference {block : EncoderEpochBlock}
    (released : (assembler.release epochIndex releaseTimestampUs).1 = some block) :
    (assembler.release epochIndex releaseTimestampUs).2.reference =
      PhaseUnwrap.last rawValue wrappedDelta assembler.reference block.usedRaws := by
  have moved : ∀ admitted : assembler.admits epochIndex releaseTimestampUs = true,
      (assembler.release epochIndex releaseTimestampUs).2.reference =
        (assembler.unwrapping (assembler.taken epochIndex)).reference := by
    intro admitted
    unfold release
    dsimp only
    rw [if_neg (by rw [admitted]; exact nofun)]
    split <;> rfl
  rcases @release_cases assembler epochIndex releaseTimestampUs with
    ⟨-, same⟩ | ⟨admitted, next, -, -, -, -, ⟨-, nothing, -⟩ | ⟨sound, same, -⟩⟩
  · rw [same] at released
    cases released
  · rw [nothing] at released
    cases released
  · rw [moved admitted, ← Option.some.inj (same.symm.trans released), usedRaws_block]
    exact Unwrapping.foldl_reference sound

end FixedEpochAssembler

/-- The reference after a reset -/
def AssemblerReset.reference : AssemblerReset → Option (UInt16 × ℤ)
  | .zeroRaw _ initialRaw => some (initialRaw, initialRaw.toNat)
  | .zero _ => none
  | .zeroRate .. => none

namespace Assembly

/-- No release has failed after it had passed its checks. -/
def Sound (assembly : Assembly) : Prop :=
  ∀ epochIndex, .released epochIndex true none ∉ assembly.events

/-- The angles of all samples that were used, in order -/
def usedRaws (assembly : Assembly) : List UInt16 :=
  assembly.events.flatMap fun
    | .released _ _ (some block) => block.usedRaws
    | _ => []

/-- The used angles have counts: each is congruent to its angle, each is at most half a turn from the
one before when the angles have 14 bits, and the assembler has the last one. -/
def UnwrappedCounts (initial : Option (UInt16 × ℤ)) (assembly : Assembly) : Prop :=
  ∃ counts : List (UInt16 × ℤ),
    counts.map (·.1) = assembly.usedRaws ∧
      (∀ pair ∈ counts, pair.2 ≡ rawValue pair.1 [ZMOD 16384]) ∧
      ((∀ pair ∈ initial, pair.1 ≤ 0x3FFF) → (∀ raw ∈ assembly.usedRaws, raw ≤ 0x3FFF) →
        (initial.toList ++ counts).IsChain fun earlier later => |later.2 - earlier.2| ≤ 8192) ∧
      assembly.assembler.reference = (initial.toList ++ counts).getLast?

variable {assembly : Assembly} {initial : Option (UInt16 × ℤ)}

theorem Sound.before {call : AssemblerCall} (sound : (assembly.step call).Sound) :
    assembly.Sound := by
  intro epochIndex within
  apply sound epochIndex
  cases call with
  | add sample => exact List.mem_append_left _ within
  | release released releaseTimestampUs => exact List.mem_append_left _ within

theorem reference_add (sample : RawEncoderSample) :
    (assembly.step (.add sample)).assembler.reference = assembly.assembler.reference ∧
      (assembly.step (.add sample)).usedRaws = assembly.usedRaws := by
  constructor
  · rcases @FixedEpochAssembler.add_cases assembly.assembler sample with
      ⟨-, -, -, bucket, -, same⟩ | ⟨-, statistics, late, same⟩
    · exact congrArg (·.reference) same
    · exact congrArg (·.reference) same
  · unfold usedRaws step
    dsimp only
    rw [List.flatMap_append]
    exact List.append_nil _

theorem reference_release (epochIndex releaseTimestampUs : UInt64)
    (sound : (assembly.step (.release epochIndex releaseTimestampUs)).Sound)
    (before : assembly.assembler.reference =
      PhaseUnwrap.last rawValue wrappedDelta initial assembly.usedRaws) :
    (assembly.step (.release epochIndex releaseTimestampUs)).assembler.reference =
      PhaseUnwrap.last rawValue wrappedDelta initial
        (assembly.step (.release epochIndex releaseTimestampUs)).usedRaws := by
  have used : (assembly.step (.release epochIndex releaseTimestampUs)).usedRaws =
      assembly.usedRaws ++
        match (assembly.assembler.release epochIndex releaseTimestampUs).1 with
        | some block => block.usedRaws
        | none => [] := by
    unfold usedRaws step
    dsimp only
    rw [List.flatMap_append, List.flatMap_singleton]
    cases (assembly.assembler.release epochIndex releaseTimestampUs).1 <;> rfl
  rw [used]
  cases released : (assembly.assembler.release epochIndex releaseTimestampUs).1 with
  | some block =>
      dsimp only
      rw [PhaseUnwrap.last_append, ← before]
      exact FixedEpochAssembler.release_reference released
  | none =>
      dsimp only
      rw [List.append_nil, ← before]
      rcases @FixedEpochAssembler.release_cases assembly.assembler epochIndex releaseTimestampUs with
        ⟨-, same⟩ | ⟨admitted, -⟩
      · exact congrArg (·.2.reference) same
      · refine absurd ?_ (sound epochIndex)
        unfold step
        dsimp only
        rw [released, admitted]
        exact List.mem_append_right _ (List.mem_singleton_self _)

/-- What the assembler has unwrapped is what the used angles make of its first reference. -/
theorem reference_after (before : FixedEpochAssembler) (reset : AssemblerReset)
    (calls : List AssemblerCall) :
    (after before reset calls).Sound →
      (after before reset calls).assembler.reference =
        PhaseUnwrap.last rawValue wrappedDelta reset.reference
          (after before reset calls).usedRaws := by
  have preserved : ∀ (assembly : Assembly) (call : AssemblerCall),
      (assembly.Sound → assembly.assembler.reference =
        PhaseUnwrap.last rawValue wrappedDelta reset.reference assembly.usedRaws) → True →
      (assembly.step call).Sound → (assembly.step call).assembler.reference =
        PhaseUnwrap.last rawValue wrappedDelta reset.reference (assembly.step call).usedRaws := by
    intro assembly call inductionHypothesis _ sound
    have same := inductionHypothesis sound.before
    cases call with
    | add sample => rw [(reference_add sample).1, (reference_add sample).2, same]
    | release epochIndex releaseTimestampUs =>
        exact reference_release epochIndex releaseTimestampUs sound same
  have initially : Assembly.Sound { assembler := before.resetBy reset } →
      (before.resetBy reset).reference =
        PhaseUnwrap.last rawValue wrappedDelta reset.reference
          (usedRaws { assembler := before.resetBy reset }) := by
    intro _
    cases reset <;> rfl
  exact Run.invariant_after preserved initially (Run.along_of_forall (fun _ _ => trivial) _ calls)

/-- So the counts are those of the used angles. -/
theorem unwrappedCounts_after (before : FixedEpochAssembler) (reset : AssemblerReset)
    (calls : List AssemblerCall) (sound : (after before reset calls).Sound) :
    UnwrappedCounts reset.reference (after before reset calls) := by
  refine ⟨PhaseUnwrap.counts rawValue wrappedDelta reset.reference
    (after before reset calls).usedRaws, PhaseUnwrap.counts_readings _ _, ?_, ?_, ?_⟩
  · apply PhaseUnwrap.counts_congruent wrappedDelta_congruent
    intro pair same
    cases reset with
    | zero => cases same
    | zeroRaw epochZeroTimestampUs initialRaw =>
        rw [← Option.some.inj same]
        exact Int.ModEq.refl _
    | zeroRate => cases same
  · intro initialProper usedProper
    exact @PhaseUnwrap.counts_moves _ rawValue wrappedDelta 8192 (· ≤ 0x3FFF)
      (fun _ _ current previous => abs_wrappedDelta_le current previous) _ initialProper _ usedProper
  · rw [reference_after before reset calls sound, PhaseUnwrap.last_eq]

theorem accounted_after (before : FixedEpochAssembler) (reset : AssemblerReset)
    (calls : List AssemblerCall) : Accounted (after before reset calls) := by
  have preserved : ∀ (assembly : Assembly) (call : AssemblerCall), Accounted assembly → True →
      Accounted (assembly.step call) := by
    intro assembly call accounted _
    cases call with
    | add sample => exact accounted.add sample
    | release epochIndex releaseTimestampUs => exact accounted.release epochIndex releaseTimestampUs
  have initially : Accounted { assembler := before.resetBy reset } := by
    cases reset <;> exact ⟨rfl, rfl, rfl, rfl⟩
  exact Run.invariant_after preserved initially (Run.along_of_forall (fun _ _ => trivial) _ calls)

theorem inOrder_after (before : FixedEpochAssembler) (reset : AssemblerReset)
    (calls : List AssemblerCall) : InOrder (after before reset calls) := by
  have preserved : ∀ (assembly : Assembly) (call : AssemblerCall), InOrder assembly → True →
      InOrder (assembly.step call) := by
    intro assembly call inOrder _
    cases call with
    | add sample => exact inOrder.add sample
    | release epochIndex releaseTimestampUs => exact inOrder.release epochIndex releaseTimestampUs
  have initially : InOrder { assembler := before.resetBy reset } := by
    constructor
    · rfl
    · cases reset <;> rfl
    · intro epochIndex within
      cases within
  exact Run.invariant_after preserved initially (Run.along_of_forall (fun _ _ => trivial) _ calls)

/-- The rate and the times of the epochs are those of the reset. -/
theorem config_after (before : FixedEpochAssembler) (reset : AssemblerReset)
    (calls : List AssemblerCall) :
    (after before reset calls).assembler.rate = (before.resetBy reset).rate ∧
      (after before reset calls).assembler.epochZeroTimestampUs =
        (before.resetBy reset).epochZeroTimestampUs := by
  have preserved : ∀ (assembly : Assembly) (call : AssemblerCall),
      (assembly.assembler.rate = (before.resetBy reset).rate ∧
        assembly.assembler.epochZeroTimestampUs = (before.resetBy reset).epochZeroTimestampUs) →
      True →
      (assembly.step call).assembler.rate = (before.resetBy reset).rate ∧
        (assembly.step call).assembler.epochZeroTimestampUs =
          (before.resetBy reset).epochZeroTimestampUs := by
    intro assembly call same _
    rw [(step_config call).1, (step_config call).2]
    exact same
  have initially : (before.resetBy reset).rate = (before.resetBy reset).rate ∧
      (before.resetBy reset).epochZeroTimestampUs =
        (before.resetBy reset).epochZeroTimestampUs := ⟨rfl, rfl⟩
  exact Run.invariant_after preserved initially (Run.along_of_forall (fun _ _ => trivial) _ calls)

/-! ### The run as a whole -/

/-- Every slot of an epoch keeps the nearest of the samples accepted for the epoch, whatever their order;
every sample is accounted for once, epochs follow each other, and the counts are unwrapped. -/
theorem samples_selected (before : FixedEpochAssembler) (reset : AssemblerReset)
    (calls : List AssemblerCall) :
    (∀ epochIndex, (after before reset calls).Unreleased epochIndex →
        (((after before reset calls).accepted epochIndex).map (·.captureTimestampUs)).Nodup →
        (∀ slot sample,
            ((after before reset calls).assembler.taken epochIndex).kept slot = some sample ↔
              Bucket.Nearest (after before reset calls).assembler.rate
                ((after before reset calls).assembler.epochStartUs epochIndex)
                ((after before reset calls).accepted epochIndex) slot sample) ∧
          ∀ others, (after before reset others).Unreleased epochIndex →
            ((after before reset calls).accepted epochIndex).Perm
              ((after before reset others).accepted epochIndex) →
            ((after before reset others).assembler.taken epochIndex).kept =
              ((after before reset calls).assembler.taken epochIndex).kept) ∧
      Accounted (after before reset calls) ∧
      (after before reset calls).releasedEpochs.map (·.toNat) =
        List.range (after before reset calls).releasedEpochs.length ∧
      ((after before reset calls).Sound →
        UnwrappedCounts reset.reference (after before reset calls)) := by
  refine ⟨?_, accounted_after before reset calls, (inOrder_after before reset calls).noGaps,
    unwrappedCounts_after before reset calls⟩
  intro epochIndex unreleased distinct
  have kept := (assembled_after before reset calls).kept_iff unreleased distinct
  refine ⟨kept, ?_⟩
  intro others otherUnreleased same
  have otherDistinct := (same.map (·.captureTimestampUs)).nodup_iff.mp distinct
  have otherKept := (assembled_after before reset others).kept_iff otherUnreleased otherDistinct
  have start : (after before reset others).assembler.epochStartUs epochIndex =
      (after before reset calls).assembler.epochStartUs epochIndex := by
    unfold FixedEpochAssembler.epochStartUs
    rw [(config_after before reset others).2, (config_after before reset calls).2]
  funext slot
  apply Option.ext
  intro sample
  rw [kept, otherKept, start, (config_after before reset others).1,
    (config_after before reset calls).1]
  exact ⟨fun nearest => nearest.of_perm same.symm, fun nearest => nearest.of_perm same⟩

/-- A sample of the first epoch and one of the ninth, which has the same bucket -/
def firstAndNinth : RawEncoderSample × RawEncoderSample :=
  ({ captureTimestampUs := 500 }, { captureTimestampUs := 8500 })

/-- Added in one order the slot of the first epoch keeps its sample, in the other it stays empty. -/
theorem collision_depends_on_order :
    (((after {} (.zero 0)
            [.add firstAndNinth.1, .add firstAndNinth.2]).assembler.taken 0).kept 0).map
          (·.captureTimestampUs) = some 500 ∧
      (((after {} (.zero 0)
            [.add firstAndNinth.2, .add firstAndNinth.1]).assembler.taken 0).kept 0).map
          (·.captureTimestampUs) = none := by
  decide +kernel

end Assembly

end MissionBoard.Characterization
