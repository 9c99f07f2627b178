import Mathlib.Data.Finset.Card
import Mathlib.Data.List.MinMax
import Mathlib.Data.Prod.Lex
import MissionBoard.Characterization.FixedEpochAssembler
import MissionBoard.Library.Run

/-!
Owns what the assembler does to a whole list of samples, and its runs: the bucket of an epoch is
always the one that the samples accepted for the epoch fill from nothing, and each slot of it holds the
sample that is nearest to the centre of the slot.

A run starts with a reset. Its events are what `add` and `release` have returned; of them are
defined the samples accepted for an epoch, and those that its bucket still holds.
-/

namespace MissionBoard.Characterization

namespace Bucket

/-! ### A bucket filled with samples -/

variable (rate : EncoderRate) (epochStartUs : UInt64)

/-- The slot of a sample -/
def slotAt (sample : RawEncoderSample) : Fin 5 :=
  slotForCaptureOffset rate (sample.captureTimestampUs - epochStartUs)

/-- How near a sample is to the centre of a slot; of two as near the earlier one is first. -/
def nearness (slot : Fin 5) (sample : RawEncoderSample) : ℕ ×ₗ ℕ :=
  toLex
    ((absoluteDifference (sample.captureTimestampUs - epochStartUs)
      (slotCenterOffsetUs rate slot)).toNat, sample.captureTimestampUs.toNat)

/-- The bucket after samples, one after another -/
def fill (bucket : Bucket) (samples : List RawEncoderSample) : Bucket :=
  samples.foldl (fun bucket sample => bucket.put rate epochStartUs sample) bucket

/-- The slots in which samples lie -/
def filledSlots (samples : List RawEncoderSample) : Finset (Fin 5) :=
  (samples.map (slotAt rate epochStartUs)).toFinset

variable {rate epochStartUs} (bucket : Bucket) (sample : RawEncoderSample)
  (samples : List RawEncoderSample)

/-- `put` keeps the nearer one of the sample that was there and the new one. -/
theorem put_kept (slot : Fin 5) :
    (bucket.put rate epochStartUs sample).kept slot =
      if slot = slotAt rate epochStartUs sample then
        List.argAux (fun new old =>
          nearness rate epochStartUs slot new < nearness rate epochStartUs slot old)
          (bucket.kept slot) sample
      else bucket.kept slot := by
  have nearer : ∀ old : RawEncoderSample,
      nearness rate epochStartUs (slotAt rate epochStartUs sample) sample <
          nearness rate epochStartUs (slotAt rate epochStartUs sample) old ↔
        absoluteDifference (sample.captureTimestampUs - epochStartUs)
              (slotCenterOffsetUs rate (slotAt rate epochStartUs sample)) <
            absoluteDifference (old.captureTimestampUs - epochStartUs)
              (slotCenterOffsetUs rate (slotAt rate epochStartUs sample)) ∨
          (absoluteDifference (sample.captureTimestampUs - epochStartUs)
                (slotCenterOffsetUs rate (slotAt rate epochStartUs sample)) =
              absoluteDifference (old.captureTimestampUs - epochStartUs)
                (slotCenterOffsetUs rate (slotAt rate epochStartUs sample)) ∧
            sample.captureTimestampUs < old.captureTimestampUs) := by
    intro old
    rw [nearness, nearness, Prod.Lex.toLex_lt_toLex, UInt64.lt_iff_toNat_lt,
      UInt64.lt_iff_toNat_lt, UInt64.toNat_inj]
  unfold put
  dsimp only
  rw [show slotForCaptureOffset rate (sample.captureTimestampUs - epochStartUs) =
    slotAt rate epochStartUs sample from rfl]
  split
  · rename_i empty
    by_cases same : slot = slotAt rate epochStartUs sample
    · subst same
      rw [if_pos rfl, empty]
      exact Function.update_self ..
    · rw [if_neg same]
      exact Function.update_of_ne same ..
  · rename_i old there
    by_cases same : slot = slotAt rate epochStartUs sample
    · subst same
      rw [if_pos rfl, there]
      unfold List.argAux
      simp only [nearer old]
      split
      · exact Function.update_self ..
      · exact there
    · rw [if_neg same]
      split
      · exact Function.update_of_ne same ..
      · rfl

theorem put_observedCount :
    (bucket.put rate epochStartUs sample).observedCount = bucket.observedCount + 1 := by
  unfold put
  dsimp only
  split
  · rfl
  · split <;> rfl

theorem put_epochIndex : (bucket.put rate epochStartUs sample).epochIndex = bucket.epochIndex := by
  unfold put
  dsimp only
  split
  · rfl
  · split <;> rfl

theorem put_repeatedCount :
    (bucket.put rate epochStartUs sample).repeatedCount =
      if (bucket.kept (slotAt rate epochStartUs sample)).isSome then bucket.repeatedCount + 1
      else bucket.repeatedCount := by
  unfold put
  dsimp only
  rw [show slotForCaptureOffset rate (sample.captureTimestampUs - epochStartUs) =
    slotAt rate epochStartUs sample from rfl]
  split
  · rename_i empty
    rw [empty]
    rfl
  · rename_i old there
    rw [there]
    split <;> rfl

theorem fill_concat :
    bucket.fill rate epochStartUs (samples ++ [sample]) =
      (bucket.fill rate epochStartUs samples).put rate epochStartUs sample := by
  unfold fill
  rw [List.foldl_concat]

theorem fill_epochIndex :
    (bucket.fill rate epochStartUs samples).epochIndex = bucket.epochIndex := by
  induction samples using List.reverseRecOn with
  | nil => rfl
  | append_singleton samples sample inductionHypothesis =>
      rw [fill_concat, put_epochIndex, inductionHypothesis]

variable (index : Option UInt64)

/-- Every sample is counted, in eight bits. -/
theorem fill_observedCount :
    (fill rate epochStartUs { epochIndex := index } samples).observedCount =
      UInt8.ofNat samples.length := by
  induction samples using List.reverseRecOn with
  | nil => rfl
  | append_singleton samples sample inductionHypothesis =>
      rw [fill_concat, put_observedCount, inductionHypothesis, List.length_append,
        UInt8.ofNat_add]
      rfl

/-- Each slot holds the nearest of the samples that lie in it. -/
theorem fill_kept (slot : Fin 5) :
    (fill rate epochStartUs { epochIndex := index } samples).kept slot =
      (samples.filter fun sample => slot = slotAt rate epochStartUs sample).argmin
        (nearness rate epochStartUs slot) := by
  induction samples using List.reverseRecOn with
  | nil => rfl
  | append_singleton samples sample inductionHypothesis =>
      rw [fill_concat, put_kept, inductionHypothesis, List.filter_append]
      by_cases same : slot = slotAt rate epochStartUs sample
      · rw [if_pos same, List.filter_cons_of_pos (by simpa using same), List.filter_nil,
          List.argmin_concat]
        rfl
      · rw [if_neg same, List.filter_cons_of_neg (by simpa using same), List.filter_nil,
          List.append_nil]

theorem isSome_fill_kept (slot : Fin 5) :
    ((fill rate epochStartUs { epochIndex := index } samples).kept slot).isSome ↔
      slot ∈ filledSlots rate epochStartUs samples := by
  rw [Option.isSome_iff_ne_none, fill_kept, ne_eq, List.argmin_eq_none, filledSlots,
    List.mem_toFinset, List.mem_map, List.filter_eq_nil_iff]
  simp only [decide_eq_true_eq, not_forall, not_not, exists_prop]
  exact exists_congr fun _ => and_congr_right fun _ => eq_comm

theorem filledSlots_concat :
    filledSlots rate epochStartUs (samples ++ [sample]) =
      insert (slotAt rate epochStartUs sample) (filledSlots rate epochStartUs samples) := by
  unfold filledSlots
  rw [List.map_append, List.toFinset_append, List.map_singleton, List.toFinset_cons,
    List.toFinset_nil, Finset.union_comm]
  rfl

theorem card_filledSlots_le : (filledSlots rate epochStartUs samples).card ≤ samples.length := by
  rw [← List.length_map (slotAt rate epochStartUs)]
  exact List.toFinset_card_le _

/-- A sample that finds its slot taken is counted as repeated, in eight bits. -/
theorem fill_repeatedCount :
    (fill rate epochStartUs { epochIndex := index } samples).repeatedCount =
      UInt8.ofNat (samples.length - (filledSlots rate epochStartUs samples).card) := by
  induction samples using List.reverseRecOn with
  | nil => rfl
  | append_singleton samples sample inductionHypothesis =>
      have fewer := @card_filledSlots_le rate epochStartUs samples
      rw [fill_concat, put_repeatedCount, inductionHypothesis, filledSlots_concat]
      simp only [isSome_fill_kept, List.length_append, List.length_singleton]
      by_cases taken :
          slotAt rate epochStartUs sample ∈ filledSlots rate epochStartUs samples
      · rw [if_pos taken, Finset.insert_eq_of_mem taken, Nat.sub_add_comm fewer,
          UInt8.ofNat_add]
        rfl
      · rw [if_neg taken, Finset.card_insert_of_notMem taken, Nat.add_sub_add_right]

end Bucket

/-! ### What the operations do -/

/-- The ways to reset an assembler -/
inductive AssemblerReset where
  | zero (epochZeroTimestampUs : UInt64)
  | zeroRaw (epochZeroTimestampUs : UInt64) (initialRaw : UInt16)
  | zeroRate (rate : EncoderRate) (epochZeroTimestampUs : UInt64)

namespace FixedEpochAssembler

variable (assembler : FixedEpochAssembler)

def resetBy : AssemblerReset → FixedEpochAssembler
  | .zero epochZeroTimestampUs => assembler.reset epochZeroTimestampUs
  | .zeroRaw epochZeroTimestampUs initialRaw => assembler.resetFrom epochZeroTimestampUs initialRaw
  | .zeroRate rate epochZeroTimestampUs => assembler.resetRate rate epochZeroTimestampUs

/-- The bucket of the samples accepted for an epoch -/
def filled (epochIndex : UInt64) (samples : List RawEncoderSample) : Bucket :=
  Bucket.fill assembler.rate (assembler.epochStartUs epochIndex)
    { epochIndex := if samples = [] then none else some epochIndex } samples

variable {assembler} {sample : RawEncoderSample}

/-- `add` accepts a sample of an epoch that is not released and finds the bucket empty or the epoch's;
else it only counts the sample. -/
theorem add_cases :
    ((assembler.add sample).1 = .accepted ∧
        assembler.epochZeroTimestampUs ≤ sample.captureTimestampUs ∧
        assembler.isReleased (assembler.epochOf sample) = false ∧
        ∃ bucket : Bucket,
          (bucket = { epochIndex := some (assembler.epochOf sample) } ∧
              (assembler.buckets (bucketIndex (assembler.epochOf sample))).epochIndex = none ∨
            bucket = assembler.buckets (bucketIndex (assembler.epochOf sample)) ∧
              bucket.epochIndex = some (assembler.epochOf sample)) ∧
          (assembler.add sample).2 =
            { assembler with
              buckets := Function.update assembler.buckets
                (bucketIndex (assembler.epochOf sample))
                (bucket.put assembler.rate
                  (assembler.epochStartUs (assembler.epochOf sample)) sample) }) ∨
      ((assembler.add sample).1 ≠ .accepted ∧
        ∃ statistics late,
          (assembler.add sample).2 =
            { assembler with statistics := statistics, unreportedLateSamples := late }) := by
  unfold add
  dsimp only
  split
  · exact Or.inr ⟨nofun, _, _, rfl⟩
  · rename_i time
    rw [not_or, UInt64.not_lt] at time
    split
    · exact Or.inr ⟨nofun, _, _, rfl⟩
    · rename_i unreleased
      rw [Bool.not_eq_true] at unreleased
      split
      · rename_i empty
        exact Or.inl ⟨rfl, time.2, unreleased, _, Or.inl ⟨rfl, empty⟩, rfl⟩
      · rename_i other there
        split
        · exact Or.inr ⟨nofun, _, _, rfl⟩
        · rename_i same
          rw [Decidable.not_not] at same
          exact Or.inl ⟨rfl, time.2, unreleased, _, Or.inr ⟨rfl, same ▸ there⟩, rfl⟩

variable {epochIndex releaseTimestampUs : UInt64}

/-- A release is refused without any effect, or it empties the bucket of its epoch. -/
theorem release_cases :
    (assembler.admits epochIndex releaseTimestampUs = false ∧
        assembler.release epochIndex releaseTimestampUs = (none, assembler)) ∨
      (assembler.admits epochIndex releaseTimestampUs = true ∧
        ∃ next : FixedEpochAssembler,
          (assembler.release epochIndex releaseTimestampUs).2 = next ∧
          next.rate = assembler.rate ∧
          next.epochZeroTimestampUs = assembler.epochZeroTimestampUs ∧
          next.buckets = assembler.emptied epochIndex ∧
          (((assembler.unwrapping (assembler.taken epochIndex)).failed = true ∧
              (assembler.release epochIndex releaseTimestampUs).1 = none ∧
              next.released = assembler.released) ∨
            ((assembler.unwrapping (assembler.taken epochIndex)).failed = false ∧
              (assembler.release epochIndex releaseTimestampUs).1 =
                some (assembler.block epochIndex releaseTimestampUs) ∧
              next.released = some epochIndex))) := by
  unfold release
  dsimp only
  cases admitted : assembler.admits epochIndex releaseTimestampUs with
  | false => exact Or.inl ⟨rfl, rfl⟩
  | true =>
      refine Or.inr ⟨rfl, _, rfl, ?_⟩
      cases failed : (assembler.unwrapping (assembler.taken epochIndex)).failed with
      | true => exact ⟨rfl, rfl, rfl, Or.inl ⟨rfl, rfl, rfl⟩⟩
      | false => exact ⟨rfl, rfl, rfl, Or.inr ⟨rfl, rfl, rfl⟩⟩

/-- A release that is admitted returns the block unless a checked operation fails. -/
theorem release_returns (admitted : assembler.admits epochIndex releaseTimestampUs = true)
    (sound : (assembler.unwrapping (assembler.taken epochIndex)).failed = false) :
    (assembler.release epochIndex releaseTimestampUs).1 =
      some (assembler.block epochIndex releaseTimestampUs) := by
  rcases @release_cases assembler epochIndex releaseTimestampUs with
    ⟨refused, -⟩ | ⟨-, next, -, -, -, -, ⟨failed, -⟩ | ⟨-, same, -⟩⟩
  · exact absurd (admitted.symm.trans refused) nofun
  · exact absurd (failed.symm.trans sound) nofun
  · exact same

end FixedEpochAssembler

/-! ### Runs -/

/-- A call, with its arguments -/
inductive AssemblerCall where
  | add (sample : RawEncoderSample)
  | release (epochIndex releaseTimestampUs : UInt64)

/-- A call that has returned; of a release is kept whether it passed its checks. -/
inductive AssemblerEvent where
  | added (sample : RawEncoderSample) (result : AddResult)
  | released (epochIndex : UInt64) (admitted : Bool) (block : Option EncoderEpochBlock)

/-- The assembler, and what its calls have returned -/
structure Assembly where
  assembler : FixedEpochAssembler
  events : List AssemblerEvent := []

namespace Assembly

variable (assembly : Assembly)

def step (assembly : Assembly) : AssemblerCall → Assembly
  | .add sample =>
      { assembler := (assembly.assembler.add sample).2
        events := assembly.events ++ [.added sample (assembly.assembler.add sample).1] }
  | .release epochIndex releaseTimestampUs =>
      { assembler := (assembly.assembler.release epochIndex releaseTimestampUs).2
        events := assembly.events ++
          [.released epochIndex (assembly.assembler.admits epochIndex releaseTimestampUs)
            (assembly.assembler.release epochIndex releaseTimestampUs).1] }

/-- The assembly after a reset and these calls -/
def after (before : FixedEpochAssembler) (reset : AssemblerReset) (calls : List AssemblerCall) :
    Assembly :=
  Run.after step { assembler := before.resetBy reset } calls

/-- One more event, for the samples accepted for an epoch -/
def acceptedAfter (epochOf : RawEncoderSample → UInt64) (epochIndex : UInt64)
    (samples : List RawEncoderSample) : AssemblerEvent → List RawEncoderSample
  | .added sample .accepted =>
      if epochOf sample = epochIndex then samples ++ [sample] else samples
  | _ => samples

/-- One more event, for the samples that the bucket of an epoch holds -/
def heldAfter (epochOf : RawEncoderSample → UInt64) (epochIndex : UInt64)
    (samples : List RawEncoderSample) : AssemblerEvent → List RawEncoderSample
  | .released released true _ => if released = epochIndex then [] else samples
  | event => acceptedAfter epochOf epochIndex samples event

/-- The samples that `add` has accepted for an epoch -/
def accepted (epochIndex : UInt64) : List RawEncoderSample :=
  assembly.events.foldl (acceptedAfter assembly.assembler.epochOf epochIndex) []

/-- Those of them that no release of the epoch has taken -/
def held (epochIndex : UInt64) : List RawEncoderSample :=
  assembly.events.foldl (heldAfter assembly.assembler.epochOf epochIndex) []

/-- The bucket of every epoch is what its samples fill. -/
def Assembled (assembly : Assembly) : Prop :=
  ∀ epochIndex,
    assembly.assembler.taken epochIndex =
      assembly.assembler.filled epochIndex (assembly.held epochIndex)

variable {assembly}

/-- No call changes the rate or the time of the first epoch. -/
theorem step_config (call : AssemblerCall) :
    (assembly.step call).assembler.rate = assembly.assembler.rate ∧
      (assembly.step call).assembler.epochZeroTimestampUs =
        assembly.assembler.epochZeroTimestampUs := by
  cases call with
  | add sample =>
      rcases @FixedEpochAssembler.add_cases assembly.assembler sample with
        ⟨-, -, -, bucket, -, same⟩ | ⟨-, statistics, late, same⟩
      · exact ⟨congrArg (·.rate) same, congrArg (·.epochZeroTimestampUs) same⟩
      · exact ⟨congrArg (·.rate) same, congrArg (·.epochZeroTimestampUs) same⟩
  | release epochIndex releaseTimestampUs =>
      rcases @FixedEpochAssembler.release_cases assembly.assembler epochIndex releaseTimestampUs with
        ⟨-, same⟩ | ⟨-, next, same, rate, zero, -⟩
      · exact ⟨congrArg (·.2.rate) same, congrArg (·.2.epochZeroTimestampUs) same⟩
      · exact ⟨(congrArg (·.rate) same).trans rate,
          (congrArg (·.epochZeroTimestampUs) same).trans zero⟩

/-- So no call changes in which epoch a sample lies. -/
theorem step_epochOf (call : AssemblerCall) :
    (assembly.step call).assembler.epochOf = assembly.assembler.epochOf := by
  funext sample
  unfold FixedEpochAssembler.epochOf
  rw [(step_config call).2]

theorem step_filled (call : AssemblerCall) :
    (assembly.step call).assembler.filled = assembly.assembler.filled := by
  funext epochIndex samples
  unfold FixedEpochAssembler.filled FixedEpochAssembler.epochStartUs
  rw [(step_config call).1, (step_config call).2]

theorem held_add (sample : RawEncoderSample) (epochIndex : UInt64) :
    (assembly.step (.add sample)).held epochIndex =
      acceptedAfter assembly.assembler.epochOf epochIndex (assembly.held epochIndex)
        (.added sample (assembly.assembler.add sample).1) := by
  unfold held
  rw [step_epochOf, step, List.foldl_concat]
  rfl

theorem held_release (released releaseTimestampUs epochIndex : UInt64) :
    (assembly.step (.release released releaseTimestampUs)).held epochIndex =
      if assembly.assembler.admits released releaseTimestampUs = true ∧ released = epochIndex then []
      else assembly.held epochIndex := by
  unfold held
  rw [step_epochOf, step, List.foldl_concat]
  cases assembly.assembler.admits released releaseTimestampUs with
  | false =>
      rw [if_neg (by simp)]
      rfl
  | true =>
      simp only [true_and]
      rfl

theorem acceptedAfter_refused {epochOf : RawEncoderSample → UInt64} {epochIndex : UInt64}
    {samples : List RawEncoderSample} {sample : RawEncoderSample} {result : AddResult}
    (refused : result ≠ .accepted) :
    acceptedAfter epochOf epochIndex samples (.added sample result) = samples := by
  cases result with
  | accepted => exact absurd rfl refused
  | preEpoch => rfl
  | alreadyReleased => rfl
  | bucketCollision => rfl

/-- The bucket of an epoch is its own exactly when it holds a sample. -/
theorem Assembled.owned_iff (assembled : Assembled assembly) (epochIndex : UInt64) :
    (assembly.assembler.buckets (FixedEpochAssembler.bucketIndex epochIndex)).epochIndex =
        some epochIndex ↔
      assembly.held epochIndex ≠ [] := by
  have filled := congrArg (·.epochIndex) (assembled epochIndex)
  rw [FixedEpochAssembler.filled, Bucket.fill_epochIndex] at filled
  unfold FixedEpochAssembler.taken at filled
  by_cases owned : (assembly.assembler.buckets
      (FixedEpochAssembler.bucketIndex epochIndex)).epochIndex = some epochIndex
  · rw [if_pos owned, owned] at filled
    refine ⟨fun _ nothing => ?_, fun _ => owned⟩
    rw [if_pos nothing] at filled
    cases filled
  · rw [if_neg owned] at filled
    refine ⟨fun still => absurd still owned, fun something => ?_⟩
    rw [if_neg something] at filled
    cases filled

theorem Assembled.add (assembled : Assembled assembly) (sample : RawEncoderSample) :
    Assembled (assembly.step (.add sample)) := by
  intro epochIndex
  rw [step_filled, held_add]
  rcases @FixedEpochAssembler.add_cases assembly.assembler sample with
    ⟨result, -, -, bucket, found, same⟩ | ⟨refused, statistics, late, same⟩
  · have next : (assembly.step (.add sample)).assembler =
        { assembly.assembler with
          buckets := Function.update assembly.assembler.buckets
            (FixedEpochAssembler.bucketIndex (assembly.assembler.epochOf sample))
            (bucket.put assembly.assembler.rate
              (assembly.assembler.epochStartUs (assembly.assembler.epochOf sample)) sample) } := same
    have index : bucket.epochIndex = some (assembly.assembler.epochOf sample) := by
      rcases found with ⟨fresh, -⟩ | ⟨-, owned⟩
      · rw [fresh]
      · exact owned
    rw [result, next]
    by_cases mine : assembly.assembler.epochOf sample = epochIndex
    · subst mine
      have before : bucket =
          Bucket.fill assembly.assembler.rate
            (assembly.assembler.epochStartUs (assembly.assembler.epochOf sample))
            { epochIndex := some (assembly.assembler.epochOf sample) }
            (assembly.held (assembly.assembler.epochOf sample)) := by
        rcases found with ⟨fresh, empty⟩ | ⟨there, owned⟩
        · have nothing : assembly.held (assembly.assembler.epochOf sample) = [] := by
            by_contra something
            rw [(assembled.owned_iff _).mpr something] at empty
            cases empty
          rw [nothing, fresh]
          rfl
        · have something := (assembled.owned_iff _).mp (there ▸ owned)
          have taken := assembled (assembly.assembler.epochOf sample)
          rw [FixedEpochAssembler.filled, if_neg something, FixedEpochAssembler.taken,
            ← there] at taken
          rwa [if_pos owned] at taken
      rw [acceptedAfter, if_pos rfl, FixedEpochAssembler.filled, if_neg (by simp),
        Bucket.fill_concat, ← before]
      unfold FixedEpochAssembler.taken
      dsimp only
      rw [Function.update_self, Bucket.put_epochIndex, index, if_pos rfl]
    · rw [acceptedAfter, if_neg mine, ← assembled epochIndex]
      unfold FixedEpochAssembler.taken
      dsimp only
      by_cases shared : FixedEpochAssembler.bucketIndex epochIndex =
          FixedEpochAssembler.bucketIndex (assembly.assembler.epochOf sample)
      · have others : (assembly.assembler.buckets
            (FixedEpochAssembler.bucketIndex (assembly.assembler.epochOf sample))).epochIndex ≠
              some epochIndex := by
          rcases found with ⟨-, empty⟩ | ⟨there, owned⟩
          · rw [empty]
            exact nofun
          · rw [← there, owned]
            exact fun same => mine (Option.some.inj same)
        rw [shared, Function.update_self, Bucket.put_epochIndex, index,
          if_neg fun same => mine (Option.some.inj same), if_neg others]
      · rw [Function.update_of_ne shared]
  · have next : (assembly.step (.add sample)).assembler =
        { assembly.assembler with statistics := statistics, unreportedLateSamples := late } := same
    rw [acceptedAfter_refused refused, next]
    exact assembled epochIndex

/-- A release takes the bucket of its epoch, and no other. -/
theorem taken_of_emptied {assembler next : FixedEpochAssembler} {released : UInt64}
    (buckets : next.buckets = assembler.emptied released) (epochIndex : UInt64) :
    next.taken epochIndex = if released = epochIndex then {} else assembler.taken epochIndex := by
  unfold FixedEpochAssembler.taken
  rw [buckets]
  unfold FixedEpochAssembler.emptied
  by_cases owned :
      (assembler.buckets (FixedEpochAssembler.bucketIndex released)).epochIndex = some released
  · rw [if_pos owned]
    by_cases mine : released = epochIndex
    · subst mine
      rw [if_pos rfl, Function.update_self]
      rfl
    · rw [if_neg mine]
      by_cases shared : FixedEpochAssembler.bucketIndex epochIndex =
          FixedEpochAssembler.bucketIndex released
      · have other : some released ≠ some epochIndex := fun same => mine (Option.some.inj same)
        rw [shared, Function.update_self]
        dsimp only
        rw [owned, if_neg nofun, if_neg other]
      · rw [Function.update_of_ne shared]
  · rw [if_neg owned]
    by_cases mine : released = epochIndex
    · subst mine
      rw [if_pos rfl, if_neg owned]
    · rw [if_neg mine]

theorem Assembled.release (assembled : Assembled assembly) (released releaseTimestampUs : UInt64) :
    Assembled (assembly.step (.release released releaseTimestampUs)) := by
  intro epochIndex
  rw [step_filled, held_release]
  rcases @FixedEpochAssembler.release_cases assembly.assembler released releaseTimestampUs with
    ⟨refused, same⟩ | ⟨admitted, next, same, -, -, buckets, -⟩
  · have next : (assembly.step (.release released releaseTimestampUs)).assembler =
        assembly.assembler := congrArg (·.2) same
    rw [next, refused, if_neg (by simp)]
    exact assembled epochIndex
  · have next : (assembly.step (.release released releaseTimestampUs)).assembler = next := same
    rw [next, taken_of_emptied buckets, admitted]
    by_cases mine : released = epochIndex
    · rw [if_pos mine, if_pos ⟨rfl, mine⟩]
      rfl
    · rw [if_neg mine, if_neg fun both => mine both.2]
      exact assembled epochIndex

theorem assembled_after (before : FixedEpochAssembler) (reset : AssemblerReset)
    (calls : List AssemblerCall) : Assembled (after before reset calls) := by
  have preserved : ∀ (assembly : Assembly) (call : AssemblerCall), Assembled assembly → True →
      Assembled (assembly.step call) := by
    intro assembly call assembled _
    cases call with
    | add sample => exact assembled.add sample
    | release epochIndex releaseTimestampUs => exact assembled.release epochIndex releaseTimestampUs
  have initially : Assembled { assembler := before.resetBy reset } := by
    intro epochIndex
    cases reset with
    | zero => rfl
    | zeroRaw => rfl
    | zeroRate => rfl
  exact Run.invariant_after preserved initially (Run.along_of_forall (fun _ _ => trivial) _ calls)

end Assembly

end MissionBoard.Characterization
