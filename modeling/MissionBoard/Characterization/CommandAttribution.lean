import MissionBoard.Characterization.EpochCommand

/-!
Owns the commands that `ProfileRunner::run` attributes to the epochs: what the records of a run say of
them, whatever slips and is caught up.
-/

namespace MissionBoard.Characterization

/-! ### What the records say -/

/-- The command of an epoch that begins at this time, after that of the epoch before: it is the same one,
or a later one that was applied after the other and not before the epoch began. -/
structure Succeeds (startUs : UInt64) (previous next : CommandEvidence) : Prop where
  ordered : previous.commandGeneration ≤ next.commandGeneration
  same : previous.commandGeneration = next.commandGeneration → SameCommand previous next
  later : previous.commandGeneration < next.commandGeneration →
    previous.commandApplyTimestampUs < next.commandApplyTimestampUs ∧
      startUs ≤ next.commandApplyTimestampUs

theorem Succeeds.congr {startUs : UInt64} {previous next first second : CommandEvidence}
    (succeeds : Succeeds startUs previous next) (before : SameCommand first previous)
    (after : SameCommand second next) : Succeeds startUs first second := by
  obtain ⟨ordered, same, later⟩ := succeeds
  rw [← before.generation, ← after.generation] at ordered same later
  rw [← before.timestamp, ← after.timestamp] at later
  exact ⟨ordered, fun equal => before.trans ((same equal).trans after.symm), later⟩

/-- The command of a record was applied before its epoch ended, and before it was released. -/
def Timely (record : LogRecord) : Prop :=
  record.command.commandApplyTimestampUs < record.encoder.epochEndTimestampUs ∧
    record.command.commandApplyTimestampUs ≤ record.encoder.releaseTimestampUs

/-- The commands of records in their order -/
structure Attributed (records : List LogRecord) : Prop where
  successive : records.IsChain fun previous next =>
    Succeeds next.encoder.epochStartTimestampUs previous.command next.command
  timely : ∀ record ∈ records, Timely record

theorem Attributed.concat {records : List LogRecord} (attributed : Attributed records)
    {record : LogRecord} (timely : Timely record)
    (succeeds : ∀ last ∈ records.getLast?,
      Succeeds record.encoder.epochStartTimestampUs last.command record.command) :
    Attributed (records ++ [record]) := by
  refine ⟨?_, ?_⟩
  · apply attributed.successive.append (List.isChain_singleton record)
    intro last within head same
    obtain rfl := Option.some.inj same
    exact succeeds last within
  · intro other within
    rcases List.mem_append.mp within with earlier | here
    · exact attributed.timely other earlier
    · rw [List.mem_singleton.mp here]
      exact timely

namespace RunState

open CommandJournal (Consecutive Renews)

/-- A command that was applied an epoch late waits for the next epoch, or the epoch has the command that
was applied last. -/
def Awaits (epoch : UInt32) (run : RunState) : Prop :=
  let evidence := run.currentCommandState.evidence
  let current := run.journal.current
  SameCommand evidence current ∨
    current.commandGeneration.toNat = evidence.commandGeneration.toNat + 1 ∧
      run.epochEnd epoch ≤ current.commandApplyTimestampUs ∧
      current.commandApplyTimestampUs < run.hardDeadline epoch

/-- The run in an epoch -/
structure Attributing (world : World) (setup : RunSetup) (epoch : UInt32) (run : RunState) : Prop where
  zero : run.epochZeroUs.toNat < 2 ^ 63 + 2000000
  assembler : run.assembler.epochZeroTimestampUs = run.epochZeroUs
  consecutive : Consecutive run.journal
  /-- There are numbers for the epochs that are left. -/
  numbers : run.journal.current.commandGeneration.toNat + setup.epochs.toNat < 2 ^ 64 + epoch.toNat
  applied : run.journal.current.commandApplyTimestampUs ≤ run.now world
  early : run.currentCommandState.evidence.commandApplyTimestampUs < run.epochEnd epoch
  awaits : run.Awaits epoch
  succeeds : ∀ last ∈ run.records.getLast?,
    Succeeds (run.epochStart epoch) last.command run.currentCommandState.evidence
  attributed : Attributed run.records

variable {world : World} {setup : RunSetup} {run next : RunState} {epoch : UInt32}

/-- The times of an epoch do not wrap. -/
theorem epochStart_toNat (zero : run.epochZeroUs.toNat < 2 ^ 63 + 2000000) (epoch : UInt32) :
    (run.epochStart epoch).toNat = run.epochZeroUs.toNat + epoch.toNat * 1000 ∧
      (run.epochEnd epoch).toNat = run.epochZeroUs.toNat + epoch.toNat * 1000 + 1000 ∧
      (run.hardDeadline epoch).toNat = run.epochZeroUs.toNat + epoch.toNat * 1000 + 2000 := by
  have small := epoch.toNat_lt
  have duration : kEpochDurationUs.toNat = 1000 := rfl
  unfold hardDeadline epochEnd epochStart
  simp only [UInt64.toNat_add, UInt64.toNat_mul, UInt32.toNat_toUInt64, duration]
  omega

theorem Attributing.of_quiet (clock : Clock world) (attributing : Attributing world setup epoch run)
    (quiet : Quiet run next)
    (assembler : next.assembler.epochZeroTimestampUs = run.assembler.epochZeroTimestampUs) :
    Attributing world setup epoch next := by
  have start : next.epochStart epoch = run.epochStart epoch :=
    congrArg (fun zero => zero + epoch.toUInt64 * kEpochDurationUs) quiet.epochZeroUs
  have ending : next.epochEnd epoch = run.epochEnd epoch := congrArg (· + kEpochDurationUs) start
  have deadline : next.hardDeadline epoch = run.hardDeadline epoch :=
    congrArg (· + kEpochDurationUs) ending
  constructor
  · rw [quiet.epochZeroUs]
    exact attributing.zero
  · rw [assembler, quiet.epochZeroUs]
    exact attributing.assembler
  · unfold Consecutive
    rw [quiet.journal.nextGeneration, quiet.journal.current]
    exact attributing.consecutive
  · rw [quiet.journal.current]
    exact attributing.numbers
  · rw [quiet.journal.current]
    exact UInt64.le_trans attributing.applied (clock quiet.moment)
  · rw [quiet.command, ending]
    exact attributing.early
  · unfold Awaits
    rw [quiet.command, quiet.journal.current, ending, deadline]
    exact attributing.awaits
  · rw [quiet.records, quiet.command, start]
    exact attributing.succeeds
  · rw [quiet.records]
    exact attributing.attributed

/-- The begin of the next epoch is the end of this one. -/
theorem epochStart_succ (following : (epoch + 1).toNat = epoch.toNat + 1)
    (zero : run.epochZeroUs.toNat < 2 ^ 63 + 2000000) :
    run.epochStart (epoch + 1) = run.epochEnd epoch := by
  obtain ⟨start, -, -⟩ := epochStart_toNat zero (epoch + 1)
  obtain ⟨-, ending, -⟩ := epochStart_toNat zero epoch
  apply UInt64.toNat_inj.mp
  omega

/-- The command that was applied last may be that of the next epoch. -/
theorem Attributing.current (attributing : Attributing world setup epoch run)
    (following : (epoch + 1).toNat = epoch.toNat + 1) :
    Succeeds (run.epochStart (epoch + 1)) run.currentCommandState.evidence run.journal.current ∧
      run.journal.current.commandApplyTimestampUs < run.epochEnd (epoch + 1) := by
  have start := epochStart_succ following attributing.zero
  obtain ⟨-, ending, deadline⟩ := epochStart_toNat attributing.zero epoch
  obtain ⟨-, nextEnding, -⟩ := epochStart_toNat attributing.zero (epoch + 1)
  have early := UInt64.lt_iff_toNat_lt.mp attributing.early
  rcases attributing.awaits with same | ⟨generation, late, soon⟩
  · constructor
    · refine ⟨?_, fun _ => same, fun other => ?_⟩
      · rw [same.generation]
        exact UInt64.le_refl _
      · rw [same.generation] at other
        exact absurd other (UInt64.lt_irrefl _)
    · rw [← same.timestamp, UInt64.lt_iff_toNat_lt]
      omega
  · constructor
    · refine ⟨?_, fun equal => ?_, fun _ => ⟨?_, start ▸ late⟩⟩
      · rw [UInt64.le_iff_toNat_le]
        omega
      · rw [equal] at generation
        omega
      · exact UInt64.lt_of_lt_of_le attributing.early late
    · rw [UInt64.lt_iff_toNat_lt] at soon ⊢
      omega

/-- What is known of a new command -/
theorem Attributing.answered (clock : Clock world) (attributing : Attributing world setup epoch run)
    (within : epoch.toNat < setup.epochs.toNat) (answered : Answered world run next) :
    next.journal.current.commandGeneration.toNat =
        run.journal.current.commandGeneration.toNat + 1 ∧
      run.now world ≤ next.journal.current.commandApplyTimestampUs ∧
      next.journal.current.commandApplyTimestampUs ≤ next.now world := by
  obtain ⟨renews, -, moment, after, before, time⟩ := answered
  have numbers := attributing.numbers
  refine ⟨?_, ?_, ?_⟩
  · rw [renews.generation, attributing.consecutive, UInt64.toNat_add, UInt64.toNat_one]
    omega
  · rw [time]
    exact clock after
  · rw [time]
    exact clock before

/-- The command that is found for the next epoch -/
structure Advances (world : World) (setup : RunSetup) (epoch : UInt32) (run next : RunState)
    (evidence : CommandEvidence) : Prop where
  consecutive : Consecutive next.journal
  numbers : next.journal.current.commandGeneration.toNat + setup.epochs.toNat <
    2 ^ 64 + (epoch + 1).toNat
  applied : next.journal.current.commandApplyTimestampUs ≤ next.now world
  early : evidence.commandApplyTimestampUs < run.epochEnd (epoch + 1)
  awaits : SameCommand evidence next.journal.current ∨
    next.journal.current.commandGeneration.toNat = evidence.commandGeneration.toNat + 1 ∧
      run.epochEnd (epoch + 1) ≤ next.journal.current.commandApplyTimestampUs ∧
      next.journal.current.commandApplyTimestampUs < run.hardDeadline (epoch + 1)
  succeeds : Succeeds (run.epochStart (epoch + 1)) run.currentCommandState.evidence evidence

theorem Attributing.advances (clock : Clock world) (attributing : Attributing world setup epoch run)
    (within : epoch.toNat < setup.epochs.toNat) (following : (epoch + 1).toNat = epoch.toNat + 1)
    (ended : run.epochEnd epoch ≤ run.now world) (moment : run.moment ≤ next.moment)
    {evidence : CommandEvidence} (found : NextEvidence world (epoch + 1) run next evidence) :
    Advances world setup epoch run next evidence := by
  obtain ⟨current, soon⟩ := attributing.current following
  have numbers := attributing.numbers
  cases found with
  | kept same nextGeneration taken =>
      constructor
      · unfold Consecutive
        rw [nextGeneration, same]
        exact attributing.consecutive
      · rw [same]
        omega
      · rw [same]
        exact UInt64.le_trans attributing.applied (clock moment)
      · rw [taken.timestamp]
        exact soon
      · rw [same]
        exact Or.inl taken
      · exact current.congr (.refl _) taken
  | slipped answered taken late early =>
      obtain ⟨generation, -, applied⟩ := attributing.answered clock within answered
      constructor
      · exact answered.renews.consecutive
      · omega
      · exact applied
      · rw [taken.timestamp]
        exact soon
      · right
        rw [taken.generation]
        exact ⟨generation, late, early⟩
      · exact current.congr (.refl _) taken
  | renewed answered taken early =>
      obtain ⟨generation, begun, applied⟩ := attributing.answered clock within answered
      have reached := UInt64.le_trans ended begun
      constructor
      · exact answered.renews.consecutive
      · omega
      · exact applied
      · rw [taken.timestamp]
        exact early
      · exact Or.inl taken
      · have ordered := UInt64.le_iff_toNat_le.mp current.ordered
        rw [epochStart_succ following attributing.zero]
        have later : Succeeds (run.epochEnd epoch) run.currentCommandState.evidence
            next.journal.current := by
          constructor
          · rw [UInt64.le_iff_toNat_le]
            omega
          · intro equal
            rw [equal] at ordered
            omega
          · intro _
            exact ⟨UInt64.lt_of_lt_of_le attributing.early reached, reached⟩
        exact later.congr (.refl _) taken

/-! ### The stages -/

variable (world setup run)

/-- The begin of epoch zero stays in the assembler. -/
theorem zero_drainSample :
    (run.drainSample world setup).2.assembler.epochZeroTimestampUs =
      run.assembler.epochZeroTimestampUs := by
  unfold drainSample
  split
  · rfl
  · rename_i raw _
    have added : (run.assembler.add raw).2.epochZeroTimestampUs =
        run.assembler.epochZeroTimestampUs := by
      rcases @FixedEpochAssembler.add_cases run.assembler raw with
        ⟨-, -, -, bucket, -, next⟩ | ⟨-, statistics, late, next⟩
      · rw [next]
      · rw [next]
    dsimp only
    split_ifs
    · have stopped := still_stopNow world ((run.later 1).withAssembler (run.assembler.add raw).2)
        espErrNoMem .queueFull
      rw [stopped.assembler]
      exact added
    · have stopped := still_stopForQualification world
        ((run.later 1).withAssembler (run.assembler.add raw).2)
      rw [stopped.assembler]
      exact added
    · exact added

theorem assembler_settle (work : EpochWork) (release : EpochRelease) (block : EncoderEpochBlock) :
    (run.settle world setup work release block).2.assembler = run.assembler := by
  have measured := (quiet_measure world setup run block work.guardState).2
  have checked := still_checkSampler world setup (run.measure world setup block work.guardState).2
  have fed := (checked.trans (still_feedApproach world _ work.episode release.releaseUs)).trans
    (still_checkApproach world _ work.episode work.localEpoch)
  exact fed.assembler.trans measured

theorem assembler_log (work : EpochWork) (block : EncoderEpochBlock) (guardState : GuardState) :
    (run.log world setup work block guardState).assembler = run.assembler := by
  have disarmed := (run.still_later 1).trans (still_disarmStopped world _)
  have enqueued : ∀ (run : RunState) (record : LogRecord),
      (run.enqueue world record).assembler = run.assembler := by
    intro run record
    unfold enqueue
    dsimp only
    split
    · exact ((run.still_later 1).trans (still_stopNow world _ _ _)).assembler
    · rfl
  unfold log
  exact (still_checkWriterNow world _).assembler.trans ((enqueued _ _).trans disarmed.assembler)

/-- The release of an epoch is read from the clock. -/
theorem releaseUs_le (clock : Clock world) (epoch : UInt32) (tick : ConsumerTick)
    {release : EpochRelease} (released : (run.release world setup epoch tick).1 = some release) :
    release.releaseUs ≤ (run.release world setup epoch tick).2.now world := by
  unfold RunState.release at released ⊢
  dsimp only at released ⊢
  split at released
  · cases released
  · rename_i going
    rw [if_neg going]
    split at released
    · cases released
    · rename_i inTime
      rw [if_neg inTime]
      split at released
      · cases released
      · rename_i passed
        rw [if_neg passed]
        obtain rfl := Option.some.inj released
        have asked := (still_later (run.stopForLatchedFailure world setup).2 3).trans
          (still_checkStop world _ ((run.stopForLatchedFailure world setup).2.now world))
        have checked := fun (late : Bool) (releaseUs : UInt64) =>
          (asked.trans (still_missDeadline world _ late releaseUs)).trans
            (still_checkWriter world _ releaseUs)
        exact clock (checked _ _).moment

end RunState

/-- An epoch that is released is over. -/
theorem FixedEpochAssembler.over_of_release {assembler : FixedEpochAssembler}
    {epochIndex releaseTimestampUs : UInt64} {block : EncoderEpochBlock}
    (released : (assembler.release epochIndex releaseTimestampUs).1 = some block) :
    assembler.epochStartUs (epochIndex + 1) ≤ releaseTimestampUs := by
  rcases @release_cases assembler epochIndex releaseTimestampUs with
    ⟨-, refused⟩ | ⟨admitted, next, -, -, -, -, ⟨-, nothing, -⟩ | ⟨-, same, -⟩⟩
  · rw [refused] at released
    cases released
  · rw [nothing] at released
    cases released
  · unfold admits at admitted
    simp only [Bool.and_eq_true, decide_eq_true_eq] at admitted
    exact admitted.2

namespace Runner

open CommandJournal (Consecutive)
open RunState

variable {world : World} {setup : RunSetup} {run : RunState}

/-- What the runner knows of the commands, wherever it stands -/
def AttributingAt (world : World) (setup : RunSetup) (runner : Runner) : Prop :=
  Attributed runner.run.records ∧
    match runner.stage with
    | .called =>
        Consecutive runner.run.journal ∧
          runner.run.journal.current.commandGeneration.toNat + 1 + setup.epochs.toNat < 2 ^ 64 ∧
          runner.run.journal.current.commandApplyTimestampUs ≤ runner.run.now world ∧
          runner.run.records = []
    | .starting => Attributing world setup 0 runner.run
    | .entering epoch => epoch < setup.epochs → Attributing world setup epoch runner.run
    | .waiting work =>
        work.epoch < setup.epochs ∧ Attributing world setup work.epoch runner.run ∧
          work.epochCommand = runner.run.currentCommandState.evidence
    | .draining work release =>
        work.epoch < setup.epochs ∧ Attributing world setup work.epoch runner.run ∧
          work.epochCommand = runner.run.currentCommandState.evidence ∧
          release.releaseUs ≤ runner.run.now world
    | .closing => True
    | .returned _ _ => True

theorem succ_toNat {epoch epochs : UInt32} (within : epoch < epochs) :
    (epoch + 1).toNat = epoch.toNat + 1 := by
  have bound := epochs.toNat_lt
  rw [UInt32.lt_iff_toNat_lt] at within
  rw [UInt32.toNat_add, UInt32.toNat_one]
  omega

/-! ### An iteration -/

/-- An epoch that the assembler releases is over. -/
theorem ended_of_released {epoch : UInt32} {releaseUs : UInt64} {block : EncoderEpochBlock}
    (attributing : Attributing world setup epoch run)
    (released : (run.assembler.release epoch.toUInt64 releaseUs).1 = some block) :
    run.epochEnd epoch ≤ releaseUs := by
  have ended := FixedEpochAssembler.over_of_release released
  unfold FixedEpochAssembler.epochStartUs at ended
  rw [attributing.assembler, UInt64.add_mul, UInt64.one_mul, ← UInt64.add_assoc] at ended
  exact ended

/-- The record of an epoch has the command that was attributed to it. -/
theorem record_of_log {commanded : RunState} {work : EpochWork} {release : EpochRelease}
    {block : EncoderEpochBlock} (attributing : Attributing world setup work.epoch run)
    (carried : work.epochCommand = run.currentCommandState.evidence)
    (released : (run.assembler.release work.epoch.toUInt64 release.releaseUs).1 = some block)
    (guardState : GuardState) :
    let record := commanded.loggedRecord world setup work (recordedBlock release block) guardState
    Timely record ∧ SameCommand record.command run.currentCommandState.evidence ∧
      record.encoder.epochStartTimestampUs = run.epochStart work.epoch := by
  have same := FixedEpochAssembler.block_of_release released
  have start : block.epochStartTimestampUs = run.epochStart work.epoch := by
    rw [same]
    exact congrArg (· + work.epoch.toUInt64 * kEpochDurationUs) attributing.assembler
  have ending : block.epochEndTimestampUs = run.epochEnd work.epoch := by
    rw [same]
    exact congrArg (· + work.epoch.toUInt64 * kEpochDurationUs + kEpochDurationUs)
      attributing.assembler
  have time : block.releaseTimestampUs = release.releaseUs := by
    rw [same]
    rfl
  have kept : (recordedBlock release block).epochStartTimestampUs = block.epochStartTimestampUs ∧
      (recordedBlock release block).epochEndTimestampUs = block.epochEndTimestampUs ∧
      (recordedBlock release block).releaseTimestampUs = block.releaseTimestampUs := by
    unfold recordedBlock
    split
    · exact ⟨rfl, rfl, rfl⟩
    · exact ⟨rfl, rfl, rfl⟩
  have passed := ended_of_released attributing released
  have early := attributing.early
  rw [← carried] at early
  refine ⟨⟨?_, ?_⟩, ?_, ?_⟩
  · show work.epochCommand.commandApplyTimestampUs < (recordedBlock release block).epochEndTimestampUs
    rw [kept.2.1, ending]
    exact early
  · show work.epochCommand.commandApplyTimestampUs ≤ (recordedBlock release block).releaseTimestampUs
    rw [kept.2.2, time]
    exact UInt64.le_trans (UInt64.le_of_lt early) passed
  · rw [← carried]
    exact sameCommand_recorded work.epochCommand _
  · exact kept.1.trans start

section Logging

variable {work : EpochWork} {settled commanded : RunState} {block : EncoderEpochBlock}
  {guardState : GuardState}

/-- Without an error the record has gone to the end of the list. -/
theorem records_log (applies : Applies settled commanded)
    (clean : (commanded.log world setup work block guardState).firstError = espOk) :
    (commanded.log world setup work block guardState).records =
      settled.records ++ [commanded.loggedRecord world setup work block guardState] := by
  rcases (calm_log world setup commanded work block guardState).2 with taken | ⟨-, error⟩
  · exact taken.trans (congrArg (· ++ _) applies.records)
  · exact absurd clean error

/-- The next epoch begins with the command that was found for it, which succeeds that of the record. -/
theorem attributing_log {state : EpochCommandState} (clock : Clock world)
    (attributing : Attributing world setup work.epoch settled) (applies : Applies settled commanded)
    (advanced : Advances world setup work.epoch settled commanded state.evidence)
    (same : SameCommand (commanded.loggedRecord world setup work block guardState).command
      settled.currentCommandState.evidence)
    (attributed : Attributed (commanded.log world setup work block guardState).records)
    (clean : (commanded.log world setup work block guardState).firstError = espOk) :
    Attributing world setup (work.epoch + 1)
      { commanded.log world setup work block guardState with currentCommandState := state } := by
  obtain ⟨calm, -⟩ := calm_log world setup commanded work block guardState
  have zero : (commanded.log world setup work block guardState).epochZeroUs =
      settled.epochZeroUs := calm.epochZeroUs.trans applies.epochZeroUs
  have starts : ∀ epoch, (commanded.log world setup work block guardState).epochStart epoch =
      settled.epochStart epoch :=
    fun epoch => congrArg (· + epoch.toUInt64 * kEpochDurationUs) zero
  constructor
  · show (commanded.log world setup work block guardState).epochZeroUs.toNat < _
    rw [zero]
    exact attributing.zero
  · show (commanded.log world setup work block guardState).assembler.epochZeroTimestampUs =
      (commanded.log world setup work block guardState).epochZeroUs
    rw [assembler_log, applies.assembler, zero]
    exact attributing.assembler
  · show Consecutive (commanded.log world setup work block guardState).journal
    unfold Consecutive
    rw [calm.journal.nextGeneration, calm.journal.current]
    exact advanced.consecutive
  · show (commanded.log world setup work block guardState).journal.current.commandGeneration.toNat
      + _ < _
    rw [calm.journal.current]
    exact advanced.numbers
  · show (commanded.log world setup work block guardState).journal.current.commandApplyTimestampUs
      ≤ (commanded.log world setup work block guardState).now world
    rw [calm.journal.current]
    exact UInt64.le_trans advanced.applied (clock calm.moment)
  · show state.evidence.commandApplyTimestampUs <
      (commanded.log world setup work block guardState).epochStart _ + kEpochDurationUs
    rw [starts]
    exact advanced.early
  · show SameCommand _ (commanded.log world setup work block guardState).journal.current ∨ _ ∧
      (commanded.log world setup work block guardState).epochStart _ + kEpochDurationUs ≤ _ ∧
      _ < (commanded.log world setup work block guardState).epochStart _ + kEpochDurationUs +
        kEpochDurationUs
    rw [starts, calm.journal.current]
    exact advanced.awaits
  · intro last there
    have logged : last = commanded.loggedRecord world setup work block guardState := by
      change last ∈ (commanded.log world setup work block guardState).records.getLast? at there
      rw [records_log applies clean, List.getLast?_concat] at there
      exact (Option.some.inj there).symm
    show Succeeds ((commanded.log world setup work block guardState).epochStart _) _ _
    rw [starts, logged]
    exact advanced.succeeds.congr same (.refl _)
  · exact attributed

theorem attributing_close {found : Option EpochCommandState} (clock : Clock world)
    (attributing : Attributing world setup work.epoch settled)
    (applies : Applies settled commanded)
    (advances : ∀ state ∈ found, Advances world setup work.epoch settled commanded state.evidence)
    (recorded : Timely (commanded.loggedRecord world setup work block guardState) ∧
      SameCommand (commanded.loggedRecord world setup work block guardState).command
        settled.currentCommandState.evidence ∧
      (commanded.loggedRecord world setup work block guardState).encoder.epochStartTimestampUs =
        settled.epochStart work.epoch) :
    AttributingAt world setup (close world setup work block guardState found commanded) := by
  obtain ⟨-, written⟩ := calm_log world setup commanded work block guardState
  obtain ⟨timely, same, start⟩ := recorded
  have attributed : Attributed (commanded.log world setup work block guardState).records := by
    rcases written with taken | ⟨refused, -⟩
    · rw [taken, applies.records]
      apply attributing.attributed.concat timely
      intro last there
      rw [start]
      exact (attributing.succeeds last there).congr (.refl _) same
    · rw [refused, applies.records]
      exact attributing.attributed
  unfold close
  dsimp only
  split
  · exact ⟨attributed, trivial⟩
  · rename_i going
    have clean := Decidable.not_not.mp (not_or.mp going).1
    split
    · rename_i more
      cases found with
      | none =>
          refine ⟨?_, trivial⟩
          rw [(still_stopNow world _ _ _).records]
          exact attributed
      | some state => exact ⟨attributed, fun _ =>
          attributing_log clock attributing applies (advances state rfl) same attributed clean⟩
    · rename_i last
      exact ⟨attributed, fun more => absurd more last⟩

end Logging

theorem attributing_finish {work : EpochWork} {release : EpochRelease} (clock : Clock world)
    (within : work.epoch < setup.epochs) (attributing : Attributing world setup work.epoch run)
    (carried : work.epochCommand = run.currentCommandState.evidence)
    (after : release.releaseUs ≤ run.now world) :
    AttributingAt world setup (finish world setup work release run) := by
  unfold finish
  cases released : run.assembler.release work.epoch.toUInt64 release.releaseUs with
  | mk block assembler =>
  have taken := quiet_withAssembler run assembler
  cases block with
  | none =>
      refine ⟨?_, trivial⟩
      rw [(still_stopNow world _ _ _).records, taken.records]
      exact attributing.attributed
  | some block =>
      have zero : assembler.epochZeroTimestampUs = run.assembler.epochZeroTimestampUs := by
        rcases @FixedEpochAssembler.release_cases run.assembler work.epoch.toUInt64 release.releaseUs
          with ⟨-, refused⟩ | ⟨-, next, same, -, zero, -⟩
        · rw [refused] at released
          cases released
        · rw [← zero, ← same, released]
      have settledQuiet := taken.trans (quiet_settle world setup (run.withAssembler assembler) work
        release (recordedBlock release block))
      have kept := assembler_settle world setup (run.withAssembler assembler) work release
        (recordedBlock release block)
      obtain ⟨guardState, settled, settles⟩ : ∃ guardState settled,
          (run.withAssembler assembler).settle world setup work release
            (recordedBlock release block) = (guardState, settled) := ⟨_, _, rfl⟩
      rw [settles] at settledQuiet kept
      dsimp only at settledQuiet kept
      have attributed : Attributing world setup work.epoch settled :=
        attributing.of_quiet clock settledQuiet (kept ▸ zero)
      have applies := applies_nextCommand world setup settled work.epoch
      have evidence := fun state => @nextCommand_found world setup settled attributed.consecutive
        work.epoch state
      obtain ⟨found, commanded, commands⟩ : ∃ found commanded,
          settled.nextCommand world setup work.epoch = (found, commanded) := ⟨_, _, rfl⟩
      rw [commands] at applies evidence
      dsimp only at applies evidence ⊢
      rw [settles]
      dsimp only
      rw [commands]
      apply attributing_close clock attributed applies
      · intro state there
        refine attributed.advances clock (UInt32.lt_iff_toNat_lt.mp within) (succ_toNat within) ?_
          applies.moment (evidence state there)
        have ended := ended_of_released attributing (congrArg Prod.fst released)
        have same : settled.epochEnd work.epoch = run.epochEnd work.epoch := congrArg
          (· + work.epoch.toUInt64 * kEpochDurationUs + kEpochDurationUs) settledQuiet.epochZeroUs
        rw [same]
        exact UInt64.le_trans ended (UInt64.le_trans after (clock settledQuiet.moment))
      · have recorded := @record_of_log world setup run commanded work release block attributing carried
          (congrArg Prod.fst released) guardState
        have same : settled.epochStart work.epoch = run.epochStart work.epoch :=
          congrArg (· + work.epoch.toUInt64 * kEpochDurationUs) settledQuiet.epochZeroUs
        rw [settledQuiet.command, same]
        exact recorded

/-! ### The start -/

theorem attributed_nil : Attributed [] := ⟨List.isChain_nil, fun _ within => absurd within List.not_mem_nil⟩

theorem max_zero (time : Int64) : 0 ≤ max time 0 ∧ (0 ≤ time → max time 0 = time) := by
  have same : max time 0 = if time ≤ 0 then 0 else time := rfl
  rw [same]
  split
  · rename_i below
    exact ⟨Int64.le_refl _, fun above => Int64.le_antisymm above below⟩
  · rename_i above
    exact ⟨Int64.le_of_lt (Int64.not_le.mp above), fun _ => rfl⟩

/-- The clock is far from its end. -/
theorem nowUs_lt (moment : Moment) : moment.nowUs.toNat < 2 ^ 63 := by
  unfold Moment.nowUs
  rw [Int64.toNat_toUInt64_of_le (max_zero moment.espTimerUs).1]
  exact Int64.toNatClampNeg_lt _

/-- The timer is started before its first alarm. -/
theorem timerStart_ok {firstAlarmUs periodUs : UInt64} {currentUs synchronizedUs : Int64}
    {driver : Int32}
    (ok : timerStart firstAlarmUs periodUs currentUs driver synchronizedUs = espOk) :
    (max synchronizedUs 0).toUInt64 < firstAlarmUs := by
  unfold timerStart at ok
  split_ifs at ok with period current driven synchronized
  · exact absurd ok (by decide)
  · exact absurd ok (by decide)
  · exact absurd ok driven
  · exact absurd ok (by decide)
  · rw [not_or, Int64.not_lt, UInt64.not_le] at synchronized
    obtain ⟨nonnegative, before⟩ := synchronized
    rw [(max_zero synchronizedUs).2 nonnegative]
    exact before

theorem startConsumerTimer_ok (ok : (run.startConsumerTimer world).1 = espOk) :
    (run.startConsumerTimer world).2 = run.later 4 ∧
      (world (run.moment + 3)).nowUs < run.epochZeroUs + kEpochDurationUs := by
  unfold startConsumerTimer at ok ⊢
  dsimp only at ok ⊢
  split_ifs at ok ⊢ with beyond unprepared
  · exact absurd ok (by decide : espErrInvalidState ≠ espOk)
  · exact absurd ok unprepared
  · dsimp only at ok
    have soon := timerStart_ok ok
    exact ⟨rfl, soon⟩

theorem attributing_launch (clock : Clock world) (zero : run.epochZeroUs.toNat < 2 ^ 63 + 2000000)
    (assembler : run.assembler.epochZeroTimestampUs = run.epochZeroUs) (empty : run.records = [])
    (consecutive : Consecutive run.journal)
    (numbers : run.journal.current.commandGeneration.toNat + 1 + setup.epochs.toNat < 2 ^ 64)
    (applied : run.journal.current.commandApplyTimestampUs ≤ run.now world) :
    AttributingAt world setup (run.launch world) := by
  have nothing : Attributed run.records := empty ▸ attributed_nil
  have answers := apply_answers world (run.later 1) .toCoast (run.now world)
  have kept := startConsumerTimer_keeps world ((run.applyCoast world).2.takeEvidence world)
  have timed := @startConsumerTimer_ok world ((run.applyCoast world).2.takeEvidence world)
  unfold launch
  dsimp only
  split_ifs with failed late
  · refine ⟨?_, trivial⟩
    show Attributed ((run.applyCoast world).2.disarm world).2.records
    rw [(still_disarm world _).records]
    exact nothing
  · refine ⟨?_, trivial⟩
    have records : (((run.applyCoast world).2.takeEvidence world).startConsumerTimer world).2.records =
        run.records := by
      unfold startConsumerTimer
      dsimp only
      split_ifs <;> rfl
    show Attributed ((((((run.applyCoast world).2.takeEvidence world).startConsumerTimer
      world).2).applyCoast world).2.disarm world).2.records
    rw [(still_disarm world _).records]
    show Attributed (((run.applyCoast world).2.takeEvidence world).startConsumerTimer world).2.records
    rw [records]
    exact nothing
  · rw [Decidable.not_not] at failed late
    obtain ⟨same, soon⟩ := timed late
    rw [same]
    refine ⟨nothing, ?_⟩
    have ended : run.epochEnd 0 = run.epochZeroUs + kEpochDurationUs := by
      unfold epochEnd epochStart
      rw [show (0 : UInt32).toUInt64 = 0 from rfl, UInt64.zero_mul, UInt64.add_zero]
    have known : Consecutive (run.applyCoast world).2.journal ∧
        (run.applyCoast world).2.journal.current.commandGeneration.toNat ≤
          run.journal.current.commandGeneration.toNat + 1 ∧
        (run.applyCoast world).2.journal.current.commandApplyTimestampUs ≤
          (run.applyCoast world).2.now world := by
      rcases answers with same | ⟨renews, answered⟩
      · have journal : (run.applyCoast world).2.journal = run.journal := same
        rw [journal]
        exact ⟨consecutive, Nat.le_succ _,
          UInt64.le_trans applied (clock (Nat.le_add_right run.moment 3))⟩
      · obtain ⟨-, -, moment, -, upTo, time⟩ := answered failed
        have generation : (run.applyCoast world).2.journal.current.commandGeneration =
            run.journal.nextGeneration := renews.generation
        have given : (run.applyCoast world).2.journal.current.commandApplyTimestampUs =
            (world moment).nowUs := time
        refine ⟨renews.consecutive, ?_, ?_⟩
        · rw [generation, consecutive, UInt64.toNat_add, UInt64.toNat_one]
          exact Nat.mod_le _ _
        · rw [given]
          exact clock upTo
    obtain ⟨numbered, generation, before⟩ := known
    have early : (run.applyCoast world).2.journal.current.commandApplyTimestampUs < run.epochEnd 0 := by
      rw [ended]
      exact UInt64.lt_of_le_of_lt (UInt64.le_trans before (clock (Nat.le_add_right _ 4))) soon
    constructor
    · exact zero
    · exact assembler
    · exact numbered
    · show (run.applyCoast world).2.journal.current.commandGeneration.toNat + setup.epochs.toNat <
        2 ^ 64 + UInt32.toNat 0
      omega
    · exact UInt64.le_trans before (clock (Nat.le_add_right _ 5))
    · exact early
    · exact Or.inl (sameCommand_snapshot _ _)
    · intro last there
      change last ∈ run.records.getLast? at there
      rw [empty] at there
      cases there
    · exact nothing

theorem attributing_start (clock : Clock world) (consecutive : Consecutive run.journal)
    (numbers : run.journal.current.commandGeneration.toNat + 1 + setup.epochs.toNat < 2 ^ 64)
    (applied : run.journal.current.commandApplyTimestampUs ≤ run.now world)
    (empty : run.records = []) : AttributingAt world setup (run.start world setup) := by
  have nothing : Attributed run.records := empty ▸ attributed_nil
  have disarmed : ∀ count, Attributed ((run.later count).disarm world).2.records := by
    intro count
    rw [(still_disarm world _).records]
    exact nothing
  unfold RunState.start
  split
  · exact ⟨nothing, trivial⟩
  · dsimp only
    split_ifs
    · exact ⟨nothing, trivial⟩
    · exact ⟨nothing, trivial⟩
    · exact ⟨disarmed 1, trivial⟩
    · exact ⟨disarmed 3, trivial⟩
    · exact ⟨disarmed 4, trivial⟩
    · refine ⟨?_, trivial⟩
      show Attributed (((run.later 5).applyCoast world).2.disarm world).2.records
      rw [(still_disarm world _).records]
      exact nothing
    · refine attributing_launch clock ?_ rfl rfl consecutive numbers ?_
      · have lead : kRunStartLeadUs.toNat = 1500000 := rfl
        have bound := nowUs_lt (world (run.moment + 1))
        show ((world (run.moment + 1)).nowUs + kRunStartLeadUs).toNat < _
        rw [UInt64.toNat_add, lead]
        omega
      · exact UInt64.le_trans applied (clock (Nat.le_add_right _ _))

/-! ### A step -/

theorem attributing_enter {epoch : UInt32} (clock : Clock world) (attributed : Attributed run.records)
    (attributing : epoch < setup.epochs → Attributing world setup epoch run) :
    AttributingAt world setup (enter world setup epoch run) := by
  have looked := still_stopForLatchedFailure world setup run
  unfold enter
  dsimp only
  split_ifs with beyond stopped
  · exact ⟨attributed, trivial⟩
  · refine ⟨?_, trivial⟩
    rw [looked.records]
    exact attributed
  · have within := UInt32.not_le.mp beyond
    have entered := looked.trans (still_startApproach world _ (setup.episodeOf epoch).1)
    have attributing := (attributing within).of_quiet clock entered.toQuiet
      (congrArg FixedEpochAssembler.epochZeroTimestampUs entered.assembler)
    exact ⟨attributing.attributed, within, attributing, rfl⟩

theorem attributing_await {work : EpochWork} (clock : Clock world) (within : work.epoch < setup.epochs)
    (attributing : Attributing world setup work.epoch run)
    (carried : work.epochCommand = run.currentCommandState.evidence) :
    AttributingAt world setup (await world setup work run) := by
  have keeps : ∀ {next : RunState}, Still run next →
      Attributing world setup work.epoch next ∧
        work.epochCommand = next.currentCommandState.evidence := by
    intro next still
    refine ⟨attributing.of_quiet clock still.toQuiet
      (congrArg FixedEpochAssembler.epochZeroTimestampUs still.assembler), ?_⟩
    rw [still.command]
    exact carried
  have waited := still_awaitTick world setup run
  unfold await
  split
  · rename_i next turned
    rw [turned] at waited
    obtain ⟨attributing, carried⟩ := keeps waited
    exact ⟨attributing.attributed, within, attributing, carried⟩
  · rename_i next turned
    rw [turned] at waited
    exact ⟨(keeps waited).1.attributed, trivial⟩
  · rename_i tick next turned
    rw [turned] at waited
    have released := waited.trans (still_release world setup next work.epoch tick)
    have time := fun release => @releaseUs_le world setup next clock work.epoch tick release
    split
    · rename_i left stopped
      rw [stopped] at released
      exact ⟨(keeps released).1.attributed, trivial⟩
    · rename_i release left passed
      rw [passed] at released time
      obtain ⟨attributing, carried⟩ := keeps released
      exact ⟨attributing.attributed, within, attributing, carried, time release rfl⟩

theorem attributing_step (clock : Clock world) {runner : Runner}
    (attributing : AttributingAt world setup runner) :
    AttributingAt world setup (step world setup runner) := by
  obtain ⟨stage, run⟩ := runner
  obtain ⟨attributed, there⟩ := attributing
  cases stage with
  | called =>
      obtain ⟨consecutive, numbers, applied, empty⟩ := there
      exact attributing_start clock consecutive numbers applied empty
  | starting =>
      have later := Attributing.of_quiet clock there (run.still_later 1).toQuiet rfl
      unfold step
      dsimp only
      split
      · exact ⟨attributed, later⟩
      · exact ⟨attributed, fun _ => later⟩
  | entering epoch => exact attributing_enter clock attributed there
  | waiting work =>
      obtain ⟨within, attributing, carried⟩ := there
      exact attributing_await clock within attributing carried
  | draining work release =>
      obtain ⟨within, attributing, carried, after⟩ := there
      have quiet := (quiet_drainSample world setup run).1
      have drained := attributing.of_quiet clock quiet (zero_drainSample world setup run)
      have time := UInt64.le_trans after (clock quiet.moment)
      rw [← quiet.command] at carried
      show AttributingAt world setup (drain world setup work release run)
      unfold drain
      split
      · rename_i next taken
        rw [taken] at drained carried time
        exact ⟨drained.attributed, within, drained, carried, time⟩
      · rename_i next ended
        rw [ended] at drained carried time
        exact attributing_finish clock within drained carried time
  | closing =>
      refine ⟨?_, trivial⟩
      have judged : ∀ (run : RunState) (reason : UnsupportedReason) (diagnostic : Int32),
          (run.judge setup reason diagnostic).records = run.records := by
        intro run reason diagnostic
        unfold judge
        dsimp only
        split_ifs <;> rfl
      have same : (run.shutDown world setup).2.2.records = (run.stopMotor world).2.records :=
        judged _ _ _
      show Attributed (run.shutDown world setup).2.2.records
      rw [same]
      have stopped : (run.stopMotor world).2.records = run.records :=
        (still_disarm world ((run.applyCoast world).2.mark {} (run.applyCoast world).1).2).records
      rw [stopped]
      exact attributed
  | returned result footer => exact ⟨attributed, trivial⟩

end Runner

/-! ### The journal before the run -/

/-- Nothing in the journal is later than this. -/
def CommandJournal.Before (limit : UInt64) (journal : CommandJournal) : Prop :=
  journal.bound = true ∧ journal.current.commandApplyTimestampUs ≤ limit ∧
    journal.currentApplied.commandApplyTimestampUs ≤ limit

namespace CommandJournal

variable {answer : ℕ → MotorApplyAnswer} {limit : UInt64} {journal : CommandJournal}

theorem Before.callback (answered : ∀ invocation, (answer invocation).completedAtUs ≤ limit)
    (before : Before limit journal) (request : MotorCommandRequest) :
    Before limit (journal.callback answer request).2 :=
  ⟨before.1, before.2.1, answered _⟩

theorem Before.disarm (answered : ∀ invocation, (answer invocation).completedAtUs ≤ limit)
    (before : Before limit journal) (nowUs : UInt64) :
    Before limit (journal.disarm answer nowUs).2 := by
  have coasted := before.callback answered .toCoast
  unfold CommandJournal.disarm applyCoast
  rw [before.1]
  exact coasted

/-- The evidence that is opened has no time yet, and is closed with that of the output. -/
theorem Before.opened (before : Before limit journal) (request : MotorCommandRequest)
    (nowUs : UInt64) : Before limit (journal.openEvidence request nowUs) :=
  ⟨before.1, UInt64.le_iff_toNat_le.mpr (Nat.zero_le _), before.2.2⟩

theorem Before.closed (before : Before limit journal) (result : Int32) :
    Before limit (journal.closeEvidence result) :=
  ⟨before.1, before.2.2, before.2.2⟩

theorem Before.handed (answered : ∀ invocation, (answer invocation).completedAtUs ≤ limit)
    (before : Before limit journal) (request : MotorCommandRequest) :
    Before limit (journal.handRequest answer request).2 := by
  unfold handRequest
  split_ifs
  · exact before
  · exact before
  · exact before
  · exact before.callback answered request

end CommandJournal

namespace JournalRun

variable {answer : ℕ → MotorApplyAnswer} {limit : UInt64}

theorem before_after (answered : ∀ invocation, (answer invocation).completedAtUs ≤ limit)
    (calls : List JournalCall) : (after answer calls).journal.Before limit := by
  have preserved : ∀ (run : JournalRun) (call : JournalCall), run.journal.Before limit → True →
      (run.step answer call).journal.Before limit := by
    intro run call before _
    cases call with
    | arm =>
        show (run.journal.arm).2.Before limit
        unfold CommandJournal.arm
        split
        · exact before
        · exact before
    | disarm nowUs => exact before.disarm answered nowUs
    | stopForError cause nowUs =>
        show (run.journal.stopForError answer cause nowUs).2.Before limit
        unfold CommandJournal.stopForError
        split
        · exact before
        · exact before.disarm answered nowUs
    | apply request nowUs =>
        show (run.journal.apply answer request nowUs).2.Before limit
        unfold CommandJournal.apply
        split
        · exact before
        · have opened := (before.handed answered request).opened request nowUs
          dsimp only
          split
          · exact (opened.disarm answered nowUs).closed _
          · exact opened.closed _
    | rejectAndCoast request cause nowUs =>
        show (run.journal.rejectAndCoast answer request cause nowUs).2.Before limit
        unfold CommandJournal.rejectAndCoast
        split
        · exact before
        · exact ((before.opened request nowUs).disarm answered nowUs).closed cause
  have zero : (0 : UInt64) ≤ limit := UInt64.le_iff_toNat_le.mpr (Nat.zero_le _)
  exact Run.invariant_after preserved ⟨rfl, zero, zero⟩
    (Run.along_of_forall (fun _ _ => trivial) _ calls)

theorem consecutive_after (calls : List JournalCall) : (after answer calls).journal.Consecutive := by
  have numbered := @numbered_after answer calls
  unfold CommandJournal.Consecutive
  rw [numbered.following, numbered.current, UInt64.ofNat_add]
  rfl

end JournalRun

/-- The commands that the records of a run are given -/
structure CommandsAttributed (records : List LogRecord) : Prop where
  /-- The generation never decreases, and with the same generation records carry the same command. -/
  ordered : records.Pairwise fun earlier later =>
    earlier.command.commandGeneration ≤ later.command.commandGeneration ∧
      (earlier.command.commandGeneration = later.command.commandGeneration →
        SameCommand earlier.command later.command)
  /-- A new command was applied after the one before, and not before the epoch of its record began. -/
  renewed : records.IsChain fun previous next =>
    previous.command.commandGeneration < next.command.commandGeneration →
      previous.command.commandApplyTimestampUs < next.command.commandApplyTimestampUs ∧
        next.encoder.epochStartTimestampUs ≤ next.command.commandApplyTimestampUs
  /-- No command is given to an epoch that had ended before it was applied. -/
  timely : ∀ record ∈ records,
    record.command.commandApplyTimestampUs < record.encoder.epochEndTimestampUs ∧
      record.command.commandApplyTimestampUs ≤ record.encoder.releaseTimestampUs

/-- The order of commands is transitive. -/
instance : IsTrans LogRecord fun earlier later =>
    earlier.command.commandGeneration ≤ later.command.commandGeneration ∧
      (earlier.command.commandGeneration = later.command.commandGeneration →
        SameCommand earlier.command later.command) where
  trans := by
    intro first second third before after
    refine ⟨UInt64.le_trans before.1 after.1, fun same => ?_⟩
    have equal : first.command.commandGeneration = second.command.commandGeneration := by
      apply UInt64.le_antisymm before.1
      rw [same]
      exact after.1
    exact (before.2 equal).trans (after.2 (equal.symm.trans same))

theorem Attributed.commands {records : List LogRecord} (attributed : Attributed records) :
    CommandsAttributed records := by
  refine ⟨?_, ?_, attributed.timely⟩
  · apply List.isChain_iff_pairwise.mp
    apply attributed.successive.imp
    intro earlier later succeeds
    exact ⟨succeeds.ordered, succeeds.same⟩
  · apply attributed.successive.imp
    intro previous next succeeds
    exact succeeds.later

namespace Runner

open RunState

variable {world : World} {setup : RunSetup}

theorem attributing_after (clock : Clock world) {journal : CommandJournal}
    (consecutive : journal.Consecutive)
    (numbers : journal.current.commandGeneration.toNat + 1 + setup.epochs.toNat < 2 ^ 64)
    (applied : journal.current.commandApplyTimestampUs ≤ (world 0).nowUs) (count : ℕ) :
    AttributingAt world setup (after world setup journal count) := by
  induction count with
  | zero => exact ⟨attributed_nil, consecutive, numbers, applied, rfl⟩
  | succ count inductionHypothesis => exact attributing_step clock inductionHypothesis

/-- A world in which nothing happens but the ticks; the timer is started in time, and from then on the
clock stands at the end of epoch zero. -/
def quietWorld : World := fun moment =>
  { espTimerUs := if moment < 13 then 1 else 1501001
    result := espOk
    writerFirstError := espOk
    samplerFirstError := espOk
    stopRequested := false
    tickQueueOverflow := false
    tick := some {}
    ticksWaiting := 0
    sample := none
    samplerStatistics := {}
    writerQueueOverflows := 0 }

/-- A rate check of one epoch -/
def quietSetup : RunSetup where
  encoderRate := .hz1000
  runKind := .rateCheck
  epochs := 1
  stage := .m0
  profileSeed := 1
  zeroRaw := some 0
  commandToFinSign := 1

theorem clock_quietWorld : Clock quietWorld := by
  intro earlier later before
  unfold quietWorld
  dsimp only [Moment.nowUs]
  split_ifs with first second
  · decide
  · decide
  · omega
  · decide

end Runner

end MissionBoard.Characterization
