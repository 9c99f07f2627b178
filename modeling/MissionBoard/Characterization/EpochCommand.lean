import MissionBoard.Characterization.DriveSafety

/-!
Owns how `ProfileRunner::run` finds the command of the next epoch: it is applied in the iteration
before, in time or an epoch late, or not at all because the motor has it already.
-/

namespace MissionBoard.Characterization

/-! ### The evidence of a command -/

/-- The evidence of one command, taken at two times -/
def SameCommand (first second : CommandEvidence) : Prop :=
  { first with loggerSnapshotTimestampUs := 0 } = { second with loggerSnapshotTimestampUs := 0 }

namespace SameCommand

variable {first second third : CommandEvidence}

theorem refl (evidence : CommandEvidence) : SameCommand evidence evidence := rfl

theorem symm (same : SameCommand first second) : SameCommand second first := Eq.symm same

theorem trans (before : SameCommand first second) (after : SameCommand second third) :
    SameCommand first third := Eq.trans before after

theorem generation (same : SameCommand first second) :
    first.commandGeneration = second.commandGeneration := by
  unfold SameCommand at same
  injection same

theorem timestamp (same : SameCommand first second) :
    first.commandApplyTimestampUs = second.commandApplyTimestampUs := by
  unfold SameCommand at same
  injection same

theorem result (same : SameCommand first second) :
    first.applyResultCode = second.applyResultCode := by
  unfold SameCommand at same
  injection same

end SameCommand

theorem sameCommand_snapshot (journal : CommandJournal) (nowUs : UInt64) :
    SameCommand (journal.snapshot nowUs) journal.current := rfl

theorem sameCommand_recorded (evidence : CommandEvidence) (nowUs : UInt64) :
    SameCommand (RunState.recordedCommand evidence nowUs) evidence := rfl

/-! ### What a journal makes of a request -/

namespace CommandJournal

variable {answer : ℕ → MotorApplyAnswer} {journal : CommandJournal}

/-- The numbers of the evidence follow each other. -/
def Consecutive (journal : CommandJournal) : Prop :=
  journal.nextGeneration = journal.current.commandGeneration + 1

theorem Consecutive.ne (consecutive : Consecutive journal) :
    journal.nextGeneration ≠ journal.current.commandGeneration := by
  intro same
  have step := congrArg UInt64.toNat (consecutive.symm.trans same)
  rw [UInt64.toNat_add, UInt64.toNat_one] at step
  have bound := journal.current.commandGeneration.toNat_lt
  omega

/-- New evidence, with the next number -/
structure Renews (journal next : CommandJournal) : Prop where
  generation : next.current.commandGeneration = journal.nextGeneration
  nextGeneration : next.nextGeneration = journal.nextGeneration + 1

theorem Renews.consecutive {next : CommandJournal} (renews : Renews journal next) :
    Consecutive next := by
  unfold Consecutive
  rw [renews.nextGeneration, renews.generation]

/-- A request that was handed over leaves the journal of the callback. -/
theorem handRequest_ok {request : MotorCommandRequest}
    (ok : (journal.handRequest answer request).1 = espOk) :
    (journal.handRequest answer request).2 = (journal.callback answer request).2 := by
  unfold handRequest at ok ⊢
  split_ifs at ok ⊢ with invalid unarmed unbound
  · exact absurd ok (by decide : espErrInvalidArg ≠ espOk)
  · exact absurd ok (by decide : espErrInvalidState ≠ espOk)
  · exact absurd ok (by decide : espErrInvalidState ≠ espOk)
  · rfl

theorem nextGeneration_handRequest (request : MotorCommandRequest) :
    (journal.handRequest answer request).2.nextGeneration = journal.nextGeneration := by
  unfold handRequest
  split_ifs <;> rfl

/-- A request that is applied is skipped, or makes new evidence, with the time of the motor's answer
when it succeeds. -/
theorem apply_cases (request : MotorCommandRequest) (nowUs : UInt64) :
    (journal.apply answer request nowUs).2 = journal ∨
      Renews journal (journal.apply answer request nowUs).2 ∧
        ((journal.apply answer request nowUs).1 = espOk →
          (journal.apply answer request nowUs).2.current.commandApplyTimestampUs =
              (answer journal.context.length).completedAtUs ∧
            (journal.apply answer request nowUs).2.current.applyResultCode = espOk) := by
  have generation := @nextGeneration_handRequest answer journal request
  unfold apply
  split
  · exact Or.inl rfl
  · right
    dsimp only
    split
    · rename_i failed
      have coasted := coasts_disarm answer
        ((journal.handRequest answer request).2.openEvidence request nowUs) nowUs
      refine ⟨⟨?_, ?_⟩, fun ok => absurd ok failed⟩
      · have same := congrArg CommandEvidence.commandGeneration coasted.current
        exact same.trans generation
      · exact coasted.nextGeneration.trans (congrArg (· + 1) generation)
    · rename_i ok
      rw [Decidable.not_not] at ok
      refine ⟨⟨generation, congrArg (· + 1) generation⟩, fun _ => ⟨?_, ok⟩⟩
      show (journal.handRequest answer request).2.currentApplied.commandApplyTimestampUs = _
      rw [handRequest_ok ok]
      rfl

end CommandJournal

/-! ### The command of the next epoch -/

namespace RunState

open CommandJournal (Consecutive Renews)

/-- The clock of the world does not go back. -/
def Clock (world : World) : Prop :=
  ∀ ⦃earlier later⦄, earlier ≤ later → (world earlier).nowUs ≤ (world later).nowUs

/-- What of the run the application of a command keeps -/
structure Applies (run next : RunState) : Prop where
  moment : run.moment ≤ next.moment
  reason : next.firstError = espOk →
    run.firstError = espOk ∧ next.lastAbortReason = run.lastAbortReason
  stopped : run.qualificationStop = true → next.qualificationStop = true
  records : next.records = run.records
  sequence : next.sequence = run.sequence
  qualificationTotal : next.qualificationTotal = run.qualificationTotal
  qualificationValid : next.qualificationValid = run.qualificationValid
  command : next.currentCommandState = run.currentCommandState
  epochZeroUs : next.epochZeroUs = run.epochZeroUs
  assembler : next.assembler = run.assembler

theorem Still.applies {run next : RunState} (still : Still run next) : Applies run next :=
  ⟨still.moment, fun clean => ⟨still.toCalm.clean clean, still.reason clean⟩, still.stopped,
    still.records, still.sequence, still.qualificationTotal, still.qualificationValid, still.command,
    still.epochZeroUs, still.assembler⟩

theorem Applies.trans {first second third : RunState} (before : Applies first second)
    (after : Applies second third) : Applies first third where
  moment := before.moment.trans after.moment
  reason clean := by
    obtain ⟨between, later⟩ := after.reason clean
    obtain ⟨first, earlier⟩ := before.reason between
    exact ⟨first, later.trans earlier⟩
  stopped stop := after.stopped (before.stopped stop)
  records := after.records.trans before.records
  sequence := after.sequence.trans before.sequence
  qualificationTotal := after.qualificationTotal.trans before.qualificationTotal
  qualificationValid := after.qualificationValid.trans before.qualificationValid
  command := after.command.trans before.command
  epochZeroUs := after.epochZeroUs.trans before.epochZeroUs
  assembler := after.assembler.trans before.assembler

/-- The motor has answered a request for which there is new evidence, between the two states. -/
structure Answered (world : World) (run next : RunState) : Prop where
  renews : Renews run.journal next.journal
  accepted : next.journal.current.applyResultCode = espOk
  answered : ∃ moment, run.moment ≤ moment ∧ moment ≤ next.moment ∧
    next.journal.current.commandApplyTimestampUs = (world moment).nowUs

/-- How the command of the next epoch is found -/
inductive NextEvidence (world : World) (nextEpoch : UInt32) (run next : RunState)
    (evidence : CommandEvidence) : Prop where
  /-- The motor has the command already. -/
  | kept (same : next.journal.current = run.journal.current)
      (nextGeneration : next.journal.nextGeneration = run.journal.nextGeneration)
      (taken : SameCommand evidence run.journal.current)
  /-- It was applied an epoch late. -/
  | slipped (answered : Answered world run next)
      (taken : SameCommand evidence run.journal.current)
      (late : run.epochEnd nextEpoch ≤ next.journal.current.commandApplyTimestampUs)
      (early : next.journal.current.commandApplyTimestampUs < run.hardDeadline nextEpoch)
  /-- It was applied in time. -/
  | renewed (answered : Answered world run next)
      (taken : SameCommand evidence next.journal.current)
      (early : next.journal.current.commandApplyTimestampUs < run.epochEnd nextEpoch)

theorem Answered.then_still {world : World} {run next last : RunState}
    (answered : Answered world run next) (still : Still next last) : Answered world run last := by
  obtain ⟨renews, accepted, moment, after, before, time⟩ := answered
  refine ⟨⟨?_, ?_⟩, ?_, moment, after, before.trans still.moment, ?_⟩
  · rw [still.journal.current]
    exact renews.generation
  · exact still.journal.nextGeneration.trans renews.nextGeneration
  · rw [still.journal.current]
    exact accepted
  · rw [still.journal.current]
    exact time

theorem Answered.of_still {world : World} {run asked next : RunState} (still : Still run asked)
    (answered : Answered world asked next) : Answered world run next := by
  obtain ⟨renews, accepted, moment, after, before, time⟩ := answered
  refine ⟨⟨?_, ?_⟩, accepted, moment, still.moment.trans after, before, time⟩
  · exact renews.generation.trans still.journal.nextGeneration
  · exact renews.nextGeneration.trans (congrArg (· + 1) still.journal.nextGeneration)

variable (world : World) (setup : RunSetup) (run : RunState)

/-- A request that is applied is skipped, or answered when it succeeds. -/
theorem apply_answers (request : MotorCommandRequest) (nowUs : UInt64) :
    (run.apply world request nowUs).2.journal = run.journal ∨
      Renews run.journal (run.apply world request nowUs).2.journal ∧
        ((run.apply world request nowUs).1 = espOk →
          Answered world run (run.apply world request nowUs).2) := by
  rcases @CommandJournal.apply_cases (run.motorAnswer world) run.journal request nowUs with
    same | ⟨renews, answered⟩
  · exact Or.inl same
  · refine Or.inr ⟨renews, fun ok =>
      ⟨renews, (answered ok).2, run.moment, le_rfl, Nat.le_add_right _ _, ?_⟩⟩
    refine (answered ok).1.trans ?_
    unfold motorAnswer
    dsimp only
    rw [Nat.sub_self, Nat.add_zero]

theorem applies_applyInTime (nextEpoch : UInt32) (request : MotorCommandRequest) :
    Applies run (run.applyInTime world nextEpoch request).2.2 := by
  unfold applyInTime
  dsimp only
  split
  · exact ⟨Nat.le_add_right _ 2, fun clean => ⟨clean, rfl⟩, id, rfl, rfl, rfl, rfl, rfl, rfl, rfl⟩
  · exact ⟨Nat.le_add_right _ 3, fun clean => ⟨clean, rfl⟩, id, rfl, rfl, rfl, rfl, rfl, rfl, rfl⟩

/-- A request is rejected when its time is over, or applied. -/
theorem applyInTime_answers (nextEpoch : UInt32) (request : MotorCommandRequest) :
    (run.applyInTime world nextEpoch request).1 = true ∨
      (run.applyInTime world nextEpoch request).2.2.journal = run.journal ∨
        Renews run.journal (run.applyInTime world nextEpoch request).2.2.journal ∧
          ((run.applyInTime world nextEpoch request).2.1 = espOk →
            Answered world run (run.applyInTime world nextEpoch request).2.2) := by
  unfold applyInTime
  dsimp only
  split
  · exact Or.inl rfl
  · right
    rcases apply_answers world (run.later 1) request (run.now world) with same | ⟨renews, answered⟩
    · exact Or.inl same
    · exact Or.inr ⟨renews, fun ok => (answered ok).of_still (run.still_later 1)⟩

theorem applies_issue (nextEpoch : UInt32) (request : MotorCommandRequest) (guardState : GuardState) :
    Applies run (run.issue world nextEpoch request guardState).2 := by
  have applied := (run.still_later 1).applies.trans
    (applies_applyInTime world (run.later 1) nextEpoch request)
  have counted := fun overran =>
    (still_later ((run.later 1).applyInTime world nextEpoch request).2.2 1).trans
      (still_countOverrun _ overran)
  unfold issue
  dsimp only
  split_ifs
  · exact applied.trans ((counted _).trans (still_stopNow world _ _ _)).applies
  · exact applied.trans ((counted _).trans (still_stopNow world _ _ _)).applies
  · exact applied.trans (counted _).applies
  · exact applied.trans (counted _).applies

/-- After a request that succeeds the evidence says so. -/
theorem accepted_of_apply (request : MotorCommandRequest) (nowUs : UInt64)
    (ok : (run.apply world request nowUs).1 = espOk) :
    (run.apply world request nowUs).2.journal.current.applyResultCode = espOk := by
  have same : (run.apply world request nowUs).2.journal =
      (run.journal.apply (run.motorAnswer world) request nowUs).2 := rfl
  rw [same]
  change (run.journal.apply (run.motorAnswer world) request nowUs).1 = espOk at ok
  unfold CommandJournal.apply at ok ⊢
  split at ok
  · rename_i skipped
    rw [if_pos skipped]
    unfold CommandJournal.skips CommandJournal.requestAlreadyApplied at skipped
    simp only [Bool.and_eq_true, beq_iff_eq] at skipped
    exact skipped.2.1.1.1.1.1.1.1.2
  · rename_i applied
    rw [if_neg applied]
    dsimp only at ok ⊢
    split at ok
    · rename_i failed
      exact absurd ok failed
    · rename_i succeeded
      rw [if_neg succeeded]
      exact ok

/-- With a command for the next epoch the motor has taken it, and that of the journal as well. -/
theorem accepted_issue (accepted : run.journal.current.applyResultCode = espOk) (nextEpoch : UInt32)
    (request : MotorCommandRequest) (guardState : GuardState) {state : EpochCommandState}
    (found : (run.issue world nextEpoch request guardState).1 = some state) :
    (run.issue world nextEpoch request guardState).2.journal.current.applyResultCode = espOk ∧
      state.evidence.applyResultCode = espOk := by
  have applied : ((run.later 1).applyInTime world nextEpoch request).1 = false →
      ((run.later 1).applyInTime world nextEpoch request).2.1 = espOk →
      ((run.later 1).applyInTime world nextEpoch request).2.2.journal.current.applyResultCode =
        espOk := by
    unfold applyInTime
    dsimp only
    split
    · intro missed
      cases missed
    · intro _ ok
      exact accepted_of_apply world _ request _ ok
  unfold issue at found ⊢
  dsimp only at found ⊢
  split at found
  · cases found
  · rename_i inTime
    rw [if_neg inTime]
    simp only [Bool.or_eq_true, not_or, Bool.not_eq_true] at inTime
    split at found
    · cases found
    · rename_i ok
      rw [if_neg ok]
      rw [Decidable.not_not] at ok
      have taken := applied inTime.1 ok
      have kept := (still_later ((run.later 1).applyInTime world nextEpoch request).2.2 1).trans
        (still_countOverrun _ false)
      rw [inTime.2] at found ⊢
      split at found
      · rename_i late
        rw [if_pos late]
        obtain rfl := Option.some.inj found
        refine ⟨?_, accepted⟩
        rw [kept.journal.current]
        exact taken
      · rename_i early
        rw [if_neg early]
        obtain rfl := Option.some.inj found
        refine ⟨?_, taken⟩
        rw [kept.journal.current]
        exact taken

/-- With a command for the next epoch, its evidence was found in one of the three ways. -/
theorem issue_found (consecutive : Consecutive run.journal) (nextEpoch : UInt32)
    (request : MotorCommandRequest) (guardState : GuardState) {state : EpochCommandState}
    (found : (run.issue world nextEpoch request guardState).1 = some state) :
    NextEvidence world nextEpoch run (run.issue world nextEpoch request guardState).2
      state.evidence := by
  have applied := applyInTime_answers world (run.later 1) nextEpoch request
  obtain ⟨missed, result, next, applies⟩ : ∃ missed result next,
      (run.later 1).applyInTime world nextEpoch request = (missed, result, next) :=
    ⟨_, _, _, rfl⟩
  rw [applies] at applied
  unfold issue at found ⊢
  dsimp only at found ⊢
  rw [applies] at found ⊢
  dsimp only at applied found ⊢
  have kept : Still next ((next.later 1).countOverrun false) :=
    (next.still_later 1).trans (still_countOverrun _ false)
  split at found
  · cases found
  · rename_i inTime
    rw [if_neg inTime]
    simp only [Bool.or_eq_true, not_or, Bool.not_eq_true] at inTime
    obtain ⟨taken, fits⟩ := inTime
    split at found
    · cases found
    · rename_i ok
      rw [if_neg ok]
      rw [Decidable.not_not] at ok
      rw [fits] at found ⊢
      rcases applied with missed | same | ⟨renews, answered⟩
      · rw [missed] at taken
        cases taken
      · have unchanged : (next.journal.snapshot (next.now world)).commandGeneration =
            (run.journal.snapshot (run.now world)).commandGeneration :=
          congrArg (fun journal : CommandJournal => journal.current.commandGeneration) same
        rw [unchanged, bne_self_eq_false, Bool.false_and, if_neg Bool.false_ne_true] at found ⊢
        obtain rfl := Option.some.inj found
        apply NextEvidence.kept
        · exact kept.journal.current.trans (congrArg CommandJournal.current same)
        · exact kept.journal.nextGeneration.trans (congrArg CommandJournal.nextGeneration same)
        · unfold SameCommand
          dsimp only [CommandJournal.snapshot]
          rw [same]
          rfl
      · have changed : ((next.journal.snapshot (next.now world)).commandGeneration !=
            (run.journal.snapshot (run.now world)).commandGeneration) = true := by
          rw [bne_iff_ne]
          intro unchanged
          exact consecutive.ne (renews.generation.symm.trans unchanged)
        rw [taken, changed] at fits
        rw [changed] at found ⊢
        have answers := ((answered ok).of_still (run.still_later 1)).then_still kept
        split at found
        · rename_i late
          rw [if_pos late]
          obtain rfl := Option.some.inj found
          refine .slipped answers (sameCommand_snapshot run.journal _) ?_ ?_
          · rw [kept.journal.current]
            simpa [CommandJournal.snapshot] using late
          · rw [kept.journal.current]
            simpa [CommandJournal.snapshot] using fits
        · rename_i early
          rw [if_neg early]
          obtain rfl := Option.some.inj found
          refine .renewed answers ?_ ?_
          · rw [kept.journal.current]
            exact sameCommand_snapshot next.journal _
          · rw [kept.journal.current]
            simpa [CommandJournal.snapshot] using early

theorem Still.epochEnd {run next : RunState} (still : Still run next) (epoch : UInt32) :
    next.epochEnd epoch = run.epochEnd epoch :=
  congrArg (fun zero => zero + epoch.toUInt64 * kEpochDurationUs + kEpochDurationUs) still.epochZeroUs

theorem Still.hardDeadline {run next : RunState} (still : Still run next) (epoch : UInt32) :
    next.hardDeadline epoch = run.hardDeadline epoch :=
  congrArg (· + kEpochDurationUs) (still.epochEnd epoch)

theorem NextEvidence.of_still {world : World} {run asked next : RunState} {nextEpoch : UInt32}
    {evidence : CommandEvidence} (still : Still run asked)
    (found : NextEvidence world nextEpoch asked next evidence) :
    NextEvidence world nextEpoch run next evidence := by
  cases found with
  | kept same nextGeneration taken =>
      refine .kept (same.trans still.journal.current)
        (nextGeneration.trans still.journal.nextGeneration) ?_
      exact still.journal.current ▸ taken
  | slipped answered taken late early =>
      refine .slipped (answered.of_still still) ?_ ?_ ?_
      · exact still.journal.current ▸ taken
      · exact still.epochEnd nextEpoch ▸ late
      · exact still.hardDeadline nextEpoch ▸ early
  | renewed answered taken early =>
      exact .renewed (answered.of_still still) taken (still.epochEnd nextEpoch ▸ early)

theorem applies_nextCommand (epoch : UInt32) : Applies run (run.nextCommand world setup epoch).2 := by
  have asked := (still_nextRequest world setup run (epoch + 1)).trans (still_later _ 1)
  unfold nextCommand
  split
  · dsimp only
    split
    · exact (asked.trans (still_stopNow world _ _ _)).applies
    · exact asked.applies.trans (applies_issue world _ _ _ _)
  · exact (Still.refl run).applies

theorem accepted_nextCommand (accepted : run.journal.current.applyResultCode = espOk)
    (epoch : UInt32) {state : EpochCommandState}
    (found : (run.nextCommand world setup epoch).1 = some state) :
    (run.nextCommand world setup epoch).2.journal.current.applyResultCode = espOk ∧
      state.evidence.applyResultCode = espOk := by
  unfold nextCommand at found ⊢
  split at found
  · rename_i due
    rw [if_pos due]
    have asked := (still_nextRequest world setup run (epoch + 1)).trans (still_later _ 1)
    dsimp only at found ⊢
    split at found
    · cases found
    · rename_i permitted guardState passed
      rw [← asked.journal.current] at accepted
      exact accepted_issue world _ accepted (epoch + 1) permitted guardState found
  · cases found

/-- The command of the next epoch is found after its request. -/
theorem nextCommand_found (consecutive : Consecutive run.journal) (epoch : UInt32)
    {state : EpochCommandState}
    (found : (run.nextCommand world setup epoch).1 = some state) :
    NextEvidence world (epoch + 1) run (run.nextCommand world setup epoch).2 state.evidence := by
  unfold nextCommand at found ⊢
  split at found
  · rename_i due
    rw [if_pos due]
    have asked := (still_nextRequest world setup run (epoch + 1)).trans (still_later _ 1)
    dsimp only at found ⊢
    split at found
    · cases found
    · rename_i permitted guardState passed
      have numbered : Consecutive ((run.nextRequest world setup (epoch + 1)).2.later 1).journal := by
        unfold Consecutive
        rw [asked.journal.nextGeneration, asked.journal.current]
        exact consecutive
      have evidence := issue_found world _ numbered (epoch + 1) permitted guardState found
      exact evidence.of_still asked
  · cases found

end RunState

end MissionBoard.Characterization
