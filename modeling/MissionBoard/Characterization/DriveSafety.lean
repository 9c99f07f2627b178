import MissionBoard.Characterization.EpochCompleteness
import MissionBoard.Characterization.JournalTruth
import MissionBoard.Characterization.RunStages

/-!
Owns the safety of the drive in `ProfileRunner::run`: what but Coast is handed to the motor was
issued in a full run without an error, by an armed journal, and the guard permits it at the angle of
the epoch that was just released.
-/

namespace MissionBoard.Characterization

/-! ### What the motor is handed -/

namespace CommandJournal

/-- From one journal to the other the motor was handed requests of this kind, and Coast. -/
def Hands (kind : HandedRequest → Prop) (journal next : CommandJournal) : Prop :=
  ∃ more, next.context = journal.context ++ more ∧
    ∀ handed ∈ more, handed.request ≠ .toCoast → kind handed

variable {kind : HandedRequest → Prop}

theorem Hands.refl (journal : CommandJournal) : Hands kind journal journal :=
  ⟨[], (List.append_nil _).symm, fun _ within => absurd within List.not_mem_nil⟩

theorem Hands.trans {first second third : CommandJournal} (before : Hands kind first second)
    (after : Hands kind second third) : Hands kind first third := by
  obtain ⟨earlier, firstContext, firstKind⟩ := before
  obtain ⟨later, secondContext, secondKind⟩ := after
  refine ⟨earlier ++ later, ?_, ?_⟩
  · rw [secondContext, firstContext, List.append_assoc]
  · intro handed within
    rcases List.mem_append.mp within with early | late
    · exact firstKind handed early
    · exact secondKind handed late

theorem Hands.imp {other : HandedRequest → Prop} {journal next : CommandJournal}
    (hands : Hands kind journal next)
    (implies : ∀ handed, handed.request ≠ .toCoast → kind handed → other handed) :
    Hands other journal next := by
  obtain ⟨more, context, each⟩ := hands
  exact ⟨more, context, fun handed within drives =>
    implies handed drives (each handed within drives)⟩

theorem Coasts.hands {journal next : CommandJournal} (coasts : Coasts journal next) :
    Hands kind journal next := by
  obtain ⟨more, context, each⟩ := coasts.context
  exact ⟨more, context, fun handed within other => absurd (each handed within) other⟩

variable (answer : ℕ → MotorApplyAnswer) (journal : CommandJournal)

theorem hands_handRequest (request : MotorCommandRequest) :
    Hands (fun handed => handed.request = request ∧ request.valid = true ∧ handed.armed = true)
      journal (journal.handRequest answer request).2 := by
  unfold handRequest
  split_ifs with invalid unarmed
  · exact .refl journal
  · exact .refl journal
  · exact .refl journal
  · rw [Bool.not_eq_true', Bool.not_eq_false] at invalid
    refine ⟨[_], rfl, ?_⟩
    intro handed within drives
    rw [List.mem_singleton.mp within] at drives ⊢
    refine ⟨rfl, invalid, ?_⟩
    cases needs : request.needsArm with
    | false => exact absurd (eq_toCoast invalid needs) drives
    | true => simpa [needs] using unarmed

/-- A request but Coast reaches the motor as it is, valid and from an armed journal. -/
theorem hands_apply (request : MotorCommandRequest) (nowUs : UInt64) :
    Hands (fun handed => handed.request = request ∧ request.valid = true ∧ handed.armed = true)
      journal (journal.apply answer request nowUs).2 := by
  unfold apply
  split
  · exact .refl journal
  · have handed := hands_handRequest answer journal request
    dsimp only
    split
    · have coasted := coasts_disarm answer
        ((journal.handRequest answer request).2.openEvidence request nowUs) nowUs
      exact handed.trans coasted.hands
    · exact handed

theorem hands_rejectAndCoast (request : MotorCommandRequest) (cause : Int32) (nowUs : UInt64) :
    Hands kind journal (journal.rejectAndCoast answer request cause nowUs).2 := by
  unfold rejectAndCoast
  split
  · exact .refl journal
  · exact (coasts_disarm answer (journal.openEvidence request nowUs) nowUs).hands

end CommandJournal

namespace RunState

open CommandJournal (Hands)

variable (world : World) (setup : RunSetup) (run : RunState) {kind : HandedRequest → Prop}

theorem hands_applyCoast : Hands kind run.journal (run.applyCoast world).2.journal := by
  obtain ⟨more, context, each⟩ :=
    run.journal.hands_apply ((run.later 1).motorAnswer world) .toCoast (run.now world)
  exact ⟨more, context, fun handed within other => absurd (each handed within other).1 other⟩

theorem hands_applyInTime (nextEpoch : UInt32) (request : MotorCommandRequest) :
    Hands (fun handed => handed.request = request ∧ request.valid = true ∧ handed.armed = true)
      run.journal (run.applyInTime world nextEpoch request).2.2.journal := by
  unfold applyInTime
  dsimp only
  split
  · exact run.journal.hands_rejectAndCoast _ request espErrTimeout _
  · exact run.journal.hands_apply _ request _

theorem hands_issue (nextEpoch : UInt32) (request : MotorCommandRequest) (guardState : GuardState) :
    Hands (fun handed => handed.request = request ∧ request.valid = true ∧ handed.armed = true)
      run.journal (run.issue world nextEpoch request guardState).2.journal := by
  have applied := hands_applyInTime world (run.later 1) nextEpoch request
  have counted := fun overran =>
    (still_later ((run.later 1).applyInTime world nextEpoch request).2.2 1).trans
      (still_countOverrun _ overran)
  unfold issue
  dsimp only
  split_ifs
  · exact applied.trans ((counted _).trans (still_stopNow world _ _ _)).journal.hands
  · exact applied.trans ((counted _).trans (still_stopNow world _ _ _)).journal.hands
  · exact applied.trans (counted _).journal.hands
  · exact applied.trans (counted _).journal.hands

/-! ### The command of an epoch -/

/-- The approach of an episode that is none -/
theorem approachOf_of_ne {episode : ProfileEpisode} (other : episode.phase ≠ .zeroApproach) :
    run.approachOf episode = none := if_pos other

/-- In a rate check the request of every epoch is Coast. -/
theorem nextRequest_of_not_full (notFull : setup.runKind ≠ .full) (nextEpoch : UInt32) :
    (run.nextRequest world setup nextEpoch).1 = .toCoast := by
  have stationary : setup.episodeOf nextEpoch =
      (⟨.stationaryBaseline, .none, 1, setup.epochs, 0⟩, nextEpoch) := if_neg notFull
  unfold nextRequest
  rw [stationary]
  dsimp only
  have other : ProfilePhase.stationaryBaseline ≠ .zeroApproach := by decide
  rw [approachOf_of_ne _ other]
  rfl

theorem permitted_of_preapply {stopRequested : Bool} {request permitted : MotorCommandRequest}
    {guardState : GuardState}
    (passed : run.preapply setup stopRequested request = .ok (permitted, guardState)) :
    permitted = request ∨ permitted = .toCoast := by
  unfold preapply at passed
  dsimp only at passed
  split_ifs at passed
  · exact Or.inl (congrArg Prod.fst (Except.ok.inj passed)).symm
  · have same := congrArg Prod.fst (Except.ok.inj passed)
    dsimp only at same
    rw [PositionGuard.permitted_eq] at same
    split at same
    · exact Or.inl same.symm
    · exact Or.inr same.symm

/-- What drives the motor in a full run is permitted at the angle. -/
theorem permits_of_preapply (full : setup.full = true) {stopRequested : Bool}
    {request permitted : MotorCommandRequest} {guardState : GuardState}
    (passed : run.preapply setup stopRequested request = .ok (permitted, guardState))
    (drives : permitted.commandPermille ≠ 0) :
    run.haveAngle = true ∧
      PositionGuard.Permits setup.guard run.finAngle (run.finRate / kPredictedStoppingRateDivisor)
        permitted.commandPermille := by
  unfold preapply at passed
  dsimp only at passed
  split_ifs at passed with stopped blind angle aborted
  · have same := congrArg Prod.fst (Except.ok.inj passed)
    dsimp only at same
    rw [same] at blind
    exact absurd ⟨full, angle, drives⟩ blind
  · have same := congrArg Prod.fst (Except.ok.inj passed)
    dsimp only at same
    rw [PositionGuard.permitted_eq] at same
    split at same
    · rename_i allowed
      obtain ⟨-, -, -, -, -, permits⟩ := (PositionGuard.evaluate_eq_allow_iff _).mp allowed
      rw [← same]
      exact ⟨by simpa using angle, permits⟩
    · rw [← same] at drives
      exact absurd rfl drives

/-- What but Coast is handed to the motor for the next epoch -/
structure Issues (handed : HandedRequest) : Prop where
  full : setup.runKind = .full
  clean : run.firstError = espOk
  going : run.qualificationStop = false
  armed : handed.armed = true
  valid : handed.request.valid = true
  permits : handed.request.commandPermille ≠ 0 → run.haveAngle = true ∧
    PositionGuard.Permits setup.guard run.finAngle (run.finRate / kPredictedStoppingRateDivisor)
      handed.request.commandPermille

theorem hands_nextCommand (epoch : UInt32) :
    Hands (run.Issues setup) run.journal (run.nextCommand world setup epoch).2.journal := by
  unfold nextCommand
  split
  · rename_i condition
    obtain ⟨-, clean, going⟩ := condition
    rw [Bool.not_eq_true'] at going
    have requested := still_nextRequest world setup run (epoch + 1)
    have asked := requested.trans (still_later _ 1)
    dsimp only
    split
    · exact (asked.trans (still_stopNow world _ _ _)).journal.hands
    · rename_i permitted guardState passed
      have issued := hands_issue world ((run.nextRequest world setup (epoch + 1)).2.later 1)
        (epoch + 1) permitted guardState
      refine asked.journal.hands.trans (issued.imp fun handed drives kind => ?_)
      obtain ⟨same, valid, armed⟩ := kind
      have full : setup.runKind = .full := by
        by_contra notFull
        have coast := nextRequest_of_not_full world setup run notFull (epoch + 1)
        rcases permitted_of_preapply setup _ passed with unchanged | coasts
        · exact drives (same.trans (unchanged.trans coast))
        · exact drives (same.trans coasts)
      refine ⟨full, clean, going, armed, same ▸ valid, fun moves => ?_⟩
      have isFull : setup.full = true := by
        unfold RunSetup.full
        rw [full]
        rfl
      have permits := permits_of_preapply setup _ isFull passed (same ▸ moves)
      rw [same, ← asked.haveAngle, ← asked.finAngle, ← asked.finRate]
      exact permits
  · exact .refl run.journal

/-! ### The angle of an epoch -/

/-- With an angle and without an error in a full run, the angle is that of the block, unless the epoch
was excused and the angle is older. -/
theorem angle_of_measure (full : setup.full = true) {block : EncoderEpochBlock}
    {guardState : GuardState}
    (first : startupEpoch block = true → run.haveAngle = false)
    (clean : (run.measure world setup block guardState).2.firstError = espOk)
    (angled : (run.measure world setup block guardState).2.haveAngle = true) :
    hasFlag block.flags EpochAggregateValid = true ∧
      finAngleMilliDegreesFromUnwrappedQ16 block.meanUnwrappedCountsQ16 run.zeroRaw =
        some (run.measure world setup block guardState).2.finAngle := by
  unfold measure at clean angled ⊢
  split at clean
  · rename_i valid
    rw [if_pos valid] at angled ⊢
    refine ⟨valid, ?_⟩
    split at clean
    · exact absurd clean (firstError_stopNow world _ _ _)
    · rename_i angle converted
      dsimp only at clean ⊢
      split at clean
      · exact absurd clean (firstError_stopNow world _ _ _)
      · rename_i inRange
        rw [converted]
        rw [if_neg inRange]
  · rename_i invalid
    rw [if_neg invalid] at angled
    split at clean
    · exact absurd clean (firstError_stopNow world _ _ _)
    · rename_i excused
      rw [if_neg excused] at angled
      dsimp only at clean angled
      have startup : startupEpoch block = true := by
        by_contra other
        exact excused ⟨full, clean, by simpa using other⟩
      rw [first startup] at angled
      cases angled

/-- The flag of a deadline is dropped, and no other. -/
theorem hasFlag_recordedBlock (release : EpochRelease) (block : EncoderEpochBlock) :
    hasFlag (recordedBlock release block).flags EpochAggregateValid =
      hasFlag block.flags EpochAggregateValid := by
  have apart : ~~~EpochDeadline &&& EpochAggregateValid = EpochAggregateValid := by decide
  unfold recordedBlock hasFlag
  split
  · dsimp only
    rw [UInt16.and_assoc, apart]
  · rfl

theorem kept_recordedBlock (release : EpochRelease) (block : EncoderEpochBlock) :
    (recordedBlock release block).epochIndex = block.epochIndex ∧
      (recordedBlock release block).meanUnwrappedCountsQ16 = block.meanUnwrappedCountsQ16 := by
  unfold recordedBlock
  split
  · exact ⟨rfl, rfl⟩
  · exact ⟨rfl, rfl⟩

/-- The angle after an epoch is settled is the one that was measured. -/
theorem angle_of_settle (full : setup.full = true) {work : EpochWork} {release : EpochRelease}
    {block : EncoderEpochBlock}
    (first : block.epochIndex = 0 → run.haveAngle = false)
    (clean : (run.settle world setup work release (recordedBlock release block)).2.firstError = espOk)
    (angled :
      (run.settle world setup work release (recordedBlock release block)).2.haveAngle = true) :
    hasFlag block.flags EpochAggregateValid = true ∧
      finAngleMilliDegreesFromUnwrappedQ16 block.meanUnwrappedCountsQ16 run.zeroRaw =
        some (run.settle world setup work release (recordedBlock release block)).2.finAngle := by
  obtain ⟨index, mean⟩ := kept_recordedBlock release block
  have still := ((still_checkSampler world setup
    (run.measure world setup (recordedBlock release block) work.guardState).2).trans
    (still_feedApproach world _ work.episode release.releaseUs)).trans
    (still_checkApproach world _ work.episode work.localEpoch)
  obtain ⟨valid, angle⟩ := angle_of_measure world setup run full
    (fun startup => first (index ▸ by simpa [startupEpoch] using (Bool.and_eq_true_iff.mp
      (Bool.and_eq_true_iff.mp startup).1).2))
    (still.toQuiet.clean clean) (still.haveAngle ▸ angled)
  rw [hasFlag_recordedBlock] at valid
  rw [mean] at angle
  exact ⟨valid, angle.trans (congrArg some still.finAngle.symm)⟩

end RunState

/-- A block that is released is that of the epoch. -/
theorem FixedEpochAssembler.block_of_release {assembler : FixedEpochAssembler}
    {epochIndex releaseTimestampUs : UInt64} {block : EncoderEpochBlock}
    (released : (assembler.release epochIndex releaseTimestampUs).1 = some block) :
    block = assembler.block epochIndex releaseTimestampUs := by
  rcases @release_cases assembler epochIndex releaseTimestampUs with
    ⟨-, refused⟩ | ⟨-, next, -, -, -, -, ⟨-, nothing, -⟩ | ⟨-, same, -⟩⟩
  · rw [refused] at released
    cases released
  · rw [nothing] at released
    cases released
  · exact Option.some.inj (released.symm.trans same)

/-- An epoch that was just released, and the run when the command of the next one is due -/
structure SettledEpoch where
  assembler : FixedEpochAssembler
  work : EpochWork
  release : EpochRelease
  block : EncoderEpochBlock
  run : RunState

namespace Runner

open CommandJournal (Hands)
open RunState

variable (world : World) (setup : RunSetup)

/-- The epoch that the next step of the runner settles, if it settles one -/
def settledAt (runner : Runner) : Option SettledEpoch :=
  match runner.stage with
  | .draining work release =>
      let (more, drained) := runner.run.drainSample world setup
      match more, drained.assembler.release work.epoch.toUInt64 release.releaseUs with
      | false, (some block, assembler) =>
          some
            { assembler := drained.assembler, work, release, block
              run := ((drained.withAssembler assembler).settle world setup work release
                (recordedBlock release block)).2 }
      | _, _ => none
  | _ => none

/-- What but Coast is handed to the motor in a step: the step settles an epoch, and the command of the
next one is issued from there. If it drives the motor, that epoch was complete, the angle is that of
its block, and the guard permits the command at this angle. -/
structure Issued (runner : Runner) (handed : HandedRequest) (settled : SettledEpoch) : Prop where
  settles : runner.settledAt world setup = some settled
  full : setup.runKind = .full
  clean : settled.run.firstError = espOk
  going : settled.run.qualificationStop = false
  armed : handed.armed = true
  mode : motorModeMatchesCommand handed.request.commandPermille handed.request.mode = true
  magnitude : |handed.request.commandPermille.toInt| ≤ 350
  complete : handed.request.commandPermille ≠ 0 →
    (settled.assembler.taken settled.work.epoch.toUInt64).complete settled.assembler.rate = true
  angle : handed.request.commandPermille ≠ 0 →
    finAngleMilliDegreesFromUnwrappedQ16 settled.block.meanUnwrappedCountsQ16 settled.run.zeroRaw =
      some settled.run.finAngle
  permits : handed.request.commandPermille ≠ 0 →
    PositionGuard.Permits setup.guard settled.run.finAngle
      (settled.run.finRate / kPredictedStoppingRateDivisor) handed.request.commandPermille

/-- There is an error or a qualification stop. -/
def Stopped (run : RunState) : Prop := run.firstError ≠ espOk ∨ run.qualificationStop = true

/-- No angle has been measured before epoch zero. -/
def Unmeasured (epoch : UInt32) (run : RunState) : Prop := epoch = 0 → run.haveAngle = false

/-- The epoch at which the runner stands is one of the run, and without an angle when it is the first;
before the start there is no error. -/
def Placed (runner : Runner) : Prop :=
  match runner.stage with
  | .called => runner.run.firstError = espOk ∧ runner.run.qualificationStop = false
  | .starting => runner.run.haveAngle = false
  | .entering epoch => Unmeasured epoch runner.run
  | .waiting work => work.epoch < setup.epochs ∧ Unmeasured work.epoch runner.run
  | .draining work _ => work.epoch < setup.epochs ∧ Unmeasured work.epoch runner.run
  | .closing => True
  | .returned _ _ => True

variable {setup} {run : RunState}

theorem unmeasured_of_still {epoch : UInt32} {next : RunState} (unmeasured : Unmeasured epoch run)
    (still : Still run next) : Unmeasured epoch next :=
  fun first => still.haveAngle.trans (unmeasured first)

/-- The epoch after one of the run is not the first. -/
theorem unmeasured_succ {epoch : UInt32} (within : epoch < setup.epochs) :
    Unmeasured (epoch + 1) run := by
  intro first
  have next := congrArg UInt32.toNat first
  have bound := setup.epochs.toNat_lt
  rw [UInt32.lt_iff_toNat_lt] at within
  rw [UInt32.toNat_add, UInt32.toNat_one, UInt32.toNat_zero] at next
  omega

/-! ### The start and the shutdown -/

variable (setup run) {kind : HandedRequest → Prop}

theorem disarm_coasts : Hands kind run.journal (run.disarm world).2.journal :=
  (still_disarm world run).journal.hands

theorem coastAndDisarm_coasts : Hands kind run.journal (run.coastAndDisarm world).journal :=
  (hands_applyCoast world run).trans (disarm_coasts world _)

theorem startConsumerTimer_keeps : (run.startConsumerTimer world).2.journal = run.journal ∧
    (run.startConsumerTimer world).2.haveAngle = run.haveAngle := by
  unfold startConsumerTimer
  dsimp only
  split_ifs
  · exact ⟨rfl, rfl⟩
  · exact ⟨rfl, rfl⟩
  · exact ⟨rfl, rfl⟩

theorem launch_coasts (unmeasured : run.haveAngle = false) :
    Hands kind run.journal (run.launch world).run.journal ∧ Placed setup (run.launch world) := by
  have coasted : Hands kind run.journal (run.applyCoast world).2.journal := hands_applyCoast world run
  obtain ⟨same, angle⟩ := startConsumerTimer_keeps world ((run.applyCoast world).2.takeEvidence world)
  have timed : Hands kind run.journal
      (((run.applyCoast world).2.takeEvidence world).startConsumerTimer world).2.journal := by
    rw [same]
    exact coasted
  unfold launch
  dsimp only
  split_ifs
  · exact ⟨coasted.trans (disarm_coasts world _), trivial⟩
  · exact ⟨timed.trans (coastAndDisarm_coasts world _), trivial⟩
  · exact ⟨timed, angle.trans unmeasured⟩

/-- Before the loop the motor is handed Coast alone, and no angle is measured. -/
theorem start_coasts : Hands kind run.journal (run.start world setup).run.journal ∧
    Placed setup (run.start world setup) := by
  unfold start
  split
  · exact ⟨.refl _, trivial⟩
  · dsimp only
    split_ifs
    · exact ⟨.refl _, trivial⟩
    · exact ⟨.refl _, trivial⟩
    · exact ⟨disarm_coasts world _, trivial⟩
    · exact ⟨disarm_coasts world _, trivial⟩
    · exact ⟨disarm_coasts world _, trivial⟩
    · exact ⟨coastAndDisarm_coasts world _, trivial⟩
    · exact launch_coasts world setup ((run.later 5).opened setup _ _) rfl

theorem shutDown_coasts : Hands kind run.journal (run.shutDown world setup).2.2.journal := by
  have stopped : Hands kind run.journal (run.stopMotor world).2.journal :=
    (hands_applyCoast world run).trans (disarm_coasts world _)
  have judged : ∀ (run : RunState) (reason : UnsupportedReason) (diagnostic : Int32),
      (run.judge setup reason diagnostic).journal = run.journal := by
    intro run reason diagnostic
    unfold judge
    dsimp only
    split_ifs <;> rfl
  have same : (run.shutDown world setup).2.2.journal = (run.stopMotor world).2.journal := judged _ _ _
  rw [same]
  exact stopped

/-! ### A step -/

variable {setup run}

theorem placed_enter {epoch : UInt32} (unmeasured : Unmeasured epoch run) :
    Placed setup (enter world setup epoch run) := by
  have looked := still_stopForLatchedFailure world setup run
  unfold enter
  dsimp only
  split_ifs with beyond stopped
  · trivial
  · trivial
  · exact ⟨UInt32.not_le.mp beyond,
      unmeasured_of_still unmeasured (looked.trans (still_startApproach world _ _))⟩

theorem placed_await {work : EpochWork} (within : work.epoch < setup.epochs)
    (unmeasured : Unmeasured work.epoch run) : Placed setup (await world setup work run) := by
  have waited := still_awaitTick world setup run
  unfold await
  split
  · rename_i next turned
    rw [turned] at waited
    exact ⟨within, unmeasured_of_still unmeasured waited⟩
  · trivial
  · rename_i tick next turned
    rw [turned] at waited
    have released := still_release world setup next work.epoch tick
    split
    · trivial
    · rename_i release left passed
      rw [passed] at released
      exact ⟨within, unmeasured_of_still unmeasured (waited.trans released)⟩

theorem placed_close {work : EpochWork} (within : work.epoch < setup.epochs)
    (block : EncoderEpochBlock) (guardState : GuardState) (next : Option EpochCommandState) :
    Placed setup (close world setup work block guardState next run) := by
  unfold close
  dsimp only
  split_ifs
  · trivial
  · cases next with
    | none => trivial
    | some state => exact unmeasured_succ within
  · exact unmeasured_succ within

/-- What is handed to the motor at the end of an iteration was issued from the settled epoch. -/
theorem hands_finish {work : EpochWork} {release : EpochRelease} {drained : RunState}
    (unmeasured : Unmeasured work.epoch drained)
    (ended : run.drainSample world setup = (false, drained)) :
    Hands (fun handed => ∃ settled, Issued world setup ⟨.draining work release, run⟩ handed settled)
      drained.journal (finish world setup work release drained).run.journal := by
  unfold finish
  cases released : drained.assembler.release work.epoch.toUInt64 release.releaseUs with
  | mk block assembler =>
  have taken := quiet_withAssembler drained assembler
  cases block with
  | none => exact (taken.journal.trans (still_stopNow world _ _ _).journal).hands
  | some block =>
      have settledQuiet := quiet_settle world setup (drained.withAssembler assembler) work release
        (recordedBlock release block)
      obtain ⟨guardState, settled, settles⟩ : ∃ guardState settled,
          (drained.withAssembler assembler).settle world setup work release
            (recordedBlock release block) = (guardState, settled) := ⟨_, _, rfl⟩
      have found : settledAt world setup ⟨.draining work release, run⟩ =
          some ⟨drained.assembler, work, release, block, settled⟩ := by
        unfold settledAt
        dsimp only
        rw [ended]
        dsimp only
        rw [released]
        dsimp only
        rw [settles]
      have issued := hands_nextCommand world setup settled work.epoch
      obtain ⟨next, commanded, commands⟩ : ∃ next commanded,
          settled.nextCommand world setup work.epoch = (next, commanded) := ⟨_, _, rfl⟩
      have logged := calm_log world setup commanded work (recordedBlock release block) guardState
      have closed := journal_close world setup commanded work (recordedBlock release block) guardState
        next
      dsimp only
      rw [settles] at settledQuiet ⊢
      rw [commands] at issued
      dsimp only at settledQuiet issued ⊢
      rw [commands]
      refine ((taken.trans settledQuiet).journal.hands.trans ?_).trans
        (logged.1.journal.hands.trans closed.1.hands)
      refine issued.imp fun handed _ issues => ?_
      have full : setup.full = true := by
        unfold RunSetup.full
        rw [issues.full]
        rfl
      have same : block = drained.assembler.block work.epoch.toUInt64 release.releaseUs :=
        FixedEpochAssembler.block_of_release (congrArg Prod.fst released)
      have first : block.epochIndex = 0 → drained.haveAngle = false := by
        intro zero
        rw [same] at zero
        have epochZero : work.epoch.toUInt64 = 0 := zero
        exact unmeasured (UInt32.toNat_inj.mp (by simpa using congrArg UInt64.toNat epochZero))
      have angled : settled.haveAngle = true →
          hasFlag block.flags EpochAggregateValid = true ∧
            finAngleMilliDegreesFromUnwrappedQ16 block.meanUnwrappedCountsQ16 drained.zeroRaw =
              some settled.finAngle := by
        have measured := @angle_of_settle world setup (drained.withAssembler assembler) full work
          release block first
        rw [settles] at measured
        exact measured issues.clean
      have measured := fun (moves : handed.request.commandPermille ≠ 0) =>
        angled (issues.permits moves).1
      have valid := Bool.and_eq_true_iff.mp issues.valid
      refine ⟨_, found, issues.full, issues.clean, issues.going, issues.armed, valid.1, ?_,
        fun moves => ?_, fun moves => ?_, fun moves => (issues.permits moves).2⟩
      · have bound := of_decide_eq_true valid.2
        unfold kMaximumCommandPermille at bound
        rw [Int.abs_eq_natAbs]
        exact_mod_cast bound
      · rw [← FixedEpochAssembler.hasFlag_aggregateValid, ← same]
        exact (measured moves).1
      · rw [settledQuiet.zeroRaw]
        exact (measured moves).2

/-- What but Coast is handed to the motor in a step was issued from the epoch that it settles. -/
theorem hands_step {runner : Runner} (placed : Placed setup runner) :
    Hands (fun handed => ∃ settled, Issued world setup runner handed settled) runner.run.journal
        (step world setup runner).run.journal ∧
      Placed setup (step world setup runner) := by
  obtain ⟨stage, run⟩ := runner
  cases stage with
  | called => exact start_coasts world setup run
  | starting =>
      unfold step
      dsimp only
      split
      · exact ⟨.refl _, placed⟩
      · exact ⟨.refl _, fun _ => placed⟩
  | entering epoch =>
      exact ⟨(still_enter world setup run epoch).journal.hands, placed_enter world placed⟩
  | waiting work =>
      obtain ⟨within, unmeasured⟩ := placed
      exact ⟨(still_await world setup run work).journal.hands, placed_await world within unmeasured⟩
  | draining work release =>
      obtain ⟨within, unmeasured⟩ := placed
      obtain ⟨quiet, angle⟩ := quiet_drainSample world setup run
      show Hands _ _ (drain world setup work release run).run.journal ∧
        Placed setup (drain world setup work release run)
      unfold drain
      split
      · rename_i next taken
        rw [taken] at quiet angle
        exact ⟨quiet.journal.hands, within, fun first => angle.trans (unmeasured first)⟩
      · rename_i next ended
        rw [ended] at quiet angle
        refine ⟨quiet.journal.hands.trans (hands_finish world
          (fun first => angle.trans (unmeasured first)) ended), ?_⟩
        unfold finish
        dsimp only
        split
        · trivial
        · exact placed_close world within _ _ _
  | closing => exact ⟨shutDown_coasts world setup run, trivial⟩
  | returned result footer => exact ⟨.refl _, trivial⟩

theorem placed_after (journal : CommandJournal) (count : ℕ) :
    Placed setup (after world setup journal count) := by
  induction count with
  | zero => exact ⟨rfl, rfl⟩
  | succ count inductionHypothesis => exact (hands_step world inductionHypothesis).2

/-! ### After a stop -/

/-- The run is stopped, or its loop is left. -/
def Idle (runner : Runner) : Prop :=
  match runner.stage with
  | .called => False
  | .closing => True
  | .returned _ _ => True
  | _ => Stopped runner.run

theorem stopped_of_calm {next : RunState} (stopped : Stopped run) (calm : Calm run next) :
    Stopped next :=
  stopped.imp (fun error => calm.failed error ▸ error) calm.stopped

theorem idle_close {work : EpochWork} (stopped : Stopped run) (block : EncoderEpochBlock)
    (guardState : GuardState) (next : Option EpochCommandState) :
    Idle (close world setup work block guardState next run) := by
  have logged := stopped_of_calm stopped (calm_log world setup run work block guardState).1
  unfold close
  dsimp only
  split
  · trivial
  · rename_i going
    exact absurd logged going

theorem nextCommand_of_stopped (stopped : Stopped run) (epoch : UInt32) :
    run.nextCommand world setup epoch = (none, run) := by
  unfold nextCommand
  rw [if_neg]
  rintro ⟨-, clean, going⟩
  rcases stopped with error | stop
  · exact error clean
  · rw [stop] at going
    cases going

theorem idle_finish {work : EpochWork} {release : EpochRelease} (stopped : Stopped run) :
    Idle (finish world setup work release run) := by
  unfold finish
  dsimp only
  split
  · trivial
  · rename_i block _
    have settled := (quiet_withAssembler run
      (run.assembler.release work.epoch.toUInt64 release.releaseUs).2).trans
      (quiet_settle world setup _ work release (recordedBlock release block))
    rw [nextCommand_of_stopped world (stopped_of_calm stopped settled.toCalm)]
    exact idle_close world (stopped_of_calm stopped settled.toCalm) _ _ _

theorem idle_step {runner : Runner} (idle : Idle runner) : Idle (step world setup runner) := by
  obtain ⟨stage, run⟩ := runner
  cases stage with
  | called => exact idle.elim
  | starting =>
      unfold step
      dsimp only
      split
      · exact idle
      · exact idle
  | entering epoch =>
      have entered := stopped_of_calm idle (still_enter world setup run epoch).toCalm
      show Idle (enter world setup epoch run)
      revert entered
      unfold enter
      dsimp only
      split_ifs
      · exact fun _ => trivial
      · exact fun _ => trivial
      · exact id
  | waiting work =>
      have awaited := stopped_of_calm idle (still_await world setup run work).toCalm
      show Idle (await world setup work run)
      revert awaited
      unfold await
      split
      · exact id
      · exact fun _ => trivial
      · split
        · exact fun _ => trivial
        · exact id
  | draining work release =>
      have drained := stopped_of_calm idle (quiet_drainSample world setup run).1.toCalm
      show Idle (drain world setup work release run)
      unfold drain
      split
      · rename_i next taken
        rw [taken] at drained
        exact drained
      · rename_i next ended
        rw [ended] at drained
        exact idle_finish world drained
  | closing => trivial
  | returned result footer => trivial

/-- Nothing is issued from there. -/
theorem not_issued_of_idle {runner : Runner} {handed : HandedRequest} {settled : SettledEpoch}
    (idle : Idle runner) : ¬Issued world setup runner handed settled := by
  intro issued
  have settles := issued.settles
  obtain ⟨stage, run⟩ := runner
  cases stage with
  | draining work release =>
      have drained := stopped_of_calm idle (quiet_drainSample world setup run).1.toCalm
      unfold settledAt at settles
      dsimp only at settles
      split at settles
      · rename_i block assembler _ _
        obtain rfl := Option.some.inj settles
        have settled := (quiet_withAssembler (run.drainSample world setup).2 assembler).trans
          (quiet_settle world setup _ work release (recordedBlock release block))
        rcases stopped_of_calm drained settled.toCalm with error | stop
        · exact error issued.clean
        · exact Bool.false_ne_true (issued.going.symm.trans stop)
      · cases settles
  | called => cases settles
  | starting => cases settles
  | entering epoch => cases settles
  | waiting work => cases settles
  | closing => cases settles
  | returned result footer => cases settles

theorem idle_of_stopped {runner : Runner} (placed : Placed setup runner)
    (stopped : Stopped runner.run) : Idle runner := by
  obtain ⟨stage, run⟩ := runner
  cases stage with
  | called =>
      obtain ⟨clean, going⟩ := placed
      rcases stopped with error | stop
      · exact error clean
      · exact Bool.false_ne_true (going.symm.trans stop)
  | starting => exact stopped
  | entering epoch => exact stopped
  | waiting work => exact stopped
  | draining work release => exact stopped
  | closing => trivial
  | returned result footer => trivial

theorem idle_after_add {journal : CommandJournal} {count : ℕ}
    (idle : Idle (after world setup journal count)) (more : ℕ) :
    Idle (after world setup journal (count + more)) ∧
      Hands (fun _ => False) (after world setup journal count).run.journal
        (after world setup journal (count + more)).run.journal := by
  induction more with
  | zero => exact ⟨idle, .refl _⟩
  | succ more inductionHypothesis =>
      obtain ⟨stays, hands⟩ := inductionHypothesis
      have placed : Placed setup (after world setup journal (count + more)) :=
        placed_after world journal _
      exact ⟨idle_step world stays, hands.trans ((hands_step world placed).1.imp
        fun _ _ ⟨_, issued⟩ => not_issued_of_idle world stays issued)⟩

/-- In every run what but Coast is handed to the motor was issued from the epoch that was just
released, in a full run without an error; after an error or a qualification stop there is none, and
none in a rate check. -/
theorem drives_safely (world : World) (setup : RunSetup) (journal : CommandJournal) :
    (∀ count, Hands
      (fun handed => ∃ settled,
        Issued world setup (after world setup journal count) handed settled)
      (after world setup journal count).run.journal
      (after world setup journal (count + 1)).run.journal) ∧
    (∀ count more, Stopped (after world setup journal count).run →
      Hands (fun _ => False) (after world setup journal count).run.journal
        (after world setup journal (count + more)).run.journal) ∧
    (setup.runKind ≠ .full → ∀ count,
      Hands (fun _ => False) journal (after world setup journal count).run.journal) := by
  refine ⟨fun count => (hands_step world (placed_after world journal count)).1, ?_, ?_⟩
  · intro count more stopped
    exact (idle_after_add world (idle_of_stopped (placed_after world journal count) stopped) more).2
  · intro notFull count
    induction count with
    | zero => exact .refl _
    | succ count inductionHypothesis =>
        exact inductionHypothesis.trans ((hands_step world (placed_after world journal count)).1.imp
          fun _ _ ⟨_, issued⟩ => notFull issued.full)

end Runner

end MissionBoard.Characterization
