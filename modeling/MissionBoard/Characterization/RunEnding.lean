import MissionBoard.Characterization.RunFooter
import MissionBoard.Library.LeadsTo

/-!
Owns how `ProfileRunner::run` ends: with the motor at rest, without success when a stop was requested
before the last release, and after finitely many steps once a stop request stays.
-/

namespace MissionBoard.Characterization

/-! ### At rest -/

/-- The motor is disarmed, and Coast is what it was handed last. -/
structure AtRest (journal : CommandJournal) : Prop where
  unarmed : journal.armed = false
  coasting : journal.bound = true →
    ∃ handed ∈ journal.context.getLast?, handed.request = .toCoast

theorem CommandJournal.atRest_disarm (answer : ℕ → MotorApplyAnswer) (journal : CommandJournal)
    (nowUs : UInt64) : AtRest (journal.disarm answer nowUs).2 := by
  refine ⟨rfl, ?_⟩
  unfold disarm applyCoast
  cases there : journal.bound with
  | false =>
      intro bound
      exact absurd bound Bool.false_ne_true
  | true =>
      intro _
      exact ⟨_, List.getLast?_concat, rfl⟩

namespace Runner

open RunState

variable {world : World} {setup : RunSetup} {journal : CommandJournal}

/-- What is known of the motor once the run has returned -/
def RestAt (journal : CommandJournal) (runner : Runner) : Prop :=
  match runner.stage with
  | .called => runner.run.journal = journal
  | .returned result footer =>
      AtRest runner.run.journal ∨ runner.run.journal = journal ∧ footer = none ∧ result ≠ espOk
  | _ => True

theorem atRest_disarm (run : RunState) : AtRest (run.disarm world).2.journal :=
  CommandJournal.atRest_disarm _ _ _

theorem rest_start {run : RunState} (called : run.journal = journal) :
    RestAt journal (run.start world setup) := by
  rcases @start_cases world setup run with ⟨_, failed, same⟩ | ⟨_, _, _, -, same⟩ |
    ⟨_, -, same⟩ | ⟨-, epochZeroUs, zeroRaw, -, same⟩
  · rw [same]
    exact Or.inr ⟨called, rfl, failed⟩
  · rw [same]
    exact Or.inl (atRest_disarm _)
  · rw [same]
    exact Or.inl (atRest_disarm _)
  · rw [same]
    rcases @launch_cases world ((run.later 5).opened setup epochZeroUs zeroRaw) with
      ⟨_, -, launched⟩ | ⟨_, -, launched⟩ | ⟨-, launched⟩
    · rw [launched]
      exact Or.inl (atRest_disarm _)
    · rw [launched]
      exact Or.inl (atRest_disarm _)
    · rw [launched]
      trivial

theorem rest_step {runner : Runner} (rest : RestAt journal runner) :
    RestAt journal (step world setup runner) := by
  have loops : InLoop runner → RestAt journal (step world setup runner) := by
    intro loop
    have going := @loop_step world setup runner loop
    unfold Going at going
    unfold RestAt
    split
    · rename_i called
      rw [called] at going
      exact going.elim
    · rename_i returned
      rw [returned] at going
      exact going.elim
    · trivial
  obtain ⟨stage, run⟩ := runner
  cases stage with
  | called => exact rest_start rest
  | starting => exact loops trivial
  | entering epoch => exact loops trivial
  | waiting work => exact loops trivial
  | draining work release => exact loops trivial
  | closing =>
      left
      have judged : ∀ (run : RunState) (reason : UnsupportedReason) (diagnostic : Int32),
          (run.judge setup reason diagnostic).journal = run.journal := by
        intro run reason diagnostic
        unfold judge
        dsimp only
        split_ifs <;> rfl
      have same : (run.shutDown world setup).2.2.journal = (run.stopMotor world).2.journal :=
        judged _ _ _
      show AtRest (run.shutDown world setup).2.2.journal
      rw [same]
      exact atRest_disarm _
  | returned result footer => exact rest

theorem rest_after (world : World) (setup : RunSetup) (journal : CommandJournal) (count : ℕ) :
    RestAt journal (after world setup journal count) := by
  induction count with
  | zero => exact rfl
  | succ count inductionHypothesis => exact rest_step inductionHypothesis

/-- Every run that returns leaves the motor at rest, unless it was refused before it touched anything;
then it returns an error and has no file. -/
theorem returns_at_rest (world : World) (setup : RunSetup) (journal : CommandJournal) (count : ℕ)
    {result : Int32} {footer : Option LogFooter}
    (returned : (after world setup journal count).stage = .returned result footer) :
    AtRest (after world setup journal count).run.journal ∨
      (after world setup journal count).run.journal = journal ∧ footer = none ∧
        result ≠ espOk := by
  have rest := rest_after world setup journal count
  unfold RestAt at rest
  rw [returned] at rest
  exact rest

theorem returns_at_rest_quiet :
    AtRest (after quietWorld quietSetup quietJournal 7).run.journal := by
  rcases returns_at_rest quietWorld quietSetup quietJournal 7 returned_quiet with rest | refused
  · exact rest
  · exact absurd rfl refused.2.2

/-! ### A stop request -/

/-- The run is still to release an epoch, so that it is still to look for a stop request. -/
def BeforeLastRelease (setup : RunSetup) (runner : Runner) : Prop :=
  match runner.stage with
  | .called => True
  | .starting => True
  | .entering epoch => epoch < setup.epochs
  | .waiting _ => True
  | .draining work _ => work.epoch + 1 < setup.epochs
  | .closing => False
  | .returned _ _ => False

/-- The run is still to look for a stop request, or it has ended for one. -/
def Ending (setup : RunSetup) (runner : Runner) : Prop :=
  match runner.stage with
  | .returned result footer =>
      (∀ written, footer = some written → written.completion ≠ .normal) ∧
        (setup.runKind = .full → result ≠ espOk)
  | _ => BeforeLastRelease setup runner ∨ Stopped runner.run

theorem ending_of_before {runner : Runner} (before : BeforeLastRelease setup runner) :
    Ending setup runner := by
  obtain ⟨stage, run⟩ := runner
  cases stage with
  | returned result footer => exact before.elim
  | _ => exact Or.inl before

variable {run : RunState}

/-- A run that was stopped does not end as one through all its epochs. -/
theorem unsupported_of_stopped (stopped : Stopped run)
    (completed : (run.shutDown world setup).2.1.completion ≠ .aborted) :
    setup.runKind ≠ .full ∧ (run.shutDown world setup).2.1.completion = .unsupported := by
  obtain ⟨motor, sampled, overflows, diagnostic, kept, ok, written, -, -⟩ :=
    shutDown_completed completed
  obtain ⟨clean, supported, going⟩ := judge_ok ok
  have some : unsupportedReason (motor.closingStatistics sampled overflows) ≠ .none := by
    intro none
    rcases stopped with error | stop
    · exact error (kept.clean clean)
    · exact Bool.false_ne_true ((going none).symm.trans (kept.stop.trans stop))
  rw [written]
  refine ⟨fun full => some (supported ?_), (footer_state _ _ _ supported).2 some |>.1⟩
  unfold RunSetup.full
  rw [full]
  rfl

theorem ending_shutDown (stopped : Stopped run) :
    Ending setup (step world setup ⟨.closing, run⟩) := by
  refine ⟨fun written there normal => ?_, fun full ok => ?_⟩
  · obtain rfl := Option.some.inj there
    have through : (run.shutDown world setup).2.1.completion = .normal := normal
    have unsupported := (@unsupported_of_stopped world setup run stopped (by
      rw [through]
      exact CompletionCode.noConfusion)).2
    rw [through] at unsupported
    cases unsupported
  · exact (unsupported_of_stopped stopped (completed_shutDown ok)).1 full

/-- A stop request that is there when the tick is there stops the run. -/
theorem stopped_of_release_some {epoch : UInt32} {tick : ConsumerTick} {release : EpochRelease}
    (reason : run.firstError = espOk → run.lastAbortReason = .none)
    (requested : ∀ moment, run.moment ≤ moment → (world moment).stopRequested = true)
    (released : (run.release world setup epoch tick).1 = some release) :
    Stopped (run.release world setup epoch tick).2 := by
  have looked := still_stopForLatchedFailure world setup run
  unfold RunState.release at released ⊢
  dsimp only at released ⊢
  split at released
  · cases released
  · rename_i latch
    rw [if_neg latch]
    have later := looked.trans (still_later (run.stopForLatchedFailure world setup).2 3)
    have asked : ∀ releaseUs, (((run.stopForLatchedFailure world setup).2.later 3).checkStop world
        releaseUs).firstError ≠ espOk := by
      intro releaseUs
      unfold checkStop
      split
      · exact firstError_stopForFatal world _ _ _ _
      · rename_i unasked
        intro clean
        have none := (later.reason clean).trans (reason (later.toCalm.clean clean))
        exact unasked ⟨requested _ later.moment, none⟩
    have judged : ∀ (run : RunState) (late : Bool) (releaseUs : UInt64), run.firstError ≠ espOk →
        Stopped ((run.missDeadline world late releaseUs).checkWriter world releaseUs) := by
      intro run late releaseUs error
      have still := (still_missDeadline world run late releaseUs).trans
        (still_checkWriter world _ releaseUs)
      exact stopped_of_calm (Or.inl error) still.toCalm
    split at released
    · cases released
    · rename_i early
      rw [if_neg early]
      split at released
      · cases released
      · rename_i written
        rw [if_neg written]
        exact judged _ _ _ (asked _)

theorem stopped_of_applies {next : RunState} (stopped : Stopped run) (applies : Applies run next) :
    Stopped next :=
  stopped.imp (fun error clean => error (applies.reason clean).1) applies.stopped

/-- An iteration takes time; at its end the run is stopped, or its next epoch is still to be released
unless it has released its last one. -/
theorem ending_finish {work : EpochWork} {release : EpochRelease} :
    (work.epoch + 1 < setup.epochs ∨ Stopped run →
      Ending setup (finish world setup work release run)) ∧
      run.moment ≤ (finish world setup work release run).run.moment := by
  unfold finish
  dsimp only
  split
  · have stopped := still_stopNow world (run.withAssembler
      (run.assembler.release work.epoch.toUInt64 release.releaseUs).2) espErrInvalidSize
      .validationError
    exact ⟨fun _ => Or.inr (Or.inl (firstError_stopNow world _ _ _)), stopped.moment⟩
  · rename_i block _
    have settles := (quiet_withAssembler run (run.assembler.release work.epoch.toUInt64
      release.releaseUs).2).trans (quiet_settle world setup _ work release
        (recordedBlock release block))
    have applies := settles.moment.trans (applies_nextCommand world setup ((run.withAssembler
      (run.assembler.release work.epoch.toUInt64 release.releaseUs).2).settle world setup work
        release (recordedBlock release block)).2 work.epoch).moment
    have stops : Stopped run → Stopped (((run.withAssembler (run.assembler.release
        work.epoch.toUInt64 release.releaseUs).2).settle world setup work release
          (recordedBlock release block)).2.nextCommand world setup work.epoch).2 :=
      fun stopped => stopped_of_applies (stopped_of_calm stopped settles.toCalm)
        (applies_nextCommand world setup _ work.epoch)
    generalize ((run.withAssembler (run.assembler.release work.epoch.toUInt64
      release.releaseUs).2).settle world setup work release (recordedBlock release
        block)).1 = guardState
    generalize ((run.withAssembler (run.assembler.release work.epoch.toUInt64
      release.releaseUs).2).settle world setup work release (recordedBlock release
        block)).2.nextCommand world setup work.epoch = commanding at applies stops ⊢
    obtain ⟨next, commanded⟩ := commanding
    have logged := (calm_log world setup commanded work (recordedBlock release block) guardState).1
    have moment := applies.trans logged.moment
    unfold close
    dsimp only
    split_ifs with stopped more
    · exact ⟨fun _ => Or.inr stopped, moment⟩
    · cases next with
      | none =>
          exact ⟨fun _ => Or.inr (Or.inl (firstError_stopNow world _ _ _)),
            moment.trans (still_stopNow world _ _ _).moment⟩
      | some state => exact ⟨fun _ => Or.inl more, moment⟩
    · refine ⟨fun before => ?_, moment⟩
      rcases before with further | stop
      · exact absurd further more
      · exact absurd (stopped_of_calm (stops stop) logged) stopped

/-- The run goes on no earlier. -/
theorem moment_step {runner : Runner} (loop : InLoop runner) :
    runner.run.moment ≤ (step world setup runner).run.moment := by
  obtain ⟨stage, run⟩ := runner
  cases stage with
  | called => exact loop.elim
  | starting =>
      unfold step
      dsimp only
      split <;> exact Nat.le_succ _
  | entering epoch => exact (still_enter world setup run epoch).moment
  | waiting work => exact (still_await world setup run work).moment
  | draining work release =>
      have quiet := (quiet_drainSample world setup run).1
      show run.moment ≤ (drain world setup work release run).run.moment
      unfold drain
      split
      · rename_i next taken
        rw [taken] at quiet
        exact quiet.moment
      · rename_i next ended
        rw [ended] at quiet
        exact Nat.le_trans quiet.moment ending_finish.2
  | closing => exact loop.elim
  | returned result footer => exact loop.elim

theorem ending_refused {error : Int32} {fileOpen : Bool} (failed : error ≠ espOk) :
    Ending setup (run.refused error fileOpen) := by
  refine ⟨fun written there normal => ?_, fun _ => failed⟩
  cases fileOpen with
  | false => cases there
  | true =>
      obtain rfl := Option.some.inj there
      cases normal

theorem ending_start : Ending setup (run.start world setup) := by
  rcases @start_cases world setup run with ⟨_, failed, same⟩ | ⟨_, _, _, failed, same⟩ |
    ⟨_, failed, same⟩ | ⟨-, epochZeroUs, zeroRaw, -, same⟩
  · rw [same]
    exact ending_refused failed
  · rw [same]
    exact ending_refused failed
  · rw [same]
    exact ending_refused failed
  · rw [same]
    rcases @launch_cases world ((run.later 5).opened setup epochZeroUs zeroRaw) with
      ⟨_, failed, launched⟩ | ⟨_, failed, launched⟩ | ⟨-, launched⟩
    · rw [launched]
      exact ending_refused failed
    · rw [launched]
      exact ending_refused failed
    · rw [launched]
      exact Or.inl trivial

theorem ending_step {runner : Runner} (recording : RecordingAt setup runner)
    (requested : InLoop runner →
      ∀ moment, runner.run.moment ≤ moment → (world moment).stopRequested = true)
    (ending : Ending setup runner) : Ending setup (step world setup runner) := by
  obtain ⟨stage, run⟩ := runner
  cases stage with
  | called => exact ending_start
  | starting =>
      unfold step
      dsimp only
      split
      · exact Or.inl trivial
      · exact Or.inl recording.1
  | entering epoch =>
      have latched := @stopped_of_latched world setup run
      show Ending setup (enter world setup epoch run)
      unfold enter
      dsimp only
      split_ifs with beyond stopped
      · rcases ending with within | stop
        · exact absurd within (UInt32.not_lt.mpr beyond)
        · exact Or.inr stop
      · exact Or.inr (latched stopped)
      · exact Or.inl trivial
  | waiting work =>
      obtain ⟨-, inEpoch, -, -⟩ := recording
      have waited := still_awaitTick world setup run
      have stopped := @stopped_of_awaitTick world setup run
      show Ending setup (await world setup work run)
      unfold await
      split
      · exact Or.inl trivial
      · rename_i next turned
        rw [turned] at stopped
        exact Or.inr (stopped rfl)
      · rename_i tick next turned
        rw [turned] at waited
        have reason := (inEpoch.of_still waited).reason
        have left := @stopped_of_release world setup next work.epoch reason tick
        have taken := fun release => @stopped_of_release_some world setup next work.epoch tick
          release reason (fun moment after => requested trivial moment (waited.moment.trans after))
        split
        · rename_i last ended
          rw [ended] at left
          exact Or.inr (left rfl)
        · rename_i release last passed
          rw [passed] at taken
          exact Or.inr (taken release rfl)
  | draining work release =>
      have quiet := (quiet_drainSample world setup run).1
      have kept : work.epoch + 1 < setup.epochs ∨ Stopped (run.drainSample world setup).2 :=
        ending.imp id fun stop => stopped_of_calm stop quiet.toCalm
      show Ending setup (drain world setup work release run)
      unfold drain
      split
      · rename_i next taken
        rw [taken] at kept
        exact kept
      · rename_i next ended
        rw [ended] at kept
        exact ending_finish.1 kept
  | closing =>
      rcases ending with none | stop
      · exact none.elim
      · exact ending_shutDown stop
  | returned result footer => exact ending

/-- While the run is to go on, it is no earlier than this. -/
def NotBefore (bound : ℕ) (runner : Runner) : Prop :=
  match runner.stage with
  | .closing => True
  | .returned _ _ => True
  | _ => bound ≤ runner.run.moment

theorem notBefore_of_loop {bound : ℕ} {runner : Runner} (since : NotBefore bound runner)
    (loop : InLoop runner) : bound ≤ runner.run.moment := by
  obtain ⟨stage, run⟩ := runner
  cases stage with
  | called => exact loop.elim
  | closing => exact loop.elim
  | returned result footer => exact loop.elim
  | _ => exact since

theorem notBefore_of_le {bound : ℕ} {runner : Runner} (since : bound ≤ runner.run.moment) :
    NotBefore bound runner := by
  unfold NotBefore
  split <;> trivial

theorem notBefore_start {bound : ℕ} (since : bound ≤ run.moment) :
    NotBefore bound (run.start world setup) := by
  rcases @start_cases world setup run with ⟨_, -, same⟩ | ⟨_, _, _, -, same⟩ | ⟨_, -, same⟩ |
    ⟨-, epochZeroUs, zeroRaw, -, same⟩
  · rw [same]
    trivial
  · rw [same]
    trivial
  · rw [same]
    trivial
  · rcases @launch_cases world ((run.later 5).opened setup epochZeroUs zeroRaw) with
      ⟨_, -, launched⟩ | ⟨_, -, launched⟩ | ⟨-, launched⟩
    · rw [same, launched]
      trivial
    · rw [same, launched]
      trivial
    · rw [same, launched]
      have later : bound ≤ run.moment + 5 + 1 + 2 + 1 + 4 := by omega
      exact later

theorem notBefore_step {bound : ℕ} {runner : Runner} (since : NotBefore bound runner) :
    NotBefore bound (step world setup runner) := by
  have loops : InLoop runner → NotBefore bound (step world setup runner) := fun loop =>
    notBefore_of_le ((notBefore_of_loop since loop).trans (moment_step loop))
  obtain ⟨stage, run⟩ := runner
  cases stage with
  | called => exact notBefore_start since
  | closing => trivial
  | returned result footer => trivial
  | _ => exact loops trivial

/-- A stop request that stays prevails: when it is there while the run is still to release an epoch, the
run does not end as one through all its epochs, and a full run returns an error. -/
theorem stop_request_prevails (world : World) (setup : RunSetup) (journal : CommandJournal)
    (count more : ℕ) (before : BeforeLastRelease setup (after world setup journal count))
    (requested : ∀ moment, (after world setup journal count).run.moment ≤ moment →
      (world moment).stopRequested = true)
    {result : Int32} {footer : Option LogFooter}
    (returned : (after world setup journal (count + more)).stage = .returned result footer) :
    (∀ written, footer = some written → written.completion ≠ .normal) ∧
      (setup.runKind = .full → result ≠ espOk) := by
  have ending : Ending setup (after world setup journal (count + more)) ∧
      NotBefore (after world setup journal count).run.moment
        (after world setup journal (count + more)) := by
    clear returned
    induction more with
    | zero =>
        exact ⟨ending_of_before before, notBefore_of_le (Nat.le_refl _)⟩
    | succ more inductionHypothesis =>
        obtain ⟨ending, since⟩ := inductionHypothesis
        refine ⟨?_, notBefore_step since⟩
        exact ending_step (recording_after world setup journal (count + more))
          (fun loop moment after => requested moment ((notBefore_of_loop since loop).trans after))
          ending
  have last := ending.1
  unfold Ending at last
  rw [returned] at last
  exact last

/-- The quiet world with a stop request that is there from the call on -/
def askedWorld : World := fun moment => { quietWorld moment with stopRequested := true }

/-- The footer of a full run in that world -/
def askedFooter : LogFooter :=
  match (after askedWorld { quietSetup with runKind := .full } quietJournal 6).stage with
  | .returned _ (some footer) => footer
  | _ => {}

theorem stop_request_prevails_asked :
    (after askedWorld { quietSetup with runKind := .full } quietJournal 6).stage =
        .returned espErrInvalidState (some askedFooter) ∧
      askedFooter.completion ≠ .normal := by
  have returned : (after askedWorld { quietSetup with runKind := .full } quietJournal 6).stage =
      .returned espErrInvalidState (some askedFooter) := rfl
  exact ⟨returned, (stop_request_prevails askedWorld _ quietJournal 0 6 trivial
    (fun _ _ => rfl) returned).1 askedFooter rfl⟩

/-! ### Every run returns -/

/-- How far a turn of the wait for the tick goes -/
def kWaitTurn : ℕ := 5

/-- What a run waits for comes. The clock reaches the start of epoch zero, the sampler runs out of samples,
and a tick or a stop request stays for two turns of the wait. -/
structure Obliging (world : World) : Prop where
  clock : ∀ moment, ∃ later, moment ≤ later ∧
    (world 1).nowUs + kRunStartLeadUs ≤ (world later).nowUs
  sampler : ∀ moment, ∃ later, moment ≤ later ∧ (world later).sample = none
  tick : ∀ moment, ∃ later, moment ≤ later ∧
    ((∀ read, later ≤ read → read < later + 2 * kWaitTurn → (world read).tick.isSome) ∨
      ∀ read, later ≤ read → read < later + 2 * kWaitTurn → (world read).stopRequested = true)

/-- A turn of the wait that begins here ends it. -/
def TurnReady (world : World) (moment : ℕ) : Prop :=
  (world (moment + 1)).tick.isSome ∨ (world (moment + 4)).stopRequested = true

theorem Obliging.window (obliging : Obliging world) (moment : ℕ) :
    ∃ later, moment ≤ later ∧
      ∀ read, later ≤ read → read < later + kWaitTurn → TurnReady world read := by
  obtain ⟨later, after, stays⟩ := obliging.tick moment
  refine ⟨later, after, fun read from_ before => ?_⟩
  unfold kWaitTurn at *
  rcases stays with ticking | stopping
  · exact Or.inl (ticking _ (by omega) (by omega))
  · exact Or.inr (stopping _ (by omega) (by omega))

theorem moment_of_unlatched (unlatched : (run.stopForLatchedFailure world setup).1 = false) :
    (run.stopForLatchedFailure world setup).2 = run.later 2 := by
  unfold stopForLatchedFailure at unlatched ⊢
  dsimp only at unlatched ⊢
  split_ifs at unlatched ⊢
  rfl

/-- A turn that goes on has read neither a tick nor a stop request. -/
theorem again_of_awaitTick (again : (run.awaitTick world setup).1 = .again) :
    ¬TurnReady world run.moment ∧
      (run.awaitTick world setup).2.moment = run.moment + kWaitTurn := by
  have looked := @moment_of_unlatched world setup (run.later 2)
  unfold awaitTick at again ⊢
  split at again
  · cases again
  · rename_i overflow
    rw [if_neg overflow]
    split at again
    · cases again
    · rename_i none
      dsimp only at again ⊢
      split_ifs at again with stopped requested
      rw [Bool.not_eq_true] at stopped requested
      rw [looked stopped] at requested ⊢
      refine ⟨?_, ?_⟩
      · rintro (ticked | asked)
        · rw [none] at ticked
          cases ticked
        · exact Bool.false_ne_true (requested.symm.trans asked)
      · rw [if_neg (ne_true_of_eq_false stopped), if_neg (ne_true_of_eq_false requested)]
        rfl

/-- A sample is taken at the next moment. -/
theorem taken_of_drainSample (taken : (run.drainSample world setup).1 = true) :
    (world run.moment).sample ≠ none ∧
      (run.drainSample world setup).2.moment = run.moment + 1 := by
  unfold drainSample at taken ⊢
  split at taken
  · cases taken
  · rename_i raw there
    rw [there]
    dsimp only at taken ⊢
    split_ifs at taken ⊢
    exact ⟨Option.some_ne_none raw, rfl⟩

/-- What a run has still to do -/
def rankOf (setup : RunSetup) (runner : Runner) : ℕ :=
  match runner.stage with
  | .called => 3 * setup.epochs.toNat + 4
  | .starting => 3 * setup.epochs.toNat + 3
  | .entering epoch => 3 * (setup.epochs.toNat - epoch.toNat) + 2
  | .waiting work => 3 * (setup.epochs.toNat - work.epoch.toNat) + 1
  | .draining work _ => 3 * (setup.epochs.toNat - work.epoch.toNat)
  | .closing => 1
  | .returned _ _ => 0

theorem stage_finish (work : EpochWork) (release : EpochRelease) :
    (finish world setup work release run).stage = .closing ∨
      (finish world setup work release run).stage = .entering (work.epoch + 1) := by
  unfold finish
  dsimp only
  split
  · exact Or.inl rfl
  · unfold close
    dsimp only
    split_ifs
    · exact Or.inl rfl
    · split
      · exact Or.inl rfl
      · exact Or.inr rfl
    · exact Or.inr rfl

theorem rank_finish {work : EpochWork} (within : work.epoch < setup.epochs)
    (release : EpochRelease) :
    rankOf setup (finish world setup work release run) <
      3 * (setup.epochs.toNat - work.epoch.toNat) := by
  have next : (work.epoch + 1).toNat = work.epoch.toNat + 1 := by
    have small := setup.epochs.toNat_lt
    have least := UInt32.lt_iff_toNat_lt.mp within
    rw [UInt32.toNat_add, UInt32.toNat_one]
    omega
  have least := UInt32.lt_iff_toNat_lt.mp within
  unfold rankOf
  rcases @stage_finish world setup run work release with closing | entering
  · rw [closing]
    show 1 < _
    omega
  · rw [entering]
    show 3 * (setup.epochs.toNat - (work.epoch + 1).toNat) + 2 < _
    omega

theorem rank_enter (epoch : UInt32) :
    rankOf setup (enter world setup epoch run) <
      3 * (setup.epochs.toNat - epoch.toNat) + 2 := by
  unfold enter
  dsimp only
  split_ifs
  · show 1 < _
    omega
  · show 1 < _
    omega
  · exact Nat.lt_succ_self _

theorem rank_start : rankOf setup (run.start world setup) < 3 * setup.epochs.toNat + 4 := by
  rcases @start_cases world setup run with ⟨_, -, same⟩ | ⟨_, _, _, -, same⟩ | ⟨_, -, same⟩ |
    ⟨-, epochZeroUs, zeroRaw, -, same⟩
  · rw [same]
    exact Nat.succ_pos _
  · rw [same]
    exact Nat.succ_pos _
  · rw [same]
    exact Nat.succ_pos _
  · rcases @launch_cases world ((run.later 5).opened setup epochZeroUs zeroRaw) with
      ⟨_, -, launched⟩ | ⟨_, -, launched⟩ | ⟨-, launched⟩
    · rw [same, launched]
      exact Nat.succ_pos _
    · rw [same, launched]
      exact Nat.succ_pos _
    · rw [same, launched]
      exact Nat.lt_succ_self _

/-- The run that is to start waits for the time that it has set at its call. -/
def ZeroAt (world : World) (runner : Runner) : Prop :=
  match runner.stage with
  | .called => runner.run.moment = 0
  | .starting => runner.run.epochZeroUs = (world 1).nowUs + kRunStartLeadUs
  | _ => True

theorem zero_start (called : run.moment = 0) : ZeroAt world (run.start world setup) := by
  rcases @start_cases world setup run with ⟨_, -, same⟩ | ⟨_, _, _, -, same⟩ | ⟨_, -, same⟩ |
    ⟨-, epochZeroUs, zeroRaw, zero, same⟩
  · rw [same]
    trivial
  · rw [same]
    trivial
  · rw [same]
    trivial
  · rcases @launch_cases world ((run.later 5).opened setup epochZeroUs zeroRaw) with
      ⟨_, -, launched⟩ | ⟨_, -, launched⟩ | ⟨-, launched⟩
    · rw [same, launched]
      trivial
    · rw [same, launched]
      trivial
    · rw [called] at zero
      rw [same, launched]
      exact zero

theorem zero_step {runner : Runner} (zero : ZeroAt world runner) :
    ZeroAt world (step world setup runner) := by
  obtain ⟨stage, run⟩ := runner
  cases stage with
  | called => exact zero_start zero
  | starting =>
      unfold step
      dsimp only
      split
      · exact zero
      · trivial
  | entering epoch =>
      show ZeroAt world (enter world setup epoch run)
      unfold enter
      dsimp only
      split_ifs <;> trivial
  | waiting work =>
      show ZeroAt world (await world setup work run)
      unfold await
      split
      · trivial
      · trivial
      · split <;> trivial
  | draining work release =>
      show ZeroAt world (drain world setup work release run)
      unfold drain
      split
      · trivial
      · unfold ZeroAt
        rcases @stage_finish world setup _ work release with closing | entering
        · rw [closing]
          trivial
        · rw [entering]
          trivial
  | closing => trivial
  | returned result footer => exact zero

theorem zero_after (world : World) (setup : RunSetup) (journal : CommandJournal) (count : ℕ) :
    ZeroAt world (after world setup journal count) := by
  induction count with
  | zero => rfl
  | succ count inductionHypothesis => exact zero_step inductionHypothesis

theorem starting_leads (obliging : Obliging world) :
    LeadsTo (after world setup journal) (fun runner => runner.stage = .starting)
      fun runner => rankOf setup runner < 3 * setup.epochs.toNat + 3 := by
  refine LeadsTo.of_window (fun runner => runner.run.moment)
    (fun read => (world 1).nowUs + kRunStartLeadUs ≤ (world read).nowUs) 1 ?_ ?_
  · intro index starting
    have zero := zero_after world setup journal index
    show _ < _ ∨ _
    rw [after]
    generalize after world setup journal index = runner at starting zero ⊢
    obtain ⟨stage, run⟩ := runner
    obtain rfl : stage = .starting := starting
    have start : run.epochZeroUs = (world 1).nowUs + kRunStartLeadUs := zero
    unfold step
    dsimp only
    rw [start]
    split_ifs with early
    · exact Or.inr ⟨rfl, UInt64.not_le.mpr early, Nat.lt_succ_self _, Nat.le_refl _⟩
    · exact Or.inl (Nat.lt_succ_self _)
  · intro moment
    obtain ⟨later, after, reached⟩ := obliging.clock moment
    refine ⟨later, after, fun read from_ before => ?_⟩
    obtain rfl : read = later := by omega
    exact reached

theorem waiting_leads (obliging : Obliging world) (work : EpochWork) :
    LeadsTo (after world setup journal) (fun runner => runner.stage = .waiting work)
      fun runner => rankOf setup runner < 3 * (setup.epochs.toNat - work.epoch.toNat) + 1 := by
  refine LeadsTo.of_window (fun runner => runner.run.moment) (TurnReady world) kWaitTurn ?_
    obliging.window
  intro index waiting
  have recording := recording_after world setup journal index
  show _ < _ ∨ _
  rw [after]
  generalize after world setup journal index = runner at waiting recording ⊢
  obtain ⟨stage, run⟩ := runner
  obtain rfl : stage = .waiting work := waiting
  have within := UInt32.lt_iff_toNat_lt.mp recording.1
  have again := @again_of_awaitTick world setup run
  show rankOf setup (await world setup work run) < _ ∨ (await world setup work run).stage = _ ∧ _ ∧
    run.moment < (await world setup work run).run.moment ∧
    (await world setup work run).run.moment ≤ run.moment + kWaitTurn
  unfold await
  split
  · rename_i next turned
    rw [turned] at again
    obtain ⟨unready, moved⟩ := again rfl
    have turn : next.moment = run.moment + kWaitTurn := moved
    refine Or.inr ⟨rfl, unready, ?_, ?_⟩
    · show run.moment < next.moment
      rw [turn]
      exact Nat.lt_add_of_pos_right (Nat.succ_pos _)
    · exact Nat.le_of_eq turn
  · refine Or.inl ?_
    show 1 < _
    omega
  · refine Or.inl ?_
    split
    · show 1 < _
      omega
    · exact Nat.lt_succ_self _

theorem draining_leads (obliging : Obliging world) (work : EpochWork) (release : EpochRelease) :
    LeadsTo (after world setup journal) (fun runner => runner.stage = .draining work release)
      fun runner => rankOf setup runner < 3 * (setup.epochs.toNat - work.epoch.toNat) := by
  refine LeadsTo.of_window (fun runner => runner.run.moment)
    (fun read => (world read).sample = none) 1 ?_ ?_
  · intro index draining
    have recording := recording_after world setup journal index
    show _ < _ ∨ _
    rw [after]
    generalize after world setup journal index = runner at draining recording ⊢
    obtain ⟨stage, run⟩ := runner
    obtain rfl : stage = .draining work release := draining
    have within := recording.1
    show rankOf setup (drain world setup work release run) < _ ∨
      (drain world setup work release run).stage = _ ∧ _ ∧
        run.moment < (drain world setup work release run).run.moment ∧
        (drain world setup work release run).run.moment ≤ run.moment + 1
    unfold drain
    split
    · rename_i next taken
      have read := @taken_of_drainSample world setup run
      rw [taken] at read
      obtain ⟨some, moved⟩ := read rfl
      have turn : next.moment = run.moment + 1 := moved
      exact Or.inr ⟨rfl, some, turn ▸ Nat.lt_succ_self _, Nat.le_of_eq turn⟩
    · exact Or.inl (rank_finish within release)
  · intro moment
    obtain ⟨later, after, empty⟩ := obliging.sampler moment
    refine ⟨later, after, fun read from_ before => ?_⟩
    obtain rfl : read = later := by omega
    exact empty

def Returned (runner : Runner) : Prop :=
  ∃ result footer, runner.stage = .returned result footer

theorem rank_leads (obliging : Obliging world) (bound : ℕ) :
    LeadsTo (after world setup journal) (fun runner => rankOf setup runner = bound)
      fun runner => Returned runner ∨ rankOf setup runner < bound := by
  intro index same
  have lower : (∃ later, index ≤ later ∧ rankOf setup (after world setup journal later) < bound) →
      ∃ later, index ≤ later ∧ (Returned (after world setup journal later) ∨
        rankOf setup (after world setup journal later) < bound) :=
    fun ⟨later, further, less⟩ => ⟨later, further, Or.inr less⟩
  have next : rankOf setup (step world setup (after world setup journal index)) < bound →
      ∃ later, index ≤ later ∧ rankOf setup (after world setup journal later) < bound :=
    fun less => ⟨index + 1, Nat.le_succ index, less⟩
  have starting := @starting_leads world setup journal obliging index
  have waiting := fun work => @waiting_leads world setup journal obliging work index
  have draining := fun work release =>
    @draining_leads world setup journal obliging work release index
  unfold rankOf at same
  unfold step at next
  cases stage : (after world setup journal index).stage with
  | called =>
      rw [stage] at same next
      exact lower (next (same ▸ rank_start))
  | starting =>
      rw [stage] at same
      exact lower (same ▸ starting stage)
  | entering epoch =>
      rw [stage] at same next
      exact lower (next (same ▸ rank_enter epoch))
  | waiting work =>
      rw [stage] at same
      exact lower (same ▸ waiting work stage)
  | draining work release =>
      rw [stage] at same
      exact lower (same ▸ draining work release stage)
  | closing =>
      rw [stage] at same next
      exact lower (next (same ▸ Nat.one_pos))
  | returned result footer => exact ⟨index, Nat.le_refl index, Or.inl ⟨result, footer, stage⟩⟩

/-- Every run returns when what it waits for comes, whatever fails in it. -/
theorem run_returns (world : World) (setup : RunSetup) (journal : CommandJournal)
    (obliging : Obliging world) :
    ∃ count result footer, (after world setup journal count).stage = .returned result footer := by
  obtain ⟨count, -, result, footer, returned⟩ := LeadsTo.of_rank (rankOf setup)
    (@rank_leads world setup journal obliging) 0
  exact ⟨count, result, footer, returned⟩

theorem run_returns_quiet : ∃ count result footer,
    (after quietWorld quietSetup quietJournal count).stage = .returned result footer := by
  refine run_returns quietWorld quietSetup quietJournal ⟨fun moment => ?_, fun moment => ?_,
    fun moment => ?_⟩
  · refine ⟨moment + 13, Nat.le_add_right moment 13, ?_⟩
    have late : ¬moment + 13 < 13 := by omega
    unfold quietWorld
    dsimp only [Moment.nowUs]
    rw [if_neg late]
    decide
  · exact ⟨moment, Nat.le_refl moment, rfl⟩
  · exact ⟨moment, Nat.le_refl moment, Or.inl fun _ _ _ => rfl⟩

end Runner

end MissionBoard.Characterization
