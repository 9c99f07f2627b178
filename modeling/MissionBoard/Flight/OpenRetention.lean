import Mathlib.Tactic.MkIffOfInductiveProp
import MissionBoard.Flight.LiftoffDetection
import MissionBoard.Runtime.OpenRequests

/-!
Owns the retention of the open request: once the clock of `safetyTask` has passed a
deadline, every decision of the task in that epoch asks for deployment, unless a request was
placed or a snapshot reported the deployment.

The two facts behind it are that the tracked liftoff stays what it is while the epoch runs,
and that only a placed request or a report keeps the task from asking.
-/

namespace MissionBoard.Flight

open Protocol Mission MissionStateMachine Control Sensors MissionBoard.Runtime

/-- The deadline of the running epoch has passed: `safetyTask` tracks the liftoff of the
epoch, and its clock shows 17 s, or 10 s with a pressure detection of that epoch published. -/
@[mk_iff]
structure OpeningDue (requests : OpenRequests) : Prop where
  lifted : requests.safety.liftoffValid = true
  current : requests.safety.trackedEpoch = requests.machine.snapshot.flightEpoch
  late : 17000000 ≤ requests.safety.elapsedAt (UInt64.ofNat requests.timerUs) ∨
    (10000000 ≤ requests.safety.elapsedAt (UInt64.ofNat requests.timerUs) ∧
      requests.pressureDeploymentEpoch = requests.safety.trackedEpoch ∧
      requests.pressureAttempt = requests.attempt)

instance (requests : OpenRequests) : Decidable (OpeningDue requests) :=
  decidable_of_iff _ (openingDue_iff requests).symm

/-- A decision of `safetyTask` in the epoch of a deadline that has passed, on a time read
since, finds a request placed or the deployment reported, or asks for it. -/
def RequestRetained (due later : OpenRequests) : Prop :=
  OpeningDue due → later.attempt = due.attempt →
    ∀ nowUs, later.phase = .acting nowUs → due.timerUs ≤ nowUs.toNat →
      .placed due.session due.safety.trackedEpoch ∈ later.log ∨
        .reported due.session ∈ later.log ∨
          ∀ input, due.safety.trackedEpoch ∈ later.openings nowUs input

/-- Whatever a decision of `safetyTask` asks for is the epoch it tracks, whose liftoff it has
taken over from a snapshot. -/
def OpensTracked (requests : OpenRequests) : Prop :=
  ∀ nowUs input flightEpoch, requests.phase = .acting nowUs →
    flightEpoch ∈ requests.openings nowUs input →
      flightEpoch = requests.safety.trackedEpoch ∧ requests.safety.liftoffValid = true ∧
        requests.liftoffSource.flightEpoch = flightEpoch ∧
        requests.liftoffSource.liftoffTimeValid = true ∧
        requests.liftoffSource.liftoffTimeUs = requests.safety.liftoffTimeUs

section Opening

variable {tests : DetectionTests} {requests : OpenRequests}

/-! ### What the invariants say -/

/-- What `airDataTask` holds of the running attempt carries the epoch of the attempt. -/
structure Dated (requests : OpenRequests) : Prop where
  air : requests.airAttempt ≤ requests.attempt
  airEpoch : requests.airAttempt = requests.attempt →
    requests.airSnapshot.flightEpoch = requests.machine.snapshot.flightEpoch
  pressure : requests.pressureAttempt ≤ requests.airAttempt
  pressureEpoch : requests.pressureAttempt = requests.attempt →
    requests.pressureDeploymentEpoch = requests.machine.snapshot.flightEpoch

/-- No time of the board comes near the width of the counter. -/
structure Measured (requests : OpenRequests) : Prop where
  timer : requests.timerUs < timerLimitUs
  offset : requests.machine.elapsedOffsetUs.toNat ≤ timerLimitUs
  elapsed : requests.machine.snapshot.elapsedUs.toNat ≤ timerLimitUs + requests.timerUs
  tracked : requests.safety.liftoffValid = true →
    requests.safety.elapsedOffsetUs.toNat ≤ 2 * timerLimitUs
  taken : ∀ nowUs, requests.phase = .acting nowUs → nowUs.toNat ≤ requests.timerUs

/-- What `safetyTask` has on record was logged or observed. -/
structure Recorded (requests : OpenRequests) : Prop where
  requested : requests.safety.deploymentRequested = true →
    .placed requests.session requests.safety.trackedEpoch ∈ requests.log ∨
      .reported requests.session ∈ requests.log
  source : requests.safety.liftoffValid = true →
    requests.liftoffSource.flightEpoch = requests.safety.trackedEpoch ∧
      requests.liftoffSource.liftoffTimeValid = true ∧
      requests.liftoffSource.liftoffTimeUs = requests.safety.liftoffTimeUs

/-! ### The epoch of a pressure detection -/

private theorem Dated.step (dated : Dated requests) (label : OpeningLabel) :
    Dated (requests.step tests label) := by
  unfold OpenRequests.step
  cases label with
  | wait us =>
      dsimp only
      split
      · exact ⟨dated.air, dated.airEpoch, dated.pressure, dated.pressureEpoch⟩
      · exact dated
  | operate call =>
      dsimp only
      split
      · unfold OpenRequests.operate
        dsimp only
        generalize requests.machine.step call = next
        by_cases same : next.snapshot.flightEpoch = requests.machine.snapshot.flightEpoch
        · rw [if_pos same]
          refine ⟨dated.air, ?_, dated.pressure, ?_⟩ <;> dsimp only <;> rw [same]
          · exact dated.airEpoch
          · exact dated.pressureEpoch
        · rw [if_neg same]
          have air := dated.air
          have pressure := dated.pressure
          refine ⟨?_, ?_, pressure, ?_⟩ <;> dsimp only <;> omega
      · exact dated
  | tick guard input =>
      dsimp only
      unfold OpenRequests.tick
      split
      · have epoch := flightEpoch_of_attempt (tick_attempt requests.machine guard input {})
        refine ⟨dated.air, ?_, dated.pressure, ?_⟩ <;> dsimp only <;> rw [epoch]
        · exact dated.airEpoch
        · exact dated.pressureEpoch
      · exact dated
  | refreshAir => exact ⟨le_rfl, fun _ => rfl, dated.pressure.trans dated.air, dated.pressureEpoch⟩
  | updateLps pressure =>
      dsimp only
      unfold OpenRequests.updateLps
      dsimp only
      split
      · exact ⟨dated.air, dated.airEpoch, le_rfl, dated.airEpoch⟩
      · exact ⟨dated.air, dated.airEpoch, dated.pressure, dated.pressureEpoch⟩
  | safety input =>
      dsimp only
      unfold OpenRequests.stepSafety
      split <;> exact ⟨dated.air, dated.airEpoch, dated.pressure, dated.pressureEpoch⟩

/-! ### The times -/

/-- An operation before the tick keeps the elapsed time or clears it. -/
private theorem elapsed_of_commanded (machine : MissionStateMachine) {call : Call}
    (performs : commanded call.operation = true) :
    ((machine.step call).elapsedOffsetUs = machine.elapsedOffsetUs ∨
        (machine.step call).elapsedOffsetUs = 0) ∧
      ((machine.step call).snapshot.elapsedUs = machine.snapshot.elapsedUs ∨
        (machine.step call).snapshot.elapsedUs = 0) := by
  have outcome := machine.outcome call
  generalize machine.step call = next, (machine.perform call).result = result at outcome ⊢
  cases outcome with
  | refused => exact ⟨Or.inl rfl, Or.inl rfl⟩
  | started => exact ⟨Or.inr rfl, Or.inr rfl⟩
  | cancelled => exact ⟨Or.inr rfl, Or.inr rfl⟩
  | controlDisabled =>
      unfold controlDisabled
      dsimp only
      split <;> exact ⟨Or.inl rfl, Or.inl rfl⟩
  | rolledBack => exact ⟨Or.inr rfl, Or.inr rfl⟩
  | restoredArmed | restoredFlying | ticked => exact absurd performs Bool.false_ne_true

/-- A tick keeps the offset or clears it, and records a reading of its own time. -/
private theorem elapsed_of_tick (machine : MissionStateMachine) (guard : FinOvertravelGuard)
    (input : MissionTickInput) (offset : machine.elapsedOffsetUs.toNat ≤ timerLimitUs)
    (now : input.monotonicUs.toNat < timerLimitUs) :
    (machine.tick guard input {}).1.elapsedOffsetUs.toNat ≤ timerLimitUs ∧
      (machine.tick guard input {}).1.snapshot.elapsedUs.toNat ≤
        timerLimitUs + input.monotonicUs.toNat := by
  have clock := tick_flightClock machine guard input {}
  have lifted : (machine.lifted input {}).flightClock.offset.toNat ≤ timerLimitUs := by
    rw [flightClock_lifted]
    split
    · exact Nat.zero_le _
    · exact offset
  constructor
  · have same : (machine.tick guard input {}).1.elapsedOffsetUs =
        (machine.lifted input {}).flightClock.offset :=
      congrArg ElapsedClock.offset clock
    rw [same]
    exact lifted
  · rw [tick_elapsedUs, elapsedAt_eq_reading]
    generalize (machine.lifted input {}).flightClock = flightClock at lifted ⊢
    have reads := @ElapsedClock.toNat_reading_le flightClock input.monotonicUs
    unfold timerLimitUs at *
    omega

/-- An observation takes its offset from a snapshot or keeps it. -/
private theorem elapsedOffsetUs_observed {task : SafetyTask} {snapshot : MissionSnapshot}
    {input : SafetyInput} (running : (task.observed snapshot input).liftoffValid = true) :
    (task.observed snapshot input).elapsedOffsetUs = SafetyTask.adoptedOffset snapshot ∨
      (task.liftoffValid = true ∧
        (task.observed snapshot input).elapsedOffsetUs = task.elapsedOffsetUs) := by
  by_cases adopts : input.takesMutex = true ∧ task.Adopts snapshot
  · left
    exact congrArg (fun tracking => tracking.2.offset) (SafetyTask.observed_of_adopts adopts.1 adopts.2)
  · right
    rcases SafetyTask.observed_of_not_adopts adopts with stopped | same
    · rw [stopped] at running
      contradiction
    · exact ⟨(congrArg (fun tracking => tracking.2.running) same).symm.trans running,
        congrArg (fun tracking => tracking.2.offset) same⟩

private theorem Measured.safety (measured : Measured requests) (input : SafetyInput) :
    Measured (requests.stepSafety input) := by
  have timer := measured.timer
  unfold OpenRequests.stepSafety
  cases stands : requests.phase with
  | observing =>
      refine ⟨timer, measured.offset, measured.elapsed, fun running => ?_, nofun⟩
      show (requests.safety.observed requests.machine.snapshot input).elapsedOffsetUs.toNat ≤ _
      rcases elapsedOffsetUs_observed running with taken | ⟨valid, kept⟩
      · have elapsed := measured.elapsed
        rw [taken]
        unfold SafetyTask.adoptedOffset
        split
        · omega
        · exact Nat.zero_le _
      · rw [kept]
        exact measured.tracked valid
  | timing =>
      refine ⟨timer, measured.offset, measured.elapsed, measured.tracked, ?_⟩
      rintro nowUs ⟨⟩
      exact Nat.mod_le _ _
  | acting nowUs =>
      have same := SafetyTask.act_tracking requests.safety (requests.judged nowUs input)
      refine ⟨timer, measured.offset, measured.elapsed, fun running => ?_, nofun⟩
      have offset : (requests.safety.act (requests.judged nowUs input)).1.elapsedOffsetUs =
          requests.safety.elapsedOffsetUs :=
        congrArg (fun tracking => tracking.2.offset) same
      show (requests.safety.act (requests.judged nowUs input)).1.elapsedOffsetUs.toNat ≤ _
      rw [offset]
      exact measured.tracked
        ((congrArg (fun tracking => tracking.2.running) same).symm.trans running)

private theorem Measured.step (measured : Measured requests) (label : OpeningLabel) :
    Measured (requests.step tests label) := by
  have timer := measured.timer
  have elapsed := measured.elapsed
  unfold OpenRequests.step
  cases label with
  | wait us =>
      dsimp only
      split
      · exact ⟨‹_›, measured.offset, elapsed.trans (by dsimp only; omega), measured.tracked,
          fun nowUs acting => (measured.taken nowUs acting).trans (Nat.le_add_right _ _)⟩
      · exact measured
  | operate call =>
      dsimp only
      split
      · rename_i performs
        obtain ⟨offset, recorded⟩ := elapsed_of_commanded requests.machine performs
        refine ⟨timer, ?_, ?_, measured.tracked, measured.taken⟩
        · show (requests.machine.step call).elapsedOffsetUs.toNat ≤ _
          rcases offset with same | cleared
          · rw [same]
            exact measured.offset
          · rw [cleared]
            exact Nat.zero_le _
        · show (requests.machine.step call).snapshot.elapsedUs.toNat ≤ _
          rcases recorded with same | cleared
          · rw [same]
            exact elapsed
          · rw [cleared]
            exact Nat.zero_le _
      · exact measured
  | tick guard input =>
      dsimp only
      unfold OpenRequests.tick
      split
      · rename_i past
        obtain ⟨offset, recorded⟩ :=
          elapsed_of_tick requests.machine guard input measured.offset (past.trans_lt timer)
        exact ⟨timer, offset, recorded.trans (Nat.add_le_add_left past _), measured.tracked,
          measured.taken⟩
      · exact measured
  | refreshAir =>
      exact ⟨timer, measured.offset, elapsed, measured.tracked, measured.taken⟩
  | updateLps pressure =>
      dsimp only
      unfold OpenRequests.updateLps
      dsimp only
      split <;> exact ⟨timer, measured.offset, elapsed, measured.tracked, measured.taken⟩
  | safety input => exact measured.safety input

/-! ### The record -/

private theorem Recorded.observe (recorded : Recorded requests) (input : SafetyInput) :
    Recorded (requests.observe input) := by
  constructor
  · intro requested
    rcases SafetyTask.deploymentRequested_observed requested with reported | ⟨earlier, stays, epoch⟩
    · right
      refine List.mem_append_right _ ?_
      rw [if_pos reported]
      exact List.mem_singleton_self _
    · have session : (requests.observe input).session = requests.session := if_neg stays
      rw [session]
      have tracked : (requests.observe input).safety.trackedEpoch =
          requests.safety.trackedEpoch := epoch
      rw [tracked]
      exact (recorded.requested earlier).imp (List.mem_append_left _) (List.mem_append_left _)
  · intro running
    have running : (requests.safety.observed requests.machine.snapshot input).liftoffValid =
        true := running
    unfold OpenRequests.observe
    dsimp only
    by_cases adopts : input.takesMutex = true ∧ requests.safety.Adopts requests.machine.snapshot
    · have taken := SafetyTask.observed_of_adopts adopts.1 adopts.2
      rw [if_pos adopts]
      exact ⟨(congrArg Prod.fst taken).symm, adopts.2.1,
        (congrArg (fun tracking => tracking.2.origin) taken).symm⟩
    · rw [if_neg adopts]
      rcases SafetyTask.observed_of_not_adopts adopts with stopped | same
      · rw [stopped] at running
        contradiction
      · obtain ⟨epoch, valid, time⟩ := recorded.source
          ((congrArg (fun tracking => tracking.2.running) same).symm.trans running)
        exact ⟨epoch.trans (congrArg Prod.fst same).symm, valid,
          time.trans (congrArg (fun tracking => tracking.2.origin) same).symm⟩

private theorem Recorded.act (recorded : Recorded requests) (nowUs : UInt64)
    (input : SafetyInput) : Recorded (requests.act nowUs input) := by
  have same := SafetyTask.act_tracking requests.safety (requests.judged nowUs input)
  have epoch : (requests.act nowUs input).safety.trackedEpoch = requests.safety.trackedEpoch :=
    congrArg Prod.fst same
  constructor
  · intro requested
    rw [epoch]
    rcases SafetyTask.deploymentRequested_act requested with earlier | ⟨accepts, asks⟩
    · exact (recorded.requested earlier).imp (List.mem_append_left _) (List.mem_append_left _)
    · left
      refine List.mem_append_right _ ?_
      have accepts : input.paraQueueAccepts = true := accepts
      rw [if_pos accepts]
      exact List.mem_map_of_mem (SafetyTask.mem_openings_act.mpr ⟨rfl, asks⟩)
  · intro running
    have source := recorded.source
      ((congrArg (fun tracking => tracking.2.running) same).symm.trans running)
    exact ⟨source.1.trans epoch.symm, source.2.1,
      source.2.2.trans (congrArg (fun tracking => tracking.2.origin) same).symm⟩

private theorem Recorded.step (recorded : Recorded requests) (label : OpeningLabel) :
    Recorded (requests.step tests label) := by
  unfold OpenRequests.step
  cases label with
  | wait us =>
      dsimp only
      split <;> exact ⟨recorded.requested, recorded.source⟩
  | operate call =>
      dsimp only
      split <;> exact ⟨recorded.requested, recorded.source⟩
  | tick guard input =>
      dsimp only
      unfold OpenRequests.tick
      split <;> exact ⟨recorded.requested, recorded.source⟩
  | refreshAir => exact ⟨recorded.requested, recorded.source⟩
  | updateLps pressure =>
      dsimp only
      unfold OpenRequests.updateLps
      dsimp only
      split <;> exact ⟨recorded.requested, recorded.source⟩
  | safety input =>
      dsimp only
      unfold OpenRequests.stepSafety
      split
      · exact recorded.observe input
      · exact ⟨recorded.requested, recorded.source⟩
      · exact recorded.act _ input

/-! ### The epoch of the deadline -/

/-- What a later state of the epoch shares with the state at the deadline. -/
structure SameEpoch (due later : OpenRequests) : Prop where
  epoch : later.machine.snapshot.flightEpoch = due.machine.snapshot.flightEpoch
  tracking : later.safety.tracking = due.safety.tracking
  session : later.session = due.session
  pressure : due.pressureAttempt = due.attempt → later.pressureAttempt = later.attempt

/-- Time and attempts only go forward, and within the attempt the epoch is shared. -/
structure Follows (due later : OpenRequests) : Prop where
  timer : due.timerUs ≤ later.timerUs
  attempt : due.attempt ≤ later.attempt
  same : later.attempt = due.attempt → SameEpoch due later

private theorem follows_refl (due : OpenRequests) : Follows due due :=
  ⟨le_rfl, le_rfl, fun _ => ⟨rfl, rfl, rfl, id⟩⟩

/-- A step that leaves the timer, the attempt and what the epoch shares. -/
private theorem Follows.of_unchanged {due next : OpenRequests} (follows : Follows due requests)
    (timer : next.timerUs = requests.timerUs) (attempt : next.attempt = requests.attempt)
    (epoch : next.machine.snapshot.flightEpoch = requests.machine.snapshot.flightEpoch)
    (safety : requests.attempt = due.attempt →
      next.safety.tracking = requests.safety.tracking ∧ next.session = requests.session)
    (pressure : next.pressureAttempt = requests.pressureAttempt) : Follows due next := by
  refine ⟨timer ▸ follows.timer, attempt ▸ follows.attempt, fun stays => ?_⟩
  rw [attempt] at stays
  have same := follows.same stays
  obtain ⟨tracking, session⟩ := safety stays
  exact ⟨epoch.trans same.epoch, tracking.trans same.tracking, session.trans same.session,
    fun published => by rw [pressure, attempt, same.pressure published]⟩

/-- While its epoch runs, a tracked liftoff is kept by every observation. -/
private theorem Follows.observe {due : OpenRequests} (tracks : OpeningDue due)
    (follows : Follows due requests) (input : SafetyInput) :
    Follows due (requests.observe input) := by
  refine follows.of_unchanged rfl rfl rfl (fun stays => ?_) rfl
  have same := follows.same stays
  obtain ⟨tracked, running, -⟩ := SafetyTask.fields_of_tracking same.tracking
  have current : requests.machine.snapshot.flightEpoch = requests.safety.trackedEpoch :=
    same.epoch.trans (tracks.current.symm.trans tracked.symm)
  refine ⟨SafetyTask.observed_of_tracks (running.trans tracks.lifted) current input, ?_⟩
  exact if_neg fun turns => turns.2 current

private theorem Follows.operate {due : OpenRequests} (follows : Follows due requests)
    (call : Call) : Follows due (requests.operate call) := by
  unfold OpenRequests.operate
  dsimp only
  generalize requests.machine.step call = next
  have attempt := follows.attempt
  by_cases kept : next.snapshot.flightEpoch = requests.machine.snapshot.flightEpoch
  · rw [if_pos kept]
    exact follows.of_unchanged rfl rfl kept (fun _ => ⟨rfl, rfl⟩) rfl
  · rw [if_neg kept]
    refine ⟨follows.timer, attempt.trans (Nat.le_succ _), fun stays => ?_⟩
    have stays : requests.attempt + 1 = due.attempt := stays
    omega

/-- A detection published in the epoch of the deadline replaces one of the same epoch. -/
private theorem Follows.updateLps {due : OpenRequests} (follows : Follows due requests)
    (dated : Dated requests) (pressure : Option Double) :
    Follows due (requests.updateLps tests pressure) := by
  unfold OpenRequests.updateLps
  dsimp only
  split
  · refine ⟨follows.timer, follows.attempt, fun stays => ?_⟩
    have same := follows.same stays
    refine ⟨same.epoch, same.tracking, same.session, fun published => ?_⟩
    have latest := same.pressure published
    exact le_antisymm dated.air (latest ▸ dated.pressure)
  · exact follows.of_unchanged rfl rfl rfl (fun _ => ⟨rfl, rfl⟩) rfl

private theorem Follows.step {due : OpenRequests} (tracks : OpeningDue due)
    (follows : Follows due requests) (dated : Dated requests) (label : OpeningLabel) :
    Follows due (requests.step tests label) := by
  unfold OpenRequests.step
  cases label with
  | wait us =>
      dsimp only
      split
      · refine ⟨follows.timer.trans (Nat.le_add_right _ _), follows.attempt, fun stays => ?_⟩
        have same := follows.same stays
        exact ⟨same.epoch, same.tracking, same.session, same.pressure⟩
      · exact follows
  | operate call =>
      dsimp only
      split
      · exact follows.operate call
      · exact follows
  | tick guard input =>
      dsimp only
      unfold OpenRequests.tick
      split
      · have epoch := flightEpoch_of_attempt (tick_attempt requests.machine guard input {})
        exact follows.of_unchanged rfl rfl epoch (fun _ => ⟨rfl, rfl⟩) rfl
      · exact follows
  | refreshAir => exact follows.of_unchanged rfl rfl rfl (fun _ => ⟨rfl, rfl⟩) rfl
  | updateLps pressure => exact follows.updateLps dated pressure
  | safety input =>
      dsimp only
      unfold OpenRequests.stepSafety
      split
      · exact follows.observe tracks input
      · exact follows.of_unchanged rfl rfl rfl (fun _ => ⟨rfl, rfl⟩) rfl
      · refine follows.of_unchanged rfl rfl rfl (fun _ => ⟨?_, rfl⟩) rfl
        exact SafetyTask.act_tracking requests.safety (requests.judged _ input)

/-! ### Whole runs -/

/-- What holds of the board in every reached state. -/
structure Opening (requests : OpenRequests) : Prop where
  dated : Dated requests
  measured : Measured requests
  recorded : Recorded requests

/-- A restored machine carries the elapsed time of its checkpoint, a fresh one none. -/
private theorem elapsed_bootMachine (nowUs : UInt64) {checkpoint : Option ResetCheckpoint}
    (stored : ∀ saved ∈ checkpoint, saved.elapsedUs.toNat ≤ timerLimitUs) :
    (OpenRequests.bootMachine nowUs checkpoint).elapsedOffsetUs.toNat ≤ timerLimitUs ∧
      (OpenRequests.bootMachine nowUs checkpoint).snapshot.elapsedUs.toNat ≤ timerLimitUs := by
  unfold OpenRequests.bootMachine
  cases checkpoint with
  | none => exact ⟨Nat.zero_le _, Nat.zero_le _⟩
  | some saved =>
      have bound := stored saved rfl
      dsimp only
      rcases restoreAfterReset_cases {} nowUs saved with
        ⟨-, -, next⟩ | ⟨-, -, next⟩ | ⟨-, kept⟩
      · rw [next]
        exact ⟨Nat.zero_le _, Nat.zero_le _⟩
      · rw [next]
        exact ⟨bound, bound⟩
      · rw [kept]
        exact ⟨Nat.zero_le _, Nat.zero_le _⟩

theorem opening_boot {nowUs : UInt64} {checkpoint : Option ResetCheckpoint}
    (started : nowUs.toNat < timerLimitUs)
    (stored : ∀ saved ∈ checkpoint, saved.elapsedUs.toNat ≤ timerLimitUs) :
    Opening (.boot nowUs checkpoint) := by
  have restored := elapsed_bootMachine nowUs stored
  unfold OpenRequests.boot
  generalize OpenRequests.bootMachine nowUs checkpoint = machine at restored ⊢
  refine ⟨?_, ?_, nofun, nofun⟩
  · by_cases fresh : machine.snapshot.flightEpoch = 0
    · rw [if_pos fresh]
      exact ⟨le_rfl, fun _ => fresh.symm, le_rfl, fun _ => fresh.symm⟩
    · rw [if_neg fresh]
      exact ⟨Nat.zero_le _, nofun, le_rfl, nofun⟩
  · exact ⟨started, restored.1, restored.2.trans (Nat.le_add_right _ _), nofun, nofun⟩

theorem Opening.step (opening : Opening requests) (label : OpeningLabel) :
    Opening (requests.step tests label) :=
  ⟨opening.dated.step label, opening.measured.step label, opening.recorded.step label⟩

/-- Every reached state. -/
theorem Opening.after (opening : Opening requests) (labels : List OpeningLabel) :
    Opening (Run.after (OpenRequests.step tests) requests labels) := by
  have preserved : ∀ (requests : OpenRequests) (label : OpeningLabel), Opening requests →
      True → Opening (requests.step tests label) :=
    fun _ label opening _ => opening.step label
  exact Run.invariant_after preserved opening
    (Run.along_of_forall (fun _ _ => trivial) _ labels)

/-- Every state reached after a deadline. -/
theorem follows_after {due : OpenRequests} (opening : Opening due) (tracks : OpeningDue due)
    (labels : List OpeningLabel) :
    Follows due (Run.after (OpenRequests.step tests) due labels) := by
  have preserved : ∀ (requests : OpenRequests) (label : OpeningLabel),
      (Opening requests ∧ Follows due requests) → True →
        Opening (requests.step tests label) ∧ Follows due (requests.step tests label) :=
    fun _ label holds _ =>
      ⟨holds.1.step label, holds.2.step tracks holds.1.dated label⟩
  exact (Run.invariant_after preserved ⟨opening, follows_refl due⟩
    (Run.along_of_forall (fun _ _ => trivial) _ labels)).2

/-- Later in its epoch a deadline that has passed is passed still. -/
private theorem deadlinePassed_later {due later : OpenRequests} (tracks : OpeningDue due)
    (begun : Opening due) (reached : Opening later) (same : SameEpoch due later)
    {nowUs : UInt64} (acting : later.phase = .acting nowUs) (since : due.timerUs ≤ nowUs.toNat)
    (input : SafetyInput) : later.safety.DeadlinePassed (later.judged nowUs input) := by
  obtain ⟨tracked, -⟩ := SafetyTask.fields_of_tracking same.tracking
  have elapsed : due.safety.elapsedAt (UInt64.ofNat due.timerUs) ≤
      later.safety.elapsedAt nowUs := by
    have offset := begun.measured.tracked tracks.lifted
    have read := reached.measured.taken nowUs acting
    have limit := reached.measured.timer
    unfold timerLimitUs at offset limit
    rw [SafetyTask.elapsedAt_of_tracking same.tracking]
    apply due.safety.clock.reading_mono
    · rw [UInt64.le_iff_toNat_le]
      exact (Nat.mod_le _ _).trans since
    · have clockOffset : due.safety.clock.offset.toNat ≤ 2 * 2 ^ 62 := offset
      omega
  rcases tracks.late with late | ⟨early, published, fresh⟩
  · exact Or.inr (UInt64.le_trans late elapsed)
  · refine Or.inl ⟨?_, UInt64.le_trans early elapsed⟩
    have current := reached.dated.pressureEpoch (same.pressure fresh)
    exact current.trans (same.epoch.trans (tracks.current.symm.trans tracked.symm))

/-- Every decision in the epoch of a deadline keeps the request. -/
private theorem requestRetained_of_follows {due later : OpenRequests} (begun : Opening due)
    (reached : Opening later) (follows : OpeningDue due → Follows due later) :
    RequestRetained due later := by
  intro tracks stays nowUs acting since
  have same := (follows tracks).same stays
  obtain ⟨tracked, -⟩ := SafetyTask.fields_of_tracking same.tracking
  by_cases requested : later.safety.deploymentRequested = true
  · have logged := reached.recorded.requested requested
    rw [tracked, same.session] at logged
    exact logged.imp_right Or.inl
  · right; right
    intro input
    have passed := deadlinePassed_later tracks begun reached same acting since input
    exact SafetyTask.mem_openings_act.mpr
      ⟨tracked.symm, Bool.eq_false_of_not_eq_true requested, passed⟩

/-- What is asked for is the epoch of the liftoff that was taken over. -/
private theorem opensTracked_of_opening (opening : Opening requests) : OpensTracked requests := by
  intro nowUs input flightEpoch acting within
  obtain ⟨tracked, -, passed⟩ := SafetyTask.mem_openings_act.mp within
  have lifted : requests.safety.liftoffValid = true := passed.liftoffValid
  obtain ⟨epoch, valid, time⟩ := opening.recorded.source lifted
  exact ⟨tracked, lifted, epoch.trans tracked.symm, valid, time⟩

/-- **The open request is never lost.** From every reached state, whatever the queue, the
state mutex and the epochs do, a passed deadline is asked for at every later decision of its
epoch until a request is placed or the deployment reported; and `safetyTask` asks for no
epoch but the one whose liftoff it tracks. -/
theorem open_request_retained (tests : DetectionTests) (nowUs : UInt64)
    (checkpoint : Option ResetCheckpoint) (started : nowUs.toNat < timerLimitUs)
    (stored : ∀ saved ∈ checkpoint, saved.elapsedUs.toNat ≤ timerLimitUs)
    (first : List OpeningLabel) :
    (∀ second : List OpeningLabel,
      RequestRetained (Run.after (OpenRequests.step tests) (.boot nowUs checkpoint) first)
        (Run.after (OpenRequests.step tests) (.boot nowUs checkpoint) (first ++ second))) ∧
      OpensTracked (Run.after (OpenRequests.step tests) (.boot nowUs checkpoint) first) := by
  have begun : Opening (Run.after (OpenRequests.step tests) (.boot nowUs checkpoint) first) :=
    (opening_boot started stored).after first
  refine ⟨fun second => ?_, opensTracked_of_opening begun⟩
  rw [Run.after_append]
  exact requestRetained_of_follows begun (begun.after second)
    fun tracks => follows_after begun tracks second

end Opening

/-- A liftoff that `safetyTask` takes over, and the passing of its 17 s deadline. -/
def overdueFlight : List OpeningLabel :=
  [.operate ⟨{}, .startSequence fullReadiness .normal⟩, .wait 2000000,
    .tick {} { monotonicUs := 2000000, liftoffDetected := true }, .safety {}, .wait 17000000]

/-- A decision that finds the queue full, and the way to the next, without the state mutex. -/
def refusedOnce : List OpeningLabel :=
  [.safety {}, .safety { paraQueueAccepts := false }, .wait 1000,
    .safety { takesMutex := false }, .safety {}]

/-- After a full queue the request is sent again. -/
theorem open_request_retained_refusedOnce :
    OpeningDue (Run.after (OpenRequests.step exactTests) (.boot 0 none) overdueFlight) ∧
      1 ∈ (Run.after (OpenRequests.step exactTests) (.boot 0 none)
        (overdueFlight ++ refusedOnce)).openings 19001000 {} := by
  have due : OpeningDue
      (Run.after (OpenRequests.step exactTests) (.boot 0 none) overdueFlight) := by
    decide +kernel
  refine ⟨due, ?_⟩
  rcases (open_request_retained exactTests 0 none (by decide) nofun overdueFlight).1 refusedOnce
    due (by decide +kernel) 19001000 (by decide +kernel) (by decide +kernel) with
    placed | reported | asks
  · exact absurd placed (by decide +kernel)
  · exact absurd reported (by decide +kernel)
  · have epoch : (Run.after (OpenRequests.step exactTests) (.boot 0 none)
        overdueFlight).safety.trackedEpoch = 1 := by
      decide +kernel
    exact epoch ▸ asks {}

end MissionBoard.Flight
