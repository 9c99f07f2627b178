import MissionBoard.Flight.Deployment
import MissionBoard.Flight.Phase

/-!
Owns what a reset carries over: storing a snapshot, loading it later and restoring
it resumes the attempt, its latches and its flight clock, and no run of ticks and
resets after liftoff moves the parachute backwards.
-/

namespace MissionBoard.Flight

open Protocol Mission MissionStateMachine Control MissionBoard.Runtime

/-! ### The parachute order -/

/-- How far the parachute directive has come. -/
def parachuteRank : ParaDirective → ℕ
  | .hold => 0
  | .open => 1
  | .poweredOff => 2

theorem parachuteRank_injective : Function.Injective parachuteRank := by
  intro left right same
  cases left <;> cases right <;> first | rfl | contradiction

instance : PartialOrder ParaDirective := PartialOrder.lift parachuteRank parachuteRank_injective

instance : DecidableLE ParaDirective := fun left right =>
  inferInstanceAs (Decidable (parachuteRank left ≤ parachuteRank right))

/-- The directive follows the two latches, so it moves forward with them. -/
theorem paraDirective_le {before after : MissionSnapshot}
    (cutoff : before.deploymentPowerCutoffLatched = true →
      after.deploymentPowerCutoffLatched = true)
    (deployment : before.deploymentStarted = true → after.deploymentStarted = true) :
    paraDirective before ≤ paraDirective after := by
  unfold paraDirective
  cases beforeCutoff : before.deploymentPowerCutoffLatched with
  | true =>
      rw [cutoff beforeCutoff]
      exact le_rfl
  | false =>
      cases beforeStarted : before.deploymentStarted with
      | true =>
          rw [deployment beforeStarted]
          cases after.deploymentPowerCutoffLatched <;> decide
      | false =>
          cases after.deploymentPowerCutoffLatched <;> cases after.deploymentStarted <;> decide

/-! ### Ticks after liftoff -/

section Ticks

variable {machine : MissionStateMachine} (core : Core machine)

include core

/-- After liftoff a tick makes no liftoff transition. -/
private theorem lifted_flightClock (flying : machine.snapshot.liftoffTimeValid = true)
    (input : MissionTickInput) (safety : SafetyRequest) :
    (machine.lifted input safety).flightClock = machine.flightClock := by
  have notArmed : ¬ ((machine.latchSafetyCutoff safety).snapshot.state = .liftoffDetection ∧
      input.liftoffDetected = true) := by
    rintro ⟨armed, -⟩
    rw [latchSafetyCutoff_state] at armed
    have states := core.liftoff.mp flying
    rw [armed] at states
    exact absurd states (by decide)
  unfold lifted detectLiftoff
  rw [if_neg notArmed, latchSafetyCutoff_flightClock]

/-- After liftoff no tick resets the flight clock. -/
theorem tick_flightClock_of_flying (flying : machine.snapshot.liftoffTimeValid = true)
    (guard : FinOvertravelGuard) (input : MissionTickInput) (safety : SafetyRequest) :
    (machine.tick guard input safety).1.flightClock = machine.flightClock :=
  (tick_flightClock machine guard input safety).trans (lifted_flightClock core flying input safety)

/-- A tick never ends a deployment. -/
theorem tick_deploymentStarted (started : machine.snapshot.deploymentStarted = true)
    (guard : FinOvertravelGuard) (input : MissionTickInput) (safety : SafetyRequest) :
    (machine.tick guard input safety).1.snapshot.deploymentStarted = true := by
  have descending := core.deployment.mp started
  have lifts : (machine.lifted input safety).snapshot.state = .descent := by
    unfold lifted
    rw [detectLiftoff_state, latchSafetyCutoff_state, descending]
    rfl
  exact (core.tick guard input safety).deployment.mpr
    ((tick_descent_iff machine guard input safety).mpr (Or.inl lifts))

/-- Within an epoch no call resets the flight clock of a flying machine. -/
private theorem flightClock_step (flying : machine.snapshot.liftoffTimeValid = true) {call : Call}
    (keeps : KeepsEpoch machine call) : (machine.step call).flightClock = machine.flightClock := by
  obtain ⟨ordinary, epoch⟩ := keeps
  have states := core.liftoff.mp flying
  have outcome := machine.outcome call
  generalize machine.step call = next, (machine.perform call).result = result at outcome epoch ⊢
  cases outcome with
  | refused => rfl
  | started => exact absurd epoch (nextEpoch_ne _)
  | rolledBack => exact absurd epoch (nextEpoch_ne _)
  | restoredArmed | restoredFlying => contradiction
  | cancelled guard armed =>
      rw [armed] at states
      exact absurd states (by decide)
  | controlDisabled =>
      unfold controlDisabled
      dsimp only
      split <;> rfl
  | ticked guard input safety => exact tick_flightClock_of_flying core flying guard input safety

end Ticks

/-- Within an epoch the flight clock of a flying machine runs on through every run. -/
theorem flightClock_after {machine : MissionStateMachine} (core : Core machine)
    (flying : machine.snapshot.liftoffTimeValid = true) {calls : List Call}
    (within : Run.Along step KeepsEpoch machine calls) :
    Core (Run.after step machine calls) ∧
      (Run.after step machine calls).flightClock = machine.flightClock := by
  have preserved : ∀ state call,
      (Core state ∧ state.flightClock = machine.flightClock) → KeepsEpoch state call →
      Core (step state call) ∧ (step state call).flightClock = machine.flightClock := by
    rintro state call ⟨stateCore, clock⟩ keeps
    have stateFlying : state.snapshot.liftoffTimeValid = true :=
      (liftoffTimeValid_of_clock clock).trans flying
    exact ⟨core_step_of_ordinary stateCore keeps.1,
      (flightClock_step stateCore stateFlying keeps).trans clock⟩
  exact Run.invariant_after preserved ⟨core, rfl⟩ within

/-! ### One reset -/

/-- What a reset carries over from the stored snapshot. -/
structure Resumed (stored resumed : MissionSnapshot) : Prop where
  flightEpoch : resumed.flightEpoch = stored.flightEpoch
  forcedStart : resumed.forcedStart = stored.forcedStart
  preflightGeneration : resumed.preflightGeneration = stored.preflightGeneration
  preflightCapturedAtUs : resumed.preflightCapturedAtUs = stored.preflightCapturedAtUs
  preflightReadyMask : resumed.preflightReadyMask = stored.preflightReadyMask
  preflightMissingMask : resumed.preflightMissingMask = stored.preflightMissingMask
  armed : stored.state = .liftoffDetection → resumed.state = .liftoffDetection
  flying : stored.state ≠ .liftoffDetection →
    resumed.state = (if stored.deploymentStarted then .descent else .engineBurn) ∧
    resumed.deploymentStarted = stored.deploymentStarted ∧
    resumed.deploymentPowerCutoffLatched = stored.deploymentPowerCutoffLatched

section Reset

variable {machine : MissionStateMachine} (core : Core machine)
  (sequencing : machine.snapshot.state ≠ .commandReceive)

include core sequencing

private theorem checkpointOf_accepted (delta : UInt64) :
    CheckpointAccepted (checkpointOf machine.snapshot delta) := by
  refine ⟨rfl, core.epoch sequencing, ?_⟩
  have known := core.known
  unfold checkpointOf
  dsimp only
  cases state : machine.snapshot.state <;> simp_all

private theorem restore_checkpointOf (target : MissionStateMachine) (nowUs delta : UInt64) :
    target.restoreAfterReset nowUs (checkpointOf machine.snapshot delta) =
      if machine.snapshot.state = .liftoffDetection then
        (.completed, target.restoredArmed nowUs (checkpointOf machine.snapshot delta))
      else (.completed, target.restoredFlying nowUs (checkpointOf machine.snapshot delta)) := by
  unfold restoreAfterReset
  rw [refusesCheckpoint_eq_false.mpr (checkpointOf_accepted core sequencing delta)]
  rfl

/-- Restoring the checkpoint of a snapshot completes and resumes it. -/
theorem resumed_restore (target : MissionStateMachine) (nowUs delta : UInt64) :
    (target.restoreAfterReset nowUs (checkpointOf machine.snapshot delta)).1 = .completed ∧
      Resumed machine.snapshot
        (target.restoreAfterReset nowUs (checkpointOf machine.snapshot delta)).2.snapshot := by
  rw [restore_checkpointOf core sequencing]
  by_cases armed : machine.snapshot.state = .liftoffDetection
  · rw [if_pos armed]
    exact ⟨rfl, rfl, rfl, rfl, rfl, rfl, rfl, fun _ => rfl, fun flying => absurd armed flying⟩
  · rw [if_neg armed]
    refine ⟨rfl, rfl, rfl, rfl, rfl, rfl, rfl, fun held => absurd held armed, fun _ => ?_⟩
    refine ⟨?_, rfl, rfl⟩
    show (if machine.snapshot.deploymentStarted = true ∨ machine.snapshot.state = .descent then
      MissionState.descent else .engineBurn) = _
    simp only [← core.deployment, or_self]

/-- The machine a restored flight resumes in: it satisfies the invariant and its
clock continues from the stored elapsed time and the length of the reset. -/
theorem restored_flightClock (flying : machine.snapshot.state ≠ .liftoffDetection)
    (target : MissionStateMachine) (nowUs delta : UInt64) :
    Core (target.restoreAfterReset nowUs (checkpointOf machine.snapshot delta)).2 ∧
      (target.restoreAfterReset nowUs (checkpointOf machine.snapshot delta)).2.flightClock =
        { running := true
          origin := nowUs
          offset := machine.snapshot.elapsedUs + delta } := by
  rw [restore_checkpointOf core sequencing, if_neg flying]
  constructor
  · exact Core.restoredFlying nowUs (checkpointOf_accepted core sequencing delta)
      (checkpointOf_faithful core sequencing delta)
  · have elapsed : checkpointElapsed machine.snapshot delta = machine.snapshot.elapsedUs + delta :=
      if_neg flying
    rw [← elapsed]
    rfl

end Reset

/-! ### Runs of ticks and resets -/

/-- A reset: the snapshot is stored at one RTC time, loaded at another, and
restored into the machine that booted. -/
structure Reset where
  reason : ResetReason
  storedUs : UInt64
  rtcNowUs : UInt64
  booted : MissionStateMachine := {}
  nowUs : UInt64

/-- The machine after a reset; a checkpoint that does not load is not restored. -/
def Reset.resume (reset : Reset) (machine : MissionStateMachine) : MissionStateMachine :=
  match loadFlightCheckpoint (storeFlightCheckpoint machine.snapshot reset.storedUs)
      reset.reason reset.rtcNowUs with
  | some checkpoint => (reset.booted.restoreAfterReset reset.nowUs checkpoint).2
  | none => reset.booted

/-- What happens to a flight after liftoff. -/
inductive FlightEvent where
  | tick (guard : FinOvertravelGuard) (input : MissionTickInput) (safety : SafetyRequest)
  | reset (reset : Reset)

def flightStep (machine : MissionStateMachine) : FlightEvent → MissionStateMachine
  | .tick guard input safety => (machine.tick guard input safety).1
  | .reset reset => reset.resume machine

/-- The resets of a run keep RTC memory, and neither clock runs backwards or overflows. -/
def Survives (machine : MissionStateMachine) : FlightEvent → Prop
  | .tick _ _ _ => True
  | .reset reset =>
      ResetSurvivable machine.snapshot reset.reason reset.storedUs reset.rtcNowUs

/-- A machine in flight that publishes its directives. -/
structure Flying (machine : MissionStateMachine) : Prop where
  core : Core machine
  directives : Directives machine.snapshot
  lifted : machine.snapshot.liftoffTimeValid = true

private theorem Flying.sequencing {machine : MissionStateMachine} (flying : Flying machine) :
    machine.snapshot.state ≠ .commandReceive ∧ machine.snapshot.state ≠ .liftoffDetection := by
  have states := flying.core.liftoff.mp flying.lifted
  constructor <;>
  · intro state
    rw [state] at states
    exact absurd states (by decide)

/-- One event keeps a flight flying and its parachute no further back. -/
theorem Flying.step {machine : MissionStateMachine} (flying : Flying machine)
    (event : FlightEvent) (survives : Survives machine event) :
    Flying (flightStep machine event) ∧
      machine.snapshot.parachute ≤ (flightStep machine event).snapshot.parachute := by
  obtain ⟨core, directives, lifted⟩ := flying
  cases event with
  | tick guard input safety =>
      have nextDirectives := directives.step ⟨guard, .tick input safety⟩
      rw [step_tick] at nextDirectives
      have clock := tick_flightClock_of_flying core lifted guard input safety
      refine ⟨⟨core.tick guard input safety, nextDirectives,
        (liftoffTimeValid_of_clock clock).trans lifted⟩, ?_⟩
      show machine.snapshot.parachute ≤ (machine.tick guard input safety).1.snapshot.parachute
      rw [directives.parachute, nextDirectives.parachute]
      exact paraDirective_le (fun latched => cutoff_tick machine guard input safety latched)
        (fun started => tick_deploymentStarted core started guard input safety)
  | reset reset =>
      obtain ⟨sequencing, notArmed⟩ := Flying.sequencing ⟨core, directives, lifted⟩
      have loads := load_store core sequencing survives
      have next : reset.resume machine =
          (reset.booted.restoreAfterReset reset.nowUs
            (checkpointOf machine.snapshot (reset.rtcNowUs - reset.storedUs))).2 := by
        unfold Reset.resume
        rw [loads]
      show Flying (reset.resume machine) ∧
        machine.snapshot.parachute ≤ (reset.resume machine).snapshot.parachute
      rw [next]
      obtain ⟨nextCore, clock⟩ := restored_flightClock core sequencing notArmed reset.booted
        reset.nowUs (reset.rtcNowUs - reset.storedUs)
      obtain ⟨completes, resumed⟩ := resumed_restore core sequencing reset.booted reset.nowUs
        (reset.rtcNowUs - reset.storedUs)
      have nextDirectives := directives_restore completes
      refine ⟨⟨nextCore, nextDirectives, congrArg ElapsedClock.running clock⟩, ?_⟩
      rw [directives.parachute, nextDirectives.parachute]
      obtain ⟨-, started, latched⟩ := resumed.flying notArmed
      exact paraDirective_le (fun held => latched.trans held) (fun held => started.trans held)

/-- No run of ticks and survivable resets moves the parachute back. -/
private theorem parachute_le_after {machine : MissionStateMachine} (flying : Flying machine)
    {events : List FlightEvent} (survives : Run.Along flightStep Survives machine events) :
    machine.snapshot.parachute ≤ (Run.after flightStep machine events).snapshot.parachute := by
  have preserved : ∀ state event, Flying state → Survives state event →
      Flying (flightStep state event) ∧
        state.snapshot.parachute ≤ (flightStep state event).snapshot.parachute := by
    intro state event stateFlying survivesEvent
    exact stateFlying.step event survivesEvent
  exact Run.measure_le_after preserved flying survives

private theorem flying_after {machine : MissionStateMachine} (flying : Flying machine)
    {events : List FlightEvent} (survives : Run.Along flightStep Survives machine events) :
    Flying (Run.after flightStep machine events) := by
  have preserved : ∀ state event, Flying state → Survives state event →
      Flying (flightStep state event) := by
    intro state event stateFlying survivesEvent
    exact (stateFlying.step event survivesEvent).1
  exact Run.invariant_after preserved flying survives

/-- Reset continuity. Across a survivable reset the checkpoint of a reachable
snapshot loads and restores, the attempt and its latches resume, and every later
tick of the epoch reads the stored elapsed time plus the length of the reset plus
the time since the restore. Over ticks and such resets after liftoff the parachute
never moves back. -/
theorem reset_continuity {machine : MissionStateMachine} (reached : Reachable machine) :
    (∀ reason storedUs rtcNowUs (target : MissionStateMachine) nowUs,
      machine.snapshot.state ≠ .commandReceive →
      ResetSurvivable machine.snapshot reason storedUs rtcNowUs →
      ∃ checkpoint,
        loadFlightCheckpoint (storeFlightCheckpoint machine.snapshot storedUs) reason rtcNowUs =
          some checkpoint ∧
        (target.restoreAfterReset nowUs checkpoint).1 = .completed ∧
        Resumed machine.snapshot (target.restoreAfterReset nowUs checkpoint).2.snapshot ∧
        (machine.snapshot.state ≠ .liftoffDetection →
          ∀ calls guard input safety,
            Run.Along step KeepsEpoch (target.restoreAfterReset nowUs checkpoint).2 calls →
            nowUs ≤ input.monotonicUs →
            machine.snapshot.elapsedUs.toNat + (rtcNowUs.toNat - storedUs.toNat) +
              (input.monotonicUs.toNat - nowUs.toNat) < 2 ^ 64 →
            ((Run.after step (target.restoreAfterReset nowUs checkpoint).2 calls).tick guard input
                safety).1.snapshot.elapsedUs.toNat =
              machine.snapshot.elapsedUs.toNat + (rtcNowUs.toNat - storedUs.toNat) +
                (input.monotonicUs.toNat - nowUs.toNat))) ∧
    (machine.snapshot.liftoffTimeValid = true → ∀ first second,
      Run.Along flightStep Survives machine (first ++ second) →
      (Run.after flightStep machine first).snapshot.parachute ≤
        (Run.after flightStep machine (first ++ second)).snapshot.parachute) := by
  have core := reached.core
  constructor
  · intro reason storedUs rtcNowUs target nowUs sequencing survivable
    obtain ⟨completes, resumed⟩ := resumed_restore core sequencing target nowUs
      (rtcNowUs - storedUs)
    refine ⟨_, load_store core sequencing survivable, completes, resumed, ?_⟩
    intro notArmed calls guard input safety within started fits
    obtain ⟨restoredCore, clock⟩ := restored_flightClock core sequencing notArmed target nowUs
      (rtcNowUs - storedUs)
    generalize (target.restoreAfterReset nowUs _).2 = restored at restoredCore clock within ⊢
    have flying : restored.snapshot.liftoffTimeValid = true :=
      congrArg ElapsedClock.running clock
    obtain ⟨afterCore, afterClock⟩ := flightClock_after restoredCore flying within
    have afterFlying := (liftoffTimeValid_of_clock afterClock).trans flying
    have delta : (rtcNowUs - storedUs).toNat = rtcNowUs.toNat - storedUs.toNat :=
      UInt64.toNat_sub_of_le _ _ survivable.forward
    have offset : (machine.snapshot.elapsedUs + (rtcNowUs - storedUs)).toNat =
        machine.snapshot.elapsedUs.toNat + (rtcNowUs.toNat - storedUs.toNat) := by
      rw [UInt64.toNat_add, delta, Nat.mod_eq_of_lt survivable.fits]
    rw [tick_elapsedUs, elapsedAt_eq_reading, lifted_flightClock afterCore afterFlying, afterClock,
      clock, ElapsedClock.toNat_reading rfl started]
    · rw [offset]
    · rw [offset]
      exact fits
  · intro lifted first second survives
    have flying : Flying machine := ⟨core, reached.directives, lifted⟩
    rw [Run.along_append] at survives
    rw [Run.after_append]
    exact parachute_le_after (flying_after flying survives.1) survives.2

/-- A flight in control 8.5 s after liftoff is down for 2 s, and reads 11 s half a
second after it is restored. -/
theorem reset_continuity_flightToControl :
    (Run.after step {} flightToControl).snapshot.elapsedUs = 8500000 ∧
      ∃ checkpoint,
        loadFlightCheckpoint
          (storeFlightCheckpoint (Run.after step {} flightToControl).snapshot 100) .other
            2000100 = some checkpoint ∧
        (((({} : MissionStateMachine).restoreAfterReset 700 checkpoint).2).tick {}
          { monotonicUs := 500700 } {}).1.snapshot.elapsedUs.toNat = 11000000 := by
  refine ⟨by decide +kernel, ?_⟩
  have reached : Reachable (Run.after step {} flightToControl) :=
    reachable_after .boot (by decide +kernel)
  have continuity := reset_continuity reached
  obtain ⟨checkpoint, loads, -, -, clock⟩ := continuity.1 .other 100 2000100 {} 700
    (by decide +kernel) ⟨by decide, by decide, by decide +kernel⟩
  refine ⟨checkpoint, loads, ?_⟩
  have reading := clock (by decide +kernel) [] {} { monotonicUs := 500700 } {} trivial (by decide)
    (by decide +kernel)
  rw [Run.after_nil] at reading
  rw [reading]
  decide +kernel

end MissionBoard.Flight
