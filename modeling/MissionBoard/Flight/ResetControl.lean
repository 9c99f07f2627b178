import MissionBoard.Runtime.Reachable

/-!
Owns whether control can follow a reset. A restore inhibits control; the only
operation short of a new start that lifts the inhibition is the emergency stop,
which copies the disable command into it. A run after a restore stays out of
control as long as no emergency stop lifts it over valid preflight readiness, and
one that does can be carried on into control.
-/

namespace MissionBoard.Flight

open Protocol Mission MissionStateMachine Control MissionBoard.Runtime

/-- The call is a start sequence that completes. -/
def CompletesStart (machine : MissionStateMachine) (call : Call) : Prop :=
  call.operation.isStart = true ∧ (machine.perform call).result = .completed

instance (machine : MissionStateMachine) (call : Call) : Decidable (CompletesStart machine call) :=
  inferInstanceAs (Decidable (_ ∧ _))

/-- An emergency stop that would complete leaves control impossible: fin control
is disabled by command, or the attempt has no valid fin readiness. -/
def RollbackInhibits (machine : MissionStateMachine) (call : Call) : Prop :=
  call.operation = .liftoffDetectionEmergencyStop → machine.snapshot.state = .engineBurn →
    machine.snapshot.finControlDisabled = true ∨ finFlightReadinessValid machine.snapshot = false

instance (machine : MissionStateMachine) (call : Call) :
    Decidable (RollbackInhibits machine call) :=
  inferInstanceAs (Decidable (_ → _ → _))

/-- Control is neither held nor within reach of a tick. -/
structure ControlBarred (machine : MissionStateMachine) : Prop where
  outside : machine.snapshot.state ≠ .control
  barred : machine.snapshot.state = .commandReceive ∨
    machine.snapshot.controlReentryInhibited = true ∨
      finFlightReadinessValid machine.snapshot = false

/-- A tick keeps control barred. -/
theorem ControlBarred.tick {machine : MissionStateMachine} (barred : ControlBarred machine)
    (guard : FinOvertravelGuard) (input : MissionTickInput) (safety : SafetyRequest) :
    ControlBarred (machine.tick guard input safety).1 := by
  obtain ⟨outside, why⟩ := barred
  have readiness : finFlightReadinessValid (machine.tick guard input safety).1.snapshot =
      finFlightReadinessValid machine.snapshot :=
    finFlightReadinessValid_of_attempt (tick_attempt machine guard input safety)
  constructor
  · intro controlling
    obtain ⟨due, admits⟩ := gate_of_control machine guard input safety outside controlling
    rcases why with receiving | inhibited | unready
    · have grounded := commandReceive_beforeGate machine guard input safety receiving
      rw [due.burning] at grounded
      contradiction
    · have before := inhibited_beforeGate machine guard input safety inhibited
      rw [admits.permitted] at before
      contradiction
    · have same : finFlightReadinessValid (machine.beforeGate guard input safety).snapshot =
          finFlightReadinessValid machine.snapshot :=
        finFlightReadinessValid_of_attempt (beforeGate_attempt machine guard input safety)
      rw [admits.readiness, unready] at same
      contradiction
  · rcases why with receiving | inhibited | unready
    · exact Or.inl (commandReceive_tick machine guard input safety receiving)
    · exact Or.inr (Or.inl (inhibited_tick machine guard input safety inhibited))
    · exact Or.inr (Or.inr (readiness.trans unready))

private theorem controlBarred_controlDisabled (machine : MissionStateMachine) :
    ControlBarred machine.controlDisabled := by
  unfold controlDisabled
  dsimp only
  split
  · exact ⟨nofun, Or.inr (Or.inl rfl)⟩
  · next outside => exact ⟨outside, Or.inr (Or.inl rfl)⟩

/-- Every accepted restore bars control. -/
theorem controlBarred_restore {machine : MissionStateMachine} {nowUs : UInt64}
    {checkpoint : ResetCheckpoint}
    (restores : (machine.restoreAfterReset nowUs checkpoint).1 = .completed) :
    ControlBarred (machine.restoreAfterReset nowUs checkpoint).2 := by
  rcases restoreAfterReset_cases machine nowUs checkpoint with
    ⟨-, -, armed⟩ | ⟨-, -, flying⟩ | ⟨-, refused⟩
  · rw [armed]
    exact ⟨nofun, Or.inr (Or.inl rfl)⟩
  · rw [flying]
    refine ⟨?_, Or.inr (Or.inl rfl)⟩
    show (if checkpoint.deploymentStarted = true ∨ checkpoint.state = .descent then
      MissionState.descent else .engineBurn) ≠ .control
    split <;> decide
  · rw [refused] at restores
    contradiction

/-- Short of a completed start, a call keeps control barred unless it is a
rollback that lifts the inhibition. -/
theorem ControlBarred.step {machine : MissionStateMachine} (barred : ControlBarred machine)
    {call : Call} (noStart : ¬ CompletesStart machine call)
    (inhibits : RollbackInhibits machine call) : ControlBarred (machine.step call) := by
  unfold CompletesStart at noStart
  have outcome := machine.outcome call
  generalize machine.step call = next,
    (machine.perform call).result = result at outcome noStart ⊢
  cases outcome with
  | refused => exact barred
  | started => exact absurd ⟨rfl, rfl⟩ noStart
  | cancelled => exact ⟨nofun, Or.inl rfl⟩
  | controlDisabled => exact controlBarred_controlDisabled machine
  | rolledBack guard burning =>
      refine ⟨nofun, Or.inr ?_⟩
      rcases inhibits rfl burning with disabled | unready
      · exact Or.inl disabled
      · exact Or.inr ((finFlightReadinessValid_congr rfl).trans unready)
  | restoredArmed guard nowUs checkpoint => exact ⟨nofun, Or.inr (Or.inl rfl)⟩
  | restoredFlying guard nowUs checkpoint =>
      refine ⟨?_, Or.inr (Or.inl rfl)⟩
      show (if checkpoint.deploymentStarted = true ∨ checkpoint.state = .descent then
        MissionState.descent else .engineBurn) ≠ .control
      split <;> decide
  | ticked guard input safety => exact barred.tick guard input safety

/-! ### A rollback that lifts the inhibition -/

/-- A liftoff at 1 s and, at 8 s, a tick with every control input ready. -/
def liftoffAndGate : List Call := [readyTick 1000000 true, readyTick 8000000 false]

/-- A flight lifted off at time zero, with nothing against control. -/
private structure GateOpenable (machine : MissionStateMachine) : Prop where
  burning : machine.snapshot.state = .engineBurn
  lifted : machine.snapshot.liftoffTimeValid = true
  origin : machine.snapshot.liftoffTimeUs = 0
  offset : machine.elapsedOffsetUs = 0
  pending : machine.controlGateEvaluated = false
  unreferenced : machine.snapshot.controlRollReferenceValid = false
  enabled : machine.snapshot.finControlDisabled = false
  permitted : machine.snapshot.controlReentryInhibited = false
  readiness : finFlightReadinessValid machine.snapshot = true

/-- The liftoff after a rollback that found control enabled and ready. -/
private theorem gateOpenable_after_rollback {machine : MissionStateMachine}
    (enabled : machine.snapshot.finControlDisabled = false)
    (ready : finFlightReadinessValid machine.snapshot = true) :
    GateOpenable (machine.rolledBack.step (readyTick 1000000 true)) := by
  have attempt : (machine.rolledBack.step (readyTick 1000000 true)).snapshot.attempt =
      machine.rolledBack.snapshot.attempt := tick_attempt _ _ _ _
  have readiness := (finFlightReadinessValid_of_attempt attempt).trans
    ((finFlightReadinessValid_congr rfl).trans ready)
  refine ⟨?_, ?_, ?_, ?_, ?_, ?_, ?_, ?_, readiness⟩ <;>
    simp [readyTick, tick_machine, beforeGate, MissionStateMachine.lifted, latchSafetyCutoff,
      currentSafety, detectLiftoff, rolledBack, updateDirectives, invalidateLiftoff,
      invalidateControlRollReference, elapsedAt, recordElapsed, blockOnOvertravel, kOneSecondUs,
      decideDeployment, kPressureDeploymentGateUs, kDeploymentDeadlineUs, evaluateControlGate,
      kControlGateUs, leaveControlUnlessReady, latchPowerCutoff, kPowerCutoffUs, enabled]

private theorem readyControl_ready : (readyControl 8000000).ready = true := by decide

private theorem control_of_gateOpenable {machine : MissionStateMachine}
    (openable : GateOpenable machine) :
    (machine.step (readyTick 8000000 false)).snapshot.state = .control := by
  obtain ⟨burning, lifted, origin, offset, pending, unreferenced, enabled, permitted, readiness⟩ :=
    openable
  have ready := readyControl_ready
  have stamp : (readyControl 8000000).rollEstimatorTimestampUs = 8000000 := rfl
  have sameReadiness : ∀ snapshot : MissionSnapshot,
      snapshot.preflightReadyMask = machine.snapshot.preflightReadyMask →
      finFlightReadinessValid snapshot = true := by
    intro snapshot same
    exact (finFlightReadinessValid_congr same).trans readiness
  simp [readyTick, tick_machine, beforeGate, MissionStateMachine.lifted, latchSafetyCutoff,
    currentSafety, detectLiftoff, elapsedAt, recordElapsed, blockOnOvertravel, kOneSecondUs,
    decideDeployment, kPressureDeploymentGateUs, kDeploymentDeadlineUs, evaluateControlGate,
    kControlGateUs, captureControlRollReference, kRollEstimateFreshnessUs, enterControl,
    leaveControlUnlessReady, withControlRollReference, burning, lifted, origin, offset, pending,
    unreferenced, enabled, permitted, sameReadiness, ready, stamp]

theorem control_after_rollback {machine : MissionStateMachine}
    (burning : machine.snapshot.state = .engineBurn)
    (enabled : machine.snapshot.finControlDisabled = false)
    (ready : finFlightReadinessValid machine.snapshot = true) :
    (Run.after step (machine.step ⟨{}, .liftoffDetectionEmergencyStop⟩)
      liftoffAndGate).snapshot.state = .control := by
  have rollback : machine.step ⟨{}, .liftoffDetectionEmergencyStop⟩ = machine.rolledBack := by
    rw [step_liftoffDetectionEmergencyStop]
    unfold liftoffDetectionEmergencyStop
    rw [if_neg (not_not.mpr burning)]
  rw [rollback]
  exact control_of_gateOpenable (gateOpenable_after_rollback enabled ready)

/-- Control after a reset. A run after a completed restore, with no completed
start, never reaches control while its emergency stops leave control inhibited;
and after any emergency stop that does not, two ticks reach it. -/
theorem reset_bars_control {machine : MissionStateMachine} {nowUs : UInt64}
    {checkpoint : ResetCheckpoint}
    (restores : (machine.restoreAfterReset nowUs checkpoint).1 = .completed) :
    (∀ calls,
      Run.Along step (fun state call => ¬ CompletesStart state call ∧ RollbackInhibits state call)
        (machine.restoreAfterReset nowUs checkpoint).2 calls →
      (Run.after step (machine.restoreAfterReset nowUs checkpoint).2 calls).snapshot.state ≠
        .control) ∧
    (∀ calls,
      Run.Along step (fun state call => ¬ CompletesStart state call)
        (machine.restoreAfterReset nowUs checkpoint).2 calls →
      ¬ RollbackInhibits (Run.after step (machine.restoreAfterReset nowUs checkpoint).2 calls)
        ⟨{}, .liftoffDetectionEmergencyStop⟩ →
      Run.Along step (fun state call => ¬ CompletesStart state call)
          (machine.restoreAfterReset nowUs checkpoint).2
          (calls ++ ⟨{}, .liftoffDetectionEmergencyStop⟩ :: liftoffAndGate) ∧
        (Run.after step (machine.restoreAfterReset nowUs checkpoint).2
          (calls ++ ⟨{}, .liftoffDetectionEmergencyStop⟩ :: liftoffAndGate)).snapshot.state =
            .control) := by
  constructor
  · intro calls along
    have preserved : ∀ state call, ControlBarred state →
        (¬ CompletesStart state call ∧ RollbackInhibits state call) →
        ControlBarred (step state call) := by
      intro state call barred permitted
      exact barred.step permitted.1 permitted.2
    exact (Run.invariant_after preserved (controlBarred_restore restores) along).outside
  · intro calls along lifts
    generalize (machine.restoreAfterReset nowUs checkpoint).2 = restored at along lifts ⊢
    unfold RollbackInhibits at lifts
    simp only [true_implies, Classical.not_imp, not_or, Bool.not_eq_true,
      Bool.not_eq_false] at lifts
    obtain ⟨burning, enabled, ready⟩ := lifts
    constructor
    · have ordinary : ∀ state (call : Call), call.operation.isStart = false →
          ¬ CompletesStart state call := by
        rintro state call notStart ⟨isStart, -⟩
        rw [notStart] at isStart
        exact Bool.false_ne_true isStart
      rw [Run.along_append]
      refine ⟨along, ?_⟩
      unfold liftoffAndGate
      rw [Run.along_cons, Run.along_cons, Run.along_cons]
      exact ⟨ordinary _ _ rfl, ordinary _ _ rfl, ordinary _ _ rfl, trivial⟩
    · rw [Run.after_append, Run.after_cons]
      exact control_after_rollback burning enabled ready

/-- The checkpoint of a flight in engine burn, 3 s after liftoff, with every
preflight item ready. -/
def burningCheckpoint : ResetCheckpoint where
  valid := true
  state := .engineBurn
  flightEpoch := 1
  elapsedValid := true
  elapsedUs := 3000000
  preflightGeneration := 1
  preflightReadyMask := 0x1F

/-- A restored flight stays out of control when control is disabled before the
emergency stop. -/
theorem reset_bars_control_disabled :
    (Run.after step ((({} : MissionStateMachine).restoreAfterReset 500000 burningCheckpoint).2)
      (⟨{}, .disableFinControl⟩ :: ⟨{}, .liftoffDetectionEmergencyStop⟩ ::
        liftoffAndGate)).snapshot.state ≠ .control :=
  (reset_bars_control (by decide +kernel)).1 _ (by decide +kernel)

/-- A restored flight rolled back to liftoff detection reaches control at its
next liftoff. -/
theorem reset_reaches_control :
    ¬ ∀ (machine : MissionStateMachine) (nowUs : UInt64) (checkpoint : ResetCheckpoint)
        (calls : List Call), Reachable machine →
      (machine.restoreAfterReset nowUs checkpoint).1 = .completed →
      Run.Along step (fun state call => ¬ CompletesStart state call)
        (machine.restoreAfterReset nowUs checkpoint).2 calls →
      (Run.after step (machine.restoreAfterReset nowUs checkpoint).2 calls).snapshot.state ≠
        .control := by
  intro always
  have outside := always {} 500000 burningCheckpoint
    (⟨{}, .liftoffDetectionEmergencyStop⟩ :: liftoffAndGate) .boot (by decide +kernel)
    (by decide +kernel)
  exact outside (by decide +kernel)

end MissionBoard.Flight
