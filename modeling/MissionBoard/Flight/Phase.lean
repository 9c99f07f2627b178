import MissionBoard.Mission.Invariant

/-!
Owns the abstract model of one flight attempt: the phases it passes through and
the order it passes through them in. The mission state machine refines it: within
one flight epoch, and without a reset, every operation moves the phase forward or
leaves it where it is.

The order is what makes a phase one-shot: a phase once left is never entered again.
-/

namespace MissionBoard.Flight

open Protocol Mission MissionStateMachine Control

/-- How far a flight attempt has come. -/
inductive FlightPhase where
  | armed
  | awaitingGate
  | controlling
  | gateClosed
  | deployed
  | grounded
deriving DecidableEq

namespace FlightPhase

/-- The place of a phase in the attempt. -/
def rank : FlightPhase → ℕ
  | .armed => 0
  | .awaitingGate => 1
  | .controlling => 2
  | .gateClosed => 3
  | .deployed => 4
  | .grounded => 5

theorem rank_injective : Function.Injective rank := by
  intro left right same
  cases left <;> cases right <;> first | rfl | contradiction

/-- One phase is at most another when the attempt can pass from it to the other. -/
instance : PartialOrder FlightPhase := PartialOrder.lift rank rank_injective

instance : DecidableLE FlightPhase := fun left right =>
  inferInstanceAs (Decidable (left.rank ≤ right.rank))

/-- The phase a mission state stands for, given whether the gate was decided. -/
def of (state : MissionState) (gateEvaluated : Bool) : FlightPhase :=
  match state with
  | .liftoffDetection => .armed
  | .engineBurn => if gateEvaluated then .gateClosed else .awaitingGate
  | .control => .controlling
  | .descent => .deployed
  | .commandReceive | .unknown => .grounded

/-- Only the control state stands for the controlling phase. -/
theorem of_eq_controlling {state : MissionState} {gateEvaluated : Bool} :
    FlightPhase.of state gateEvaluated = .controlling ↔ state = .control := by
  cases state <;> cases gateEvaluated <;> decide

/-- From any phase of a burning or controlled flight the attempt can deploy. -/
theorem le_deployed {state : MissionState} {gateEvaluated : Bool}
    (flying : state = .engineBurn ∨ state = .control) :
    FlightPhase.of state gateEvaluated ≤ .deployed := by
  rcases flying with rfl | rfl <;> cases gateEvaluated <;> decide

end FlightPhase

/-- The phase of the machine. -/
def phase (machine : MissionStateMachine) : FlightPhase :=
  .of machine.snapshot.state machine.controlGateEvaluated

theorem phase_eq_controlling {machine : MissionStateMachine} :
    phase machine = .controlling ↔ machine.snapshot.state = .control :=
  FlightPhase.of_eq_controlling

section Blocks

variable {machine : MissionStateMachine} (core : Core machine) (guard : FinOvertravelGuard)
  (input : MissionTickInput) (safety : SafetyRequest) (current : Bool) (elapsedUs : UInt64)

/-! ### The blocks of `tick` -/

private theorem phase_latchSafetyCutoff (machine : MissionStateMachine) :
    phase (machine.latchSafetyCutoff safety) = phase machine := by
  unfold latchSafetyCutoff
  split <;> rfl

private theorem phase_le_detectLiftoff (machine : MissionStateMachine) :
    phase machine ≤ phase (machine.detectLiftoff input) := by
  unfold detectLiftoff
  split
  · next lifts =>
    unfold phase
    rw [lifts.1]
    exact (by decide : FlightPhase.armed ≤ .awaitingGate)
  · exact le_rfl

private theorem phase_recordElapsed (machine : MissionStateMachine) :
    phase (machine.recordElapsed input elapsedUs) = phase machine := rfl

/-- Control that ends by the state alone ends past the gate, which control implies
was decided. -/
private theorem phase_le_leftControl (core : Core machine) {left : MissionStateMachine}
    (controlling : machine.snapshot.state = .control) (burning : left.snapshot.state = .engineBurn)
    (gate : left.controlGateEvaluated = machine.controlGateEvaluated) :
    phase machine ≤ phase left := by
  unfold phase
  rw [controlling, burning, gate, core.gate controlling]
  decide

include core in
private theorem phase_le_blockOnOvertravel :
    phase machine ≤ phase (machine.blockOnOvertravel guard) := by
  unfold blockOnOvertravel
  split
  · dsimp only
    split
    · next controlling => exact phase_le_leftControl core controlling rfl rfl
    · exact le_rfl
  · exact le_rfl

private theorem phase_le_decideDeployment (machine : MissionStateMachine) :
    phase machine ≤ phase (machine.decideDeployment input safety current elapsedUs) := by
  unfold decideDeployment
  split
  · next deploys => exact FlightPhase.le_deployed deploys.1
  · exact le_rfl

/-- A gate that is due leaves the awaiting phase for good. -/
private theorem phase_of_gateDue (due : machine.GateDue elapsedUs) :
    phase machine = .awaitingGate := by
  unfold phase
  rw [due.burning, due.pending]
  rfl

private theorem phase_gateRefused (due : machine.GateDue elapsedUs) :
    phase machine.gateRefused = .gateClosed := by
  show FlightPhase.of machine.snapshot.state true = .gateClosed
  rw [due.burning]
  rfl

private theorem phase_le_evaluateControlGate (machine : MissionStateMachine) :
    phase machine ≤ phase (machine.evaluateControlGate input elapsedUs) := by
  have outcome := machine.gateOutcome input elapsedUs
  generalize machine.evaluateControlGate input elapsedUs = next at outcome ⊢
  cases outcome with
  | kept => exact le_rfl
  | refused due =>
      rw [phase_of_gateDue elapsedUs due, phase_gateRefused elapsedUs due]
      decide
  | reentered due =>
      rw [phase_of_gateDue elapsedUs due]
      exact (by decide : FlightPhase.awaitingGate ≤ .controlling)
  | opened due =>
      rw [phase_of_gateDue elapsedUs due]
      exact (by decide : FlightPhase.awaitingGate ≤ .controlling)

include core in
private theorem phase_le_leaveControlUnlessReady :
    phase machine ≤ phase (machine.leaveControlUnlessReady input) := by
  unfold leaveControlUnlessReady
  split
  · next leaves => exact phase_le_leftControl core leaves.1 rfl rfl
  · exact le_rfl

private theorem phase_latchPowerCutoff (machine : MissionStateMachine) :
    phase (machine.latchPowerCutoff elapsedUs) = phase machine := by
  unfold latchPowerCutoff
  split <;> rfl

private theorem phase_updateDirectives (nowUs : UInt64) (machine : MissionStateMachine) :
    phase (machine.updateDirectives nowUs) = phase machine := rfl

end Blocks

section Tick

variable {machine : MissionStateMachine} (core : Core machine) (guard : FinOvertravelGuard)
  (input : MissionTickInput) (safety : SafetyRequest)

include core

theorem phase_le_beforeGate : phase machine ≤ phase (machine.beforeGate guard input safety) := by
  have lifted := core.lifted input safety
  calc
    phase machine = phase (machine.latchSafetyCutoff safety) :=
      (phase_latchSafetyCutoff safety machine).symm
    _ ≤ phase (machine.lifted input safety) := phase_le_detectLiftoff input _
    _ = phase ((machine.lifted input safety).recordElapsed input
          ((machine.lifted input safety).elapsedAt input.monotonicUs)) :=
      (phase_recordElapsed input _ _).symm
    _ ≤ phase (((machine.lifted input safety).recordElapsed input
          ((machine.lifted input safety).elapsedAt input.monotonicUs)).blockOnOvertravel guard) :=
      phase_le_blockOnOvertravel (lifted.recordElapsed input _) guard
    _ ≤ phase (machine.beforeGate guard input safety) :=
      phase_le_decideDeployment input safety _ _ _

/-- After the gate the rest of the tick moves the phase forward. -/
theorem phase_evaluateControlGate_le_tick :
    phase ((machine.beforeGate guard input safety).evaluateControlGate input
        ((machine.lifted input safety).elapsedAt input.monotonicUs)) ≤
      phase (machine.tick guard input safety).1 := by
  have gated := (core.beforeGate guard input safety).evaluateControlGate input
    ((machine.lifted input safety).elapsedAt input.monotonicUs)
  rw [tick_machine, phase_updateDirectives, phase_latchPowerCutoff]
  exact phase_le_leaveControlUnlessReady gated input

theorem phase_le_tick : phase machine ≤ phase (machine.tick guard input safety).1 := by
  calc
    phase machine ≤ phase (machine.beforeGate guard input safety) :=
      phase_le_beforeGate core guard input safety
    _ ≤ _ := phase_le_evaluateControlGate input _ _
    _ ≤ _ := phase_evaluateControlGate_le_tick core guard input safety

/-- From 8 s on a tick leaves the attempt at or past control: the gate is decided
by that tick at the latest. -/
theorem controlling_le_phase_tick
    (late : kControlGateUs ≤ (machine.lifted input safety).elapsedAt input.monotonicUs) :
    .controlling ≤ phase (machine.tick guard input safety).1 := by
  refine le_trans ?_ (phase_evaluateControlGate_le_tick core guard input safety)
  have running : (machine.lifted input safety).snapshot.liftoffTimeValid = true := by
    by_contra stopped
    rw [elapsedAt_eq_reading,
      ElapsedClock.reading_stopped (Bool.eq_false_of_not_eq_true stopped)] at late
    exact absurd late (by decide)
  have before := core.beforeGate guard input safety
  have clock : (machine.beforeGate guard input safety).flightClock =
      (machine.lifted input safety).flightClock := by
    simp [beforeGate]
  have lifted : (machine.beforeGate guard input safety).snapshot.liftoffTimeValid = true :=
    (liftoffTimeValid_of_clock clock).trans running
  have forward := phase_le_evaluateControlGate input
    ((machine.lifted input safety).elapsedAt input.monotonicUs)
    (machine.beforeGate guard input safety)
  rcases before.liftoff.mp lifted with burning | controlling | descending
  · have outcome := (machine.beforeGate guard input safety).gateOutcome input
      ((machine.lifted input safety).elapsedAt input.monotonicUs)
    generalize (machine.beforeGate guard input safety).evaluateControlGate input
      ((machine.lifted input safety).elapsedAt input.monotonicUs) = next at outcome ⊢
    cases outcome with
    | kept notDue =>
        have evaluated : (machine.beforeGate guard input safety).controlGateEvaluated = true := by
          by_contra pending
          exact notDue ⟨burning, lifted, late, Bool.eq_false_of_not_eq_true pending⟩
        unfold phase
        rw [burning, evaluated]
        decide
    | refused due =>
        rw [phase_gateRefused _ due]
        decide
    | reentered => exact le_rfl
    | opened => exact le_rfl
  · refine le_trans (le_of_eq ?_) forward
    exact (phase_eq_controlling.mpr controlling).symm
  · refine le_trans ?_ forward
    unfold phase
    rw [descending]
    exact (by decide : FlightPhase.controlling ≤ .deployed)

end Tick

/-- The call is no restore and stays within the flight epoch it finds. -/
def KeepsEpoch (machine : MissionStateMachine) (call : Call) : Prop :=
  call.operation.isRestore = false ∧
    (machine.step call).snapshot.flightEpoch = machine.snapshot.flightEpoch

instance (machine : MissionStateMachine) (call : Call) : Decidable (KeepsEpoch machine call) :=
  inferInstanceAs (Decidable (_ ∧ _))

/-- The machine refines the attempt: within an epoch the phase moves forward. -/
theorem phase_le_step {machine : MissionStateMachine} (core : Core machine) {call : Call}
    (keeps : KeepsEpoch machine call) : phase machine ≤ phase (machine.step call) := by
  obtain ⟨ordinary, epoch⟩ := keeps
  have outcome := machine.outcome call
  generalize machine.step call = next, (machine.perform call).result = result at outcome epoch ⊢
  cases outcome with
  | refused => exact le_rfl
  | started => exact absurd epoch (nextEpoch_ne _)
  | rolledBack => exact absurd epoch (nextEpoch_ne _)
  | restoredArmed | restoredFlying => contradiction
  | cancelled guard armed =>
      unfold phase
      rw [armed]
      exact (by decide : FlightPhase.armed ≤ .grounded)
  | controlDisabled guard sequencing =>
      unfold controlDisabled
      dsimp only
      split
      · next controlling => exact phase_le_leftControl core controlling rfl rfl
      · exact le_rfl
  | ticked guard input safety => exact phase_le_tick core guard input safety

/-- An ordinary call keeps the invariant. -/
theorem core_step_of_ordinary {machine : MissionStateMachine} (core : Core machine) {call : Call}
    (ordinary : call.operation.isRestore = false) : Core (machine.step call) := by
  apply core.step call
  intro nowUs checkpoint restores
  rw [restores] at ordinary
  contradiction

/-- Within an epoch no run moves the phase back. -/
theorem phase_le_after {machine : MissionStateMachine} (core : Core machine) {calls : List Call}
    (within : Run.Along step KeepsEpoch machine calls) :
    phase machine ≤ phase (Run.after step machine calls) := by
  have preserved : ∀ state call, Core state → KeepsEpoch state call →
      Core (step state call) ∧ phase state ≤ phase (step state call) := by
    intro state call core keeps
    exact ⟨core_step_of_ordinary core keeps.1, phase_le_step core keeps⟩
  exact Run.measure_le_after preserved core within

theorem core_after {machine : MissionStateMachine} (core : Core machine) {calls : List Call}
    (within : Run.Along step KeepsEpoch machine calls) :
    Core (Run.after step machine calls) := by
  have preserved : ∀ state call, Core state → KeepsEpoch state call → Core (step state call) := by
    intro state call core keeps
    exact core_step_of_ordinary core keeps.1
  exact Run.invariant_after preserved core within

end MissionBoard.Flight
