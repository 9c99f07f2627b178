import MissionBoard.Runtime.FinOutput
import MissionBoard.Runtime.Reachable

/-!
Owns when the motor turns in flight, from the mission state machine down to the inputs of the bridge: only as
a snapshot allows it that some history of operations and resets has left.
-/

namespace MissionBoard.Runtime

open Actuators Protocol Mission
open Characterization (espOk)

/-! ### The fin directive -/

/-- The fin directive is the one that `updateDirectives` would write at some time. -/
def Directed (machine : MissionStateMachine) : Prop :=
  ∃ nowUs, machine.snapshot.fin = machine.finDirective nowUs

theorem directed_updateDirectives (machine : MissionStateMachine) (nowUs : UInt64) :
    Directed (machine.updateDirectives nowUs) := ⟨nowUs, rfl⟩

theorem Directed.step {machine : MissionStateMachine} (directed : Directed machine) (call : Call) :
    Directed (machine.step call) := by
  have outcome := machine.outcome call
  generalize machine.step call = next, (machine.perform call).result = result at outcome ⊢
  cases outcome with
  | refused => exact directed
  | started => exact directed_updateDirectives _ _
  | cancelled => exact directed_updateDirectives _ _
  | controlDisabled => exact directed_updateDirectives _ _
  | rolledBack => exact directed_updateDirectives _ _
  | restoredArmed => exact directed_updateDirectives _ _
  | restoredFlying => exact directed_updateDirectives _ _
  | ticked =>
      rw [MissionStateMachine.tick_machine]
      exact directed_updateDirectives _ _

theorem Reachable.directed {machine : MissionStateMachine} (reached : Reachable machine) :
    Directed machine := by
  induction reached with
  | boot => exact ⟨0, rfl⟩
  | call _ call _ inductionHypothesis => exact inductionHypothesis.step call
  | reset _ _ nowUs _ machineDirected _ =>
      exact machineDirected.step ⟨{}, .restoreAfterReset nowUs _⟩

/-- What a flight allows that is to move its fin -/
structure Moves (snapshot : MissionSnapshot) : Prop where
  whole : snapshot.resetInvalidated = false
  enabled : snapshot.finControlDisabled = false
  prepared : finFlightReadinessValid snapshot = true
  control : snapshot.state = .control ↔ snapshot.fin = .rollControl

/-- Any directive but to brake says that the flight may move its fin. -/
theorem Directed.moves {machine : MissionStateMachine} (directed : Directed machine)
    (moving : machine.snapshot.fin = .zeroHold ∨ machine.snapshot.fin = .rollControl) :
    Moves machine.snapshot := by
  obtain ⟨nowUs, written⟩ := directed
  have unbraked : machine.finDirective nowUs ≠ .brake := by
    intro brakes
    rw [written, brakes] at moving
    rcases moving with hold | roll
    · cases hold
    · cases roll
  unfold MissionStateMachine.finDirective at unbraked written
  dsimp only at unbraked written
  by_cases refused : machine.snapshot.resetInvalidated = true ∨
      machine.snapshot.finControlDisabled = true
  · rw [if_pos refused] at unbraked
    exact absurd rfl unbraked
  rw [if_neg refused] at unbraked written
  simp only [not_or, Bool.not_eq_true] at refused
  by_cases control : machine.snapshot.state = .control
  · rw [if_pos control] at unbraked written
    cases prepared : finFlightReadinessValid machine.snapshot
    · rw [prepared] at unbraked
      exact absurd rfl unbraked
    · rw [prepared] at written
      exact ⟨refused.1, refused.2, prepared, fun _ => written, fun _ => control⟩
  · rw [if_neg control] at unbraked written
    split_ifs at unbraked written with flying late available
    · exact absurd rfl unbraked
    · refine ⟨refused.1, refused.2, available.2, fun controls => absurd controls control, ?_⟩
      intro rolls
      rw [written] at rolls
      cases rolls
    · exact absurd rfl unbraked
    · exact absurd rfl unbraked

/-! ### The motor in flight -/

namespace FinOutput

variable {answers : ℕ → Int32} {safeOutputs : Bool} {output : FinOutput} {input : OutputInput}

/-- In flight a mode that is neither free nor brake is the mission's own. -/
theorem reportedMode_flight (flying : input.status.missionSnapshot.state ≠ .commandReceive)
    (notFree : output.reportedMode input ≠ .free) (notBrake : output.reportedMode input ≠ .brake) :
    output.reportedMode input = .rollControl ↔ input.status.missionSnapshot.fin = .rollControl := by
  have coasting : output.coasting = false := by
    by_contra coasts
    exact notFree (reportedMode_coasting (Bool.eq_true_of_not_eq_false coasts))
  have braking : output.braking = false := by
    by_contra brakes
    exact notBrake (reportedMode_braking coasting (Bool.eq_true_of_not_eq_false brakes))
  unfold reportedMode StatusInput.finMode StatusInput.finMode.commanded
  simp only [coasting, braking, Bool.false_eq_true, if_false, flying]
  cases input.status.missionSnapshot.fin <;> simp

/-- In flight the inputs of the bridge differ after an iteration whose last call has succeeded only if no call
for the output has ever failed, the motor profile is valid, no reset and no command has disabled the fin, it
was zeroed before the start, and its mode is roll control exactly in the control state. -/
theorem flight_turns_permitted {machine : MissionStateMachine} (reachable : Reachable machine)
    {inputs : List OutputInput} {input : OutputInput}
    (read : input.status.missionSnapshot = machine.snapshot)
    (flying : machine.snapshot.state ≠ .commandReceive)
    (ok : ((reached answers safeOutputs inputs).iterate answers input).result = espOk)
    (turns : ((reached answers safeOutputs inputs).iterate answers input).motor.outputs.in1.level ≠
      ((reached answers safeOutputs inputs).iterate answers input).motor.outputs.in2.level) :
    (reached answers safeOutputs inputs).motorReady = true ∧
      input.status.motorProfileValid = true ∧ machine.snapshot.resetInvalidated = false ∧
      machine.snapshot.finControlDisabled = false ∧
      finFlightReadinessValid machine.snapshot = true ∧
      (((reached answers safeOutputs inputs).iterate answers input).reportedMode input =
        .rollControl ↔ machine.snapshot.state = .control) := by
  have shown := shows_iterate (truthful_reached inputs) ok
  have notFree : ((reached answers safeOutputs inputs).iterate answers input).reportedMode input ≠
      .free := by
    intro free
    have low := shown.free free
    exact turns ((congrArg Prod.fst low).trans (congrArg Prod.snd low).symm)
  have notBrake : ((reached answers safeOutputs inputs).iterate answers input).reportedMode input ≠
      .brake := by
    intro brake
    have high := shown.brake brake
    exact turns ((congrArg Prod.fst high).trans (congrArg Prod.snd high).symm)
  obtain ⟨ready, ⟨-, permits⟩, -, -, -⟩ := shown.turning notFree notBrake
  have reads : input.status.missionSnapshot.state ≠ .commandReceive := by
    rw [read]
    exact flying
  rw [if_neg reads, read] at permits
  have moving : machine.snapshot.fin = .zeroHold ∨ machine.snapshot.fin = .rollControl :=
    permits.2.imp And.left And.left
  have moves := reachable.directed.moves moving
  have mode := reportedMode_flight reads notFree notBrake
  rw [read] at mode
  exact ⟨ready, permits.1, moves.whole, moves.enabled, moves.prepared, mode.trans moves.control.symm⟩

/-- The machine after a start with all that the fin needs -/
def startedMachine : MissionStateMachine :=
  MissionStateMachine.step {} ⟨{}, .startSequence
    { finZeroConfigured := true, motorProfileValid := true, resourcesPreallocated := true } .forced⟩

/-- Zero hold while the flight waits for liftoff -/
def flownInput : OutputInput where
  status :=
    { missionSnapshot := startedMachine.snapshot
      finSampleValid := true
      motorProfileValid := true }
  requestValid := true
  motorCommand := ⟨.finite (1 / 4), true, false, true⟩

theorem flight_turns_permitted_started :
    (reached (fun _ => 0) true []).motorReady = true ∧
      flownInput.status.motorProfileValid = true ∧
      startedMachine.snapshot.resetInvalidated = false ∧
      startedMachine.snapshot.finControlDisabled = false ∧
      finFlightReadinessValid startedMachine.snapshot = true ∧
      (((reached (fun _ => 0) true []).iterate (fun _ => 0) flownInput).reportedMode flownInput =
        .rollControl ↔ startedMachine.snapshot.state = .control) :=
  flight_turns_permitted (Reachable.boot.call _ rfl) rfl (by decide) (by decide +kernel)
    (by decide +kernel)

end FinOutput

end MissionBoard.Runtime
