import MissionBoard.Flight.Phase
import MissionBoard.Runtime.Reachable

/-!
Owns the one-shot control gate over whole runs: when control is entered, which
roll reference is captured there, and what neither can do again within the epoch.

The phase order carries the run; this module adds what one tick can do to the
roll reference.
-/

namespace MissionBoard.Flight

open Protocol Mission MissionStateMachine Control MissionBoard.Runtime

/-- The roll reference a snapshot holds. -/
structure ControlRollReference where
  unwrappedRad : Double
  captureTick : UInt64
  estimatorTimestampUs : UInt64
  captureEventSequence : UInt8
deriving DecidableEq

/-- The reference of a machine, when it is valid. -/
def rollReference (machine : MissionStateMachine) : Option ControlRollReference :=
  if machine.snapshot.controlRollReferenceValid then
    some
      { unwrappedRad := machine.snapshot.controlRollReferenceUnwrappedRad
        captureTick := machine.snapshot.controlRollReferenceCaptureTick
        estimatorTimestampUs := machine.snapshot.controlRollReferenceEstimatorTimestampUs
        captureEventSequence := machine.snapshot.controlRollReferenceCaptureEventSequence }
  else none

/-- The reference a tick's input captures. -/
def capturedReference (machine : MissionStateMachine) (input : MissionTickInput) :
    ControlRollReference where
  unwrappedRad := input.control.rollEstimateLiftoffRelativeUnwrappedRad
  captureTick := input.controlTick
  estimatorTimestampUs := input.control.rollEstimatorTimestampUs
  captureEventSequence := machine.controlRollReferenceCaptureEventSequence + 1

theorem rollReference_eq_none {machine : MissionStateMachine}
    (invalid : machine.snapshot.controlRollReferenceValid = false) :
    rollReference machine = none := by
  unfold rollReference
  rw [invalid]
  rfl

section Tick

variable (machine : MissionStateMachine) (guard : FinOvertravelGuard) (input : MissionTickInput)
  (safety : SafetyRequest) (elapsedUs : UInt64)

/-- Before the gate a tick keeps the reference or drops it. -/
theorem rollReference_beforeGate :
    rollReference (machine.beforeGate guard input safety) = rollReference machine ∨
      rollReference (machine.beforeGate guard input safety) = none := by
  have lifts : rollReference (machine.lifted input safety) = rollReference machine := by
    unfold lifted detectLiftoff latchSafetyCutoff
    split <;> split <;> rfl
  have deploys : ∀ blocked : MissionStateMachine,
      rollReference (blocked.decideDeployment input safety (machine.currentSafety safety)
        ((machine.lifted input safety).elapsedAt input.monotonicUs)) = rollReference blocked := by
    intro blocked
    unfold decideDeployment
    split <;> rfl
  unfold beforeGate
  dsimp only
  rw [deploys, ← lifts]
  generalize (machine.lifted input safety).elapsedAt input.monotonicUs = elapsedUs
  unfold blockOnOvertravel
  split
  · right
    dsimp only
    split <;> rfl
  · left
    rfl

/-- After the gate a tick leaves the reference alone. -/
private theorem rollReference_afterGate (gated : MissionStateMachine) (nowUs : UInt64) :
    rollReference (((gated.leaveControlUnlessReady input).latchPowerCutoff
      elapsedUs).updateDirectives nowUs) = rollReference gated := by
  have left : rollReference (gated.leaveControlUnlessReady input) = rollReference gated := by
    unfold leaveControlUnlessReady
    split <;> rfl
  rw [← left]
  show rollReference ((gated.leaveControlUnlessReady input).latchPowerCutoff elapsedUs) = _
  unfold latchPowerCutoff
  split <;> rfl

/-- The capture counter moves only at the gate. -/
private theorem captureEventSequence_beforeGate :
    (machine.beforeGate guard input safety).controlRollReferenceCaptureEventSequence =
      machine.controlRollReferenceCaptureEventSequence := by
  have lifts : (machine.lifted input safety).controlRollReferenceCaptureEventSequence =
      machine.controlRollReferenceCaptureEventSequence := by
    unfold lifted detectLiftoff latchSafetyCutoff
    split <;> split <;> rfl
  have deploys : ∀ blocked : MissionStateMachine,
      (blocked.decideDeployment input safety (machine.currentSafety safety)
        ((machine.lifted input safety).elapsedAt
          input.monotonicUs)).controlRollReferenceCaptureEventSequence =
        blocked.controlRollReferenceCaptureEventSequence := by
    intro blocked
    unfold decideDeployment
    split <;> rfl
  unfold beforeGate
  dsimp only
  rw [deploys, ← lifts]
  generalize (machine.lifted input safety).elapsedAt input.monotonicUs = elapsedUs
  unfold blockOnOvertravel
  split
  · dsimp only
    split <;> rfl
  · rfl

end Tick

private theorem rollReference_gateRefused (machine : MissionStateMachine) :
    rollReference machine.gateRefused = rollReference machine := rfl

private theorem rollReference_gateOpened (machine : MissionStateMachine)
    (input : MissionTickInput) :
    rollReference (machine.gateOpened input) = some (capturedReference machine input) := rfl

/-- The gate opens in this tick, with everything it asks for. -/
structure GateOpens (machine : MissionStateMachine) (guard : FinOvertravelGuard)
    (input : MissionTickInput) (safety : SafetyRequest) : Prop where
  due : (machine.beforeGate guard input safety).GateDue
    ((machine.lifted input safety).elapsedAt input.monotonicUs)
  admits : (machine.beforeGate guard input safety).GateAdmits input
  fresh : EstimateFresh input
  unreferenced : rollReference (machine.beforeGate guard input safety) = none
  entered : (machine.tick guard input safety).1.snapshot.state = .control
  captured : rollReference (machine.tick guard input safety).1 =
    some (capturedReference machine input)

/-- A tick opens the gate and captures a reference, or it keeps the reference or
drops it and enters control from nowhere. -/
theorem tick_gate_cases {machine : MissionStateMachine} (core : Core machine)
    (guard : FinOvertravelGuard) (input : MissionTickInput) (safety : SafetyRequest) :
    GateOpens machine guard input safety ∨
      ((rollReference (machine.tick guard input safety).1 = rollReference machine ∨
          rollReference (machine.tick guard input safety).1 = none) ∧
        ((machine.tick guard input safety).1.snapshot.state = .control →
          machine.snapshot.state = .control)) := by
  have before := core.beforeGate guard input safety
  have reference : rollReference (machine.tick guard input safety).1 =
      rollReference ((machine.beforeGate guard input safety).evaluateControlGate input
        ((machine.lifted input safety).elapsedAt input.monotonicUs)) := by
    rw [tick_machine]
    exact rollReference_afterGate input _ _ _
  have state : (machine.tick guard input safety).1.snapshot.state =
      (((machine.beforeGate guard input safety).evaluateControlGate input
        ((machine.lifted input safety).elapsedAt input.monotonicUs)).leaveControlUnlessReady
          input).snapshot.state := by
    rw [tick_machine, updateDirectives_state, latchPowerCutoff_state]
  have earlier := rollReference_beforeGate machine guard input safety
  have sequence := captureEventSequence_beforeGate machine guard input safety
  have outcome := (machine.beforeGate guard input safety).gateOutcome input
    ((machine.lifted input safety).elapsedAt input.monotonicUs)
  rw [leaveControlUnlessReady_state] at state
  generalize (machine.beforeGate guard input safety).evaluateControlGate input
    ((machine.lifted input safety).elapsedAt input.monotonicUs) = gated at outcome reference state
  cases outcome with
  | kept =>
      right
      rw [reference]
      refine ⟨earlier, ?_⟩
      intro controlling
      rw [state] at controlling
      split at controlling
      · contradiction
      · exact control_of_beforeGate machine guard input safety controlling
  | refused due =>
      right
      rw [reference, rollReference_gateRefused]
      refine ⟨earlier, ?_⟩
      intro controlling
      rw [state] at controlling
      rw [gateRefused_state, due.burning] at controlling
      simp at controlling
  | reentered due admits held =>
      rw [before.unreferenced due.pending] at held
      exact absurd held Bool.false_ne_true
  | opened due admits fresh captures =>
      left
      have unreferenced := rollReference_eq_none captures
      refine ⟨due, admits, fresh, unreferenced, ?_, ?_⟩
      · rw [state, gateOpened_state]
        simp [admits.ready]
      · rw [reference, rollReference_gateOpened]
        unfold capturedReference
        rw [sequence]

/-- The call enters control. -/
def EntersControl (machine : MissionStateMachine) (call : Call) : Prop :=
  machine.snapshot.state ≠ .control ∧ (machine.step call).snapshot.state = .control

/-- The tick that enters control: what its input and its elapsed time satisfy,
and the reference it captures. -/
structure EntryTick (machine : MissionStateMachine) (call : Call) (input : MissionTickInput)
    (safety : SafetyRequest) : Prop where
  ticks : call.operation = .tick input safety
  elapsed : 8000000 ≤ (machine.step call).snapshot.elapsedUs
  timestamped : input.control.rollEstimatorTimestampUs ≠ 0
  notFuture : input.control.rollEstimatorTimestampUs ≤ input.monotonicUs
  recent : input.monotonicUs - input.control.rollEstimatorTimestampUs ≤ 3000
  unreferenced : rollReference machine = none
  captured : rollReference (machine.step call) = some (capturedReference machine input)

section Calls

variable {machine : MissionStateMachine} (core : Core machine) {call : Call}

include core

private theorem phase_of_opens {guard : FinOvertravelGuard} {input : MissionTickInput}
    {safety : SafetyRequest} (opens : GateOpens machine guard input safety) :
    phase machine ≤ .awaitingGate := by
  refine (phase_le_beforeGate core guard input safety).trans (le_of_eq ?_)
  unfold phase
  rw [opens.due.burning, opens.due.pending]
  rfl

/-- No machine short of the gate holds a reference. -/
private theorem unreferenced_of_phase (early : phase machine ≤ .awaitingGate) :
    rollReference machine = none := by
  apply rollReference_eq_none
  by_contra held
  obtain ⟨flying, evaluated⟩ := core.reference (Bool.eq_true_of_not_eq_false held)
  unfold phase at early
  rw [evaluated] at early
  rcases flying with burning | controlling | descending
  · rw [burning] at early
    exact absurd early (by decide)
  · rw [controlling] at early
    exact absurd early (by decide)
  · rw [descending] at early
    exact absurd early (by decide)

omit core in
private theorem not_control_of_phase (early : phase machine ≤ .awaitingGate) :
    machine.snapshot.state ≠ .control := by
  intro controlling
  rw [phase_eq_controlling.mpr controlling] at early
  exact absurd early (by decide)

/-- Control is entered by a tick through the gate and in no other way. -/
theorem entryTick_of_entersControl (enters : EntersControl machine call) :
    phase machine ≤ .awaitingGate ∧ ∃ input safety, EntryTick machine call input safety := by
  obtain ⟨elsewhere, controlling⟩ := enters
  have outcome := machine.outcome call
  generalize stepped : machine.step call = next,
    (machine.perform call).result = result at outcome controlling
  cases outcome with
  | refused => exact absurd controlling elsewhere
  | started | cancelled | rolledBack | restoredArmed => contradiction
  | controlDisabled =>
      unfold controlDisabled at controlling
      dsimp only at controlling
      split at controlling
      · contradiction
      · exact absurd controlling elsewhere
  | restoredFlying guard nowUs checkpoint =>
      have landed : (if checkpoint.deploymentStarted = true ∨ checkpoint.state = .descent then
          MissionState.descent else .engineBurn) = .control := controlling
      split at landed <;> contradiction
  | ticked guard input safety =>
      rcases tick_gate_cases core guard input safety with opens | ⟨-, stays⟩
      · have early := phase_of_opens core opens
        have ready := opens.admits.ready
        refine ⟨early, input, safety, rfl, ?_, ?_, opens.fresh.notFuture, opens.fresh.recent,
          unreferenced_of_phase core early, ?_⟩
        · rw [step_tick, tick_elapsedUs]
          exact opens.due.elapsed
        · unfold ControlAvailability.ready at ready
          rw [Bool.and_eq_true] at ready
          exact bne_iff_ne.mp ready.2
        · rw [step_tick]
          exact opens.captured
      · exact absurd (stays controlling) elsewhere

/-- A call within the epoch that does not enter control keeps the reference or
drops it. -/
theorem rollReference_step (keeps : KeepsEpoch machine call)
    (elsewhere : ¬ EntersControl machine call) :
    rollReference (machine.step call) = rollReference machine ∨
      rollReference (machine.step call) = none := by
  obtain ⟨ordinary, epoch⟩ := keeps
  unfold EntersControl at elsewhere
  have outcome := machine.outcome call
  generalize machine.step call = next,
    (machine.perform call).result = result at outcome epoch elsewhere ⊢
  cases outcome with
  | refused => exact Or.inl rfl
  | started => exact absurd epoch (nextEpoch_ne _)
  | rolledBack => exact absurd epoch (nextEpoch_ne _)
  | restoredArmed | restoredFlying => contradiction
  | cancelled => exact Or.inr rfl
  | controlDisabled =>
      right
      unfold controlDisabled
      dsimp only
      split <;> rfl
  | ticked guard input safety =>
      rcases tick_gate_cases core guard input safety with opens | ⟨keepsOrDrops, -⟩
      · have early := phase_of_opens core opens
        exact absurd ⟨not_control_of_phase early, opens.entered⟩ elsewhere
      · exact keepsOrDrops

/-- A tick of the epoch that already reached 8 s has put the attempt past the
phase control is entered from. -/
theorem controlling_le_phase_step {input : MissionTickInput} {safety : SafetyRequest}
    (ticks : call.operation = .tick input safety)
    (late : 8000000 ≤ (machine.step call).snapshot.elapsedUs) :
    .controlling ≤ phase (machine.step call) := by
  obtain ⟨guard, operation⟩ := call
  obtain rfl : operation = .tick input safety := ticks
  rw [step_tick, tick_elapsedUs] at late
  exact controlling_le_phase_tick core guard input safety late

end Calls

/-- Past the gate a run within the epoch never enters control, and a dropped
reference stays dropped. -/
private theorem late_run {machine : MissionStateMachine} (core : Core machine)
    (late : .controlling ≤ phase machine) {calls : List Call}
    (within : Run.Along step KeepsEpoch machine calls) :
    (rollReference (Run.after step machine calls) = rollReference machine ∨
        rollReference (Run.after step machine calls) = none) ∧
      (machine.snapshot.state ≠ .control →
        (Run.after step machine calls).snapshot.state ≠ .control) := by
  induction calls generalizing machine with
  | nil => exact ⟨Or.inl rfl, id⟩
  | cons call rest inductionHypothesis =>
      obtain ⟨keeps, rest⟩ := within
      have elsewhere : ¬ EntersControl machine call := by
        intro enters
        have early := (entryTick_of_entersControl core enters).1
        exact absurd (late.trans early) (by decide)
      obtain ⟨reference, state⟩ := inductionHypothesis
        (core_step_of_ordinary core keeps.1) (late.trans (phase_le_step core keeps)) rest
      constructor
      · rcases reference with kept | dropped
        · rw [Run.after_cons, kept]
          exact rollReference_step core keeps elsewhere
        · exact Or.inr dropped
      · intro away
        apply state
        intro controlling
        exact elsewhere ⟨away, controlling⟩

/-- The one-shot control gate. From every state a run without restores reaches,
and for every run that then stays within one flight epoch:

* a call that does not enter control keeps the roll reference or invalidates it;
* the call that enters control is the first tick at or past 8 s, over a fresh
  estimate, and captures the reference from its own input;
* afterwards the reference is that one or invalid, and once invalid it stays so;
* once the state is not control it is never control again. -/
theorem control_gate_one_shot {history : List Call}
    (ordinary : Run.Along step (fun _ call => call.operation.isRestore = false) {} history) :
    (∀ call, KeepsEpoch (Run.after step {} history) call →
      ¬ EntersControl (Run.after step {} history) call →
      rollReference ((Run.after step {} history).step call) =
          rollReference (Run.after step {} history) ∨
        rollReference ((Run.after step {} history).step call) = none) ∧
    ∀ earlier entry later,
      Run.Along step KeepsEpoch (Run.after step {} history) (earlier ++ entry :: later) →
      EntersControl (Run.after step {} (history ++ earlier)) entry →
      (∃ input safety,
        EntryTick (Run.after step {} (history ++ earlier)) entry input safety) ∧
      (∀ first call second input safety, earlier = first ++ call :: second →
        call.operation = .tick input safety →
        (Run.after step {} (history ++ first ++ [call])).snapshot.elapsedUs < 8000000) ∧
      (∀ first second, later = first ++ second →
        (rollReference (Run.after step {} (history ++ earlier ++ [entry] ++ first)) =
            rollReference (Run.after step {} (history ++ earlier ++ [entry])) ∨
          rollReference (Run.after step {} (history ++ earlier ++ [entry] ++ first)) = none) ∧
        (rollReference (Run.after step {} (history ++ earlier ++ [entry] ++ first)) = none →
          rollReference (Run.after step {} (history ++ earlier ++ [entry] ++ first ++ second)) =
            none) ∧
        ((Run.after step {} (history ++ earlier ++ [entry] ++ first)).snapshot.state ≠ .control →
          (Run.after step {}
            (history ++ earlier ++ [entry] ++ first ++ second)).snapshot.state ≠ .control)) := by
  have core := (reachable_after .boot ordinary).core
  refine ⟨fun call keeps elsewhere => rollReference_step core keeps elsewhere, ?_⟩
  intro earlier entry later within enters
  rw [Run.along_append, Run.along_cons, ← Run.after_append] at within
  obtain ⟨before, keepsEntry, afterwards⟩ := within
  have coreBefore : Core (Run.after step {} (history ++ earlier)) := by
    rw [Run.after_append]
    exact core_after core before
  obtain ⟨early, entryTick⟩ := entryTick_of_entersControl coreBefore enters
  refine ⟨entryTick, ?_, ?_⟩
  · intro first call second input safety splits ticks
    by_contra reached
    rw [splits, Run.along_append, Run.along_cons, ← Run.after_append] at before
    obtain ⟨toFirst, keepsCall, toEntry⟩ := before
    have coreFirst : Core (Run.after step {} (history ++ first)) := by
      rw [Run.after_append]
      exact core_after core toFirst
    rw [Run.after_concat] at reached
    have late := controlling_le_phase_step coreFirst ticks (UInt64.not_lt.mp reached)
    have forward := phase_le_after (core_step_of_ordinary coreFirst keepsCall.1) toEntry
    have same : Run.after step (step (Run.after step {} (history ++ first)) call) second =
        Run.after step {} (history ++ earlier) := by
      rw [splits, ← List.append_assoc, Run.after_append _ _ _ (call :: second), Run.after_cons]
    rw [same] at forward
    exact absurd ((late.trans forward).trans early) (by decide)
  · intro first second splits
    have entered : Run.after step {} (history ++ earlier ++ [entry]) =
        (Run.after step {} (history ++ earlier)).step entry := Run.after_concat _ _ _ _
    have coreEntered := core_step_of_ordinary coreBefore keepsEntry.1
    have lateEntered : .controlling ≤
        phase ((Run.after step {} (history ++ earlier)).step entry) :=
      le_of_eq (phase_eq_controlling.mpr enters.2).symm
    rw [splits, Run.along_append] at afterwards
    obtain ⟨toFirst, toSecond⟩ := afterwards
    have coreFirst := core_after coreEntered toFirst
    have lateFirst := lateEntered.trans (phase_le_after coreEntered toFirst)
    have runFirst := late_run coreEntered lateEntered toFirst
    have runSecond := late_run coreFirst lateFirst toSecond
    rw [Run.after_append _ _ _ second, Run.after_append _ _ _ first, entered]
    refine ⟨runFirst.1, ?_, runSecond.2⟩
    intro dropped
    rw [dropped] at runSecond
    exact runSecond.1.elim id id

/-- A flight enters control at 9.5 s, and then loses it for good when the command
disables fin control. -/
theorem control_gate_one_shot_flightToControl :
    EntersControl (Run.after step {} (flightToControl.take 2)) (readyTick 9500000 false) ∧
      (Run.after step {} (flightToControl ++
        [⟨{}, .disableFinControl⟩, readyTick 9600000 false])).snapshot.state ≠ .control := by
  have enters : EntersControl (Run.after step {} (flightToControl.take 2))
      (readyTick 9500000 false) := ⟨by decide +kernel, by decide +kernel⟩
  have oneShot := (@control_gate_one_shot (flightToControl.take 2)
    (by decide +kernel)).2 [] (readyTick 9500000 false)
      [⟨{}, .disableFinControl⟩, readyTick 9600000 false] (by decide +kernel) enters
  exact ⟨enters, (oneShot.2.2 [⟨{}, .disableFinControl⟩] [readyTick 9600000 false] rfl).2.2
    (by decide +kernel)⟩

end MissionBoard.Flight
