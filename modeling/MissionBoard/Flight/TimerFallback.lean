import Mathlib.Tactic.MkIffOfInductiveProp
import MissionBoard.Flight.AutomaticOpening

/-!
Owns the timer fallback from `safetyTask` to the servo: what the step of `parachuteTask`
that drives the servo does once it has received a safety-authorised open request.

The request itself passes without the mission loop. The move does not: `should_open`
asks the mission state machine again, under a mutex that may be taken.
-/

namespace MissionBoard.Flight

open Protocol Mission MissionStateMachine Control MissionBoard.Runtime

/-- The timer fallback stands at the servo: `safetyTask` has the liftoff of the running
epoch, its clock has passed 17 s and it has queued its request; no power cutoff is
latched; `parachuteTask` has received the request, has not opened in the epoch and is
idle before its servo. -/
@[mk_iff]
structure FallbackReceived (pipeline : CommandPipeline) (nowUs : UInt64) : Prop where
  lifted : pipeline.safety.liftoffValid = true
  current : pipeline.safety.trackedEpoch = pipeline.machine.snapshot.flightEpoch
  late : 17000000 ≤ pipeline.safety.elapsedAt nowUs
  queued : pipeline.safety.deploymentRequested = true
  powered : pipeline.safety.cutoffLatched = false ∧
    pipeline.machine.snapshot.deploymentPowerCutoffLatched = false
  received : pipeline.parachute.automaticOpenEpoch = pipeline.safety.trackedEpoch
  unopened : pipeline.parachute.openedEpoch ≠ pipeline.safety.trackedEpoch
  driving : pipeline.parachute.phase = .driving
  wanted : pipeline.parachute.desired ≠ .poweredOff
  idle : pipeline.parachute.operation.active = false ∧
    pipeline.parachute.operation.pendingStart = false

instance (pipeline : CommandPipeline) (nowUs : UInt64) :
    Decidable (FallbackReceived pipeline nowUs) :=
  decidable_of_iff _ (fallbackReceived_iff pipeline nowUs).symm

/-- The step issues the automatic move of the running epoch. -/
def IssuesOpening (pipeline : CommandPipeline) (input : ParachuteInput) : Prop :=
  (pipeline.step (.parachute input)).log =
    pipeline.log ++ [.automaticMoved pipeline.machine.snapshot.flightEpoch]

/-- A step that logs nothing issues nothing. -/
private theorem not_issuesOpening {pipeline : CommandPipeline} {input : ParachuteInput}
    (silent : (pipeline.step (.parachute input)).log = pipeline.log) :
    ¬ IssuesOpening pipeline input := by
  unfold IssuesOpening
  rw [silent]
  exact fun same => List.cons_ne_nil _ _ (List.self_eq_append_right.mp same)

/-- A received fallback reaches the automatic branch when the epoch is a live one. -/
private theorem step_of_received {pipeline : CommandPipeline} {nowUs : UInt64}
    (ready : FallbackReceived pipeline nowUs) {input : ParachuteInput}
    (initialized : input.servoReady = true)
    (live : pipeline.machine.snapshot.flightEpoch ≠ 0) :
    pipeline.step (.parachute input) = pipeline.driveAutomatic input := by
  have epoch := ready.received.trans ready.current
  have unopened : pipeline.parachute.openedEpoch ≠ pipeline.parachute.automaticOpenEpoch := by
    rw [ready.received]
    exact ready.unopened
  unfold CommandPipeline.step CommandPipeline.stepParachute
  dsimp only
  rw [ready.driving]
  dsimp only
  unfold CommandPipeline.drive
  dsimp only
  rw [if_neg, if_neg, if_pos]
  · exact ⟨by rw [epoch]; exact live, unopened, ready.idle.1⟩
  · rw [ready.idle.2]
    decide
  · rw [initialized]
    simp [ready.wanted]

/-- Without an epoch to open in the servo step logs nothing. -/
private theorem log_of_grounded {pipeline : CommandPipeline} {nowUs : UInt64}
    (ready : FallbackReceived pipeline nowUs) {input : ParachuteInput}
    (grounded : pipeline.machine.snapshot.flightEpoch = 0) :
    (pipeline.step (.parachute input)).log = pipeline.log := by
  have epoch := (ready.received.trans ready.current).trans grounded
  unfold CommandPipeline.step CommandPipeline.stepParachute
  dsimp only
  rw [ready.driving]
  dsimp only
  unfold CommandPipeline.drive
  dsimp only
  rw [epoch]
  split
  · rfl
  · split
    · rfl
    · rw [if_neg (by simp)]
      split
      · rfl
      · rfl

/-- The automatic branch issues the move when the machine agrees and the hold stands. -/
private theorem issuesOpening_iff {pipeline : CommandPipeline} {nowUs : UInt64}
    (ready : FallbackReceived pipeline nowUs) (input : ParachuteInput)
    (drives : pipeline.step (.parachute input) = pipeline.driveAutomatic input) :
    IssuesOpening pipeline input ↔
      input.takesState = true ∧ pipeline.machine.snapshot.state = .descent ∧
        input.holdOk = true := by
  have epoch := ready.received.trans ready.current
  have agrees : pipeline.shouldOpen input.takesState = true ↔
      input.takesState = true ∧ pipeline.machine.snapshot.state = .descent := by
    unfold CommandPipeline.shouldOpen
    rw [epoch, ready.powered.2]
    simp
  by_cases opens : pipeline.shouldOpen input.takesState = true
  · have taken := agrees.mp opens
    by_cases held : input.holdOk = true
    · refine iff_of_true ?_ ⟨taken.1, taken.2, held⟩
      unfold IssuesOpening
      rw [drives]
      unfold CommandPipeline.driveAutomatic
      dsimp only
      rw [if_pos opens, if_pos held, epoch]
      rfl
    · refine iff_of_false (not_issuesOpening ?_) fun wanted => held wanted.2.2
      rw [drives]
      unfold CommandPipeline.driveAutomatic
      dsimp only
      rw [if_pos opens, if_neg held]
  · refine iff_of_false (not_issuesOpening ?_) fun wanted => opens (agrees.mpr ⟨wanted.1, wanted.2.1⟩)
    rw [drives]
    unfold CommandPipeline.driveAutomatic
    dsimp only
    rw [if_neg opens]
    rfl

/-- A received timer fallback moves the parachute exactly when the step gets the state
mutex, finds the machine in descent, and the servo holds its position. -/
theorem fallback_opens_iff (labels : List FlightLabel) (nowUs : UInt64) (input : ParachuteInput)
    (ready : FallbackReceived (Run.after CommandPipeline.fly (.boot {} {}) labels) nowUs)
    (initialized : input.servoReady = true) :
    IssuesOpening (Run.after CommandPipeline.fly (.boot {} {}) labels) input ↔
      input.takesState = true ∧
        (Run.after CommandPipeline.fly (.boot {} {}) labels).machine.snapshot.state = .descent ∧
        input.holdOk = true := by
  have core := (sourced_after sourced_boot labels).reached.core
  generalize Run.after CommandPipeline.fly (.boot {} {}) labels = pipeline at ready core ⊢
  by_cases live : pipeline.machine.snapshot.flightEpoch = 0
  · refine iff_of_false (not_issuesOpening (log_of_grounded ready live)) ?_
    rintro ⟨-, descending, -⟩
    have flying : pipeline.machine.snapshot.state ≠ .commandReceive := by
      rw [descending]
      decide
    exact core.epoch flying live
  · exact issuesOpening_iff ready input (step_of_received ready initialized live)

/-- `safetyTask` takes over the liftoff, and passes its 17 s deadline and sends its
request while the mission loop stands still. -/
def fallbackSent : List FlightLabel :=
  liftedFlight ++ [.task .safety, .task (.safety { nowUs := 2000000 }), .task .safety,
    .task (.safety { nowUs := 18500000 })]

/-- `parachuteTask` takes the request and comes to its servo. -/
def fallbackTaken : List FlightLabel := List.replicate 3 (.task .parachute)

/-- The fallback opens the parachute once a tick has reached descent as well. -/
theorem fallback_opens_iff_descent :
    IssuesOpening (Run.after CommandPipeline.fly (.boot {} {})
      (fallbackSent ++ .task (.realtime (.tick { monotonicUs := 18500000 })) :: fallbackTaken))
      {} :=
  (fallback_opens_iff _ 18500000 {} (by decide +kernel) rfl).mpr (by decide +kernel)

/-- While no tick reaches descent the fallback does not open the parachute, though the
servo is ready and the state mutex is free. -/
theorem fallback_waits_for_descent :
    ¬ ∀ (labels : List FlightLabel) (nowUs : UInt64) (input : ParachuteInput),
      FallbackReceived (Run.after CommandPipeline.fly (.boot {} {}) labels) nowUs →
      input.servoReady = true → input.holdOk = true →
      IssuesOpening (Run.after CommandPipeline.fly (.boot {} {}) labels) input := by
  intro always
  have received : FallbackReceived
      (Run.after CommandPipeline.fly (.boot {} {}) (fallbackSent ++ fallbackTaken)) 18500000 := by
    decide +kernel
  have issues := always (fallbackSent ++ fallbackTaken) 18500000 {} received rfl rfl
  have burning : ¬ ((Run.after CommandPipeline.fly (.boot {} {})
      (fallbackSent ++ fallbackTaken)).machine.snapshot.state = .descent) := by
    decide +kernel
  have live : (Run.after CommandPipeline.fly (.boot {} {})
      (fallbackSent ++ fallbackTaken)).machine.snapshot.flightEpoch ≠ 0 := by
    decide +kernel
  have ready : ({} : ParachuteInput).servoReady = true := rfl
  have drives := step_of_received received ready live
  exact burning ((issuesOpening_iff received {} drives).mp issues).2.1

end MissionBoard.Flight
