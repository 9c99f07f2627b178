import MissionBoard.Library.Run
import MissionBoard.Mission.Tick

/-!
Owns the operations of the mission state machine as one labelled step: what each
operation leaves when it completes, what it leaves when it refuses, and the data
that only an operation of a given kind can change.

The overtravel latch belongs to other tasks as well, so a call carries the guard
it finds and a run of calls puts no condition on how the guard moved in between.
-/

namespace MissionBoard.Mission

open Protocol Control

/-- One operation of `MissionStateMachine` with its arguments. -/
inductive Operation where
  | startSequence (readiness : PreflightReadinessSnapshot) (mode : StartMode)
  | cancelSequence
  | disableFinControl
  | liftoffDetectionEmergencyStop
  | restoreAfterReset (nowUs : UInt64) (checkpoint : ResetCheckpoint)
  | tick (input : MissionTickInput) (safety : SafetyRequest)
deriving DecidableEq

/-- An operation and the overtravel guard it finds. -/
structure Call where
  guard : FinOvertravelGuard := {}
  operation : Operation
deriving DecidableEq

namespace Operation

def isRestore : Operation → Bool
  | .restoreAfterReset _ _ => true
  | _ => false

def isStart : Operation → Bool
  | .startSequence _ _ => true
  | _ => false

end Operation

namespace MissionStateMachine

/-- A call; a tick always completes. -/
def perform (machine : MissionStateMachine) (call : Call) : Transition :=
  match call.operation with
  | .startSequence readiness mode => machine.startSequence call.guard readiness mode
  | .cancelSequence => ⟨machine.cancelSequence.1, machine.cancelSequence.2, call.guard⟩
  | .disableFinControl => ⟨machine.disableFinControl.1, machine.disableFinControl.2, call.guard⟩
  | .liftoffDetectionEmergencyStop =>
      ⟨machine.liftoffDetectionEmergencyStop.1, machine.liftoffDetectionEmergencyStop.2,
        call.guard⟩
  | .restoreAfterReset nowUs checkpoint =>
      ⟨(machine.restoreAfterReset nowUs checkpoint).1,
        (machine.restoreAfterReset nowUs checkpoint).2, call.guard⟩
  | .tick input safety =>
      ⟨.completed, (machine.tick call.guard input safety).1,
        (machine.tick call.guard input safety).2⟩

/-- The machine a call leaves. -/
def step (machine : MissionStateMachine) (call : Call) : MissionStateMachine :=
  (machine.perform call).machine

section Step

variable (machine : MissionStateMachine) (guard : FinOvertravelGuard)

@[simp] theorem step_startSequence (readiness : PreflightReadinessSnapshot) (mode : StartMode) :
    machine.step ⟨guard, .startSequence readiness mode⟩ =
      (machine.startSequence guard readiness mode).machine := rfl

@[simp] theorem step_cancelSequence :
    machine.step ⟨guard, .cancelSequence⟩ = machine.cancelSequence.2 := rfl

@[simp] theorem step_disableFinControl :
    machine.step ⟨guard, .disableFinControl⟩ = machine.disableFinControl.2 := rfl

@[simp] theorem step_liftoffDetectionEmergencyStop :
    machine.step ⟨guard, .liftoffDetectionEmergencyStop⟩ =
      machine.liftoffDetectionEmergencyStop.2 := rfl

@[simp] theorem step_restoreAfterReset (nowUs : UInt64) (checkpoint : ResetCheckpoint) :
    machine.step ⟨guard, .restoreAfterReset nowUs checkpoint⟩ =
      (machine.restoreAfterReset nowUs checkpoint).2 := rfl

@[simp] theorem step_tick (input : MissionTickInput) (safety : SafetyRequest) :
    machine.step ⟨guard, .tick input safety⟩ = (machine.tick guard input safety).1 := rfl

end Step

/-! ### What each operation leaves -/

/-- A start sequence completes from command receive with a clear latch, or leaves
the machine as it was. -/
theorem startSequence_cases (machine : MissionStateMachine) (guard : FinOvertravelGuard)
    (readiness : PreflightReadinessSnapshot) (mode : StartMode) :
    ((machine.startSequence guard readiness mode).result = .completed ∧
      machine.snapshot.state = .commandReceive ∧ guard.recovered.faultLatched = false ∧
      (machine.startSequence guard readiness mode).machine = machine.started readiness mode) ∨
    ((machine.startSequence guard readiness mode).result ≠ .completed ∧
      (machine.startSequence guard readiness mode).machine = machine) := by
  unfold startSequence
  by_cases receiving : machine.snapshot.state = .commandReceive
  · rw [if_neg (not_not.mpr receiving)]
    by_cases latched : guard.recovered.faultLatched = true
    · rw [if_pos latched]
      exact Or.inr ⟨nofun, rfl⟩
    · rw [if_neg latched]
      split
      · exact Or.inr ⟨nofun, rfl⟩
      · split
        · exact Or.inr ⟨nofun, rfl⟩
        · exact Or.inl ⟨rfl, receiving, Bool.eq_false_of_not_eq_true latched, rfl⟩
  · rw [if_pos receiving]
    exact Or.inr ⟨nofun, rfl⟩

/-- The guard a start sequence leaves: recovery is tried only in command receive. -/
theorem startSequence_guard (machine : MissionStateMachine) (guard : FinOvertravelGuard)
    (readiness : PreflightReadinessSnapshot) (mode : StartMode) :
    (machine.startSequence guard readiness mode).guard =
      if machine.snapshot.state = .commandReceive then guard.recovered else guard := by
  unfold startSequence
  by_cases receiving : machine.snapshot.state = .commandReceive
  · rw [if_neg (not_not.mpr receiving), if_pos receiving]
    split
    · rfl
    · split
      · rfl
      · split <;> rfl
  · rw [if_pos receiving, if_neg receiving]

theorem cancelSequence_cases (machine : MissionStateMachine) :
    (machine.snapshot.state = .liftoffDetection ∧
      machine.cancelSequence = (.completed, machine.cancelled)) ∨
    (machine.snapshot.state ≠ .liftoffDetection ∧
      machine.cancelSequence = (.invalidState, machine)) := by
  unfold cancelSequence
  by_cases armed : machine.snapshot.state = .liftoffDetection
  · exact Or.inl ⟨armed, if_neg (not_not.mpr armed)⟩
  · exact Or.inr ⟨armed, if_pos armed⟩

theorem disableFinControl_cases (machine : MissionStateMachine) :
    ((machine.snapshot.state = .liftoffDetection ∨ machine.snapshot.state = .engineBurn ∨
        machine.snapshot.state = .control) ∧
      machine.disableFinControl = (.completed, machine.controlDisabled)) ∨
    machine.disableFinControl = (.invalidState, machine) := by
  unfold disableFinControl
  by_cases refused : machine.snapshot.state ≠ .liftoffDetection ∧
      machine.snapshot.state ≠ .engineBurn ∧ machine.snapshot.state ≠ .control
  · exact Or.inr (if_pos refused)
  · refine Or.inl ⟨?_, if_neg refused⟩
    by_contra other
    simp only [not_or] at other
    exact refused other

theorem liftoffDetectionEmergencyStop_cases (machine : MissionStateMachine) :
    (machine.snapshot.state = .engineBurn ∧
      machine.liftoffDetectionEmergencyStop = (.completed, machine.rolledBack)) ∨
    (machine.snapshot.state ≠ .engineBurn ∧
      machine.liftoffDetectionEmergencyStop = (.invalidState, machine)) := by
  unfold liftoffDetectionEmergencyStop
  by_cases burning : machine.snapshot.state = .engineBurn
  · exact Or.inl ⟨burning, if_neg (not_not.mpr burning)⟩
  · exact Or.inr ⟨burning, if_pos burning⟩

/-- What an accepted checkpoint says: a live epoch, and elapsed time exactly when
the checkpoint was taken after liftoff. -/
structure CheckpointAccepted (checkpoint : ResetCheckpoint) : Prop where
  valid : checkpoint.valid = true
  epoch : checkpoint.flightEpoch ≠ 0
  phase : (checkpoint.state = .liftoffDetection ∧ checkpoint.elapsedValid = false) ∨
    ((checkpoint.state = .engineBurn ∨ checkpoint.state = .control ∨
      checkpoint.state = .descent) ∧ checkpoint.elapsedValid = true)

theorem refusesCheckpoint_eq_false {checkpoint : ResetCheckpoint} :
    refusesCheckpoint checkpoint = false ↔ CheckpointAccepted checkpoint := by
  constructor
  · intro accepted
    unfold refusesCheckpoint at accepted
    refine ⟨?_, ?_, ?_⟩ <;>
      cases state : checkpoint.state <;> cases elapsed : checkpoint.elapsedValid <;>
        simp_all
  · rintro ⟨valid, epoch, ⟨armed, untimed⟩ | ⟨flying, timed⟩⟩
    · simp [refusesCheckpoint, valid, epoch, armed, untimed]
    · rcases flying with flying | flying | flying <;>
        simp [refusesCheckpoint, valid, epoch, flying, timed]

theorem restoreAfterReset_cases (machine : MissionStateMachine) (nowUs : UInt64)
    (checkpoint : ResetCheckpoint) :
    (CheckpointAccepted checkpoint ∧ checkpoint.state = .liftoffDetection ∧
      machine.restoreAfterReset nowUs checkpoint =
        (.completed, machine.restoredArmed nowUs checkpoint)) ∨
    (CheckpointAccepted checkpoint ∧ checkpoint.state ≠ .liftoffDetection ∧
      machine.restoreAfterReset nowUs checkpoint =
        (.completed, machine.restoredFlying nowUs checkpoint)) ∨
    (¬ CheckpointAccepted checkpoint ∧
      machine.restoreAfterReset nowUs checkpoint = (.notConfigured, machine)) := by
  unfold restoreAfterReset
  cases refused : refusesCheckpoint checkpoint with
  | false =>
      have accepted := refusesCheckpoint_eq_false.mp refused
      by_cases armed : checkpoint.state = .liftoffDetection
      · exact Or.inl ⟨accepted, armed, by simp [armed]⟩
      · exact Or.inr (Or.inl ⟨accepted, armed, by simp [armed]⟩)
  | true =>
      refine Or.inr (Or.inr ⟨fun accepted => ?_, by simp⟩)
      rw [refusesCheckpoint_eq_false.mpr accepted] at refused
      contradiction

/-- What a call can do: refuse and leave the machine alone, or complete from a
state it may run in. -/
inductive Outcome (machine : MissionStateMachine) :
    Call → TransitionResult → MissionStateMachine → Prop where
  | refused {call : Call} {result : TransitionResult} (incomplete : result ≠ .completed) :
      Outcome machine call result machine
  | started (guard : FinOvertravelGuard) (readiness : PreflightReadinessSnapshot)
      (mode : StartMode) (receiving : machine.snapshot.state = .commandReceive)
      (clear : guard.recovered.faultLatched = false) :
      Outcome machine ⟨guard, .startSequence readiness mode⟩ .completed
        (machine.started readiness mode)
  | cancelled (guard : FinOvertravelGuard) (armed : machine.snapshot.state = .liftoffDetection) :
      Outcome machine ⟨guard, .cancelSequence⟩ .completed machine.cancelled
  | controlDisabled (guard : FinOvertravelGuard)
      (sequencing : machine.snapshot.state = .liftoffDetection ∨
        machine.snapshot.state = .engineBurn ∨ machine.snapshot.state = .control) :
      Outcome machine ⟨guard, .disableFinControl⟩ .completed machine.controlDisabled
  | rolledBack (guard : FinOvertravelGuard) (burning : machine.snapshot.state = .engineBurn) :
      Outcome machine ⟨guard, .liftoffDetectionEmergencyStop⟩ .completed machine.rolledBack
  | restoredArmed (guard : FinOvertravelGuard) (nowUs : UInt64) (checkpoint : ResetCheckpoint)
      (accepted : CheckpointAccepted checkpoint)
      (armed : checkpoint.state = .liftoffDetection) :
      Outcome machine ⟨guard, .restoreAfterReset nowUs checkpoint⟩ .completed
        (machine.restoredArmed nowUs checkpoint)
  | restoredFlying (guard : FinOvertravelGuard) (nowUs : UInt64) (checkpoint : ResetCheckpoint)
      (accepted : CheckpointAccepted checkpoint)
      (flying : checkpoint.state ≠ .liftoffDetection) :
      Outcome machine ⟨guard, .restoreAfterReset nowUs checkpoint⟩ .completed
        (machine.restoredFlying nowUs checkpoint)
  | ticked (guard : FinOvertravelGuard) (input : MissionTickInput) (safety : SafetyRequest) :
      Outcome machine ⟨guard, .tick input safety⟩ .completed
        (machine.tick guard input safety).1

/-- Every call has an outcome; callers split on it and never unfold an operation. -/
theorem outcome (machine : MissionStateMachine) (call : Call) :
    Outcome machine call (machine.perform call).result (machine.step call) := by
  obtain ⟨guard, operation⟩ := call
  cases operation with
  | startSequence readiness mode =>
      show Outcome machine _ (machine.startSequence guard readiness mode).result
        (machine.startSequence guard readiness mode).machine
      rcases startSequence_cases machine guard readiness mode with
        ⟨completes, receiving, clear, next⟩ | ⟨refuses, kept⟩
      · rw [completes, next]
        exact .started guard readiness mode receiving clear
      · rw [kept]
        exact .refused refuses
  | cancelSequence =>
      show Outcome machine _ machine.cancelSequence.1 machine.cancelSequence.2
      rcases cancelSequence_cases machine with ⟨armed, next⟩ | ⟨-, kept⟩
      · rw [next]
        exact .cancelled guard armed
      · rw [kept]
        exact .refused nofun
  | disableFinControl =>
      show Outcome machine _ machine.disableFinControl.1 machine.disableFinControl.2
      rcases disableFinControl_cases machine with ⟨sequencing, next⟩ | kept
      · rw [next]
        exact .controlDisabled guard sequencing
      · rw [kept]
        exact .refused nofun
  | liftoffDetectionEmergencyStop =>
      show Outcome machine _ machine.liftoffDetectionEmergencyStop.1
        machine.liftoffDetectionEmergencyStop.2
      rcases liftoffDetectionEmergencyStop_cases machine with ⟨burning, next⟩ | ⟨-, kept⟩
      · rw [next]
        exact .rolledBack guard burning
      · rw [kept]
        exact .refused nofun
  | restoreAfterReset nowUs checkpoint =>
      show Outcome machine _ (machine.restoreAfterReset nowUs checkpoint).1
        (machine.restoreAfterReset nowUs checkpoint).2
      rcases restoreAfterReset_cases machine nowUs checkpoint with
        ⟨accepted, armed, next⟩ | ⟨accepted, flying, next⟩ | ⟨-, kept⟩
      · rw [next]
        exact .restoredArmed guard nowUs checkpoint accepted armed
      · rw [next]
        exact .restoredFlying guard nowUs checkpoint accepted flying
      · rw [kept]
        exact .refused nofun
  | tick input safety =>
      rw [step_tick]
      exact .ticked guard input safety

end MissionStateMachine

end MissionBoard.Mission
