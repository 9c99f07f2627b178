import MissionBoard.Runtime.Reachable

/-!
Owns what a new flight epoch starts from. A start sequence clears every latch of
the epoch before it; the emergency stop before liftoff leaves the power-cutoff
latch as it finds it, and the parachute directive follows the latch.
-/

namespace MissionBoard.Flight

open Protocol Mission MissionStateMachine Control MissionBoard.Runtime

/-- The operations that begin a flight epoch. -/
def beginsEpoch : Operation → Bool
  | .startSequence _ _ | .liftoffDetectionEmergencyStop => true
  | _ => false

/-- Nothing of an earlier epoch is left in the snapshot. -/
structure CleanEpoch (snapshot : MissionSnapshot) : Prop where
  deployment : snapshot.deploymentStarted = false
  cutoff : snapshot.deploymentPowerCutoffLatched = false
  parachute : snapshot.parachute = .hold
  liftoff : snapshot.liftoffTimeValid = false
  elapsed : snapshot.elapsedUs = 0
  reference : snapshot.controlRollReferenceValid = false

/-- A completed operation of either kind does change the epoch. -/
theorem flightEpoch_ne_of_beginsEpoch {machine : MissionStateMachine} {call : Call}
    (begins : beginsEpoch call.operation = true)
    (completes : (machine.perform call).result = .completed) :
    (machine.step call).snapshot.flightEpoch ≠ machine.snapshot.flightEpoch := by
  have outcome := machine.outcome call
  generalize machine.step call = next, (machine.perform call).result = result at outcome completes ⊢
  cases outcome with
  | refused incomplete => exact absurd completes incomplete
  | started => exact nextEpoch_ne _
  | rolledBack => exact nextEpoch_ne _
  | cancelled | controlDisabled | restoredArmed | restoredFlying | ticked =>
      contradiction

private theorem cleanEpoch_started (machine : MissionStateMachine)
    (readiness : PreflightReadinessSnapshot) (mode : StartMode) :
    CleanEpoch (machine.started readiness mode).snapshot :=
  ⟨rfl, rfl, rfl, rfl, rfl, rfl⟩

/-- A rollback is clean exactly when it finds no cutoff latch. -/
private theorem cleanEpoch_rolledBack_iff (machine : MissionStateMachine) :
    CleanEpoch machine.rolledBack.snapshot ↔
      machine.snapshot.deploymentPowerCutoffLatched = false := by
  constructor
  · intro clean
    exact clean.cutoff
  · intro unlatched
    have parachute : machine.rolledBack.snapshot.parachute = .hold := by
      show (if machine.snapshot.deploymentPowerCutoffLatched = true then ParaDirective.poweredOff
        else if false = true then .open else .hold) = .hold
      simp [unlatched]
    exact ⟨rfl, unlatched, parachute, rfl, rfl, rfl⟩

/-- A new epoch starts clean exactly when it is not a rollback over a latched
power cutoff. -/
theorem cleanEpoch_iff {machine : MissionStateMachine} {call : Call}
    (begins : beginsEpoch call.operation = true)
    (completes : (machine.perform call).result = .completed) :
    CleanEpoch (machine.step call).snapshot ↔
      (call.operation = .liftoffDetectionEmergencyStop →
        machine.snapshot.deploymentPowerCutoffLatched = false) := by
  have outcome := machine.outcome call
  generalize machine.step call = next, (machine.perform call).result = result at outcome completes ⊢
  cases outcome with
  | refused incomplete => exact absurd completes incomplete
  | started guard readiness mode =>
      exact iff_of_true (cleanEpoch_started machine readiness mode) nofun
  | rolledBack =>
      rw [cleanEpoch_rolledBack_iff]
      exact ⟨fun unlatched _ => unlatched, fun unlatched => unlatched rfl⟩
  | cancelled | controlDisabled | restoredArmed | restoredFlying | ticked =>
      contradiction

/-- Start, liftoff, and a safety request for the running epoch that cuts power. -/
def flightWithSafetyCutoff : List Call :=
  [⟨{}, .startSequence fullReadiness .normal⟩, readyTick 2000000 true,
    ⟨{}, .tick { monotonicUs := 3000000 } { flightEpoch := 1, absolutePowerCutoff := true }⟩]

theorem cleanEpoch_iff_nominal :
    CleanEpoch ((Run.after step {} flightToControl.dropLast).step
      ⟨{}, .liftoffDetectionEmergencyStop⟩).snapshot :=
  (cleanEpoch_iff rfl (by decide +kernel)).mpr (by decide +kernel)

/-- A rollback over the cutoff latch starts an epoch whose parachute is powered off. -/
theorem not_cleanEpoch_of_safetyCutoff :
    ¬ ∀ machine, Reachable machine → ∀ call : Call, beginsEpoch call.operation = true →
      (machine.perform call).result = .completed → CleanEpoch (machine.step call).snapshot := by
  intro always
  have clean := always (Run.after step {} flightWithSafetyCutoff)
    (reachable_after .boot (by decide +kernel)) ⟨{}, .liftoffDetectionEmergencyStop⟩ rfl
    (by decide +kernel)
  have poweredOff : ((Run.after step {} flightWithSafetyCutoff).step
      ⟨{}, .liftoffDetectionEmergencyStop⟩).snapshot.parachute = .poweredOff := by
    decide +kernel
  rw [clean.parachute] at poweredOff
  contradiction

end MissionBoard.Flight
