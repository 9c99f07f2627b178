import MissionBoard.Runtime.LiftoffLoop
import MissionBoard.Runtime.SafetyTask

/-!
Owns the way of a deployment to the open request of `safetyTask`: the mission state
machine, the pressure detection of `airDataTask` with the epoch it publishes, and the loop
of `safetyTask` taken apart at the points where another task may run.

`para_queue` is what the requests see of it, a room that is there or not. The timer only
moves forward, and it counts microseconds since boot in fewer than 62 bits. How many epochs
have begun, and how often `safetyTask` has turned to another epoch, is kept for the proofs.
-/

namespace MissionBoard.Runtime

open Protocol Control Mission Sensors

/-- Where `safetyTask` stands in its loop. -/
inductive OpeningPhase where
  /-- Before `power_queue` is emptied and the snapshot is read. -/
  | observing
  /-- Before the timer is read. -/
  | timing
  /-- Before the deadlines are judged, with the time that was read. -/
  | acting (nowUs : UInt64)
deriving DecidableEq

/-- What the log keeps. -/
inductive OpeningEvent where
  /-- An open request for the epoch is placed on `para_queue`. -/
  | placed (session : ℕ) (flightEpoch : UInt32)
  /-- A snapshot that `safetyTask` reads reports `deployment_started`. -/
  | reported (session : ℕ)
deriving DecidableEq

/-- `esp_timer_get_time` stays below this many microseconds. -/
def timerLimitUs : ℕ := 2 ^ 62

/-- The three tasks, as far as the open request depends on them. -/
structure OpenRequests where
  machine : MissionStateMachine
  attempt : ℕ
  timerUs : ℕ
  airSnapshot : MissionSnapshot := {}
  airAttempt : ℕ := 0
  flightLogic : AirDataFlightLogic Double := {}
  pressureDeploymentEpoch : UInt32 := 0
  pressureAttempt : ℕ := 0
  safety : SafetyTask := {}
  session : ℕ := 0
  /-- The snapshot whose liftoff `safetyTask` took over last. -/
  liftoffSource : MissionSnapshot := {}
  phase : OpeningPhase := .observing
  log : List OpeningEvent := []

/-- A step of one of the tasks, or the passing of time. -/
inductive OpeningLabel where
  | wait (us : ℕ)
  | operate (call : Call)
  | tick (guard : FinOvertravelGuard) (input : MissionTickInput)
  | refreshAir
  | updateLps (pressure : Option Double)
  | safety (input : SafetyInput)
deriving DecidableEq

namespace OpenRequests

/-- The machine when the tasks start: a fresh one, or the one a checkpoint restores. -/
def bootMachine (nowUs : UInt64) : Option ResetCheckpoint → MissionStateMachine
  | none => {}
  | some checkpoint => (({} : MissionStateMachine).restoreAfterReset nowUs checkpoint).2

/-- The board when the tasks start; an epoch that is restored is the first attempt. -/
def boot (nowUs : UInt64) (checkpoint : Option ResetCheckpoint) : OpenRequests where
  machine := bootMachine nowUs checkpoint
  attempt := if (bootMachine nowUs checkpoint).snapshot.flightEpoch = 0 then 0 else 1
  timerUs := nowUs.toNat

/-! ### `missionRealtimeTask` -/

/-- An operation on the machine; a change of its epoch begins another attempt. -/
def operate (requests : OpenRequests) (call : Call) : OpenRequests :=
  let next := requests.machine.step call
  { requests with
    machine := next
    attempt :=
      if next.snapshot.flightEpoch = requests.machine.snapshot.flightEpoch then requests.attempt
      else requests.attempt + 1 }

/-- A tick, at a time the timer has shown. -/
def tick (requests : OpenRequests) (guard : FinOvertravelGuard) (input : MissionTickInput) :
    OpenRequests :=
  if input.monotonicUs.toNat ≤ requests.timerUs then
    { requests with machine := (requests.machine.tick guard input {}).1 }
  else requests

/-! ### `airDataTask` -/

/-- `updateMissionSnapshot` -/
def refreshAir (requests : OpenRequests) : OpenRequests :=
  { requests with
    airSnapshot := requests.machine.snapshot
    airAttempt := requests.attempt }

/-- `flight_logic.update`, and the store of `pressure_deployment_epoch`. -/
def updateLps (tests : DetectionTests) (requests : OpenRequests) (pressure : Option Double) :
    OpenRequests :=
  let value := pressure.getD .zero
  let updated := requests.flightLogic.update tests.falls tests.rises
    requests.airSnapshot.flightEpoch requests.airSnapshot.state requests.airSnapshot.elapsedUs
    value (pressure.isSome && value.isFinite)
  let stepped := { requests with flightLogic := updated.2 }
  if updated.1.pressureApexDetected then
    { stepped with
      pressureDeploymentEpoch := updated.1.flightEpoch
      pressureAttempt := requests.airAttempt }
  else stepped

/-! ### `safetyTask` -/

/-- The block under `state_mutex`, when it is taken. -/
def observe (requests : OpenRequests) (input : SafetyInput) : OpenRequests :=
  let snapshot := requests.machine.snapshot
  let turns := snapshot.flightEpoch ≠ requests.safety.trackedEpoch
  let session := if input.takesMutex ∧ turns then requests.session + 1 else requests.session
  { requests with
    safety := requests.safety.observed snapshot input
    session := session
    liftoffSource :=
      if input.takesMutex ∧ requests.safety.Adopts snapshot then snapshot
      else requests.liftoffSource
    phase := .timing
    log := requests.log ++
      if input.takesMutex ∧ snapshot.deploymentStarted then [.reported session] else [] }

/-- What the deadlines read: the time and the published epoch. -/
def judged (requests : OpenRequests) (nowUs : UInt64) (input : SafetyInput) : SafetyInput :=
  { input with
    nowUs := nowUs
    pressureDeploymentEpoch := requests.pressureDeploymentEpoch }

/-- The epochs of the open requests the deadlines of an iteration send. -/
def openings (requests : OpenRequests) (nowUs : UInt64) (input : SafetyInput) : List UInt32 :=
  (requests.safety.act (requests.judged nowUs input)).2.filterMap SafetyEffect.openingEpoch

/-- The deadlines; an open request that finds room is placed. -/
def act (requests : OpenRequests) (nowUs : UInt64) (input : SafetyInput) : OpenRequests :=
  { requests with
    safety := (requests.safety.act (requests.judged nowUs input)).1
    phase := .observing
    log := requests.log ++
      if input.paraQueueAccepts then
        (requests.openings nowUs input).map (.placed requests.session)
      else [] }

/-- One step of `safetyTask`. -/
def stepSafety (requests : OpenRequests) (input : SafetyInput) : OpenRequests :=
  match requests.phase with
  | .observing => requests.observe input
  | .timing => { requests with phase := .acting (UInt64.ofNat requests.timerUs) }
  | .acting nowUs => requests.act nowUs input

/-- One step. Time does not pass the limit of the timer. -/
def step (tests : DetectionTests) (requests : OpenRequests) : OpeningLabel → OpenRequests
  | .wait us =>
      if requests.timerUs + us < timerLimitUs then
        { requests with timerUs := requests.timerUs + us }
      else requests
  | .operate call => if commanded call.operation then requests.operate call else requests
  | .tick guard input => requests.tick guard input
  | .refreshAir => requests.refreshAir
  | .updateLps pressure => requests.updateLps tests pressure
  | .safety input => requests.stepSafety input

end OpenRequests

end MissionBoard.Runtime
