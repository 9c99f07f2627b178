import MissionBoard.Library.Run
import MissionBoard.Runtime.CommandPipeline
import MissionBoard.Sensors.FlightDetectors

/-!
Owns the way of a liftoff detection to the mission state machine: the iteration of
`missionRealtimeTask` from its commands to its tick, the updates of `airDataTask`, and
`air_data_queue` between them.

`missionRealtimeTask` alone operates the machine, so its own steps keep their order. The
other task's steps come between them anywhere, and every `state_mutex` it or another task
holds shows as a try-lock that fails.

Two things are kept that the program does not keep: how many flight epochs have begun,
with the number at which each sample reached its detector, and a log.
-/

namespace MissionBoard.Runtime

open Protocol Control Mission Sensors

/-- A sample, and the number of epochs begun when its detector processed it. -/
structure Stamped (α : Type) where
  value : α
  generation : ℕ
deriving DecidableEq

/-- The values of a window, which the tests read. -/
def values {α : Type} (window : List (Stamped α)) : List α := window.map Stamped.value

/-- The stamps of a window. -/
def stamps {α : Type} (window : List (Stamped α)) : List ℕ := window.map Stamped.generation

/-- Where `missionRealtimeTask` stands in its iteration. -/
inductive IterationPhase where
  /-- At the emergency stops, start responses and commands. -/
  | commanding
  /-- At the IMU samples. -/
  | sampling
  /-- After `air_data_queue` has been read. -/
  | ticking
  /-- Before the second refresh of the cache. -/
  | caching
deriving DecidableEq

/-- `snapshot.flight`, and the stamps of the samples a detection in it rests on. -/
structure FlightReport where
  event : AirDataFlightEvent := {}
  contributors : List ℕ := []
deriving DecidableEq

/-- What the log keeps. -/
inductive LiftoffEvent where
  /-- A detector of the machine's epoch tells `missionRealtimeTask` of liftoff while the
  machine waits for it. -/
  | reported (generation : ℕ)
  /-- A tick is executed. -/
  | ticked (generation : ℕ) (detected : Bool)
  /-- A tick takes the machine from liftoff detection to engine burn. -/
  | lifted (generation : ℕ) (contributors : List ℕ)
deriving DecidableEq

/-- The machine, the two tasks and the queue between them. -/
structure LiftoffLoop where
  machine : MissionStateMachine
  generation : ℕ := 0
  phase : IterationPhase := .commanding
  /-- `mission_snapshot_cache` -/
  snapshotCache : MissionSnapshot := initialSnapshotCache
  detectorEpoch : UInt32 := 0
  liftoffDetector : ImuLiftoffDetector (Stamped Acceleration) := {}
  liftoffDetected : Bool := false
  /-- The stamps of the samples `liftoffDetected` rests on. -/
  contributors : List ℕ := []
  /-- `mission_snapshot` of `airDataTask` -/
  airSnapshot : MissionSnapshot := {}
  flightLogic : AirDataFlightLogic (Stamped Double) := {}
  flightReport : FlightReport := {}
  airDataQueue : Option FlightReport := none
  log : List LiftoffEvent := []

/-- The operations `missionRealtimeTask` performs before its tick. -/
def commanded : Operation → Bool
  | .startSequence _ _ | .cancelSequence | .disableFinControl | .liftoffDetectionEmergencyStop =>
      true
  | .restoreAfterReset _ _ | .tick _ _ => false

/-- A step of one of the two tasks. -/
inductive LiftoffLabel where
  | operate (call : Call)
  | refresh (takesState : Bool)
  | sample (acceleration : Acceleration) (valid : Bool)
  | receive
  | tick (guard : FinOvertravelGuard) (input : MissionTickInput) (takesState : Bool)
  | recache (takesState : Bool)
  | refreshAir (takesState : Bool)
  | updateLps (pressure : Option Double)
  | publish
deriving DecidableEq

namespace LiftoffLoop

/-- The log with one more event. -/
def record (loop : LiftoffLoop) (event : LiftoffEvent) : LiftoffLoop :=
  { loop with log := loop.log ++ [event] }

/-! ### `missionRealtimeTask` -/

/-- An operation on the machine; a change of its epoch begins a new one. -/
def operate (loop : LiftoffLoop) (call : Call) : LiftoffLoop :=
  let next := loop.machine.step call
  { loop with
    machine := next
    generation :=
      if next.snapshot.flightEpoch = loop.machine.snapshot.flightEpoch then loop.generation
      else loop.generation + 1 }

/-- `mission_snapshot_cache.update`, when the try-lock succeeds. -/
def recache (loop : LiftoffLoop) (takesState : Bool) : LiftoffLoop :=
  if takesState then { loop with snapshotCache := loop.machine.snapshot } else loop

/-- The block of the detector's epoch, run on the cached snapshot. -/
def followEpoch (loop : LiftoffLoop) : LiftoffLoop :=
  if loop.snapshotCache.flightEpoch ≠ loop.detectorEpoch then
    { loop with
      detectorEpoch := loop.snapshotCache.flightEpoch
      liftoffDetector := {}
      liftoffDetected := false
      contributors := [] }
  else if loop.snapshotCache.state = .commandReceive then
    { loop with liftoffDetector := {}, liftoffDetected := false, contributors := [] }
  else loop

/-- The machine waits for liftoff in this epoch. -/
def awaits (loop : LiftoffLoop) (flightEpoch : UInt32) : Bool :=
  loop.machine.snapshot.state == .liftoffDetection &&
    loop.machine.snapshot.flightEpoch == flightEpoch

/-- A detection is added to `liftoff_detected`. -/
def detect (loop : LiftoffLoop) (detected : Bool) (contributors : List ℕ) : LiftoffLoop :=
  if detected then
    { loop with liftoffDetected := true, contributors := loop.contributors ++ contributors }
  else loop

/-- The report of a detector, as the log sees it. -/
def witness (loop : LiftoffLoop) (detected : Bool) (flightEpoch : UInt32) : LiftoffLoop :=
  if detected && loop.awaits flightEpoch then loop.record (.reported loop.generation) else loop

/-- One sample of the IMU. -/
def sample (tests : DetectionTests) (loop : LiftoffLoop) (acceleration : Acceleration)
    (valid : Bool) : LiftoffLoop :=
  let updated := loop.liftoffDetector.update (fun window => tests.accelerates (values window))
    ⟨acceleration, loop.generation⟩ (valid && acceleration.isFinite)
  ({ loop with liftoffDetector := updated.2 }.detect updated.1
    (stamps updated.2.streak.evidence)).witness updated.1 loop.detectorEpoch

/-- The report of `airDataTask`, accepted for the cached epoch. -/
def receive (loop : LiftoffLoop) : LiftoffLoop :=
  match loop.airDataQueue with
  | none => loop
  | some report =>
      let taken := { loop with airDataQueue := none }
      let accepted :=
        if report.event.flightEpoch = loop.snapshotCache.flightEpoch then
          taken.detect report.event.lpsLiftoffDetected report.contributors
        else taken
      accepted.witness report.event.lpsLiftoffDetected report.event.flightEpoch

/-- The tick, when the try-lock succeeds. `liftoff_detected` is cleared in either case. -/
def tick (loop : LiftoffLoop) (guard : FinOvertravelGuard) (input : MissionTickInput)
    (takesState : Bool) : LiftoffLoop :=
  let cleared := { loop with liftoffDetected := false, contributors := [] }
  if takesState then
    let next :=
      (loop.machine.tick guard { input with liftoffDetected := loop.liftoffDetected } {}).1
    let ticked :=
      { cleared with machine := next }.record (.ticked loop.generation loop.liftoffDetected)
    if loop.machine.snapshot.state = .liftoffDetection ∧ next.snapshot.state = .engineBurn then
      ticked.record (.lifted loop.generation loop.contributors)
    else ticked
  else cleared

/-! ### `airDataTask` -/

/-- `updateMissionSnapshot` -/
def refreshAir (loop : LiftoffLoop) (takesState : Bool) : LiftoffLoop :=
  if takesState then { loop with airSnapshot := loop.machine.snapshot } else loop

/-- `flight_logic.update`. A read that fails gives no pressure. -/
def updateLps (tests : DetectionTests) (loop : LiftoffLoop) (pressure : Option Double) :
    LiftoffLoop :=
  let value := pressure.getD .zero
  let updated := loop.flightLogic.update
    (fun earlier later => tests.falls (values earlier) (values later))
    (fun earlier later => tests.rises (values earlier) (values later))
    loop.airSnapshot.flightEpoch loop.airSnapshot.state loop.airSnapshot.elapsedUs
    ⟨value, loop.generation⟩ (pressure.isSome && value.isFinite)
  { loop with
    flightLogic := updated.2
    flightReport :=
      { event := updated.1
        contributors := stamps updated.2.liftoffDetector.streak.evidence } }

/-- `xQueueOverwrite(air_data_queue, &snapshot)` -/
def publish (loop : LiftoffLoop) : LiftoffLoop :=
  { loop with airDataQueue := some loop.flightReport }

/-! ### The interleaving -/

/-- One step. A step of `missionRealtimeTask` out of its order does nothing. -/
def step (tests : DetectionTests) (loop : LiftoffLoop) : LiftoffLabel → LiftoffLoop
  | .operate call =>
      if loop.phase = .commanding ∧ commanded call.operation then loop.operate call else loop
  | .refresh takesState =>
      if loop.phase = .commanding then
        { (loop.recache takesState).followEpoch with phase := .sampling }
      else loop
  | .sample acceleration valid =>
      if loop.phase = .sampling then loop.sample tests acceleration valid else loop
  | .receive => if loop.phase = .sampling then { loop.receive with phase := .ticking } else loop
  | .tick guard input takesState =>
      if loop.phase = .ticking then { loop.tick guard input takesState with phase := .caching }
      else loop
  | .recache takesState =>
      if loop.phase = .caching then { loop.recache takesState with phase := .commanding } else loop
  | .refreshAir takesState => loop.refreshAir takesState
  | .updateLps pressure => loop.updateLps tests pressure
  | .publish => loop.publish

/-- The epochs the detectors and their reports belong to. -/
def heldEpochs (loop : LiftoffLoop) : List UInt32 :=
  [loop.detectorEpoch, loop.flightLogic.flightEpoch, loop.flightReport.event.flightEpoch] ++
    (loop.airDataQueue.map fun report => report.event.flightEpoch).toList

@[simp] theorem recache_log (loop : LiftoffLoop) (takesState : Bool) :
    (loop.recache takesState).log = loop.log := by
  unfold recache; split <;> rfl

@[simp] theorem followEpoch_log (loop : LiftoffLoop) : loop.followEpoch.log = loop.log := by
  unfold followEpoch
  split
  · rfl
  · split <;> rfl

@[simp] theorem detect_phase (loop : LiftoffLoop) (detected : Bool) (contributors : List ℕ) :
    (loop.detect detected contributors).phase = loop.phase := by
  unfold detect; split <;> rfl

@[simp] theorem witness_phase (loop : LiftoffLoop) (detected : Bool) (flightEpoch : UInt32) :
    (loop.witness detected flightEpoch).phase = loop.phase := by
  unfold witness record; split <;> rfl

@[simp] theorem receive_phase (loop : LiftoffLoop) : loop.receive.phase = loop.phase := by
  unfold receive
  split
  · rfl
  · rw [witness_phase]
    split
    · rw [detect_phase]
    · rfl

theorem detectorEpoch_mem_heldEpochs (loop : LiftoffLoop) :
    loop.detectorEpoch ∈ loop.heldEpochs := by
  simp [heldEpochs]

theorem logicEpoch_mem_heldEpochs (loop : LiftoffLoop) :
    loop.flightLogic.flightEpoch ∈ loop.heldEpochs := by
  simp [heldEpochs]

theorem reportEpoch_mem_heldEpochs (loop : LiftoffLoop) :
    loop.flightReport.event.flightEpoch ∈ loop.heldEpochs := by
  simp [heldEpochs]

theorem queuedEpoch_mem_heldEpochs {loop : LiftoffLoop} {report : FlightReport}
    (queued : loop.airDataQueue = some report) : report.event.flightEpoch ∈ loop.heldEpochs := by
  simp [heldEpochs, queued]

end LiftoffLoop

end MissionBoard.Runtime
