import MissionBoard.Library.BoundedQueue
import MissionBoard.Mission.CommandExecutor
import MissionBoard.Mission.Operation
import MissionBoard.Runtime.RecoveryBoot
import MissionBoard.Runtime.SafetyTask

/-!
Owns what the tasks of `runtime/production_runtime.cpp` share to carry a command
from its acceptance to its result and a flight from its start to the opening of the
parachute: the executor, the mission state machine, the flight checkpoint, the queues
between the tasks and the local variables each task keeps across them. It also owns
the steps of `commandWorkerTask`, of `safetyTask` and of the storage export in `sdLogTask`.

A step is what a task does between two points where another task may run. A mutex
that is not free at once, a sensor and a servo are inputs of the step. The log
records each result sent, each actuator effect, each flight epoch entered and each
reset.
-/

namespace MissionBoard.Runtime

open Protocol Control Mission

/-! ### What the queues carry -/

/-- `MissionCommandEnvelope` -/
structure MissionCommandEnvelope where
  request : GenericCommandRequest := {}
  decision : CommandDecision := {}
  readiness : PreflightReadinessSnapshot := {}
deriving DecidableEq

/-- `ParachuteCommandRequest::Kind` -/
inductive ParachuteCommandKind where
  | generic
  | startPreparation
deriving DecidableEq

/-- `ParachuteCommandRequest` -/
structure ParachuteCommandRequest where
  kind : ParachuteCommandKind := .generic
  command : GenericCommandRequest := {}
  readiness : PreflightReadinessSnapshot := {}
deriving DecidableEq

/-- `ParachuteStartResponse` -/
structure ParachuteStartResponse where
  transactionId : UInt8 := 0
  reason : CommandReason := .none
  detail : UInt32 := 0
deriving DecidableEq

/-- `StorageExportRequest` -/
structure StorageExportRequest where
  transactionId : UInt8 := 0
deriving DecidableEq

/-! ### What the tasks keep -/

/-- Where `commandWorkerTask` stands in its loop. -/
inductive CommandWorker where
  /-- It waits on `command_queue`. -/
  | waiting
  /-- It has filled in the context of a request. -/
  | prepared (request : GenericCommandRequest) (context : CommandContext)
  /-- The executor has accepted the request of the envelope. -/
  | begun (envelope : MissionCommandEnvelope)
  /-- The queue of an accepted request was full. -/
  | unqueued (request : GenericCommandRequest)

/-- `CommandFinMode` -/
inductive CommandFinMode where
  | free
  | zeroHold
  | positionHold
  | relativeMove
deriving DecidableEq

/-- `PendingFinMove`; its deadline and its target are inputs of the step that
watches it. -/
structure PendingFinMove where
  active : Bool := false
  transactionId : UInt8 := 0
deriving DecidableEq

/-- `CalibrationState`; its samples and its start time are inputs of the step that
finishes it. -/
structure CalibrationState where
  active : Bool := false
  transactionId : UInt8 := 0
deriving DecidableEq

/-- What `MissionSnapshotCache` is constructed with: a first read that fails must not look
like command receive. -/
def initialSnapshotCache : MissionSnapshot where
  state := .unknown
  fin := .brake
  parachute := .hold

/-- The variables of `missionRealtimeTask` that commands and the deployment use.
`applying` holds the decision of an accepted emergency stop between the executor's
answer and the emergency's effects; `snapshotCache` is `mission_snapshot_cache`. -/
structure MissionRealtime where
  applying : Option EmergencyDecision := none
  commandFinMode : CommandFinMode := .free
  commandFinAutoHoldAllowed : Bool := true
  commandFinBootHoldActive : Bool := false
  commandFinTargetIsUnwrapped : Bool := false
  finZeroAvailable : Bool := false
  pendingFinMove : PendingFinMove := {}
  pendingStart : MissionCommandEnvelope := {}
  startPreparationPending : Bool := false
  preflightGeneration : UInt32 := 0
  preflightGyroBiasValid : Bool := false
  gravityReferenceValid : Bool := false
  calibration : CalibrationState := {}
  snapshotCache : MissionSnapshot := initialSnapshotCache
  cutoffSent : Bool := false
  deploymentSent : Bool := false

/-- The two relative moves of the parachute, `kParachuteOpenRelativeDegrees` and
`kParachuteCloseRelativeDegrees`. -/
inductive ParachuteMove where
  | open
  | close
deriving DecidableEq

/-- Where `parachuteTask` stands in its loop. -/
inductive ParachutePhase where
  /-- At the top, before `flushGenericCompletion`. -/
  | flushing
  /-- Before the start response is sent. -/
  | responding
  /-- In the loop that empties `para_queue`. -/
  | draining
  /-- Before `parachute_command_queue` is read. -/
  | taking
  /-- Before the servo is initialized. -/
  | driving
  /-- Between taking up a pending start and `startMove`; the locals are its arguments. -/
  | starting (transactionId : UInt8) (move : ParachuteMove)
  /-- Before a running operation is watched. -/
  | monitoring
deriving DecidableEq

/-- `DesiredState` -/
inductive DesiredState where
  | holding
  | moving
  | poweredOff
deriving DecidableEq

/-- `MotionOperation`; its start time is an input of the step that watches it. -/
structure MotionOperation where
  active : Bool := false
  automatic : Bool := false
  pendingStart : Bool := false
  transactionId : UInt8 := 0
  flightEpoch : UInt32 := 0
  move : ParachuteMove := .open
deriving DecidableEq

/-- `CommandCompletion` -/
structure CommandCompletion where
  pending : Bool := false
  transactionId : UInt8 := 0
  reason : CommandReason := .none
  detail : UInt32 := 0
deriving DecidableEq

/-- The variables of `parachuteTask`. The timers of the power rail and of the servo
are inputs of the step that initializes the servo. -/
structure ParachuteTask where
  phase : ParachutePhase := .flushing
  desired : DesiredState := .holding
  operation : MotionOperation := {}
  completion : CommandCompletion := {}
  startResponsePending : Bool := false
  pendingStartResponse : ParachuteStartResponse := {}
  automaticOpenEpoch : UInt32 := 0
  openedEpoch : UInt32 := 0
  holdEstablished : Bool := false
deriving DecidableEq

/-- Where `safetyTask` stands in its loop. -/
inductive SafetyPhase where
  /-- Before `power_queue` is emptied and the snapshot is read. -/
  | observing
  /-- Before the timer is read. -/
  | acting
deriving DecidableEq

/-- What the tasks do that can be told from outside. -/
inductive PipelineEvent where
  /-- The executor accepts a request, and the accepted result is sent. -/
  | accepted (request : GenericCommandRequest)
  /-- A result that settles a request is sent. -/
  | answered (result : CommandResult)
  /-- The cached result of a repeated request is sent again. -/
  | replayed (result : CommandResult)
  /-- The result of an emergency stop is sent. -/
  | emergencyAnswered (result : CommandResult)
  /-- An emergency stop is applied, and the results it interrupted are sent. -/
  | emergencyApplied (interrupted : List CommandResult)
  /-- A fin command changes the fin mode or clears `actuator_output_inhibited`. -/
  | finActuated (transactionId : UInt8)
  /-- A relative move is issued to the parachute servo for a command. -/
  | parachuteMoved (transactionId : UInt8)
  /-- The automatic relative move is issued to the parachute servo. -/
  | automaticMoved (flightEpoch : UInt32)
  /-- A start or a liftoff detection emergency stop begins a flight epoch. -/
  | epochEntered (flightEpoch : UInt32)
  /-- The board is reset, and the checkpoint it restores. -/
  | rebooted (restored : Option ResetCheckpoint)
deriving DecidableEq

/-- What the tasks share, what each keeps, and the log. -/
structure CommandPipeline where
  executor : CommandExecutor := {}
  guard : FinOvertravelGuard := {}
  machine : MissionStateMachine := {}
  checkpoint : FlightCheckpointRecord := {}
  actuatorOutputInhibited : Bool := false
  finZeroConfigured : Bool := false
  transitionQueue : BoundedQueue MissionCommandEnvelope 8 := .empty
  parachuteCommandQueue : BoundedQueue ParachuteCommandRequest 8 := .empty
  storageExportQueue : BoundedQueue StorageExportRequest 2 := .empty
  paraQueue : BoundedQueue ParaRequest 4 := .empty
  startResponseQueue : BoundedQueue ParachuteStartResponse 2 := .empty
  worker : CommandWorker := .waiting
  realtime : MissionRealtime := {}
  safety : SafetyTask := {}
  safetyPhase : SafetyPhase := .observing
  parachute : ParachuteTask := {}
  exportCompletion : CommandCompletion := {}
  log : List PipelineEvent := []

/-- What an iteration of `commandWorkerTask` reads from outside. -/
structure WorkerInput where
  request : GenericCommandRequest := {}
  takesState : Bool := true
  takesExecutor : Bool := true
  resourcesPreallocated : Bool := true
deriving DecidableEq

/-- What an iteration of `sdLogTask` reads for an export: whether it gets the
executor, and how the export ends. -/
structure StorageInput where
  takesExecutor : Bool := true
  reason : CommandReason := .none
  detail : UInt32 := 0
deriving DecidableEq

namespace CommandPipeline

/-- The pipeline with one more event. -/
def record (pipeline : CommandPipeline) (event : PipelineEvent) : CommandPipeline :=
  { pipeline with log := pipeline.log ++ [event] }

/-- The phase a reason finishes with. -/
def phaseFor (reason : CommandReason) : CommandPhase :=
  if reason = .none then .completed else .failed

/-- `command_executor.finish`: its result, and the pipeline it leaves. -/
def finishCommand (pipeline : CommandPipeline) (transactionId : UInt8) (reason : CommandReason)
    (detail : UInt32) : CommandResult × CommandPipeline :=
  let finished := pipeline.executor.finish pipeline.guard transactionId (phaseFor reason) reason
    detail
  (finished.1, { pipeline with executor := finished.2.1, guard := finished.2.2 })

/-- `command_executor.finish` followed by `enqueueResult`. -/
def settle (pipeline : CommandPipeline) (transactionId : UInt8) (reason : CommandReason)
    (detail : UInt32) : CommandPipeline :=
  let finished := pipeline.finishCommand transactionId reason detail
  finished.2.record (.answered finished.1)

/-! ### The command worker -/

/-- The context the worker fills in; `start` refuses to run without the queues. -/
def workerContext (pipeline : CommandPipeline) (input : WorkerInput) : CommandContext where
  state := if input.takesState then pipeline.machine.snapshot.state else .unknown
  deploymentPowerCutoffDone :=
    input.takesState && pipeline.machine.snapshot.deploymentPowerCutoffLatched
  resourcesPreallocated := input.resourcesPreallocated
  finAvailable := true
  parachuteAvailable := true
  finSafeCommandsSupported := true
  calibrationSupported := true
  storageExportSupported := true

/-- The event of the result that `begin` decides. -/
def decisionEvent (request : GenericCommandRequest) (decision : CommandDecision) : PipelineEvent :=
  if decision.execute then .accepted request
  else if decision.replay then .replayed decision.result
  else .answered decision.result

/-- `command_executor.begin` and the result it sends. -/
def beginCommand (pipeline : CommandPipeline) (request : GenericCommandRequest)
    (context : CommandContext) : CommandPipeline :=
  let begun := pipeline.executor.begin pipeline.guard request context
  { pipeline with
    executor := begun.2.1
    guard := begun.2.2
    worker := if begun.1.execute then .begun { request := request, decision := begun.1 }
      else .waiting }.record (decisionEvent request begun.1)

/-- The `rejected` result of a worker that gets no executor. -/
def executorBusy (pipeline : CommandPipeline) (request : GenericCommandRequest) :
    CommandPipeline :=
  { pipeline with worker := .waiting }.record
    (.answered (resultFor request .rejected .busy 0))

/-- The send of an accepted command to the queue of its domain. -/
def enqueueCommand (pipeline : CommandPipeline) (envelope : MissionCommandEnvelope) :
    CommandPipeline :=
  let request := envelope.request
  let unqueued := { pipeline with worker := .unqueued request }
  if envelope.decision.domain = .parachute then
    match pipeline.parachuteCommandQueue.send { kind := .generic, command := request } with
    | some queue => { pipeline with worker := .waiting, parachuteCommandQueue := queue }
    | none => unqueued
  else if envelope.decision.domain = .storage then
    match pipeline.storageExportQueue.send { transactionId := request.transactionId } with
    | some queue => { pipeline with worker := .waiting, storageExportQueue := queue }
    | none => unqueued
  else
    match pipeline.transitionQueue.send envelope with
    | some queue => { pipeline with worker := .waiting, transitionQueue := queue }
    | none => unqueued

/-- One step of `commandWorkerTask`. -/
def stepWorker (pipeline : CommandPipeline) (input : WorkerInput) : CommandPipeline :=
  match pipeline.worker with
  | .waiting =>
      { pipeline with worker := .prepared input.request (pipeline.workerContext input) }
  | .prepared request context =>
      if input.takesExecutor then pipeline.beginCommand request context
      else pipeline.executorBusy request
  | .begun envelope => pipeline.enqueueCommand envelope
  | .unqueued request =>
      let waiting := { pipeline with worker := .waiting }
      if input.takesExecutor then waiting.settle request.transactionId .busy 0 else waiting

/-! ### The safety task -/

/-- What an effect of `safetyTask` leaves in `para_queue`. -/
def applySafetyEffect (pipeline : CommandPipeline) (effect : SafetyEffect) : CommandPipeline :=
  match effect with
  | .sendPara request true =>
      { pipeline with paraQueue := pipeline.paraQueue.offerFront request }
  | .sendPara request false => { pipeline with paraQueue := pipeline.paraQueue.offer request }
  | _ => pipeline

/-- `para_queue` has room. -/
def paraQueueAccepts (pipeline : CommandPipeline) : Bool :=
  decide (pipeline.paraQueue.items.length < 4)

/-- One step of `safetyTask`. -/
def stepSafety (pipeline : CommandPipeline) (input : SafetyInput) : CommandPipeline :=
  match pipeline.safetyPhase with
  | .observing =>
      { pipeline with
        safety := pipeline.safety.observed pipeline.machine.snapshot input
        safetyPhase := .acting }
  | .acting =>
      let acted := pipeline.safety.act { input with paraQueueAccepts := pipeline.paraQueueAccepts }
      acted.2.foldl applySafetyEffect
        { pipeline with safety := acted.1, safetyPhase := .observing }

/-! ### The storage export -/

/-- The block of `sdLogTask` that sends the result of an export. -/
def finishExport (pipeline : CommandPipeline) (input : StorageInput) : CommandPipeline :=
  if pipeline.exportCompletion.pending ∧ input.takesExecutor then
    { pipeline with exportCompletion := {} }.settle pipeline.exportCompletion.transactionId
      pipeline.exportCompletion.reason pipeline.exportCompletion.detail
  else pipeline

/-- The block of `sdLogTask` that takes up an export. -/
def takeExport (pipeline : CommandPipeline) (input : StorageInput) : CommandPipeline :=
  if pipeline.exportCompletion.pending then pipeline
  else
    match pipeline.storageExportQueue.receive with
    | none => pipeline
    | some (request, rest) =>
        { pipeline with
          storageExportQueue := rest
          exportCompletion :=
            { pending := true
              transactionId := request.transactionId
              reason := input.reason
              detail := input.detail } }

end CommandPipeline

end MissionBoard.Runtime
