import MissionBoard.Runtime.CommandPipeline

/-!
Owns the loop of `parachuteTask`: the result of a finished operation, the start
response, the requests of `para_queue`, the next command, and the servo. The task
is one program: a step does what stands at its place in the loop and moves on.
-/

namespace MissionBoard.Runtime

open Protocol Control Mission

/-- How `moveRelativeDegrees` ends. -/
inductive MoveResult where
  | ok
  | timeout
  | failed
deriving DecidableEq

/-- What a step of `parachuteTask` reads from outside: the mutexes, the servo and the
timers. -/
structure ParachuteInput where
  takesExecutor : Bool := true
  takesState : Bool := true
  servoReady : Bool := true
  holdOk : Bool := true
  moveResult : MoveResult := .ok
  stopped : Bool := true
  timedOut : Bool := false
  telemetryLost : Bool := false
deriving DecidableEq

namespace ParachuteTask

/-- `queueGenericCompletion` -/
def queueGenericCompletion (task : ParachuteTask) (transactionId : UInt8)
    (reason : CommandReason) : ParachuteTask :=
  if transactionId = 0 then task
  else
    { task with
      completion := { pending := true, transactionId := transactionId, reason := reason } }

/-- What `resetTransport` changes here. -/
def resetTransport (task : ParachuteTask) : ParachuteTask := { task with holdEstablished := false }

/-- `establishHold` -/
def establishHold (task : ParachuteTask) (holdOk : Bool) : ParachuteTask :=
  if holdOk then { task with holdEstablished := true, desired := .holding } else task

/-- A `power_off` request. -/
def powerOff (task : ParachuteTask) : ParachuteTask :=
  { task with
    operation := {}
    completion := {}
    desired := .poweredOff
    holdEstablished := false }

/-- A `hold` request. -/
def hold (task : ParachuteTask) : ParachuteTask :=
  { task with
    operation := {}
    completion := {}
    desired := .holding
    holdEstablished := false }

/-- A generic command taken from `parachute_command_queue`. -/
def takeCommand (task : ParachuteTask) (command : GenericCommandRequest) : ParachuteTask :=
  if codeOf command ≠ .paraOpen ∧ codeOf command ≠ .paraClose then
    task.queueGenericCompletion command.transactionId .notSupported
  else
    { task with
      operation :=
        { pendingStart := true
          transactionId := command.transactionId
          move := if codeOf command = .paraOpen then .open else .close }
      desired := .holding
      holdEstablished := false }

/-- The operation `startMove` leaves running. -/
def runMove (task : ParachuteTask) (automatic : Bool) (transactionId : UInt8)
    (flightEpoch : UInt32) (move : ParachuteMove) : ParachuteTask :=
  { task with
    operation :=
      { active := true
        automatic := automatic
        transactionId := transactionId
        flightEpoch := flightEpoch
        move := move }
    desired := .moving
    holdEstablished := false }

/-- The automatic branch of `startMove`: it never retries and sends no result. -/
def startAutomatic (task : ParachuteTask) (input : ParachuteInput) : ParachuteTask :=
  let held := { task with openedEpoch := task.automaticOpenEpoch }.establishHold input.holdOk
  if input.holdOk ∧ input.moveResult = .ok then
    held.runMove true 0 task.automaticOpenEpoch .open
  else held.resetTransport

/-- The generic branch of `startMove`. -/
def startGeneric (task : ParachuteTask) (transactionId : UInt8) (move : ParachuteMove)
    (input : ParachuteInput) : ParachuteTask :=
  let held := task.establishHold input.holdOk
  if input.holdOk ∧ input.moveResult = .ok then held.runMove false transactionId 0 move
  else
    (held.queueGenericCompletion transactionId
      (if input.holdOk ∧ input.moveResult = .timeout then .timeout else .deviceUnavailable)
      ).resetTransport

/-- The block that watches a running operation. -/
def watchOperation (task : ParachuteTask) (input : ParachuteInput) : ParachuteTask :=
  let operation := task.operation
  let held := { task with operation := {} }.establishHold input.holdOk
  let reset := if input.holdOk then held else held.resetTransport
  if operation.active = false then task
  else if input.stopped then
    if operation.automatic then reset
    else
      reset.queueGenericCompletion operation.transactionId
        (if input.holdOk then .none else .deviceUnavailable)
  else if input.timedOut then
    if operation.automatic then reset
    else reset.queueGenericCompletion operation.transactionId .timeout
  else task

/-- The telemetry block, once its interval has passed. -/
def readTelemetry (task : ParachuteTask) (input : ParachuteInput) : ParachuteTask :=
  if input.telemetryLost ∧ task.operation.active = false then task.resetTransport else task

end ParachuteTask

namespace CommandPipeline

/-- The pipeline with the task at another place of its loop. -/
def atPhase (pipeline : CommandPipeline) (phase : ParachutePhase) : CommandPipeline :=
  { pipeline with parachute := { pipeline.parachute with phase := phase } }

/-- `flushGenericCompletion`: the result of a transaction that an emergency has ended
is not sent. -/
def flushGenericCompletion (pipeline : CommandPipeline) (input : ParachuteInput) :
    CommandPipeline :=
  let completion := pipeline.parachute.completion
  if completion.pending ∧ input.takesExecutor then
    let finished := pipeline.finishCommand completion.transactionId completion.reason
      completion.detail
    let flushed := { finished.2 with parachute := { pipeline.parachute with completion := {} } }
    if finished.1.command ≠ 0 then flushed.record (.answered finished.1) else flushed
  else pipeline

/-- The send of a pending start response. -/
def sendStartResponse (pipeline : CommandPipeline) : CommandPipeline :=
  if pipeline.parachute.startResponsePending then
    match pipeline.startResponseQueue.send pipeline.parachute.pendingStartResponse with
    | none => pipeline
    | some queue =>
        { pipeline with
          startResponseQueue := queue
          parachute := { pipeline.parachute with startResponsePending := false } }
  else pipeline

/-- The `current_request` of an `open` request. -/
def currentRequest (pipeline : CommandPipeline) (request : ParaRequest) (takesState : Bool) :
    Bool :=
  request.safetyAuthorized ||
    (takesState && request.flightEpoch != 0 &&
      request.flightEpoch == pipeline.machine.snapshot.flightEpoch &&
      pipeline.machine.snapshot.state == .descent)

/-- One request of `para_queue`. -/
def serveRequest (pipeline : CommandPipeline) (request : ParaRequest) (takesState : Bool) :
    ParachuteTask :=
  let task := pipeline.parachute
  match request.kind with
  | .powerOff => task.powerOff
  | .hold => task.hold
  | .open =>
      if pipeline.currentRequest request takesState = false ∨
          task.openedEpoch = request.flightEpoch ∨
          task.automaticOpenEpoch = request.flightEpoch then task
      else
        { task with
          automaticOpenEpoch := request.flightEpoch
          desired := .holding
          holdEstablished := false }

/-- One iteration over `para_queue`. -/
def drainRequest (pipeline : CommandPipeline) (input : ParachuteInput) : CommandPipeline :=
  match pipeline.paraQueue.receive with
  | none => pipeline.atPhase .taking
  | some (request, rest) =>
      { pipeline with
        paraQueue := rest
        parachute := pipeline.serveRequest request input.takesState }

/-- The task takes a command when it has nothing else to do. -/
def takeParachuteCommand (pipeline : CommandPipeline) : CommandPipeline :=
  let task := pipeline.parachute
  if task.operation.active ∨ task.operation.pendingStart ∨ task.completion.pending ∨
      task.startResponsePending then pipeline
  else
    match pipeline.parachuteCommandQueue.receive with
    | none => pipeline
    | some (request, rest) =>
        { pipeline with
          parachuteCommandQueue := rest
          parachute :=
            match request.kind with
            | .startPreparation =>
                { task with
                  pendingStartResponse := { transactionId := request.command.transactionId }
                  startResponsePending := true }
            | .generic => task.takeCommand request.command }

/-- The automatic opening is still wanted. -/
def shouldOpen (pipeline : CommandPipeline) (takesState : Bool) : Bool :=
  takesState &&
    pipeline.machine.snapshot.flightEpoch == pipeline.parachute.automaticOpenEpoch &&
    pipeline.machine.snapshot.state == .descent &&
    !pipeline.machine.snapshot.deploymentPowerCutoffLatched

/-- The automatic branch: the epoch is used up before the relative move is issued, and
the move is issued once the hold stands. -/
def driveAutomatic (pipeline : CommandPipeline) (input : ParachuteInput) : CommandPipeline :=
  let task := pipeline.parachute
  if pipeline.shouldOpen input.takesState then
    let started := { pipeline with
      parachute := { task.startAutomatic input with phase := .monitoring } }
    if input.holdOk then started.record (.automaticMoved task.automaticOpenEpoch) else started
  else pipeline.atPhase .monitoring

/-- The block of an initialized servo, up to a pending start's `startMove`. -/
def drive (pipeline : CommandPipeline) (input : ParachuteInput) : CommandPipeline :=
  let task := pipeline.parachute
  if task.desired = .poweredOff ∨ input.servoReady = false then pipeline.atPhase .flushing
  else if task.operation.pendingStart then
    { pipeline with
      parachute := { task with
        operation := {}
        phase := .starting task.operation.transactionId task.operation.move } }
  else if task.automaticOpenEpoch ≠ 0 ∧ task.openedEpoch ≠ task.automaticOpenEpoch ∧
      task.operation.active = false then
    pipeline.driveAutomatic input
  else if task.operation.active = false ∧ task.holdEstablished = false then
    { pipeline with
      parachute :=
        { (if input.holdOk then task.establishHold true else task.resetTransport) with
          phase := .monitoring } }
  else pipeline.atPhase .monitoring

/-- `startMove` of a pending start. The relative move is issued once the hold stands. -/
def startCommand (pipeline : CommandPipeline) (transactionId : UInt8) (move : ParachuteMove)
    (input : ParachuteInput) : CommandPipeline :=
  let started := { pipeline with
    parachute :=
      { pipeline.parachute.startGeneric transactionId move input with phase := .monitoring } }
  if input.holdOk then started.record (.parachuteMoved transactionId) else started

/-- The end of the loop. -/
def monitor (pipeline : CommandPipeline) (input : ParachuteInput) : CommandPipeline :=
  { pipeline with
    parachute :=
      { (pipeline.parachute.watchOperation input).readTelemetry input with phase := .flushing } }

/-- One step of `parachuteTask`. -/
def stepParachute (pipeline : CommandPipeline) (input : ParachuteInput) : CommandPipeline :=
  match pipeline.parachute.phase with
  | .flushing => (pipeline.flushGenericCompletion input).atPhase .responding
  | .responding => pipeline.sendStartResponse.atPhase .draining
  | .draining => pipeline.drainRequest input
  | .taking => pipeline.takeParachuteCommand.atPhase .driving
  | .driving => pipeline.drive input
  | .starting transactionId move => pipeline.startCommand transactionId move input
  | .monitoring => pipeline.monitor input

end CommandPipeline

end MissionBoard.Runtime
