import MissionBoard.Runtime.CommandPipeline

/-!
Owns the steps of `missionRealtimeTask` that commands, emergency stops and the
deployment go through: the emergency loop, the start responses, the execution of
`transition_queue`, the blocks that end a calibration and a fin move, the tick with
its checkpoint, and the requests the deployment sends to the parachute.

An emergency stop takes two steps, since other tasks run between the executor's
answer and the emergency's effects. The task itself does nothing else in between.
-/

namespace MissionBoard.Runtime

open Protocol Control Mission

/-- `transitionReason` -/
def transitionReason : TransitionResult → CommandReason
  | .completed => .none
  | .invalidState => .invalidState
  | .notConfigured => .notConfigured
  | .runtimeUnavailable => .internalError

/-- The locals of one iteration over `transition_queue`. -/
structure TransitionOutcome where
  transition : TransitionResult := .notConfigured
  directReason : CommandReason := .none
  asynchronous : Bool := false
  postTransitionPara : Option ParaRequest := none
deriving DecidableEq

/-- The reason the iteration finishes its command with. -/
def TransitionOutcome.reason (outcome : TransitionOutcome) : CommandReason :=
  if outcome.directReason = .none then transitionReason outcome.transition
  else outcome.directReason

/-- What an iteration over `transition_queue` reads from outside. `freedSlotTaken`
says that another task fills the place of the envelope before it is put back. -/
structure TransitionInput where
  takesExecutor : Bool := true
  takesState : Bool := true
  freedSlotTaken : Bool := false
  encoderReady : Bool := true
  finAngleAvailable : Bool := true
  finRateValid : Bool := true
  motorReady : Bool := true
  finMeasurementsFinite : Bool := true
  targetWithinLimits : Bool := true
  motorProfileValid : Bool := true
  resourcesPreallocated : Bool := true
  sscZeroValid : Bool := true
  recoveryRequested : Bool := false
  recoveryQueueAccepts : Bool := true
  nowUs : UInt64 := 0
deriving DecidableEq

/-- What the start response loop reads from outside. -/
structure ResponseInput where
  takesExecutor : Bool := true
  takesState : Bool := true
  freedSlotTaken : Bool := false
  rtcNowUs : UInt64 := 0
deriving DecidableEq

/-- What the block of a running calibration reads once three seconds have passed: the
judged means, where there were samples enough. -/
structure CalibrationInput where
  gyroBiasValid : Option Bool := some true
  gravityReferenceValid : Option Bool := some true
  sscZeroValid : Bool := true
  takesExecutor : Bool := true
deriving DecidableEq

/-- What the block of a running fin move reads. -/
structure FinMoveInput where
  reached : Bool := true
  timedOut : Bool := false
  takesExecutor : Bool := true
deriving DecidableEq

namespace CommandPipeline

/-! ### Emergency stops -/

/-- An actuator emergency stop up to the executor's answer. Without both mutexes its
envelope goes back to `emergency_queue`. -/
def decideEmergency (pipeline : CommandPipeline) (transactionId : UInt8) (takesMutexes : Bool) :
    CommandPipeline :=
  if takesMutexes then
    let decided := pipeline.executor.actuatorEmergency transactionId pipeline.machine.snapshot.state
    { pipeline with
      executor := decided.2
      realtime := { pipeline.realtime with
        applying := if decided.1.execute then some decided.1 else none } }.record
      (.emergencyAnswered decided.1.result)
  else pipeline

/-- The effects of an accepted actuator emergency stop. -/
def applyEmergency (pipeline : CommandPipeline) (decision : EmergencyDecision) :
    CommandPipeline :=
  { pipeline with
    actuatorOutputInhibited := true
    realtime := { pipeline.realtime with
      applying := none
      pendingFinMove := {}
      commandFinMode := .free
      commandFinAutoHoldAllowed := false
      commandFinBootHoldActive := false
      commandFinTargetIsUnwrapped := false }
    paraQueue := pipeline.paraQueue.offerFront { kind := .hold } }.record
    (.emergencyApplied decision.interrupted)

/-- The block that moves `actuator_emergency_latch` to `emergency_queue`. -/
def signalEmergency (pipeline : CommandPipeline) : CommandPipeline :=
  { pipeline with actuatorOutputInhibited := true }

/-- A liftoff detection emergency stop. -/
def liftoffEmergency (pipeline : CommandPipeline) (transactionId : UInt8) (takesMutexes : Bool) :
    CommandPipeline :=
  if takesMutexes then
    let stopped := pipeline.machine.liftoffDetectionEmergencyStop
    let answered := { pipeline with machine := stopped.2 }.record
      (.emergencyAnswered
        (CommandExecutor.liftoffEmergencyResult transactionId
          (stopped.1 == TransitionResult.completed)))
    if stopped.1 = .completed then
      answered.record (.epochEntered stopped.2.snapshot.flightEpoch)
    else answered
  else pipeline

/-! ### Start responses -/

/-- The start a matching response decides: its reason, its detail, and the pipeline
left. A completed start stores its checkpoint; a start that does not complete asks the
parachute to hold. -/
def resolveStart (pipeline : CommandPipeline) (response : ParachuteStartResponse)
    (rtcNowUs : UInt64) : CommandReason × UInt32 × CommandPipeline :=
  let held := { pipeline with paraQueue := pipeline.paraQueue.offerFront { kind := .hold } }
  let start := pipeline.realtime.pendingStart
  if response.reason = .none then
    let forced := codeOf start.request = .forceStartSequence
    let started := pipeline.machine.startSequence pipeline.guard start.readiness
      (if forced then .forced else .normal)
    if started.result = .completed then
      (.none, if forced then start.readiness.missingMask.toUInt32 else response.detail,
        { pipeline with
          machine := started.machine
          guard := started.guard
          checkpoint := storeFlightCheckpoint started.machine.snapshot rtcNowUs
          actuatorOutputInhibited := false }.record
          (.epochEntered started.machine.snapshot.flightEpoch))
    else
      (transitionReason started.result, response.detail,
        { held with machine := started.machine, guard := started.guard })
  else (response.reason, response.detail, held)

/-- One iteration over `parachute_start_response_queue`. -/
def takeStartResponse (pipeline : CommandPipeline) (input : ResponseInput) : CommandPipeline :=
  match pipeline.startResponseQueue.receive with
  | none => pipeline
  | some (response, rest) =>
      let received := { pipeline with startResponseQueue := rest }
      let start := pipeline.realtime.pendingStart.request
      if pipeline.realtime.startPreparationPending = false ∨
          response.transactionId ≠ start.transactionId then received
      else if input.takesExecutor && input.takesState then
        let resolved := received.resolveStart response input.rtcNowUs
        { resolved.2.2 with
          realtime := { resolved.2.2.realtime with startPreparationPending := false } }.settle
          start.transactionId resolved.1 resolved.2.1
      else if input.freedSlotTaken then received
      else { received with startResponseQueue := rest.offerFront response }

/-! ### The commands of the transition queue -/

/-- `cancel_sequence` -/
def cancelSequence (pipeline : CommandPipeline) : TransitionOutcome × CommandPipeline :=
  let cancelled := pipeline.machine.cancelSequence
  ({ transition := cancelled.1
     postTransitionPara :=
       if cancelled.1 = .completed then
         some { kind := .hold, flightEpoch := pipeline.machine.snapshot.flightEpoch }
       else none },
    { pipeline with machine := cancelled.2 })

/-- `disable_fin_control` -/
def disableFinControl (pipeline : CommandPipeline) : TransitionOutcome × CommandPipeline :=
  let disabled := pipeline.machine.disableFinControl
  ({ transition := disabled.1 }, { pipeline with machine := disabled.2 })

/-- `fin_free` -/
def finFree (pipeline : CommandPipeline) (transactionId : UInt8) :
    TransitionOutcome × CommandPipeline :=
  ({ transition := .completed },
    { pipeline with
      realtime := { pipeline.realtime with
        pendingFinMove := {}
        commandFinMode := .free
        commandFinAutoHoldAllowed := false
        commandFinBootHoldActive := false
        commandFinTargetIsUnwrapped := false }
      actuatorOutputInhibited := false }.record (.finActuated transactionId))

/-- `set_fin_zero`: the boot hold, if it is active, moves to the new zero. -/
def setFinZero (pipeline : CommandPipeline) (transactionId : UInt8) (input : TransitionInput) :
    TransitionOutcome × CommandPipeline :=
  if !input.encoderReady || !input.finAngleAvailable then
    ({ directReason := .deviceUnavailable }, pipeline)
  else
    ({ transition := .completed },
      { pipeline with
        finZeroConfigured := true
        realtime := { pipeline.realtime with
          finZeroAvailable := true
          pendingFinMove := {}
          commandFinMode :=
            if pipeline.realtime.commandFinBootHoldActive then .positionHold else .free
          commandFinTargetIsUnwrapped := false }
        actuatorOutputInhibited := false }.record (.finActuated transactionId))

/-- The reason `start_fin_zero_hold` and `fin_move_relative` are refused for. -/
def finZeroRefusal (pipeline : CommandPipeline) (input : TransitionInput) : CommandReason :=
  if !pipeline.realtime.finZeroAvailable || !pipeline.finZeroConfigured then .notConfigured
  else if !input.encoderReady || !input.finRateValid || !input.motorReady ||
      !input.finMeasurementsFinite then .deviceUnavailable
  else .none

/-- `start_fin_zero_hold` -/
def startFinZeroHold (pipeline : CommandPipeline) (transactionId : UInt8)
    (input : TransitionInput) : TransitionOutcome × CommandPipeline :=
  let refusal := pipeline.finZeroRefusal input
  if refusal ≠ .none then ({ directReason := refusal }, pipeline)
  else
    ({ transition := .completed },
      { pipeline with
        realtime := { pipeline.realtime with
          pendingFinMove := {}
          commandFinTargetIsUnwrapped := false
          commandFinAutoHoldAllowed := false
          commandFinBootHoldActive := false
          commandFinMode := .zeroHold }
        actuatorOutputInhibited := false }.record (.finActuated transactionId))

/-- `fin_move_relative`: an accepted move is finished by the block that watches it. -/
def finMoveRelative (pipeline : CommandPipeline) (transactionId : UInt8)
    (input : TransitionInput) : TransitionOutcome × CommandPipeline :=
  let refusal := pipeline.finZeroRefusal input
  if refusal ≠ .none then ({ directReason := refusal }, pipeline)
  else if !input.targetWithinLimits then ({ directReason := .invalidArgument }, pipeline)
  else
    ({ asynchronous := true },
      { pipeline with
        realtime := { pipeline.realtime with
          commandFinTargetIsUnwrapped := false
          commandFinAutoHoldAllowed := false
          commandFinBootHoldActive := false
          commandFinMode := .relativeMove
          pendingFinMove := { active := true, transactionId := transactionId } }
        actuatorOutputInhibited := false }.record (.finActuated transactionId))

/-- `enter_recovery` -/
def enterRecovery (pipeline : CommandPipeline) (input : TransitionInput) :
    TransitionOutcome × CommandPipeline :=
  (if pipeline.machine.snapshot.state ≠ .descent then { directReason := .invalidState }
    else if !pipeline.machine.snapshot.deploymentPowerCutoffLatched then
      { directReason := .safetyInterlock }
    else if input.recoveryRequested || input.recoveryQueueAccepts then
      { transition := .completed }
    else { directReason := .busy }, pipeline)

/-- The readiness a start captures. -/
def captureReadiness (pipeline : CommandPipeline) (input : TransitionInput) :
    PreflightReadinessSnapshot where
  generation := nextEpoch pipeline.realtime.preflightGeneration
  capturedAtUs := input.nowUs
  finZeroConfigured := pipeline.finZeroConfigured
  motorProfileValid := input.motorProfileValid
  gyroBiasValid := pipeline.realtime.preflightGyroBiasValid
  gravityReferenceValid := pipeline.realtime.gravityReferenceValid
  sscZeroValid := input.sscZeroValid
  resourcesPreallocated := input.resourcesPreallocated

/-- `start_sequence` and `force_start_sequence`: the parachute is asked to prepare. -/
def prepareStart (pipeline : CommandPipeline) (envelope : MissionCommandEnvelope)
    (input : TransitionInput) : TransitionOutcome × CommandPipeline :=
  let readiness := pipeline.captureReadiness input
  let generated := { pipeline with
    realtime := { pipeline.realtime with preflightGeneration := readiness.generation } }
  let preparation : ParachuteCommandRequest :=
    { kind := .startPreparation, command := envelope.request, readiness := readiness }
  if pipeline.realtime.startPreparationPending then ({ directReason := .busy }, generated)
  else
    match pipeline.parachuteCommandQueue.send preparation with
    | none => ({ directReason := .busy }, generated)
    | some queue =>
        ({ asynchronous := true },
          { generated with
            parachuteCommandQueue := queue
            realtime := { generated.realtime with
              pendingStart := { envelope with readiness := readiness }
              startPreparationPending := true } })

/-- `run_preflight_calibration` -/
def runPreflightCalibration (pipeline : CommandPipeline) (transactionId : UInt8) :
    TransitionOutcome × CommandPipeline :=
  if pipeline.realtime.calibration.active then ({ directReason := .busy }, pipeline)
  else
    ({ asynchronous := true },
      { pipeline with
        realtime := { pipeline.realtime with
          calibration := { active := true, transactionId := transactionId }
          preflightGyroBiasValid := false
          gravityReferenceValid := false } })

/-- The chain over the command's code. -/
def executeCommand (pipeline : CommandPipeline) (envelope : MissionCommandEnvelope)
    (input : TransitionInput) : TransitionOutcome × CommandPipeline :=
  let code := codeOf envelope.request
  let transactionId := envelope.request.transactionId
  if code = .cancelSequence then pipeline.cancelSequence
  else if code = .disableFinControl then pipeline.disableFinControl
  else if code = .finFree then pipeline.finFree transactionId
  else if code = .setFinZero then pipeline.setFinZero transactionId input
  else if code = .startFinZeroHold then pipeline.startFinZeroHold transactionId input
  else if code = .finMoveRelative then pipeline.finMoveRelative transactionId input
  else if code = .enterRecovery then pipeline.enterRecovery input
  else if code = .startSequence ∨ code = .forceStartSequence then
    pipeline.prepareStart envelope input
  else if code = .runPreflightCalibration then pipeline.runPreflightCalibration transactionId
  else ({}, pipeline)

/-- The parachute request a transition leaves, if any. -/
def sendPostTransition (pipeline : CommandPipeline) (request : Option ParaRequest) :
    CommandPipeline :=
  match request with
  | none => pipeline
  | some para => { pipeline with paraQueue := pipeline.paraQueue.offerFront para }

/-- One iteration over `transition_queue`. -/
def takeTransition (pipeline : CommandPipeline) (input : TransitionInput) : CommandPipeline :=
  match pipeline.transitionQueue.receive with
  | none => pipeline
  | some (envelope, rest) =>
      let received := { pipeline with transitionQueue := rest }
      if input.takesExecutor && input.takesState then
        let executed := received.executeCommand envelope input
        if executed.1.asynchronous then executed.2
        else
          (executed.2.sendPostTransition executed.1.postTransitionPara).settle
            envelope.request.transactionId executed.1.reason 0
      else if input.freedSlotTaken then received
      else { received with transitionQueue := rest.offerFront envelope }

/-! ### Calibration, automatic hold and fin move -/

/-- The bit of a reference that is still missing. -/
def missingBit (valid : Bool) (position : UInt32) : UInt32 := if valid then 0 else 1 <<< position

/-- The detail of a finished calibration. -/
def calibrationDetail (gyroBiasValid gravityReferenceValid sscZeroValid : Bool) : UInt32 :=
  missingBit gyroBiasValid 4 ||| missingBit gravityReferenceValid 5 ||| missingBit sscZeroValid 6

/-- The block of a calibration whose three seconds have passed. -/
def finishCalibration (pipeline : CommandPipeline) (input : CalibrationInput) : CommandPipeline :=
  if pipeline.realtime.calibration.active then
    let gyroBiasValid := input.gyroBiasValid.getD pipeline.realtime.preflightGyroBiasValid
    let gravityReferenceValid :=
      input.gravityReferenceValid.getD pipeline.realtime.gravityReferenceValid
    let judged := { pipeline.realtime with
      preflightGyroBiasValid := gyroBiasValid
      gravityReferenceValid := gravityReferenceValid }
    if input.takesExecutor then
      { pipeline with realtime := { judged with calibration := {} } }.settle
        pipeline.realtime.calibration.transactionId .none
        (calibrationDetail gyroBiasValid gravityReferenceValid input.sscZeroValid)
    else { pipeline with realtime := judged }
  else pipeline

/-- The automatic hold at boot. It belongs to no command. -/
def holdAutomatically (pipeline : CommandPipeline) (receiving observationValid : Bool) :
    CommandPipeline :=
  if receiving ∧ pipeline.realtime.commandFinAutoHoldAllowed ∧
      pipeline.realtime.commandFinMode = .free ∧ observationValid ∧
      pipeline.actuatorOutputInhibited = false then
    { pipeline with
      realtime := { pipeline.realtime with
        commandFinTargetIsUnwrapped := true
        commandFinBootHoldActive := true
        commandFinMode := .positionHold } }
  else pipeline

/-- The fin mode a running move leaves once it has reached its target or run out of time. -/
def endFinMove (pipeline : CommandPipeline) (mode : CommandFinMode) : CommandPipeline :=
  { pipeline with realtime := { pipeline.realtime with commandFinMode := mode } }.record
    (.finActuated pipeline.realtime.pendingFinMove.transactionId)

/-- The block that watches a running fin move. -/
def watchFinMove (pipeline : CommandPipeline) (input : FinMoveInput) : CommandPipeline :=
  if pipeline.realtime.pendingFinMove.active ∧ (input.reached ∨ input.timedOut) then
    let ended := pipeline.endFinMove (if input.reached then .positionHold else .free)
    if input.takesExecutor then
      { ended with realtime := { ended.realtime with pendingFinMove := {} } }.settle
        pipeline.realtime.pendingFinMove.transactionId
        (if input.reached then .none else .timeout) 0
    else ended
  else pipeline

/-! ### The tick and the deployment -/

/-- The tick and the checkpoint stored after it. -/
def tick (pipeline : CommandPipeline) (input : MissionTickInput) (takesState : Bool)
    (rtcNowUs : UInt64) : CommandPipeline :=
  if takesState then
    let ticked := pipeline.machine.tick pipeline.guard input {}
    { pipeline with
      machine := ticked.1
      guard := ticked.2
      checkpoint := storeFlightCheckpoint ticked.1.snapshot rtcNowUs }
  else pipeline

/-- `mission_snapshot_cache.update` -/
def refreshCache (pipeline : CommandPipeline) (takesState : Bool) : CommandPipeline :=
  if takesState then
    { pipeline with
      realtime := { pipeline.realtime with snapshotCache := pipeline.machine.snapshot } }
  else pipeline

/-- The block that announces the power cutoff. -/
def announceCutoff (pipeline : CommandPipeline) : CommandPipeline :=
  let snapshot := pipeline.realtime.snapshotCache
  let announced :=
    if snapshot.deploymentPowerCutoffLatched ∧ pipeline.realtime.cutoffSent = false then
      { pipeline with
        paraQueue := pipeline.paraQueue.offer
          { kind := .powerOff, flightEpoch := snapshot.flightEpoch, safetyAuthorized := true }
        realtime := { pipeline.realtime with cutoffSent := true } }
    else pipeline
  if snapshot.flightEpoch = 0 then
    { announced with realtime := { announced.realtime with cutoffSent := false } }
  else announced

/-- The block that announces the deployment. -/
def announceDeployment (pipeline : CommandPipeline) : CommandPipeline :=
  let snapshot := pipeline.realtime.snapshotCache
  let request : ParaRequest := { kind := .open, flightEpoch := snapshot.flightEpoch }
  if snapshot.deploymentStarted = false then
    { pipeline with realtime := { pipeline.realtime with deploymentSent := false } }
  else if pipeline.realtime.deploymentSent then pipeline
  else
    match pipeline.paraQueue.send request with
    | none => pipeline
    | some queue =>
        { pipeline with
          paraQueue := queue
          realtime := { pipeline.realtime with deploymentSent := true } }

end CommandPipeline

end MissionBoard.Runtime
