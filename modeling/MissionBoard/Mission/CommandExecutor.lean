import MissionBoard.Control.FinOvertravelGuard
import MissionBoard.Library.SlotTable
import MissionBoard.Protocol.Can

/-!
Owns the command executor of `mission/command_executor.{hpp,cpp}`: the sixteen-slot
transaction table, the priority chain that rejects a request, and the operations
that begin, finish and interrupt transactions.

The overtravel guard is global in the source; `begin` and `finish` take the guard
they find and return the guard they leave.
-/

namespace MissionBoard.Mission

open Protocol Control

/-- `mission::CommandCode`: any byte, with the enumerators as named values. -/
structure CommandCode where
  raw : UInt8
deriving DecidableEq

namespace CommandCode

def startSequence : CommandCode := ⟨0x01⟩
def cancelSequence : CommandCode := ⟨0x02⟩
def disableFinControl : CommandCode := ⟨0x03⟩
def forceStartSequence : CommandCode := ⟨0x04⟩
def finFree : CommandCode := ⟨0x10⟩
def setFinZero : CommandCode := ⟨0x11⟩
def startFinZeroHold : CommandCode := ⟨0x12⟩
def finMoveRelative : CommandCode := ⟨0x13⟩
def paraFree : CommandCode := ⟨0x20⟩
def paraHold : CommandCode := ⟨0x21⟩
def paraMoveRelative : CommandCode := ⟨0x22⟩
def setParaOpen : CommandCode := ⟨0x23⟩
def setParaClose : CommandCode := ⟨0x24⟩
def paraOpen : CommandCode := ⟨0x25⟩
def paraClose : CommandCode := ⟨0x26⟩
def runPreflightCalibration : CommandCode := ⟨0x30⟩
def exportFlashLog : CommandCode := ⟨0x31⟩
def enterRecovery : CommandCode := ⟨0x33⟩
def actuatorEmergencyResult : CommandCode := ⟨0xF0⟩
def liftoffEmergencyResult : CommandCode := ⟨0xF1⟩

end CommandCode

/-- `mission::CommandDomain`, without the `count` enumerator. -/
inductive CommandDomain where
  | sequence
  | fin
  | parachute
  | calibration
  | storage
  | recovery
deriving DecidableEq

instance : Fintype CommandDomain where
  elems := {.sequence, .fin, .parachute, .calibration, .storage, .recovery}
  complete domain := by cases domain <;> decide

/-- `mission::CommandContext` -/
structure CommandContext where
  state : MissionState := .commandReceive
  resourcesPreallocated : Bool := false
  finAvailable : Bool := true
  parachuteAvailable : Bool := true
  motorTestBusy : Bool := false
  calibrationSupported : Bool := false
  storageExportSupported : Bool := false
  deploymentPowerCutoffDone : Bool := false
  finSafeCommandsSupported : Bool := false
deriving DecidableEq

/-- `mission::CommandDecision` -/
structure CommandDecision where
  result : CommandResult := {}
  execute : Bool := false
  replay : Bool := false
  domain : CommandDomain := .sequence
deriving DecidableEq

/-- `mission::EmergencyDecision`; the interrupted results in the order they are
counted, at most two. -/
structure EmergencyDecision where
  result : CommandResult := {}
  interrupted : List CommandResult := []
  execute : Bool := false
deriving DecidableEq

/-- `CommandExecutor::Entry` -/
structure Entry where
  valid : Bool := false
  pending : Bool := false
  age : UInt32 := 0
  request : GenericCommandRequest := {}
  result : CommandResult := {}
  domain : CommandDomain := .sequence
deriving DecidableEq

/-- `mission::CommandExecutor` -/
structure CommandExecutor where
  entries : Fin 16 → Entry := fun _ => {}
  age : UInt32 := 0

/-- `GenericCommandRequest::command` as a code. -/
def codeOf (request : GenericCommandRequest) : CommandCode := ⟨request.command⟩

/-! ### What a command is -/

/-- `allZero(request, 0)` -/
def allZero (request : GenericCommandRequest) : Bool := request.arguments.all (· == 0)

/-- `commandKnown` -/
def commandKnown (code : CommandCode) : Bool :=
  (0x01 ≤ code.raw && code.raw ≤ 0x04) || code.raw == 0x10 || code.raw == 0x11 ||
    code.raw == 0x13 || (0x20 ≤ code.raw && code.raw ≤ 0x26) ||
    (0x30 ≤ code.raw && code.raw ≤ 0x31) || code.raw == 0x33

/-- `unsupportedParachuteCommand` -/
def unsupportedParachuteCommand (code : CommandCode) : Bool :=
  CommandCode.paraFree.raw ≤ code.raw && code.raw ≤ CommandCode.setParaClose.raw

/-- `domainFor` -/
def domainFor (code : CommandCode) : CommandDomain :=
  if code ∈ [.startSequence, .cancelSequence, .disableFinControl, .forceStartSequence] then
    .sequence
  else if code ∈ [.finFree, .setFinZero, .startFinZeroHold, .finMoveRelative] then .fin
  else if code ∈ [.paraFree, .paraHold, .paraMoveRelative, .setParaOpen, .setParaClose, .paraOpen,
      .paraClose] then .parachute
  else if code = .runPreflightCalibration then .calibration
  else if code = .exportFlashLog then .storage
  else if code = .enterRecovery then .recovery
  else .sequence

/-- `argumentsValid`: both branches of the source's switch ask for zeroes. -/
def argumentsValid (request : GenericCommandRequest) (_code : CommandCode) : Bool :=
  allZero request

/-- `stateValid` -/
def stateValid (code : CommandCode) (state : MissionState) : Bool :=
  if code ∈ [.startSequence, .forceStartSequence, .finFree, .setFinZero, .startFinZeroHold,
      .finMoveRelative, .paraOpen, .paraClose, .runPreflightCalibration, .exportFlashLog] then
    state == .commandReceive
  else if code = .cancelSequence then state == .liftoffDetection
  else if code = .disableFinControl then
    state == .liftoffDetection || state == .engineBurn || state == .control
  else if code = .enterRecovery then state == .descent
  else false

/-- `isStart` -/
def isStart (code : CommandCode) : Bool :=
  code == .startSequence || code == .forceStartSequence

/-- `blockedByFinOvertravel` -/
def blockedByFinOvertravel (code : CommandCode) : Bool :=
  isStart code || code == .startFinZeroHold || code == .finMoveRelative

/-- `resultFor` -/
def resultFor (request : GenericCommandRequest) (phase : CommandPhase) (reason : CommandReason)
    (detail : UInt32) : CommandResult where
  transactionId := request.transactionId
  command := request.command
  phase := phase
  reason := reason
  detail := detail

namespace CommandExecutor

/-! ### The table -/

/-- `find`: the first valid entry of a transaction. -/
def find (executor : CommandExecutor) (transactionId : UInt8) : Option (Fin 16) :=
  SlotTable.first (fun entry => entry.valid && entry.request.transactionId == transactionId)
    executor.entries

/-- `busy` -/
def busy (executor : CommandExecutor) (domain : CommandDomain) : Bool :=
  (List.finRange 16).any fun slot =>
    (executor.entries slot).valid && (executor.entries slot).pending &&
      (executor.entries slot).domain == domain

/-- `cachedCount` -/
def cachedCount (executor : CommandExecutor) : ℕ :=
  (List.finRange 16).countP fun slot => (executor.entries slot).valid

/-- The `any_of` over `entry.pending` in `begin`. -/
def anyPending (executor : CommandExecutor) : Bool :=
  (List.finRange 16).any fun slot => (executor.entries slot).pending

/-- `allocate`: an unused entry, else the oldest one that is not pending. -/
def allocate (executor : CommandExecutor) : Option (Fin 16) :=
  match SlotTable.first (fun entry => !entry.valid) executor.entries with
  | some slot => some slot
  | none => SlotTable.oldest (fun entry => !entry.pending) Entry.age executor.entries

/-- `remember` -/
def remember (executor : CommandExecutor) (request : GenericCommandRequest)
    (result : CommandResult) (pending : Bool) (domain : CommandDomain) : CommandExecutor :=
  match executor.allocate with
  | none => executor
  | some slot =>
      { entries := Function.update executor.entries slot
          { valid := true
            pending := pending
            age := executor.age + 1
            request := request
            result := result
            domain := domain }
        age := executor.age + 1 }

/-! ### Operations -/

/-- The `rejection` chain of `begin`, in the source's order. The guard is the one
left by the recovery before it. -/
def rejection (executor : CommandExecutor) (guard : FinOvertravelGuard)
    (request : GenericCommandRequest) (context : CommandContext) : CommandReason :=
  let code := codeOf request
  let domain := domainFor code
  if !commandKnown code then .notSupported
  else if unsupportedParachuteCommand code then .notSupported
  else if !argumentsValid request code then .invalidArgument
  else if !stateValid code context.state then .invalidState
  else if guard.faultLatched && blockedByFinOvertravel code then .safetyInterlock
  else if code == .enterRecovery && !context.deploymentPowerCutoffDone then .safetyInterlock
  else if isStart code &&
      (executor.busy .parachute || executor.busy .fin || executor.busy .calibration ||
        context.motorTestBusy) then .busy
  else if isStart code && !context.resourcesPreallocated then .internalError
  else if domain == .parachute && executor.busy .sequence then .busy
  else if (domain == .fin && !context.finAvailable) ||
      (domain == .parachute && !context.parachuteAvailable) then .deviceUnavailable
  else if domain == .fin && !context.finSafeCommandsSupported then .notSupported
  else if (domain == .calibration && !context.calibrationSupported) ||
      (domain == .storage && !context.storageExportSupported) then .notSupported
  else if executor.busy domain then .busy
  else if isStart code && executor.cachedCount != 0 && executor.anyPending then .busy
  else if domain == .calibration &&
      (executor.busy .fin || executor.busy .parachute || context.motorTestBusy) then .busy
  else if (domain == .fin || domain == .parachute) && executor.busy .calibration then .busy
  else .none

/-- The guard `begin` leaves after its recovery. -/
def guardAtBegin (guard : FinOvertravelGuard) (context : CommandContext) : FinOvertravelGuard :=
  if context.state = .commandReceive then guard.recovered else guard

/-- `begin`: the decision, the executor and the guard it leaves. -/
def begin (executor : CommandExecutor) (guard : FinOvertravelGuard)
    (request : GenericCommandRequest) (context : CommandContext) :
    CommandDecision × CommandExecutor × FinOvertravelGuard :=
  if request.transactionId = 0 then
    ({ result := resultFor request .rejected .invalidArgument 0 }, executor, guard)
  else
    match executor.find request.transactionId with
    | some slot =>
        let existing := executor.entries slot
        if existing.request = request then
          ({ result := existing.result, replay := true, domain := existing.domain }, executor,
            guard)
        else
          ({ result := resultFor request .rejected .protocolError 0, domain := existing.domain },
            executor, guard)
    | none =>
        let domain := domainFor (codeOf request)
        let recovered := guardAtBegin guard context
        let reason := executor.rejection recovered request context
        if reason ≠ .none then
          let result := resultFor request .rejected reason 0
          ({ result := result, domain := domain }, executor.remember request result false domain,
            recovered)
        else
          let result := resultFor request .accepted .none 0
          ({ result := result, execute := true, domain := domain },
            executor.remember request result true domain, recovered)

/-- The entry `finish` leaves. -/
def finishedEntry (entry : Entry) (age : UInt32) (phase : CommandPhase) (reason : CommandReason)
    (detail : UInt32) : Entry :=
  { entry with
    pending := false
    age := age
    result := { entry.result with phase := phase, reason := reason, detail := detail } }

/-- The guard `finish` leaves when it finishes `entry`: a completed fin zero clears the latch. -/
def guardAtFinish (guard : FinOvertravelGuard) (entry : Entry) (phase : CommandPhase)
    (reason : CommandReason) : FinOvertravelGuard :=
  if phase = .completed ∧ reason = .none ∧ codeOf entry.request = .setFinZero then
    guard.clearFault
  else guard

/-- The slot `finish` finishes, when it does not refuse. -/
def finishSlot (executor : CommandExecutor) (transactionId : UInt8) (phase : CommandPhase) :
    Option (Fin 16) :=
  match executor.find transactionId with
  | some slot =>
      if (executor.entries slot).pending ∧ (phase = .completed ∨ phase = .failed) then some slot
      else none
  | none => none

/-- `finish`: the result, the executor and the guard it leaves. -/
def finish (executor : CommandExecutor) (guard : FinOvertravelGuard) (transactionId : UInt8)
    (phase : CommandPhase) (reason : CommandReason) (detail : UInt32) :
    CommandResult × CommandExecutor × FinOvertravelGuard :=
  match executor.finishSlot transactionId phase with
  | none =>
      ({ transactionId := transactionId
         command := 0
         phase := .failed
         reason := .internalError
         detail := detail }, executor, guard)
  | some slot =>
      let entry := executor.entries slot
      let finished := finishedEntry entry (executor.age + 1) phase reason detail
      (finished.result,
        { entries := Function.update executor.entries slot finished
          age := executor.age + 1 },
        guardAtFinish guard entry phase reason)

/-- The entries the actuator emergency interrupts. -/
def interruptible (entry : Entry) : Bool :=
  entry.pending && (entry.domain == .fin || entry.domain == .parachute)

/-- The entry the actuator emergency leaves. -/
def interruptedEntry (entry : Entry) (age : UInt32) : Entry :=
  { entry with
    pending := false
    age := age
    result := { entry.result with phase := .failed, reason := .interruptedByEmergency } }

/-- One pass of the loop of `actuatorEmergency`: the executor and the results so far. -/
def interruptSlot (state : CommandExecutor × List CommandResult) (slot : Fin 16) :
    CommandExecutor × List CommandResult :=
  let entry := state.1.entries slot
  if interruptible entry then
    let interrupted := interruptedEntry entry (state.1.age + 1)
    ({ entries := Function.update state.1.entries slot interrupted
       age := state.1.age + 1 },
      if state.2.length < 2 then state.2 ++ [interrupted.result] else state.2)
  else state

/-- `actuatorEmergency`: the decision and the executor it leaves. -/
def actuatorEmergency (executor : CommandExecutor) (transactionId : UInt8) (state : MissionState) :
    EmergencyDecision × CommandExecutor :=
  let accepted := transactionId ≠ 0 ∧ state = .commandReceive
  let result : CommandResult :=
    { transactionId := transactionId
      command := CommandCode.actuatorEmergencyResult.raw
      phase := if accepted then .completed else .rejected
      reason :=
        if accepted then .none
        else if transactionId = 0 then .invalidArgument else .invalidState
      detail := 0 }
  if accepted then
    let interrupted := (List.finRange 16).foldl interruptSlot (executor, [])
    ({ result := result, interrupted := interrupted.2, execute := true }, interrupted.1)
  else ({ result := result }, executor)

/-- `liftoffEmergencyResult` -/
def liftoffEmergencyResult (transactionId : UInt8) (accepted : Bool) : CommandResult :=
  let valid := transactionId != 0 && accepted
  { transactionId := transactionId
    command := CommandCode.liftoffEmergencyResult.raw
    phase := if valid then .completed else .rejected
    reason :=
      if valid then .none
      else if transactionId = 0 then .invalidArgument else .invalidState
    detail := 0 }

end CommandExecutor

end MissionBoard.Mission
