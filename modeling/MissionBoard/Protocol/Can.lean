import Mathlib.Data.UInt

/-!
Owns the CAN protocol types of `protocol/can_protocol.hpp` that the mission and
runtime code exchange: the mission states, the phase and reason of a command
result, and the generic command request.
-/

namespace MissionBoard.Protocol

/-- `protocol::MissionState` -/
inductive MissionState where
  | commandReceive
  | liftoffDetection
  | engineBurn
  | control
  | descent
  | unknown
deriving DecidableEq

/-- `static_cast<uint8_t>(state)` -/
def MissionState.toByte : MissionState → UInt8
  | .commandReceive => 0
  | .liftoffDetection => 1
  | .engineBurn => 2
  | .control => 3
  | .descent => 4
  | .unknown => 0xFF

/-- `static_cast<MissionState>(byte)`. A byte that names no enumerator compares
unequal to the five flight states, as `unknown` does. -/
def MissionState.ofByte (byte : UInt8) : MissionState :=
  if byte = 0 then .commandReceive
  else if byte = 1 then .liftoffDetection
  else if byte = 2 then .engineBurn
  else if byte = 3 then .control
  else if byte = 4 then .descent
  else .unknown

@[simp] theorem MissionState.ofByte_toByte (state : MissionState) :
    MissionState.ofByte state.toByte = state := by
  cases state <;> decide

/-- `protocol::CommandPhase` -/
inductive CommandPhase where
  | accepted
  | completed
  | rejected
  | failed
deriving DecidableEq

/-- `protocol::CommandReason` -/
inductive CommandReason where
  | none
  | busy
  | invalidState
  | invalidArgument
  | notConfigured
  | deviceUnavailable
  | timeout
  | stall
  | protocolError
  | interruptedByEmergency
  | persistenceError
  | internalError
  | notSupported
  | safetyInterlock
  | alreadySatisfied
deriving DecidableEq

/-- `protocol::GenericCommandRequest` -/
structure GenericCommandRequest where
  transactionId : UInt8 := 0
  command : UInt8 := 0
  arguments : Vector UInt8 6 := Vector.replicate 6 0
deriving DecidableEq

/-- `protocol::CommandResult` -/
structure CommandResult where
  transactionId : UInt8 := 0
  command : UInt8 := 0
  phase : CommandPhase := .accepted
  reason : CommandReason := .none
  detail : UInt32 := 0
deriving DecidableEq

end MissionBoard.Protocol
