import MissionBoard.Library.BoundedQueue
import MissionBoard.Library.Run
import MissionBoard.Protocol.CanMessages

/-!
Owns the way of a mission event to the CAN bus within one flight epoch: the calls of
`enqueueEvent` with the bounded `event_queue` and the overflow latch behind it,
`latchDeploymentFailure`, and the part of `canTask` that merges, writes and retries.

Every access to a shared cell is a step of its own, so any number of calls and the
iteration of `canTask` interleave freely between them.
-/

namespace MissionBoard.Runtime

open Protocol

/-- `EventRequest` -/
structure EventRequest where
  flags : UInt16 := 0
  state : MissionState := .commandReceive
  elapsedRaw : UInt16 := 0
  detail : UInt16 := 0
deriving DecidableEq

/-- The flags have the flag set. -/
def carries (flags : UInt16) (flag : MissionEventFlag) : Bool := flags &&& eventFlag flag ≠ 0

/-- `ParachuteDeploymentFailure` but for `none` -/
inductive ParachuteDeploymentFailure where
  | moveCommandFailed
  | motionTimeout
  | holdFailed
deriving DecidableEq

/-- `static_cast<uint16_t>(failure)` -/
def ParachuteDeploymentFailure.code : ParachuteDeploymentFailure → UInt16
  | .moveCommandFailed => 4
  | .motionTimeout => 5
  | .holdFailed => 6

/-- An event of a caller other than `latchDeploymentFailure`: none of them raises the
failure flag. -/
def OrdinaryEvent : Type :=
  { event : EventRequest // carries event.flags .parachuteDeploymentFailure = false }

/-- What a call of `enqueueEvent` does next. -/
inductive CallStage where
  | send
  | storeDetail
  | raiseFlags
deriving DecidableEq

/-- A call of `enqueueEvent` in progress -/
structure EventCall where
  event : EventRequest
  stage : CallStage := .send
deriving DecidableEq

/-- What `canTask` does next to the channel. -/
inductive DrainStage where
  | receive
  | takeOverflow
  | takeDetail
  | write
deriving DecidableEq

/-- What has been observed of the channel: a finished call of `enqueueEvent`, a failure
latched in `parachute_deployment_failure`, a MissionEvent written on the bus. -/
inductive EventRecord where
  | raised (flags : UInt16)
  | failed (failure : ParachuteDeploymentFailure)
  | written (event : MissionEvent)
deriving DecidableEq

/-- The shared cells, the calls in progress, the locals of `canTask` and the record. -/
structure EventChannel where
  queue : BoundedQueue EventRequest 16 := BoundedQueue.empty
  overflowLatch : UInt16 := 0
  failureOverflowDetail : UInt16 := 0
  deploymentFailure : Option ParachuteDeploymentFailure := none
  calls : List EventCall := []
  stage : DrainStage := .receive
  pendingEvent : EventRequest := {}
  eventPending : Bool := false
  eventSequence : UInt8 := 0
  log : List EventRecord := []

/-- One step of a task at the channel -/
inductive ChannelStep where
  /-- A task calls `enqueueEvent`. -/
  | enqueueEvent (event : OrdinaryEvent)
  /-- `parachuteTask` runs the exchange of `latchDeploymentFailure`. -/
  | latchDeploymentFailure (failure : ParachuteDeploymentFailure)
  /-- The call at an index goes on. -/
  | call (index : ℕ)
  /-- `canTask` goes on; a write succeeds or fails. -/
  | canTask (written : Bool)

namespace EventChannel

/-- The event that `latchDeploymentFailure` enqueues -/
def failureEvent (failure : ParachuteDeploymentFailure) : EventRequest :=
  { flags := eventFlag .parachuteDeploymentFailure
    state := .descent
    elapsedRaw := 0
    detail := failure.code }

/-- The next step of the call at an index -/
def callStep (channel : EventChannel) (index : ℕ) (call : EventCall) : EventChannel :=
  match call.stage with
  | .send =>
      match channel.queue.send call.event with
      | some queue =>
          { channel with
            queue
            calls := channel.calls.eraseIdx index
            log := channel.log ++ [.raised call.event.flags] }
      | none =>
          let stage := if carries call.event.flags .parachuteDeploymentFailure then
            CallStage.storeDetail else .raiseFlags
          { channel with calls := channel.calls.set index { call with stage } }
  | .storeDetail =>
      { channel with
        failureOverflowDetail := call.event.detail
        calls := channel.calls.set index { call with stage := .raiseFlags } }
  | .raiseFlags =>
      { channel with
        overflowLatch := channel.overflowLatch ||| call.event.flags
        calls := channel.calls.eraseIdx index
        log := channel.log ++ [.raised call.event.flags] }

/-- `canTask` merges a received event into the pending one. -/
def merge (pending event : EventRequest) : EventRequest :=
  let failureAlreadyPending := carries pending.flags .parachuteDeploymentFailure
  { flags := pending.flags ||| event.flags
    state := event.state
    elapsedRaw := event.elapsedRaw
    detail :=
      if !failureAlreadyPending || carries event.flags .parachuteDeploymentFailure then
        event.detail
      else pending.detail }

/-- The MissionEvent of the pending event -/
def missionEvent (channel : EventChannel) : MissionEvent :=
  { sequence := channel.eventSequence
    flags := channel.pendingEvent.flags
    state := channel.pendingEvent.state
    elapsedRaw := channel.pendingEvent.elapsedRaw
    detail := channel.pendingEvent.detail }

/-- The next step of `canTask` -/
def drainStep (channel : EventChannel) (written : Bool) : EventChannel :=
  match channel.stage with
  | .receive =>
      match channel.queue.receive with
      | some (event, queue) =>
          { channel with
            queue
            pendingEvent := merge channel.pendingEvent event
            eventPending := true }
      | none => { channel with stage := .takeOverflow }
  | .takeOverflow =>
      let overflowFlags := channel.overflowLatch
      if overflowFlags = 0 then { channel with stage := .write }
      else
        { channel with
          overflowLatch := 0
          pendingEvent :=
            { channel.pendingEvent with flags := channel.pendingEvent.flags ||| overflowFlags }
          eventPending := true
          stage := if carries overflowFlags .parachuteDeploymentFailure then .takeDetail
            else .write }
  | .takeDetail =>
      { channel with
        pendingEvent := { channel.pendingEvent with detail := channel.failureOverflowDetail }
        failureOverflowDetail := 0
        stage := .write }
  | .write =>
      if channel.eventPending && written then
        { channel with
          eventSequence := channel.eventSequence + 1
          pendingEvent := {}
          eventPending := false
          stage := .receive
          log := channel.log ++ [.written channel.missionEvent] }
      else { channel with stage := .receive }

/-- One step of the channel -/
def step (channel : EventChannel) : ChannelStep → EventChannel
  | .enqueueEvent event => { channel with calls := channel.calls ++ [{ event := event.val }] }
  | .latchDeploymentFailure failure =>
      match channel.deploymentFailure with
      | none =>
          { channel with
            deploymentFailure := some failure
            calls := channel.calls ++ [{ event := failureEvent failure }]
            log := channel.log ++ [.failed failure] }
      | some _ => channel
  | .call index =>
      match channel.calls[index]? with
      | some call => channel.callStep index call
      | none => channel
  | .canTask written => channel.drainStep written

end EventChannel

end MissionBoard.Runtime
