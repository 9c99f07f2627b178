import MissionBoard.Library.BoundedQueue
import MissionBoard.Library.Run
import MissionBoard.Runtime.SafetyTask

/-!
Owns the parachute and auxiliary 5 V rails: the requests any task sends to
`power_queue`, the direct switch-offs of the other tasks, and the loop of `safetyTask`
taken apart at the points where another task may run.

The mission snapshot is an input of each step that reads it, so the rails may see any
history of the mission state machine.
-/

namespace MissionBoard.Runtime

open Protocol Mission

/-- Where `safetyTask` stands in its loop. -/
inductive RailPhase where
  /-- Before the recovery block. -/
  | recovering
  /-- In the loop that empties `power_queue`. -/
  | draining
  /-- Before the snapshot is read. -/
  | observing
  /-- Before the timer is read. -/
  | acting
deriving DecidableEq

/-- The safety task, its queue, and every operation on the rails so far. -/
structure PowerRails where
  safety : SafetyTask := {}
  phase : RailPhase := .recovering
  powerQueue : BoundedQueue PowerRequest 4 := .empty
  operations : List SafetyEffect := []

/-- A step that concerns the rails. -/
inductive RailLabel where
  /-- A task sends a request and drops it when the queue is full. -/
  | send (request : PowerRequest)
  /-- `queuePower` of `parachuteTask` -/
  | queuePower (request : PowerRequest)
  /-- `missionRealtimeTask` cannot send a parachute request after a transition. -/
  | postTransitionFull
  /-- A step of `safetyTask`. -/
  | safety (snapshot : MissionSnapshot := {}) (input : SafetyInput := {})
deriving DecidableEq

/-- The operation drives a rail on. -/
def SafetyEffect.drivesOn : SafetyEffect → Bool
  | .setAux5v on => on
  | .setTrackedParaPower on => on
  | _ => false

namespace PowerRails

/-- The rails after more operations. -/
def operate (rails : PowerRails) (effects : List SafetyEffect) : PowerRails :=
  { rails with operations := rails.operations ++ effects }

/-- `queuePower`: a request that finds the queue full still switches off at once. -/
def queuePower (rails : PowerRails) (request : PowerRequest) : PowerRails :=
  match rails.powerQueue.send request with
  | some queue => { rails with powerQueue := queue }
  | none =>
      rails.operate
        ((if request.cutoff || !request.parachutePower then [.setTrackedParaPower false] else []) ++
          if request.cutoff || !request.auxiliary5v then [.setAux5v false] else [])

/-- One iteration over `power_queue`. -/
def drain (rails : PowerRails) : PowerRails :=
  match rails.powerQueue.receive with
  | none => { rails with phase := .observing }
  | some (request, rest) =>
      let drained := SafetyTask.drainRequest (rails.safety, []) request
      { rails with safety := drained.1, powerQueue := rest }.operate drained.2

/-- One step of `safetyTask`. -/
def stepSafety (rails : PowerRails) (snapshot : MissionSnapshot) (input : SafetyInput) :
    PowerRails :=
  match rails.phase with
  | .recovering => { rails with phase := .draining }.operate (recoveryEffects input)
  | .draining => rails.drain
  | .observing =>
      { rails with
        safety := if input.takesMutex then rails.safety.observe snapshot else rails.safety
        phase := .acting }
  | .acting =>
      let acted := rails.safety.act input
      { rails with safety := acted.1, phase := .recovering }.operate acted.2

/-- One step. -/
def step (rails : PowerRails) : RailLabel → PowerRails
  | .send request => { rails with powerQueue := rails.powerQueue.offer request }
  | .queuePower request => rails.queuePower request
  | .postTransitionFull => rails.operate [.setTrackedParaPower false]
  | .safety snapshot input => rails.stepSafety snapshot input

end PowerRails

end MissionBoard.Runtime
