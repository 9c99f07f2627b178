import MissionBoard.Runtime.MissionRealtime
import MissionBoard.Runtime.ParachuteTask

/-!
Owns the interleaving of the tasks that carry commands: one label for each step a
task can take, and the pipeline the step leaves. A run is any list of labels, so it
is any order in which the scheduler may let the tasks run.
-/

namespace MissionBoard.Runtime

open Protocol Control Mission

/-- A step of `missionRealtimeTask` with what it reads from outside. -/
inductive RealtimeStep where
  | actuatorEmergency (transactionId : UInt8) (takesMutexes : Bool := true)
  | signalEmergency
  | liftoffEmergency (transactionId : UInt8) (takesMutexes : Bool := true)
  | startResponse (input : ResponseInput := {})
  | transition (input : TransitionInput := {})
  | observeFin (angleRad : Double) (validSample : Bool)
  | finishCalibration (input : CalibrationInput := {})
  | holdAutomatically (receiving observationValid : Bool)
  | watchFinMove (input : FinMoveInput := {})
  | tick (input : MissionTickInput) (takesState : Bool := true) (rtcNowUs : UInt64 := 0)
  | refreshCache (takesState : Bool := true)
  | announceCutoff
  | announceDeployment
deriving DecidableEq

/-- A step of one of the tasks. -/
inductive CommandLabel where
  | worker (input : WorkerInput := {})
  | realtime (step : RealtimeStep)
  | applyEmergency
  | parachute (input : ParachuteInput := {})
  | finishExport (input : StorageInput := {})
  | takeExport (input : StorageInput := {})
  | safety (input : SafetyInput := {})
deriving DecidableEq

namespace CommandPipeline

/-- One step of `missionRealtimeTask`, when it is not applying an emergency stop. -/
def stepRealtime (pipeline : CommandPipeline) : RealtimeStep → CommandPipeline
  | .actuatorEmergency transactionId takesMutexes =>
      pipeline.decideEmergency transactionId takesMutexes
  | .signalEmergency => pipeline.signalEmergency
  | .liftoffEmergency transactionId takesMutexes =>
      pipeline.liftoffEmergency transactionId takesMutexes
  | .startResponse input => pipeline.takeStartResponse input
  | .transition input => pipeline.takeTransition input
  | .observeFin angleRad validSample =>
      { pipeline with guard := pipeline.guard.observe angleRad validSample }
  | .finishCalibration input => pipeline.finishCalibration input
  | .holdAutomatically receiving observationValid =>
      pipeline.holdAutomatically receiving observationValid
  | .watchFinMove input => pipeline.watchFinMove input
  | .tick input takesState rtcNowUs => pipeline.tick input takesState rtcNowUs
  | .refreshCache takesState => pipeline.refreshCache takesState
  | .announceCutoff => pipeline.announceCutoff
  | .announceDeployment => pipeline.announceDeployment

/-- One step of the pipeline. A task that cannot take the step leaves it as it was. -/
def step (pipeline : CommandPipeline) (label : CommandLabel) : CommandPipeline :=
  match label with
  | .worker input => pipeline.stepWorker input
  | .realtime step =>
      if pipeline.realtime.applying.isSome then pipeline else pipeline.stepRealtime step
  | .applyEmergency =>
      match pipeline.realtime.applying with
      | none => pipeline
      | some decision => pipeline.applyEmergency decision
  | .parachute input => pipeline.stepParachute input
  | .finishExport input => pipeline.finishExport input
  | .takeExport input => pipeline.takeExport input
  | .safety input => pipeline.stepSafety input

/-- The pipeline when the tasks start: nothing is queued, and the machine is the one
`start` has restored. -/
def boot (machine : MissionStateMachine) (guard : FinOvertravelGuard) : CommandPipeline :=
  { machine := machine, guard := guard }

end CommandPipeline

end MissionBoard.Runtime
