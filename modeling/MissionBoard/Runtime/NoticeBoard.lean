import MissionBoard.Runtime.FlightRun
import MissionBoard.Runtime.PowerRails

/-!
Owns the notice of the power cutoff that `missionRealtimeTask` sends: the pipeline of the tasks with
`power_queue` beside it, and the block that sends the two requests of the notice and sets
`cutoff_sent`.

What the notice has put into the queues since the task saw its flight epoch begin is kept in a list
that the program does not keep.
-/

namespace MissionBoard.Runtime

open Protocol Control Mission

/-- A request of the notice that found room -/
inductive NoticeSent where
  | power (request : PowerRequest)
  | para (request : ParaRequest)
deriving DecidableEq

/-- The tasks, `power_queue`, and the requests of the notice that were queued in this epoch -/
structure NoticeBoard where
  pipeline : CommandPipeline
  powerQueue : BoundedQueue PowerRequest 4 := .empty
  sent : List NoticeSent := []

/-- A step of the board, or of `power_queue` -/
inductive NoticeLabel where
  | fly (label : FlightLabel)
  /-- Another task sends a request and drops it when the queue is full. -/
  | sendPower (request : PowerRequest)
  /-- `safetyTask` receives a request. -/
  | receivePower
deriving DecidableEq

/-- `power` of the notice -/
def cutoffPower : PowerRequest := { cutoff := true }

/-- `para` of the notice -/
def cutoffPara (flightEpoch : UInt32) : ParaRequest :=
  { kind := .powerOff, flightEpoch := flightEpoch, safetyAuthorized := true }

namespace NoticeBoard

/-- The board when the tasks start -/
def boot (machine : MissionStateMachine) (guard : FinOvertravelGuard) : NoticeBoard where
  pipeline := .boot machine guard

/-- `power_cutoff && !cutoff_sent` -/
def announces (board : NoticeBoard) : Bool :=
  board.pipeline.realtime.applying.isNone &&
    board.pipeline.realtime.snapshotCache.deploymentPowerCutoffLatched &&
    !board.pipeline.realtime.cutoffSent

/-- What the two sends of the notice leave in the queues -/
def queuedNotice (board : NoticeBoard) : List NoticeSent :=
  let para := cutoffPara board.pipeline.realtime.snapshotCache.flightEpoch
  (if (board.powerQueue.send cutoffPower).isSome then [.power cutoffPower] else []) ++
    if (board.pipeline.paraQueue.send para).isSome then [.para para] else []

/-- The block of the notice; `announceCutoff` is the part of it that concerns `para_queue`. -/
def announceCutoff (board : NoticeBoard) : NoticeBoard :=
  let next := { board with
    pipeline := board.pipeline.fly (.task (.realtime .announceCutoff)) }
  if board.announces then
    { next with
      powerQueue := board.powerQueue.offer cutoffPower
      sent := board.sent ++ board.queuedNotice }
  else next

/-- A step of the board. What was queued is forgotten when the task sees another epoch. -/
def fly (board : NoticeBoard) (label : FlightLabel) : NoticeBoard :=
  let next := { board with pipeline := board.pipeline.fly label }
  match label with
  | .task (.realtime .announceCutoff) => board.announceCutoff
  | .task _ =>
      if next.pipeline.realtime.snapshotCache.flightEpoch =
          board.pipeline.realtime.snapshotCache.flightEpoch then next
      else { next with sent := [] }
  | .reset _ => { next with powerQueue := .empty, sent := [] }

/-- One step -/
def step (board : NoticeBoard) : NoticeLabel → NoticeBoard
  | .fly label => board.fly label
  | .sendPower request => { board with powerQueue := board.powerQueue.offer request }
  | .receivePower =>
      match board.powerQueue.receive with
      | none => board
      | some (_, rest) => { board with powerQueue := rest }

end NoticeBoard

/-! ### The variables of the notice -/

namespace CommandPipeline

/-- `mission_snapshot_cache` and `cutoff_sent` -/
def noticed (pipeline : CommandPipeline) : MissionSnapshot × Bool :=
  (pipeline.realtime.snapshotCache, pipeline.realtime.cutoffSent)

theorem noticed_executeCommand (pipeline : CommandPipeline) (envelope : MissionCommandEnvelope)
    (input : TransitionInput) :
    (pipeline.executeCommand envelope input).2.noticed = pipeline.noticed := by
  unfold executeCommand
  dsimp only
  split_ifs
  · rfl
  · rfl
  · rfl
  · unfold setFinZero
    split <;> rfl
  · unfold startFinZeroHold
    dsimp only
    split <;> rfl
  · unfold finMoveRelative
    dsimp only
    split_ifs <;> rfl
  · rfl
  · unfold prepareStart
    dsimp only
    split_ifs
    · rfl
    · split <;> rfl
  · unfold runPreflightCalibration
    split <;> rfl
  · rfl

theorem noticed_settle (pipeline : CommandPipeline) (transactionId : UInt8)
    (reason : CommandReason) (detail : UInt32) :
    (pipeline.settle transactionId reason detail).noticed = pipeline.noticed := rfl

theorem noticed_takeTransition (pipeline : CommandPipeline) (input : TransitionInput) :
    (pipeline.takeTransition input).noticed = pipeline.noticed := by
  unfold takeTransition
  split
  · rfl
  · next envelope rest received =>
    dsimp only
    have executed :=
      noticed_executeCommand { pipeline with transitionQueue := rest } envelope input
    split_ifs
    · exact executed
    · rw [noticed_settle]
      unfold sendPostTransition
      split <;> exact executed
    · rfl
    · rfl

theorem noticed_takeStartResponse (pipeline : CommandPipeline) (input : ResponseInput) :
    (pipeline.takeStartResponse input).noticed = pipeline.noticed := by
  unfold takeStartResponse
  split
  · rfl
  · dsimp only
    split_ifs
    · rfl
    · rw [noticed_settle]
      unfold resolveStart
      dsimp only
      split_ifs <;> rfl
    · rfl
    · rfl

theorem noticed_announceDeployment (pipeline : CommandPipeline) :
    pipeline.announceDeployment.noticed = pipeline.noticed := by
  unfold announceDeployment
  dsimp only
  split_ifs
  · rfl
  · rfl
  · split <;> rfl

/-- Of the steps of `missionRealtimeTask` two write the variables of the notice. -/
theorem noticed_stepRealtime (pipeline : CommandPipeline) {step : RealtimeStep}
    (refreshes : ∀ takesState, step ≠ .refreshCache takesState)
    (announces : step ≠ .announceCutoff) :
    (pipeline.stepRealtime step).noticed = pipeline.noticed := by
  cases step with
  | actuatorEmergency transactionId takesMutexes =>
      unfold stepRealtime decideEmergency
      dsimp only
      split <;> rfl
  | liftoffEmergency transactionId takesMutexes =>
      unfold stepRealtime liftoffEmergency
      dsimp only
      split_ifs <;> rfl
  | startResponse input => exact noticed_takeStartResponse pipeline input
  | transition input => exact noticed_takeTransition pipeline input
  | finishCalibration input =>
      unfold stepRealtime finishCalibration
      dsimp only
      split_ifs <;> rfl
  | holdAutomatically receiving observationValid =>
      unfold stepRealtime holdAutomatically
      dsimp only
      split <;> rfl
  | watchFinMove input =>
      unfold stepRealtime watchFinMove
      dsimp only
      split_ifs <;> rfl
  | tick input takesState rtcNowUs =>
      unfold stepRealtime tick
      dsimp only
      split <;> rfl
  | refreshCache takesState => exact absurd rfl (refreshes takesState)
  | announceCutoff => exact absurd rfl announces
  | announceDeployment => exact noticed_announceDeployment pipeline
  | signalEmergency | observeFin angleRad validSample => rfl

theorem noticed_stepWorker (pipeline : CommandPipeline) (input : WorkerInput) :
    (pipeline.stepWorker input).noticed = pipeline.noticed := by
  unfold stepWorker
  split
  · rfl
  · split <;> rfl
  · unfold enqueueCommand
    dsimp only
    split_ifs
    · split <;> rfl
    · split <;> rfl
    · split <;> rfl
  · dsimp only
    split <;> rfl

theorem noticed_stepParachute (pipeline : CommandPipeline) (input : ParachuteInput) :
    (pipeline.stepParachute input).noticed = pipeline.noticed := by
  unfold stepParachute
  split
  · unfold flushGenericCompletion
    dsimp only
    split_ifs <;> rfl
  · unfold sendStartResponse
    split
    · split <;> rfl
    · rfl
  · unfold drainRequest
    split <;> rfl
  · unfold takeParachuteCommand
    dsimp only
    split
    · rfl
    · split <;> rfl
  · unfold drive driveAutomatic
    dsimp only
    split_ifs <;> rfl
  · unfold startCommand
    dsimp only
    split <;> rfl
  · rfl

theorem noticed_applySafetyEffects (effects : List SafetyEffect) (pipeline : CommandPipeline) :
    (effects.foldl applySafetyEffect pipeline).noticed = pipeline.noticed := by
  induction effects generalizing pipeline with
  | nil => rfl
  | cons effect rest inductionHypothesis =>
      rw [List.foldl_cons, inductionHypothesis]
      unfold applySafetyEffect
      split <;> rfl

theorem noticed_stepSafety (pipeline : CommandPipeline) (input : SafetyInput) :
    (pipeline.stepSafety input).noticed = pipeline.noticed := by
  unfold stepSafety
  split
  · rfl
  · exact noticed_applySafetyEffects _ _

theorem noticed_announceCutoff (pipeline : CommandPipeline) :
    (pipeline.step (.realtime .announceCutoff)).noticed =
      (pipeline.realtime.snapshotCache,
        if pipeline.realtime.applying.isSome then pipeline.realtime.cutoffSent
        else if pipeline.realtime.snapshotCache.flightEpoch = 0 then false
        else pipeline.realtime.cutoffSent ||
          pipeline.realtime.snapshotCache.deploymentPowerCutoffLatched) := by
  unfold CommandPipeline.step stepRealtime announceCutoff noticed
  cases pipeline.realtime.applying with
  | some decision => rfl
  | none =>
      simp only [Option.isSome_none, Bool.false_eq_true, if_false]
      cases latched : pipeline.realtime.snapshotCache.deploymentPowerCutoffLatched <;>
        cases sent : pipeline.realtime.cutoffSent <;> split_ifs <;> simp_all

theorem noticed_refreshCache (pipeline : CommandPipeline) (takesState : Bool) :
    (pipeline.step (.realtime (.refreshCache takesState))).noticed = pipeline.noticed ∨
      (pipeline.step (.realtime (.refreshCache takesState))).noticed =
        (pipeline.machine.snapshot, pipeline.realtime.cutoffSent) := by
  unfold CommandPipeline.step stepRealtime refreshCache
  dsimp only
  split_ifs
  · exact Or.inl rfl
  · exact Or.inr rfl
  · exact Or.inl rfl

/-- Of all steps two write the variables of the notice. -/
theorem noticed_step (pipeline : CommandPipeline) {label : CommandLabel}
    (refreshes : ∀ takesState, label ≠ .realtime (.refreshCache takesState))
    (announces : label ≠ .realtime .announceCutoff) :
    (pipeline.step label).noticed = pipeline.noticed := by
  cases label with
  | worker input => exact noticed_stepWorker pipeline input
  | realtime step =>
      unfold CommandPipeline.step
      dsimp only
      split
      · rfl
      · exact noticed_stepRealtime pipeline (fun takesState same => refreshes takesState (same ▸ rfl))
          (fun same => announces (same ▸ rfl))
  | applyEmergency =>
      unfold CommandPipeline.step
      dsimp only
      split <;> rfl
  | parachute input => exact noticed_stepParachute pipeline input
  | finishExport input =>
      unfold CommandPipeline.step finishExport
      dsimp only
      split <;> rfl
  | takeExport input =>
      unfold CommandPipeline.step takeExport
      dsimp only
      split
      · rfl
      · split <;> rfl
  | safety input => exact noticed_stepSafety pipeline input

end CommandPipeline

namespace NoticeBoard

theorem pipeline_announceCutoff (board : NoticeBoard) :
    board.announceCutoff.pipeline = board.pipeline.step (.realtime .announceCutoff) := by
  unfold announceCutoff
  dsimp only
  split <;> rfl

/-- What a step of a task leaves but the notice -/
theorem fly_task (board : NoticeBoard) {label : CommandLabel}
    (announces : label ≠ .realtime .announceCutoff) :
    board.fly (.task label) =
      { board with
        pipeline := board.pipeline.step label
        sent :=
          if (board.pipeline.step label).realtime.snapshotCache.flightEpoch =
              board.pipeline.realtime.snapshotCache.flightEpoch then board.sent
          else [] } := by
  unfold fly
  dsimp only
  split
  · rename_i same
    exact absurd (FlightLabel.task.inj same) announces
  · rename_i task same
    obtain rfl := FlightLabel.task.inj same
    split
    · rename_i kept
      have stays : (board.pipeline.step label).realtime.snapshotCache.flightEpoch =
          board.pipeline.realtime.snapshotCache.flightEpoch := kept
      rw [if_pos stays]
      rfl
    · rename_i changed
      have leaves : (board.pipeline.step label).realtime.snapshotCache.flightEpoch ≠
          board.pipeline.realtime.snapshotCache.flightEpoch := changed
      rw [if_neg leaves]
      rfl
  · rename_i reset
    cases reset

end NoticeBoard

end MissionBoard.Runtime
