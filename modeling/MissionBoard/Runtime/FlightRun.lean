import MissionBoard.Runtime.CommandRun
import MissionBoard.Runtime.Reachable

/-!
Owns runs of the board across resets, and what of such a run concerns the automatic
opening of the parachute: the mission state machine, the flight checkpoint, the epoch
`parachuteTask` has opened in, and the history of epochs, resets and automatic moves.

A reset loses everything but RTC memory. `step_refines` reduces every step of every
task, in whatever order they come, to a move of this view.
-/

namespace MissionBoard.Runtime

open Protocol Control Mission

/-- A reset, the RTC clock and the timer when the board restores its checkpoint, and
whether the restore gets `state_mutex`. -/
structure ResetInput where
  reason : ResetReason := .other
  rtcNowUs : UInt64 := 0
  bootUs : UInt64 := 0
  takesState : Bool := true
deriving DecidableEq

namespace ResetInput

/-- The checkpoint `start` restores. -/
def restored (input : ResetInput) (record : FlightCheckpointRecord) : Option ResetCheckpoint :=
  if input.takesState then loadFlightCheckpoint record input.reason input.rtcNowUs else none

/-- The machine the tasks start with. -/
def machine (input : ResetInput) (record : FlightCheckpointRecord) : MissionStateMachine :=
  match input.restored record with
  | none => {}
  | some checkpoint =>
      (({} : MissionStateMachine).restoreAfterReset input.bootUs checkpoint).2

/-- What the reset leaves in RTC memory. -/
def kept (input : ResetInput) (record : FlightCheckpointRecord) : FlightCheckpointRecord :=
  if input.reason = .powerOn then {} else record

end ResetInput

/-- A step of a task, or a reset. -/
inductive FlightLabel where
  | task (label : CommandLabel)
  | reset (input : ResetInput)
deriving DecidableEq

namespace CommandPipeline

/-- The reset of the board: the tasks start again. -/
def reboot (pipeline : CommandPipeline) (input : ResetInput) : CommandPipeline :=
  { boot (input.machine pipeline.checkpoint) {} with
    checkpoint := input.kept pipeline.checkpoint
    log := pipeline.log }.record (.rebooted (input.restored pipeline.checkpoint))

/-- One step of the board. -/
def fly (pipeline : CommandPipeline) : FlightLabel → CommandPipeline
  | .task label => pipeline.step label
  | .reset input => pipeline.reboot input

end CommandPipeline

/-! ### The view of the opening -/

/-- The event concerns the automatic opening. -/
def PipelineEvent.isFlight : PipelineEvent → Bool
  | .automaticMoved _ | .epochEntered _ | .rebooted _ => true
  | _ => false

/-- What of the board concerns the automatic opening. -/
structure FlightView where
  machine : MissionStateMachine
  checkpoint : FlightCheckpointRecord
  openedEpoch : UInt32
  history : List PipelineEvent

/-- What a step of a task does to the view. -/
inductive FlightMove (view : FlightView) : FlightView → Prop where
  | kept : FlightMove view view
  | ticked (guard : FinOvertravelGuard) (input : MissionTickInput) (rtcNowUs : UInt64) :
      FlightMove view
        { view with
          machine := (view.machine.tick guard input {}).1
          checkpoint :=
            storeFlightCheckpoint (view.machine.tick guard input {}).1.snapshot rtcNowUs }
  | cancelled : FlightMove view { view with machine := view.machine.cancelSequence.2 }
  | controlDisabled : FlightMove view { view with machine := view.machine.disableFinControl.2 }
  | started (guard : FinOvertravelGuard) (readiness : PreflightReadinessSnapshot)
      (mode : StartMode) (rtcNowUs : UInt64)
      (completes : (view.machine.startSequence guard readiness mode).result = .completed) :
      FlightMove view
        { view with
          machine := (view.machine.startSequence guard readiness mode).machine
          checkpoint :=
            storeFlightCheckpoint (view.machine.startSequence guard readiness mode).machine.snapshot
              rtcNowUs
          history := view.history ++
            [.epochEntered
              (view.machine.startSequence guard readiness mode).machine.snapshot.flightEpoch] }
  | rolledBack (completes : view.machine.liftoffDetectionEmergencyStop.1 = .completed) :
      FlightMove view
        { view with
          machine := view.machine.liftoffDetectionEmergencyStop.2
          history := view.history ++
            [.epochEntered view.machine.liftoffDetectionEmergencyStop.2.snapshot.flightEpoch] }
  | opened (descending : view.machine.snapshot.state = .descent)
      (powered : view.machine.snapshot.deploymentPowerCutoffLatched = false)
      (unopened : view.openedEpoch ≠ view.machine.snapshot.flightEpoch) (issued : Bool) :
      FlightMove view
        { view with
          openedEpoch := view.machine.snapshot.flightEpoch
          history := view.history ++
            if issued then [.automaticMoved view.machine.snapshot.flightEpoch] else [] }

/-- What a reset does to the view. -/
def FlightView.reboot (view : FlightView) (input : ResetInput) : FlightView where
  machine := input.machine view.checkpoint
  checkpoint := input.kept view.checkpoint
  openedEpoch := 0
  history := view.history ++ [.rebooted (input.restored view.checkpoint)]

theorem FlightMove.of_eq {view next : FlightView} (same : next = view) : FlightMove view next := by
  rw [same]
  exact .kept

namespace CommandPipeline

/-- The view of a pipeline. -/
def flightView (pipeline : CommandPipeline) : FlightView where
  machine := pipeline.machine
  checkpoint := pipeline.checkpoint
  openedEpoch := pipeline.parachute.openedEpoch
  history := pipeline.log.filter PipelineEvent.isFlight

/-! ### The steps that leave the view alone -/

theorem flightView_record {pipeline : CommandPipeline} {event : PipelineEvent}
    (quiet : event.isFlight = false) :
    (pipeline.record event).flightView = pipeline.flightView := by
  unfold flightView record
  rw [List.filter_append, List.filter_singleton, quiet, cond_false, List.append_nil]

theorem flightView_record_flight {pipeline : CommandPipeline} {event : PipelineEvent}
    (seen : event.isFlight = true) :
    (pipeline.record event).flightView =
      { pipeline.flightView with history := pipeline.flightView.history ++ [event] } := by
  unfold flightView record
  rw [List.filter_append, List.filter_singleton, seen, cond_true]

@[simp] theorem flightView_settle (pipeline : CommandPipeline) (transactionId : UInt8)
    (reason : CommandReason) (detail : UInt32) :
    (pipeline.settle transactionId reason detail).flightView = pipeline.flightView :=
  flightView_record rfl

@[simp] theorem flightView_atPhase (pipeline : CommandPipeline) (phase : ParachutePhase) :
    (pipeline.atPhase phase).flightView = pipeline.flightView := rfl

private theorem flightView_beginCommand (pipeline : CommandPipeline)
    (request : GenericCommandRequest) (context : CommandContext) :
    (pipeline.beginCommand request context).flightView = pipeline.flightView := by
  have quiet : ∀ decision, (decisionEvent request decision).isFlight = false := by
    intro decision
    unfold decisionEvent
    split
    · rfl
    · split <;> rfl
  exact flightView_record (quiet _)

private theorem flightView_enqueueCommand (pipeline : CommandPipeline)
    (envelope : MissionCommandEnvelope) :
    (pipeline.enqueueCommand envelope).flightView = pipeline.flightView := by
  unfold enqueueCommand
  dsimp only
  split
  · split <;> rfl
  · split
    · split <;> rfl
    · split <;> rfl

theorem flightView_stepWorker (pipeline : CommandPipeline) (input : WorkerInput) :
    (pipeline.stepWorker input).flightView = pipeline.flightView := by
  unfold stepWorker
  split
  · rfl
  · split
    · exact flightView_beginCommand pipeline _ _
    · exact flightView_record rfl
  · exact flightView_enqueueCommand pipeline _
  · dsimp only
    split
    · exact flightView_settle _ _ _ _
    · rfl

/-- Whatever the safety task sends leaves the view alone. -/
private theorem flightView_applySafetyEffects (effects : List SafetyEffect)
    (pipeline : CommandPipeline) :
    (effects.foldl applySafetyEffect pipeline).flightView = pipeline.flightView := by
  induction effects generalizing pipeline with
  | nil => rfl
  | cons effect rest inductionHypothesis =>
      rw [List.foldl_cons, inductionHypothesis]
      unfold applySafetyEffect
      split <;> rfl

theorem flightView_stepSafety (pipeline : CommandPipeline) (input : SafetyInput) :
    (pipeline.stepSafety input).flightView = pipeline.flightView := by
  unfold stepSafety
  split
  · rfl
  · exact flightView_applySafetyEffects _ _

theorem flightView_finishExport (pipeline : CommandPipeline) (input : StorageInput) :
    (pipeline.finishExport input).flightView = pipeline.flightView := by
  unfold finishExport
  split
  · exact flightView_settle _ _ _ _
  · rfl

theorem flightView_takeExport (pipeline : CommandPipeline) (input : StorageInput) :
    (pipeline.takeExport input).flightView = pipeline.flightView := by
  unfold takeExport
  split
  · rfl
  · split <;> rfl

theorem flightView_applyEmergency (pipeline : CommandPipeline) (decision : EmergencyDecision) :
    (pipeline.applyEmergency decision).flightView = pipeline.flightView :=
  flightView_record rfl

theorem flightView_finishCalibration (pipeline : CommandPipeline) (input : CalibrationInput) :
    (pipeline.finishCalibration input).flightView = pipeline.flightView := by
  unfold finishCalibration
  split
  · dsimp only
    split
    · exact flightView_settle _ _ _ _
    · rfl
  · rfl

theorem flightView_watchFinMove (pipeline : CommandPipeline) (input : FinMoveInput) :
    (pipeline.watchFinMove input).flightView = pipeline.flightView := by
  have ended : ∀ mode, (pipeline.endFinMove mode).flightView = pipeline.flightView :=
    fun _ => flightView_record rfl
  unfold watchFinMove
  split
  · dsimp only
    split
    · rw [flightView_settle]
      exact ended _
    · exact ended _
  · rfl

theorem flightView_announceCutoff (pipeline : CommandPipeline) :
    pipeline.announceCutoff.flightView = pipeline.flightView := by
  unfold announceCutoff
  dsimp only
  split <;> split <;> rfl

theorem flightView_announceDeployment (pipeline : CommandPipeline) :
    pipeline.announceDeployment.flightView = pipeline.flightView := by
  unfold announceDeployment
  dsimp only
  split
  · rfl
  · split
    · rfl
    · split <;> rfl

/-! ### The steps of the mission loop -/

/-- Only cancelling a sequence and disabling fin control reach the machine. -/
private theorem executeCommand_refines (pipeline : CommandPipeline)
    (envelope : MissionCommandEnvelope) (input : TransitionInput) :
    FlightMove pipeline.flightView (pipeline.executeCommand envelope input).2.flightView := by
  unfold executeCommand
  dsimp only
  split
  · exact .cancelled
  · split
    · exact .controlDisabled
    · apply FlightMove.of_eq
      split
      · exact flightView_record rfl
      · split
        · unfold setFinZero
          split
          · rfl
          · exact flightView_record rfl
        · split
          · unfold startFinZeroHold
            dsimp only
            split
            · rfl
            · exact flightView_record rfl
          · split
            · unfold finMoveRelative
              dsimp only
              split
              · rfl
              · split
                · rfl
                · exact flightView_record rfl
            · split
              · rfl
              · split
                · unfold prepareStart
                  dsimp only
                  split
                  · rfl
                  · split <;> rfl
                · split
                  · unfold runPreflightCalibration
                    split <;> rfl
                  · rfl

private theorem flightView_sendPostTransition (pipeline : CommandPipeline)
    (request : Option ParaRequest) :
    (pipeline.sendPostTransition request).flightView = pipeline.flightView := by
  unfold sendPostTransition
  split <;> rfl

theorem takeTransition_refines (pipeline : CommandPipeline) (input : TransitionInput) :
    FlightMove pipeline.flightView (pipeline.takeTransition input).flightView := by
  unfold takeTransition
  split
  · exact .kept
  · next envelope rest received =>
    dsimp only
    have executed := executeCommand_refines { pipeline with transitionQueue := rest } envelope input
    split
    · split
      · exact executed
      · rw [flightView_settle, flightView_sendPostTransition]
        exact executed
    · split
      · exact .kept
      · exact .kept

/-- The start a response decides either completes or leaves the view alone. -/
private theorem resolveStart_refines (pipeline : CommandPipeline)
    (response : ParachuteStartResponse) (rtcNowUs : UInt64) :
    FlightMove pipeline.flightView (pipeline.resolveStart response rtcNowUs).2.2.flightView := by
  unfold resolveStart
  dsimp only
  by_cases granted : response.reason = .none
  · rw [if_pos granted]
    generalize (if codeOf pipeline.realtime.pendingStart.request = .forceStartSequence then
      StartMode.forced else .normal) = mode
    rcases pipeline.machine.startSequence_cases pipeline.guard
      pipeline.realtime.pendingStart.readiness mode with ⟨completes, -⟩ | ⟨incomplete, same⟩
    · rw [if_pos completes, flightView_record_flight rfl]
      exact @FlightMove.started pipeline.flightView pipeline.guard _ mode rtcNowUs completes
    · rw [if_neg incomplete, same]
      exact .kept
  · rw [if_neg granted]
    exact .kept

theorem takeStartResponse_refines (pipeline : CommandPipeline) (input : ResponseInput) :
    FlightMove pipeline.flightView (pipeline.takeStartResponse input).flightView := by
  unfold takeStartResponse
  split
  · exact .kept
  · next response rest received =>
    dsimp only
    have resolved := resolveStart_refines { pipeline with startResponseQueue := rest } response
      input.rtcNowUs
    split
    · exact .kept
    · split
      · rw [flightView_settle]
        exact resolved
      · split
        · exact .kept
        · exact .kept

theorem liftoffEmergency_refines (pipeline : CommandPipeline) (transactionId : UInt8)
    (takesMutexes : Bool) :
    FlightMove pipeline.flightView
      (pipeline.liftoffEmergency transactionId takesMutexes).flightView := by
  unfold liftoffEmergency
  split
  · dsimp only
    rcases pipeline.machine.liftoffDetectionEmergencyStop_cases with
      ⟨burning, stopped⟩ | ⟨other, stopped⟩
    · have completes := congrArg Prod.fst stopped
      rw [if_pos completes, flightView_record_flight rfl, flightView_record rfl]
      exact @FlightMove.rolledBack pipeline.flightView completes
    · have incomplete : pipeline.machine.liftoffDetectionEmergencyStop.1 ≠ .completed := by
        rw [stopped]
        exact nofun
      rw [if_neg incomplete, flightView_record rfl, stopped]
      exact .kept
  · exact .kept

theorem decideEmergency_refines (pipeline : CommandPipeline) (transactionId : UInt8)
    (takesMutexes : Bool) :
    (pipeline.decideEmergency transactionId takesMutexes).flightView = pipeline.flightView := by
  unfold decideEmergency
  split
  · exact flightView_record rfl
  · rfl

theorem tick_refines (pipeline : CommandPipeline) (input : MissionTickInput) (takesState : Bool)
    (rtcNowUs : UInt64) :
    FlightMove pipeline.flightView (pipeline.tick input takesState rtcNowUs).flightView := by
  unfold tick
  split
  · exact .ticked pipeline.guard input rtcNowUs
  · exact .kept

/-! ### The steps of the parachute task -/

private theorem openedEpoch_establishHold (task : ParachuteTask) (holdOk : Bool) :
    (task.establishHold holdOk).openedEpoch = task.openedEpoch := by
  unfold ParachuteTask.establishHold
  split <;> rfl

private theorem openedEpoch_queueGenericCompletion (task : ParachuteTask) (transactionId : UInt8)
    (reason : CommandReason) :
    (task.queueGenericCompletion transactionId reason).openedEpoch = task.openedEpoch := by
  unfold ParachuteTask.queueGenericCompletion
  split <;> rfl

private theorem openedEpoch_startGeneric (task : ParachuteTask) (transactionId : UInt8)
    (move : ParachuteMove) (input : ParachuteInput) :
    (task.startGeneric transactionId move input).openedEpoch = task.openedEpoch := by
  have held := openedEpoch_establishHold task input.holdOk
  unfold ParachuteTask.startGeneric
  dsimp only
  split
  · exact held
  · exact (openedEpoch_queueGenericCompletion _ _ _).trans held

private theorem openedEpoch_startAutomatic (task : ParachuteTask) (input : ParachuteInput) :
    (task.startAutomatic input).openedEpoch = task.automaticOpenEpoch := by
  have held := openedEpoch_establishHold { task with openedEpoch := task.automaticOpenEpoch }
    input.holdOk
  unfold ParachuteTask.startAutomatic
  dsimp only
  split
  · exact held
  · exact held

private theorem openedEpoch_takeCommand (task : ParachuteTask) (command : GenericCommandRequest) :
    (task.takeCommand command).openedEpoch = task.openedEpoch := by
  unfold ParachuteTask.takeCommand
  split
  · exact openedEpoch_queueGenericCompletion _ _ _
  · rfl

private theorem openedEpoch_watchOperation (task : ParachuteTask) (input : ParachuteInput) :
    (task.watchOperation input).openedEpoch = task.openedEpoch := by
  have held := openedEpoch_establishHold { task with operation := {} } input.holdOk
  have reset : (if input.holdOk then
      { task with operation := {} }.establishHold input.holdOk
      else ({ task with operation := {} }.establishHold input.holdOk).resetTransport).openedEpoch =
        task.openedEpoch := by
    split
    · exact held
    · exact held
  unfold ParachuteTask.watchOperation
  dsimp only
  split
  · rfl
  · split
    · split
      · exact reset
      · exact (openedEpoch_queueGenericCompletion _ _ _).trans reset
    · split
      · split
        · exact reset
        · exact (openedEpoch_queueGenericCompletion _ _ _).trans reset
      · rfl

private theorem openedEpoch_serveRequest (pipeline : CommandPipeline) (request : ParaRequest)
    (takesState : Bool) :
    (pipeline.serveRequest request takesState).openedEpoch = pipeline.parachute.openedEpoch := by
  unfold serveRequest
  dsimp only
  split
  · rfl
  · rfl
  · split <;> rfl

/-- A change of the task's variables that keeps the opened epoch keeps the view. -/
private theorem flightView_parachute {pipeline : CommandPipeline} {task : ParachuteTask}
    (same : task.openedEpoch = pipeline.parachute.openedEpoch) :
    { pipeline with parachute := task }.flightView = pipeline.flightView := by
  unfold flightView
  dsimp only
  rw [same]

private theorem flightView_flushGenericCompletion (pipeline : CommandPipeline)
    (input : ParachuteInput) :
    (pipeline.flushGenericCompletion input).flightView = pipeline.flightView := by
  unfold flushGenericCompletion
  dsimp only
  split
  · split
    · exact flightView_record rfl
    · rfl
  · rfl

private theorem flightView_sendStartResponse (pipeline : CommandPipeline) :
    pipeline.sendStartResponse.flightView = pipeline.flightView := by
  unfold sendStartResponse
  split
  · split <;> rfl
  · rfl

private theorem flightView_drainRequest (pipeline : CommandPipeline) (input : ParachuteInput) :
    (pipeline.drainRequest input).flightView = pipeline.flightView := by
  unfold drainRequest
  split
  · rfl
  · exact flightView_parachute (openedEpoch_serveRequest pipeline _ _)

private theorem flightView_takeParachuteCommand (pipeline : CommandPipeline) :
    pipeline.takeParachuteCommand.flightView = pipeline.flightView := by
  unfold takeParachuteCommand
  dsimp only
  split
  · rfl
  · split
    · rfl
    · apply flightView_parachute
      split
      · rfl
      · exact openedEpoch_takeCommand _ _

private theorem flightView_startCommand (pipeline : CommandPipeline) (transactionId : UInt8)
    (move : ParachuteMove) (input : ParachuteInput) :
    (pipeline.startCommand transactionId move input).flightView = pipeline.flightView := by
  have started : { pipeline with
      parachute :=
        { pipeline.parachute.startGeneric transactionId move input with
          phase := .monitoring } }.flightView = pipeline.flightView :=
    flightView_parachute (openedEpoch_startGeneric _ _ _ _)
  unfold startCommand
  dsimp only
  split
  · exact (flightView_record rfl).trans started
  · exact started

private theorem flightView_monitor (pipeline : CommandPipeline) (input : ParachuteInput) :
    (pipeline.monitor input).flightView = pipeline.flightView := by
  apply flightView_parachute
  have watched := openedEpoch_watchOperation pipeline.parachute input
  unfold ParachuteTask.readTelemetry
  split
  · exact watched
  · exact watched

/-- The automatic branch opens in the epoch of the machine, which is in descent with
power, or does nothing. -/
private theorem driveAutomatic_refines {pipeline : CommandPipeline} (input : ParachuteInput)
    (unopened : pipeline.parachute.openedEpoch ≠ pipeline.parachute.automaticOpenEpoch) :
    FlightMove pipeline.flightView (pipeline.driveAutomatic input).flightView := by
  unfold driveAutomatic
  dsimp only
  split
  · next wanted =>
    unfold shouldOpen at wanted
    simp only [Bool.and_eq_true, Bool.not_eq_true', beq_iff_eq] at wanted
    obtain ⟨⟨⟨-, epoch⟩, descending⟩, powered⟩ := wanted
    have opened : { pipeline with
        parachute :=
          { pipeline.parachute.startAutomatic input with phase := .monitoring } }.flightView =
            { pipeline.flightView with
              openedEpoch := pipeline.machine.snapshot.flightEpoch } := by
      unfold flightView
      dsimp only
      rw [openedEpoch_startAutomatic, epoch]
    rw [← epoch] at unopened ⊢
    split
    · rw [flightView_record_flight rfl, opened]
      exact .opened descending powered unopened true
    · rw [opened]
      have silent := @FlightMove.opened pipeline.flightView descending powered unopened
        false
      rw [if_neg Bool.false_ne_true, List.append_nil] at silent
      exact silent
  · exact .kept

private theorem drive_refines (pipeline : CommandPipeline) (input : ParachuteInput) :
    FlightMove pipeline.flightView (pipeline.drive input).flightView := by
  unfold drive
  dsimp only
  split
  · exact .kept
  · split
    · exact .kept
    · split
      · next wanted => exact driveAutomatic_refines input wanted.2.1
      · split
        · have held : ∀ holdOk : Bool, (if holdOk then pipeline.parachute.establishHold true
              else pipeline.parachute.resetTransport).openedEpoch =
                pipeline.parachute.openedEpoch := by
            intro holdOk
            split
            · exact openedEpoch_establishHold _ _
            · rfl
          exact .of_eq (flightView_parachute (held input.holdOk))
        · exact .kept

theorem stepParachute_refines (pipeline : CommandPipeline) (input : ParachuteInput) :
    FlightMove pipeline.flightView (pipeline.stepParachute input).flightView := by
  unfold stepParachute
  split
  · exact .of_eq (flightView_flushGenericCompletion pipeline input)
  · exact .of_eq (flightView_sendStartResponse pipeline)
  · exact .of_eq (flightView_drainRequest pipeline input)
  · exact .of_eq (flightView_takeParachuteCommand pipeline)
  · exact drive_refines pipeline input
  · exact .of_eq (flightView_startCommand pipeline _ _ input)
  · exact .of_eq (flightView_monitor pipeline input)

/-- The task never touches the machine. -/
theorem machine_stepParachute (pipeline : CommandPipeline) (input : ParachuteInput) :
    (pipeline.stepParachute input).machine = pipeline.machine := by
  unfold stepParachute
  split
  · unfold flushGenericCompletion
    dsimp only
    split
    · split <;> rfl
    · rfl
  · unfold sendStartResponse
    split
    · split <;> rfl
    · rfl
  · unfold drainRequest
    split <;> rfl
  · unfold takeParachuteCommand
    dsimp only
    split
    · rfl
    · split <;> rfl
  · unfold drive
    dsimp only
    split
    · rfl
    · split
      · rfl
      · split
        · unfold driveAutomatic
          dsimp only
          split
          · split <;> rfl
          · rfl
        · split <;> rfl
  · unfold startCommand
    dsimp only
    split <;> rfl
  · rfl

/-! ### Every step -/

private theorem stepRealtime_refines (pipeline : CommandPipeline) (step : RealtimeStep) :
    FlightMove pipeline.flightView (pipeline.stepRealtime step).flightView := by
  cases step with
  | actuatorEmergency transactionId takes =>
      exact .of_eq (decideEmergency_refines pipeline transactionId takes)
  | signalEmergency => exact .kept
  | liftoffEmergency transactionId takes =>
      exact liftoffEmergency_refines pipeline transactionId takes
  | startResponse input => exact takeStartResponse_refines pipeline input
  | transition input => exact takeTransition_refines pipeline input
  | observeFin angleRad validSample => exact .kept
  | finishCalibration input => exact .of_eq (flightView_finishCalibration pipeline input)
  | holdAutomatically receiving observationValid =>
      apply FlightMove.of_eq
      unfold stepRealtime holdAutomatically
      dsimp only
      split <;> rfl
  | watchFinMove input => exact .of_eq (flightView_watchFinMove pipeline input)
  | tick input takes rtcNowUs => exact tick_refines pipeline input takes rtcNowUs
  | refreshCache takes =>
      apply FlightMove.of_eq
      unfold stepRealtime refreshCache
      dsimp only
      split <;> rfl
  | announceCutoff => exact .of_eq (flightView_announceCutoff pipeline)
  | announceDeployment => exact .of_eq (flightView_announceDeployment pipeline)

/-- Every step of a task is a move of the view. -/
theorem step_refines (pipeline : CommandPipeline) (label : CommandLabel) :
    FlightMove pipeline.flightView (pipeline.step label).flightView := by
  unfold step
  split
  · exact .of_eq (flightView_stepWorker pipeline _)
  · split
    · exact .kept
    · exact stepRealtime_refines pipeline _
  · split
    · exact .kept
    · exact .of_eq (flightView_applyEmergency pipeline _)
  · exact stepParachute_refines pipeline _
  · exact .of_eq (flightView_finishExport pipeline _)
  · exact .of_eq (flightView_takeExport pipeline _)
  · exact .of_eq (flightView_stepSafety pipeline _)

theorem flightView_reboot (pipeline : CommandPipeline) (input : ResetInput) :
    (pipeline.reboot input).flightView = pipeline.flightView.reboot input := by
  unfold reboot
  rw [flightView_record_flight rfl]
  rfl

end CommandPipeline

end MissionBoard.Runtime
