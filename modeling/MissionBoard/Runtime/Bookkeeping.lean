import MissionBoard.Runtime.PipelineLedger

/-!
Owns what the steps of the worker, of `missionRealtimeTask`, of `safetyTask` and of
`sdLogTask` do to the books: under the condition on a step that the emergency stop needs,
each of them is a run of moves of the ledger.
-/

namespace MissionBoard.Runtime

open Protocol Control Mission CommandExecutor
open TransactionLedger

namespace CommandPipeline

instance (pipeline : CommandPipeline) (transactionId : UInt8) :
    Decidable (transactionId ∈ pipeline.armed) :=
  inferInstanceAs (Decidable (_ ∨ _ ∧ _ ∧ _))

/-- A new transaction is not accepted while `parachuteTask` still carries its id or its
interruption is not reported. -/
def AcceptsFresh (pipeline : CommandPipeline) (input : WorkerInput) : Prop :=
  match pipeline.worker with
  | .prepared request _ =>
      input.takesExecutor = true → pipeline.executor.find request.transactionId = none →
        request.transactionId ∉ pipeline.parachute.lent ∧
          request.transactionId ∉ pipeline.reporting
  | .waiting | .begun _ | .unqueued _ => True

/-- `missionRealtimeTask` accepts the emergency stop. -/
def AcceptsStop (pipeline : CommandPipeline) (transactionId : UInt8) : Prop :=
  pipeline.realtime.applying = none ∧ transactionId ≠ 0 ∧
    pipeline.machine.snapshot.state = .commandReceive

/-- An accepted emergency stop finds no fin or parachute command with the worker or in a
command queue. -/
def FindsNoneQueued (pipeline : CommandPipeline) (transactionId : UInt8) : Prop :=
  ¬ pipeline.AcceptsStop transactionId ∨
    ∀ held ∈ pipeline.queued, held.2 ≠ .fin ∧ held.2 ≠ .parachute

/-- When the stop is applied, an interrupted command that `parachuteTask` is about to start is
met before the task leaves `para_queue`, with room for the `hold`. -/
def HoldsInTime (pipeline : CommandPipeline) : Prop :=
  ∀ transactionId ∈ pipeline.reporting, transactionId ∉ pipeline.armed ∨
    (pipeline.parachute.phase.drains = true ∧ pipeline.paraQueue.items.length < 4)

instance (pipeline : CommandPipeline) (input : WorkerInput) :
    Decidable (pipeline.AcceptsFresh input) := by
  unfold AcceptsFresh
  split <;> infer_instance

instance (pipeline : CommandPipeline) (transactionId : UInt8) :
    Decidable (pipeline.AcceptsStop transactionId) :=
  inferInstanceAs (Decidable (_ ∧ _ ∧ _))

instance (pipeline : CommandPipeline) (transactionId : UInt8) :
    Decidable (pipeline.FindsNoneQueued transactionId) :=
  inferInstanceAs (Decidable (_ ∨ _))

instance (pipeline : CommandPipeline) : Decidable pipeline.HoldsInTime :=
  inferInstanceAs (Decidable (∀ transactionId ∈ pipeline.reporting, _ ∨ _))

/-- The condition on a step. -/
def Permitted (pipeline : CommandPipeline) : CommandLabel → Prop
  | .worker input => pipeline.AcceptsFresh input
  | .realtime (.actuatorEmergency transactionId true) => pipeline.FindsNoneQueued transactionId
  | .applyEmergency => pipeline.HoldsInTime
  | _ => True

instance (pipeline : CommandPipeline) (label : CommandLabel) :
    Decidable (pipeline.Permitted label) :=
  match label with
  | .worker input => inferInstanceAs (Decidable (pipeline.AcceptsFresh input))
  | .realtime (.actuatorEmergency transactionId true) =>
      inferInstanceAs (Decidable (pipeline.FindsNoneQueued transactionId))
  | .applyEmergency => inferInstanceAs (Decidable pipeline.HoldsInTime)
  | .realtime (.actuatorEmergency _ false) | .realtime .signalEmergency
  | .realtime (.liftoffEmergency ..) | .realtime (.startResponse _) | .realtime (.transition _)
  | .realtime (.observeFin ..) | .realtime (.finishCalibration _)
  | .realtime (.holdAutomatically ..) | .realtime (.watchFinMove _) | .realtime (.tick ..)
  | .realtime (.refreshCache _) | .realtime .announceCutoff | .realtime .announceDeployment
  | .parachute _ | .finishExport _ | .takeExport _ | .safety _ => .isTrue trivial

/-- The executor keeps its table, and every pending transaction has a command. -/
structure ExecutorKept (executor : CommandExecutor) : Prop where
  table : TableInvariant executor
  names : executor.NamesCommands

/-- The worker sends a command to the queue of its domain. -/
def Filed : CommandWorker → Prop
  | .begun envelope => envelope.decision.domain = domainFor (codeOf envelope.request)
  | .waiting | .prepared _ _ | .unqueued _ => True

/-- What holds in every state of a permitted run. -/
structure Bookkept (pipeline : CommandPipeline) : Prop where
  executor : ExecutorKept pipeline.executor
  filed : Filed pipeline.worker
  sound : pipeline.books.Sound

section Step

variable {pipeline : CommandPipeline}

theorem ExecutorKept.finish {executor : CommandExecutor} (kept : ExecutorKept executor)
    (guard : FinOvertravelGuard) (transactionId : UInt8) (phase : CommandPhase)
    (reason : CommandReason) (detail : UInt32) :
    ExecutorKept (executor.finish guard transactionId phase reason detail).2.1 :=
  ⟨tableInvariant_finish kept.table guard transactionId phase reason detail,
    namesCommands_finish kept.names guard transactionId phase reason detail⟩

/-- A step that moves commands between the tasks and owes nothing new. -/
theorem Bookkept.transfer {next : CommandPipeline} (kept : Bookkept pipeline)
    (transfers : Transfers pipeline next) (filed : Filed next.worker)
    (owed : next.owed ≤ pipeline.owed) (trace : next.trace = pipeline.trace) : Bookkept next :=
  ⟨transfers.executor ▸ kept.executor, filed, kept.sound.relaxed (transfers.relaxes owed trace)⟩

/-- A step that answers a transaction its task has owed until now. -/
theorem Bookkept.answer {next : CommandPipeline} (kept : Bookkept pipeline)
    (transfers : Transfers pipeline next) (filed : Filed next.worker) {transactionId : UInt8}
    {domain : CommandDomain} (owed : (transactionId, domain) ::ₘ next.owed ≤ pipeline.owed)
    (trace : next.trace = pipeline.trace) (reason : CommandReason) (detail : UInt32) :
    Bookkept (next.settle transactionId reason detail) := by
  have executor : ExecutorKept next.executor := transfers.executor ▸ kept.executor
  have relaxes := transfers.relaxes ((Multiset.le_cons_self _ _).trans owed) trace
  have sound : ({ next.books with
      owed := (transactionId, domain) ::ₘ next.owed } : Ledger _ _).Sound :=
    kept.sound.relaxed
      ⟨relaxes.live, owed, relaxes.lent, relaxes.armed, relaxes.reporting, relaxes.trace⟩
  exact ⟨executor.finish _ _ _ _ _, filed, sound_settle executor.table reason detail sound⟩

/-! ### The worker -/

private theorem Bookkept.begin (kept : Bookkept pipeline) {request : GenericCommandRequest}
    {context : CommandContext} (prepared : pipeline.worker = .prepared request context)
    (fresh : pipeline.executor.find request.transactionId = none →
      request.transactionId ∉ pipeline.parachute.lent ∧
        request.transactionId ∉ pipeline.reporting) :
    Bookkept (pipeline.beginCommand request context) := by
  have table := kept.executor.table
  have executor : ExecutorKept (pipeline.executor.begin pipeline.guard request context).2.1 :=
    ⟨tableInvariant_begin table _ _ _, namesCommands_begin table kept.executor.names _ _ _⟩
  have nothing : pipeline.worker.owed = 0 := by
    rw [prepared]
    rfl
  have accepted := @pendingDomain_begin_accepted _ table pipeline.guard request context
  have refused := @pendingDomain_begin_refused _ table pipeline.guard request context
  have rejected := @phase_of_begin pipeline.executor pipeline.guard request context
  unfold beginCommand
  generalize pipeline.executor.begin pipeline.guard request context = begun at *
  obtain ⟨decision, later, guard⟩ := begun
  dsimp only at *
  by_cases accepts : decision.execute = true
  · obtain ⟨unknown, domain, live⟩ := accepted accepts
    obtain ⟨unlent, unreported⟩ := fresh unknown
    unfold decisionEvent
    rw [if_pos accepts, if_pos accepts]
    refine ⟨executor, domain, ?_⟩
    · refine kept.sound.move (.accept request.transactionId (domainFor (codeOf request))
        (pendingDomain_of_find unknown) unlent unreported live ?_ rfl rfl rfl ?_)
      · show owed _ = _ ::ₘ pipeline.owed
        unfold owed queued exporting record
        dsimp only
        rw [nothing, ← Multiset.singleton_add]
        unfold CommandWorker.owed owedFor
        dsimp only
        abel
      · show trace _ = pipeline.trace ++ _
        unfold trace record
        rw [List.filterMap_append]
        rfl
  · have refuses := Bool.eq_false_of_not_eq_true accepts
    have unseen : ledgerEvent (decisionEvent request decision) = none := by
      unfold decisionEvent
      rw [if_neg accepts]
      split
      · rfl
      · next repeated =>
        unfold ledgerEvent
        dsimp only
        rw [rejected refuses (Bool.eq_false_of_not_eq_true repeated)]
        rfl
    rw [if_neg accepts]
    refine ⟨executor, trivial, kept.sound.relaxed
      ⟨refused refuses, ?_, rfl, subset_rfl, rfl, trace_record unseen⟩⟩
    show owed _ ≤ pipeline.owed
    unfold owed queued exporting record
    dsimp only
    rw [nothing]
    exact le_rfl

/-- An accepted command goes to a queue, or stays with the worker. -/
private theorem Bookkept.enqueue (kept : Bookkept pipeline) {envelope : MissionCommandEnvelope}
    (begun : pipeline.worker = .begun envelope) : Bookkept (pipeline.enqueueCommand envelope) := by
  have filed : envelope.decision.domain = domainFor (codeOf envelope.request) := by
    have filed := kept.filed
    rw [begun] at filed
    exact filed
  have held : pipeline.worker.owed = {owedFor envelope.request} := by
    rw [begun]
    rfl
  have unqueued : Bookkept { pipeline with worker := .unqueued envelope.request } := by
    refine kept.transfer ⟨rfl, rfl, fun _ => id, rfl⟩ trivial ?_ rfl
    unfold owed queued exporting
    dsimp only
    rw [held]
    exact le_rfl
  unfold enqueueCommand
  dsimp only
  by_cases parachute : envelope.decision.domain = .parachute
  · rw [if_pos parachute]
    cases sent : pipeline.parachuteCommandQueue.send
        { kind := .generic, command := envelope.request } with
    | none => exact unqueued
    | some queue =>
        refine kept.transfer ⟨rfl, rfl, fun _ => id, rfl⟩ trivial ?_ rfl
        unfold owed queued exporting
        dsimp only
        rw [held, BoundedQueue.total_send sent]
        apply le_of_eq
        unfold CommandWorker.owed ParachuteCommandRequest.owed
        dsimp only
        abel
  · rw [if_neg parachute]
    by_cases storage : envelope.decision.domain = .storage
    · rw [if_pos storage]
      cases sent : pipeline.storageExportQueue.send
          { transactionId := envelope.request.transactionId } with
      | none => exact unqueued
      | some queue =>
          refine kept.transfer ⟨rfl, rfl, fun _ => id, rfl⟩ trivial ?_ rfl
          unfold owed queued exporting
          dsimp only
          rw [held, BoundedQueue.total_send sent]
          apply le_of_eq
          unfold CommandWorker.owed StorageExportRequest.owed owedFor
          rw [← filed, storage]
          dsimp only
          abel
    · rw [if_neg storage]
      cases sent : pipeline.transitionQueue.send envelope with
      | none => exact unqueued
      | some queue =>
          refine kept.transfer ⟨rfl, rfl, fun _ => id, rfl⟩ trivial ?_ rfl
          unfold owed queued exporting
          dsimp only
          rw [held, BoundedQueue.total_send sent]
          apply le_of_eq
          unfold CommandWorker.owed MissionCommandEnvelope.owed
          dsimp only
          abel

private theorem Bookkept.worker (kept : Bookkept pipeline) (input : WorkerInput)
    (permitted : pipeline.AcceptsFresh input) : Bookkept (pipeline.stepWorker input) := by
  unfold AcceptsFresh at permitted
  unfold stepWorker
  cases stands : pipeline.worker with
  | waiting =>
      refine kept.transfer ⟨rfl, rfl, fun _ => id, rfl⟩ trivial ?_ rfl
      unfold owed queued exporting
      dsimp only
      rw [stands]
      exact le_rfl
  | prepared request context =>
      rw [stands] at permitted
      dsimp only at permitted ⊢
      split
      · next takes => exact kept.begin stands (permitted takes)
      · refine kept.transfer ⟨rfl, rfl, fun _ => id, rfl⟩ trivial ?_ (trace_record rfl)
        unfold executorBusy record owed queued exporting
        dsimp only
        rw [stands]
        exact le_rfl
  | begun envelope => exact kept.enqueue stands
  | unqueued request =>
      have gone : owedFor request ::ₘ owed { pipeline with worker := .waiting } = pipeline.owed := by
        unfold owed queued exporting
        dsimp only
        rw [stands, ← Multiset.singleton_add]
        unfold CommandWorker.owed
        dsimp only
        abel
      have waits : Transfers pipeline { pipeline with worker := .waiting } :=
        ⟨rfl, rfl, fun _ => id, rfl⟩
      dsimp only
      split
      · exact kept.answer waits trivial gone.le rfl .busy 0
      · exact kept.transfer waits trivial ((Multiset.le_cons_self _ _).trans gone.le) rfl

/-! ### The answers of `missionRealtimeTask` -/

/-- Deciding a start settles nothing yet. -/
private theorem resolveStart_transfers (pipeline : CommandPipeline)
    (response : ParachuteStartResponse) (rtcNowUs : UInt64) :
    Transfers pipeline (pipeline.resolveStart response rtcNowUs).2.2 ∧
      (pipeline.resolveStart response rtcNowUs).2.2.worker = pipeline.worker ∧
      (pipeline.resolveStart response rtcNowUs).2.2.realtime = pipeline.realtime ∧
      (pipeline.resolveStart response rtcNowUs).2.2.queued = pipeline.queued ∧
      (pipeline.resolveStart response rtcNowUs).2.2.exporting = pipeline.exporting ∧
      (pipeline.resolveStart response rtcNowUs).2.2.trace = pipeline.trace := by
  have held : ∀ request ∈ pipeline.paraQueue.items,
      request ∈ (pipeline.paraQueue.offerFront { kind := .hold }).items :=
    fun _ queued => BoundedQueue.mem_offerFront queued
  unfold resolveStart
  dsimp only
  generalize pipeline.machine.startSequence _ _ _ = started
  split
  · split
    · exact ⟨⟨rfl, rfl, fun _ => id, rfl⟩, rfl, rfl, rfl, rfl, trace_record rfl⟩
    · exact ⟨⟨rfl, rfl, held, rfl⟩, rfl, rfl, rfl, rfl, rfl⟩
  · exact ⟨⟨rfl, rfl, held, rfl⟩, rfl, rfl, rfl, rfl, rfl⟩

private theorem Bookkept.startResponse (kept : Bookkept pipeline) (input : ResponseInput) :
    Bookkept (pipeline.takeStartResponse input) := by
  unfold takeStartResponse
  split
  · exact kept
  · next response rest taken =>
    have received : Bookkept { pipeline with startResponseQueue := rest } :=
      kept.transfer ⟨rfl, rfl, fun _ => id, rfl⟩ kept.filed le_rfl rfl
    dsimp only
    split
    · exact received
    · next matching =>
      have pending : pipeline.realtime.startPreparationPending = true :=
        Bool.eq_true_of_not_eq_false (not_or.mp matching).1
      split
      · obtain ⟨transfers, worker, realtime, queued, exporting, trace⟩ := resolveStart_transfers
          { pipeline with startResponseQueue := rest } response input.rtcNowUs
        generalize resolveStart { pipeline with startResponseQueue := rest } response
          input.rtcNowUs = resolved at *
        obtain ⟨reason, detail, resolved⟩ := resolved
        dsimp only at *
        have gone : (pipeline.realtime.pendingStart.request.transactionId,
            CommandDomain.sequence) ::ₘ owed { resolved with
              realtime := { resolved.realtime with startPreparationPending := false } } =
            pipeline.owed := by
          refine owed_cons queued exporting ?_
          rw [realtime]
          exact MissionRealtime.owed_endStart pending
        have released : Transfers pipeline { resolved with
            realtime := { resolved.realtime with startPreparationPending := false } } :=
          ⟨transfers.executor, transfers.parachute, transfers.paraQueue, transfers.applying⟩
        exact kept.answer released (worker ▸ kept.filed) gone.le trace reason detail
      · split
        · exact received
        · exact kept.transfer ⟨rfl, rfl, fun _ => id, rfl⟩ kept.filed le_rfl rfl

/-- The effect of a command that is owed. -/
private theorem Bookkept.act (kept : Bookkept pipeline) {transactionId : UInt8}
    {domain : CommandDomain} (owed : (transactionId, domain) ∈ pipeline.owed) :
    Bookkept (pipeline.record (.finActuated transactionId)) := by
  have acted := kept.sound.act (Or.inr ⟨domain, owed⟩)
  refine ⟨kept.executor, kept.filed, acted.relaxed ?_⟩
  exact ⟨rfl, le_rfl, rfl, subset_rfl, rfl, trace_effect rfl⟩

/-- The commands that hold or move the fin leave no move behind that was not asked for. -/
private theorem owed_realtime_le {realtime : MissionRealtime} {more : Multiset Owed}
    (owes : realtime.owed ≤ more + pipeline.realtime.owed) :
    owed { pipeline with realtime := realtime } ≤ more + pipeline.owed := by
  unfold owed queued exporting
  dsimp only
  calc _ ≤ _ + (more + pipeline.realtime.owed) := add_le_add_right owes _
    _ = _ := by abel

/-- What a command that was taken from `transition_queue` leaves: nothing newly owed when it
is to be answered at once, and itself when it is answered later. Its effect is its own. -/
structure Executes (pipeline : CommandPipeline) (request : GenericCommandRequest)
    (executed : TransitionOutcome × CommandPipeline) : Prop where
  transfers : Transfers pipeline executed.2
  worker : executed.2.worker = pipeline.worker
  owed : executed.2.owed ≤
    (if executed.1.asynchronous then {owedFor request} else 0) + pipeline.owed
  trace : executed.2.trace = pipeline.trace ∨
    executed.2.trace = pipeline.trace ++ [.effect request.transactionId]

/-- A command that leaves the books alone. -/
private theorem Executes.untouched {request : GenericCommandRequest} {outcome : TransitionOutcome}
    (answered : outcome.asynchronous = false) {next : CommandPipeline}
    (transfers : Transfers pipeline next) (worker : next.worker = pipeline.worker)
    (owed : next.owed = pipeline.owed) (trace : next.trace = pipeline.trace) :
    Executes pipeline request (outcome, next) := by
  refine ⟨transfers, worker, ?_, Or.inl trace⟩
  dsimp only
  rw [answered, owed, if_neg Bool.false_ne_true, zero_add]

/-- A fin command that gives up a running move. -/
private theorem Executes.holdsFin {request : GenericCommandRequest} {outcome : TransitionOutcome}
    (answered : outcome.asynchronous = false) {next : CommandPipeline}
    (transfers : Transfers pipeline next) (worker : next.worker = pipeline.worker)
    (owed : next.owed = CommandPipeline.owed { pipeline with
      realtime := { pipeline.realtime with pendingFinMove := {} } })
    (trace : next.trace = pipeline.trace ++ [.effect request.transactionId]) :
    Executes pipeline request (outcome, next) := by
  refine ⟨transfers, worker, ?_, Or.inr trace⟩
  dsimp only
  rw [answered, owed, if_neg Bool.false_ne_true]
  apply owed_realtime_le
  rw [zero_add]
  exact MissionRealtime.owed_dropFinMove_le

private theorem executes_finFree (pipeline : CommandPipeline) (request : GenericCommandRequest) :
    Executes pipeline request (pipeline.finFree request.transactionId) :=
  .holdsFin rfl ⟨rfl, rfl, fun _ => id, rfl⟩ rfl rfl (trace_effect rfl)

private theorem executes_setFinZero (pipeline : CommandPipeline)
    (request : GenericCommandRequest) (input : TransitionInput) :
    Executes pipeline request (pipeline.setFinZero request.transactionId input) := by
  unfold setFinZero
  split
  · exact .untouched rfl ⟨rfl, rfl, fun _ => id, rfl⟩ rfl rfl rfl
  · exact .holdsFin rfl ⟨rfl, rfl, fun _ => id, rfl⟩ rfl rfl (trace_effect rfl)

private theorem executes_startFinZeroHold (pipeline : CommandPipeline)
    (request : GenericCommandRequest) (input : TransitionInput) :
    Executes pipeline request (pipeline.startFinZeroHold request.transactionId input) := by
  unfold startFinZeroHold
  dsimp only
  split
  · exact .untouched rfl ⟨rfl, rfl, fun _ => id, rfl⟩ rfl rfl rfl
  · exact .holdsFin rfl ⟨rfl, rfl, fun _ => id, rfl⟩ rfl rfl (trace_effect rfl)

/-- A command that is answered later. -/
private theorem Executes.begins {request : GenericCommandRequest} {outcome : TransitionOutcome}
    (later : outcome.asynchronous = true) {next : CommandPipeline}
    (transfers : Transfers pipeline next) (worker : next.worker = pipeline.worker)
    (owed : next.owed ≤ {owedFor request} + pipeline.owed)
    (trace : next.trace = pipeline.trace ∨
      next.trace = pipeline.trace ++ [.effect request.transactionId]) :
    Executes pipeline request (outcome, next) := by
  refine ⟨transfers, worker, ?_, trace⟩
  dsimp only
  rw [later, if_pos rfl]
  exact owed

private theorem executes_finMoveRelative (pipeline : CommandPipeline)
    {request : GenericCommandRequest} (code : codeOf request = .finMoveRelative)
    (input : TransitionInput) :
    Executes pipeline request (pipeline.finMoveRelative request.transactionId input) := by
  unfold finMoveRelative
  dsimp only
  split
  · exact .untouched rfl ⟨rfl, rfl, fun _ => id, rfl⟩ rfl rfl rfl
  · split
    · exact .untouched rfl ⟨rfl, rfl, fun _ => id, rfl⟩ rfl rfl rfl
    · refine .begins rfl ⟨rfl, rfl, fun _ => id, rfl⟩ rfl ?_ (Or.inr (trace_effect rfl))
      have files : owedFor request = (request.transactionId, CommandDomain.fin) := by
        unfold owedFor
        rw [code]
        rfl
      rw [files]
      exact owed_realtime_le (MissionRealtime.owed_beginFinMove_le request.transactionId)

private theorem executes_runPreflightCalibration (pipeline : CommandPipeline)
    {request : GenericCommandRequest} (code : codeOf request = .runPreflightCalibration) :
    Executes pipeline request (pipeline.runPreflightCalibration request.transactionId) := by
  unfold runPreflightCalibration
  split
  · exact .untouched rfl ⟨rfl, rfl, fun _ => id, rfl⟩ rfl rfl rfl
  · refine .begins rfl ⟨rfl, rfl, fun _ => id, rfl⟩ rfl ?_ (Or.inl rfl)
    have files : owedFor request = (request.transactionId, CommandDomain.calibration) := by
      unfold owedFor
      rw [code]
      rfl
    rw [files]
    exact owed_realtime_le (MissionRealtime.owed_beginCalibration_le request.transactionId)

private theorem executes_prepareStart (pipeline : CommandPipeline)
    {envelope : MissionCommandEnvelope}
    (code : codeOf envelope.request = .startSequence ∨
      codeOf envelope.request = .forceStartSequence) (input : TransitionInput) :
    Executes pipeline envelope.request (pipeline.prepareStart envelope input) := by
  unfold prepareStart
  dsimp only
  split
  · exact .untouched rfl ⟨rfl, rfl, fun _ => id, rfl⟩ rfl rfl rfl
  · split
    · exact .untouched rfl ⟨rfl, rfl, fun _ => id, rfl⟩ rfl rfl rfl
    · next queue sent =>
      refine .begins rfl ⟨rfl, rfl, fun _ => id, rfl⟩ rfl ?_ (Or.inl rfl)
      have files : owedFor envelope.request =
          (envelope.request.transactionId, CommandDomain.sequence) := by
        unfold owedFor
        rcases code with code | code <;> rw [code] <;> rfl
      have owes := @MissionRealtime.owed_beginStart_le pipeline.realtime
        { envelope with readiness := pipeline.captureReadiness input }
      have unheld := @BoundedQueue.total_send _ _ _ _ ParachuteCommandRequest.owed _ _ _ sent
      rw [files]
      refine le_trans (le_of_eq ?_) (owed_realtime_le owes)
      unfold owed queued exporting
      dsimp only
      rw [unheld]
      show _ + (0 + _) + _ + _ = _
      rw [zero_add]
      rfl

/-- Whatever its code, a command leaves on the books no more than itself. -/
private theorem executes_command (pipeline : CommandPipeline) (envelope : MissionCommandEnvelope)
    (input : TransitionInput) :
    Executes pipeline envelope.request (pipeline.executeCommand envelope input) := by
  have same : Transfers pipeline pipeline := ⟨rfl, rfl, fun _ => id, rfl⟩
  unfold executeCommand
  dsimp only
  split
  · exact .untouched rfl ⟨rfl, rfl, fun _ => id, rfl⟩ rfl rfl rfl
  split
  · exact .untouched rfl ⟨rfl, rfl, fun _ => id, rfl⟩ rfl rfl rfl
  split
  · exact executes_finFree pipeline envelope.request
  split
  · exact executes_setFinZero pipeline envelope.request input
  split
  · exact executes_startFinZeroHold pipeline envelope.request input
  split
  · exact executes_finMoveRelative pipeline ‹_› input
  split
  · refine .untouched ?_ same rfl rfl rfl
    split
    · rfl
    · split
      · rfl
      · split <;> rfl
  split
  · exact executes_prepareStart pipeline ‹_› input
  split
  · exact executes_runPreflightCalibration pipeline ‹_›
  · exact .untouched rfl same rfl rfl rfl

/-- The parachute request of a transition changes `para_queue` alone. -/
private theorem sendPostTransition_transfers (pipeline : CommandPipeline)
    (request : Option ParaRequest) :
    Transfers pipeline (pipeline.sendPostTransition request) ∧
      (pipeline.sendPostTransition request).worker = pipeline.worker ∧
      (pipeline.sendPostTransition request).owed = pipeline.owed ∧
      (pipeline.sendPostTransition request).trace = pipeline.trace := by
  unfold sendPostTransition
  split
  · exact ⟨⟨rfl, rfl, fun _ => id, rfl⟩, rfl, rfl, rfl⟩
  · exact ⟨⟨rfl, rfl, fun _ queued => BoundedQueue.mem_offerFront queued, rfl⟩, rfl, rfl, rfl⟩

private theorem Bookkept.transition (kept : Bookkept pipeline) (input : TransitionInput) :
    Bookkept (pipeline.takeTransition input) := by
  unfold takeTransition
  split
  · exact kept
  · next envelope rest taken =>
    have totals := @BoundedQueue.total_receive _ _ _ _ MissionCommandEnvelope.owed _ _ _ taken
    have left : owed { pipeline with transitionQueue := rest } + {owedFor envelope.request} =
        pipeline.owed := by
      unfold owed queued exporting
      dsimp only
      rw [totals]
      unfold MissionCommandEnvelope.owed
      abel
    dsimp only
    split
    · have executes := executes_command { pipeline with transitionQueue := rest } envelope input
      have within : owedFor envelope.request ∈ pipeline.owed := by
        rw [← left]
        exact Multiset.mem_add.mpr (Or.inr (Multiset.mem_singleton_self _))
      generalize executeCommand { pipeline with transitionQueue := rest } envelope input =
        executed at executes ⊢
      obtain ⟨outcome, executed⟩ := executed
      obtain ⟨transfers, worker, owed, trace⟩ := executes
      dsimp only at transfers worker owed trace ⊢
      -- The effect comes first, while the command is owed.
      obtain ⟨acted, bookkept, moved, holds, sameOwed, sameTrace⟩ :
          ∃ acted, Bookkept acted ∧ Transfers acted executed ∧ acted.worker = pipeline.worker ∧
            acted.owed = pipeline.owed ∧ executed.trace = acted.trace := by
        rcases trace with silent | effect
        · exact ⟨pipeline, kept, ⟨transfers.executor, transfers.parachute, transfers.paraQueue,
            transfers.applying⟩, rfl, rfl, silent⟩
        · exact ⟨_, kept.act within, ⟨transfers.executor, transfers.parachute,
            transfers.paraQueue, transfers.applying⟩, rfl, rfl,
            effect.trans (trace_effect rfl).symm⟩
      have filed : Filed executed.worker := worker ▸ kept.filed
      cases later : outcome.asynchronous with
      | true =>
          rw [later, if_pos rfl] at owed
          refine bookkept.transfer moved filed ?_ sameTrace
          rw [sameOwed, ← left, add_comm]
          exact owed
      | false =>
          rw [later, if_neg Bool.false_ne_true, zero_add] at owed
          rw [if_neg Bool.false_ne_true]
          obtain ⟨sends, worker, sentOwed, sentTrace⟩ :=
            sendPostTransition_transfers executed outcome.postTransitionPara
          have gone : owedFor envelope.request ::ₘ
              (executed.sendPostTransition outcome.postTransitionPara).owed ≤ acted.owed := by
            rw [sentOwed, sameOwed, ← left, add_comm, Multiset.singleton_add]
            exact (Multiset.cons_le_cons_iff _).mpr owed
          exact bookkept.answer (moved.trans sends) (worker ▸ filed) gone
            (sentTrace.trans sameTrace) outcome.reason 0
    · have lost : owed { pipeline with transitionQueue := rest } ≤ pipeline.owed := by
        rw [← left]
        exact Multiset.le_add_right _ _
      split
      · exact kept.transfer ⟨rfl, rfl, fun _ => id, rfl⟩ kept.filed lost rfl
      · refine kept.transfer ⟨rfl, rfl, fun _ => id, rfl⟩ kept.filed ?_ rfl
        rcases rest.total_offerFront MissionCommandEnvelope.owed envelope with back | same
        · rw [← left]
          unfold owed queued exporting
          dsimp only
          rw [back]
          apply le_of_eq
          unfold MissionCommandEnvelope.owed
          abel
        · refine le_trans (le_of_eq ?_) lost
          unfold owed queued
          dsimp only
          rw [same]
          rfl

private theorem Bookkept.calibration (kept : Bookkept pipeline) (input : CalibrationInput) :
    Bookkept (pipeline.finishCalibration input) := by
  unfold finishCalibration
  split
  · next active =>
    dsimp only
    split
    · have gone := @owed_cons pipeline { pipeline with
        realtime := { pipeline.realtime with
          preflightGyroBiasValid :=
            input.gyroBiasValid.getD pipeline.realtime.preflightGyroBiasValid
          gravityReferenceValid :=
            input.gravityReferenceValid.getD pipeline.realtime.gravityReferenceValid
          calibration := {} } } _ rfl rfl (MissionRealtime.owed_endCalibration active)
      refine kept.answer ?_ ?_ gone.le ?_ _ _
      · exact ⟨rfl, rfl, fun _ => id, rfl⟩
      · exact kept.filed
      · rfl
    · exact kept.transfer ⟨rfl, rfl, fun _ => id, rfl⟩ kept.filed le_rfl rfl
  · exact kept

/-- The block of a running fin move acts for the command it answers. -/
private theorem Bookkept.finMove (kept : Bookkept pipeline)
    (idle : pipeline.realtime.applying = none) (input : FinMoveInput) :
    Bookkept (pipeline.watchFinMove input) := by
  unfold watchFinMove
  split
  · next ends =>
    have within : (pipeline.realtime.pendingFinMove.transactionId, CommandDomain.fin) ∈
        pipeline.owed := by
      refine Multiset.mem_add.mpr (Or.inr ?_)
      rw [← MissionRealtime.owed_endFinMove idle ends.1]
      exact Multiset.mem_cons_self _ _
    have acted := kept.act within
    generalize (if input.reached = true then CommandFinMode.positionHold else .free) = mode
    dsimp only
    split
    · have gone := @owed_cons pipeline { pipeline.endFinMove mode with
        realtime := { (pipeline.endFinMove mode).realtime with pendingFinMove := {} } } _ rfl rfl
        (MissionRealtime.owed_endFinMove idle ends.1)
      refine acted.answer ?_ ?_ gone.le ?_ _ _
      · exact ⟨rfl, rfl, fun _ => id, rfl⟩
      · exact kept.filed
      · rfl
    · exact acted.transfer ⟨rfl, rfl, fun _ => id, rfl⟩ acted.filed le_rfl rfl
  · exact kept

/-! ### The emergency stop -/

/-- What a task that finishes transactions holds is in no domain the stop looks at, once the
running fin move has been given up. -/
private theorem domain_of_owed {held : Owed} (within : held ∈ pipeline.owed)
    (applying : pipeline.realtime.applying ≠ none) :
    held ∈ pipeline.queued ∨ (held.2 ≠ .fin ∧ held.2 ≠ .parachute) := by
  rcases Multiset.mem_add.mp within with elsewhere | realtime
  · rcases Multiset.mem_add.mp elsewhere with queued | exporting
    · exact Or.inl queued
    · right
      rcases Multiset.mem_add.mp exporting with requested | completed
      · obtain ⟨request, -, holds⟩ := BoundedQueue.mem_total requested
        rw [Multiset.mem_singleton.mp holds]
        exact ⟨nofun, nofun⟩
      · split at completed
        · rw [Multiset.mem_singleton.mp completed]
          exact ⟨nofun, nofun⟩
        · exact absurd completed (Multiset.notMem_zero _)
  · right
    unfold MissionRealtime.owed at realtime
    rw [if_neg fun both : pipeline.realtime.applying = none ∧ _ => applying both.1,
      add_zero] at realtime
    rcases Multiset.mem_add.mp realtime with starting | calibrating
    · split at starting
      · rw [Multiset.mem_singleton.mp starting]
        exact ⟨nofun, nofun⟩
      · exact absurd starting (Multiset.notMem_zero _)
    · split at calibrating
      · rw [Multiset.mem_singleton.mp calibrating]
        exact ⟨nofun, nofun⟩
      · exact absurd calibrating (Multiset.notMem_zero _)

/-- An accepted stop interrupts transactions that no one is bound to answer. -/
private theorem Bookkept.decide (kept : Bookkept pipeline)
    (idle : pipeline.realtime.applying = none) (transactionId : UInt8) (takesMutexes : Bool)
    (permitted : pipeline.Permitted (.realtime (.actuatorEmergency transactionId takesMutexes))) :
    Bookkept (pipeline.decideEmergency transactionId takesMutexes) := by
  have table := kept.executor.table
  cases takesMutexes with
  | false => exact kept
  | true =>
      have free : pipeline.AcceptsStop transactionId →
          ∀ held ∈ pipeline.queued, held.2 ≠ .fin ∧ held.2 ≠ .parachute :=
        fun accepts => permitted.resolve_left (not_not_intro accepts)
      unfold decideEmergency
      rw [if_pos rfl]
      have executor : ExecutorKept
          (pipeline.executor.actuatorEmergency transactionId pipeline.machine.snapshot.state).2 :=
        ⟨tableInvariant_actuatorEmergency table _ _, namesCommands_emergency kept.executor.names _ _⟩
      have accepted := @emergency_accepted pipeline.executor transactionId
        pipeline.machine.snapshot.state
      have interrupts := @pendingDomain_emergency pipeline.executor table transactionId
        pipeline.machine.snapshot.state
      have refused := @emergency_refused pipeline.executor transactionId
        pipeline.machine.snapshot.state
      generalize pipeline.executor.actuatorEmergency transactionId
        pipeline.machine.snapshot.state = decided at *
      obtain ⟨decision, later⟩ := decided
      dsimp only at *
      by_cases accepts : decision.execute = true
      · obtain ⟨nonzero, receiving⟩ := accepted accepts
        obtain ⟨distinct, domains, live⟩ := interrupts accepts
        rw [if_pos accepts]
        refine ⟨executor, kept.filed, ?_⟩
        have less : owed { pipeline with
            realtime := { pipeline.realtime with applying := some decision } } ≤ pipeline.owed :=
          add_le_add_right (MissionRealtime.owed_applying_le decision) _
        have relaxed : ({ pipeline.books with owed := owed { pipeline with
            realtime := { pipeline.realtime with applying := some decision } } } :
            Ledger UInt8 CommandDomain).Sound :=
          kept.sound.relaxed ⟨rfl, less, rfl, subset_rfl, rfl, rfl⟩
        have named : ∀ key ∈ decision.interrupted.map CommandResult.transactionId,
            pipeline.executor.pendingDomain key = some .fin ∨
              pipeline.executor.pendingDomain key = some .parachute := by
          intro key member
          obtain ⟨result, within, rfl⟩ := List.mem_map.mp member
          exact (domains result within).2
        have interrupted := relaxed.interrupted distinct
          (fun key member => by
            show pipeline.executor.pendingDomain key ≠ none
            rcases named key member with domain | domain <;> rw [domain] <;> exact nofun)
          (fun key member domain owes => by
            have backed : pipeline.executor.pendingDomain key = some domain :=
              relaxed.backed key domain owes
            have spared : domain ≠ .fin ∧ domain ≠ .parachute :=
              (domain_of_owed owes nofun).elim (free ⟨idle, nonzero, receiving⟩ (key, domain)) id
            rcases named key member with fin | parachute
            · exact spared.1 (Option.some.inj (backed.symm.trans fin))
            · exact spared.2 (Option.some.inj (backed.symm.trans parachute)))
        have nothing : pipeline.reporting = [] := by
          unfold reporting
          rw [idle]
        refine interrupted.relaxed ⟨live, le_rfl, rfl, subset_rfl, ?_, trace_record rfl⟩
        show _ = pipeline.reporting ++ _
        rw [nothing]
        rfl
      · rw [if_neg accepts, refused (Bool.eq_false_of_not_eq_true accepts), ← idle]
        exact kept.transfer ⟨rfl, rfl, fun _ => id, rfl⟩ kept.filed le_rfl (trace_record rfl)

/-- When a stop is applied, what it interrupted is reported and can no longer act. -/
private theorem Bookkept.apply (kept : Bookkept pipeline) {decision : EmergencyDecision}
    (applying : pipeline.realtime.applying = some decision)
    (permitted : pipeline.HoldsInTime) : Bookkept (pipeline.applyEmergency decision) := by
  have keys : pipeline.reporting = decision.interrupted.map CommandResult.transactionId := by
    unfold reporting
    rw [applying]
  refine ⟨kept.executor, kept.filed, kept.sound.move (.report rfl ?_ rfl ?_ rfl ?_)⟩
  · show owed _ = pipeline.owed
    unfold owed MissionRealtime.owed
    rw [applying]
    rfl
  · intro transactionId member
    have before : transactionId ∈ pipeline.armed :=
      @armed_subset pipeline (pipeline.applyEmergency decision) rfl
        (fun _ queued => BoundedQueue.mem_offerFront queued) transactionId member
    refine ⟨before, fun reported => ?_⟩
    obtain ⟨drains, room⟩ :=
      (permitted transactionId reported).resolve_left (not_not_intro before)
    rcases member with starting | ⟨-, -, stays⟩
    · have starting : transactionId ∈ pipeline.parachute.phase.lent := starting
      cases phase : pipeline.parachute.phase with
      | starting =>
          rw [phase] at drains
          cases drains
      | flushing | responding | draining | taking | driving | monitoring =>
          rw [phase] at starting
          exact absurd starting (Multiset.notMem_zero _)
    · have drops : dropsOperation (pipeline.applyEmergency decision) = true := by
        unfold dropsOperation
        rw [Bool.and_eq_true, List.any_eq_true]
        refine ⟨drains, { kind := .hold }, ?_, rfl⟩
        show _ ∈ (pipeline.paraQueue.offerFront { kind := .hold }).items
        rw [BoundedQueue.items_offerFront_of_room room]
        exact List.mem_cons_self
      rw [drops] at stays
      cases stays
  · show trace _ = pipeline.trace ++ [.interrupted pipeline.reporting]
    rw [keys]
    unfold applyEmergency trace record
    rw [List.filterMap_append]
    rfl

/-! ### The other steps -/

/-- More requests in `para_queue`. -/
private theorem Bookkept.offers (kept : Bookkept pipeline) {queue : BoundedQueue ParaRequest 4}
    (offered : ∀ request ∈ pipeline.paraQueue.items, request ∈ queue.items) :
    Bookkept { pipeline with paraQueue := queue } :=
  kept.transfer ⟨rfl, rfl, offered, rfl⟩ kept.filed le_rfl rfl

private theorem Bookkept.liftoffEmergency (kept : Bookkept pipeline) (transactionId : UInt8)
    (takesMutexes : Bool) : Bookkept (pipeline.liftoffEmergency transactionId takesMutexes) := by
  unfold CommandPipeline.liftoffEmergency
  split
  · dsimp only
    generalize pipeline.machine.liftoffDetectionEmergencyStop = stopped
    have answered := @trace_record { pipeline with machine := stopped.2 }
      (.emergencyAnswered (CommandExecutor.liftoffEmergencyResult transactionId
        (stopped.1 == TransitionResult.completed))) rfl
    split
    · exact kept.transfer ⟨rfl, rfl, fun _ => id, rfl⟩ kept.filed le_rfl
        ((trace_record rfl).trans answered)
    · exact kept.transfer ⟨rfl, rfl, fun _ => id, rfl⟩ kept.filed le_rfl answered
  · exact kept

private theorem Bookkept.announceCutoff (kept : Bookkept pipeline) :
    Bookkept pipeline.announceCutoff := by
  unfold CommandPipeline.announceCutoff
  dsimp only
  have offered : ∀ request : ParaRequest, ∀ other ∈ pipeline.paraQueue.items,
      other ∈ (pipeline.paraQueue.offer request).items :=
    fun request other queued => BoundedQueue.mem_offer queued
  split
  · split
    · exact kept.transfer ⟨rfl, rfl, offered _, rfl⟩ kept.filed le_rfl rfl
    · exact kept.transfer ⟨rfl, rfl, fun _ => id, rfl⟩ kept.filed le_rfl rfl
  · split
    · exact kept.transfer ⟨rfl, rfl, offered _, rfl⟩ kept.filed le_rfl rfl
    · exact kept

private theorem Bookkept.announceDeployment (kept : Bookkept pipeline) :
    Bookkept pipeline.announceDeployment := by
  unfold CommandPipeline.announceDeployment
  dsimp only
  split
  · exact kept.transfer ⟨rfl, rfl, fun _ => id, rfl⟩ kept.filed le_rfl rfl
  split
  · exact kept
  split
  · exact kept
  · next queue sent =>
    refine kept.transfer ⟨rfl, rfl, ?_, rfl⟩ kept.filed le_rfl rfl
    intro request queued
    show request ∈ queue.items
    rw [BoundedQueue.items_send sent]
    exact List.mem_append_left _ queued

/-- Every step of `missionRealtimeTask` between two stops keeps the books. -/
private theorem Bookkept.stepRealtime (kept : Bookkept pipeline)
    (idle : pipeline.realtime.applying = none) (step : RealtimeStep)
    (permitted : pipeline.Permitted (.realtime step)) : Bookkept (pipeline.stepRealtime step) := by
  cases step with
  | actuatorEmergency transactionId takesMutexes =>
      exact kept.decide idle transactionId takesMutexes permitted
  | signalEmergency => exact kept.transfer ⟨rfl, rfl, fun _ => id, rfl⟩ kept.filed le_rfl rfl
  | liftoffEmergency transactionId takesMutexes =>
      exact kept.liftoffEmergency transactionId takesMutexes
  | startResponse input => exact kept.startResponse input
  | transition input => exact kept.transition input
  | observeFin angleRad validSample =>
      exact kept.transfer ⟨rfl, rfl, fun _ => id, rfl⟩ kept.filed le_rfl rfl
  | finishCalibration input => exact kept.calibration input
  | holdAutomatically receiving observationValid =>
      show Bookkept (pipeline.holdAutomatically receiving observationValid)
      unfold CommandPipeline.holdAutomatically
      split
      · exact kept.transfer ⟨rfl, rfl, fun _ => id, rfl⟩ kept.filed le_rfl rfl
      · exact kept
  | watchFinMove input => exact kept.finMove idle input
  | tick input takesState rtcNowUs =>
      show Bookkept (pipeline.tick input takesState rtcNowUs)
      unfold CommandPipeline.tick
      dsimp only
      generalize pipeline.machine.tick pipeline.guard input {} = ticked
      split
      · exact kept.transfer ⟨rfl, rfl, fun _ => id, rfl⟩ kept.filed le_rfl rfl
      · exact kept
  | refreshCache takesState =>
      show Bookkept (pipeline.refreshCache takesState)
      unfold CommandPipeline.refreshCache
      split
      · exact kept.transfer ⟨rfl, rfl, fun _ => id, rfl⟩ kept.filed le_rfl rfl
      · exact kept
  | announceCutoff => exact kept.announceCutoff
  | announceDeployment => exact kept.announceDeployment

private theorem Bookkept.finishExport (kept : Bookkept pipeline) (input : StorageInput) :
    Bookkept (pipeline.finishExport input) := by
  unfold CommandPipeline.finishExport
  split
  · next pending =>
    have gone : (pipeline.exportCompletion.transactionId, CommandDomain.storage) ::ₘ
        owed { pipeline with exportCompletion := {} } = pipeline.owed := by
      unfold owed exporting
      dsimp only
      rw [if_pos pending.1, if_neg Bool.false_ne_true, ← Multiset.singleton_add]
      unfold queued
      dsimp only
      abel
    refine kept.answer ?_ ?_ gone.le ?_ _ _
    · exact ⟨rfl, rfl, fun _ => id, rfl⟩
    · exact kept.filed
    · rfl
  · exact kept

private theorem Bookkept.takeExport (kept : Bookkept pipeline) (input : StorageInput) :
    Bookkept (pipeline.takeExport input) := by
  unfold CommandPipeline.takeExport
  split
  · exact kept
  · next idle =>
    split
    · exact kept
    · next request rest taken =>
      have totals := @BoundedQueue.total_receive _ _ _ _ StorageExportRequest.owed _ _ _ taken
      refine kept.transfer ⟨rfl, rfl, fun _ => id, rfl⟩ kept.filed (le_of_eq ?_) rfl
      unfold owed exporting queued
      dsimp only
      rw [if_pos rfl, if_neg idle, totals]
      unfold StorageExportRequest.owed
      abel

/-- `safetyTask` only adds requests to `para_queue`. -/
private theorem Bookkept.effects (kept : Bookkept pipeline) (effects : List SafetyEffect) :
    Bookkept (effects.foldl applySafetyEffect pipeline) := by
  induction effects generalizing pipeline with
  | nil => exact kept
  | cons effect rest inductionHypothesis =>
      refine inductionHypothesis ?_
      unfold applySafetyEffect
      split
      · exact kept.offers fun _ queued => BoundedQueue.mem_offerFront queued
      · exact kept.offers fun _ queued => BoundedQueue.mem_offer queued
      · exact kept

private theorem Bookkept.safety (kept : Bookkept pipeline) (input : SafetyInput) :
    Bookkept (pipeline.stepSafety input) := by
  unfold stepSafety
  split
  · exact kept.transfer ⟨rfl, rfl, fun _ => id, rfl⟩ kept.filed le_rfl rfl
  · refine Bookkept.effects ?_ _
    exact kept.transfer ⟨rfl, rfl, fun _ => id, rfl⟩ kept.filed le_rfl rfl

/-- Every step of a task other than `parachuteTask` keeps the books. -/
theorem Bookkept.others (kept : Bookkept pipeline) {label : CommandLabel}
    (permitted : pipeline.Permitted label) (other : ∀ input, label ≠ .parachute input) :
    Bookkept (pipeline.step label) := by
  cases label with
  | worker input => exact kept.worker input permitted
  | realtime step =>
      unfold CommandPipeline.step
      dsimp only
      split
      · exact kept
      · next idle => exact kept.stepRealtime (Option.not_isSome_iff_eq_none.mp idle) step permitted
  | applyEmergency =>
      unfold CommandPipeline.step
      dsimp only
      split
      · exact kept
      · next decision applying => exact kept.apply applying permitted
  | parachute input => exact absurd rfl (other input)
  | finishExport input => exact kept.finishExport input
  | takeExport input => exact kept.takeExport input
  | safety input => exact kept.safety input

end Step

end CommandPipeline

end MissionBoard.Runtime
