import Mathlib.Tactic.Abel
import MissionBoard.Library.TransactionLedger
import MissionBoard.Mission.PendingTransactions
import MissionBoard.Runtime.CommandRun

/-!
Owns the books the tasks keep together: which task holds which transaction, read off the
pipeline as a ledger, and what each part of a step does to them.

A command that the worker, `missionRealtimeTask`, a queue or `sdLogTask` holds is owed: its
holder answers it without asking whether it still stands. A command that `parachuteTask`
has taken is lent: its answer is sent only while the transaction stands. It is armed
until its relative move is issued, unless a request to drop it is on its way.
-/

namespace MissionBoard.Runtime

open Protocol Control Mission
open TransactionLedger

/-- What the ledger sees of an event. -/
def ledgerEvent : PipelineEvent → Option (Event UInt8)
  | .accepted request => some (.accepted request.transactionId)
  | .answered result =>
      if result.phase = .completed ∨ result.phase = .failed then some (.terminal result.transactionId)
      else none
  | .emergencyApplied interrupted =>
      some (.interrupted (interrupted.map CommandResult.transactionId))
  | .finActuated transactionId | .parachuteMoved transactionId => some (.effect transactionId)
  | .replayed _ | .emergencyAnswered _ | .automaticMoved _ | .epochEntered _ | .rebooted _ => none

/-- A transaction with its domain. -/
abbrev Owed := UInt8 × CommandDomain

/-- The transaction of a request. -/
def owedFor (request : GenericCommandRequest) : Owed :=
  (request.transactionId, domainFor (codeOf request))

/-- What the worker holds. -/
def CommandWorker.owed : CommandWorker → Multiset Owed
  | .begun envelope => {owedFor envelope.request}
  | .unqueued request => {owedFor request}
  | .waiting | .prepared _ _ => 0

/-- What an envelope of `transition_queue` holds. -/
def MissionCommandEnvelope.owed (envelope : MissionCommandEnvelope) : Multiset Owed :=
  {owedFor envelope.request}

/-- What a request of `parachute_command_queue` holds; a preparation answers to no one. -/
def ParachuteCommandRequest.owed (request : ParachuteCommandRequest) : Multiset Owed :=
  match request.kind with
  | .generic => {owedFor request.command}
  | .startPreparation => 0

/-- What a request of `storage_export_queue` holds. -/
def StorageExportRequest.owed (request : StorageExportRequest) : Multiset Owed :=
  {(request.transactionId, .storage)}

/-- What `missionRealtimeTask` holds. A fin move ends with the emergency stop that is being
applied. -/
def MissionRealtime.owed (realtime : MissionRealtime) : Multiset Owed :=
  (if realtime.startPreparationPending then
    {(realtime.pendingStart.request.transactionId, CommandDomain.sequence)} else 0) +
  (if realtime.calibration.active then
    {(realtime.calibration.transactionId, CommandDomain.calibration)} else 0) +
  (if realtime.applying = none ∧ realtime.pendingFinMove.active then
    {(realtime.pendingFinMove.transactionId, CommandDomain.fin)} else 0)

namespace MissionRealtime

variable {realtime : MissionRealtime}

/-- A start that is answered is no longer owed. -/
theorem owed_endStart (pending : realtime.startPreparationPending = true) :
    (realtime.pendingStart.request.transactionId, CommandDomain.sequence) ::ₘ
        { realtime with startPreparationPending := false }.owed = realtime.owed := by
  unfold owed
  dsimp only
  rw [if_pos pending, ← Multiset.singleton_add, if_neg Bool.false_ne_true]
  abel

/-- A calibration that is answered is no longer owed. -/
theorem owed_endCalibration (active : realtime.calibration.active = true) :
    (realtime.calibration.transactionId, CommandDomain.calibration) ::ₘ
        { realtime with calibration := {} }.owed = realtime.owed := by
  unfold owed
  dsimp only
  rw [if_pos active, ← Multiset.singleton_add, if_neg Bool.false_ne_true]
  abel

/-- A fin move that is answered is no longer owed. -/
theorem owed_endFinMove (idle : realtime.applying = none)
    (active : realtime.pendingFinMove.active = true) :
    (realtime.pendingFinMove.transactionId, CommandDomain.fin) ::ₘ
        { realtime with pendingFinMove := {} }.owed = realtime.owed := by
  unfold owed
  dsimp only
  rw [if_pos (And.intro idle active), ← Multiset.singleton_add,
    if_neg fun both : realtime.applying = none ∧ false = true => nomatch both.2]
  abel

/-- Nothing is owed for a fin move that is given up. -/
theorem owed_dropFinMove_le : { realtime with pendingFinMove := {} }.owed ≤ realtime.owed := by
  unfold owed
  dsimp only
  rw [if_neg fun both : realtime.applying = none ∧ false = true => nomatch both.2]
  exact add_le_add_right (Multiset.zero_le _) _

/-- A running fin move is given up when an emergency stop is accepted. -/
theorem owed_applying_le (decision : EmergencyDecision) :
    { realtime with applying := some decision }.owed ≤ realtime.owed := by
  unfold owed
  dsimp only
  rw [if_neg fun both : some decision = none ∧ realtime.pendingFinMove.active = true =>
    nomatch both.1]
  exact add_le_add_right (Multiset.zero_le _) _

/-- A fin move that begins is owed, in place of the one before it. -/
theorem owed_beginFinMove_le (transactionId : UInt8) :
    { realtime with
      pendingFinMove := { active := true, transactionId := transactionId } }.owed ≤
      {(transactionId, CommandDomain.fin)} + realtime.owed := by
  unfold owed
  dsimp only
  rw [add_comm]
  apply add_le_add
  · split
    · exact le_rfl
    · exact Multiset.zero_le _
  · exact Multiset.le_add_right _ _

/-- A calibration that begins is owed, in place of the one before it. -/
theorem owed_beginCalibration_le (transactionId : UInt8) :
    { realtime with
      calibration := { active := true, transactionId := transactionId } }.owed ≤
      {(transactionId, CommandDomain.calibration)} + realtime.owed := by
  unfold owed
  dsimp only
  rw [if_pos rfl, add_comm _ {(transactionId, CommandDomain.calibration)}, add_assoc]
  refine add_le_add_right (add_le_add_left ?_ _) _
  exact Multiset.le_add_right _ _

/-- A start that begins is owed, in place of the one before it. -/
theorem owed_beginStart_le (start : MissionCommandEnvelope) :
    { realtime with pendingStart := start, startPreparationPending := true }.owed ≤
      {(start.request.transactionId, CommandDomain.sequence)} + realtime.owed := by
  unfold owed
  dsimp only
  rw [if_pos rfl, add_assoc]
  refine add_le_add_right ?_ _
  rw [add_assoc]
  exact Multiset.le_add_left _ _

end MissionRealtime

/-- The transaction of a running or pending operation. -/
def MotionOperation.lent (operation : MotionOperation) : Multiset UInt8 :=
  if operation.pendingStart ∨ operation.active ∧ operation.automatic = false then
    {operation.transactionId}
  else 0

/-- The transaction between the two halves of a pending start. -/
def ParachutePhase.lent : ParachutePhase → Multiset UInt8
  | .starting transactionId _ => {transactionId}
  | _ => 0

/-- The transaction of a completion. -/
def CommandCompletion.lent (completion : CommandCompletion) : Multiset UInt8 :=
  if completion.pending then {completion.transactionId} else 0

/-- What `parachuteTask` has taken. -/
def ParachuteTask.lent (task : ParachuteTask) : Multiset UInt8 :=
  task.phase.lent + task.operation.lent + task.completion.lent

/-- The task is before the end of the loop that empties `para_queue`. -/
def ParachutePhase.drains : ParachutePhase → Bool
  | .flushing | .responding | .draining => true
  | _ => false

/-- The request ends the operation. -/
def ParaRequest.drops (request : ParaRequest) : Bool := request.kind != .open

namespace CommandPipeline

/-- What is not with a task that finishes it: the commands that the worker holds and the two
command queues. -/
def queued (pipeline : CommandPipeline) : Multiset Owed :=
  pipeline.worker.owed + pipeline.transitionQueue.total MissionCommandEnvelope.owed +
    pipeline.parachuteCommandQueue.total ParachuteCommandRequest.owed

/-- What `sdLogTask` and its queue hold. -/
def exporting (pipeline : CommandPipeline) : Multiset Owed :=
  pipeline.storageExportQueue.total StorageExportRequest.owed +
    (if pipeline.exportCompletion.pending then
      {(pipeline.exportCompletion.transactionId, CommandDomain.storage)} else 0)

/-- Every transaction that a task is bound to answer. -/
def owed (pipeline : CommandPipeline) : Multiset Owed :=
  pipeline.queued + pipeline.exporting + pipeline.realtime.owed

/-- `missionRealtimeTask` gives up what it owed. -/
theorem owed_cons {pipeline next : CommandPipeline} {held : Owed}
    (queued : next.queued = pipeline.queued) (exporting : next.exporting = pipeline.exporting)
    (realtime : held ::ₘ next.realtime.owed = pipeline.realtime.owed) :
    held ::ₘ next.owed = pipeline.owed := by
  unfold owed
  rw [queued, exporting, ← realtime, Multiset.add_cons]

/-- A request that ends the operation is met before the operation starts. -/
def dropsOperation (pipeline : CommandPipeline) : Bool :=
  pipeline.parachute.phase.drains && pipeline.paraQueue.items.any ParaRequest.drops

/-- The transactions whose relative move `parachuteTask` is about to issue. -/
def armed (pipeline : CommandPipeline) : Set UInt8 :=
  { transactionId | transactionId ∈ pipeline.parachute.phase.lent ∨
    (pipeline.parachute.operation.pendingStart = true ∧
      pipeline.parachute.operation.transactionId = transactionId ∧
      pipeline.dropsOperation = false) }

/-- The transactions of the emergency stop that is being applied. -/
def reporting (pipeline : CommandPipeline) : List UInt8 :=
  match pipeline.realtime.applying with
  | none => []
  | some decision => decision.interrupted.map CommandResult.transactionId

/-- The trace of the log. -/
def trace (pipeline : CommandPipeline) : List (Event UInt8) := pipeline.log.filterMap ledgerEvent

/-- The books. -/
def books (pipeline : CommandPipeline) : Ledger UInt8 CommandDomain where
  live := pipeline.executor.pendingDomain
  owed := pipeline.owed
  lent := pipeline.parachute.lent
  armed := pipeline.armed
  reporting := pipeline.reporting
  trace := pipeline.trace

/-! ### What a step does to the books -/

section Books

variable {pipeline : CommandPipeline}

/-- A command is finished as completed or as failed. -/
theorem phaseFor_terminal (reason : CommandReason) :
    phaseFor reason = .completed ∨ phaseFor reason = .failed := by
  unfold phaseFor
  split
  · exact Or.inl rfl
  · exact Or.inr rfl

/-- An answer that settles a transaction ends it on the books. -/
theorem books_settle (table : TableInvariant pipeline.executor) (transactionId : UInt8)
    (reason : CommandReason) (detail : UInt32) :
    (pipeline.settle transactionId reason detail).books =
      { pipeline.books with
        live := Function.update pipeline.books.live transactionId none
        trace := pipeline.books.trace ++ [.terminal transactionId] } := by
  have terminal := phaseFor_terminal reason
  have ends := CommandExecutor.pendingDomain_finish table pipeline.guard transactionId reason
    detail terminal
  obtain ⟨named, phase, -⟩ :=
    CommandExecutor.finish_result table pipeline.guard transactionId reason detail terminal
  have logged : (pipeline.settle transactionId reason detail).trace =
      pipeline.trace ++ [.terminal transactionId] := by
    unfold settle record trace finishCommand
    dsimp only
    rw [List.filterMap_append]
    unfold ledgerEvent
    simp only [List.filterMap_cons, if_pos phase, named, List.filterMap_nil]
  unfold books
  rw [logged]
  congr 1

/-- A transaction that is owed to be answered is answered. -/
theorem sound_settle (table : TableInvariant pipeline.executor) {transactionId : UInt8}
    {domain : CommandDomain} (reason : CommandReason) (detail : UInt32)
    (sound : ({ pipeline.books with
      owed := (transactionId, domain) ::ₘ pipeline.owed } : Ledger _ _).Sound) :
    (pipeline.settle transactionId reason detail).books.Sound := by
  rw [books_settle table]
  exact sound.move (.settle transactionId domain rfl rfl rfl rfl rfl rfl)

/-- The two pipelines differ in nothing the books read but in who owes what, in requests
added to `para_queue` and in the log. -/
structure Transfers (pipeline next : CommandPipeline) : Prop where
  executor : next.executor = pipeline.executor
  parachute : next.parachute = pipeline.parachute
  paraQueue : ∀ request ∈ pipeline.paraQueue.items, request ∈ next.paraQueue.items
  applying : next.realtime.applying = pipeline.realtime.applying

theorem Transfers.trans {middle next : CommandPipeline} (before : Transfers pipeline middle)
    (after : Transfers middle next) : Transfers pipeline next :=
  ⟨after.executor.trans before.executor, after.parachute.trans before.parachute,
    fun request queued => after.paraQueue request (before.paraQueue request queued),
    after.applying.trans before.applying⟩

/-- More requests in `para_queue` arm nothing. -/
theorem armed_subset {next : CommandPipeline} (parachute : next.parachute = pipeline.parachute)
    (paraQueue : ∀ request ∈ pipeline.paraQueue.items, request ∈ next.paraQueue.items) :
    next.armed ⊆ pipeline.armed := by
  unfold armed
  rw [parachute]
  rintro transactionId (starting | ⟨pending, same, stays⟩)
  · exact Or.inl starting
  · refine Or.inr ⟨pending, same, ?_⟩
    unfold dropsOperation at stays ⊢
    rw [parachute, Bool.and_eq_false_iff] at stays
    rw [Bool.and_eq_false_iff]
    refine stays.imp_right fun nothing => ?_
    rw [List.any_eq_false] at nothing ⊢
    exact fun request queued => nothing request (paraQueue request queued)

theorem Transfers.relaxes {next : CommandPipeline} (transfers : Transfers pipeline next)
    {owing : Multiset Owed} {logged : List (Event UInt8)} (owed : next.owed ≤ owing)
    (trace : next.trace = logged) :
    Ledger.Relaxes { pipeline.books with owed := owing, trace := logged } next.books := by
  refine ⟨congrArg CommandExecutor.pendingDomain transfers.executor, owed,
    congrArg ParachuteTask.lent transfers.parachute, ?_, ?_, trace⟩
  · exact armed_subset transfers.parachute transfers.paraQueue
  · show next.reporting = pipeline.reporting
    unfold reporting
    rw [transfers.applying]

/-- An event the ledger does not see. -/
theorem trace_record {event : PipelineEvent} (unseen : ledgerEvent event = none) :
    (pipeline.record event).trace = pipeline.trace := by
  unfold trace record
  dsimp only
  rw [List.filterMap_append]
  simp [unseen]

/-- An effect of a command. -/
theorem trace_effect {event : PipelineEvent} {transactionId : UInt8}
    (seen : ledgerEvent event = some (.effect transactionId)) :
    (pipeline.record event).trace = pipeline.trace ++ [.effect transactionId] := by
  unfold trace record
  dsimp only
  rw [List.filterMap_append]
  simp [seen]

end Books

end CommandPipeline

end MissionBoard.Runtime
