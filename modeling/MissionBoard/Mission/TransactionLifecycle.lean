import MissionBoard.Mission.PendingTransactions
import MissionBoard.Mission.StartExclusivity

/-!
Owns the life of one transaction in the executor: from the call that accepts it to
the call that settles it, and what a later `finish` of it does. Ids are reused, so a
transaction ends for good only until its id is accepted anew.
-/

namespace MissionBoard.Mission

open Protocol Control

/-- A call that ends a pending transaction of the domain: a terminal `finish` of its
id, or an accepted emergency stop when it belongs to the fin or the parachute. -/
def ExecutorCall.Settles (transactionId : UInt8) (domain : CommandDomain) : ExecutorCall → Prop
  | .begin _ _ _ => False
  | .finish _ finished phase _ _ =>
      finished = transactionId ∧ (phase = .completed ∨ phase = .failed)
  | .actuatorEmergency emergency state =>
      emergency ≠ 0 ∧ state = .commandReceive ∧ (domain = .fin ∨ domain = .parachute)

namespace CommandExecutor

/-- The call accepts a transaction under the id. -/
def Restarts (transactionId : UInt8) (executor : CommandExecutor) (call : ExecutorCall) : Prop :=
  match call with
  | .begin guard request context =>
      request.transactionId = transactionId ∧
        (executor.begin guard request context).1.execute = true
  | _ => False

theorem tableInvariant_after (calls : List ExecutorCall) {executor : CommandExecutor}
    (table : TableInvariant executor) : TableInvariant (Run.after step executor calls) := by
  have preserved : ∀ (state : CommandExecutor) (call : ExecutorCall), TableInvariant state →
      True → TableInvariant (state.step call) := fun state call holds _ =>
    tableInvariant_step holds call
  exact Run.invariant_after preserved table (Run.along_of_forall (fun _ _ => trivial) executor calls)

/-! ### A pending transaction stays pending -/

/-- The kind of the entries that hold a request the executor has accepted. -/
def acceptedKind (request : GenericCommandRequest) (entry : Entry) : Prop :=
  entry.request = request ∧ entry.result.command = request.command

theorem pending_of_accepted {executor : CommandExecutor} (table : TableInvariant executor)
    {guard : FinOvertravelGuard} {request : GenericCommandRequest} {context : CommandContext}
    (accepts : (executor.begin guard request context).1.execute = true) :
    (executor.begin guard request context).2.1.Pending (acceptedKind request) := by
  have outcome := executor.beginOutcome guard request context
  generalize executor.begin guard request context = next at outcome accepts ⊢
  cases outcome with
  | answered refuses =>
      rw [refuses] at accepts
      cases accepts
  | rejected => cases accepts
  | accepted nonzero fresh => exact (pending_remember table).mpr (Or.inl ⟨rfl, rfl, rfl⟩)

/-- Finishing one transaction leaves the others pending. -/
private theorem pending_finish_other {executor : CommandExecutor} {guard : FinOvertravelGuard}
    {transactionId : UInt8} {phase : CommandPhase} {reason : CommandReason} {detail : UInt32}
    {kind : Entry → Prop} (pending : executor.Pending kind)
    (other : ∀ entry, kind entry →
      ¬ (transactionId = entry.request.transactionId ∧ (phase = .completed ∨ phase = .failed))) :
    (executor.finish guard transactionId phase reason detail).2.1.Pending kind := by
  have outcome := executor.finishOutcome guard transactionId phase reason detail
  generalize executor.finish guard transactionId phase reason detail = next at outcome ⊢
  cases outcome with
  | refused => exact pending
  | finished finished found isPending terminal =>
      obtain ⟨slot, valid, slotPending, isKind⟩ := pending
      have differs : slot ≠ finished := by
        rintro rfl
        have same := (transactionKey_eq_some.mp (transactionKey_of_find found)).2
        exact other _ isKind ⟨same.symm, terminal⟩
      refine ⟨slot, ?_⟩
      dsimp only
      rw [Function.update_of_ne differs]
      exact ⟨valid, slotPending, isKind⟩

/-- An emergency stop leaves the transactions of the other domains pending. -/
private theorem pending_emergency_other {executor : CommandExecutor} {transactionId : UInt8}
    {state : MissionState} {kind : Entry → Prop} (pending : executor.Pending kind)
    (other : ∀ entry, kind entry → ¬ (transactionId ≠ 0 ∧ state = .commandReceive ∧
      (entry.domain = .fin ∨ entry.domain = .parachute))) :
    (executor.actuatorEmergency transactionId state).2.Pending kind := by
  have outcome := executor.emergencyOutcome transactionId state
  generalize executor.actuatorEmergency transactionId state = next at outcome ⊢
  cases outcome with
  | refused => exact pending
  | accepted nonzero receiving executes interrupts results =>
      obtain ⟨ages, entries⟩ := interrupts
      obtain ⟨slot, valid, slotPending, isKind⟩ := pending
      have untouched : ¬ interruptible (executor.entries slot) = true := by
        intro broken
        unfold interruptible at broken
        rw [Bool.and_eq_true, Bool.or_eq_true, beq_iff_eq, beq_iff_eq] at broken
        exact other _ isKind ⟨nonzero, receiving, broken.2⟩
      refine ⟨slot, ?_⟩
      dsimp only
      rw [entries, if_neg untouched]
      exact ⟨valid, slotPending, isKind⟩

/-- A call that does not settle a pending transaction leaves it pending. -/
theorem pending_step {executor : CommandExecutor} (table : TableInvariant executor)
    {request : GenericCommandRequest} {call : ExecutorCall}
    (pending : executor.Pending (acceptedKind request))
    (spares : ¬ call.Settles request.transactionId (domainFor (codeOf request))) :
    (executor.step call).Pending (acceptedKind request) := by
  cases call with
  | begin guard other context =>
      have outcome := executor.beginOutcome guard other context
      unfold step
      dsimp only
      generalize executor.begin guard other context = next at outcome ⊢
      cases outcome with
      | answered => exact pending
      | rejected => exact (pending_remember table).mpr (Or.inr pending)
      | accepted => exact (pending_remember table).mpr (Or.inr pending)
  | finish guard transactionId phase reason detail =>
      apply pending_finish_other pending
      rintro entry ⟨same, -⟩ ⟨named, terminal⟩
      rw [same] at named
      exact spares ⟨named, terminal⟩
  | actuatorEmergency transactionId state =>
      -- The domain of an entry is read off its request, so the kind is strengthened first.
      have filed : executor.Pending fun entry =>
          acceptedKind request entry ∧ entry.domain = domainFor (codeOf request) := by
        obtain ⟨slot, valid, slotPending, isKind⟩ := pending
        refine ⟨slot, valid, slotPending, isKind, ?_⟩
        rw [table.filed slot valid, isKind.1]
      have other : ∀ entry : Entry,
          (acceptedKind request entry ∧ entry.domain = domainFor (codeOf request)) →
            ¬ (transactionId ≠ 0 ∧ state = .commandReceive ∧
              (entry.domain = .fin ∨ entry.domain = .parachute)) := by
        rintro entry ⟨-, files⟩ ⟨nonzero, receiving, domain⟩
        rw [files] at domain
        exact spares ⟨nonzero, receiving, domain⟩
      obtain ⟨slot, valid, slotPending, isKind, -⟩ := pending_emergency_other filed other
      exact ⟨slot, valid, slotPending, isKind⟩

/-- Along calls that do not settle it, a pending transaction stays pending. -/
theorem pending_after {executor : CommandExecutor} (table : TableInvariant executor)
    {request : GenericCommandRequest} (pending : executor.Pending (acceptedKind request))
    {calls : List ExecutorCall}
    (spares : Run.Along step (fun _ call =>
      ¬ call.Settles request.transactionId (domainFor (codeOf request))) executor calls) :
    (Run.after step executor calls).Pending (acceptedKind request) := by
  have preserved : ∀ (state : CommandExecutor) (call : ExecutorCall),
      TableInvariant state ∧ state.Pending (acceptedKind request) →
      ¬ call.Settles request.transactionId (domainFor (codeOf request)) →
      TableInvariant (state.step call) ∧ (state.step call).Pending (acceptedKind request) :=
    fun state call holds spared =>
      ⟨tableInvariant_step holds.1 call, pending_step holds.1 holds.2 spared⟩
  exact (Run.invariant_after preserved ⟨table, pending⟩ spares).2

/-! ### A settled transaction stays settled -/

/-- An id that is not pending becomes pending only when it is accepted. -/
theorem stopped_step {executor : CommandExecutor} (table : TableInvariant executor)
    {transactionId : UInt8} {call : ExecutorCall}
    (stopped : executor.pendingDomain transactionId = none)
    (spares : ¬ Restarts transactionId executor call) :
    (executor.step call).pendingDomain transactionId = none := by
  cases call with
  | begin guard request context =>
      unfold step
      dsimp only
      cases accepts : (executor.begin guard request context).1.execute with
      | false =>
          rw [pendingDomain_begin_refused table accepts]
          exact stopped
      | true =>
          rw [(pendingDomain_begin_accepted table accepts).2.2]
          have differs : transactionId ≠ request.transactionId := fun same =>
            spares ⟨same.symm, accepts⟩
          rw [Function.update_of_ne differs]
          exact stopped
  | finish guard finished phase reason detail =>
      rw [pendingDomain_eq_none (tableInvariant_step table _)]
      rw [pendingDomain_eq_none table] at stopped
      exact fun pending => stopped (pending_of_finish pending)
  | actuatorEmergency emergency state =>
      rw [pendingDomain_eq_none (tableInvariant_step table _)]
      rw [pendingDomain_eq_none table] at stopped
      exact fun pending => stopped (pending_of_actuatorEmergency pending)

/-- Along calls that do not accept it anew, a settled id stays settled. -/
theorem stopped_after {executor : CommandExecutor} (table : TableInvariant executor)
    {transactionId : UInt8} (stopped : executor.pendingDomain transactionId = none)
    {calls : List ExecutorCall}
    (spares : Run.Along step (fun state call => ¬ Restarts transactionId state call) executor
      calls) :
    (Run.after step executor calls).pendingDomain transactionId = none := by
  have preserved : ∀ (state : CommandExecutor) (call : ExecutorCall),
      TableInvariant state ∧ state.pendingDomain transactionId = none →
      ¬ Restarts transactionId state call →
      TableInvariant (state.step call) ∧ (state.step call).pendingDomain transactionId = none :=
    fun state call holds spared =>
      ⟨tableInvariant_step holds.1 call, stopped_step holds.1 holds.2 spared⟩
  exact (Run.invariant_after preserved ⟨table, stopped⟩ spares).2

/-! ### Finishing -/

/-- The result of a refused `finish`. -/
def refusedResult (transactionId : UInt8) (detail : UInt32) : CommandResult where
  transactionId := transactionId
  command := 0
  phase := .failed
  reason := .internalError
  detail := detail

/-- A `finish` of an id that is not pending is refused and changes nothing. -/
theorem finish_of_stopped {executor : CommandExecutor} {transactionId : UInt8}
    (stopped : executor.pendingDomain transactionId = none) (guard : FinOvertravelGuard)
    (phase : CommandPhase) (reason : CommandReason) (detail : UInt32) :
    executor.finish guard transactionId phase reason detail =
      (refusedResult transactionId detail, executor, guard) := by
  have outcome := executor.finishOutcome guard transactionId phase reason detail
  generalize executor.finish guard transactionId phase reason detail = next at outcome ⊢
  cases outcome with
  | refused => rfl
  | finished slot found pending =>
      unfold pendingDomain at stopped
      rw [found] at stopped
      dsimp only at stopped
      rw [if_pos pending] at stopped
      cases stopped

/-- A terminal `finish` of a pending transaction returns its result. -/
theorem finish_of_pending {executor : CommandExecutor} (table : TableInvariant executor)
    {request : GenericCommandRequest} (pending : executor.Pending (acceptedKind request))
    (guard : FinOvertravelGuard) {phase : CommandPhase} (reason : CommandReason) (detail : UInt32)
    (terminal : phase = .completed ∨ phase = .failed) :
    (executor.finish guard request.transactionId phase reason detail).1 =
      resultFor request phase reason detail := by
  obtain ⟨slot, valid, slotPending, same, command⟩ := pending
  have found : executor.find request.transactionId = some slot :=
    find_of_transactionKey table (transactionKey_eq_some.mpr ⟨valid, by rw [same]⟩)
  have answers := (table.answered slot valid).1
  rw [same] at answers
  unfold finish finishSlot
  rw [found]
  dsimp only
  rw [if_pos ⟨slotPending, terminal⟩]
  unfold finishedEntry resultFor
  dsimp only
  rw [answers, command]

/-! ### The table and the life of a transaction -/

/-- What the table promises its callers. -/
structure TableContract (executor : CommandExecutor) : Prop where
  nonzero : ∀ slot, (executor.entries slot).valid = true →
    (executor.entries slot).request.transactionId ≠ 0
  distinct : ∀ left right, (executor.entries left).valid = true →
    (executor.entries right).valid = true →
    (executor.entries left).request.transactionId =
      (executor.entries right).request.transactionId → left = right
  exclusive : ∀ left right, (executor.entries left).pending = true →
    (executor.entries right).pending = true →
    (executor.entries left).domain = (executor.entries right).domain → left = right
  allocates : ∃ slot, executor.allocate = some slot ∧ (executor.entries slot).pending = false

theorem tableContract {executor : CommandExecutor} (table : TableInvariant executor) :
    TableContract executor := by
  constructor
  · intro slot valid
    exact (table.answered slot valid).2
  · intro left right leftValid rightValid same
    exact table.transactions left right _ (transactionKey_eq_some.mpr ⟨leftValid, rfl⟩)
      (transactionKey_eq_some.mpr ⟨rightValid, same.symm⟩)
  · intro left right leftPending rightPending same
    exact table.domains left right _
      (pendingKey_eq_some.mpr ⟨table.pendingValid left leftPending, leftPending, rfl⟩)
      (pendingKey_eq_some.mpr ⟨table.pendingValid right rightPending, rightPending, same.symm⟩)
  · obtain ⟨slot, allocated⟩ := exists_allocate table
    refine ⟨slot, allocated, ?_⟩
    have unheld := pendingKey_of_allocate allocated
    by_contra pending
    rw [Bool.not_eq_false] at pending
    rw [pendingKey_eq_some.mpr ⟨table.pendingValid slot pending, pending, rfl⟩] at unheld
    cases unheld

/-- After every history the table keeps its contract. An accepted transaction that no
call has settled is finished with its own result, and until its id is accepted anew
every further `finish` of it is refused and changes nothing. -/
theorem transaction_table (calls : List ExecutorCall) :
    TableContract (Run.after step {} calls) ∧
    ∀ guard request context,
      ((Run.after step {} calls).begin guard request context).1.execute = true →
      ∀ between, Run.Along step
          (fun _ call => ¬ call.Settles request.transactionId (domainFor (codeOf request)))
          ((Run.after step {} calls).begin guard request context).2.1 between →
      ∀ finishGuard phase reason detail, phase = .completed ∨ phase = .failed →
        let finished := (Run.after step
          ((Run.after step {} calls).begin guard request context).2.1 between).finish finishGuard
            request.transactionId phase reason detail
        finished.1 = resultFor request phase reason detail ∧
        ∀ later, Run.Along step (fun state call => ¬ Restarts request.transactionId state call)
            finished.2.1 later →
        ∀ againGuard againPhase againReason againDetail,
          (Run.after step finished.2.1 later).finish againGuard request.transactionId againPhase
              againReason againDetail =
            (refusedResult request.transactionId againDetail, Run.after step finished.2.1 later,
              againGuard) := by
  have table := tableInvariant_after calls tableInvariant_initial
  refine ⟨tableContract table, ?_⟩
  intro guard request context accepts between spares finishGuard phase reason detail terminal
  dsimp only
  have begunTable := tableInvariant_begin table guard request context
  have begun := pending_of_accepted table accepts
  have pending := pending_after begunTable begun spares
  have betweenTable := tableInvariant_after between begunTable
  refine ⟨finish_of_pending betweenTable pending finishGuard reason detail terminal, ?_⟩
  intro later restarts againGuard againPhase againReason againDetail
  have finishedTable :=
    tableInvariant_finish betweenTable finishGuard request.transactionId phase reason detail
  have stopped : ((Run.after step
      ((Run.after step {} calls).begin guard request context).2.1 between).finish finishGuard
        request.transactionId phase reason detail).2.1.pendingDomain request.transactionId =
        none := by
    rw [pendingDomain_finish betweenTable finishGuard request.transactionId reason detail terminal,
      Function.update_self]
  exact finish_of_stopped (stopped_after finishedTable stopped restarts) againGuard againPhase
    againReason againDetail

/-- A fin command accepted, finished after another command was refused, and finished
again. -/
theorem transaction_table_finFree :
    ((Run.after step
        (((({} : CommandExecutor).begin {} (plainRequest 1 .finFree) readyContext).2.1.finish {} 1
          .completed .none 0).2.1) []).finish {} 1 .failed .timeout 7) =
      (refusedResult 1 7,
        ((({} : CommandExecutor).begin {} (plainRequest 1 .finFree) readyContext).2.1.finish {} 1
          .completed .none 0).2.1, {}) :=
  ((transaction_table []).2 {} (plainRequest 1 .finFree) readyContext (by decide +kernel) []
    trivial {} .completed .none 0 (Or.inl rfl)).2 [] trivial {} .failed .timeout 7

end CommandExecutor

end MissionBoard.Mission
