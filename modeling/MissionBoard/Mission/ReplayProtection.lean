import MissionBoard.Mission.ReplayCache

/-!
Owns the protection of commands against retransmission: a request whose transaction
is cached is answered from the cache and never executed again. The sixteen most
recent transactions are cached as long as no transaction stays pending while sixteen
others produce results; past that point the pending one holds the place of the
oldest of them, and its command is executed a second time when it is repeated.
-/

namespace MissionBoard.Mission

open Protocol Control RecencyCache

namespace CommandExecutor

/-- The number of transactions whose results the executor promises to keep,
`kResultCacheSize`. -/
def kResultCacheSize : ℕ := 16

/-- The transactions whose results a history has produced most recently. -/
def recentTransactions (history : List ExecutorCall) : List UInt8 :=
  (recencyOf (record history).log).take kResultCacheSize

/-- What protects a history against retransmission. -/
structure ReplayProtected (history : List ExecutorCall) : Prop where
  /-- A repeated request is answered with the current result of its entry. -/
  replays : ∀ guard request context slot,
    (record history).executor.find request.transactionId = some slot →
    ((record history).executor.entries slot).request = request →
    (record history).executor.begin guard request context =
      ({ result := ((record history).executor.entries slot).result
         replay := true
         domain := ((record history).executor.entries slot).domain },
        (record history).executor, guard)
  /-- Another request under a cached id is a protocol error. -/
  refuses : ∀ guard request context slot,
    (record history).executor.find request.transactionId = some slot →
    ((record history).executor.entries slot).request ≠ request →
    (record history).executor.begin guard request context =
      ({ result := resultFor request .rejected .protocolError 0
         domain := ((record history).executor.entries slot).domain },
        (record history).executor, guard)
  /-- An accepted transaction that no call has settled is cached. -/
  pendingCached : ∀ before guard request context after,
    history = before ++ .begin guard request context :: after →
    ((record before).executor.begin guard request context).1.execute = true →
    Run.Along step
      (fun _ call => ¬ call.Settles request.transactionId (domainFor (codeOf request)))
      ((record before).executor.begin guard request context).2.1 after →
    ∃ slot, (record history).executor.find request.transactionId = some slot ∧
      ((record history).executor.entries slot).request = request
  /-- The recent transactions are cached with their requests and their last results. -/
  recentCached : ∀ id ∈ recentTransactions history, ∃ slot,
    (record history).executor.find id = some slot ∧
      lastProduced (record history).log id =
        some ⟨((record history).executor.entries slot).request,
          ((record history).executor.entries slot).result⟩

/-- A cached id is answered without a change, from the cache or with a protocol error. -/
theorem begin_of_find {executor : CommandExecutor} (table : TableInvariant executor)
    {request : GenericCommandRequest} {slot : Fin 16}
    (found : executor.find request.transactionId = some slot) (guard : FinOvertravelGuard)
    (context : CommandContext) :
    executor.begin guard request context =
      (if (executor.entries slot).request = request then
        { result := (executor.entries slot).result
          replay := true
          domain := (executor.entries slot).domain }
      else
        { result := resultFor request .rejected .protocolError 0
          domain := (executor.entries slot).domain }, executor, guard) := by
  have nonzero : request.transactionId ≠ 0 := by
    obtain ⟨valid, same⟩ := transactionKey_eq_some.mp (transactionKey_of_find found)
    rw [← same]
    exact (table.answered slot valid).2
  unfold begin
  rw [if_neg nonzero, found]
  dsimp only
  split <;> rfl

/-- In a history without a wrap of the age counter, repeated commands are protected
exactly when every pending transaction is itself among the sixteen most recent. -/
theorem replay_protected_iff (history : List ExecutorCall)
    (short : (record history).log.length < 2 ^ 32) :
    ReplayProtected history ↔
      ∀ id ∈ (record history).executor.pendingIds, id ∈ recentTransactions history := by
  have table : TableInvariant (record history).executor := by
    rw [record_executor]
    exact tableInvariant_after history tableInvariant_initial
  have ordered := ordered_record history short
  have caches := ordered.keeps.recent_cached_iff
  have cachedOf : ∀ id, id ∈ (record history).executor.cachedIds ↔
      ∃ slot, (record history).executor.find id = some slot := by
    intro id
    rw [mem_cachedIds]
    constructor
    · rintro ⟨slot, valid, same⟩
      exact ⟨slot, find_of_transactionKey table (transactionKey_eq_some.mpr ⟨valid, same⟩)⟩
    · rintro ⟨slot, found⟩
      exact ⟨slot, transactionKey_eq_some.mp (transactionKey_of_find found)⟩
  constructor
  · intro guarded
    apply caches.mp
    intro id recent
    obtain ⟨slot, found, -⟩ := guarded.recentCached id recent
    exact (cachedOf id).mpr ⟨slot, found⟩
  · intro pins
    constructor
    · intro guard request context slot found same
      rw [begin_of_find table found, if_pos same]
    · intro guard request context slot found differs
      rw [begin_of_find table found, if_neg differs]
    · intro before guard request context after splits accepts spares
      have beforeTable : TableInvariant (record before).executor := by
        rw [record_executor]
        exact tableInvariant_after before tableInvariant_initial
      have pending := pending_after (tableInvariant_begin beforeTable guard request context)
        (pending_of_accepted beforeTable accepts) spares
      have whole : (record history).executor = Run.after step
          ((record before).executor.begin guard request context).2.1 after := by
        rw [record_executor, splits, Run.after_append, ← record_executor]
        rfl
      rw [← whole] at pending
      obtain ⟨slot, valid, -, same, -⟩ := pending
      refine ⟨slot, ?_, same⟩
      exact find_of_transactionKey table (transactionKey_eq_some.mpr ⟨valid, by rw [same]⟩)
    · intro id recent
      obtain ⟨slot, found⟩ := (cachedOf id).mp (caches.mpr pins id recent)
      obtain ⟨valid, same⟩ := transactionKey_eq_some.mp (transactionKey_of_find found)
      refine ⟨slot, found, ?_⟩
      rw [← same]
      exact ordered.last slot valid

/-- A flash export that stays pending, a fin command that completes, and fifteen
unknown commands after it. -/
def overtakenHistory : List ExecutorCall :=
  [.begin {} (plainRequest 1 .exportFlashLog) readyContext,
    .begin {} (plainRequest 2 .finFree) readyContext,
    .finish {} 2 .completed .none 0] ++
  (List.range 15).map fun index =>
    .begin {} (plainRequest (3 + UInt8.ofNat index) ⟨0x7F⟩) readyContext

/-- The fin command is the sixteenth most recent transaction, yet it is evicted, and
its retransmission is executed. -/
theorem retransmission_executes :
    ¬ ReplayProtected overtakenHistory ∧ 2 ∈ recentTransactions overtakenHistory ∧
      ((record overtakenHistory).executor.begin {} (plainRequest 2 .finFree)
        readyContext).1.execute = true := by
  have recent : 2 ∈ recentTransactions overtakenHistory := by decide +kernel
  refine ⟨?_, recent, by decide +kernel⟩
  intro guarded
  obtain ⟨slot, found, -⟩ := guarded.recentCached 2 recent
  have evicted : (record overtakenHistory).executor.find 2 = none := by decide +kernel
  rw [evicted] at found
  cases found

/-- A fin command that completes while nothing else happens stays protected. -/
theorem replay_protected_iff_finFree :
    ReplayProtected [.begin {} (plainRequest 2 .finFree) readyContext,
      .finish {} 2 .completed .none 0] :=
  (replay_protected_iff _ (by decide +kernel)).mpr (by decide +kernel)

end CommandExecutor

end MissionBoard.Mission
