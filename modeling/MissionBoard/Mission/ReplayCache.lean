import MissionBoard.Library.RecencyCache
import MissionBoard.Mission.TransactionLifecycle

/-!
Owns the table as a cache of results: which results the executor has produced, in
what order, and which of them a repeated request still finds. The table evicts the
result produced longest ago, but never a pending transaction, so a transaction that
stays pending takes a place from the recent results.
-/

namespace MissionBoard.Mission

open Protocol Control RecencyCache

/-- A result the executor has produced for a request. -/
structure Production where
  request : GenericCommandRequest
  result : CommandResult
deriving DecidableEq

/-- The transactions of a log of productions. -/
def transactionsOf (log : List Production) : List UInt8 :=
  log.map fun production => production.request.transactionId

/-- The last production of a transaction. -/
def lastProduced (log : List Production) (transactionId : UInt8) : Option Production :=
  log.reverse.find? fun production => production.request.transactionId == transactionId

theorem lastProduced_concat (log : List Production) (production : Production)
    (transactionId : UInt8) :
    lastProduced (log ++ [production]) transactionId =
      if production.request.transactionId = transactionId then some production
      else lastProduced log transactionId := by
  unfold lastProduced
  rw [List.reverse_append, List.reverse_singleton, List.singleton_append, List.find?_cons]
  by_cases same : production.request.transactionId = transactionId
  · rw [if_pos same, beq_iff_eq.mpr same]
  · rw [if_neg same, beq_eq_false_iff_ne.mpr same]

/-- The transactions in the order of their last production, the latest first. -/
def recencyOf (log : List Production) : List UInt8 := recency (transactionsOf log)

theorem recencyOf_concat (log : List Production) (production : Production) :
    recencyOf (log ++ [production]) =
      touch (recencyOf log) production.request.transactionId := by
  unfold recencyOf transactionsOf
  rw [List.map_append, List.map_singleton, recency_concat]

namespace CommandExecutor

/-! ### What a call produces -/

/-- The results of interrupting the slots. -/
def interruptions (executor : CommandExecutor) (slots : List (Fin 16)) : List Production :=
  (slots.filter fun slot => interruptible (executor.entries slot)).map fun slot =>
    ⟨(executor.entries slot).request, interruptedResult (executor.entries slot)⟩

/-- The results a call produces and the table records. -/
def productions (executor : CommandExecutor) : ExecutorCall → List Production
  | .begin guard request context =>
      if request.transactionId ≠ 0 ∧ executor.find request.transactionId = none then
        [⟨request, (executor.begin guard request context).1.result⟩]
      else []
  | .finish guard transactionId phase reason detail =>
      match executor.finishSlot transactionId phase with
      | none => []
      | some slot =>
          [⟨(executor.entries slot).request,
            (executor.finish guard transactionId phase reason detail).1⟩]
  | .actuatorEmergency transactionId state =>
      if (executor.actuatorEmergency transactionId state).1.execute then
        executor.interruptions (List.finRange 16)
      else []

/-- The executor with the log of what it has produced. -/
structure Recorded where
  executor : CommandExecutor := {}
  log : List Production := []

/-- The executor and the log after a call. -/
def Recorded.step (recorded : Recorded) (call : ExecutorCall) : Recorded where
  executor := recorded.executor.step call
  log := recorded.log ++ recorded.executor.productions call

/-- The executor and the log after a history of calls. -/
def record (history : List ExecutorCall) : Recorded := Run.after Recorded.step {} history

theorem record_concat (history : List ExecutorCall) (call : ExecutorCall) :
    record (history ++ [call]) = (record history).step call :=
  Run.after_concat Recorded.step {} history call

theorem record_executor (history : List ExecutorCall) :
    (record history).executor = Run.after CommandExecutor.step {} history := by
  induction history using List.reverseRecOn with
  | nil => rfl
  | append_singleton history call inductionHypothesis =>
      rw [record_concat, Run.after_concat, ← inductionHypothesis]
      rfl

/-! ### The cached transactions -/

/-- The transactions with a valid entry. -/
def cachedIds (executor : CommandExecutor) : Finset UInt8 :=
  (Finset.univ.filter fun slot => (executor.entries slot).valid = true).image
    fun slot => (executor.entries slot).request.transactionId

/-- The pending transactions. -/
def pendingIds (executor : CommandExecutor) : Finset UInt8 :=
  (Finset.univ.filter fun slot => (executor.entries slot).pending = true).image
    fun slot => (executor.entries slot).request.transactionId

theorem mem_cachedIds {executor : CommandExecutor} {id : UInt8} :
    id ∈ executor.cachedIds ↔ ∃ slot, (executor.entries slot).valid = true ∧
      (executor.entries slot).request.transactionId = id := by
  unfold cachedIds
  simp only [Finset.mem_image, Finset.mem_filter, Finset.mem_univ, true_and]

theorem mem_pendingIds {executor : CommandExecutor} {id : UInt8} :
    id ∈ executor.pendingIds ↔ ∃ slot, (executor.entries slot).pending = true ∧
      (executor.entries slot).request.transactionId = id := by
  unfold pendingIds
  simp only [Finset.mem_image, Finset.mem_filter, Finset.mem_univ, true_and]

section Table

variable {executor : CommandExecutor} (table : TableInvariant executor)

include table

theorem pendingIds_subset : executor.pendingIds ⊆ executor.cachedIds := by
  intro id member
  obtain ⟨slot, pending, same⟩ := mem_pendingIds.mp member
  exact mem_cachedIds.mpr ⟨slot, table.pendingValid slot pending, same⟩

/-- Each valid entry caches a transaction of its own. -/
theorem card_cachedIds : executor.cachedIds.card =
    (Finset.univ.filter fun slot => (executor.entries slot).valid = true).card := by
  unfold cachedIds
  apply Finset.card_image_of_injOn
  intro left leftMember right rightMember same
  rw [Finset.mem_coe, Finset.mem_filter] at leftMember rightMember
  exact table.transactions left right _
    (transactionKey_eq_some.mpr ⟨leftMember.2, rfl⟩)
    (transactionKey_eq_some.mpr ⟨rightMember.2, same.symm⟩)

/-- A table with an unused entry caches fewer than sixteen transactions. -/
theorem card_cachedIds_lt {slot : Fin 16} (unused : (executor.entries slot).valid = false) :
    executor.cachedIds.card < 16 := by
  rw [card_cachedIds table]
  have smaller : (Finset.univ.filter fun slot => (executor.entries slot).valid = true) ⊂
      (Finset.univ : Finset (Fin 16)) := by
    rw [Finset.ssubset_univ_iff]
    intro whole
    have member : slot ∈ Finset.univ.filter fun slot => (executor.entries slot).valid = true := by
      rw [whole]
      exact Finset.mem_univ slot
    rw [Finset.mem_filter, unused] at member
    cases member.2
  have count := Finset.card_lt_card smaller
  rwa [Finset.card_univ, Fintype.card_fin] at count

/-- A table without an unused entry caches sixteen. -/
theorem card_cachedIds_eq (allValid : ∀ slot, (executor.entries slot).valid = true) :
    executor.cachedIds.card = 16 := by
  rw [card_cachedIds table, Finset.filter_true_of_mem fun slot _ => allValid slot,
    Finset.card_univ, Fintype.card_fin]

end Table

/-- The cached transactions after a replacement. -/
private theorem mem_cachedIds_update {executor later : CommandExecutor} {slot : Fin 16}
    {entry : Entry} (entries : later.entries = Function.update executor.entries slot entry)
    {id : UInt8} :
    id ∈ later.cachedIds ↔ (entry.valid = true ∧ entry.request.transactionId = id) ∨
      ∃ other, other ≠ slot ∧ (executor.entries other).valid = true ∧
        (executor.entries other).request.transactionId = id := by
  rw [mem_cachedIds, entries]
  constructor
  · rintro ⟨held, valid, same⟩
    by_cases here : held = slot
    · subst here
      rw [Function.update_self] at valid same
      exact Or.inl ⟨valid, same⟩
    · rw [Function.update_of_ne here] at valid same
      exact Or.inr ⟨held, here, valid, same⟩
  · rintro (⟨valid, same⟩ | ⟨other, differs, valid, same⟩)
    · exact ⟨slot, by rw [Function.update_self]; exact ⟨valid, same⟩⟩
    · exact ⟨other, by rw [Function.update_of_ne differs]; exact ⟨valid, same⟩⟩

/-- The pending transactions after a replacement. -/
private theorem mem_pendingIds_update {executor later : CommandExecutor} {slot : Fin 16}
    {entry : Entry} (entries : later.entries = Function.update executor.entries slot entry)
    {id : UInt8} :
    id ∈ later.pendingIds ↔ (entry.pending = true ∧ entry.request.transactionId = id) ∨
      ∃ other, other ≠ slot ∧ (executor.entries other).pending = true ∧
        (executor.entries other).request.transactionId = id := by
  rw [mem_pendingIds, entries]
  constructor
  · rintro ⟨held, pending, same⟩
    by_cases here : held = slot
    · subst here
      rw [Function.update_self] at pending same
      exact Or.inl ⟨pending, same⟩
    · rw [Function.update_of_ne here] at pending same
      exact Or.inr ⟨held, here, pending, same⟩
  · rintro (⟨pending, same⟩ | ⟨other, differs, pending, same⟩)
    · exact ⟨slot, by rw [Function.update_self]; exact ⟨pending, same⟩⟩
    · exact ⟨other, by rw [Function.update_of_ne differs]; exact ⟨pending, same⟩⟩

/-! ### The ages follow the log -/

/-- The ages of the entries order them as the log does, and the table is a cache that
pins the pending transactions. -/
structure Ordered (executor : CommandExecutor) (log : List Production) : Prop where
  counted : executor.age.toNat = log.length
  aged : ∀ slot, (executor.entries slot).valid = true →
    (executor.entries slot).age.toNat ≤ log.length
  agesDistinct : ∀ left right, (executor.entries left).valid = true →
    (executor.entries right).valid = true →
    (executor.entries left).age.toNat = (executor.entries right).age.toNat → left = right
  later : ∀ left right, (executor.entries left).valid = true →
    (executor.entries right).valid = true →
    (executor.entries left).age.toNat < (executor.entries right).age.toNat →
    Later (recencyOf log) (executor.entries right).request.transactionId
      (executor.entries left).request.transactionId
  keeps : Keeps 16 (recencyOf log) executor.cachedIds executor.pendingIds
  last : ∀ slot, (executor.entries slot).valid = true →
    lastProduced log (executor.entries slot).request.transactionId =
      some ⟨(executor.entries slot).request, (executor.entries slot).result⟩

theorem ordered_initial : Ordered {} [] := by
  have nothing : ∀ slot : Fin 16, ¬ (({} : CommandExecutor).entries slot).valid = true := fun _ =>
    nofun
  constructor
  · rfl
  · intro slot valid
    exact absurd valid (nothing slot)
  · intro left right valid
    exact absurd valid (nothing left)
  · intro left right valid
    exact absurd valid (nothing left)
  · have cached : ({} : CommandExecutor).cachedIds = ∅ := by decide
    have pending : ({} : CommandExecutor).pendingIds = ∅ := by decide
    rw [cached, pending]
    exact keeps_empty 16
  · intro slot valid
    exact absurd valid (nothing slot)

section Write

variable {executor : CommandExecutor} {log : List Production} (ordered : Ordered executor log)

include ordered

/-- The next age is larger than every age in the table, as long as the counter does
not wrap. -/
private theorem toNat_nextAge (room : log.length + 1 < 2 ^ 32) :
    (executor.age + 1).toNat = log.length + 1 := by
  rw [UInt32.toNat_add, ordered.counted]
  exact Nat.mod_eq_of_lt room

/-- Writing an entry with the next age, whose transaction no other slot holds, keeps
the order. -/
private theorem ordered_write (room : log.length + 1 < 2 ^ 32) (slot : Fin 16) (entry : Entry)
    (age : entry.age = executor.age + 1)
    (unique : ∀ other, other ≠ slot → (executor.entries other).valid = true →
      (executor.entries other).request.transactionId ≠ entry.request.transactionId)
    {later : CommandExecutor}
    (written : later = { entries := Function.update executor.entries slot entry
                         age := executor.age + 1 })
    (keeps : Keeps 16 (touch (recencyOf log) entry.request.transactionId) later.cachedIds
      later.pendingIds) :
    Ordered later (log ++ [⟨entry.request, entry.result⟩]) := by
  have next := toNat_nextAge ordered room
  have entryAge : entry.age.toNat = log.length + 1 := by rw [age, next]
  have lengthNext : (log ++ [(⟨entry.request, entry.result⟩ : Production)]).length =
      log.length + 1 := by
    rw [List.length_append]
    rfl
  have recencyNext : recencyOf (log ++ [⟨entry.request, entry.result⟩]) =
      touch (recencyOf log) entry.request.transactionId := recencyOf_concat log _
  have here : later.entries slot = entry := by rw [written]; exact Function.update_self ..
  have elsewhere : ∀ other, other ≠ slot → later.entries other = executor.entries other := by
    intro other differs
    rw [written]
    exact Function.update_of_ne differs ..
  constructor
  · rw [written, lengthNext]
    exact next
  · intro other valid
    rw [lengthNext]
    by_cases same : other = slot
    · rw [same, here, entryAge]
    · rw [elsewhere other same] at valid ⊢
      have before := ordered.aged other valid
      omega
  · intro left right leftValid rightValid same
    by_cases leftHere : left = slot <;> by_cases rightHere : right = slot
    · rw [leftHere, rightHere]
    · rw [elsewhere right rightHere] at rightValid same
      rw [leftHere, here, entryAge] at same
      have before := ordered.aged right rightValid
      omega
    · rw [elsewhere left leftHere] at leftValid same
      rw [rightHere, here, entryAge] at same
      have before := ordered.aged left leftValid
      omega
    · rw [elsewhere left leftHere] at leftValid same
      rw [elsewhere right rightHere] at rightValid same
      exact ordered.agesDistinct left right leftValid rightValid same
  · intro left right leftValid rightValid older
    rw [recencyNext]
    by_cases leftHere : left = slot <;> by_cases rightHere : right = slot
    · rw [leftHere, rightHere] at older
      exact absurd older (lt_irrefl _)
    · rw [elsewhere right rightHere] at rightValid older
      rw [leftHere, here, entryAge] at older
      have before := ordered.aged right rightValid
      omega
    · rw [elsewhere left leftHere] at leftValid ⊢
      rw [rightHere, here]
      exact later_touch_self
        (ordered.keeps.used _ (mem_cachedIds.mpr ⟨left, leftValid, rfl⟩))
        (unique left leftHere leftValid)
    · rw [elsewhere left leftHere] at leftValid older ⊢
      rw [elsewhere right rightHere] at rightValid older ⊢
      exact later_touch (ordered.later left right leftValid rightValid older)
        (unique right rightHere rightValid) (unique left leftHere leftValid)
  · rw [recencyNext]
    exact keeps
  · intro other valid
    rw [lastProduced_concat]
    by_cases same : other = slot
    · rw [same, here, if_pos rfl]
    · rw [elsewhere other same] at valid ⊢
      rw [if_neg (unique other same valid).symm]
      exact ordered.last other valid

/-- Settling a pending entry keeps the order. -/
private theorem ordered_settle (table : TableInvariant executor) (room : log.length + 1 < 2 ^ 32)
    (slot : Fin 16) (entry : Entry) (age : entry.age = executor.age + 1)
    (valid : (executor.entries slot).valid = true) (entryValid : entry.valid = true)
    (settled : entry.pending = false) (request : entry.request = (executor.entries slot).request)
    {later : CommandExecutor}
    (written : later = { entries := Function.update executor.entries slot entry
                         age := executor.age + 1 }) :
    Ordered later (log ++ [⟨entry.request, entry.result⟩]) := by
  have entries : later.entries = Function.update executor.entries slot entry := by rw [written]
  have sameCached : later.cachedIds = executor.cachedIds := by
    ext id
    rw [mem_cachedIds_update entries, mem_cachedIds]
    constructor
    · rintro (⟨-, same⟩ | ⟨other, -, otherValid, same⟩)
      · exact ⟨slot, valid, by rw [← request]; exact same⟩
      · exact ⟨other, otherValid, same⟩
    · rintro ⟨other, otherValid, same⟩
      by_cases here : other = slot
      · subst here
        exact Or.inl ⟨entryValid, by rw [request]; exact same⟩
      · exact Or.inr ⟨other, here, otherValid, same⟩
  apply ordered_write ordered room slot entry age _ written
  · rw [sameCached]
    apply ordered.keeps.use
    · rw [mem_cachedIds]
      exact ⟨slot, valid, by rw [request]⟩
    · intro id member
      rcases (mem_pendingIds_update entries).mp member with ⟨pending, -⟩ | ⟨other, -, pending, same⟩
      · rw [settled] at pending
        cases pending
      · exact mem_cachedIds.mpr ⟨other, table.pendingValid other pending, same⟩
    · intro id member
      obtain ⟨other, pending, same⟩ := mem_pendingIds.mp member
      by_cases here : other = slot
      · subst here
        exact Or.inl (by rw [request]; exact same.symm)
      · exact Or.inr ((mem_pendingIds_update entries).mpr (Or.inr ⟨other, here, pending, same⟩))
  · intro other differs otherValid same
    rw [request] at same
    exact differs (table.transactions other slot _
      (transactionKey_eq_some.mpr ⟨otherValid, same⟩) (transactionKey_eq_some.mpr ⟨valid, rfl⟩))

/-- The entry that is replaced in a full table was used longest ago. -/
private theorem later_of_allocate {victim : Fin 16}
    (allValid : ∀ slot, (executor.entries slot).valid = true)
    (chosen : SlotTable.oldest (fun entry => !entry.pending) Entry.age executor.entries =
      some victim) {other : Fin 16} (settled : (executor.entries other).pending = false)
    (differs : other ≠ victim) :
    Later (recencyOf log) (executor.entries other).request.transactionId
      (executor.entries victim).request.transactionId := by
  have eligible : (!(executor.entries other).pending) = true := by
    rw [settled]
    rfl
  have least := SlotTable.rank_oldest_le (fun _ _ => UInt32.lt_iff_toNat_lt) chosen eligible
  apply ordered.later victim other (allValid victim) (allValid other)
  apply lt_of_le_of_ne least
  intro same
  exact differs (ordered.agesDistinct victim other (allValid victim) (allValid other) same).symm

/-- Remembering a new transaction keeps the order. -/
private theorem ordered_remember (table : TableInvariant executor)
    (room : log.length + 1 < 2 ^ 32) {request : GenericCommandRequest} (result : CommandResult)
    (pending : Bool) (domain : CommandDomain)
    (fresh : executor.find request.transactionId = none) :
    Ordered (executor.remember request result pending domain) (log ++ [⟨request, result⟩]) := by
  have unheld : ∀ other, (executor.entries other).valid = true →
      (executor.entries other).request.transactionId ≠ request.transactionId := by
    intro other valid same
    exact find_eq_none.mp fresh other (transactionKey_eq_some.mpr ⟨valid, same⟩)
  have notCached : request.transactionId ∉ executor.cachedIds := by
    intro member
    obtain ⟨other, valid, same⟩ := mem_cachedIds.mp member
    exact unheld other valid same
  obtain ⟨slot, allocated⟩ := exists_allocate table
  have written : executor.remember request result pending domain =
      { entries := Function.update executor.entries slot
          (executor.rememberedEntry request result pending domain)
        age := executor.age + 1 } := by
    unfold remember
    rw [allocated]
    rfl
  have entries : (executor.remember request result pending domain).entries =
      Function.update executor.entries slot
        (executor.rememberedEntry request result pending domain) := by rw [written]
  apply ordered_write ordered room slot (executor.rememberedEntry request result pending domain) rfl
    (fun other _ valid => unheld other valid) written
  have replaced : (executor.entries slot).pending = false := by
    have free := pendingKey_of_allocate allocated
    by_contra isPending
    rw [Bool.not_eq_false] at isPending
    rw [pendingKey_eq_some.mpr ⟨table.pendingValid slot isPending, isPending, rfl⟩] at free
    cases free
  have pins : ∀ id ∈ executor.pendingIds,
      id ∈ (executor.remember request result pending domain).pendingIds := by
    intro id member
    obtain ⟨other, isPending, same⟩ := mem_pendingIds.mp member
    refine (mem_pendingIds_update entries).mpr (Or.inr ⟨other, ?_, isPending, same⟩)
    rintro rfl
    rw [replaced] at isPending
    cases isPending
  have laterCached : ∀ {cached : Finset UInt8},
      (executor.remember request result pending domain).cachedIds = cached →
      (∀ id ∈ executor.pendingIds, id ∈ cached) → request.transactionId ∈ cached →
      (executor.remember request result pending domain).pendingIds ⊆ cached := by
    intro cached same kept inside id member
    rcases (mem_pendingIds_update entries).mp member with ⟨-, named⟩ | ⟨other, -, isPending, named⟩
    · rw [← named]
      exact inside
    · exact kept id (mem_pendingIds.mpr ⟨other, isPending, named⟩)
  cases unused : SlotTable.first (fun entry => !entry.valid) executor.entries with
  | some free =>
      have chosen : free = slot := by
        unfold allocate at allocated
        rw [unused] at allocated
        exact Option.some.inj allocated
      subst chosen
      have invalid : (executor.entries free).valid = false := by
        have accepted := SlotTable.accepts_of_first unused
        rwa [Bool.not_eq_true'] at accepted
      have cached : (executor.remember request result pending domain).cachedIds =
          insert request.transactionId executor.cachedIds := by
        ext id
        rw [mem_cachedIds_update entries, Finset.mem_insert, mem_cachedIds]
        constructor
        · rintro (⟨-, same⟩ | ⟨other, -, valid, same⟩)
          · exact Or.inl same.symm
          · exact Or.inr ⟨other, valid, same⟩
        · rintro (same | ⟨other, valid, same⟩)
          · exact Or.inl ⟨rfl, same.symm⟩
          · refine Or.inr ⟨other, ?_, valid, same⟩
            rintro rfl
            rw [invalid] at valid
            cases valid
      rw [cached]
      apply ordered.keeps.add notCached (card_cachedIds_lt table invalid)
      exact laterCached cached
        (fun id member => Finset.mem_insert_of_mem (pendingIds_subset table member))
        (Finset.mem_insert_self _ _)
  | none =>
      have chosen : SlotTable.oldest (fun entry => !entry.pending) Entry.age executor.entries =
          some slot := by
        unfold allocate at allocated
        rw [unused] at allocated
        exact allocated
      have allValid : ∀ other, (executor.entries other).valid = true := by
        intro other
        have rejects := SlotTable.first_eq_none.mp unused other
        rwa [Bool.not_eq_false'] at rejects
      have alone : ∀ other, (executor.entries other).request.transactionId =
          (executor.entries slot).request.transactionId → other = slot := by
        intro other same
        exact table.transactions other slot _
          (transactionKey_eq_some.mpr ⟨allValid other, same⟩)
          (transactionKey_eq_some.mpr ⟨allValid slot, rfl⟩)
      have cached : (executor.remember request result pending domain).cachedIds =
          insert request.transactionId
            (executor.cachedIds.erase (executor.entries slot).request.transactionId) := by
        ext id
        rw [mem_cachedIds_update entries, Finset.mem_insert, Finset.mem_erase, mem_cachedIds]
        constructor
        · rintro (⟨-, same⟩ | ⟨other, differs, valid, same⟩)
          · exact Or.inl same.symm
          · refine Or.inr ⟨?_, other, valid, same⟩
            rintro rfl
            exact differs (alone other same)
        · rintro (same | ⟨kept, other, valid, same⟩)
          · exact Or.inl ⟨rfl, same.symm⟩
          · refine Or.inr ⟨other, ?_, valid, same⟩
            rintro rfl
            exact kept same.symm
      rw [cached]
      apply ordered.keeps.replace notCached (mem_cachedIds.mpr ⟨slot, allValid slot, rfl⟩)
        (card_cachedIds_eq table allValid)
      · intro id isCached unpinned differs
        obtain ⟨other, -, rfl⟩ := mem_cachedIds.mp isCached
        apply later_of_allocate ordered allValid chosen
        · by_contra isPending
          rw [Bool.not_eq_false] at isPending
          exact unpinned (mem_pendingIds.mpr ⟨other, isPending, rfl⟩)
        · rintro rfl
          exact differs rfl
      · apply laterCached cached
        · intro id member
          apply Finset.mem_insert_of_mem
          refine Finset.mem_erase.mpr ⟨?_, pendingIds_subset table member⟩
          rintro rfl
          obtain ⟨other, isPending, same⟩ := mem_pendingIds.mp member
          rw [alone other same, replaced] at isPending
          cases isPending
        · exact Finset.mem_insert_self _ _
      · exact pins

end Write

/-! ### One call -/

/-- Interrupting other slots does not depend on what was written to one. -/
private theorem interruptions_congr {executor later : CommandExecutor} {slots : List (Fin 16)}
    (same : ∀ slot ∈ slots, later.entries slot = executor.entries slot) :
    later.interruptions slots = executor.interruptions slots := by
  unfold interruptions
  rw [List.filter_congr fun slot member => by rw [same slot member]]
  apply List.map_congr_left
  intro slot member
  rw [same slot (List.mem_of_mem_filter member)]

/-- Interrupting the slots one by one keeps the table and the order. -/
private theorem ordered_interrupt (slots : List (Fin 16)) (distinct : slots.Nodup)
    {executor : CommandExecutor} (results : List CommandResult) {log : List Production}
    (table : TableInvariant executor) (ordered : Ordered executor log)
    (room : (log ++ executor.interruptions slots).length < 2 ^ 32) :
    Ordered (slots.foldl interruptSlot (executor, results)).1
      (log ++ executor.interruptions slots) := by
  induction slots generalizing executor results log with
  | nil =>
      have nothing : executor.interruptions [] = [] := rfl
      rw [nothing, List.append_nil]
      exact ordered
  | cons head rest inductionHypothesis =>
      obtain ⟨headNew, restDistinct⟩ := List.nodup_cons.mp distinct
      rw [List.foldl_cons]
      by_cases interrupts : interruptible (executor.entries head) = true
      · have pending : (executor.entries head).pending = true := by
          unfold interruptible at interrupts
          rw [Bool.and_eq_true] at interrupts
          exact interrupts.1
        have valid := table.pendingValid head pending
        have produced : executor.interruptions (head :: rest) =
            [⟨(executor.entries head).request, interruptedResult (executor.entries head)⟩] ++
              executor.interruptions rest := by
          unfold interruptions
          rw [List.filter_cons, if_pos interrupts]
          rfl
        rw [produced, ← List.append_assoc] at room ⊢
        have stepRoom : log.length + 1 < 2 ^ 32 := by
          rw [List.length_append, List.length_append, List.length_singleton] at room
          omega
        have next : (interruptSlot (executor, results) head).1 =
            { entries := Function.update executor.entries head
                (interruptedEntry (executor.entries head) (executor.age + 1))
              age := executor.age + 1 } := by
          unfold interruptSlot
          dsimp only
          rw [if_pos interrupts]
        have settled := ordered_settle ordered table stepRoom head
          (interruptedEntry (executor.entries head) (executor.age + 1)) rfl valid valid rfl rfl next
        have laterTable : TableInvariant (interruptSlot (executor, results) head).1 := by
          apply tableInvariant_settle table
          intro slot
          rw [next]
          dsimp only
          rw [Function.update_apply]
          split
          · next same =>
            subst same
            exact Or.inr ⟨rfl, rfl, rfl, rfl, rfl⟩
          · exact Or.inl rfl
        have sameRest : (interruptSlot (executor, results) head).1.interruptions rest =
            executor.interruptions rest := by
          apply interruptions_congr
          intro slot member
          rw [next]
          apply Function.update_of_ne
          rintro rfl
          exact headNew member
        have restHolds := inductionHypothesis restDistinct
          (interruptSlot (executor, results) head).2 laterTable settled (by rw [sameRest]; exact room)
        rw [sameRest] at restHolds
        exact restHolds
      · have next : interruptSlot (executor, results) head = (executor, results) := by
          unfold interruptSlot
          exact if_neg interrupts
        have produced : executor.interruptions (head :: rest) = executor.interruptions rest := by
          unfold interruptions
          rw [List.filter_cons, if_neg interrupts]
        rw [produced] at room ⊢
        rw [next]
        exact inductionHypothesis restDistinct results table ordered room

/-- A call keeps the order, as long as the age counter does not wrap. -/
theorem ordered_step {executor : CommandExecutor} {log : List Production}
    (table : TableInvariant executor) (ordered : Ordered executor log) (call : ExecutorCall)
    (room : (log ++ executor.productions call).length < 2 ^ 32) :
    Ordered (executor.step call) (log ++ executor.productions call) := by
  cases call with
  | begin guard request context =>
      unfold productions at room ⊢
      dsimp only [step] at room ⊢
      by_cases fresh : request.transactionId ≠ 0 ∧ executor.find request.transactionId = none
      · rw [if_pos fresh] at room ⊢
        rw [List.length_append, List.length_singleton] at room
        unfold begin
        rw [if_neg fresh.1, fresh.2]
        dsimp only
        split
        · exact ordered_remember ordered table room _ false _ fresh.2
        · exact ordered_remember ordered table room _ true _ fresh.2
      · rw [if_neg fresh, List.append_nil]
        unfold begin
        by_cases zero : request.transactionId = 0
        · rw [if_pos zero]
          exact ordered
        · rw [if_neg zero]
          cases found : executor.find request.transactionId with
          | none => exact absurd ⟨zero, found⟩ fresh
          | some slot =>
              dsimp only
              split <;> exact ordered
  | finish guard transactionId phase reason detail =>
      unfold productions at room ⊢
      dsimp only [step] at room ⊢
      unfold finish at room ⊢
      cases chosen : executor.finishSlot transactionId phase with
      | none =>
          dsimp only
          rw [List.append_nil]
          exact ordered
      | some slot =>
          rw [chosen] at room
          dsimp only at room ⊢
          rw [List.length_append, List.length_singleton] at room
          have valid : (executor.entries slot).valid = true := by
            unfold finishSlot at chosen
            cases found : executor.find transactionId with
            | none =>
                rw [found] at chosen
                cases chosen
            | some held =>
                rw [found] at chosen
                dsimp only at chosen
                split at chosen
                · obtain rfl : held = slot := Option.some.inj chosen
                  exact (transactionKey_eq_some.mp (transactionKey_of_find found)).1
                · cases chosen
          exact ordered_settle ordered table room slot
            (finishedEntry (executor.entries slot) (executor.age + 1) phase reason detail) rfl valid
            valid rfl rfl rfl
  | actuatorEmergency transactionId state =>
      unfold productions at room ⊢
      dsimp only [step] at room ⊢
      by_cases accepts : (executor.actuatorEmergency transactionId state).1.execute = true
      · rw [if_pos accepts] at room ⊢
        have accepted : transactionId ≠ 0 ∧ state = .commandReceive := by
          by_contra refused
          unfold actuatorEmergency at accepts
          dsimp only at accepts
          rw [if_neg refused] at accepts
          cases accepts
        have next : (executor.actuatorEmergency transactionId state).2 =
            ((List.finRange 16).foldl interruptSlot (executor, [])).1 := by
          unfold actuatorEmergency
          dsimp only
          rw [if_pos accepted]
        rw [next]
        exact ordered_interrupt (List.finRange 16) (List.nodup_finRange 16) [] table ordered room
      · rw [if_neg accepts, List.append_nil,
          emergency_refused (Bool.eq_false_of_not_eq_true accepts)]
        exact ordered

/-- After every history without a wrap of the age counter the ages follow the log. -/
theorem ordered_record (history : List ExecutorCall)
    (room : (record history).log.length < 2 ^ 32) :
    Ordered (record history).executor (record history).log := by
  induction history using List.reverseRecOn with
  | nil => exact ordered_initial
  | append_singleton history call inductionHypothesis =>
      have table : TableInvariant (record history).executor := by
        rw [record_executor]
        exact tableInvariant_after history tableInvariant_initial
      rw [record_concat] at room ⊢
      have before : (record history).log.length < 2 ^ 32 := by
        unfold Recorded.step at room
        dsimp only at room
        rw [List.length_append] at room
        omega
      exact ordered_step table (inductionHypothesis before) call room

end CommandExecutor

end MissionBoard.Mission
