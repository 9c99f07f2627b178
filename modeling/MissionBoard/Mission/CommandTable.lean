import MissionBoard.Mission.CommandExecutor

/-!
Owns the invariant of the transaction table: distinct transactions, at most one
pending transaction a domain, and every entry filed under its command's domain.
Each operation has one specification lemma; callers split on it and never unfold
the operation.
-/

namespace MissionBoard.Mission

open Protocol Control

/-- The transaction an entry holds. -/
def transactionKey (entry : Entry) : Option UInt8 :=
  if entry.valid then some entry.request.transactionId else none

/-- The domain an entry keeps busy. -/
def pendingKey (entry : Entry) : Option CommandDomain :=
  if entry.valid && entry.pending then some entry.domain else none

theorem transactionKey_eq_some {entry : Entry} {transactionId : UInt8} :
    transactionKey entry = some transactionId ↔
      entry.valid = true ∧ entry.request.transactionId = transactionId := by
  unfold transactionKey
  cases entry.valid <;> simp

theorem pendingKey_eq_some {entry : Entry} {domain : CommandDomain} :
    pendingKey entry = some domain ↔
      entry.valid = true ∧ entry.pending = true ∧ entry.domain = domain := by
  unfold pendingKey
  cases entry.valid <;> cases entry.pending <;> simp

theorem pendingKey_eq_none_of_settled {entry : Entry} (settled : entry.pending = false) :
    pendingKey entry = none := by
  unfold pendingKey
  rw [settled, Bool.and_false]
  rfl

/-- The invariant of the transaction table. -/
structure TableInvariant (executor : CommandExecutor) : Prop where
  transactions : SlotTable.Distinct transactionKey executor.entries
  domains : SlotTable.Distinct pendingKey executor.entries
  pendingValid : ∀ slot, (executor.entries slot).pending = true →
    (executor.entries slot).valid = true
  filed : ∀ slot, (executor.entries slot).valid = true →
    (executor.entries slot).domain = domainFor (codeOf (executor.entries slot).request)
  answered : ∀ slot, (executor.entries slot).valid = true →
    (executor.entries slot).result.transactionId =
        (executor.entries slot).request.transactionId ∧
      (executor.entries slot).request.transactionId ≠ 0

theorem tableInvariant_initial : TableInvariant {} := by
  constructor
  · intro left right key presents
    cases presents
  · intro left right key presents
    cases presents
  · intro slot pending
    cases pending
  · intro slot valid
    cases valid
  · intro slot valid
    cases valid

namespace CommandExecutor

/-! ### Search -/

theorem busy_iff {executor : CommandExecutor} {domain : CommandDomain} :
    executor.busy domain = true ↔ SlotTable.Holds pendingKey executor.entries domain := by
  unfold busy SlotTable.Holds
  rw [List.any_eq_true]
  simp only [List.mem_finRange, true_and, pendingKey_eq_some, Bool.and_eq_true, beq_iff_eq,
    and_assoc]

theorem not_holds_of_not_busy {executor : CommandExecutor} {domain : CommandDomain}
    (idle : executor.busy domain = false) (slot : Fin 16) :
    pendingKey (executor.entries slot) ≠ some domain := by
  intro presents
  have busy := busy_iff.mpr ⟨slot, presents⟩
  rw [idle] at busy
  contradiction

theorem find_eq_none {executor : CommandExecutor} {transactionId : UInt8} :
    executor.find transactionId = none ↔
      ∀ slot, transactionKey (executor.entries slot) ≠ some transactionId := by
  unfold find
  rw [SlotTable.first_eq_none]
  simp only [ne_eq, transactionKey_eq_some, ← Bool.not_eq_true, Bool.and_eq_true, beq_iff_eq]

theorem transactionKey_of_find {executor : CommandExecutor} {transactionId : UInt8}
    {slot : Fin 16} (found : executor.find transactionId = some slot) :
    transactionKey (executor.entries slot) = some transactionId := by
  have accepted := SlotTable.accepts_of_first found
  rw [Bool.and_eq_true, beq_iff_eq] at accepted
  exact transactionKey_eq_some.mpr accepted

/-- The entry of a transaction is the one that is found. -/
theorem find_of_transactionKey {executor : CommandExecutor} (table : TableInvariant executor)
    {transactionId : UInt8} {slot : Fin 16}
    (presents : transactionKey (executor.entries slot) = some transactionId) :
    executor.find transactionId = some slot := by
  apply SlotTable.first_eq_some_of_unique
  · rw [Bool.and_eq_true, beq_iff_eq]
    exact transactionKey_eq_some.mp presents
  · intro other accepted
    rw [Bool.and_eq_true, beq_iff_eq] at accepted
    exact table.transactions other slot transactionId (transactionKey_eq_some.mpr accepted) presents

/-- The table never gives out a pending entry. -/
theorem pendingKey_of_allocate {executor : CommandExecutor} {slot : Fin 16}
    (allocated : executor.allocate = some slot) : pendingKey (executor.entries slot) = none := by
  unfold allocate at allocated
  split at allocated
  · next unused found =>
    obtain rfl : unused = slot := Option.some.inj allocated
    have invalid := SlotTable.accepts_of_first found
    rw [Bool.not_eq_true'] at invalid
    unfold pendingKey
    rw [invalid]
    rfl
  · have settled := SlotTable.eligible_of_oldest allocated
    rw [Bool.not_eq_true'] at settled
    exact pendingKey_eq_none_of_settled settled

/-- The table is never full: there are fewer domains than entries. -/
theorem exists_allocate {executor : CommandExecutor} (table : TableInvariant executor) :
    ∃ slot, executor.allocate = some slot := by
  apply Option.ne_none_iff_exists'.mp
  obtain ⟨slot, free⟩ := SlotTable.exists_view_eq_none table.domains (by decide)
  unfold allocate
  split
  · exact Option.some_ne_none _
  · next allValid =>
    have valid := SlotTable.first_eq_none.mp allValid slot
    have settled : (!(executor.entries slot).pending) = true := by
      unfold pendingKey at free
      rw [Bool.not_eq_false'] at valid
      cases pending : (executor.entries slot).pending with
      | false => rfl
      | true =>
          rw [valid, pending] at free
          cases free
    exact SlotTable.oldest_ne_none settled

/-! ### Remembering a request -/

/-- The entry `remember` writes. -/
def rememberedEntry (executor : CommandExecutor) (request : GenericCommandRequest)
    (result : CommandResult) (pending : Bool) (domain : CommandDomain) : Entry where
  valid := true
  pending := pending
  age := executor.age + 1
  request := request
  result := result
  domain := domain

theorem exists_remember {executor : CommandExecutor} (table : TableInvariant executor)
    (request : GenericCommandRequest) (result : CommandResult) (pending : Bool)
    (domain : CommandDomain) :
    ∃ slot, pendingKey (executor.entries slot) = none ∧
      (executor.remember request result pending domain).entries =
        Function.update executor.entries slot
          (executor.rememberedEntry request result pending domain) := by
  obtain ⟨slot, allocated⟩ := exists_allocate table
  refine ⟨slot, pendingKey_of_allocate allocated, ?_⟩
  unfold remember
  rw [allocated]
  rfl

/-- Remembering a new transaction keeps the invariant when a pending one finds
its domain idle. -/
theorem tableInvariant_remember {executor : CommandExecutor} (table : TableInvariant executor)
    {request : GenericCommandRequest} {result : CommandResult} {pending : Bool}
    (fresh : executor.find request.transactionId = none)
    (nonzero : request.transactionId ≠ 0) (answers : result.transactionId = request.transactionId)
    (idle : pending = true → executor.busy (domainFor (codeOf request)) = false) :
    TableInvariant (executor.remember request result pending (domainFor (codeOf request))) := by
  obtain ⟨slot, -, entries⟩ := exists_remember table request result pending
    (domainFor (codeOf request))
  have keeps : ∀ property : Entry → Prop,
      (∀ other, property (executor.entries other)) →
      property (executor.rememberedEntry request result pending (domainFor (codeOf request))) →
      ∀ other, property ((executor.remember request result pending
        (domainFor (codeOf request))).entries other) := by
    intro property others entry other
    rw [entries, Function.update_apply]
    split
    · exact entry
    · exact others other
  constructor
  · rw [entries]
    apply table.transactions.update
    intro key presents other _
    obtain ⟨-, same⟩ := transactionKey_eq_some.mp presents
    obtain rfl : request.transactionId = key := same
    exact find_eq_none.mp fresh other
  · rw [entries]
    apply table.domains.update
    intro key presents other _
    obtain ⟨-, isPending, same⟩ := pendingKey_eq_some.mp presents
    obtain rfl : domainFor (codeOf request) = key := same
    exact not_holds_of_not_busy (idle isPending) other
  · exact keeps (fun entry => entry.pending = true → entry.valid = true) table.pendingValid
      (fun _ => rfl)
  · exact keeps (fun entry => entry.valid = true → entry.domain = domainFor (codeOf entry.request))
      table.filed (fun _ => rfl)
  · exact keeps (fun entry => entry.valid = true →
      entry.result.transactionId = entry.request.transactionId ∧
        entry.request.transactionId ≠ 0) table.answered (fun _ => ⟨answers, nonzero⟩)

/-! ### Begin -/

/-- What `begin` can do: answer without touching the table, remember a rejection,
or accept. -/
inductive BeginOutcome (executor : CommandExecutor) (guard : FinOvertravelGuard)
    (request : GenericCommandRequest) (context : CommandContext) :
    CommandDecision × CommandExecutor × FinOvertravelGuard → Prop where
  | answered {decision : CommandDecision} (refuses : decision.execute = false) :
      BeginOutcome executor guard request context (decision, executor, guard)
  | rejected (nonzero : request.transactionId ≠ 0)
      (fresh : executor.find request.transactionId = none)
      (rejects : executor.rejection (guardAtBegin guard context) request context ≠ .none) :
      BeginOutcome executor guard request context
        ({ result := resultFor request .rejected
             (executor.rejection (guardAtBegin guard context) request context) 0
           domain := domainFor (codeOf request) },
          executor.remember request (resultFor request .rejected
            (executor.rejection (guardAtBegin guard context) request context) 0) false
            (domainFor (codeOf request)),
          guardAtBegin guard context)
  | accepted (nonzero : request.transactionId ≠ 0)
      (fresh : executor.find request.transactionId = none)
      (admits : executor.rejection (guardAtBegin guard context) request context = .none) :
      BeginOutcome executor guard request context
        ({ result := resultFor request .accepted .none 0
           execute := true
           domain := domainFor (codeOf request) },
          executor.remember request (resultFor request .accepted .none 0) true
            (domainFor (codeOf request)),
          guardAtBegin guard context)

theorem beginOutcome (executor : CommandExecutor) (guard : FinOvertravelGuard)
    (request : GenericCommandRequest) (context : CommandContext) :
    BeginOutcome executor guard request context (executor.begin guard request context) := by
  unfold begin
  by_cases zero : request.transactionId = 0
  · rw [if_pos zero]
    exact .answered rfl
  · rw [if_neg zero]
    cases found : executor.find request.transactionId with
    | some slot =>
        dsimp only
        split
        · exact .answered rfl
        · exact .answered rfl
    | none =>
        dsimp only
        by_cases rejects :
            executor.rejection (guardAtBegin guard context) request context ≠ .none
        · rw [if_pos rejects]
          exact .rejected zero found rejects
        · rw [if_neg rejects]
          exact .accepted zero found (not_not.mp rejects)

/-- The reason of the first check that holds, or none. -/
def firstReason : List (Bool × CommandReason) → CommandReason
  | [] => .none
  | (holds, reason) :: rest => if holds then reason else firstReason rest

private theorem firstReason_eq_none {checks : List (Bool × CommandReason)}
    (reasons : ∀ check ∈ checks, check.2 ≠ .none) :
    firstReason checks = .none ↔ ∀ check ∈ checks, check.1 = false := by
  induction checks with
  | nil => simp [firstReason]
  | cons head rest inductionHypothesis =>
      obtain ⟨holds, reason⟩ := head
      have headReason : reason ≠ .none := reasons (holds, reason) List.mem_cons_self
      have restReasons := inductionHypothesis fun check member =>
        reasons check (List.mem_cons_of_mem _ member)
      cases holds with
      | true => simp [firstReason, headReason]
      | false => simpa [firstReason] using restReasons

/-- The checks of `rejection`, in order. -/
def rejectionChecks (executor : CommandExecutor) (guard : FinOvertravelGuard)
    (request : GenericCommandRequest) (context : CommandContext) : List (Bool × CommandReason) :=
  let code := codeOf request
  let domain := domainFor code
  [(!commandKnown code, .notSupported),
    (unsupportedParachuteCommand code, .notSupported),
    (!argumentsValid request code, .invalidArgument),
    (!stateValid code context.state, .invalidState),
    (guard.faultLatched && blockedByFinOvertravel code, .safetyInterlock),
    (code == .enterRecovery && !context.deploymentPowerCutoffDone, .safetyInterlock),
    (isStart code && (executor.busy .parachute || executor.busy .fin ||
      executor.busy .calibration || context.motorTestBusy), .busy),
    (isStart code && !context.resourcesPreallocated, .internalError),
    (domain == .parachute && executor.busy .sequence, .busy),
    ((domain == .fin && !context.finAvailable) ||
      (domain == .parachute && !context.parachuteAvailable), .deviceUnavailable),
    (domain == .fin && !context.finSafeCommandsSupported, .notSupported),
    ((domain == .calibration && !context.calibrationSupported) ||
      (domain == .storage && !context.storageExportSupported), .notSupported),
    (executor.busy domain, .busy),
    (isStart code && executor.cachedCount != 0 && executor.anyPending, .busy),
    (domain == .calibration &&
      (executor.busy .fin || executor.busy .parachute || context.motorTestBusy), .busy),
    ((domain == .fin || domain == .parachute) && executor.busy .calibration, .busy)]

/-- A request is admitted exactly when no check of the chain holds. -/
theorem admitted_iff {executor : CommandExecutor} {guard : FinOvertravelGuard}
    {request : GenericCommandRequest} {context : CommandContext} :
    executor.rejection guard request context = .none ↔
      ∀ check ∈ executor.rejectionChecks guard request context, check.1 = false := by
  have chain : executor.rejection guard request context =
      firstReason (executor.rejectionChecks guard request context) := rfl
  rw [chain]
  apply firstReason_eq_none
  unfold rejectionChecks
  simp

/-- An accepted command finds its own domain idle. -/
theorem idle_of_admitted {executor : CommandExecutor} {guard : FinOvertravelGuard}
    {request : GenericCommandRequest} {context : CommandContext}
    (admits : executor.rejection guard request context = .none) :
    executor.busy (domainFor (codeOf request)) = false :=
  admitted_iff.mp admits (executor.busy (domainFor (codeOf request)), .busy)
    (by simp [rejectionChecks])

theorem tableInvariant_begin {executor : CommandExecutor} (table : TableInvariant executor)
    (guard : FinOvertravelGuard) (request : GenericCommandRequest) (context : CommandContext) :
    TableInvariant (executor.begin guard request context).2.1 := by
  have outcome := executor.beginOutcome guard request context
  generalize executor.begin guard request context = next at outcome ⊢
  cases outcome with
  | answered => exact table
  | rejected nonzero fresh =>
      exact tableInvariant_remember table fresh nonzero rfl (fun pending => nomatch pending)
  | accepted nonzero fresh admits =>
      exact tableInvariant_remember table fresh nonzero rfl (fun _ => idle_of_admitted admits)

/-! ### Finish -/

/-- What `finish` can do: refuse, or settle the pending entry of the transaction. -/
inductive FinishOutcome (executor : CommandExecutor) (guard : FinOvertravelGuard)
    (transactionId : UInt8) (phase : CommandPhase) (reason : CommandReason) (detail : UInt32) :
    CommandResult × CommandExecutor × FinOvertravelGuard → Prop where
  | refused
      (settled : ∀ slot, executor.find transactionId = some slot →
        (executor.entries slot).pending = true → ¬ (phase = .completed ∨ phase = .failed)) :
      FinishOutcome executor guard transactionId phase reason detail
        ({ transactionId := transactionId
           command := 0
           phase := .failed
           reason := .internalError
           detail := detail }, executor, guard)
  | finished (slot : Fin 16) (found : executor.find transactionId = some slot)
      (pending : (executor.entries slot).pending = true)
      (terminal : phase = .completed ∨ phase = .failed) :
      FinishOutcome executor guard transactionId phase reason detail
        ((finishedEntry (executor.entries slot) (executor.age + 1) phase reason detail).result,
          { entries := Function.update executor.entries slot
              (finishedEntry (executor.entries slot) (executor.age + 1) phase reason detail)
            age := executor.age + 1 },
          guardAtFinish guard (executor.entries slot) phase reason)

theorem finishOutcome (executor : CommandExecutor) (guard : FinOvertravelGuard)
    (transactionId : UInt8) (phase : CommandPhase) (reason : CommandReason) (detail : UInt32) :
    FinishOutcome executor guard transactionId phase reason detail
      (executor.finish guard transactionId phase reason detail) := by
  unfold finish finishSlot
  cases found : executor.find transactionId with
  | none =>
      exact .refused fun slot same => by
        rw [found] at same
        cases same
  | some slot =>
      dsimp only
      by_cases finishes : (executor.entries slot).pending = true ∧
          (phase = .completed ∨ phase = .failed)
      · rw [if_pos finishes]
        exact .finished slot found finishes.1 finishes.2
      · rw [if_neg finishes]
        refine .refused fun other same pending terminal => finishes ?_
        obtain rfl : slot = other := Option.some.inj (found.symm.trans same)
        exact ⟨pending, terminal⟩

/-- Settling an entry keeps the invariant: its transaction and its domain stay, and
it no longer keeps the domain busy. -/
theorem tableInvariant_settle {executor later : CommandExecutor} (table : TableInvariant executor)
    (settles : ∀ slot, later.entries slot = executor.entries slot ∨
      ((later.entries slot).pending = false ∧
        (later.entries slot).valid = (executor.entries slot).valid ∧
        (later.entries slot).request = (executor.entries slot).request ∧
        (later.entries slot).domain = (executor.entries slot).domain ∧
        (later.entries slot).result.transactionId =
          (executor.entries slot).result.transactionId)) :
    TableInvariant later := by
  constructor
  · apply table.transactions.of_le
    intro slot key presents
    rcases settles slot with same | ⟨-, valid, request, -, -⟩
    · rw [same] at presents
      exact presents
    · rw [transactionKey_eq_some, valid, request] at presents
      exact transactionKey_eq_some.mpr presents
  · apply table.domains.of_le
    intro slot key presents
    rcases settles slot with same | ⟨settled, -⟩
    · rw [same] at presents
      exact presents
    · rw [pendingKey_eq_none_of_settled settled] at presents
      cases presents
  · intro slot pending
    rcases settles slot with same | ⟨settled, -⟩
    · rw [same] at pending ⊢
      exact table.pendingValid slot pending
    · rw [settled] at pending
      cases pending
  · intro slot valid
    rcases settles slot with same | ⟨-, sameValid, request, domain, -⟩
    · rw [same] at valid ⊢
      exact table.filed slot valid
    · rw [sameValid] at valid
      rw [request, domain]
      exact table.filed slot valid
  · intro slot valid
    rcases settles slot with same | ⟨-, sameValid, request, -, answer⟩
    · rw [same] at valid ⊢
      exact table.answered slot valid
    · rw [sameValid] at valid
      rw [request, answer]
      exact table.answered slot valid

theorem tableInvariant_finish {executor : CommandExecutor} (table : TableInvariant executor)
    (guard : FinOvertravelGuard) (transactionId : UInt8) (phase : CommandPhase)
    (reason : CommandReason) (detail : UInt32) :
    TableInvariant (executor.finish guard transactionId phase reason detail).2.1 := by
  have outcome := executor.finishOutcome guard transactionId phase reason detail
  generalize executor.finish guard transactionId phase reason detail = next at outcome ⊢
  cases outcome with
  | refused => exact table
  | finished slot =>
      apply tableInvariant_settle table
      intro other
      dsimp only
      rw [Function.update_apply]
      split
      · next same =>
        subst same
        exact Or.inr ⟨rfl, rfl, rfl, rfl, rfl⟩
      · exact Or.inl rfl

/-! ### The actuator emergency -/

/-- The result of an interrupted entry. -/
def interruptedResult (entry : Entry) : CommandResult :=
  { entry.result with phase := .failed, reason := .interruptedByEmergency }

/-- The loop leaves each interruptible entry interrupted and the others alone, and
collects the first two results. -/
private theorem foldl_interruptSlot (slots : List (Fin 16)) (distinct : slots.Nodup)
    (executor : CommandExecutor) (results : List CommandResult) (room : results.length ≤ 2) :
    (∃ ages : Fin 16 → UInt32, ∀ slot,
      (slots.foldl interruptSlot (executor, results)).1.entries slot =
        if slot ∈ slots ∧ interruptible (executor.entries slot) = true then
          interruptedEntry (executor.entries slot) (ages slot)
        else executor.entries slot) ∧
    (slots.foldl interruptSlot (executor, results)).2 =
      (results ++ (slots.filter fun slot => interruptible (executor.entries slot)).map
        fun slot => interruptedResult (executor.entries slot)).take 2 := by
  induction slots generalizing executor results with
  | nil =>
      refine ⟨⟨fun _ => 0, fun slot => ?_⟩, ?_⟩
      · simp
      · simp [List.take_of_length_le room]
  | cons head rest inductionHypothesis =>
      obtain ⟨headNew, restDistinct⟩ := List.nodup_cons.mp distinct
      rw [List.foldl_cons]
      by_cases interrupts : interruptible (executor.entries head) = true
      · have next : interruptSlot (executor, results) head =
            ({ entries := Function.update executor.entries head
                 (interruptedEntry (executor.entries head) (executor.age + 1))
               age := executor.age + 1 },
              if results.length < 2 then
                results ++ [interruptedResult (executor.entries head)]
              else results) := by
          unfold interruptSlot
          dsimp only
          rw [if_pos interrupts]
          rfl
        rw [next]
        have others : ∀ slot, slot ∈ rest →
            Function.update executor.entries head
              (interruptedEntry (executor.entries head) (executor.age + 1)) slot =
                executor.entries slot := by
          intro slot member
          apply Function.update_of_ne
          rintro rfl
          exact headNew member
        have roomNext : (if results.length < 2 then
            results ++ [interruptedResult (executor.entries head)] else results).length ≤ 2 := by
          split
          · rw [List.length_append]
            simp only [List.length_singleton]
            omega
          · exact room
        obtain ⟨⟨ages, entries⟩, collected⟩ := inductionHypothesis restDistinct
          { entries := Function.update executor.entries head
              (interruptedEntry (executor.entries head) (executor.age + 1))
            age := executor.age + 1 } _ roomNext
        dsimp only at entries collected
        refine ⟨⟨Function.update ages head (executor.age + 1), fun slot => ?_⟩, ?_⟩
        · rw [entries]
          by_cases same : slot = head
          · subst same
            rw [if_neg (fun both => headNew both.1), Function.update_self,
              if_pos ⟨List.mem_cons_self, interrupts⟩, Function.update_self]
          · simp only [Function.update_of_ne same, List.mem_cons, same, false_or]
        · rw [collected]
          have filtered : (rest.filter fun slot => interruptible (Function.update executor.entries
              head (interruptedEntry (executor.entries head) (executor.age + 1)) slot)) =
              rest.filter fun slot => interruptible (executor.entries slot) := by
            apply List.filter_congr
            intro slot member
            rw [others slot member]
          have mapped : ((rest.filter fun slot => interruptible (executor.entries slot)).map
              fun slot => interruptedResult (Function.update executor.entries head
                (interruptedEntry (executor.entries head) (executor.age + 1)) slot)) =
              (rest.filter fun slot => interruptible (executor.entries slot)).map
                fun slot => interruptedResult (executor.entries slot) := by
            apply List.map_congr_left
            intro slot member
            rw [others slot (List.mem_of_mem_filter member)]
          have withHead : ((head :: rest).filter fun slot =>
              interruptible (executor.entries slot)) =
              head :: rest.filter fun slot => interruptible (executor.entries slot) := by
            rw [List.filter_cons, if_pos interrupts]
          rw [filtered, mapped, withHead, List.map_cons]
          split
          · rw [List.append_assoc, List.singleton_append]
          · have full : results.length = 2 := by omega
            rw [List.take_append_of_le_length (by omega), List.take_append_of_le_length (by omega)]
      · have next : interruptSlot (executor, results) head = (executor, results) := by
          unfold interruptSlot
          exact if_neg interrupts
        rw [next, List.filter_cons, if_neg interrupts]
        obtain ⟨⟨ages, entries⟩, collected⟩ := inductionHypothesis restDistinct executor results room
        refine ⟨⟨ages, fun slot => ?_⟩, collected⟩
        rw [entries]
        by_cases same : slot = head
        · subst same
          rw [if_neg (fun both => headNew both.1), if_neg (fun both => interrupts both.2)]
        · simp only [List.mem_cons, same, false_or]

/-- What `actuatorEmergency` can do: refuse, or interrupt every pending fin and
parachute transaction. -/
inductive EmergencyOutcome (executor : CommandExecutor) (transactionId : UInt8)
    (state : MissionState) : EmergencyDecision × CommandExecutor → Prop where
  | refused {decision : EmergencyDecision} (refuses : decision.execute = false)
      (nothing : decision.interrupted = []) :
      EmergencyOutcome executor transactionId state (decision, executor)
  | accepted {decision : EmergencyDecision} {later : CommandExecutor}
      (nonzero : transactionId ≠ 0) (receiving : state = .commandReceive)
      (executes : decision.execute = true)
      (interrupts : ∃ ages : Fin 16 → UInt32, ∀ slot, later.entries slot =
        if interruptible (executor.entries slot) = true then
          interruptedEntry (executor.entries slot) (ages slot)
        else executor.entries slot)
      (results : decision.interrupted =
        (((List.finRange 16).filter fun slot => interruptible (executor.entries slot)).map
          fun slot => interruptedResult (executor.entries slot)).take 2) :
      EmergencyOutcome executor transactionId state (decision, later)

theorem emergencyOutcome (executor : CommandExecutor) (transactionId : UInt8)
    (state : MissionState) :
    EmergencyOutcome executor transactionId state
      (executor.actuatorEmergency transactionId state) := by
  unfold actuatorEmergency
  dsimp only
  by_cases accepted : transactionId ≠ 0 ∧ state = .commandReceive
  · rw [if_pos accepted]
    obtain ⟨⟨ages, entries⟩, collected⟩ :=
      foldl_interruptSlot (List.finRange 16) (List.nodup_finRange 16) executor [] (by simp)
    simp only [List.mem_finRange, true_and] at entries
    rw [List.nil_append] at collected
    exact .accepted accepted.1 accepted.2 rfl ⟨ages, entries⟩ collected
  · rw [if_neg accepted]
    exact .refused rfl rfl

theorem tableInvariant_actuatorEmergency {executor : CommandExecutor}
    (table : TableInvariant executor) (transactionId : UInt8) (state : MissionState) :
    TableInvariant (executor.actuatorEmergency transactionId state).2 := by
  have outcome := executor.emergencyOutcome transactionId state
  generalize executor.actuatorEmergency transactionId state = next at outcome ⊢
  cases outcome with
  | refused => exact table
  | accepted nonzero receiving executes interrupts results =>
      obtain ⟨ages, entries⟩ := interrupts
      apply tableInvariant_settle table
      intro slot
      dsimp only
      rw [entries]
      split
      · exact Or.inr ⟨rfl, rfl, rfl, rfl, rfl⟩
      · exact Or.inl rfl

/-! ### The pending transactions -/

/-- A pending transaction of a kind. -/
def Pending (executor : CommandExecutor) (kind : Entry → Prop) : Prop :=
  ∃ slot, (executor.entries slot).valid = true ∧ (executor.entries slot).pending = true ∧
    kind (executor.entries slot)

theorem busy_iff_pending {executor : CommandExecutor} {domain : CommandDomain} :
    executor.busy domain = true ↔ executor.Pending fun entry => entry.domain = domain := by
  rw [busy_iff]
  unfold SlotTable.Holds Pending
  simp only [pendingKey_eq_some]

/-- Remembering a request adds its transaction to the pending ones and loses none. -/
theorem pending_remember {executor : CommandExecutor} (table : TableInvariant executor)
    {request : GenericCommandRequest} {result : CommandResult} {pending : Bool}
    {domain : CommandDomain} {kind : Entry → Prop} :
    (executor.remember request result pending domain).Pending kind ↔
      (pending = true ∧ kind (executor.rememberedEntry request result pending domain)) ∨
        executor.Pending kind := by
  obtain ⟨free, unheld, entries⟩ := exists_remember table request result pending domain
  unfold Pending
  rw [entries]
  constructor
  · rintro ⟨slot, valid, isPending, isKind⟩
    by_cases same : slot = free
    · subst same
      rw [Function.update_self] at isPending isKind
      exact Or.inl ⟨isPending, isKind⟩
    · rw [Function.update_of_ne same] at valid isPending isKind
      exact Or.inr ⟨slot, valid, isPending, isKind⟩
  · rintro (⟨isPending, isKind⟩ | ⟨slot, valid, isPending, isKind⟩)
    · refine ⟨free, ?_⟩
      rw [Function.update_self]
      exact ⟨rfl, isPending, isKind⟩
    · have different : slot ≠ free := by
        rintro rfl
        rw [pendingKey_eq_some.mpr ⟨valid, isPending, rfl⟩] at unheld
        cases unheld
      refine ⟨slot, ?_⟩
      rw [Function.update_of_ne different]
      exact ⟨valid, isPending, isKind⟩

/-- Finishing leaves no pending transaction that was not pending before. -/
theorem pending_of_finish {executor : CommandExecutor} {guard : FinOvertravelGuard}
    {transactionId : UInt8} {phase : CommandPhase} {reason : CommandReason} {detail : UInt32}
    {kind : Entry → Prop}
    (pending : (executor.finish guard transactionId phase reason detail).2.1.Pending kind) :
    executor.Pending kind := by
  have outcome := executor.finishOutcome guard transactionId phase reason detail
  generalize executor.finish guard transactionId phase reason detail = next at outcome pending
  cases outcome with
  | refused => exact pending
  | finished finished =>
      obtain ⟨slot, valid, isPending, isKind⟩ := pending
      dsimp only at valid isPending isKind
      by_cases same : slot = finished
      · subst same
        rw [Function.update_self] at isPending
        cases isPending
      · rw [Function.update_of_ne same] at valid isPending isKind
        exact ⟨slot, valid, isPending, isKind⟩

/-- The actuator emergency adds no pending transaction. -/
theorem pending_of_actuatorEmergency {executor : CommandExecutor} {transactionId : UInt8}
    {state : MissionState} {kind : Entry → Prop}
    (pending : (executor.actuatorEmergency transactionId state).2.Pending kind) :
    executor.Pending kind := by
  have outcome := executor.emergencyOutcome transactionId state
  generalize executor.actuatorEmergency transactionId state = next at outcome pending
  cases outcome with
  | refused => exact pending
  | accepted nonzero receiving executes interrupts results =>
      obtain ⟨ages, entries⟩ := interrupts
      obtain ⟨slot, valid, isPending, isKind⟩ := pending
      dsimp only at valid isPending isKind
      rw [entries] at valid isPending isKind
      split at isPending
      · cases isPending
      · next untouched =>
        rw [if_neg untouched] at valid isKind
        exact ⟨slot, valid, isPending, isKind⟩

/-! ### A command with everything ready -/

/-- A request with no arguments. -/
def plainRequest (transactionId : UInt8) (code : CommandCode) : GenericCommandRequest where
  transactionId := transactionId
  command := code.raw

/-- Command receive with every device and resource ready. -/
def readyContext : CommandContext where
  resourcesPreallocated := true
  calibrationSupported := true
  storageExportSupported := true
  finSafeCommandsSupported := true

end CommandExecutor

end MissionBoard.Mission
