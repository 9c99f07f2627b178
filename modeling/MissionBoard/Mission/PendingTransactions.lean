import MissionBoard.Mission.CommandTable

/-!
Owns the executor as its callers see it: which transaction ids are pending, and in
which domain. Each operation changes this view at the ids it names and at no other.
-/

namespace MissionBoard.Mission

open Protocol Control

namespace CommandExecutor

/-- The domain of a pending transaction, by its id. -/
def pendingDomain (executor : CommandExecutor) (transactionId : UInt8) : Option CommandDomain :=
  match executor.find transactionId with
  | some slot =>
      if (executor.entries slot).pending then some (executor.entries slot).domain else none
  | none => none

section Table

variable {executor : CommandExecutor} (table : TableInvariant executor)

include table

theorem pendingDomain_eq_some {transactionId : UInt8} {domain : CommandDomain} :
    executor.pendingDomain transactionId = some domain ↔
      executor.Pending fun entry =>
        entry.request.transactionId = transactionId ∧ entry.domain = domain := by
  unfold pendingDomain Pending
  constructor
  · intro stands
    cases found : executor.find transactionId with
    | none =>
        rw [found] at stands
        cases stands
    | some slot =>
        rw [found] at stands
        dsimp only at stands
        obtain ⟨valid, same⟩ := transactionKey_eq_some.mp (transactionKey_of_find found)
        split at stands
        · next pending => exact ⟨slot, valid, pending, same, Option.some.inj stands⟩
        · cases stands
  · rintro ⟨slot, valid, pending, same, files⟩
    rw [find_of_transactionKey table (transactionKey_eq_some.mpr ⟨valid, same⟩)]
    dsimp only
    rw [if_pos pending, files]

theorem pendingDomain_eq_none {transactionId : UInt8} :
    executor.pendingDomain transactionId = none ↔
      ¬ executor.Pending fun entry => entry.request.transactionId = transactionId := by
  constructor
  · rintro stopped ⟨slot, valid, pending, same⟩
    have stands := (pendingDomain_eq_some table).mpr
      ⟨slot, valid, pending, same, (rfl : (executor.entries slot).domain = _)⟩
    rw [stopped] at stands
    cases stands
  · intro absent
    cases stands : executor.pendingDomain transactionId with
    | none => rfl
    | some domain =>
        obtain ⟨slot, valid, pending, same, -⟩ := (pendingDomain_eq_some table).mp stands
        exact absurd ⟨slot, valid, pending, same⟩ absent

omit table in
/-- An id the table does not know is not pending. -/
theorem pendingDomain_of_find {transactionId : UInt8}
    (fresh : executor.find transactionId = none) : executor.pendingDomain transactionId = none := by
  unfold pendingDomain
  rw [fresh]

/-- Two tables whose pending transactions correspond have the same view. -/
private theorem pendingDomain_congr {later : CommandExecutor} (laterTable : TableInvariant later)
    {transactionId : UInt8}
    (same : ∀ domain, (later.Pending fun entry =>
        entry.request.transactionId = transactionId ∧ entry.domain = domain) ↔
      executor.Pending fun entry =>
        entry.request.transactionId = transactionId ∧ entry.domain = domain) :
    later.pendingDomain transactionId = executor.pendingDomain transactionId := by
  apply Option.ext
  intro domain
  rw [pendingDomain_eq_some laterTable, pendingDomain_eq_some table, same domain]

/-! ### Begin and finish -/

/-- A command that `begin` does not accept changes no pending transaction. -/
theorem pendingDomain_begin_refused {guard : FinOvertravelGuard} {request : GenericCommandRequest}
    {context : CommandContext}
    (refuses : (executor.begin guard request context).1.execute = false) :
    (executor.begin guard request context).2.1.pendingDomain = executor.pendingDomain := by
  have laterTable := tableInvariant_begin table guard request context
  have outcome := executor.beginOutcome guard request context
  generalize executor.begin guard request context = next at outcome refuses laterTable ⊢
  cases outcome with
  | answered => rfl
  | rejected =>
      funext transactionId
      apply pendingDomain_congr table laterTable
      intro domain
      rw [pending_remember table]
      simp
  | accepted => cases refuses

/-- An accepted command was unknown to the table and is pending in its domain. -/
theorem pendingDomain_begin_accepted {guard : FinOvertravelGuard} {request : GenericCommandRequest}
    {context : CommandContext}
    (accepts : (executor.begin guard request context).1.execute = true) :
    executor.find request.transactionId = none ∧
      (executor.begin guard request context).1.domain = domainFor (codeOf request) ∧
      (executor.begin guard request context).2.1.pendingDomain =
        Function.update executor.pendingDomain request.transactionId
          (some (domainFor (codeOf request))) := by
  have laterTable := tableInvariant_begin table guard request context
  have outcome := executor.beginOutcome guard request context
  generalize executor.begin guard request context = next at outcome accepts laterTable ⊢
  cases outcome with
  | answered refuses =>
      rw [refuses] at accepts
      cases accepts
  | rejected => cases accepts
  | accepted nonzero fresh =>
      refine ⟨fresh, rfl, ?_⟩
      funext transactionId
      by_cases same : transactionId = request.transactionId
      · subst same
        rw [Function.update_self, pendingDomain_eq_some laterTable, pending_remember table]
        exact Or.inl ⟨rfl, rfl, rfl⟩
      · rw [Function.update_of_ne same]
        apply pendingDomain_congr table laterTable
        intro domain
        rw [pending_remember table]
        have other : ¬ (true = true ∧ request.transactionId = transactionId ∧
            domainFor (codeOf request) = domain) := fun both => same both.2.1.symm
        exact or_iff_right other

/-- A terminal `finish` ends the transaction and touches no other. -/
theorem pendingDomain_finish (guard : FinOvertravelGuard) (transactionId : UInt8)
    {phase : CommandPhase} (reason : CommandReason) (detail : UInt32)
    (terminal : phase = .completed ∨ phase = .failed) :
    (executor.finish guard transactionId phase reason detail).2.1.pendingDomain =
      Function.update executor.pendingDomain transactionId none := by
  have laterTable := tableInvariant_finish table guard transactionId phase reason detail
  have outcome := executor.finishOutcome guard transactionId phase reason detail
  generalize executor.finish guard transactionId phase reason detail = next at outcome laterTable ⊢
  cases outcome with
  | refused settled =>
      symm
      apply Function.update_eq_self_iff.mpr
      unfold pendingDomain
      cases found : executor.find transactionId with
      | none => rfl
      | some slot =>
          dsimp only
          split
          · next pending => exact absurd terminal (settled slot found pending)
          · rfl
  | finished slot found pending =>
      obtain ⟨valid, answers⟩ := transactionKey_eq_some.mp (transactionKey_of_find found)
      funext other
      by_cases same : other = transactionId
      · subst same
        rw [Function.update_self, pendingDomain_eq_none laterTable]
        rintro ⟨held, heldValid, heldPending, heldSame⟩
        dsimp only at heldValid heldPending heldSame
        by_cases here : held = slot
        · subst here
          rw [Function.update_self] at heldPending
          cases heldPending
        · rw [Function.update_of_ne here] at heldValid heldSame
          exact here (table.transactions held slot other
            (transactionKey_eq_some.mpr ⟨heldValid, heldSame⟩)
            (transactionKey_eq_some.mpr ⟨valid, answers⟩))
      · rw [Function.update_of_ne same]
        apply pendingDomain_congr table laterTable
        intro domain
        have elsewhere : ∀ held, (executor.entries held).request.transactionId = other →
            held ≠ slot := by
          rintro held heldSame rfl
          exact same (heldSame.symm.trans answers)
        constructor
        · rintro ⟨held, heldValid, heldPending, heldSame, files⟩
          dsimp only at heldValid heldPending heldSame files
          by_cases here : held = slot
          · subst here
            rw [Function.update_self] at heldPending
            cases heldPending
          · rw [Function.update_of_ne here] at heldValid heldPending heldSame files
            exact ⟨held, heldValid, heldPending, heldSame, files⟩
        · rintro ⟨held, heldValid, heldPending, heldSame, files⟩
          refine ⟨held, ?_⟩
          dsimp only
          rw [Function.update_of_ne (elsewhere held heldSame)]
          exact ⟨heldValid, heldPending, heldSame, files⟩

/-- The result of `finish` carries the transaction and the phase it was called with,
or says that no such transaction is pending. -/
theorem finish_result (guard : FinOvertravelGuard) (transactionId : UInt8)
    {phase : CommandPhase} (reason : CommandReason) (detail : UInt32)
    (terminal : phase = .completed ∨ phase = .failed) :
    (executor.finish guard transactionId phase reason detail).1.transactionId = transactionId ∧
      ((executor.finish guard transactionId phase reason detail).1.phase = .completed ∨
        (executor.finish guard transactionId phase reason detail).1.phase = .failed) ∧
      (executor.pendingDomain transactionId = none →
        (executor.finish guard transactionId phase reason detail).1.command = 0) := by
  have outcome := executor.finishOutcome guard transactionId phase reason detail
  generalize executor.finish guard transactionId phase reason detail = next at outcome ⊢
  cases outcome with
  | refused => exact ⟨rfl, Or.inr rfl, fun _ => rfl⟩
  | finished slot found pending =>
      obtain ⟨valid, answers⟩ := transactionKey_eq_some.mp (transactionKey_of_find found)
      refine ⟨(table.answered slot valid).1.trans answers, terminal, fun stopped => ?_⟩
      unfold pendingDomain at stopped
      rw [found] at stopped
      dsimp only at stopped
      rw [if_pos pending] at stopped
      cases stopped

/-! ### The command of a result -/

omit table in
/-- A result that `begin` decides without accepting or repeating is a rejection. -/
theorem phase_of_begin {guard : FinOvertravelGuard} {request : GenericCommandRequest}
    {context : CommandContext}
    (refuses : (executor.begin guard request context).1.execute = false)
    (fresh : (executor.begin guard request context).1.replay = false) :
    (executor.begin guard request context).1.result.phase = .rejected := by
  unfold begin at refuses fresh ⊢
  by_cases zero : request.transactionId = 0
  · rw [if_pos zero]
    rfl
  · rw [if_neg zero] at refuses fresh ⊢
    cases found : executor.find request.transactionId with
    | some slot =>
        rw [found] at fresh
        dsimp only at fresh ⊢
        by_cases same : (executor.entries slot).request = request
        · rw [if_pos same] at fresh
          cases fresh
        · rw [if_neg same]
          rfl
    | none =>
        rw [found] at refuses
        dsimp only at refuses ⊢
        by_cases rejects :
            executor.rejection (guardAtBegin guard context) request context ≠ .none
        · rw [if_pos rejects]
          rfl
        · rw [if_neg rejects] at refuses
          cases refuses

/-- The result of every pending transaction names its command. -/
def NamesCommands (executor : CommandExecutor) : Prop :=
  ¬ executor.Pending fun entry => entry.result.command = 0

omit table in
theorem namesCommands_initial : NamesCommands {} := by
  rintro ⟨slot, valid, -⟩
  cases valid

theorem namesCommands_begin (names : executor.NamesCommands) (guard : FinOvertravelGuard)
    (request : GenericCommandRequest) (context : CommandContext) :
    (executor.begin guard request context).2.1.NamesCommands := by
  have outcome := executor.beginOutcome guard request context
  generalize executor.begin guard request context = next at outcome ⊢
  unfold NamesCommands
  cases outcome with
  | answered => exact names
  | rejected =>
      rw [pending_remember table]
      rintro (⟨pending, -⟩ | earlier)
      · cases pending
      · exact names earlier
  | accepted nonzero fresh admits =>
      have known : (!commandKnown (codeOf request)) = false :=
        admitted_iff.mp admits (!commandKnown (codeOf request), .notSupported)
          (by simp [rejectionChecks])
      rw [pending_remember table]
      rintro (⟨-, unnamed⟩ | earlier)
      · have zero : request.command = 0 := unnamed
        unfold commandKnown codeOf at known
        rw [zero] at known
        revert known
        decide
      · exact names earlier

omit table in
theorem namesCommands_finish (names : executor.NamesCommands) (guard : FinOvertravelGuard)
    (transactionId : UInt8) (phase : CommandPhase) (reason : CommandReason) (detail : UInt32) :
    (executor.finish guard transactionId phase reason detail).2.1.NamesCommands :=
  fun unnamed => names (pending_of_finish unnamed)

omit table in
theorem namesCommands_emergency (names : executor.NamesCommands) (transactionId : UInt8)
    (state : MissionState) :
    (executor.actuatorEmergency transactionId state).2.NamesCommands :=
  fun unnamed => names (pending_of_actuatorEmergency unnamed)

/-- The result of `finish` names a command exactly when the transaction was pending. -/
theorem command_of_finish (names : executor.NamesCommands) (guard : FinOvertravelGuard)
    {transactionId : UInt8} {phase : CommandPhase} (reason : CommandReason) (detail : UInt32)
    (terminal : phase = .completed ∨ phase = .failed) :
    (executor.finish guard transactionId phase reason detail).1.command ≠ 0 ↔
      executor.pendingDomain transactionId ≠ none := by
  have unfound := (finish_result table guard transactionId reason detail terminal).2.2
  refine ⟨fun named stopped => named (unfound stopped), fun stands unnamed => ?_⟩
  obtain ⟨domain, stands⟩ := Option.ne_none_iff_exists'.mp stands
  obtain ⟨slot, valid, pending, same, -⟩ := (pendingDomain_eq_some table).mp stands
  have found : executor.finishSlot transactionId phase = some slot := by
    unfold finishSlot
    rw [find_of_transactionKey table (transactionKey_eq_some.mpr ⟨valid, same⟩)]
    dsimp only
    rw [if_pos ⟨pending, terminal⟩]
  unfold finish at unnamed
  rw [found] at unnamed
  exact names ⟨slot, valid, pending, unnamed⟩

/-! ### The actuator emergency -/

/-- The slots an accepted emergency interrupts. -/
def interruptedSlots (executor : CommandExecutor) : List (Fin 16) :=
  (List.finRange 16).filter fun slot => interruptible (executor.entries slot)

omit table in
theorem mem_interruptedSlots {slot : Fin 16} :
    slot ∈ executor.interruptedSlots ↔
      (executor.entries slot).pending = true ∧
        ((executor.entries slot).domain = .fin ∨ (executor.entries slot).domain = .parachute) := by
  unfold interruptedSlots interruptible
  simp only [List.mem_filter, List.mem_finRange, true_and, Bool.and_eq_true, Bool.or_eq_true,
    beq_iff_eq]

/-- One fin and one parachute transaction at most are interrupted. -/
theorem length_interruptedSlots : executor.interruptedSlots.length ≤ 2 := by
  have distinct : (executor.interruptedSlots.map fun slot =>
      (executor.entries slot).domain).Nodup := by
    apply List.Nodup.map_on
    · intro left leftMember right rightMember same
      obtain ⟨leftPending, -⟩ := mem_interruptedSlots.mp leftMember
      obtain ⟨rightPending, -⟩ := mem_interruptedSlots.mp rightMember
      exact table.domains left right (executor.entries left).domain
        (pendingKey_eq_some.mpr ⟨table.pendingValid left leftPending, leftPending, rfl⟩)
        (pendingKey_eq_some.mpr ⟨table.pendingValid right rightPending, rightPending, same.symm⟩)
    · exact (List.nodup_finRange 16).filter _
  have within : (executor.interruptedSlots.map fun slot => (executor.entries slot).domain) ⊆
      [.fin, .parachute] := by
    intro domain member
    obtain ⟨slot, slotMember, rfl⟩ := List.mem_map.mp member
    rcases (mem_interruptedSlots.mp slotMember).2 with fin | parachute
    · rw [fin]
      exact List.mem_cons_self
    · rw [parachute]
      exact List.mem_cons_of_mem _ List.mem_cons_self
  have bound := (List.subperm_of_subset distinct within).length_le
  rwa [List.length_map] at bound

/-- What an accepted emergency does: it reports each interrupted transaction once,
as failed, and ends exactly the reported ones. -/
theorem pendingDomain_emergency {transactionId : UInt8} {state : MissionState}
    (accepts : (executor.actuatorEmergency transactionId state).1.execute = true) :
    ((executor.actuatorEmergency transactionId state).1.interrupted.map
        CommandResult.transactionId).Nodup ∧
      (∀ result ∈ (executor.actuatorEmergency transactionId state).1.interrupted,
        result.phase = .failed ∧
          (executor.pendingDomain result.transactionId = some .fin ∨
            executor.pendingDomain result.transactionId = some .parachute)) ∧
      (executor.actuatorEmergency transactionId state).2.pendingDomain = fun id =>
        if id ∈ (executor.actuatorEmergency transactionId state).1.interrupted.map
          CommandResult.transactionId then none
        else executor.pendingDomain id := by
  have laterTable := tableInvariant_actuatorEmergency table transactionId state
  have outcome := executor.emergencyOutcome transactionId state
  generalize executor.actuatorEmergency transactionId state = next at outcome accepts laterTable ⊢
  cases outcome with
  | refused refuses =>
      rw [refuses] at accepts
      cases accepts
  | @accepted decision later nonzero receiving executes interrupts results =>
      obtain ⟨ages, entries⟩ := interrupts
      have all : decision.interrupted =
          executor.interruptedSlots.map fun slot => interruptedResult (executor.entries slot) := by
        rw [results]
        apply List.take_of_length_le
        rw [List.length_map]
        exact length_interruptedSlots table
      have named : ∀ slot ∈ executor.interruptedSlots,
          (executor.entries slot).valid = true ∧
            (interruptedResult (executor.entries slot)).transactionId =
              (executor.entries slot).request.transactionId := by
        intro slot member
        have valid := table.pendingValid slot (mem_interruptedSlots.mp member).1
        exact ⟨valid, (table.answered slot valid).1⟩
      have ids : ∀ id, id ∈ decision.interrupted.map CommandResult.transactionId ↔
          ∃ slot ∈ executor.interruptedSlots,
            (executor.entries slot).request.transactionId = id := by
        intro id
        rw [all, List.map_map, List.mem_map]
        constructor
        · rintro ⟨slot, member, same⟩
          exact ⟨slot, member, (named slot member).2.symm.trans same⟩
        · rintro ⟨slot, member, same⟩
          exact ⟨slot, member, (named slot member).2.trans same⟩
      refine ⟨?_, ?_, ?_⟩
      · dsimp only
        rw [all, List.map_map]
        apply List.Nodup.map_on
        · intro left leftMember right rightMember same
          obtain ⟨leftValid, leftNamed⟩ := named left leftMember
          obtain ⟨rightValid, rightNamed⟩ := named right rightMember
          have sameId : (executor.entries left).request.transactionId =
              (executor.entries right).request.transactionId :=
            leftNamed.symm.trans (Eq.trans same rightNamed)
          exact table.transactions left right _
            (transactionKey_eq_some.mpr ⟨leftValid, rfl⟩)
            (transactionKey_eq_some.mpr ⟨rightValid, sameId.symm⟩)
        · exact (List.nodup_finRange 16).filter _
      · intro result member
        dsimp only at member
        rw [all] at member
        obtain ⟨slot, slotMember, rfl⟩ := List.mem_map.mp member
        obtain ⟨valid, answers⟩ := named slot slotMember
        obtain ⟨pending, domain⟩ := mem_interruptedSlots.mp slotMember
        refine ⟨rfl, ?_⟩
        rw [answers, pendingDomain_eq_some table, pendingDomain_eq_some table]
        exact domain.imp (fun fin => ⟨slot, valid, pending, rfl, fin⟩)
          (fun parachute => ⟨slot, valid, pending, rfl, parachute⟩)
      · funext id
        dsimp only at laterTable ⊢
        by_cases interrupted : id ∈ decision.interrupted.map CommandResult.transactionId
        · rw [if_pos interrupted, pendingDomain_eq_none laterTable]
          obtain ⟨slot, member, same⟩ := (ids id).mp interrupted
          rintro ⟨held, heldValid, heldPending, heldSame⟩
          rw [entries] at heldValid heldPending heldSame
          by_cases broken : interruptible (executor.entries held) = true
          · rw [if_pos broken] at heldPending
            cases heldPending
          · rw [if_neg broken] at heldValid heldSame
            have here : held = slot := table.transactions held slot id
              (transactionKey_eq_some.mpr ⟨heldValid, heldSame⟩)
              (transactionKey_eq_some.mpr ⟨(named slot member).1, same⟩)
            subst here
            exact broken (List.mem_filter.mp member).2
        · rw [if_neg interrupted]
          apply pendingDomain_congr table laterTable
          intro domain
          have untouched : ∀ slot, (executor.entries slot).request.transactionId = id →
              later.entries slot = executor.entries slot := by
            intro slot same
            rw [entries, if_neg]
            intro broken
            exact interrupted ((ids id).mpr
              ⟨slot, List.mem_filter.mpr ⟨List.mem_finRange slot, broken⟩, same⟩)
          have requests : ∀ slot, (later.entries slot).request = (executor.entries slot).request := by
            intro slot
            rw [entries]
            split <;> rfl
          constructor
          · rintro ⟨slot, valid, pending, same, files⟩
            rw [requests] at same
            rw [untouched slot same] at valid pending files
            exact ⟨slot, valid, pending, same, files⟩
          · rintro ⟨slot, valid, pending, same, files⟩
            refine ⟨slot, ?_⟩
            rw [untouched slot same]
            exact ⟨valid, pending, same, files⟩

omit table in
/-- Only a stop with a transaction, in command receive, is accepted. -/
theorem emergency_accepted {transactionId : UInt8} {state : MissionState}
    (accepts : (executor.actuatorEmergency transactionId state).1.execute = true) :
    transactionId ≠ 0 ∧ state = .commandReceive := by
  have outcome := executor.emergencyOutcome transactionId state
  generalize executor.actuatorEmergency transactionId state = next at outcome accepts
  cases outcome with
  | refused refuses =>
      rw [refuses] at accepts
      cases accepts
  | accepted nonzero receiving => exact ⟨nonzero, receiving⟩

omit table in
/-- A refused emergency changes nothing. -/
theorem emergency_refused {transactionId : UInt8} {state : MissionState}
    (refuses : (executor.actuatorEmergency transactionId state).1.execute = false) :
    (executor.actuatorEmergency transactionId state).2 = executor := by
  have outcome := executor.emergencyOutcome transactionId state
  generalize executor.actuatorEmergency transactionId state = next at outcome refuses ⊢
  cases outcome with
  | refused => rfl
  | accepted nonzero receiving executes =>
      rw [executes] at refuses
      cases refuses

end Table

end CommandExecutor

end MissionBoard.Mission
