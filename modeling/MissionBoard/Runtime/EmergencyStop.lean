import MissionBoard.Runtime.Bookkeeping

/-!
Owns the dominance of the emergency stop over commands that are under way: no transaction
is answered twice, and no interrupted command acts once the stop has been applied.

The tasks hold commands in more places than the stop looks at. It ends every pending fin and
parachute transaction in the table, but leaves what the worker and the two command queues
hold, so the condition is that they hold no such command when the stop is accepted.
-/

namespace MissionBoard.Runtime

open Protocol Control Mission CommandExecutor
open TransactionLedger

namespace CommandPipeline

section Step

variable {pipeline : CommandPipeline}

/-! ### What `parachuteTask` has taken -/

/-- A transaction that is about to act is one the task has taken. -/
theorem mem_lent_of_armed {transactionId : UInt8} (armed : transactionId ∈ pipeline.armed) :
    transactionId ∈ pipeline.parachute.lent := by
  unfold ParachuteTask.lent
  rw [Multiset.mem_add, Multiset.mem_add]
  rcases armed with starting | ⟨pending, same, -⟩
  · exact Or.inl (Or.inl starting)
  · refine Or.inl (Or.inr ?_)
    unfold MotionOperation.lent
    rw [if_pos (Or.inl pending), same]
    exact Multiset.mem_singleton_self _

/-- A step of `parachuteTask` that takes nothing and starts nothing. -/
private theorem Bookkept.narrow {next : CommandPipeline} (kept : Bookkept pipeline)
    (executor : next.executor = pipeline.executor) (filed : Filed next.worker)
    (owed : next.owed = pipeline.owed) (lent : next.parachute.lent ≤ pipeline.parachute.lent)
    (armed : next.armed ⊆ pipeline.armed)
    (applying : next.realtime.applying = pipeline.realtime.applying)
    (trace : next.trace = pipeline.trace) : Bookkept next := by
  refine ⟨executor ▸ kept.executor, filed, kept.sound.move (.shrink ?_ owed.le lent ?_ ?_ trace)⟩
  · exact congrArg CommandExecutor.pendingDomain executor
  · exact fun transactionId member => ⟨armed member, mem_lent_of_armed member⟩
  · show next.reporting = pipeline.reporting
    unfold reporting
    rw [applying]

/-- Nothing is armed while no move waits to start. -/
private theorem armed_subset_of_idle (phase : pipeline.parachute.phase.lent = 0)
    (idle : pipeline.parachute.operation.pendingStart = false) (before : Set UInt8) :
    pipeline.armed ⊆ before := by
  rintro transactionId (starting | ⟨pending, -, -⟩)
  · rw [phase] at starting
    exact absurd starting (Multiset.notMem_zero _)
  · rw [idle] at pending
    cases pending

/-- What the task has taken outside `startMove`. -/
private def carried (task : ParachuteTask) : Multiset UInt8 :=
  task.operation.lent + task.completion.lent

private theorem lent_of_phase {task : ParachuteTask} (phase : task.phase.lent = 0) :
    task.lent = carried task := by
  unfold ParachuteTask.lent carried
  rw [phase, zero_add]

private theorem carried_le_lent (task : ParachuteTask) : carried task ≤ task.lent := by
  unfold carried ParachuteTask.lent
  rw [add_assoc]
  exact Multiset.le_add_left _ _

/-- The task goes on with no more than it has taken, and starts no operation anew. -/
private theorem Bookkept.advance (kept : Bookkept pipeline) {task : ParachuteTask}
    (phase : task.phase.lent = 0) (lent : carried task ≤ pipeline.parachute.lent)
    (operation : task.operation.pendingStart = true →
      task.operation = pipeline.parachute.operation)
    (drains : pipeline.dropsOperation = true → task.phase.drains = true) :
    Bookkept { pipeline with parachute := task } := by
  refine kept.narrow rfl kept.filed rfl ?_ ?_ rfl rfl
  · show task.lent ≤ _
    rw [lent_of_phase phase]
    exact lent
  · rintro transactionId (starting | ⟨pending, same, stays⟩)
    · have starting : transactionId ∈ task.phase.lent := starting
      rw [phase] at starting
      exact absurd starting (Multiset.notMem_zero _)
    · have pending : task.operation.pendingStart = true := pending
      have same : task.operation.transactionId = transactionId := same
      have operation := operation pending
      rw [operation] at pending same
      refine Or.inr ⟨pending, same, ?_⟩
      by_contra dropped
      have dropped := Bool.eq_true_of_not_eq_false dropped
      have met := drains dropped
      unfold dropsOperation at stays dropped
      rw [Bool.and_eq_true] at dropped
      have stays : (task.phase.drains && pipeline.paraQueue.items.any ParaRequest.drops) = false :=
        stays
      rw [met, dropped.2] at stays
      cases stays

/-- The task goes on with its operation and its completion as they were. -/
private theorem Bookkept.stay (kept : Bookkept pipeline) {task : ParachuteTask}
    (phase : task.phase.lent = 0) (operation : task.operation = pipeline.parachute.operation)
    (completion : task.completion = pipeline.parachute.completion)
    (drains : pipeline.dropsOperation = true → task.phase.drains = true) :
    Bookkept { pipeline with parachute := task } := by
  refine kept.advance phase (le_trans (le_of_eq ?_) (carried_le_lent _)) (fun _ => operation)
    drains
  unfold carried
  rw [operation, completion]

private theorem Bookkept.atPhase (kept : Bookkept pipeline) {phase : ParachutePhase}
    (lent : phase.lent = 0) (drains : pipeline.dropsOperation = true → phase.drains = true) :
    Bookkept (pipeline.atPhase phase) :=
  kept.stay lent rfl rfl drains

/-- The task goes on with no more than `spare` and what it carried, and starts no operation
anew. -/
private structure Spends (task later : ParachuteTask) (spare : Multiset UInt8) : Prop where
  carried : carried later ≤ spare + carried task
  operation : later.operation.pendingStart = true → later.operation = task.operation

private theorem same_establishHold (task : ParachuteTask) (holdOk : Bool) :
    (task.establishHold holdOk).operation = task.operation ∧
      (task.establishHold holdOk).completion = task.completion := by
  unfold ParachuteTask.establishHold
  split <;> exact ⟨rfl, rfl⟩

private theorem carried_queueGenericCompletion_le (task : ParachuteTask) (transactionId : UInt8)
    (reason : CommandReason) :
    carried (task.queueGenericCompletion transactionId reason) ≤
      {transactionId} + carried task := by
  unfold ParachuteTask.queueGenericCompletion
  split
  · exact Multiset.le_add_left _ _
  · show task.operation.lent + {transactionId} ≤ {transactionId} + (_ + _)
    rw [add_comm]
    exact add_le_add le_rfl (Multiset.le_add_right _ _)

private theorem operation_queueGenericCompletion (task : ParachuteTask) (transactionId : UInt8)
    (reason : CommandReason) :
    (task.queueGenericCompletion transactionId reason).operation = task.operation := by
  unfold ParachuteTask.queueGenericCompletion
  split <;> rfl

private theorem spends_startAutomatic (task : ParachuteTask) (input : ParachuteInput) :
    Spends task (task.startAutomatic input) 0 := by
  obtain ⟨operation, completion⟩ := same_establishHold
    { task with openedEpoch := task.automaticOpenEpoch } input.holdOk
  unfold ParachuteTask.startAutomatic
  dsimp only at operation completion ⊢
  generalize ParachuteTask.establishHold _ _ = held at operation completion ⊢
  split
  · refine ⟨?_, nofun⟩
    show 0 + held.completion.lent ≤ 0 + (_ + _)
    rw [completion, zero_add, zero_add]
    exact Multiset.le_add_left _ _
  · refine ⟨?_, fun _ => operation⟩
    show held.operation.lent + held.completion.lent ≤ _
    rw [operation, completion, zero_add]
    exact le_rfl

private theorem spends_startGeneric (task : ParachuteTask) (transactionId : UInt8)
    (move : ParachuteMove) (input : ParachuteInput) :
    Spends task (task.startGeneric transactionId move input) {transactionId} := by
  obtain ⟨operation, completion⟩ := same_establishHold task input.holdOk
  have same : carried (task.establishHold input.holdOk) = carried task := by
    unfold carried
    rw [operation, completion]
  unfold ParachuteTask.startGeneric
  dsimp only
  generalize task.establishHold input.holdOk = held at operation completion same ⊢
  split
  · refine ⟨?_, nofun⟩
    show {transactionId} + held.completion.lent ≤ {transactionId} + (_ + _)
    rw [completion]
    exact add_le_add le_rfl (Multiset.le_add_left _ _)
  · refine ⟨?_, fun _ => (operation_queueGenericCompletion _ _ _).trans operation⟩
    rw [← same]
    exact carried_queueGenericCompletion_le held transactionId _

private theorem spends_watchOperation (task : ParachuteTask) (input : ParachuteInput) :
    Spends task (task.watchOperation input) 0 := by
  obtain ⟨operation, completion⟩ := same_establishHold { task with operation := {} } input.holdOk
  unfold ParachuteTask.watchOperation
  dsimp only at operation completion ⊢
  have ended : ∃ ended : ParachuteTask, ended.operation = {} ∧
      ended.completion = task.completion ∧ ended =
        if input.holdOk then { task with operation := {} }.establishHold input.holdOk
        else ({ task with operation := {} }.establishHold input.holdOk).resetTransport := by
    refine ⟨_, ?_, ?_, rfl⟩
    · split
      · exact operation
      · exact operation
    · split
      · exact completion
      · exact completion
  obtain ⟨ended, operation, completion, same⟩ := ended
  rw [← same]
  have untaken : carried ended ≤ carried task := by
    unfold carried
    rw [operation, completion]
    exact add_le_add (Multiset.zero_le _) le_rfl
  have dropped : Spends task ended 0 := by
    refine ⟨?_, ?_⟩
    · rw [zero_add]
      exact untaken
    · rw [operation]
      exact nofun
  have completes : task.operation.active = true → task.operation.automatic = false →
      ∀ reason, Spends task
        (ended.queueGenericCompletion task.operation.transactionId reason) 0 := by
    intro active commanded reason
    refine ⟨?_, ?_⟩
    · have held : task.operation.lent = {task.operation.transactionId} := by
        unfold MotionOperation.lent
        rw [if_pos (Or.inr ⟨active, commanded⟩)]
      refine (carried_queueGenericCompletion_le ended _ reason).trans (le_of_eq ?_)
      unfold carried
      rw [operation, completion, held, zero_add]
      show _ + (0 + _) = _
      rw [zero_add]
    · rw [operation_queueGenericCompletion, operation]
      exact nofun
  have unchanged : Spends task task 0 := ⟨(zero_add _).ge, fun _ => rfl⟩
  split
  · exact unchanged
  · next active =>
    have active := Bool.eq_true_of_not_eq_false active
    split
    · split
      · exact dropped
      · next commanded => exact completes active (Bool.eq_false_of_not_eq_true commanded) _
    · split
      · split
        · exact dropped
        · next commanded => exact completes active (Bool.eq_false_of_not_eq_true commanded) _
      · exact unchanged

/-! ### The steps of `parachuteTask` -/

/-- A step that answers a transaction the task has taken, while it stands. -/
private theorem Bookkept.repay {next : CommandPipeline} (kept : Bookkept pipeline)
    {transactionId : UInt8} (stands : pipeline.executor.pendingDomain transactionId ≠ none)
    (executor : next.executor = pipeline.executor) (filed : Filed next.worker)
    (owed : next.owed = pipeline.owed)
    (lent : pipeline.parachute.lent = transactionId ::ₘ next.parachute.lent)
    (armed : next.armed ⊆ pipeline.armed) (reporting : next.reporting = pipeline.reporting)
    (trace : next.trace = pipeline.trace) (reason : CommandReason) (detail : UInt32) :
    Bookkept (next.settle transactionId reason detail) := by
  have same : ExecutorKept next.executor := executor ▸ kept.executor
  refine ⟨same.finish _ _ _ _ _, filed, ?_⟩
  rw [books_settle same.table]
  refine kept.sound.move (.repay transactionId stands ?_ owed lent ?_ reporting ?_)
  · show Function.update next.executor.pendingDomain transactionId none = _
    rw [executor]
    rfl
  · exact fun other member => ⟨armed member, mem_lent_of_armed member⟩
  · show next.trace ++ _ = pipeline.trace ++ _
    rw [trace]

/-- The result of an operation is sent while its transaction stands. -/
private theorem Bookkept.flush (kept : Bookkept pipeline) (input : ParachuteInput) :
    Bookkept (pipeline.flushGenericCompletion input) := by
  unfold flushGenericCompletion
  dsimp only
  split
  · next ready =>
    have table := kept.executor.table
    have terminal := phaseFor_terminal pipeline.parachute.completion.reason
    have stands := @command_of_finish _ table kept.executor.names pipeline.guard
      pipeline.parachute.completion.transactionId _ pipeline.parachute.completion.reason
      pipeline.parachute.completion.detail terminal
    have taken : pipeline.parachute.lent = pipeline.parachute.completion.transactionId ::ₘ
        ParachuteTask.lent { pipeline.parachute with completion := {} } := by
      unfold ParachuteTask.lent CommandCompletion.lent
      dsimp only
      rw [if_pos ready.1, if_neg Bool.false_ne_true, add_zero, ← Multiset.singleton_add,
        add_comm]
    split
    · next named =>
      exact @Bookkept.repay pipeline { pipeline with
        parachute := { pipeline.parachute with completion := {} } } kept _ (stands.mp named) rfl
        kept.filed rfl taken subset_rfl rfl rfl _ _
    · next unnamed =>
      have stopped : pipeline.executor.pendingDomain
          pipeline.parachute.completion.transactionId = none := by
        by_contra pending
        exact unnamed (stands.mpr pending)
      refine ⟨kept.executor.finish _ _ _ _ _, kept.filed,
        kept.sound.move (.shrink ?_ le_rfl ?_ ?_ rfl rfl)⟩
      · show (finish _ _ _ _ _ _).2.1.pendingDomain = _
        rw [pendingDomain_finish table _ _ _ _ terminal]
        exact Function.update_eq_self_iff.mpr stopped.symm
      · show _ ≤ pipeline.parachute.lent
        rw [taken]
        exact Multiset.le_cons_self _ _
      · intro transactionId member
        exact ⟨member, mem_lent_of_armed member⟩
  · exact kept

private theorem Bookkept.respond (kept : Bookkept pipeline) :
    Bookkept (pipeline.sendStartResponse.atPhase .draining) := by
  unfold sendStartResponse
  split
  · split
    · exact kept.atPhase rfl fun _ => rfl
    · next queue sent =>
      have responded : Bookkept { pipeline with startResponseQueue := queue } :=
        kept.transfer ⟨rfl, rfl, fun _ => id, rfl⟩ kept.filed le_rfl rfl
      exact responded.stay rfl rfl rfl fun _ => rfl
  · exact kept.atPhase rfl fun _ => rfl

/-- No request ends the operation once `para_queue` has been emptied. -/
private theorem dropsOperation_of_phase (past : pipeline.parachute.phase.drains = false) :
    pipeline.dropsOperation = false := by
  unfold dropsOperation
  rw [past, Bool.false_and]

private theorem Bookkept.drain (kept : Bookkept pipeline)
    (phase : pipeline.parachute.phase = .draining) (input : ParachuteInput) :
    Bookkept (pipeline.drainRequest input) := by
  unfold drainRequest
  split
  · next nothing =>
    refine kept.atPhase rfl fun drops => ?_
    unfold dropsOperation at drops
    rw [BoundedQueue.items_receive_none nothing, List.any_nil, Bool.and_false] at drops
    cases drops
  · next request rest taken =>
    have cleared : ∀ task : ParachuteTask, task.phase = pipeline.parachute.phase →
        task.operation = {} → task.completion = {} →
        Bookkept { pipeline with paraQueue := rest, parachute := task } := by
      intro task phases operation completion
      have between : task.phase.lent = 0 := by
        rw [phases, phase]
        rfl
      refine kept.narrow rfl kept.filed rfl ?_ (armed_subset_of_idle ?_ ?_ _) rfl rfl
      · show task.lent ≤ _
        unfold ParachuteTask.lent
        rw [between, operation, completion]
        exact Multiset.zero_le _
      · exact between
      · show task.operation.pendingStart = false
        rw [operation]
    unfold serveRequest
    cases kind : request.kind with
    | powerOff => exact cleared _ rfl rfl rfl
    | hold => exact cleared _ rfl rfl rfl
    | «open» =>
        -- An `open` request drops nothing, so what is left decides as the whole queue did.
        have stays : pipeline.paraQueue.items.any ParaRequest.drops =
            rest.items.any ParaRequest.drops := by
          rw [BoundedQueue.items_receive taken, List.any_cons]
          unfold ParaRequest.drops
          rw [kind]
          rfl
        have same : ∀ task : ParachuteTask, task.phase = pipeline.parachute.phase →
            task.operation = pipeline.parachute.operation →
            armed { pipeline with paraQueue := rest, parachute := task } ⊆ pipeline.armed := by
          intro task phases operation transactionId member
          unfold armed dropsOperation at member ⊢
          rw [stays]
          rw [phases, operation] at member
          exact member
        dsimp only
        split
        · exact kept.narrow rfl kept.filed rfl le_rfl (same _ rfl rfl) rfl rfl
        · exact kept.narrow rfl kept.filed rfl le_rfl (same _ rfl rfl) rfl rfl

/-- The task takes a command that was owed. -/
private theorem Bookkept.borrow {next : CommandPipeline} (kept : Bookkept pipeline)
    {transactionId : UInt8} {domain : CommandDomain}
    (executor : next.executor = pipeline.executor) (filed : Filed next.worker)
    (owed : pipeline.owed = (transactionId, domain) ::ₘ next.owed)
    (lent : next.parachute.lent = transactionId ::ₘ pipeline.parachute.lent)
    (armed : ∀ other ∈ next.armed, other = transactionId ∨ other ∈ pipeline.armed)
    (reporting : next.reporting = pipeline.reporting) (trace : next.trace = pipeline.trace) :
    Bookkept next := by
  refine ⟨executor ▸ kept.executor, filed,
    kept.sound.move (.lend transactionId domain ?_ owed lent armed reporting trace)⟩
  exact congrArg CommandExecutor.pendingDomain executor

private theorem Bookkept.take (kept : Bookkept pipeline)
    (phase : pipeline.parachute.phase = .taking) :
    Bookkept (pipeline.takeParachuteCommand.atPhase .driving) := by
  have stays : pipeline.dropsOperation = false := dropsOperation_of_phase (by rw [phase]; rfl)
  have unmet : pipeline.dropsOperation = true → ParachutePhase.driving.drains = true := by
    rw [stays]
    exact nofun
  unfold takeParachuteCommand
  dsimp only
  split
  · exact kept.atPhase rfl unmet
  · next free =>
    obtain ⟨inactive, unstarted, uncompleted, -⟩ := by
      rw [not_or, not_or, not_or] at free
      exact free
    have nothing : pipeline.parachute.lent = 0 := by
      unfold ParachuteTask.lent MotionOperation.lent CommandCompletion.lent
      rw [phase, if_neg fun either => either.elim unstarted fun runs => inactive runs.1,
        if_neg uncompleted]
      rfl
    split
    · exact kept.atPhase rfl unmet
    · next request rest taken =>
      have totals := @BoundedQueue.total_receive _ _ _ _ ParachuteCommandRequest.owed _ _ _ taken
      cases kind : request.kind with
      | startPreparation =>
          have received : Bookkept { pipeline with parachuteCommandQueue := rest } := by
            refine kept.transfer ⟨rfl, rfl, fun _ => id, rfl⟩ kept.filed (le_of_eq ?_) rfl
            unfold owed queued
            dsimp only
            rw [totals]
            unfold ParachuteCommandRequest.owed
            rw [kind, zero_add]
            rfl
          exact received.stay rfl rfl rfl unmet
      | generic =>
          have gone : pipeline.owed = owedFor request.command ::ₘ
              owed { pipeline with parachuteCommandQueue := rest } := by
            unfold owed queued
            dsimp only
            rw [totals, ← Multiset.singleton_add]
            have weight : request.owed = {owedFor request.command} := by
              unfold ParachuteCommandRequest.owed
              rw [kind]
            rw [weight]
            unfold exporting
            abel
          have lost : Bookkept { pipeline with parachuteCommandQueue := rest } := by
            refine kept.transfer ⟨rfl, rfl, fun _ => id, rfl⟩ kept.filed ?_ rfl
            rw [gone]
            exact Multiset.le_cons_self _ _
          unfold ParachuteTask.takeCommand
          dsimp only
          split
          · unfold ParachuteTask.queueGenericCompletion
            split
            · exact lost.stay rfl rfl rfl unmet
            · refine kept.borrow rfl kept.filed gone ?_ ?_ rfl rfl
              · rw [nothing]
                unfold CommandPipeline.atPhase ParachuteTask.lent MotionOperation.lent
                dsimp only
                rw [if_neg fun either => either.elim unstarted fun runs => inactive runs.1]
                rfl
              · rintro other (starting | ⟨pending, -, -⟩)
                · exact absurd starting (Multiset.notMem_zero _)
                · exact absurd pending unstarted
          · refine kept.borrow rfl kept.filed gone ?_ ?_ rfl rfl
            · rw [nothing]
              unfold CommandPipeline.atPhase ParachuteTask.lent CommandCompletion.lent
              dsimp only
              rw [if_neg uncompleted]
              rfl
            · rintro other (starting | ⟨-, same, -⟩)
              · exact absurd starting (Multiset.notMem_zero _)
              · exact Or.inl same.symm

/-- An event the books do not see. -/
private theorem Bookkept.unseen (kept : Bookkept pipeline) {event : PipelineEvent}
    (unseen : ledgerEvent event = none) : Bookkept (pipeline.record event) :=
  kept.transfer ⟨rfl, rfl, fun _ => id, rfl⟩ kept.filed le_rfl (trace_record unseen)

private theorem Bookkept.driveAutomatic (kept : Bookkept pipeline)
    (past : pipeline.parachute.phase.drains = false) (input : ParachuteInput) :
    Bookkept (pipeline.driveAutomatic input) := by
  have unmet : pipeline.dropsOperation = true → ParachutePhase.monitoring.drains = true := by
    rw [dropsOperation_of_phase past]
    exact nofun
  unfold CommandPipeline.driveAutomatic
  dsimp only
  split
  · have spends := spends_startAutomatic pipeline.parachute input
    have started : Bookkept { pipeline with parachute :=
        { pipeline.parachute.startAutomatic input with phase := .monitoring } } := by
      refine kept.advance rfl (spends.carried.trans ?_) spends.operation unmet
      rw [zero_add]
      exact carried_le_lent _
    split
    · exact started.unseen rfl
    · exact started
  · exact kept.atPhase rfl unmet

private theorem Bookkept.drive (kept : Bookkept pipeline)
    (phase : pipeline.parachute.phase = .driving) (input : ParachuteInput) :
    Bookkept (pipeline.drive input) := by
  have past : pipeline.parachute.phase.drains = false := by
    rw [phase]
    rfl
  have unmet : pipeline.dropsOperation = true → ParachutePhase.monitoring.drains = true := by
    rw [dropsOperation_of_phase past]
    exact nofun
  unfold CommandPipeline.drive
  dsimp only
  split
  · exact kept.atPhase rfl fun _ => rfl
  split
  · next pending =>
    refine kept.narrow rfl kept.filed rfl ?_ ?_ rfl rfl
    · show {pipeline.parachute.operation.transactionId} + 0 +
        pipeline.parachute.completion.lent ≤ _
      unfold ParachuteTask.lent MotionOperation.lent
      rw [phase, if_pos (Or.inl pending), add_zero]
      exact add_le_add (Multiset.le_add_left _ _) le_rfl
    · rintro transactionId (starting | ⟨again, -, -⟩)
      · exact Or.inr ⟨pending, (Multiset.mem_singleton.mp starting).symm,
          dropsOperation_of_phase past⟩
      · cases again
  split
  · exact kept.driveAutomatic past input
  split
  · split
    · exact kept.stay rfl rfl rfl unmet
    · exact kept.stay rfl rfl rfl unmet
  · exact kept.atPhase rfl unmet

/-- The move is issued while the transaction is armed, before the task goes on. -/
private theorem Bookkept.start (kept : Bookkept pipeline) {transactionId : UInt8}
    {move : ParachuteMove} (phase : pipeline.parachute.phase = .starting transactionId move)
    (input : ParachuteInput) : Bookkept (pipeline.startCommand transactionId move input) := by
  have starting : pipeline.parachute.phase.lent = {transactionId} := by
    rw [phase]
    rfl
  have stays : pipeline.dropsOperation = false := dropsOperation_of_phase (by rw [phase]; rfl)
  have unmet : pipeline.dropsOperation = true → ParachutePhase.monitoring.drains = true := by
    rw [stays]
    exact nofun
  have armed : transactionId ∈ pipeline.armed := by
    refine Or.inl ?_
    rw [starting]
    exact Multiset.mem_singleton_self _
  have acted : Bookkept (pipeline.record (.parachuteMoved transactionId)) := by
    refine ⟨kept.executor, kept.filed, (kept.sound.act (Or.inl armed)).relaxed ?_⟩
    exact ⟨rfl, le_rfl, rfl, subset_rfl, rfl, trace_effect rfl⟩
  have spends := spends_startGeneric pipeline.parachute transactionId move input
  have lent : {transactionId} + carried pipeline.parachute = pipeline.parachute.lent := by
    unfold carried ParachuteTask.lent
    rw [starting, add_assoc]
  unfold CommandPipeline.startCommand
  dsimp only
  split
  · exact acted.advance rfl (spends.carried.trans lent.le) spends.operation unmet
  · exact kept.advance rfl (spends.carried.trans lent.le) spends.operation unmet

private theorem Bookkept.monitor (kept : Bookkept pipeline) (input : ParachuteInput) :
    Bookkept (pipeline.monitor input) := by
  obtain ⟨carries, operation⟩ := spends_watchOperation pipeline.parachute input
  rw [zero_add] at carries
  have within := carries.trans (carried_le_lent _)
  unfold CommandPipeline.monitor ParachuteTask.readTelemetry
  generalize pipeline.parachute.watchOperation input = watched at within operation ⊢
  split
  · exact kept.advance rfl within operation fun _ => rfl
  · exact kept.advance rfl within operation fun _ => rfl

private theorem Bookkept.parachute (kept : Bookkept pipeline) (input : ParachuteInput) :
    Bookkept (pipeline.stepParachute input) := by
  unfold stepParachute
  split
  · next phase =>
    refine (kept.flush input).atPhase rfl fun _ => rfl
  · exact kept.respond
  · next phase => exact kept.drain phase input
  · next phase => exact kept.take phase
  · next phase => exact kept.drive phase input
  · next phase => exact kept.start phase input
  · exact kept.monitor input

/-! ### Runs -/

/-- A permitted step of any task keeps the books. -/
theorem Bookkept.step (kept : Bookkept pipeline) {label : CommandLabel}
    (permitted : pipeline.Permitted label) : Bookkept (pipeline.step label) := by
  cases label with
  | parachute input => exact kept.parachute input
  | worker | realtime | applyEmergency | finishExport | takeExport | safety =>
      exact kept.others permitted nofun

end Step

/-- The books are empty when the tasks start. -/
theorem bookkept_boot (machine : MissionStateMachine) (guard : FinOvertravelGuard) :
    Bookkept (boot machine guard) := by
  refine ⟨⟨tableInvariant_initial, namesCommands_initial⟩, trivial, ?_⟩
  have empty : (boot machine guard).books = Ledger.empty := by
    have unarmed : (boot machine guard).armed = ∅ :=
      Set.subset_eq_empty (armed_subset_of_idle rfl rfl ∅) rfl
    have undecided : (boot machine guard).executor.pendingDomain = fun _ => none := by
      funext transactionId
      refine (pendingDomain_eq_none tableInvariant_initial).mpr ?_
      rintro ⟨slot, valid, -⟩
      cases valid
    unfold books
    rw [unarmed, undecided]
    rfl
  rw [empty]
  exact Ledger.sound_empty

/-- In every interleaving whose steps meet the condition, no transaction gets two terminal
results, and no command acts once the stop that interrupted it has been applied. -/
theorem emergency_stop_dominates (machine : MissionStateMachine) (guard : FinOvertravelGuard)
    (labels : List CommandLabel)
    (along : Run.Along CommandPipeline.step Permitted (boot machine guard) labels) :
    OneTerminal (Run.after CommandPipeline.step (boot machine guard) labels).trace ∧
      NoLateEffect (Run.after CommandPipeline.step (boot machine guard) labels).trace := by
  have preserved : ∀ (pipeline : CommandPipeline) (label : CommandLabel), Bookkept pipeline →
      pipeline.Permitted label → Bookkept (pipeline.step label) :=
    fun _ _ kept permitted => kept.step permitted
  have kept := Run.invariant_after preserved (bookkept_boot machine guard) along
  exact ⟨kept.sound.once, kept.sound.quiet⟩

/-- An `open` that `parachuteTask` has taken waits for its servo when the stop is accepted and
applied; the `hold` of the stop drops it. -/
def stopInTime : List CommandLabel :=
  [.worker { request := plainRequest 1 .paraOpen }, .worker, .worker, .parachute, .parachute,
    .parachute, .parachute, .parachute { servoReady := false },
    .realtime (.actuatorEmergency 9), .applyEmergency, .parachute, .parachute, .parachute,
    .parachute, .parachute, .parachute]

theorem emergency_stop_dominates_inTime :
    Run.Along CommandPipeline.step Permitted (boot {} {}) stopInTime ∧
      (Run.after CommandPipeline.step (boot {} {}) stopInTime).trace =
        [.accepted 1, .interrupted [1]] ∧
      OneTerminal (Run.after CommandPipeline.step (boot {} {}) stopInTime).trace ∧
      NoLateEffect (Run.after CommandPipeline.step (boot {} {}) stopInTime).trace :=
  have along : Run.Along CommandPipeline.step Permitted (boot {} {}) stopInTime := by
    decide +kernel
  ⟨along, by decide +kernel, emergency_stop_dominates {} {} stopInTime along⟩

/-- The stop finds a `fin_free` in `transition_queue`. -/
def stopTooLate : List CommandLabel :=
  [.worker { request := plainRequest 1 .finFree }, .worker, .worker,
    .realtime (.actuatorEmergency 9), .applyEmergency, .realtime .transition]

/-- A command that the stop has interrupted in `transition_queue` acts after the stop was
applied, and is answered a second time. -/
theorem queued_command_acts :
    (Run.after CommandPipeline.step (boot {} {}) stopTooLate).trace =
        [.accepted 1, .interrupted [1], .effect 1, .terminal 1] ∧
      ¬ OneTerminal (Run.after CommandPipeline.step (boot {} {}) stopTooLate).trace ∧
      ¬ NoLateEffect (Run.after CommandPipeline.step (boot {} {}) stopTooLate).trace := by
  have traced : (Run.after CommandPipeline.step (boot {} {}) stopTooLate).trace =
      [.accepted 1, .interrupted [1], .effect 1, .terminal 1] := by decide +kernel
  rw [traced]
  refine ⟨rfl, ?_, ?_⟩
  · intro once
    have answered := once [.accepted 1, .interrupted [1], .effect 1] (.terminal 1) [] rfl
    exact answered.1 1 rfl (by decide)
  · intro quiet
    have late := quiet [.accepted 1, .interrupted [1]] (.effect 1) [.terminal 1] rfl
    exact late 1 rfl (by decide)

end CommandPipeline

end MissionBoard.Runtime
