import MissionBoard.Mission.TransactionLifecycle

/-!
Owns the actuator emergency stop of the executor: what an accepted one ends and
reports, what it leaves alone, and that an ended transaction cannot be finished
until its id is accepted anew.
-/

namespace MissionBoard.Mission

open Protocol Control

namespace CommandExecutor

/-- A pending fin or parachute transaction. -/
def actuatorKind (entry : Entry) : Prop := entry.domain = .fin ∨ entry.domain = .parachute

/-- What an accepted emergency stop does to the table. -/
structure Terminates (executor : CommandExecutor) (decision : EmergencyDecision)
    (later : CommandExecutor) : Prop where
  /-- No fin or parachute transaction is left pending. -/
  none_pending : ¬ later.Pending actuatorKind
  /-- Exactly the interrupted transactions are reported. -/
  reports : ∀ id, id ∈ decision.interrupted.map CommandResult.transactionId ↔
    executor.Pending fun entry => entry.request.transactionId = id ∧ actuatorKind entry
  /-- Each is reported once. -/
  once : (decision.interrupted.map CommandResult.transactionId).Nodup
  /-- The array of two results holds them all. -/
  fits : executor.interruptedSlots.length ≤ 2 ∧
    decision.interrupted.length = executor.interruptedSlots.length
  /-- Each report is the failure of its transaction. -/
  failed : ∀ result ∈ decision.interrupted,
    result.phase = .failed ∧ result.reason = .interruptedByEmergency
  /-- The entries of the other domains, and the settled ones, stay as they are. -/
  spares : ∀ slot, ¬ ((executor.entries slot).pending = true ∧
      actuatorKind (executor.entries slot)) → later.entries slot = executor.entries slot

private theorem interruptible_iff {entry : Entry} :
    interruptible entry = true ↔ entry.pending = true ∧ actuatorKind entry := by
  unfold interruptible actuatorKind
  rw [Bool.and_eq_true, Bool.or_eq_true, beq_iff_eq, beq_iff_eq]

/-- An accepted emergency stop ends and reports exactly the pending fin and parachute
transactions. -/
theorem terminates_of_accepted {executor : CommandExecutor} (table : TableInvariant executor)
    {transactionId : UInt8} {state : MissionState}
    (accepts : (executor.actuatorEmergency transactionId state).1.execute = true) :
    Terminates executor (executor.actuatorEmergency transactionId state).1
      (executor.actuatorEmergency transactionId state).2 := by
  obtain ⟨distinct, -, later⟩ := pendingDomain_emergency table accepts
  have laterTable := tableInvariant_actuatorEmergency table transactionId state
  have outcome := executor.emergencyOutcome transactionId state
  generalize executor.actuatorEmergency transactionId state = next
    at outcome accepts distinct later laterTable ⊢
  cases outcome with
  | refused refuses =>
      rw [refuses] at accepts
      cases accepts
  | @accepted decision executor' nonzero receiving executes interrupts results =>
      obtain ⟨ages, entries⟩ := interrupts
      have bound := length_interruptedSlots table
      have all : decision.interrupted =
          executor.interruptedSlots.map fun slot => interruptedResult (executor.entries slot) := by
        rw [results]
        apply List.take_of_length_le
        rw [List.length_map]
        exact bound
      have named : ∀ slot, (executor.entries slot).valid = true →
          (interruptedResult (executor.entries slot)).transactionId =
            (executor.entries slot).request.transactionId :=
        fun slot valid => (table.answered slot valid).1
      constructor
      · rintro ⟨slot, valid, pending, actuator⟩
        dsimp only at valid pending actuator
        rw [entries] at pending actuator
        split at pending
        · cases pending
        · next untouched =>
          rw [if_neg untouched] at actuator
          exact untouched (interruptible_iff.mpr ⟨pending, actuator⟩)
      · intro id
        dsimp only
        rw [all, List.map_map, List.mem_map]
        constructor
        · rintro ⟨slot, member, same⟩
          obtain ⟨pending, actuator⟩ := mem_interruptedSlots.mp member
          have valid := table.pendingValid slot pending
          exact ⟨slot, valid, pending, (named slot valid).symm.trans same, actuator⟩
        · rintro ⟨slot, valid, pending, same, actuator⟩
          exact ⟨slot, mem_interruptedSlots.mpr ⟨pending, actuator⟩, (named slot valid).trans same⟩
      · exact distinct
      · refine ⟨bound, ?_⟩
        dsimp only
        rw [all, List.length_map]
      · intro result member
        dsimp only at member
        rw [all] at member
        obtain ⟨slot, -, rfl⟩ := List.mem_map.mp member
        exact ⟨rfl, rfl⟩
      · intro slot other
        dsimp only
        rw [entries, if_neg (fun broken => other (interruptible_iff.mp broken))]

/-- After every history an emergency stop is accepted exactly for a nonzero id in
command receive. An accepted one ends and reports every pending fin and parachute
transaction and nothing else; until its id is accepted anew, a `finish` of an ended one
is refused and leaves the table and the overtravel guard as they are. A rejected
one leaves the executor as it is. -/
theorem emergency_complete (calls : List ExecutorCall) (transactionId : UInt8)
    (state : MissionState) :
    let executor := Run.after step {} calls
    let emergency := executor.actuatorEmergency transactionId state
    (emergency.1.execute = true ↔ transactionId ≠ 0 ∧ state = .commandReceive) ∧
    (emergency.1.execute = true →
      Terminates executor emergency.1 emergency.2 ∧
      ∀ id ∈ emergency.1.interrupted.map CommandResult.transactionId,
      ∀ later, Run.Along step (fun current call => ¬ Restarts id current call) emergency.2 later →
      ∀ guard phase reason detail,
        (Run.after step emergency.2 later).finish guard id phase reason detail =
          (refusedResult id detail, Run.after step emergency.2 later, guard)) ∧
    (emergency.1.execute = false → emergency.2 = executor) := by
  have table := tableInvariant_after calls tableInvariant_initial
  dsimp only
  refine ⟨?_, ?_, fun refuses => emergency_refused refuses⟩
  · unfold actuatorEmergency
    dsimp only
    split
    · next accepted => exact iff_of_true rfl accepted
    · next refused => exact iff_of_false nofun refused
  · intro accepts
    refine ⟨terminates_of_accepted table accepts, ?_⟩
    intro id interrupted later restarts guard phase reason detail
    have stopped := congrFun (pendingDomain_emergency table accepts).2.2 id
    rw [if_pos interrupted] at stopped
    have laterTable := tableInvariant_actuatorEmergency table transactionId state
    exact finish_of_stopped (stopped_after laterTable stopped restarts) guard phase reason detail

/-- A pending fin command is interrupted, and its late completion is refused. -/
theorem emergency_complete_setFinZero :
    let executor := Run.after step {} [.begin {} (plainRequest 1 .setFinZero) readyContext]
    (executor.actuatorEmergency 9 .commandReceive).2.finish { faultLatched := true } 1 .completed
        .none 0 =
      (refusedResult 1 0, (executor.actuatorEmergency 9 .commandReceive).2,
        { faultLatched := true }) :=
  ((emergency_complete [.begin {} (plainRequest 1 .setFinZero) readyContext] 9
    .commandReceive).2.1 (by decide +kernel)).2 1 (by decide +kernel) [] trivial
    { faultLatched := true } .completed .none 0

end CommandExecutor

end MissionBoard.Mission
