import MissionBoard.Runtime.PowerRails

/-!
Owns the irreversibility of the absolute power cutoff: what latches it, that a latched
cutoff stays latched until `safetyTask` observes another epoch without it, and that no
operation of any task drives a rail on while it is latched.
-/

namespace MissionBoard.Flight

open Protocol Mission MissionBoard.Runtime

/-- The operation leaves the rails off or does not concern them. -/
def KeepsOff (effect : SafetyEffect) : Prop := effect.drivesOn = false

instance (effect : SafetyEffect) : Decidable (KeepsOff effect) :=
  inferInstanceAs (Decidable (_ = _))

/-- The step latches the cutoff: a cutoff request, 25 s of flight, or a snapshot of
another epoch with the latch. -/
def LatchesCutoff (rails : PowerRails) : RailLabel → Prop
  | .safety snapshot input =>
      match rails.phase with
      | .recovering => False
      | .draining => ∃ received ∈ rails.powerQueue.receive, received.1.cutoff = true
      | .observing =>
          input.takesMutex = true ∧ snapshot.flightEpoch ≠ rails.safety.trackedEpoch ∧
            snapshot.deploymentPowerCutoffLatched = true
      | .acting =>
          rails.safety.liftoffValid = true ∧ rails.safety.liftoffTimeUs ≤ input.nowUs ∧
            25000000 ≤ rails.safety.elapsedAt input.nowUs
  | _ => False

/-- The step observes a change of the flight epoch to a snapshot without the latch. -/
def ReleasesCutoff (rails : PowerRails) : RailLabel → Prop
  | .safety snapshot input =>
      rails.phase = .observing ∧ input.takesMutex = true ∧
        snapshot.flightEpoch ≠ rails.safety.trackedEpoch ∧
        snapshot.deploymentPowerCutoffLatched = false
  | _ => False

instance (rails : PowerRails) (label : RailLabel) : Decidable (ReleasesCutoff rails label) :=
  match label with
  | .safety _ _ => inferInstanceAs (Decidable (_ ∧ _ ∧ _ ∧ _))
  | .send _ | .queuePower _ | .postTransitionFull => .isFalse id

/-! ### The safety task -/

theorem cutoffLatched_act (task : SafetyTask) (input : SafetyInput)
    (latched : task.cutoffLatched = true) : (task.act input).1.cutoffLatched = true := by
  have requested : (task.requestDeployment input (task.elapsedAt input.nowUs)).1.cutoffLatched =
      true := by
    unfold SafetyTask.requestDeployment
    split <;> exact latched
  have cut : ((task.requestDeployment input (task.elapsedAt input.nowUs)).1.latchCutoff
      input.nowUs (task.elapsedAt input.nowUs)).1.cutoffLatched = true := by
    unfold SafetyTask.latchCutoff
    split
    · rfl
    · exact requested
  unfold SafetyTask.act SafetyTask.queueRecovery
  dsimp only
  split <;> exact cut

/-- From 25 s on the task latches the cutoff. -/
theorem cutoffLatched_act_of_late {task : SafetyTask} {input : SafetyInput}
    (lifted : task.liftoffValid = true) (started : task.liftoffTimeUs ≤ input.nowUs)
    (late : 25000000 ≤ task.elapsedAt input.nowUs) : (task.act input).1.cutoffLatched = true := by
  by_cases latched : task.cutoffLatched = true
  · exact cutoffLatched_act task input latched
  · have same : (task.requestDeployment input (task.elapsedAt input.nowUs)).1.tracking =
        task.tracking := SafetyTask.requestDeployment_tracking _ _ _
    have cut : ((task.requestDeployment input (task.elapsedAt input.nowUs)).1.latchCutoff
        input.nowUs (task.elapsedAt input.nowUs)).1.cutoffLatched = true := by
      unfold SafetyTask.latchCutoff
      split
      · rfl
      · next waits =>
        by_contra unlatched
        apply waits
        have valid : (task.requestDeployment input
            (task.elapsedAt input.nowUs)).1.liftoffValid = true :=
          (congrArg (fun tracking => tracking.2.running) same).trans lifted
        have origin : (task.requestDeployment input
            (task.elapsedAt input.nowUs)).1.liftoffTimeUs = task.liftoffTimeUs :=
          congrArg (fun tracking => tracking.2.origin) same
        exact ⟨eq_false_of_ne_true unlatched, valid, origin ▸ started, late⟩
    unfold SafetyTask.act SafetyTask.queueRecovery
    dsimp only
    split <;> exact cut

private theorem keepsOff_powerOff : ∀ effect ∈ powerOffEffects, KeepsOff effect := by decide

/-- Nothing after the observation drives a rail on. -/
theorem keepsOff_act (task : SafetyTask) (input : SafetyInput) :
    ∀ effect ∈ (task.act input).2, KeepsOff effect := by
  have requested : ∀ effect ∈ (task.requestDeployment input (task.elapsedAt input.nowUs)).2,
      KeepsOff effect := by
    unfold SafetyTask.requestDeployment
    split <;> simp [KeepsOff, SafetyEffect.drivesOn]
  have cut : ∀ other : SafetyTask, ∀ elapsedUs,
      ∀ effect ∈ (other.latchCutoff input.nowUs elapsedUs).2, KeepsOff effect := by
    intro other elapsedUs effect within
    unfold SafetyTask.latchCutoff at within
    split at within
    · rcases List.mem_append.mp within with off | sent
      · exact keepsOff_powerOff effect off
      · rw [List.mem_singleton.mp sent]
        rfl
    · cases within
  have queued : ∀ other : SafetyTask, ∀ elapsedUs,
      ∀ effect ∈ (other.queueRecovery input elapsedUs).2, KeepsOff effect := by
    intro other elapsedUs
    unfold SafetyTask.queueRecovery
    split <;> simp [KeepsOff, SafetyEffect.drivesOn]
  intro effect within
  unfold SafetyTask.act at within
  rcases List.mem_append.mp within with earlier | last
  · rcases List.mem_append.mp earlier with first | second
    · exact requested effect first
    · exact cut _ _ effect second
  · exact queued _ _ effect last

private theorem keepsOff_recovery (input : SafetyInput) :
    ∀ effect ∈ recoveryEffects input, KeepsOff effect := by
  unfold recoveryEffects
  split
  · split <;> simp [KeepsOff, SafetyEffect.drivesOn]
  · nofun

/-! ### One step -/

/-- What a step leaves of a latched cutoff: the latch, and rails no operation drove on. -/
def StaysOff (rails next : PowerRails) : Prop :=
  next.safety.cutoffLatched = true ∧
    ∃ operations, next.operations = rails.operations ++ operations ∧
      ∀ operation ∈ operations, KeepsOff operation

/-- A step that touches neither the latch nor the rails. -/
private theorem staysOff_of_same {rails next : PowerRails}
    (latched : next.safety.cutoffLatched = true) (same : next.operations = rails.operations) :
    StaysOff rails next :=
  ⟨latched, [], by rw [same, List.append_nil], nofun⟩

private theorem staysOff_drain {rails : PowerRails} (latched : rails.safety.cutoffLatched = true) :
    StaysOff rails rails.drain := by
  unfold PowerRails.drain
  split
  · exact staysOff_of_same latched rfl
  · next request rest received =>
    have stays : (rails.safety.cutoffLatched || request.cutoff) = true := by
      rw [latched]
      rfl
    refine ⟨stays, _, rfl, ?_⟩
    unfold SafetyTask.drainRequest
    dsimp only
    rw [if_pos stays, List.nil_append]
    exact keepsOff_powerOff

private theorem staysOff_stepSafety {rails : PowerRails} {snapshot : MissionSnapshot}
    {input : SafetyInput} (latched : rails.safety.cutoffLatched = true)
    (kept : ¬ ReleasesCutoff rails (.safety snapshot input)) :
    StaysOff rails (rails.stepSafety snapshot input) := by
  unfold PowerRails.stepSafety
  split
  · exact ⟨latched, _, rfl, keepsOff_recovery input⟩
  · exact staysOff_drain latched
  · next observing =>
    refine staysOff_of_same ?_ rfl
    dsimp only
    split
    · next takes =>
      unfold SafetyTask.observe
      dsimp only
      split
      · next changes =>
        apply eq_true_of_ne_false
        intro unlatched
        exact kept ⟨observing, takes, changes, unlatched⟩
      · split
        · exact latched
        · exact latched
    · exact latched
  · exact ⟨cutoffLatched_act _ input latched, _, rfl, keepsOff_act _ input⟩

/-- While the cutoff is latched no step drives a rail on, and only a release unlatches it. -/
theorem staysOff_step {rails : PowerRails} {label : RailLabel}
    (latched : rails.safety.cutoffLatched = true) (kept : ¬ ReleasesCutoff rails label) :
    StaysOff rails (rails.step label) := by
  cases label with
  | send request => exact staysOff_of_same latched rfl
  | queuePower request =>
      unfold PowerRails.step PowerRails.queuePower
      dsimp only
      split
      · exact staysOff_of_same latched rfl
      · refine ⟨latched, _, rfl, ?_⟩
        intro operation within
        rcases List.mem_append.mp within with first | second
        · split at first
          · rw [List.mem_singleton.mp first]
            rfl
          · cases first
        · split at second
          · rw [List.mem_singleton.mp second]
            rfl
          · cases second
  | postTransitionFull => exact ⟨latched, [.setTrackedParaPower false], rfl, by decide⟩
  | safety snapshot input => exact staysOff_stepSafety latched kept

/-- Each of the three causes latches the cutoff. -/
theorem latched_of_latchesCutoff {rails : PowerRails} {label : RailLabel} (latches : LatchesCutoff rails label) :
    (rails.step label).safety.cutoffLatched = true := by
  cases label with
  | send request => exact latches.elim
  | queuePower request => exact latches.elim
  | postTransitionFull => exact latches.elim
  | safety snapshot input =>
      unfold PowerRails.step PowerRails.stepSafety
      unfold LatchesCutoff at latches
      cases phase : rails.phase with
      | recovering =>
          rw [phase] at latches
          exact latches.elim
      | draining =>
          rw [phase] at latches
          obtain ⟨⟨request, rest⟩, received, cuts⟩ := latches
          unfold PowerRails.drain
          rw [Option.mem_def.mp received]
          show (rails.safety.cutoffLatched || request.cutoff) = true
          rw [cuts, Bool.or_true]
      | observing =>
          rw [phase] at latches
          obtain ⟨takes, changes, latched⟩ := latches
          dsimp only
          rw [if_pos takes]
          unfold SafetyTask.observe
          dsimp only
          rw [if_pos changes]
          exact latched
      | acting =>
          rw [phase] at latches
          exact cutoffLatched_act_of_late latches.1 latches.2.1 latches.2.2

/-! ### Runs -/

/-- The absolute power cutoff is irreversible. In every state the rails can reach each of
its causes latches it, and from a latched state no operation drives a rail on until
`safetyTask` observes another epoch without the latch. -/
theorem cutoff_irreversible (labels : List RailLabel) :
    (∀ label, LatchesCutoff (Run.after PowerRails.step {} labels) label →
      ((Run.after PowerRails.step {} labels).step label).safety.cutoffLatched = true) ∧
    ∀ rest, (Run.after PowerRails.step {} labels).safety.cutoffLatched = true →
      Run.Along PowerRails.step (fun rails label => ¬ ReleasesCutoff rails label)
        (Run.after PowerRails.step {} labels) rest →
      (Run.after PowerRails.step {} (labels ++ rest)).safety.cutoffLatched = true ∧
        ∃ operations,
          (Run.after PowerRails.step {} (labels ++ rest)).operations =
            (Run.after PowerRails.step {} labels).operations ++ operations ∧
          ∀ operation ∈ operations, operation.drivesOn = false := by
  refine ⟨fun label latches => latched_of_latchesCutoff latches, ?_⟩
  intro rest latched kept
  rw [Run.after_append]
  have preserved : ∀ (rails : PowerRails) (label : RailLabel),
      rails.safety.cutoffLatched = true → ¬ ReleasesCutoff rails label →
        StaysOff rails (rails.step label) :=
    fun rails label latched kept => staysOff_step latched kept
  exact Run.appends_after preserved latched kept

/-- A cutoff request that `safetyTask` has received. -/
def cutoffRequested : List RailLabel := [.send { cutoff := true }, .safety, .safety]

/-- Every task asks for power again, and `safetyTask` serves the requests. -/
def powerRequested : List RailLabel :=
  [.send { auxiliary5v := true }, .queuePower { auxiliary5v := true, parachutePower := true }] ++
    List.replicate 4 .safety

/-- After a cutoff request power requests leave the rails off. -/
theorem cutoff_irreversible_request :
    (Run.after PowerRails.step {} (cutoffRequested ++ powerRequested)).safety.cutoffLatched =
        true ∧
      ∃ operations,
        (Run.after PowerRails.step {} (cutoffRequested ++ powerRequested)).operations =
          (Run.after PowerRails.step {} cutoffRequested).operations ++ operations ∧
        ∀ operation ∈ operations, operation.drivesOn = false :=
  (cutoff_irreversible cutoffRequested).2 powerRequested (by decide +kernel) (by decide +kernel)

end MissionBoard.Flight
