import MissionBoard.Flight.Deployment
import MissionBoard.Library.OneShot
import MissionBoard.Mission.CommandTable
import MissionBoard.Runtime.FlightRun

/-!
Owns the once-only guarantee of the automatic opening over runs with resets. The
automatic move is a one-shot of its flight epoch: issuing it spends the epoch, and so
does a reset that restores a deployment already started.

Within one boot `opened_epoch` keeps the guarantee. A reset clears it, so after one only
the latched power cutoff keeps the restored deployment from opening again.
-/

namespace MissionBoard.Flight

open Protocol Mission MissionStateMachine Control MissionBoard.Runtime

/-- The automatic opening as a one-shot of the flight epoch. An epoch is renewed when a
start or a liftoff detection emergency stop enters it. -/
def opening : OneShot PipelineEvent UInt32 where
  fires
    | .automaticMoved moved, epoch => moved == epoch
    | _, _ => false
  spends
    | .automaticMoved moved, epoch => moved == epoch
    | .rebooted (some checkpoint), epoch =>
        checkpoint.deploymentStarted && checkpoint.flightEpoch == epoch
    | _, _ => false
  renews
    | .epochEntered entered, epoch => entered == epoch
    | _, _ => false
  spends_of_fires := by
    intro event epoch fires
    cases event with
    | automaticMoved moved => exact fires
    | _ => cases fires

/-- Only flight events matter to the opening. -/
theorem opening_idle {event : PipelineEvent} (quiet : event.isFlight = false) :
    opening.Idle event := by
  intro epoch
  cases event with
  | automaticMoved | epochEntered | rebooted => cases quiet
  | _ => exact ⟨rfl, rfl⟩

/-- The automatic move is issued at most once in a flight epoch, and not at all after a
reset that restored a started deployment. -/
def OpensOnce (pipeline : CommandPipeline) : Prop := opening.FiresOnce pipeline.log

/-! ### The machine and the checkpoint behind a view -/

/-- The machine is reachable, and the checkpoint was stored by a reachable machine. -/
structure Sourced (view : FlightView) : Prop where
  reached : Reachable view.machine
  saved : ∃ stored storedUs, Reachable stored ∧
    view.checkpoint = storeFlightCheckpoint stored.snapshot storedUs

theorem sourced_boot : Sourced (CommandPipeline.boot {} {}).flightView :=
  ⟨.boot, {}, 0, .boot, rfl⟩

/-- The machine a reset leaves is reachable. -/
private theorem reachable_machine {view : FlightView} (sourced : Sourced view)
    (input : ResetInput) : Reachable (input.machine view.checkpoint) := by
  obtain ⟨stored, storedUs, saved, checkpoint⟩ := sourced.saved
  unfold ResetInput.machine
  split
  · exact .boot
  · next restored =>
    unfold ResetInput.restored at restored
    split at restored
    · rw [checkpoint] at restored
      exact .reset .boot saved input.bootUs restored
    · cases restored

theorem Sourced.move {view next : FlightView} (sourced : Sourced view)
    (move : FlightMove view next) : Sourced next := by
  obtain ⟨reached, saved⟩ := sourced
  cases move with
  | kept => exact ⟨reached, saved⟩
  | ticked guard input rtcNowUs =>
      have ticked := reached.call ⟨guard, .tick input {}⟩ rfl
      exact ⟨ticked, _, rtcNowUs, ticked, rfl⟩
  | cancelled => exact ⟨reached.call ⟨{}, .cancelSequence⟩ rfl, saved⟩
  | controlDisabled => exact ⟨reached.call ⟨{}, .disableFinControl⟩ rfl, saved⟩
  | started guard readiness mode rtcNowUs completes =>
      have started := reached.call ⟨guard, .startSequence readiness mode⟩ rfl
      exact ⟨started, _, rtcNowUs, started, rfl⟩
  | rolledBack completes => exact ⟨reached.call ⟨{}, .liftoffDetectionEmergencyStop⟩ rfl, saved⟩
  | opened => exact ⟨reached, saved⟩

theorem Sourced.reboot {view : FlightView} (sourced : Sourced view) (input : ResetInput) :
    Sourced (view.reboot input) := by
  refine ⟨reachable_machine sourced input, ?_⟩
  unfold FlightView.reboot ResetInput.kept
  dsimp only
  split
  · exact ⟨{}, 0, .boot, rfl⟩
  · exact sourced.saved

theorem Sourced.fly {pipeline : CommandPipeline} (sourced : Sourced pipeline.flightView)
    (label : FlightLabel) : Sourced (pipeline.fly label).flightView := by
  cases label with
  | task label => exact sourced.move (CommandPipeline.step_refines pipeline label)
  | reset input =>
      unfold CommandPipeline.fly
      dsimp only
      rw [CommandPipeline.flightView_reboot]
      exact sourced.reboot input

/-- Every run of the board is sourced. -/
theorem sourced_after {pipeline : CommandPipeline} (sourced : Sourced pipeline.flightView)
    (labels : List FlightLabel) :
    Sourced (Run.after CommandPipeline.fly pipeline labels).flightView := by
  have preserved : ∀ (state : CommandPipeline) (label : FlightLabel), Sourced state.flightView →
      True → Sourced (state.fly label).flightView :=
    fun state label sourced _ => sourced.fly label
  have always : Run.Along CommandPipeline.fly (fun _ _ => True) pipeline labels :=
    Run.along_of_forall (fun _ _ => trivial) _ labels
  exact Run.invariant_after preserved sourced always

/-! ### A deployed machine stays deployed -/

/-- A tick keeps the deployment of the epoch it finds. -/
private theorem deploymentStarted_tick {machine : MissionStateMachine} (core : Core machine)
    (guard : FinOvertravelGuard) (input : MissionTickInput) (safety : SafetyRequest)
    (deployed : machine.snapshot.deploymentStarted = true) :
    (machine.tick guard input safety).1.snapshot.deploymentStarted = true := by
  have descending := core.deployment.mp deployed
  have lifted : (machine.lifted input safety).snapshot.state = .descent := by
    unfold MissionStateMachine.lifted
    rw [detectLiftoff_state, latchSafetyCutoff_state, descending]
    rfl
  have next : Core (machine.step ⟨guard, .tick input safety⟩) := by
    apply core.step
    rintro _ _ ⟨⟩
  exact next.deployment.mpr ((tick_descent_iff machine guard input safety).mpr (Or.inl lifted))

/-- Cancelling a sequence and disabling fin control leave a deployed machine alone, and
leave an undeployed one undeployed in its epoch. -/
private theorem cancelSequence_deployment {machine : MissionStateMachine} (core : Core machine) :
    machine.cancelSequence.2 = machine ∨
      machine.snapshot.deploymentStarted = false ∧
        machine.cancelSequence.2.snapshot.deploymentStarted = false ∧
        machine.cancelSequence.2.snapshot.flightEpoch = machine.snapshot.flightEpoch := by
  rcases machine.cancelSequence_cases with ⟨armed, next⟩ | ⟨-, next⟩
  · right
    rw [next]
    refine ⟨?_, rfl, rfl⟩
    apply eq_false_of_ne_true
    intro deployed
    rw [core.deployment, armed] at deployed
    cases deployed
  · exact Or.inl (congrArg Prod.snd next)

private theorem disableFinControl_deployment {machine : MissionStateMachine}
    (core : Core machine) :
    machine.disableFinControl.2 = machine ∨
      machine.snapshot.deploymentStarted = false ∧
        machine.disableFinControl.2.snapshot.deploymentStarted = false ∧
        machine.disableFinControl.2.snapshot.flightEpoch = machine.snapshot.flightEpoch := by
  rcases machine.disableFinControl_cases with ⟨sequencing, next⟩ | next
  · right
    have undeployed : machine.snapshot.deploymentStarted = false := by
      apply eq_false_of_ne_true
      intro deployed
      rw [core.deployment] at deployed
      simp [deployed] at sequencing
    rw [next]
    unfold controlDisabled
    dsimp only
    split
    · exact ⟨undeployed, undeployed, rfl⟩
    · exact ⟨undeployed, undeployed, rfl⟩
  · exact Or.inl (congrArg Prod.snd next)

/-! ### The invariant of the opening -/

/-- What the history has spent is covered: the epoch of the machine by `opened_epoch` or
the power cutoff, the epoch of the checkpoint by the deployment it carries. -/
structure Covered (view : FlightView) : Prop where
  running : opening.spent view.history view.machine.snapshot.flightEpoch = true →
    view.machine.snapshot.deploymentStarted = true ∧
      (view.openedEpoch = view.machine.snapshot.flightEpoch ∨
        view.machine.snapshot.deploymentPowerCutoffLatched = true)
  saved : opening.spent view.history view.checkpoint.flightEpoch = true →
    view.checkpoint.deploymentStarted = true
  deployed : view.machine.snapshot.deploymentStarted = true →
    view.checkpoint.flightEpoch = view.machine.snapshot.flightEpoch →
    view.checkpoint.deploymentStarted = true
  grounded : opening.spent view.history 0 = false
  once : opening.FiresOnce view.history

theorem covered_boot : Covered (CommandPipeline.boot {} {}).flightView :=
  ⟨nofun, nofun, nofun, rfl, OneShot.firesOnce_nil⟩

/-- A machine that keeps its epoch, its deployment and its power cutoff stays covered. -/
private theorem Covered.machine {view : FlightView} (covered : Covered view)
    {machine : MissionStateMachine}
    (same : machine = view.machine ∨
      view.machine.snapshot.deploymentStarted = false ∧
        machine.snapshot.deploymentStarted = false ∧
        machine.snapshot.flightEpoch = view.machine.snapshot.flightEpoch) :
    Covered { view with machine := machine } := by
  rcases same with rfl | ⟨before, after, epoch⟩
  · exact covered
  · refine ⟨?_, covered.saved, ?_, covered.grounded, covered.once⟩
    · intro spent
      dsimp only at spent
      rw [epoch] at spent
      have deployed := (covered.running spent).1
      rw [before] at deployed
      cases deployed
    · intro deployed
      dsimp only at deployed
      rw [after] at deployed
      cases deployed

/-- A tick and the checkpoint stored after it stay covered. -/
private theorem Covered.tick {view : FlightView} (covered : Covered view)
    (core : Core view.machine) (guard : FinOvertravelGuard) (input : MissionTickInput)
    (rtcNowUs : UInt64) :
    Covered { view with
      machine := (view.machine.tick guard input {}).1
      checkpoint :=
        storeFlightCheckpoint (view.machine.tick guard input {}).1.snapshot rtcNowUs } := by
  have epoch : (view.machine.tick guard input {}).1.snapshot.flightEpoch =
      view.machine.snapshot.flightEpoch := flightEpoch_of_attempt (tick_attempt _ _ _ _)
  have next : Core (view.machine.step ⟨guard, .tick input {}⟩) := by
    apply core.step
    rintro _ _ ⟨⟩
  have stored := storeFlightCheckpoint_deployment (view.machine.tick guard input {}).1.snapshot
    rtcNowUs
  have running : opening.spent view.history
      (view.machine.tick guard input {}).1.snapshot.flightEpoch = true →
        (view.machine.tick guard input {}).1.snapshot.deploymentStarted = true ∧
          (view.openedEpoch = (view.machine.tick guard input {}).1.snapshot.flightEpoch ∨
            (view.machine.tick guard input {}).1.snapshot.deploymentPowerCutoffLatched =
              true) := by
    intro spent
    rw [epoch] at spent ⊢
    obtain ⟨deployed, consumed⟩ := covered.running spent
    exact ⟨deploymentStarted_tick core guard input {} deployed,
      consumed.imp_right (cutoff_tick _ _ _ _)⟩
  refine ⟨running, ?_, ?_, covered.grounded, covered.once⟩
  · intro spent
    dsimp only at spent ⊢
    rcases stored with cleared | ⟨named, carried⟩
    · rw [cleared, covered.grounded] at spent
      cases spent
    · rw [named] at spent
      rw [carried]
      exact (running spent).1
  · intro deployed names
    dsimp only at deployed names ⊢
    rcases stored with cleared | ⟨-, carried⟩
    · have descending := next.deployment.mp deployed
      have live := next.epoch (by rw [descending]; decide)
      rw [step_tick, ← names] at live
      exact absurd cleared live
    · rw [carried]
      exact deployed

/-- Entering an epoch renews it, and the machine that enters it is not deployed. -/
private theorem Covered.enter {view : FlightView} (covered : Covered view)
    {machine : MissionStateMachine} {checkpoint : FlightCheckpointRecord}
    (fresh : machine.snapshot.deploymentStarted = false)
    (stored : checkpoint = view.checkpoint ∨ checkpoint.flightEpoch = 0 ∨
      checkpoint.flightEpoch = machine.snapshot.flightEpoch) :
    Covered { view with
      machine := machine
      checkpoint := checkpoint
      history := view.history ++ [.epochEntered machine.snapshot.flightEpoch] } := by
  have renewed : ∀ epoch, opening.spent
      (view.history ++ [.epochEntered machine.snapshot.flightEpoch]) epoch = true →
        epoch ≠ machine.snapshot.flightEpoch ∧ opening.spent view.history epoch = true := by
    intro epoch spent
    rw [OneShot.spent_concat] at spent
    simp only [opening, Bool.false_or, Bool.and_eq_true, Bool.not_eq_true', beq_eq_false_iff_ne]
      at spent
    exact ⟨fun same => spent.2 same.symm, spent.1⟩
  refine ⟨fun spent => absurd rfl (renewed _ spent).1, ?_, ?_, ?_, covered.once.concat fun _ => rfl⟩
  · intro spent
    obtain ⟨other, earlier⟩ := renewed _ spent
    dsimp only at other earlier ⊢
    rcases stored with rfl | cleared | same
    · exact covered.saved earlier
    · rw [cleared, covered.grounded] at earlier
      cases earlier
    · exact absurd same other
  · intro deployed
    dsimp only at deployed
    rw [fresh] at deployed
    cases deployed
  · apply eq_false_of_ne_true
    intro spent
    have earlier := (renewed _ spent).2
    rw [covered.grounded] at earlier
    cases earlier

/-- The automatic opening spends the epoch of a covered machine once. -/
private theorem Covered.open {view : FlightView} (covered : Covered view)
    (core : Core view.machine) (descending : view.machine.snapshot.state = .descent)
    (powered : view.machine.snapshot.deploymentPowerCutoffLatched = false)
    (unopened : view.openedEpoch ≠ view.machine.snapshot.flightEpoch) (issued : Bool) :
    Covered { view with
      openedEpoch := view.machine.snapshot.flightEpoch
      history := view.history ++
        if issued then [.automaticMoved view.machine.snapshot.flightEpoch] else [] } := by
  have deployed := core.deployment.mpr descending
  have live := core.epoch (by rw [descending]; decide)
  cases issued with
  | false =>
      rw [if_neg Bool.false_ne_true, List.append_nil]
      exact ⟨fun _ => ⟨deployed, Or.inl rfl⟩, covered.saved, covered.deployed, covered.grounded,
        covered.once⟩
  | true =>
      rw [if_pos rfl]
      have unspent : opening.spent view.history view.machine.snapshot.flightEpoch = false := by
        apply eq_false_of_ne_true
        intro spent
        rcases (covered.running spent).2 with opened | latched
        · exact unopened opened
        · rw [powered] at latched
          cases latched
      have spends : ∀ epoch, opening.spent
          (view.history ++ [.automaticMoved view.machine.snapshot.flightEpoch]) epoch = true →
            view.machine.snapshot.flightEpoch = epoch ∨ opening.spent view.history epoch = true := by
        intro epoch spent
        rw [OneShot.spent_concat] at spent
        simpa [opening] using spent
      refine ⟨fun _ => ⟨deployed, Or.inl rfl⟩, ?_, covered.deployed, ?_, ?_⟩
      · intro spent
        rcases spends _ spent with same | earlier
        · exact covered.deployed deployed same.symm
        · exact covered.saved earlier
      · apply eq_false_of_ne_true
        intro spent
        rcases spends _ spent with same | earlier
        · exact live same
        · rw [covered.grounded] at earlier
          cases earlier
      · apply OneShot.firesOnce_concat.mpr
        refine ⟨covered.once, ?_⟩
        intro epoch fires
        obtain rfl : view.machine.snapshot.flightEpoch = epoch := beq_iff_eq.mp fires
        exact unspent

/-- A restored deployment is opened no more: the checkpoint that carries it carries the
power cutoff as well. -/
def ResetPowersOff (pipeline : CommandPipeline) : FlightLabel → Prop
  | .task _ => True
  | .reset input => ∀ checkpoint ∈ input.restored pipeline.checkpoint,
      checkpoint.deploymentStarted = true → checkpoint.powerCutoffLatched = true

instance (pipeline : CommandPipeline) (label : FlightLabel) :
    Decidable (ResetPowersOff pipeline label) :=
  match label with
  | .task _ => .isTrue trivial
  | .reset input =>
      inferInstanceAs (Decidable (∀ checkpoint ∈ input.restored pipeline.checkpoint,
        checkpoint.deploymentStarted = true → checkpoint.powerCutoffLatched = true))

/-- What a reset restores comes from the record it finds, which RTC memory keeps. -/
private theorem restored_fields {input : ResetInput} {record : FlightCheckpointRecord}
    {checkpoint : ResetCheckpoint} (restored : input.restored record = some checkpoint) :
    checkpoint.flightEpoch = record.flightEpoch ∧
      checkpoint.deploymentStarted = record.deploymentStarted ∧ input.kept record = record := by
  unfold ResetInput.restored at restored
  split at restored
  · obtain ⟨preserves, -, elapsedUs, rfl⟩ := toCheckpoint_of_load restored
    refine ⟨rfl, rfl, if_neg ?_⟩
    intro cold
    rw [cold] at preserves
    cases preserves
  · cases restored

/-- A restored checkpoint has an epoch, and none that waits for liftoff is deployed. -/
private theorem restored_sourced {view : FlightView} (sourced : Sourced view) {input : ResetInput}
    {checkpoint : ResetCheckpoint} (restored : input.restored view.checkpoint = some checkpoint) :
    checkpoint.flightEpoch ≠ 0 ∧
      (checkpoint.state = .liftoffDetection → checkpoint.deploymentStarted = false) := by
  obtain ⟨stored, storedUs, saved, record⟩ := sourced.saved
  unfold ResetInput.restored at restored
  split at restored
  · rw [record] at restored
    obtain ⟨sequencing, rfl⟩ := checkpoint_of_load saved.core restored
    refine ⟨saved.core.epoch sequencing, ?_⟩
    intro armed
    apply eq_false_of_ne_true
    intro deployed
    have descending := saved.core.deployment.mp deployed
    have armed : stored.snapshot.state = .liftoffDetection := armed
    rw [descending] at armed
    cases armed
  · cases restored

/-- The machine a reset leaves without a checkpoint, or with one it refuses, has no epoch. -/
private theorem machine_cases (input : ResetInput) (record : FlightCheckpointRecord) :
    input.machine record = {} ∨
      ∃ checkpoint, input.restored record = some checkpoint ∧
        (input.machine record).snapshot.flightEpoch = checkpoint.flightEpoch ∧
        ((input.machine record).snapshot.deploymentStarted = checkpoint.deploymentStarted ∧
            (input.machine record).snapshot.deploymentPowerCutoffLatched =
              checkpoint.powerCutoffLatched ∨
          checkpoint.state = .liftoffDetection ∧
            (input.machine record).snapshot.deploymentStarted = false) := by
  unfold ResetInput.machine
  split
  · exact Or.inl rfl
  · next checkpoint restored =>
    rcases ({} : MissionStateMachine).restoreAfterReset_cases input.bootUs checkpoint with
      ⟨-, armed, next⟩ | ⟨-, -, next⟩ | ⟨-, next⟩
    · right
      rw [next]
      exact ⟨checkpoint, restored, rfl, Or.inr ⟨armed, rfl⟩⟩
    · right
      rw [next]
      exact ⟨checkpoint, restored, rfl, Or.inl ⟨rfl, rfl⟩⟩
    · left
      rw [next]

/-- A reset that powers off stays covered. -/
private theorem Covered.reboot {view : FlightView} (covered : Covered view)
    (sourced : Sourced view) (input : ResetInput)
    (permitted : ∀ checkpoint ∈ input.restored view.checkpoint,
      checkpoint.deploymentStarted = true → checkpoint.powerCutoffLatched = true) :
    Covered (view.reboot input) := by
  have core := (reachable_machine sourced input).core
  have spends : ∀ epoch, opening.spent
      (view.history ++ [.rebooted (input.restored view.checkpoint)]) epoch = true →
        opening.spent view.history epoch = true ∨
          ∃ checkpoint, input.restored view.checkpoint = some checkpoint ∧
            checkpoint.deploymentStarted = true ∧ checkpoint.flightEpoch = epoch := by
    intro epoch spent
    rw [OneShot.spent_concat] at spent
    cases restored : input.restored view.checkpoint with
    | none =>
        rw [restored] at spent
        simpa [opening] using spent
    | some checkpoint =>
        rw [restored] at spent
        simp only [opening, Bool.or_eq_true, Bool.and_eq_true, beq_iff_eq, Bool.not_false,
          and_true] at spent
        rcases spent with ⟨deployed, same⟩ | earlier
        · exact Or.inr ⟨checkpoint, rfl, deployed, same⟩
        · exact Or.inl earlier
  have grounded : opening.spent
      (view.history ++ [.rebooted (input.restored view.checkpoint)]) 0 = false := by
    apply eq_false_of_ne_true
    intro spent
    rcases spends 0 spent with earlier | ⟨checkpoint, restored, deployed, same⟩
    · rw [covered.grounded] at earlier
      cases earlier
    · exact (restored_sourced sourced restored).1 same
  refine ⟨?_, ?_, ?_, grounded, covered.once.concat fun _ => rfl⟩
  all_goals unfold FlightView.reboot
  · intro spent
    dsimp only at spent ⊢
    rcases machine_cases input view.checkpoint with cleared | ⟨checkpoint, restored, epoch, kind⟩
    · rw [cleared, grounded] at spent
      cases spent
    · obtain ⟨named, carried, -⟩ := restored_fields restored
      have deployed : checkpoint.deploymentStarted = true := by
        rcases spends _ spent with earlier | ⟨other, same, deployed, -⟩
        · rw [epoch, named] at earlier
          rw [carried]
          exact covered.saved earlier
        · rw [restored] at same
          rw [Option.some.inj same]
          exact deployed
      rcases kind with ⟨started, cutoff⟩ | ⟨armed, -⟩
      · rw [started, cutoff]
        exact ⟨deployed, Or.inr (permitted checkpoint restored deployed)⟩
      · rw [(restored_sourced sourced restored).2 armed] at deployed
        cases deployed
  · intro spent
    dsimp only at spent ⊢
    rcases spends _ spent with earlier | ⟨checkpoint, restored, deployed, -⟩
    · by_cases cold : input.reason = .powerOn
      · have cleared : input.kept view.checkpoint = {} := if_pos cold
        rw [cleared, covered.grounded] at earlier
        cases earlier
      · have same : input.kept view.checkpoint = view.checkpoint := if_neg cold
        rw [same] at earlier ⊢
        exact covered.saved earlier
    · obtain ⟨-, carried, same⟩ := restored_fields restored
      rw [same, ← carried]
      exact deployed
  · intro deployed names
    dsimp only at deployed names ⊢
    rcases machine_cases input view.checkpoint with cleared | ⟨checkpoint, restored, -, kind⟩
    · rw [cleared] at deployed
      cases deployed
    · obtain ⟨-, carried, same⟩ := restored_fields restored
      rcases kind with ⟨started, -⟩ | ⟨-, undeployed⟩
      · rw [same, ← carried, ← started]
        exact deployed
      · rw [undeployed] at deployed
        cases deployed

/-- Every step of the board that powers restored deployments off stays covered. -/
theorem Covered.fly {pipeline : CommandPipeline} (covered : Covered pipeline.flightView)
    (sourced : Sourced pipeline.flightView) {label : FlightLabel}
    (permitted : ResetPowersOff pipeline label) : Covered (pipeline.fly label).flightView := by
  have core := sourced.reached.core
  cases label with
  | reset input =>
      unfold CommandPipeline.fly
      dsimp only
      rw [CommandPipeline.flightView_reboot]
      exact covered.reboot sourced input permitted
  | task label =>
      have move := CommandPipeline.step_refines pipeline label
      unfold CommandPipeline.fly
      dsimp only
      generalize (pipeline.step label).flightView = next at move ⊢
      cases move with
      | kept => exact covered
      | ticked guard input rtcNowUs => exact covered.tick core guard input rtcNowUs
      | cancelled => exact covered.machine (cancelSequence_deployment core)
      | controlDisabled => exact covered.machine (disableFinControl_deployment core)
      | started guard readiness mode rtcNowUs completes =>
          rcases pipeline.machine.startSequence_cases guard readiness mode with
            ⟨-, -, -, next⟩ | ⟨incomplete, -⟩
          · have stored := storeFlightCheckpoint_deployment
              (pipeline.machine.startSequence guard readiness mode).machine.snapshot rtcNowUs
            have fresh : (pipeline.machine.startSequence guard readiness mode
                ).machine.snapshot.deploymentStarted = false := by
              rw [next]
              rfl
            exact covered.enter fresh (Or.inr (stored.imp_right And.left))
          · exact absurd completes incomplete
      | rolledBack completes =>
          rcases pipeline.machine.liftoffDetectionEmergencyStop_cases with
            ⟨-, stopped⟩ | ⟨-, stopped⟩
          · have fresh : pipeline.machine.liftoffDetectionEmergencyStop.2.snapshot.deploymentStarted
                = false := by
              rw [stopped]
              rfl
            exact covered.enter fresh (Or.inl rfl)
          · have completes : pipeline.machine.liftoffDetectionEmergencyStop.1 = .completed :=
              completes
            rw [stopped] at completes
            cases completes
      | opened descending powered unopened issued =>
          exact covered.open core descending powered unopened issued

/-! ### A restored deployment is announced again -/

/-- The mission loop announces the deployment, and the parachute task takes the request
and drives the servo. -/
def announcement : List FlightLabel :=
  [.task (.realtime .refreshCache), .task (.realtime .announceDeployment)] ++
    List.replicate 6 (.task .parachute)

/-- From its start, a board in descent with power opens the parachute. -/
theorem log_announcement {machine : MissionStateMachine}
    (descending : machine.snapshot.state = .descent)
    (deployed : machine.snapshot.deploymentStarted = true)
    (powered : machine.snapshot.deploymentPowerCutoffLatched = false)
    (live : machine.snapshot.flightEpoch ≠ 0) (checkpoint : FlightCheckpointRecord)
    (log : List PipelineEvent) :
    (Run.after CommandPipeline.fly { machine := machine, checkpoint := checkpoint, log := log }
      announcement).log = log ++ [.automaticMoved machine.snapshot.flightEpoch] := by
  simp [announcement, List.replicate, CommandPipeline.fly, CommandPipeline.step,
    CommandPipeline.stepRealtime, CommandPipeline.refreshCache,
    CommandPipeline.announceDeployment, BoundedQueue.send, BoundedQueue.empty,
    BoundedQueue.receive, CommandPipeline.stepParachute, CommandPipeline.flushGenericCompletion,
    CommandPipeline.atPhase, CommandPipeline.sendStartResponse, CommandPipeline.drainRequest,
    CommandPipeline.serveRequest, CommandPipeline.currentRequest,
    CommandPipeline.takeParachuteCommand, CommandPipeline.drive, CommandPipeline.driveAutomatic,
    CommandPipeline.shouldOpen, CommandPipeline.record, descending, deployed, powered, live,
    live.symm]

/-- A restored deployment is in descent, in its epoch, with the power its checkpoint left. -/
private theorem machine_of_deployed {view : FlightView} (sourced : Sourced view)
    {input : ResetInput} {checkpoint : ResetCheckpoint}
    (restored : input.restored view.checkpoint = some checkpoint)
    (deployed : checkpoint.deploymentStarted = true) :
    (input.machine view.checkpoint).snapshot.flightEpoch = checkpoint.flightEpoch ∧
      (input.machine view.checkpoint).snapshot.deploymentStarted = true ∧
      (input.machine view.checkpoint).snapshot.deploymentPowerCutoffLatched =
        checkpoint.powerCutoffLatched := by
  obtain ⟨live, undeployed⟩ := restored_sourced sourced restored
  have accepted : CheckpointAccepted checkpoint := by
    obtain ⟨stored, storedUs, saved, record⟩ := sourced.saved
    unfold ResetInput.restored at restored
    split at restored
    · rw [record] at restored
      obtain ⟨-, rfl⟩ := checkpoint_of_load saved.core restored
      have descending : stored.snapshot.state = .descent := saved.core.deployment.mp deployed
      have timed : (checkpointOf stored.snapshot (input.rtcNowUs - storedUs)).elapsedValid =
          true := by
        unfold checkpointOf
        dsimp only
        rw [descending]
        rfl
      exact ⟨rfl, live, Or.inr ⟨Or.inr (Or.inr descending), timed⟩⟩
    · cases restored
  unfold ResetInput.machine
  rw [restored]
  dsimp only
  rcases ({} : MissionStateMachine).restoreAfterReset_cases input.bootUs checkpoint with
    ⟨-, armed, -⟩ | ⟨-, -, next⟩ | ⟨refused, -⟩
  · rw [undeployed armed] at deployed
    cases deployed
  · rw [next]
    exact ⟨rfl, deployed, rfl⟩
  · exact absurd accepted refused

/-- After a reset that restores a deployment with power, the announcement opens again. -/
theorem not_opensOnce_of_reset {pipeline : CommandPipeline} (sourced : Sourced pipeline.flightView)
    {input : ResetInput} (violates : ¬ ResetPowersOff pipeline (.reset input)) :
    ¬ OpensOnce (Run.after CommandPipeline.fly pipeline (.reset input :: announcement)) := by
  unfold ResetPowersOff at violates
  push Not at violates
  obtain ⟨checkpoint, restored, deployed, unlatched⟩ := violates
  have named : (input.machine pipeline.checkpoint).snapshot.flightEpoch =
      checkpoint.flightEpoch := (machine_of_deployed sourced restored deployed).1
  obtain ⟨-, started, cutoff⟩ := machine_of_deployed sourced restored deployed
  have core : Core (input.machine pipeline.checkpoint) := (sourced.reboot input).reached.core
  have descending := core.deployment.mp started
  have powered : (input.machine pipeline.checkpoint).snapshot.deploymentPowerCutoffLatched =
      false := cutoff.trans (eq_false_of_ne_true unlatched)
  have opened := log_announcement descending started powered
    (core.epoch (by rw [descending]; decide)) (input.kept pipeline.checkpoint)
    (pipeline.log ++ [.rebooted (input.restored pipeline.checkpoint)])
  intro once
  unfold OpensOnce at once
  rw [Run.after_cons] at once
  have splits : (Run.after CommandPipeline.fly (pipeline.fly (.reset input)) announcement).log =
      pipeline.log ++ .rebooted (input.restored pipeline.checkpoint) ::
        ([] ++ .automaticMoved (input.machine pipeline.checkpoint).snapshot.flightEpoch :: []) := by
    rw [List.nil_append, List.append_cons]
    exact opened
  rw [splits] at once
  have spends : opening.spends (.rebooted (input.restored pipeline.checkpoint))
      (input.machine pipeline.checkpoint).snapshot.flightEpoch = true := by
    rw [named, restored]
    simp [opening, deployed]
  obtain ⟨event, within, -⟩ := once.renewed_between spends (beq_self_eq_true _)
  cases within

/-! ### Runs -/

/-- The automatic opening is issued once an epoch in every run whose resets power restored
deployments off; after any other reset the mission loop and the parachute task can issue
it again. -/
theorem opens_once (labels : List FlightLabel) :
    (Run.Along CommandPipeline.fly ResetPowersOff (.boot {} {}) labels →
      OpensOnce (Run.after CommandPipeline.fly (.boot {} {}) labels)) ∧
    (∀ input : ResetInput,
      ¬ ResetPowersOff (Run.after CommandPipeline.fly (.boot {} {}) labels) (.reset input) →
      ¬ OpensOnce (Run.after CommandPipeline.fly (.boot {} {})
        (labels ++ .reset input :: announcement))) := by
  constructor
  · intro along
    have preserved : ∀ (state : CommandPipeline) (label : FlightLabel),
        Sourced state.flightView ∧ Covered state.flightView → ResetPowersOff state label →
          Sourced (state.fly label).flightView ∧ Covered (state.fly label).flightView :=
      fun state label holds permitted =>
        ⟨holds.1.fly label, holds.2.fly holds.1 permitted⟩
    have covered := (Run.invariant_after preserved ⟨sourced_boot, covered_boot⟩ along).2
    exact (OneShot.firesOnce_filter (fun _ quiet => opening_idle quiet) _).mp covered.once
  · intro input violates
    rw [Run.after_append]
    exact not_opensOnce_of_reset (sourced_after sourced_boot labels) violates

/-- A forced start, and liftoff detected at 2 s. -/
def liftedFlight : List FlightLabel :=
  [.task (.worker { request := CommandExecutor.plainRequest 1 .forceStartSequence }),
    .task .worker, .task .worker, .task (.realtime .transition)] ++
  List.replicate 8 (.task .parachute) ++
  [.task (.realtime .startResponse),
    .task (.realtime (.tick { monotonicUs := 2000000, liftoffDetected := true }))]

/-- The flight with its 17 s deadline and the opening. -/
def openedFlight : List FlightLabel :=
  liftedFlight ++ .task (.realtime (.tick { monotonicUs := 18500000 })) :: announcement

/-- A reset after the power cutoff opens nothing. -/
theorem opens_once_poweredOff :
    OpensOnce (Run.after CommandPipeline.fly (.boot {} {})
      (openedFlight ++ .task (.realtime (.tick { monotonicUs := 27000000 })) :: .reset {} ::
        announcement)) :=
  (opens_once _).1 (by decide +kernel)

/-- The opened flight, reset before the power cutoff. -/
def resetFlight : List FlightLabel := openedFlight ++ .reset {} :: announcement

/-- A reset between the opening and the power cutoff moves the parachute a second time in
the one epoch the flight has entered. -/
theorem reset_opens_again :
    (Run.after CommandPipeline.fly (.boot {} {}) resetFlight).log.count (.automaticMoved 1) = 2 ∧
      (Run.after CommandPipeline.fly (.boot {} {}) resetFlight).log.count (.epochEntered 1) = 1 ∧
      ¬ ∀ labels, OpensOnce (Run.after CommandPipeline.fly (.boot {} {}) labels) := by
  refine ⟨by decide +kernel, by decide +kernel, ?_⟩
  intro always
  have once := always resetFlight
  unfold resetFlight at once
  rw [Run.after_append] at once
  exact not_opensOnce_of_reset (sourced_after sourced_boot openedFlight) (by decide +kernel) once

end MissionBoard.Flight
