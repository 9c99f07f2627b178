import MissionBoard.Flight.AutomaticOpening
import MissionBoard.Runtime.NoticeBoard

/-!
Owns when the notice of the power cutoff reaches both queues. `cutoff_sent` is set whether or not
the requests found room, so that a notice that finds a full queue is lost for the rest of its epoch.

A latched cutoff is the end of the flight: the machine stays in descent, in its epoch, until a reset.
So no second epoch ever finds `cutoff_sent` set.
-/

namespace MissionBoard.Flight

open Protocol Mission MissionStateMachine Control MissionBoard.Runtime

/-! ### A latched cutoff ends the flight -/

/-- A latched machine has come down. -/
structure EndsLatched (machine : MissionStateMachine) : Prop where
  core : Core machine
  descends : machine.snapshot.deploymentPowerCutoffLatched = true →
    machine.snapshot.state = .descent

variable {machine : MissionStateMachine}

theorem EndsLatched.of_state {state : MissionState} (ends : EndsLatched machine)
    (found : machine.snapshot.state = state) (flying : state ≠ .descent) :
    machine.snapshot.deploymentPowerCutoffLatched = false := by
  apply eq_false_of_ne_true
  intro latched
  exact flying (found.symm.trans (ends.descends latched))

theorem descent_tick (guard : FinOvertravelGuard) (input : MissionTickInput)
    (descending : machine.snapshot.state = .descent) :
    (machine.tick guard input {}).1.snapshot.state = .descent := by
  rw [tick_descent_iff]
  left
  unfold MissionStateMachine.lifted
  rw [detectLiftoff_state, latchSafetyCutoff_state, descending]
  rfl

/-- The timer that latches the cutoff has long brought the machine down. -/
theorem EndsLatched.tick (ends : EndsLatched machine) (guard : FinOvertravelGuard)
    (input : MissionTickInput) : EndsLatched (machine.tick guard input {}).1 where
  core := ends.core.tick guard input {}
  descends cut := by
    rw [tick_cutoff] at cut
    split at cut
    · rename_i late
      obtain ⟨lifted, late⟩ := late
      have cause : DeploymentCause (machine.lifted input {}) input {} :=
        Or.inr (Or.inr ⟨lifted, UInt64.le_trans (by decide) late⟩)
      rw [tick_descent_iff]
      rcases (ends.core.lifted input {}).liftoff.mp lifted with burning | controlling | descending
      · exact Or.inr ⟨Or.inl burning, cause⟩
      · exact Or.inr ⟨Or.inr controlling, cause⟩
      · exact Or.inl descending
    · split at cut
      · rename_i requested
        exact absurd requested.2.2 nofun
      · exact descent_tick guard input (ends.descends cut)

theorem EndsLatched.cancelSequence (ends : EndsLatched machine) :
    EndsLatched machine.cancelSequence.2 := by
  rcases machine.cancelSequence_cases with ⟨armed, next⟩ | ⟨-, next⟩
  · have unlatched := ends.of_state armed nofun
    rw [next]
    exact ⟨ends.core.cancelled, fun latched => absurd (unlatched.symm.trans latched) nofun⟩
  · rw [next]
    exact ends

theorem EndsLatched.disableFinControl (ends : EndsLatched machine) :
    EndsLatched machine.disableFinControl.2 := by
  rcases machine.disableFinControl_cases with ⟨sequencing, next⟩ | next
  · have unlatched : machine.snapshot.deploymentPowerCutoffLatched = false := by
      rcases sequencing with armed | burning | controlling
      · exact ends.of_state armed nofun
      · exact ends.of_state burning nofun
      · exact ends.of_state controlling nofun
    have same : machine.controlDisabled.snapshot.deploymentPowerCutoffLatched =
        machine.snapshot.deploymentPowerCutoffLatched := by
      unfold controlDisabled
      dsimp only
      split <;> rfl
    rw [next]
    refine ⟨ends.core.controlDisabled, fun latched => ?_⟩
    exact absurd (unlatched.symm.trans (same.symm.trans latched)) nofun
  · rw [next]
    exact ends

theorem EndsLatched.startSequence (ends : EndsLatched machine) (guard : FinOvertravelGuard)
    (readiness : PreflightReadinessSnapshot) (mode : StartMode) :
    EndsLatched (machine.startSequence guard readiness mode).machine := by
  rcases machine.startSequence_cases guard readiness mode with ⟨-, -, -, next⟩ | ⟨-, next⟩
  · rw [next]
    exact ⟨ends.core.started readiness mode, nofun⟩
  · rw [next]
    exact ends

theorem EndsLatched.liftoffDetectionEmergencyStop (ends : EndsLatched machine) :
    EndsLatched machine.liftoffDetectionEmergencyStop.2 := by
  rcases machine.liftoffDetectionEmergencyStop_cases with ⟨burning, next⟩ | ⟨-, next⟩
  · have unlatched := ends.of_state burning nofun
    rw [next]
    refine ⟨ends.core.rolledBack burning, fun latched => ?_⟩
    exact absurd (unlatched.symm.trans latched) nofun
  · rw [next]
    exact ends

/-- What a reset restores from the checkpoint of such a machine is one. -/
theorem EndsLatched.reset (ends : EndsLatched machine) (input : ResetInput) (storedUs : UInt64) :
    EndsLatched (input.machine (storeFlightCheckpoint machine.snapshot storedUs)) := by
  have fresh : EndsLatched {} := ⟨core_initial, nofun⟩
  unfold ResetInput.machine
  split
  · exact fresh
  · rename_i checkpoint restored
    unfold ResetInput.restored at restored
    split at restored
    · obtain ⟨sequencing, rfl⟩ := checkpoint_of_load ends.core restored
      have faithful := checkpointOf_faithful ends.core sequencing (input.rtcNowUs - storedUs)
      rcases ({} : MissionStateMachine).restoreAfterReset_cases input.bootUs
          (checkpointOf machine.snapshot (input.rtcNowUs - storedUs)) with
        ⟨accepted, -, next⟩ | ⟨accepted, -, next⟩ | ⟨-, next⟩
      · rw [next]
        exact ⟨Core.restoredArmed _ accepted faithful, nofun⟩
      · rw [next]
        exact ⟨Core.restoredFlying _ accepted faithful,
          fun latched => if_pos (Or.inr (ends.descends latched))⟩
      · rw [next]
        exact fresh
    · cases restored

/-! ### The board -/

/-- The machine and the one that the checkpoint was stored from -/
structure Grounded (view : FlightView) : Prop where
  running : EndsLatched view.machine
  saved : ∃ stored storedUs, EndsLatched stored ∧
    view.checkpoint = storeFlightCheckpoint stored.snapshot storedUs

theorem Grounded.move {view next : FlightView} (grounded : Grounded view)
    (move : FlightMove view next) : Grounded next := by
  obtain ⟨running, saved⟩ := grounded
  cases move with
  | kept => exact ⟨running, saved⟩
  | ticked guard input rtcNowUs =>
      have ticked := running.tick guard input
      exact ⟨ticked, _, rtcNowUs, ticked, rfl⟩
  | cancelled => exact ⟨running.cancelSequence, saved⟩
  | controlDisabled => exact ⟨running.disableFinControl, saved⟩
  | started guard readiness mode rtcNowUs completes =>
      have started := running.startSequence guard readiness mode
      exact ⟨started, _, rtcNowUs, started, rfl⟩
  | rolledBack completes => exact ⟨running.liftoffDetectionEmergencyStop, saved⟩
  | opened => exact ⟨running, saved⟩

/-- A machine whose cutoff is latched in this epoch -/
structure CutIn (flightEpoch : UInt32) (machine : MissionStateMachine) : Prop where
  latched : machine.snapshot.deploymentPowerCutoffLatched = true
  epoch : machine.snapshot.flightEpoch = flightEpoch
  descends : machine.snapshot.state = .descent

/-- It stays so until a reset. -/
theorem CutIn.move {flightEpoch : UInt32} {view next : FlightView}
    (cut : CutIn flightEpoch view.machine) (move : FlightMove view next) :
    CutIn flightEpoch next.machine := by
  obtain ⟨latched, epoch, descends⟩ := cut
  have outside {state : MissionState} (found : view.machine.snapshot.state = state)
      (flying : state ≠ .descent) : False := flying (found.symm.trans descends)
  cases move with
  | kept | opened => exact ⟨latched, epoch, descends⟩
  | ticked guard input rtcNowUs =>
      exact ⟨cutoff_tick _ _ _ _ latched, (flightEpoch_of_attempt (tick_attempt _ _ _ _)).trans epoch,
        descent_tick guard input descends⟩
  | cancelled =>
      rcases view.machine.cancelSequence_cases with ⟨armed, -⟩ | ⟨-, next⟩
      · exact (outside armed nofun).elim
      · rw [next]
        exact ⟨latched, epoch, descends⟩
  | controlDisabled =>
      rcases view.machine.disableFinControl_cases with ⟨armed | burning | controlling, -⟩ | next
      · exact (outside armed nofun).elim
      · exact (outside burning nofun).elim
      · exact (outside controlling nofun).elim
      · rw [next]
        exact ⟨latched, epoch, descends⟩
  | started guard readiness mode rtcNowUs completes =>
      rcases view.machine.startSequence_cases guard readiness mode with
        ⟨-, receiving, -⟩ | ⟨incomplete, -⟩
      · exact (outside receiving nofun).elim
      · exact absurd completes incomplete
  | rolledBack completes =>
      rcases view.machine.liftoffDetectionEmergencyStop_cases with ⟨burning, -⟩ | ⟨-, next⟩
      · exact (outside burning nofun).elim
      · rw [next]
        exact ⟨latched, epoch, descends⟩

theorem Grounded.reboot {view : FlightView} (grounded : Grounded view) (input : ResetInput) :
    Grounded (view.reboot input) := by
  obtain ⟨-, stored, storedUs, saved, checkpoint⟩ := grounded
  refine ⟨?_, ?_⟩
  · show EndsLatched (input.machine view.checkpoint)
    rw [checkpoint]
    exact saved.reset input storedUs
  · unfold FlightView.reboot ResetInput.kept
    dsimp only
    split
    · exact ⟨{}, 0, ⟨core_initial, nofun⟩, rfl⟩
    · exact ⟨stored, storedUs, saved, checkpoint⟩

/-- What holds of the board in every run: `cutoff_sent` belongs to the cutoff that the cached
snapshot shows, the machine still stands there, and nothing of the notice was queued before. -/
structure NoticeSound (board : NoticeBoard) : Prop where
  grounded : Grounded board.pipeline.flightView
  cached : board.pipeline.realtime.snapshotCache.deploymentPowerCutoffLatched = true →
    board.pipeline.realtime.snapshotCache.flightEpoch ≠ 0 ∧
      CutIn board.pipeline.realtime.snapshotCache.flightEpoch board.pipeline.machine
  shown : board.pipeline.realtime.cutoffSent = true →
    board.pipeline.realtime.snapshotCache.deploymentPowerCutoffLatched = true
  unsent : board.pipeline.realtime.cutoffSent = false → board.sent = []

/-- When the task regards the cutoff of its flight epoch as sent, both requests of the notice were
queued in that epoch. -/
def Noticed (board : NoticeBoard) : Prop :=
  board.pipeline.realtime.cutoffSent = true →
    .power cutoffPower ∈ board.sent ∧
      .para (cutoffPara board.pipeline.realtime.snapshotCache.flightEpoch) ∈ board.sent

/-- A step that sends the notice finds room in both queues. -/
def FindsRoom (board : NoticeBoard) (label : NoticeLabel) : Prop :=
  label = .fly (.task (.realtime .announceCutoff)) → board.announces = true →
    board.powerQueue.items.length < 4 ∧ board.pipeline.paraQueue.items.length < 4

instance (board : NoticeBoard) (label : NoticeLabel) : Decidable (FindsRoom board label) :=
  inferInstanceAs (Decidable (_ → _ → _))

instance (board : NoticeBoard) : Decidable (Noticed board) :=
  inferInstanceAs (Decidable (_ → _))

theorem isSome_send_iff {α : Type} {capacity : ℕ} (queue : BoundedQueue α capacity) (item : α) :
    (queue.send item).isSome = true ↔ queue.items.length < capacity := by
  unfold BoundedQueue.send
  split
  · rename_i room
    exact iff_of_true rfl room
  · rename_i full
    exact iff_of_false Bool.false_ne_true full

theorem power_mem_queuedNotice (board : NoticeBoard) :
    .power cutoffPower ∈ board.queuedNotice ↔ board.powerQueue.items.length < 4 := by
  rw [← isSome_send_iff board.powerQueue cutoffPower]
  unfold NoticeBoard.queuedNotice
  dsimp only
  split_ifs <;> simp_all

theorem para_mem_queuedNotice (board : NoticeBoard) :
    .para (cutoffPara board.pipeline.realtime.snapshotCache.flightEpoch) ∈ board.queuedNotice ↔
      board.pipeline.paraQueue.items.length < 4 := by
  rw [← isSome_send_iff board.pipeline.paraQueue
    (cutoffPara board.pipeline.realtime.snapshotCache.flightEpoch)]
  unfold NoticeBoard.queuedNotice
  dsimp only
  split_ifs <;> simp_all

/-! ### One step -/

variable {board : NoticeBoard}

/-- A step that leaves the variables of the notice alone -/
theorem NoticeSound.of_noticed {next : NoticeBoard} (sound : NoticeSound board)
    (move : FlightMove board.pipeline.flightView next.pipeline.flightView)
    (same : next.pipeline.noticed = board.pipeline.noticed) (sent : next.sent = board.sent) :
    NoticeSound next := by
  have cache : next.pipeline.realtime.snapshotCache = board.pipeline.realtime.snapshotCache :=
    congrArg Prod.fst same
  have flag : next.pipeline.realtime.cutoffSent = board.pipeline.realtime.cutoffSent :=
    congrArg Prod.snd same
  refine ⟨sound.grounded.move move, fun latched => ?_, fun flagged => ?_, fun unflagged => ?_⟩
  · rw [cache] at latched ⊢
    obtain ⟨live, cut⟩ := sound.cached latched
    exact ⟨live, cut.move move⟩
  · rw [flag] at flagged
    rw [cache]
    exact sound.shown flagged
  · rw [flag] at unflagged
    rw [sent]
    exact sound.unsent unflagged

/-- The step that sends the notice: `cutoff_sent` is set, whatever was queued. -/
theorem announceCutoff_of_announces (sound : NoticeSound board) (announces : board.announces = true) :
    board.announceCutoff.pipeline.noticed = (board.pipeline.realtime.snapshotCache, true) ∧
      board.announceCutoff.sent = board.queuedNotice := by
  have values := CommandPipeline.noticed_announceCutoff board.pipeline
  have sent : board.announceCutoff.sent = board.sent ++ board.queuedNotice := by
    unfold NoticeBoard.announceCutoff
    dsimp only
    rw [if_pos announces]
  unfold NoticeBoard.announces at announces
  simp only [Bool.and_eq_true, Bool.not_eq_true', Option.isNone_iff_eq_none] at announces
  obtain ⟨⟨free, latched⟩, unsent⟩ := announces
  rw [NoticeBoard.pipeline_announceCutoff, values, sent, sound.unsent unsent, latched, free]
  simp [(sound.cached latched).1]

theorem announceCutoff_of_silent (sound : NoticeSound board) (silent : board.announces = false) :
    board.announceCutoff.pipeline.noticed = board.pipeline.noticed ∧
      board.announceCutoff.sent = board.sent := by
  have values := CommandPipeline.noticed_announceCutoff board.pipeline
  have sent : board.announceCutoff.sent = board.sent := by
    unfold NoticeBoard.announceCutoff
    dsimp only
    rw [silent]
    rfl
  refine ⟨?_, sent⟩
  rw [NoticeBoard.pipeline_announceCutoff, values]
  unfold NoticeBoard.announces at silent
  unfold CommandPipeline.noticed
  congr 1
  split_ifs with applying grounded
  · rfl
  · symm
    apply eq_false_of_ne_true
    intro flagged
    exact (sound.cached (sound.shown flagged)).1 grounded
  · cases latched : board.pipeline.realtime.snapshotCache.deploymentPowerCutoffLatched with
    | false => rw [Bool.or_false]
    | true =>
        rw [latched, Option.isNone_iff_eq_none.mpr (Option.not_isSome_iff_eq_none.mp applying)] at silent
        simpa using silent

theorem NoticeSound.announceCutoff (sound : NoticeSound board) :
    NoticeSound board.announceCutoff := by
  have move : FlightMove board.pipeline.flightView board.announceCutoff.pipeline.flightView := by
    rw [NoticeBoard.pipeline_announceCutoff]
    exact CommandPipeline.step_refines board.pipeline _
  cases announces : board.announces with
  | false =>
      obtain ⟨same, sent⟩ := announceCutoff_of_silent sound announces
      exact sound.of_noticed move same sent
  | true =>
      obtain ⟨values, -⟩ := announceCutoff_of_announces sound announces
      have cache := congrArg Prod.fst values
      have flag := congrArg Prod.snd values
      dsimp only [CommandPipeline.noticed] at cache flag
      unfold NoticeBoard.announces at announces
      simp only [Bool.and_eq_true] at announces
      obtain ⟨⟨-, latched⟩, -⟩ := announces
      obtain ⟨live, cut⟩ := sound.cached latched
      refine ⟨sound.grounded.move move, fun _ => ?_, fun _ => ?_, fun unflagged => ?_⟩
      · rw [cache]
        exact ⟨live, cut.move move⟩
      · rw [cache]
        exact latched
      · exact absurd (flag.symm.trans unflagged) nofun

/-- After the step that sends the notice it is as the claim says exactly when it found room. -/
theorem noticed_announceCutoff_iff (sound : NoticeSound board) (announces : board.announces = true) :
    Noticed board.announceCutoff ↔
      board.powerQueue.items.length < 4 ∧ board.pipeline.paraQueue.items.length < 4 := by
  obtain ⟨values, sent⟩ := announceCutoff_of_announces sound announces
  have cache := congrArg Prod.fst values
  have flag := congrArg Prod.snd values
  dsimp only [CommandPipeline.noticed] at cache flag
  unfold Noticed
  rw [sent, cache, flag, power_mem_queuedNotice, para_mem_queuedNotice]
  exact ⟨fun noticed => noticed rfl, fun room _ => room⟩

/-- The refresh of the cached snapshot: a cutoff that was shown is shown still, in its epoch. -/
theorem sound_of_refreshed {pipeline : CommandPipeline} (sound : NoticeSound board)
    (move : FlightMove board.pipeline.flightView pipeline.flightView)
    (refreshed : pipeline.noticed =
      (board.pipeline.machine.snapshot, board.pipeline.realtime.cutoffSent)) :
    let next : NoticeBoard := { board with
      pipeline := pipeline
      sent :=
        if pipeline.realtime.snapshotCache.flightEpoch =
            board.pipeline.realtime.snapshotCache.flightEpoch then board.sent
        else [] }
    NoticeSound next ∧ (Noticed board → Noticed next) := by
  have cache : pipeline.realtime.snapshotCache = board.pipeline.machine.snapshot :=
    congrArg Prod.fst refreshed
  have flag : pipeline.realtime.cutoffSent = board.pipeline.realtime.cutoffSent :=
    congrArg Prod.snd refreshed
  have running := sound.grounded.running
  have stands (flagged : board.pipeline.realtime.cutoffSent = true) :=
    (sound.cached (sound.shown flagged)).2
  intro next
  constructor
  · constructor
    · exact sound.grounded.move move
    · intro latched
      dsimp only [next] at latched ⊢
      rw [cache] at latched ⊢
      have descends := running.descends latched
      have cut : CutIn board.pipeline.machine.snapshot.flightEpoch board.pipeline.machine :=
        ⟨latched, rfl, descends⟩
      have flying : board.pipeline.flightView.machine.snapshot.state ≠ .commandReceive := by
        rw [descends]
        decide
      exact ⟨running.core.epoch flying, cut.move move⟩
    · intro flagged
      dsimp only [next] at flagged ⊢
      rw [flag] at flagged
      rw [cache]
      exact (stands flagged).latched
    · intro unflagged
      dsimp only [next] at unflagged ⊢
      rw [flag] at unflagged
      rw [sound.unsent unflagged, ite_self]
  · intro noticed flagged
    dsimp only [next] at flagged ⊢
    rw [flag] at flagged
    have epoch := (stands flagged).epoch
    rw [cache, epoch, if_pos rfl]
    exact noticed flagged

/-- A task's step that leaves the notice to others -/
theorem sound_fly_task (sound : NoticeSound board) {label : CommandLabel}
    (announces : label ≠ .realtime .announceCutoff) :
    NoticeSound (board.fly (.task label)) ∧ (Noticed board → Noticed (board.fly (.task label))) := by
  have move := CommandPipeline.step_refines board.pipeline label
  rw [board.fly_task announces]
  have values : (board.pipeline.step label).noticed = board.pipeline.noticed ∨
      (board.pipeline.step label).noticed =
        (board.pipeline.machine.snapshot, board.pipeline.realtime.cutoffSent) := by
    by_cases refreshes : ∃ takesState, label = .realtime (.refreshCache takesState)
    · obtain ⟨takesState, rfl⟩ := refreshes
      exact CommandPipeline.noticed_refreshCache board.pipeline takesState
    · left
      exact CommandPipeline.noticed_step board.pipeline
        (fun takesState refresh => refreshes ⟨takesState, refresh⟩) announces
  rcases values with same | refreshed
  · have cache := congrArg Prod.fst same
    have flag := congrArg Prod.snd same
    dsimp only [CommandPipeline.noticed] at cache flag
    rw [if_pos (by rw [cache])]
    refine ⟨sound.of_noticed move same rfl, fun noticed flagged => ?_⟩
    dsimp only at flagged ⊢
    rw [flag] at flagged
    rw [cache]
    exact noticed flagged
  · exact sound_of_refreshed sound move refreshed

/-- A reset forgets the cutoff with everything else that the notice wrote. -/
theorem sound_reset (sound : NoticeSound board) (input : ResetInput) :
    NoticeSound (board.fly (.reset input)) ∧ Noticed (board.fly (.reset input)) := by
  constructor
  · constructor
    · have rebooted := sound.grounded.reboot input
      rw [← CommandPipeline.flightView_reboot] at rebooted
      exact rebooted
    · intro latched
      cases latched
    · intro flagged
      cases flagged
    · intro _
      rfl
  · intro flagged
    cases flagged

/-- Every step keeps the board sound, and one that finds room keeps the notice whole. -/
theorem NoticeSound.step (sound : NoticeSound board) (label : NoticeLabel) :
    NoticeSound (board.step label) ∧
      (FindsRoom board label → Noticed board → Noticed (board.step label)) := by
  cases label with
  | fly label =>
      cases label with
      | reset input =>
          obtain ⟨rebooted, noticed⟩ := sound_reset sound input
          exact ⟨rebooted, fun _ _ => noticed⟩
      | task label =>
          by_cases announcing : label = .realtime .announceCutoff
          · subst announcing
            refine ⟨sound.announceCutoff, fun room noticed => ?_⟩
            cases announces : board.announces with
            | true => exact (noticed_announceCutoff_iff sound announces).mpr (room rfl announces)
            | false =>
                obtain ⟨same, sent⟩ := announceCutoff_of_silent sound announces
                have cache := congrArg Prod.fst same
                have flag := congrArg Prod.snd same
                dsimp only [CommandPipeline.noticed] at cache flag
                intro flagged
                rw [show board.step (.fly (.task (.realtime .announceCutoff))) =
                  board.announceCutoff from rfl] at flagged ⊢
                rw [flag] at flagged
                rw [cache, sent]
                exact noticed flagged
          · obtain ⟨next, kept⟩ := sound_fly_task sound announcing
            exact ⟨next, fun _ => kept⟩
  | sendPower request =>
      exact ⟨sound.of_noticed .kept rfl rfl, fun _ noticed => noticed⟩
  | receivePower =>
      unfold NoticeBoard.step
      dsimp only
      split
      · exact ⟨sound, fun _ noticed => noticed⟩
      · exact ⟨sound.of_noticed .kept rfl rfl, fun _ noticed => noticed⟩

theorem sound_boot : NoticeSound (.boot {} {}) where
  grounded := ⟨⟨core_initial, nofun⟩, {}, 0, ⟨core_initial, nofun⟩, rfl⟩
  cached := nofun
  shown := nofun
  unsent _ := rfl

theorem sound_after (labels : List NoticeLabel) :
    NoticeSound (Run.after NoticeBoard.step (.boot {} {}) labels) := by
  have preserved : ∀ (board : NoticeBoard) (label : NoticeLabel), NoticeSound board → True →
      NoticeSound (board.step label) :=
    fun _ label sound _ => (sound.step label).1
  exact Run.invariant_after preserved sound_boot (Run.along_of_forall (fun _ _ => trivial) _ _)

/-! ### Runs -/

/-- In every run whose notices find room the cutoff that the task regards as sent has been queued on
both queues in its epoch; after any run, a notice that finds a full queue is regarded as sent
without having been queued. -/
theorem cutoff_noticed (labels : List NoticeLabel) :
    (Run.Along NoticeBoard.step FindsRoom (.boot {} {}) labels →
      Noticed (Run.after NoticeBoard.step (.boot {} {}) labels)) ∧
    ∀ label, ¬ FindsRoom (Run.after NoticeBoard.step (.boot {} {}) labels) label →
      ¬ Noticed (Run.after NoticeBoard.step (.boot {} {}) (labels ++ [label])) := by
  constructor
  · intro along
    have preserved : ∀ (board : NoticeBoard) (label : NoticeLabel),
        NoticeSound board ∧ Noticed board → FindsRoom board label →
          NoticeSound (board.step label) ∧ Noticed (board.step label) := by
      intro board label ⟨sound, noticed⟩ room
      obtain ⟨next, kept⟩ := sound.step label
      exact ⟨next, kept room noticed⟩
    exact (Run.invariant_after preserved ⟨sound_boot, nofun⟩ along).2
  · intro label full
    have sound := sound_after labels
    rw [Run.after_concat]
    unfold FindsRoom at full
    push Not at full
    obtain ⟨rfl, announces, full⟩ := full
    intro noticed
    obtain ⟨power, para⟩ := (noticed_announceCutoff_iff sound announces).mp noticed
    exact absurd para (Nat.not_lt.mpr (full power))

/-- The opened flight past the time at which the power is cut -/
def latchedFlight : List NoticeLabel :=
  (openedFlight ++ [FlightLabel.task (.realtime (.tick { monotonicUs := 27000000 })),
    .task (.realtime (.refreshCache true))]).map NoticeLabel.fly

/-- The step that sends the notice -/
def announcing : NoticeLabel := .fly (.task (.realtime .announceCutoff))

/-- The flight in which other tasks fill `power_queue` before the notice -/
def crowdedFlight : List NoticeLabel := latchedFlight ++ List.replicate 4 (.sendPower {})

theorem cutoff_noticed_latchedFlight :
    Noticed (Run.after NoticeBoard.step (.boot {} {}) (latchedFlight ++ [announcing])) ∧
      (Run.after NoticeBoard.step (.boot {} {})
        (latchedFlight ++ [announcing])).pipeline.realtime.cutoffSent = true ∧
      ¬ Noticed (Run.after NoticeBoard.step (.boot {} {}) (crowdedFlight ++ [announcing])) :=
  ⟨(cutoff_noticed (latchedFlight ++ [announcing])).1 (by decide +kernel), by decide +kernel,
    (cutoff_noticed crowdedFlight).2 announcing (by decide +kernel)⟩

/-- With `power_queue` full the cutoff is regarded as sent, and its request is in no queue. -/
theorem crowded_unnoticed :
    (Run.after NoticeBoard.step (.boot {} {})
        (crowdedFlight ++ [announcing])).pipeline.realtime.cutoffSent = true ∧
      .power cutoffPower ∉
        (Run.after NoticeBoard.step (.boot {} {}) (crowdedFlight ++ [announcing])).sent ∧
      ¬ ∀ labels, Noticed (Run.after NoticeBoard.step (.boot {} {}) labels) := by
  have lost : (Run.after NoticeBoard.step (.boot {} {})
        (crowdedFlight ++ [announcing])).pipeline.realtime.cutoffSent = true ∧
      .power cutoffPower ∉
        (Run.after NoticeBoard.step (.boot {} {}) (crowdedFlight ++ [announcing])).sent := by
    decide +kernel
  refine ⟨lost.1, lost.2, fun always => ?_⟩
  exact lost.2 (always (crowdedFlight ++ [announcing]) lost.1).1

end MissionBoard.Flight
