import MissionBoard.Mission.CommandTable
import MissionBoard.Runtime.EmergencyFrames

/-!
Owns the permission of an actuator emergency stop: outside command receive it must have no
effect, and inside it every frame with a transaction must stop the outputs.

The queue asks the executor for permission. The latch that catches a full queue stops the
outputs first, so the stop it carries is not judged at all.
-/

namespace MissionBoard.Flight

open Protocol Control Mission MissionBoard.Runtime

/-- A stop of the outputs happens in command receive. -/
def stopsWhileReceiving : StopEvent → Bool
  | .stopped state _ => state == .commandReceive
  | .arrived | .left => true

/-- A frame has arrived in command receive, and since then the outputs have not been stopped
and the machine has not left. -/
def owed (trace : List StopEvent) : Bool := trace.getLast? == some .arrived

theorem owed_concat (trace : List StopEvent) (event : StopEvent) :
    owed (trace ++ [event]) = (event == .arrived) := by
  unfold owed
  rw [List.getLast?_concat]
  rfl

/-- The condition: `missionRealtimeTask` finds `actuator_emergency_latch` pending only in
command receive, and an actuator envelope that it puts back there finds room. -/
def AsksPermission (frames : EmergencyFrames) : FrameLabel → Prop
  | .emergency takesExecutor takesState =>
      match frames.phase with
      | .takingActuator =>
          frames.actuatorLatch.pending.isSome = true → frames.state = .commandReceive
      | .holding envelope =>
          (takesExecutor && takesState) = false → envelope.liftoffDetection = false →
            frames.state = .commandReceive → frames.emergencyQueue.items.length < 16
      | _ => True
  | _ => True

instance (frames : EmergencyFrames) (label : FrameLabel) :
    Decidable (AsksPermission frames label) := by
  unfold AsksPermission
  split
  · split <;> infer_instance
  · infer_instance

section Permission

variable {frames : EmergencyFrames}

/-- The outputs will be stopped, or an envelope that asks for it is under way. -/
def OnItsWay (frames : EmergencyFrames) : Prop :=
  frames.phase.boundToStop = true ∨
    ∃ envelope ∈ frames.underWay, envelope.liftoffDetection = false

/-- What the condition keeps. -/
structure Permitted (frames : EmergencyFrames) : Prop where
  numbered : ∀ envelope ∈ frames.underWay, envelope.transactionId ≠ 0
  bound : frames.phase.boundToStop = true → frames.state = .commandReceive
  waiting : owed frames.log = true → frames.state = .commandReceive ∧ OnItsWay frames
  log : ∀ event ∈ frames.log, stopsWhileReceiving event = true

theorem permitted_boot (machine : MissionStateMachine) (guard : FinOvertravelGuard) :
    Permitted { pipeline := .boot machine guard } where
  numbered := nofun
  bound := nofun
  waiting := nofun
  log := nofun

/-- A step that moves envelopes about, stays in command receive and logs nothing. -/
private theorem Permitted.moved (holds : Permitted frames) {next : EmergencyFrames}
    (state : frames.state = .commandReceive → next.state = .commandReceive)
    (log : next.log = frames.log)
    (moved : ∀ envelope ∈ next.underWay, envelope.transactionId ≠ 0)
    (bound : next.phase.boundToStop = true → frames.state = .commandReceive)
    (waits : frames.state = .commandReceive → OnItsWay frames → OnItsWay next) :
    Permitted next := by
  refine ⟨moved, fun stops => state (bound stops), fun waiting => ?_, log ▸ holds.log⟩
  rw [log] at waiting
  obtain ⟨receiving, onItsWay⟩ := holds.waiting waiting
  exact ⟨state receiving, waits receiving onItsWay⟩

private theorem Permitted.takeFrame (holds : Permitted frames) (envelope : EmergencyEnvelope)
    (takesExecutor : Bool) : Permitted (frames.takeFrame envelope takesExecutor) := by
  unfold EmergencyFrames.takeFrame
  split
  · exact holds
  · rename_i free
    split
    · exact ⟨holds.numbered, holds.bound, holds.waiting, holds.log⟩
    · rename_i numbered
      have idle : frames.overflowing = none := by simpa using free
      have under := EmergencyFrames.mem_underWay_sendFrame idle envelope
      have sent : Permitted (frames.sendFrame envelope) := by
        apply holds.moved (frames.sendFrame_state envelope).trans (frames.sendFrame_log envelope)
        · intro other within
          rcases (under other).mp within with rfl | earlier
          · exact numbered
          · exact holds.numbered other earlier
        · rw [EmergencyFrames.sendFrame_phase]
          exact holds.bound
        · rintro - (bound | ⟨other, within, stops⟩)
          · exact Or.inl ((congrArg _ (frames.sendFrame_phase envelope)).trans bound)
          · exact Or.inr ⟨other, (under other).mpr (Or.inr within), stops⟩
      dsimp only
      split
      · rename_i arrives
        refine ⟨sent.numbered, sent.bound, fun _ => ⟨?_, ?_⟩, ?_⟩
        · exact (frames.sendFrame_state envelope).trans arrives.2
        · exact Or.inr ⟨envelope, (under envelope).mpr (Or.inl rfl), arrives.1⟩
        · intro event within
          rcases List.mem_append.mp within with earlier | latest
          · exact sent.log event earlier
          · rw [List.mem_singleton.mp latest]
            rfl
      · exact sent

private theorem Permitted.signalLatch (holds : Permitted frames) :
    Permitted frames.signalLatch := by
  apply holds.moved frames.signalLatch_state.trans frames.signalLatch_log
  · exact fun envelope within =>
      holds.numbered envelope (EmergencyFrames.mem_underWay_of_signalLatch within)
  · rw [EmergencyFrames.signalLatch_phase]
    exact holds.bound
  · rintro - (bound | stops)
    · exact Or.inl ((congrArg _ frames.signalLatch_phase).trans bound)
    · exact Or.inr (EmergencyFrames.stop_mem_underWay_signalLatch stops)

/-- A step that neither loses an envelope nor brings a new one. -/
private theorem Permitted.passed (holds : Permitted frames) {next : EmergencyFrames}
    (state : next.state = frames.state) (log : next.log = frames.log)
    (under : ∀ envelope, envelope ∈ next.underWay ↔ envelope ∈ frames.underWay)
    (before : frames.phase.boundToStop = false)
    (bound : next.phase.boundToStop = true → frames.state = .commandReceive) :
    Permitted next := by
  apply holds.moved state.trans log _ bound
  · rintro - (bound | ⟨envelope, within, stops⟩)
    · rw [before] at bound
      contradiction
    · exact Or.inr ⟨envelope, (under envelope).mpr within, stops⟩
  · exact fun envelope within => holds.numbered envelope ((under envelope).mp within)

private theorem Permitted.receive (holds : Permitted frames) (receiving : frames.phase = .receiving)
    (takesExecutor takesState : Bool) :
    Permitted (frames.stepEmergency takesExecutor takesState) := by
  have before : frames.phase.boundToStop = false := by
    rw [receiving]
    rfl
  unfold EmergencyFrames.stepEmergency
  rw [receiving]
  dsimp only
  split
  · refine holds.passed rfl rfl (fun envelope => ?_) before nofun
    rw [EmergencyFrames.mem_underWay, EmergencyFrames.mem_underWay, receiving]
    rfl
  · rename_i envelope rest received
    refine holds.passed rfl rfl (fun other => ?_) before nofun
    rw [EmergencyFrames.mem_underWay, EmergencyFrames.mem_underWay, receiving,
      BoundedQueue.items_receive received]
    simp only [EmergencyPhase.inHand, List.mem_cons, List.not_mem_nil]
    tauto

private theorem Permitted.takeLiftoff (holds : Permitted frames)
    (taking : frames.phase = .takingLiftoff) (takesExecutor takesState : Bool) :
    Permitted (frames.stepEmergency takesExecutor takesState) := by
  have before : frames.phase.boundToStop = false := by
    rw [taking]
    rfl
  unfold EmergencyFrames.stepEmergency
  rw [taking]
  dsimp only
  split
  · refine holds.passed rfl rfl (fun envelope => ?_) before nofun
    rw [EmergencyFrames.mem_underWay, EmergencyFrames.mem_underWay, taking]
    rfl
  · rename_i transactionId pending
    refine holds.passed rfl rfl (fun envelope => ?_) before nofun
    rw [EmergencyFrames.mem_underWay, EmergencyFrames.mem_underWay, taking,
      EmergencyLatch.mem_envelopes_of_pending pending]
    simp only [EmergencyPhase.inHand, EmergencyLatch.envelopes_empty, List.mem_singleton,
      List.not_mem_nil]
    tauto

/-- The outputs are stopped where they may be, and whatever has waited is served. -/
private theorem Permitted.stop (holds : Permitted frames)
    (receiving : frames.state = .commandReceive) (stopped : CommandPipeline) (finFreed : Bool)
    {phase : EmergencyPhase} (ends : phase.boundToStop = false) (empty : phase.inHand = []) :
    Permitted { frames.stop stopped finFreed with phase := phase } := by
  refine ⟨fun envelope within => ?_, fun bound => ?_, fun waiting => ?_, ?_⟩
  · apply holds.numbered envelope
    rw [EmergencyFrames.mem_underWay] at within ⊢
    rw [empty] at within
    rcases within with queued | taken | inHand | latched | pending
    · exact Or.inl queued
    · exact Or.inr (Or.inl taken)
    · contradiction
    · exact Or.inr (Or.inr (Or.inr (Or.inl latched)))
    · exact Or.inr (Or.inr (Or.inr (Or.inr pending)))
  · exact absurd bound (by simp [ends])
  · have waiting : owed (frames.log ++ [.stopped frames.state finFreed]) = true := waiting
    rw [owed_concat] at waiting
    contradiction
  · intro event within
    rcases List.mem_append.mp within with earlier | latest
    · exact holds.log event earlier
    · rw [List.mem_singleton.mp latest]
      exact beq_iff_eq.mpr receiving

private theorem Permitted.restoreLiftoff (holds : Permitted frames) {transactionId : UInt8}
    (restoring : frames.phase = .restoringLiftoff transactionId) (takesExecutor takesState : Bool) :
    Permitted (frames.stepEmergency takesExecutor takesState) := by
  have before : frames.phase.boundToStop = false := by
    rw [restoring]
    rfl
  unfold EmergencyFrames.stepEmergency
  rw [restoring]
  dsimp only
  split
  · rename_i queue sent
    refine holds.passed rfl rfl (fun envelope => ?_) before nofun
    rw [EmergencyFrames.mem_underWay, EmergencyFrames.mem_underWay, restoring,
      BoundedQueue.items_sendToFront sent]
    simp only [EmergencyPhase.inHand, List.mem_cons, List.not_mem_nil]
    tauto
  · -- The latch may have been signalled again; only a liftoff stop can be lost.
    refine holds.moved id rfl (fun envelope within => ?_) nofun ?_
    · apply holds.numbered envelope
      rw [EmergencyFrames.mem_underWay, EmergencyLatch.mem_envelopes_signal] at within
      rw [EmergencyFrames.mem_underWay, restoring]
      simp only [EmergencyPhase.inHand, List.mem_singleton, List.not_mem_nil] at within ⊢
      tauto
    · rintro - (bound | ⟨envelope, within, stops⟩)
      · rw [before] at bound
        contradiction
      · refine Or.inr ⟨envelope, EmergencyFrames.mem_underWay.mpr ?_, stops⟩
        rw [EmergencyFrames.mem_underWay, restoring] at within
        rcases within with queued | taken | inHand | latched | pending
        · exact Or.inl queued
        · exact Or.inr (Or.inl taken)
        · rw [List.mem_singleton.mp inHand] at stops
          contradiction
        · rw [EmergencyLatch.liftoffDetection_of_mem_envelopes latched] at stops
          contradiction
        · exact Or.inr (Or.inr (Or.inr (Or.inr pending)))

private theorem Permitted.takeActuator (holds : Permitted frames)
    (taking : frames.phase = .takingActuator) (takesExecutor takesState : Bool)
    (asks : frames.actuatorLatch.pending.isSome = true → frames.state = .commandReceive) :
    Permitted (frames.stepEmergency takesExecutor takesState) := by
  have before : frames.phase.boundToStop = false := by
    rw [taking]
    rfl
  unfold EmergencyFrames.stepEmergency
  rw [taking]
  dsimp only
  split
  · refine holds.passed rfl rfl (fun envelope => ?_) before nofun
    rw [EmergencyFrames.mem_underWay, EmergencyFrames.mem_underWay, taking]
    rfl
  · rename_i transactionId pending
    refine holds.passed rfl rfl (fun envelope => ?_) before fun _ => asks (by rw [pending]; rfl)
    rw [EmergencyFrames.mem_underWay, EmergencyFrames.mem_underWay, taking,
      EmergencyLatch.mem_envelopes_of_pending pending]
    simp only [EmergencyPhase.inHand, EmergencyLatch.envelopes_empty, List.mem_singleton,
      List.not_mem_nil]
    tauto

private theorem Permitted.restoreActuator (holds : Permitted frames) {transactionId : UInt8}
    (restoring : frames.phase = .restoringActuator transactionId)
    (takesExecutor takesState : Bool) :
    Permitted (frames.stepEmergency takesExecutor takesState) := by
  have bound : frames.state = .commandReceive := holds.bound (by rw [restoring]; rfl)
  unfold EmergencyFrames.stepEmergency
  rw [restoring]
  dsimp only
  split
  · rename_i queue sent
    refine holds.moved id rfl (fun envelope within => ?_) (fun _ => bound) fun _ _ => Or.inl rfl
    apply holds.numbered envelope
    rw [EmergencyFrames.mem_underWay, BoundedQueue.items_sendToFront sent] at within
    rw [EmergencyFrames.mem_underWay, restoring]
    simp only [EmergencyPhase.inHand, List.mem_cons, List.not_mem_nil] at within ⊢
    tauto
  · refine holds.moved id rfl (fun envelope within => ?_) (fun _ => bound) fun _ _ => Or.inl rfl
    apply holds.numbered envelope
    rw [EmergencyFrames.mem_underWay, EmergencyLatch.mem_envelopes_signal] at within
    rw [EmergencyFrames.mem_underWay, restoring]
    simp only [EmergencyPhase.inHand, List.mem_singleton, List.not_mem_nil] at within ⊢
    tauto

/-- The executor lets a stop with a transaction through in command receive and nowhere else. -/
private theorem decideEmergency_applying (pipeline : CommandPipeline) (transactionId : UInt8) :
    (pipeline.decideEmergency transactionId true).realtime.applying.isSome = true ↔
      transactionId ≠ 0 ∧ pipeline.machine.snapshot.state = .commandReceive := by
  unfold CommandPipeline.decideEmergency CommandExecutor.actuatorEmergency
  rw [if_pos rfl]
  dsimp only
  by_cases accepted : transactionId ≠ 0 ∧ pipeline.machine.snapshot.state = .commandReceive
  · rw [if_pos accepted]
    exact iff_of_true rfl accepted
  · rw [if_neg accepted]
    exact iff_of_false nofun accepted

/-- A liftoff stop finds nothing to do in command receive. -/
private theorem liftoffEmergency_state {pipeline : CommandPipeline} (transactionId : UInt8)
    (receiving : pipeline.machine.snapshot.state = .commandReceive) :
    (pipeline.liftoffEmergency transactionId true).machine.snapshot.state = .commandReceive := by
  unfold CommandPipeline.liftoffEmergency
  rw [if_pos rfl]
  dsimp only
  rcases pipeline.machine.liftoffDetectionEmergencyStop_cases with ⟨burning, -⟩ | ⟨-, stopped⟩
  · rw [receiving] at burning
    contradiction
  · rw [stopped]
    exact receiving

/-- The envelope in hand is answered; a stop in command receive is about to have effect. -/
private theorem Permitted.answered (holds : Permitted frames) {envelope : EmergencyEnvelope}
    (holding : frames.phase = .holding envelope) {pipeline : CommandPipeline}
    {phase : EmergencyPhase} (empty : phase.inHand = [])
    (state : frames.state = .commandReceive →
      pipeline.machine.snapshot.state = .commandReceive)
    (bound : phase.boundToStop = true → frames.state = .commandReceive)
    (serves : frames.state = .commandReceive → envelope.liftoffDetection = false →
      phase.boundToStop = true) :
    Permitted { frames with pipeline := pipeline, phase := phase } := by
  refine holds.moved state rfl (fun other within => ?_) bound ?_
  · apply holds.numbered other
    rw [EmergencyFrames.mem_underWay] at within ⊢
    rw [empty] at within
    simp only [List.not_mem_nil] at within
    tauto
  · rintro receiving (already | ⟨other, within, stops⟩)
    · rw [holding] at already
      contradiction
    · rw [EmergencyFrames.mem_underWay, holding] at within
      rcases within with queued | taken | inHand | latched | pending
      · exact Or.inr ⟨other, EmergencyFrames.mem_underWay.mpr (Or.inl queued), stops⟩
      · exact Or.inr ⟨other, EmergencyFrames.mem_underWay.mpr (Or.inr (Or.inl taken)), stops⟩
      · rw [List.mem_singleton.mp inHand] at stops
        exact Or.inl (serves receiving stops)
      · rw [EmergencyLatch.liftoffDetection_of_mem_envelopes latched] at stops
        contradiction
      · exact Or.inr ⟨other, EmergencyFrames.mem_underWay.mpr
          (Or.inr (Or.inr (Or.inr (Or.inr pending)))), stops⟩

private theorem Permitted.hold (holds : Permitted frames) {envelope : EmergencyEnvelope}
    (holding : frames.phase = .holding envelope) (takesExecutor takesState : Bool)
    (room : (takesExecutor && takesState) = false → envelope.liftoffDetection = false →
      frames.state = .commandReceive → frames.emergencyQueue.items.length < 16) :
    Permitted (frames.stepEmergency takesExecutor takesState) := by
  have inHand : envelope ∈ frames.underWay := by
    rw [EmergencyFrames.mem_underWay, holding]
    simp [EmergencyPhase.inHand]
  have numbered : envelope.transactionId ≠ 0 := holds.numbered envelope inHand
  unfold EmergencyFrames.stepEmergency
  rw [holding]
  dsimp only
  split
  · unfold EmergencyFrames.answer
    split
    · rename_i liftoff
      refine holds.answered holding rfl (liftoffEmergency_state envelope.transactionId) nofun ?_
      intro _ stops
      rw [liftoff] at stops
      contradiction
    · have accepts := decideEmergency_applying frames.pipeline envelope.transactionId
      dsimp only
      split
      · rename_i decision applying
        rw [applying] at accepts
        have receiving := (accepts.mp rfl).2
        exact holds.answered holding rfl (fun _ => receiving) (fun _ => receiving) fun _ _ => rfl
      · rename_i refused
        rw [refused] at accepts
        have away : frames.state ≠ .commandReceive :=
          fun receiving => nomatch accepts.mpr ⟨numbered, receiving⟩
        exact holds.answered holding rfl (fun receiving => absurd receiving away) nofun
          fun receiving _ => absurd receiving away
  · rename_i contended
    have contended : (takesExecutor && takesState) = false := by simpa using contended
    refine holds.moved id rfl (fun other within => ?_) nofun ?_
    · rw [EmergencyFrames.mem_underWay] at within
      rcases within with queued | rest
      · rcases BoundedQueue.mem_of_mem_offerFront queued with rfl | earlier
        · exact numbered
        · exact holds.numbered other (EmergencyFrames.mem_underWay.mpr (Or.inl earlier))
      · apply holds.numbered other
        rw [EmergencyFrames.mem_underWay]
        simp only [EmergencyPhase.inHand, List.not_mem_nil] at rest
        tauto
    · rintro receiving (already | ⟨other, within, stops⟩)
      · rw [holding] at already
        contradiction
      · rw [EmergencyFrames.mem_underWay, holding] at within
        refine Or.inr ⟨other, EmergencyFrames.mem_underWay.mpr ?_, stops⟩
        rcases within with queued | taken | inHand | latched
        · exact Or.inl (BoundedQueue.mem_offerFront queued)
        · exact Or.inr (Or.inl taken)
        · rw [List.mem_singleton.mp inHand] at stops ⊢
          refine Or.inl ?_
          rw [BoundedQueue.items_offerFront_of_room (room contended stops receiving)]
          exact List.mem_cons_self
        · exact Or.inr (Or.inr (Or.inr latched))

private theorem Permitted.stepEmergency (holds : Permitted frames) (takesExecutor takesState : Bool)
    (asks : AsksPermission frames (.emergency takesExecutor takesState)) :
    Permitted (frames.stepEmergency takesExecutor takesState) := by
  unfold AsksPermission at asks
  dsimp only at asks
  cases phase : frames.phase with
  | elsewhere =>
      unfold EmergencyFrames.stepEmergency
      rw [phase]
      have before : frames.phase.boundToStop = false := by
        rw [phase]
        rfl
      refine holds.passed rfl rfl (fun envelope => ?_) before nofun
      rw [EmergencyFrames.mem_underWay, EmergencyFrames.mem_underWay, phase]
      rfl
  | receiving => exact holds.receive phase takesExecutor takesState
  | holding envelope =>
      rw [phase] at asks
      exact holds.hold phase takesExecutor takesState asks
  | applying decision =>
      unfold EmergencyFrames.stepEmergency
      rw [phase]
      exact holds.stop (holds.bound (by rw [phase]; rfl)) _ true rfl rfl
  | takingLiftoff => exact holds.takeLiftoff phase takesExecutor takesState
  | restoringLiftoff transactionId => exact holds.restoreLiftoff phase takesExecutor takesState
  | takingActuator =>
      rw [phase] at asks
      exact holds.takeActuator phase takesExecutor takesState asks
  | restoringActuator transactionId => exact holds.restoreActuator phase takesExecutor takesState
  | stopping =>
      unfold EmergencyFrames.stepEmergency
      rw [phase]
      exact holds.stop (holds.bound (by rw [phase]; rfl)) _ false rfl rfl

/-- While `missionRealtimeTask` is in its emergency block, the machine stays as it is. -/
private theorem machine_of_admits {label : CommandLabel} (admits : frames.admits label = true)
    (busy : frames.phase ≠ .elsewhere) :
    (frames.pipeline.step label).machine = frames.pipeline.machine := by
  cases label with
  | worker input =>
      exact congrArg FlightView.machine (frames.pipeline.flightView_stepWorker input)
  | realtime step =>
      have elsewhere := (Bool.and_eq_true_iff.mp admits).1
      exact absurd (of_decide_eq_true elsewhere) busy
  | applyEmergency => contradiction
  | parachute input => exact frames.pipeline.machine_stepParachute input
  | finishExport input =>
      exact congrArg FlightView.machine (frames.pipeline.flightView_finishExport input)
  | takeExport input =>
      exact congrArg FlightView.machine (frames.pipeline.flightView_takeExport input)
  | safety input =>
      exact congrArg FlightView.machine (frames.pipeline.flightView_stepSafety input)

/-- A step of another part of the pipeline. -/
private theorem Permitted.perform (holds : Permitted frames) {label : CommandLabel}
    (admits : frames.admits label = true) : Permitted (frames.perform label) := by
  have bound (stops : frames.phase.boundToStop = true) :
      (frames.pipeline.step label).machine.snapshot.state = .commandReceive := by
    have busy : frames.phase ≠ .elsewhere := by
      intro elsewhere
      rw [elsewhere] at stops
      contradiction
    rw [machine_of_admits admits busy]
    exact holds.bound stops
  unfold EmergencyFrames.perform
  dsimp only
  split
  · refine ⟨holds.numbered, bound, fun waiting => ?_, ?_⟩
    · have waiting : owed (frames.log ++ [.left]) = true := waiting
      rw [owed_concat] at waiting
      contradiction
    · intro event within
      rcases List.mem_append.mp within with earlier | latest
      · exact holds.log event earlier
      · rw [List.mem_singleton.mp latest]
        rfl
  · rename_i stays
    refine ⟨holds.numbered, bound, fun waiting => ?_, holds.log⟩
    obtain ⟨receiving, onItsWay⟩ := holds.waiting waiting
    exact ⟨by_contra fun left => stays ⟨receiving, left⟩, onItsWay⟩

/-- One step of any task keeps the invariant under the condition. -/
theorem Permitted.step (holds : Permitted frames) (label : FrameLabel)
    (asks : AsksPermission frames label) : Permitted (frames.step label) := by
  cases label with
  | frame envelope takesExecutor => exact holds.takeFrame envelope takesExecutor
  | signal => exact holds.signalLatch
  | emergency takesExecutor takesState =>
      exact holds.stepEmergency takesExecutor takesState asks
  | task label =>
      unfold EmergencyFrames.step
      dsimp only
      split
      · exact holds.perform ‹_›
      · exact holds

/-! ### Every stop is served -/

/-- How far the emergency block is from stopping the outputs, when every mutex is free. The
latch is reached in this pass, and what is queued is reached in the next one. -/
def distance (latched : Bool) (queued : ℕ) : EmergencyPhase → ℕ
  | .applying _ | .stopping => 0
  | .restoringActuator _ => 1
  | .takingActuator => if latched then 2 else 300
  | .restoringLiftoff _ => if latched then 3 else 301
  | .takingLiftoff => if latched then 4 else 302
  | .receiving => 5 + 2 * queued
  | .holding _ => 6 + 2 * queued
  | .elsewhere => 100

/-- The distance of the block from stopping the outputs. -/
def distanceToStop (frames : EmergencyFrames) : ℕ :=
  distance frames.actuatorLatch.pending.isSome frames.emergencyQueue.items.length frames.phase

/-- A stop is owed, and `canTask` has nothing in its hands. -/
structure Serving (frames : EmergencyFrames) : Prop where
  permitted : Permitted frames
  waiting : owed frames.log = true
  idle : frames.overflowing = none

/-- The outputs have just been stopped, in command receive. -/
structure JustStopped (frames : EmergencyFrames) : Prop where
  inhibited : frames.pipeline.actuatorOutputInhibited = true
  logged : ∃ finFreed, frames.log.getLast? = some (.stopped .commandReceive finFreed)

private theorem justStopped {next : EmergencyFrames} {finFreed : Bool}
    (receiving : frames.state = .commandReceive)
    (inhibited : next.pipeline.actuatorOutputInhibited = true)
    (log : next.log = frames.log ++ [.stopped frames.state finFreed]) : JustStopped next :=
  ⟨inhibited, finFreed, by rw [log, List.getLast?_concat, receiving]⟩

/-- A step that stops nothing keeps the stop owed. -/
private theorem Serving.of_step (holds : Serving frames)
    (log : (frames.stepEmergency true true).log = frames.log)
    (idle : (frames.stepEmergency true true).overflowing = frames.overflowing) :
    Serving (frames.stepEmergency true true) := by
  have receiving := (holds.permitted.waiting holds.waiting).1
  refine ⟨holds.permitted.stepEmergency true true ?_, log ▸ holds.waiting, idle.trans holds.idle⟩
  unfold AsksPermission
  dsimp only
  split
  · exact fun _ => receiving
  · exact nofun
  · trivial

/-- A stop that is neither queued nor in anyone's hands is in the latch. -/
private theorem latched_of_empty (onItsWay : OnItsWay frames)
    (unbound : frames.phase.boundToStop = false) (empty : frames.phase.inHand = [])
    (drained : frames.emergencyQueue.items = []) (idle : frames.overflowing = none) :
    frames.actuatorLatch.pending.isSome = true := by
  rcases onItsWay with bound | ⟨envelope, within, stops⟩
  · rw [unbound] at bound
    contradiction
  · rw [EmergencyFrames.mem_underWay, drained, idle, empty] at within
    rcases within with queued | taken | inHand | latched | pending
    · contradiction
    · contradiction
    · contradiction
    · rw [EmergencyLatch.liftoffDetection_of_mem_envelopes latched] at stops
      contradiction
    · obtain ⟨transactionId, signalled, -⟩ :=
        Option.map_eq_some_iff.mp (Option.mem_toList.mp pending)
      rw [signalled]
      rfl

/-- With free mutexes a step of the block stops the outputs or comes closer to it. -/
private theorem Serving.advance (holds : Serving frames) :
    JustStopped (frames.stepEmergency true true) ∨
      (Serving (frames.stepEmergency true true) ∧
        distanceToStop (frames.stepEmergency true true) < distanceToStop frames) := by
  have kept := holds.of_step
  obtain ⟨receiving, onItsWay⟩ := holds.permitted.waiting holds.waiting
  have room := frames.emergencyQueue.bounded
  unfold distanceToStop
  unfold EmergencyFrames.stepEmergency at kept ⊢
  cases phase : frames.phase with
  | elsewhere =>
      rw [phase] at kept
      refine Or.inr ⟨kept rfl rfl, ?_⟩
      show 5 + 2 * frames.emergencyQueue.items.length < 100
      omega
  | receiving =>
      rw [phase] at kept
      dsimp only at kept ⊢
      cases received : frames.emergencyQueue.receive with
      | none =>
          rw [received] at kept
          refine Or.inr ⟨kept rfl rfl, ?_⟩
          have latched := latched_of_empty onItsWay (by rw [phase]; rfl) (by rw [phase]; rfl)
            (BoundedQueue.items_receive_none received) holds.idle
          dsimp only [distance]
          rw [latched, if_pos rfl]
          omega
      | some taken =>
          obtain ⟨envelope, rest⟩ := taken
          rw [received] at kept
          refine Or.inr ⟨kept rfl rfl, ?_⟩
          dsimp only [distance]
          rw [BoundedQueue.items_receive received, List.length_cons]
          omega
  | holding envelope =>
      rw [phase] at kept
      have numbered : envelope.transactionId ≠ 0 := by
        apply holds.permitted.numbered envelope
        rw [EmergencyFrames.mem_underWay, phase]
        simp [EmergencyPhase.inHand]
      have accepts :=
        (decideEmergency_applying frames.pipeline envelope.transactionId).mpr ⟨numbered, receiving⟩
      have free : (true && true) = true := rfl
      dsimp only at kept ⊢
      rw [if_pos free] at kept ⊢
      unfold EmergencyFrames.answer at kept ⊢
      dsimp only at kept ⊢
      refine Or.inr ?_
      by_cases liftoff : envelope.liftoffDetection = true
      · rw [if_pos liftoff] at kept ⊢
        refine ⟨kept rfl rfl, ?_⟩
        dsimp only [distance]
        omega
      · obtain ⟨decision, applying⟩ := Option.isSome_iff_exists.mp accepts
        rw [if_neg liftoff, applying] at kept ⊢
        refine ⟨kept rfl rfl, ?_⟩
        dsimp only [distance]
        omega
  | applying decision => exact Or.inl (justStopped receiving rfl rfl)
  | takingLiftoff =>
      rw [phase] at kept
      dsimp only at kept ⊢
      refine Or.inr ?_
      split at kept
      · refine ⟨kept rfl rfl, ?_⟩
        dsimp only [distance]
        split <;> omega
      · refine ⟨kept rfl rfl, ?_⟩
        dsimp only [distance]
        split <;> omega
  | restoringLiftoff transactionId =>
      rw [phase] at kept
      dsimp only at kept ⊢
      refine Or.inr ?_
      split at kept
      · refine ⟨kept rfl rfl, ?_⟩
        dsimp only [distance]
        split <;> omega
      · refine ⟨kept rfl rfl, ?_⟩
        dsimp only [distance]
        split <;> omega
  | takingActuator =>
      rw [phase] at kept
      dsimp only at kept ⊢
      refine Or.inr ?_
      split at kept
      · rename_i nothing
        refine ⟨kept rfl rfl, ?_⟩
        dsimp only [distance]
        rw [nothing]
        decide
      · refine ⟨kept rfl rfl, ?_⟩
        dsimp only [distance]
        split <;> omega
  | restoringActuator transactionId =>
      rw [phase] at kept
      dsimp only at kept ⊢
      refine Or.inr ?_
      split at kept
      · exact ⟨kept rfl rfl, Nat.one_pos⟩
      · exact ⟨kept rfl rfl, Nat.one_pos⟩
  | stopping => exact Or.inl (justStopped receiving rfl rfl)

/-- An owed stop is served: once `canTask` has signalled what it could not send, the block
stops the outputs in command receive, whatever else is queued before it. -/
theorem Permitted.served (holds : Permitted frames) (waiting : owed frames.log = true) :
    ∃ count, JustStopped
      (Run.after EmergencyFrames.step (frames.step .signal)
        (List.replicate count (.emergency true true))) := by
  have idle : frames.signalLatch.overflowing = none := by
    unfold EmergencyFrames.signalLatch
    split
    · assumption
    · split <;> rfl
  have serving : Serving (frames.step .signal) :=
    ⟨holds.signalLatch, (congrArg owed frames.signalLatch_log).trans waiting, idle⟩
  exact Run.reaches_of_measure (fun _ serves => serves.advance) serving

/-! ### Every effect is logged -/

/-- The step belongs to the pipeline and not to the emergencies. -/
def isTask : FrameLabel → Bool
  | .task _ => true
  | _ => false

/-- The flag of the outputs and the mode of the fin are as they were. -/
structure Unaffected (before after : EmergencyFrames) : Prop where
  inhibited : after.pipeline.actuatorOutputInhibited = before.pipeline.actuatorOutputInhibited
  finMode : after.pipeline.realtime.commandFinMode = before.pipeline.realtime.commandFinMode

private theorem unaffected_answer (envelope : EmergencyEnvelope) :
    Unaffected frames (frames.answer envelope) := by
  unfold EmergencyFrames.answer
  split
  · unfold CommandPipeline.liftoffEmergency
    dsimp only
    rw [if_pos rfl]
    split <;> exact ⟨rfl, rfl⟩
  · exact ⟨rfl, rfl⟩

/-- What an emergency does to the outputs and to the fin shows in the log. -/
theorem effect_logged (frames : EmergencyFrames) {label : FrameLabel}
    (emergency : isTask label = false) :
    (∃ finFreed, (frames.step label).log = frames.log ++ [.stopped frames.state finFreed]) ∨
      Unaffected frames (frames.step label) := by
  cases label with
  | frame envelope takesExecutor =>
      refine Or.inr ?_
      show Unaffected frames (frames.takeFrame envelope takesExecutor)
      unfold EmergencyFrames.takeFrame
      split
      · exact ⟨rfl, rfl⟩
      · split
        · exact ⟨rfl, rfl⟩
        · unfold EmergencyFrames.sendFrame
          dsimp only
          split <;> split <;> exact ⟨rfl, rfl⟩
  | signal =>
      refine Or.inr ?_
      show Unaffected frames frames.signalLatch
      unfold EmergencyFrames.signalLatch
      split
      · exact ⟨rfl, rfl⟩
      · split <;> exact ⟨rfl, rfl⟩
  | emergency takesExecutor takesState =>
      show (∃ finFreed, (frames.stepEmergency takesExecutor takesState).log = _) ∨
        Unaffected frames (frames.stepEmergency takesExecutor takesState)
      unfold EmergencyFrames.stepEmergency
      split
      · exact Or.inr ⟨rfl, rfl⟩
      · split <;> exact Or.inr ⟨rfl, rfl⟩
      · split
        · exact Or.inr (unaffected_answer _)
        · exact Or.inr ⟨rfl, rfl⟩
      · exact Or.inl ⟨true, rfl⟩
      · split <;> exact Or.inr ⟨rfl, rfl⟩
      · split <;> exact Or.inr ⟨rfl, rfl⟩
      · split <;> exact Or.inr ⟨rfl, rfl⟩
      · split <;> exact Or.inr ⟨rfl, rfl⟩
      · exact Or.inl ⟨false, rfl⟩
  | task label => contradiction

end Permission

/-- What the claim says of a reached state: emergencies have stopped the outputs in command
receive only, the log misses no effect of theirs, and a frame that has come in command
receive is served as soon as the mutexes are free. -/
structure StopsWithPermission (frames : EmergencyFrames) : Prop where
  permitted : ∀ event ∈ frames.log, stopsWhileReceiving event = true
  logged : ∀ label, isTask label = false →
    (∃ finFreed, (frames.step label).log = frames.log ++ [.stopped frames.state finFreed]) ∨
      Unaffected frames (frames.step label)
  served : owed frames.log = true →
    ∃ count, JustStopped
      (Run.after EmergencyFrames.step (frames.step .signal)
        (List.replicate count (.emergency true true)))

/-- **A rejected stop has no effect, an accepted one has.** In a run that meets the
condition, actuator emergency stops act in command receive, where every frame with a
transaction is served, and nowhere else. -/
theorem stops_with_permission (machine : MissionStateMachine) (guard : FinOvertravelGuard)
    {labels : List FrameLabel}
    (asks : Run.Along EmergencyFrames.step AsksPermission { pipeline := .boot machine guard }
      labels) :
    StopsWithPermission
      (Run.after EmergencyFrames.step { pipeline := .boot machine guard } labels) := by
  have preserved : ∀ (frames : EmergencyFrames) (label : FrameLabel), Permitted frames →
      AsksPermission frames label → Permitted (frames.step label) :=
    fun _ label holds asks => holds.step label asks
  have reached := Run.invariant_after preserved (permitted_boot machine guard) asks
  exact ⟨reached.log, fun _ emergency => effect_logged _ emergency, reached.served⟩

/-- More frames than `emergency_queue` holds, and the signal of the last. -/
def frameBurst : List FrameLabel :=
  List.replicate 17 (.frame { transactionId := 7 }) ++ [.signal]

/-- A pass of the emergency block in which no mutex is free. -/
def contendedPass : List FrameLabel := List.replicate 7 (.emergency false false)

/-- A start that arms the machine. -/
def armingSteps : List CommandLabel :=
  [.worker { request := CommandExecutor.plainRequest 1 .forceStartSequence }, .worker, .worker,
      .realtime .transition] ++
    List.replicate 8 .parachute ++ [.realtime .startResponse]

theorem stops_with_permission_frameBurst :
    StopsWithPermission
      (Run.after EmergencyFrames.step { pipeline := .boot {} {} } (frameBurst ++ contendedPass)) :=
  stops_with_permission {} {} (by decide +kernel)

/-- A stop that a full queue turns away stops the outputs of an armed machine. -/
theorem stop_without_permission :
    ¬ ∀ labels : List FrameLabel,
      StopsWithPermission
        (Run.after EmergencyFrames.step { pipeline := .boot {} {} } labels) := by
  intro always
  have stopped : (Run.after EmergencyFrames.step { pipeline := .boot {} {} }
      (armingSteps.map .task ++ frameBurst ++ contendedPass)).log.all stopsWhileReceiving = false := by
    decide +kernel
  have permitted := (always (armingSteps.map .task ++ frameBurst ++ contendedPass)).permitted
  rw [List.all_eq_true.mpr permitted] at stopped
  contradiction

end MissionBoard.Flight
