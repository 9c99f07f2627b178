import MissionBoard.Flight.LiftoffDetection

/-!
Owns the delivery of a liftoff detection: what a detector of the running epoch reports
while the machine waits for liftoff must reach the next tick executed in that epoch.

The flag is cleared after every tick, executed or not, so a report is lost exactly by a
failed try-lock behind it, or by a cached epoch that does not know its number yet.
-/

namespace MissionBoard.Flight

open Protocol Control Mission Sensors MissionBoard.Runtime
open Trace

/-- A detection of the epoch was reported, and no tick was executed in the epoch since. -/
def awaited (trace : List LiftoffEvent) (generation : ℕ) : Bool :=
  trace.foldl
    (fun awaited event =>
      match event with
      | .reported reporting => awaited || reporting == generation
      | .ticked ticking _ => awaited && ticking != generation
      | .lifted _ _ => awaited)
    false

/-- The next tick executed in the epoch of a reported detection receives it. -/
def DetectionsDelivered (trace : List LiftoffEvent) : Prop :=
  Throughout
    (fun first event => ∀ generation detected, event = .ticked generation detected →
      awaited first generation = true → detected = true)
    trace

/-- The condition: no try-lock before a tick fails while a detection is flagged and the
machine waits for liftoff, and a pressure report of the machine's epoch that tells of
liftoff finds that epoch in the cache. -/
def Delivers (loop : LiftoffLoop) : LiftoffLabel → Prop
  | .tick _ _ false =>
      loop.phase = .ticking → loop.liftoffDetected = true →
        loop.machine.snapshot.state ≠ .liftoffDetection
  | .receive =>
      loop.phase = .sampling → ∀ report ∈ loop.airDataQueue,
        report.event.lpsLiftoffDetected = true → loop.awaits report.event.flightEpoch = true →
          report.event.flightEpoch = loop.snapshotCache.flightEpoch
  | _ => True

instance (loop : LiftoffLoop) (label : LiftoffLabel) : Decidable (Delivers loop label) := by
  unfold Delivers
  split <;> infer_instance

theorem awaited_concat (trace : List LiftoffEvent) (event : LiftoffEvent) (generation : ℕ) :
    awaited (trace ++ [event]) generation =
      match event with
      | .reported reporting => awaited trace generation || reporting == generation
      | .ticked ticking _ => awaited trace generation && ticking != generation
      | .lifted _ _ => awaited trace generation := by
  unfold awaited
  rw [List.foldl_append]
  rfl

/-- What does not tick keeps the requirement. -/
theorem DetectionsDelivered.concat {trace : List LiftoffEvent}
    (delivered : DetectionsDelivered trace) {event : LiftoffEvent}
    (quiet : ∀ generation detected, event ≠ .ticked generation detected) :
    DetectionsDelivered (trace ++ [event]) :=
  throughout_concat delivered fun generation detected ticks =>
    absurd ticks (quiet generation detected)

section Delivery

variable {loop : LiftoffLoop} {tests : DetectionTests}

/-- A detection that waits for a tick is flagged, in an iteration on its way to its tick. -/
structure Waiting (loop : LiftoffLoop) : Prop where
  flagged : loop.liftoffDetected = true
  armed : loop.machine.snapshot.state = .liftoffDetection
  onTheWay : loop.phase = .sampling ∨ loop.phase = .ticking

/-- Every reported detection was delivered or still waits. -/
structure DetectionPending (loop : LiftoffLoop) : Prop where
  delivered : DetectionsDelivered loop.log
  waiting : ∀ generation, awaited loop.log generation = true →
    generation = loop.generation ∧ Waiting loop

theorem detectionPending_boot (machine : MissionStateMachine) :
    DetectionPending { machine := machine } :=
  ⟨throughout_nil _, nofun⟩

/-- Outside the way to a tick nothing waits. -/
private theorem DetectionPending.settled (holds : DetectionPending loop)
    (away : loop.phase ≠ .sampling ∧ loop.phase ≠ .ticking) (generation : ℕ) :
    awaited loop.log generation = false :=
  Bool.eq_false_of_not_eq_true fun waits =>
    (not_or.mpr away) (holds.waiting generation waits).2.onTheWay

/-- A step that leaves the log alone, taken while nothing waits. -/
private theorem DetectionPending.of_settled {next : LiftoffLoop} (holds : DetectionPending loop)
    (away : loop.phase ≠ .sampling ∧ loop.phase ≠ .ticking) (log : next.log = loop.log) :
    DetectionPending next := by
  refine ⟨log ▸ holds.delivered, fun generation waits => ?_⟩
  rw [log, holds.settled away generation] at waits
  contradiction

private theorem DetectionPending.detect (holds : DetectionPending loop) (detected : Bool)
    (contributors : List ℕ) : DetectionPending (loop.detect detected contributors) := by
  unfold LiftoffLoop.detect
  split
  · refine ⟨holds.delivered, fun generation waits => ?_⟩
    obtain ⟨running, waiting⟩ := holds.waiting generation waits
    exact ⟨running, rfl, waiting.armed, waiting.onTheWay⟩
  · exact holds

/-- A report is logged once its detection is flagged. -/
private theorem DetectionPending.witness (holds : DetectionPending loop)
    (onTheWay : loop.phase = .sampling ∨ loop.phase = .ticking) {detected : Bool}
    {flightEpoch : UInt32}
    (flagged : detected = true → loop.awaits flightEpoch = true → loop.liftoffDetected = true) :
    DetectionPending (loop.witness detected flightEpoch) := by
  unfold LiftoffLoop.witness
  split
  · rename_i reports
    obtain ⟨detects, awaits⟩ := Bool.and_eq_true_iff.mp reports
    refine ⟨holds.delivered.concat nofun, fun generation waits => ?_⟩
    have waits : (awaited loop.log generation || loop.generation == generation) = true := by
      rw [← waits]
      exact (awaited_concat loop.log (.reported loop.generation) generation).symm
    have armed : loop.machine.snapshot.state = .liftoffDetection :=
      eq_of_beq (Bool.and_eq_true_iff.mp awaits).1
    have running : generation = loop.generation := by
      rcases Bool.or_eq_true_iff.mp waits with earlier | now
      · exact (holds.waiting generation earlier).1
      · exact (eq_of_beq now).symm
    exact ⟨running, flagged detects awaits, armed, onTheWay⟩
  · exact holds

private theorem DetectionPending.sample (holds : DetectionPending loop)
    (sampling : loop.phase = .sampling) (acceleration : Acceleration) (valid : Bool) :
    DetectionPending (loop.sample tests acceleration valid) := by
  unfold LiftoffLoop.sample
  dsimp only
  generalize loop.liftoffDetector.update _ _ _ = result
  have replaced : DetectionPending { loop with liftoffDetector := result.2 } := by
    refine ⟨holds.delivered, fun generation waits => ?_⟩
    obtain ⟨running, waiting⟩ := holds.waiting generation waits
    exact ⟨running, waiting.flagged, waiting.armed, waiting.onTheWay⟩
  apply (replaced.detect result.1 _).witness
  · rw [LiftoffLoop.detect_phase]
    exact Or.inl sampling
  · intro detects _
    rw [detects]
    rfl

private theorem DetectionPending.receive (holds : DetectionPending loop)
    (sampling : loop.phase = .sampling)
    (known : ∀ report ∈ loop.airDataQueue, report.event.lpsLiftoffDetected = true →
      loop.awaits report.event.flightEpoch = true →
        report.event.flightEpoch = loop.snapshotCache.flightEpoch) :
    DetectionPending loop.receive := by
  unfold LiftoffLoop.receive
  split
  · exact holds
  · rename_i report queued
    have taken : DetectionPending { loop with airDataQueue := none } := by
      refine ⟨holds.delivered, fun generation waits => ?_⟩
      obtain ⟨running, waiting⟩ := holds.waiting generation waits
      exact ⟨running, waiting.flagged, waiting.armed, waiting.onTheWay⟩
    dsimp only
    split
    · apply (taken.detect report.event.lpsLiftoffDetected report.contributors).witness
      · rw [LiftoffLoop.detect_phase]
        exact Or.inl sampling
      · intro detects _
        rw [detects]
        rfl
    · rename_i unknown
      apply taken.witness (Or.inl sampling)
      exact fun detects awaits => absurd (known report queued detects awaits) unknown

/-- An executed tick delivers what waits; a tick that is not executed must find nothing. -/
private theorem DetectionPending.tick (holds : DetectionPending loop)
    (guard : FinOvertravelGuard) (input : MissionTickInput) (takesState : Bool)
    (kept : takesState = false → loop.liftoffDetected = true →
      loop.machine.snapshot.state ≠ .liftoffDetection) :
    DetectionPending { loop.tick guard input takesState with phase := .caching } := by
  cases takesState with
  | false =>
      refine ⟨holds.delivered, fun generation waits => ?_⟩
      have waiting := (holds.waiting generation waits).2
      exact absurd waiting.armed (kept rfl waiting.flagged)
  | true =>
      unfold LiftoffLoop.tick
      rw [if_pos rfl]
      dsimp only
      generalize (loop.machine.tick guard { input with liftoffDetected := loop.liftoffDetected }
        {}).1 = next
      have delivered : DetectionsDelivered
          (loop.log ++ [.ticked loop.generation loop.liftoffDetected]) := by
        apply throughout_concat holds.delivered
        rintro generation detected ⟨⟩ waits
        exact (holds.waiting loop.generation waits).2.flagged
      have nothing (generation : ℕ) :
          awaited (loop.log ++ [.ticked loop.generation loop.liftoffDetected]) generation =
            false := by
        rw [awaited_concat]
        cases waits : awaited loop.log generation with
        | false => rfl
        | true => simp [(holds.waiting generation waits).1]
      split
      · refine ⟨delivered.concat nofun, fun generation waits => ?_⟩
        have waits : awaited (loop.log ++ [.ticked loop.generation loop.liftoffDetected])
            generation = true := by
          rw [← waits]
          exact (awaited_concat _ (.lifted loop.generation loop.contributors) generation).symm
        rw [nothing generation] at waits
        contradiction
      · refine ⟨delivered, fun generation waits => ?_⟩
        have waits : awaited (loop.log ++ [.ticked loop.generation loop.liftoffDetected])
            generation = true := waits
        rw [nothing generation] at waits
        contradiction

/-- What a step of `airDataTask` changes is not waited for. -/
private theorem DetectionPending.of_airData {next : LiftoffLoop} (holds : DetectionPending loop)
    (log : next.log = loop.log) (generation : next.generation = loop.generation)
    (machine : next.machine = loop.machine) (phase : next.phase = loop.phase)
    (detected : next.liftoffDetected = loop.liftoffDetected) : DetectionPending next := by
  refine ⟨log ▸ holds.delivered, fun waited waits => ?_⟩
  rw [log] at waits
  obtain ⟨running, waiting⟩ := holds.waiting waited waits
  exact ⟨running.trans generation.symm, detected.trans waiting.flagged,
    machine ▸ waiting.armed, phase ▸ waiting.onTheWay⟩

/-- One step of either task keeps the invariant under the condition. -/
theorem DetectionPending.step (holds : DetectionPending loop) (label : LiftoffLabel)
    (delivers : Delivers loop label) : DetectionPending (loop.step tests label) := by
  unfold LiftoffLoop.step
  cases label with
  | operate call =>
      dsimp only
      split
      · rename_i performs
        have away : loop.phase ≠ .sampling ∧ loop.phase ≠ .ticking := by
          rw [performs.1]
          decide
        exact holds.of_settled away rfl
      · exact holds
  | refresh takesState =>
      dsimp only
      split
      · rename_i commanding
        have away : loop.phase ≠ .sampling ∧ loop.phase ≠ .ticking := by
          rw [commanding]
          decide
        apply holds.of_settled away
        show (loop.recache takesState).followEpoch.log = loop.log
        rw [LiftoffLoop.followEpoch_log, LiftoffLoop.recache_log]
      · exact holds
  | sample acceleration valid =>
      dsimp only
      split
      · exact holds.sample ‹_› acceleration valid
      · exact holds
  | receive =>
      dsimp only
      split
      · rename_i sampling
        have received := holds.receive sampling (delivers sampling)
        refine ⟨received.delivered, fun generation waits => ?_⟩
        obtain ⟨running, waiting⟩ := received.waiting generation waits
        exact ⟨running, waiting.flagged, waiting.armed, Or.inr rfl⟩
      · exact holds
  | tick guard input takesState =>
      dsimp only
      split
      · rename_i ticking
        apply holds.tick
        rintro rfl
        exact delivers ticking
      · exact holds
  | recache takesState =>
      dsimp only
      split
      · rename_i caching
        have away : loop.phase ≠ .sampling ∧ loop.phase ≠ .ticking := by
          rw [caching]
          decide
        apply holds.of_settled away
        exact loop.recache_log takesState
      · exact holds
  | refreshAir takesState =>
      dsimp only
      unfold LiftoffLoop.refreshAir
      split
      · exact holds.of_airData rfl rfl rfl rfl rfl
      · exact holds
  | updateLps pressure => exact holds.of_airData rfl rfl rfl rfl rfl
  | publish => exact holds.of_airData rfl rfl rfl rfl rfl

end Delivery

/-- The detection of an armed machine, the tick behind it, and an iteration without samples. -/
def detectedThenSilent (takesState : Bool) : List LiftoffLabel :=
  armedAndDetected ++
    [.tick {} { monotonicUs := 1000000 } takesState, .recache true, .refresh true, .receive,
      .tick {} { monotonicUs := 1001000 } true]

end MissionBoard.Flight
