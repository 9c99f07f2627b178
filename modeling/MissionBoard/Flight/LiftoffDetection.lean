import MissionBoard.Runtime.LiftoffLoop
import MissionBoard.Runtime.Reachable

/-!
Owns what a liftoff detection may rest on, and what becomes of it.

A detection must not outlive the epoch its samples were taken in. The detectors are reset
when the cached epoch changes, and the cache lags behind the machine while its refresh
fails, so a rollback can meet a detection of the epoch it has ended. A detection of the
running epoch must reach the next tick; the flag is cleared after a tick that was not
executed as well, so contention can lose it.
-/

namespace MissionBoard.Flight

open Protocol Control Mission MissionStateMachine Sensors MissionBoard.Runtime

/-! ### Detections stay within their epoch -/

/-- Every sample behind a liftoff was processed in the epoch that lifts off. -/
def withinEpoch : LiftoffEvent → Bool
  | .lifted generation contributors => contributors.all (generation ≤ ·)
  | .reported _ | .ticked _ _ => true

/-- No detection crosses into a later epoch. -/
def DetectionsWithinEpoch (log : List LiftoffEvent) : Prop :=
  ∀ event ∈ log, withinEpoch event = true

/-- The condition: a tick is executed on a detection while the machine waits for liftoff
only if the cache has caught up with the machine's epoch, and no epoch begins under a
number that a detector or a report still carries. -/
def CatchesUp (loop : LiftoffLoop) : LiftoffLabel → Prop
  | .operate call =>
      loop.phase = .commanding → commanded call.operation = true →
        (loop.machine.step call).snapshot.flightEpoch ≠ loop.machine.snapshot.flightEpoch →
          (loop.machine.step call).snapshot.flightEpoch ∉ loop.heldEpochs
  | .tick _ _ true =>
      loop.phase = .ticking → loop.liftoffDetected = true →
        loop.machine.snapshot.state = .liftoffDetection →
          loop.snapshotCache.flightEpoch = loop.machine.snapshot.flightEpoch
  | _ => True

instance (loop : LiftoffLoop) (label : LiftoffLabel) : Decidable (CatchesUp loop label) := by
  unfold CatchesUp
  split <;> infer_instance

section WithinEpoch

variable {loop : LiftoffLoop} {tests : DetectionTests}

/-- The sample was processed in the machine's epoch. -/
def Current (loop : LiftoffLoop) {α : Type} (sample : Stamped α) : Prop :=
  loop.generation ≤ sample.generation

/-- The stamps are of the machine's epoch. -/
def AllCurrent (loop : LiftoffLoop) (contributors : List ℕ) : Prop :=
  ∀ stamp ∈ contributors, loop.generation ≤ stamp

/-- Whatever carries the number of the machine's epoch rests on samples of that epoch. -/
structure DetectionEpoch (loop : LiftoffLoop) : Prop where
  detector : loop.detectorEpoch = loop.machine.snapshot.flightEpoch →
    loop.liftoffDetector.All (Current loop)
  logic : loop.flightLogic.flightEpoch = loop.machine.snapshot.flightEpoch →
    loop.flightLogic.liftoffDetector.All (Current loop)
  report : loop.flightReport.event.flightEpoch = loop.machine.snapshot.flightEpoch →
    AllCurrent loop loop.flightReport.contributors
  queue : ∀ report ∈ loop.airDataQueue,
    report.event.flightEpoch = loop.machine.snapshot.flightEpoch →
      AllCurrent loop report.contributors
  idle : loop.phase = .commanding ∨ loop.phase = .caching → loop.contributors = []
  following : loop.phase = .sampling ∨ loop.phase = .ticking →
    loop.detectorEpoch = loop.snapshotCache.flightEpoch
  flag : loop.snapshotCache.flightEpoch = loop.machine.snapshot.flightEpoch →
    AllCurrent loop loop.contributors
  log : DetectionsWithinEpoch loop.log

theorem detectionEpoch_boot (machine : MissionStateMachine) :
    DetectionEpoch { machine := machine } where
  detector _ := ImuLiftoffDetector.all_empty
  logic _ := LpsLiftoffDetector.all_empty
  report _ := nofun
  queue := nofun
  idle _ := rfl
  following := by rintro (phase | phase) <;> contradiction
  flag _ := nofun
  log := nofun

/-- The evidence of a streak that rests on current samples has current stamps. -/
private theorem allCurrent_stamps {needed : ℕ} {α : Type} {streak : Streak needed (Stamped α)}
    (all : streak.All (Current loop)) : AllCurrent loop (stamps streak.evidence) := by
  intro stamp within
  obtain ⟨sample, held, rfl⟩ := List.mem_map.mp within
  exact all sample held

private theorem allCurrent_append {first second : List ℕ} (left : AllCurrent loop first)
    (right : AllCurrent loop second) : AllCurrent loop (first ++ second) := by
  intro stamp within
  exact (List.mem_append.mp within).elim (left stamp) (right stamp)

/-- An operation keeps the invariant when the epoch it begins, if any, has a new number. -/
private theorem DetectionEpoch.operate (holds : DetectionEpoch loop) (call : Call)
    (commanding : loop.phase = .commanding)
    (fresh : (loop.machine.step call).snapshot.flightEpoch ≠ loop.machine.snapshot.flightEpoch →
      (loop.machine.step call).snapshot.flightEpoch ∉ loop.heldEpochs) :
    DetectionEpoch (loop.operate call) := by
  have nothing : loop.contributors = [] := holds.idle (Or.inl commanding)
  by_cases same :
      (loop.machine.step call).snapshot.flightEpoch = loop.machine.snapshot.flightEpoch
  · unfold LiftoffLoop.operate
    dsimp only
    rw [if_pos same]
    refine ⟨?_, ?_, ?_, ?_, holds.idle, holds.following, ?_, holds.log⟩ <;> dsimp only <;> rw [same]
    · exact holds.detector
    · exact holds.logic
    · exact holds.report
    · exact holds.queue
    · exact holds.flag
  · have others : ∀ held ∈ loop.heldEpochs, held ≠ (loop.machine.step call).snapshot.flightEpoch :=
      fun held within equal => fresh same (equal ▸ within)
    refine ⟨?_, ?_, ?_, ?_, holds.idle, holds.following, ?_, holds.log⟩
    · exact fun equal => absurd equal (others _ loop.detectorEpoch_mem_heldEpochs)
    · exact fun equal => absurd equal (others _ loop.logicEpoch_mem_heldEpochs)
    · exact fun equal => absurd equal (others _ loop.reportEpoch_mem_heldEpochs)
    · exact fun report queued equal =>
        absurd equal (others _ (LiftoffLoop.queuedEpoch_mem_heldEpochs queued))
    · intro _ stamp within
      have within : stamp ∈ loop.contributors := within
      rw [nothing] at within
      contradiction

private theorem DetectionEpoch.refresh (holds : DetectionEpoch loop) (takesState : Bool)
    (commanding : loop.phase = .commanding) :
    DetectionEpoch { (loop.recache takesState).followEpoch with phase := .sampling } := by
  have nothing : loop.contributors = [] := holds.idle (Or.inl commanding)
  have cached : ∃ cache, loop.recache takesState = { loop with snapshotCache := cache } := by
    cases takesState with
    | true => exact ⟨_, rfl⟩
    | false => exact ⟨_, rfl⟩
  obtain ⟨cache, cached⟩ := cached
  rw [cached]
  unfold LiftoffLoop.followEpoch
  dsimp only
  split
  · exact ⟨fun _ => ImuLiftoffDetector.all_empty, holds.logic, holds.report, holds.queue,
      fun _ => rfl, fun _ => rfl, fun _ => nofun, holds.log⟩
  · rename_i followed
    have followed : loop.detectorEpoch = cache.flightEpoch := (not_not.mp followed).symm
    split
    · exact ⟨fun _ => ImuLiftoffDetector.all_empty, holds.logic, holds.report, holds.queue,
        fun _ => rfl, fun _ => followed, fun _ => nofun, holds.log⟩
    · refine ⟨holds.detector, holds.logic, holds.report, holds.queue, fun _ => nothing,
        fun _ => followed, fun _ => ?_, holds.log⟩
      show AllCurrent loop loop.contributors
      rw [nothing]
      exact nofun

/-- A report adds nothing but itself to the log. -/
private theorem detectionEpoch_witness (holds : DetectionEpoch loop) (detected : Bool)
    (flightEpoch : UInt32) : DetectionEpoch (loop.witness detected flightEpoch) := by
  unfold LiftoffLoop.witness
  split
  · refine ⟨holds.detector, holds.logic, holds.report, holds.queue, holds.idle, holds.following,
      holds.flag, ?_⟩
    intro event within
    rcases List.mem_append.mp within with earlier | latest
    · exact holds.log event earlier
    · rw [List.mem_singleton.mp latest]
      rfl
  · exact holds

/-- A detection adds what it rests on, which must be current unless the cache lags. -/
private theorem detectionEpoch_detect (holds : DetectionEpoch loop)
    (busy : loop.phase ≠ .commanding ∧ loop.phase ≠ .caching) (detected : Bool)
    {contributors : List ℕ}
    (current : loop.snapshotCache.flightEpoch = loop.machine.snapshot.flightEpoch →
      AllCurrent loop contributors) : DetectionEpoch (loop.detect detected contributors) := by
  unfold LiftoffLoop.detect
  split
  · refine ⟨holds.detector, holds.logic, holds.report, holds.queue, ?_, holds.following, ?_,
      holds.log⟩
    · exact fun idle => absurd idle (not_or.mpr busy)
    · exact fun caught => allCurrent_append (holds.flag caught) (current caught)
  · exact holds

private theorem DetectionEpoch.sample (holds : DetectionEpoch loop)
    (sampling : loop.phase = .sampling) (acceleration : Acceleration) (valid : Bool) :
    DetectionEpoch (loop.sample tests acceleration valid) := by
  have now : Current loop (⟨acceleration, loop.generation⟩ : Stamped Acceleration) := le_rfl
  have updated : loop.detectorEpoch = loop.machine.snapshot.flightEpoch →
      (loop.liftoffDetector.update (fun window => tests.accelerates (values window))
        ⟨acceleration, loop.generation⟩ (valid && acceleration.isFinite)).2.All (Current loop) :=
    fun same => (holds.detector same).update now _ _
  unfold LiftoffLoop.sample
  dsimp only
  generalize loop.liftoffDetector.update _ _ _ = result at updated ⊢
  have busy : loop.phase ≠ .commanding ∧ loop.phase ≠ .caching := by
    rw [sampling]
    decide
  apply detectionEpoch_witness
  have replaced : DetectionEpoch { loop with liftoffDetector := result.2 } :=
    ⟨updated, holds.logic, holds.report, holds.queue, holds.idle, holds.following, holds.flag,
      holds.log⟩
  apply detectionEpoch_detect replaced busy
  intro caught
  exact allCurrent_stamps (updated ((holds.following (Or.inl sampling)).trans caught)).2

private theorem DetectionEpoch.receive (holds : DetectionEpoch loop)
    (sampling : loop.phase = .sampling) : DetectionEpoch loop.receive := by
  have busy : loop.phase ≠ .commanding ∧ loop.phase ≠ .caching := by
    rw [sampling]
    decide
  unfold LiftoffLoop.receive
  split
  · exact holds
  · rename_i report queued
    have taken : DetectionEpoch { loop with airDataQueue := none } :=
      ⟨holds.detector, holds.logic, holds.report, nofun, holds.idle, holds.following, holds.flag,
        holds.log⟩
    apply detectionEpoch_witness
    split
    · rename_i accepted
      apply detectionEpoch_detect taken busy
      intro caught
      exact holds.queue report queued (accepted.trans caught)
    · exact taken

/-- A tick keeps the invariant when a detection that may lift off is one the cache has caught
up with. Whatever a failed try-lock loses is no liftoff. -/
private theorem DetectionEpoch.tick (holds : DetectionEpoch loop)
    (guard : FinOvertravelGuard) (input : MissionTickInput) (takesState : Bool)
    (caught : takesState = true → loop.liftoffDetected = true →
      loop.machine.snapshot.state = .liftoffDetection →
        loop.snapshotCache.flightEpoch = loop.machine.snapshot.flightEpoch) :
    DetectionEpoch { loop.tick guard input takesState with phase := .caching } := by
  have following : IterationPhase.caching = .sampling ∨ IterationPhase.caching = .ticking →
      loop.detectorEpoch = loop.snapshotCache.flightEpoch := by
    rintro (phase | phase) <;> contradiction
  cases takesState with
  | false =>
      exact ⟨holds.detector, holds.logic, holds.report, holds.queue, fun _ => rfl, following,
        fun _ => nofun, holds.log⟩
  | true =>
      unfold LiftoffLoop.tick
      rw [if_pos rfl]
      dsimp only
      have epoch := flightEpoch_of_attempt (tick_attempt loop.machine guard
        { input with liftoffDetected := loop.liftoffDetected } {})
      have lifts : loop.machine.snapshot.state = .liftoffDetection →
          (loop.machine.tick guard { input with liftoffDetected := loop.liftoffDetected }
            {}).1.snapshot.state = .engineBurn → loop.liftoffDetected = true := by
        intro armed burning
        by_contra silent
        rw [armed_tick loop.machine guard { input with liftoffDetected := loop.liftoffDetected } {}
          armed (Bool.eq_false_of_not_eq_true silent)] at burning
        contradiction
      generalize (loop.machine.tick guard { input with liftoffDetected := loop.liftoffDetected }
        {}).1 = next at epoch lifts ⊢
      have logged : DetectionsWithinEpoch
          (loop.log ++ [.ticked loop.generation loop.liftoffDetected]) := by
        intro event within
        rcases List.mem_append.mp within with earlier | latest
        · exact holds.log event earlier
        · rw [List.mem_singleton.mp latest]
          rfl
      have kept (log : List LiftoffEvent) (within : DetectionsWithinEpoch log) : DetectionEpoch
          { loop with
            machine := next
            liftoffDetected := false
            contributors := []
            phase := .caching
            log := log } := by
        refine ⟨?_, ?_, ?_, ?_, fun _ => rfl, following, fun _ => nofun, within⟩ <;>
          dsimp only <;> rw [epoch]
        · exact holds.detector
        · exact holds.logic
        · exact holds.report
        · exact holds.queue
      split
      · rename_i liftoff
        apply kept
        intro event within
        rcases List.mem_append.mp within with earlier | latest
        · exact logged event earlier
        · rw [List.mem_singleton.mp latest]
          have current :=
            holds.flag (caught rfl (lifts liftoff.1 liftoff.2) liftoff.1)
          exact List.all_eq_true.mpr fun stamp held => decide_eq_true (current stamp held)
      · exact kept _ logged

private theorem DetectionEpoch.recache (holds : DetectionEpoch loop)
    (caching : loop.phase = .caching) (takesState : Bool) :
    DetectionEpoch { loop.recache takesState with phase := .commanding } := by
  have nothing : loop.contributors = [] := holds.idle (Or.inr caching)
  have following : IterationPhase.commanding = .sampling ∨ IterationPhase.commanding = .ticking →
      loop.detectorEpoch = (loop.recache takesState).snapshotCache.flightEpoch := by
    rintro (phase | phase) <;> contradiction
  have flag : AllCurrent loop loop.contributors := by
    rw [nothing]
    exact nofun
  cases takesState with
  | false =>
      exact ⟨holds.detector, holds.logic, holds.report, holds.queue, fun _ => nothing, following,
        fun _ => flag, holds.log⟩
  | true =>
      exact ⟨holds.detector, holds.logic, holds.report, holds.queue, fun _ => nothing, following,
        fun _ => flag, holds.log⟩

private theorem DetectionEpoch.updateLps (holds : DetectionEpoch loop) (pressure : Option Double) :
    DetectionEpoch (loop.updateLps tests pressure) := by
  have now (value : Double) : Current loop (⟨value, loop.generation⟩ : Stamped Double) := le_rfl
  have fresh : loop.airSnapshot.flightEpoch = loop.machine.snapshot.flightEpoch →
      ((loop.updateLps tests pressure).flightLogic.liftoffDetector).All (Current loop) := by
    intro same
    unfold LiftoffLoop.updateLps AirDataFlightLogic.update
    dsimp only
    split
    · apply LpsLiftoffDetector.all_update _ (now _)
      apply AirDataFlightLogic.all_begun
      exact fun kept => holds.logic (kept.trans same)
    · exact LpsLiftoffDetector.all_empty
  have epoch : (loop.updateLps tests pressure).flightLogic.flightEpoch =
      loop.airSnapshot.flightEpoch := by
    unfold LiftoffLoop.updateLps AirDataFlightLogic.update
    exact AirDataFlightLogic.begun_flightEpoch _ _
  refine ⟨holds.detector, ?_, ?_, holds.queue, holds.idle, holds.following, holds.flag, holds.log⟩
  · exact fun same => fresh (epoch.symm.trans same)
  · exact fun same => allCurrent_stamps (fresh same).streak

/-- One step of either task keeps the invariant under the condition. -/
theorem DetectionEpoch.step (holds : DetectionEpoch loop) (label : LiftoffLabel)
    (catches : CatchesUp loop label) : DetectionEpoch (loop.step tests label) := by
  unfold LiftoffLoop.step
  cases label with
  | operate call =>
      dsimp only
      split
      · rename_i performs
        exact holds.operate call performs.1 (catches performs.1 performs.2)
      · exact holds
  | refresh takesState =>
      dsimp only
      split
      · exact holds.refresh takesState ‹_›
      · exact holds
  | sample acceleration valid =>
      dsimp only
      split
      · exact holds.sample ‹_› acceleration valid
      · exact holds
  | receive =>
      dsimp only
      split
      · rename_i sampling
        have received := holds.receive sampling
        have phase : loop.receive.phase = .sampling := by
          rw [loop.receive_phase]
          exact sampling
        refine ⟨received.detector, received.logic, received.report, received.queue, ?_, ?_,
          received.flag, received.log⟩
        · rintro (other | other) <;> contradiction
        · exact fun _ => received.following (Or.inl phase)
      · exact holds
  | tick guard input takesState =>
      dsimp only
      split
      · rename_i ticking
        apply holds.tick
        rintro rfl
        exact catches ticking
      · exact holds
  | recache takesState =>
      dsimp only
      split
      · exact holds.recache ‹_› takesState
      · exact holds
  | refreshAir takesState =>
      dsimp only
      unfold LiftoffLoop.refreshAir
      split
      · exact ⟨holds.detector, holds.logic, holds.report, holds.queue, holds.idle, holds.following,
          holds.flag, holds.log⟩
      · exact holds
  | updateLps pressure => exact holds.updateLps pressure
  | publish =>
      refine ⟨holds.detector, holds.logic, holds.report, ?_, holds.idle, holds.following,
        holds.flag, holds.log⟩
      rintro report ⟨⟩
      exact holds.report

end WithinEpoch

/-! ### A rollback the cache misses -/

/-- The average of a window of finite values. -/
def exactMean (window : List Double) : ℚ :=
  (window.map fun | .finite value => value | .infinite _ | .nan => 0).sum / window.length

/-- The tests over exact averages. -/
def exactTests : DetectionTests where
  accelerates window :=
    decide (4 < exactMean (window.map Acceleration.x) ^ 2 +
      exactMean (window.map Acceleration.y) ^ 2 + exactMean (window.map Acceleration.z) ^ 2)
  falls earlier later := decide (5 / 100 ≤ exactMean earlier - exactMean later)
  rises earlier later := decide (exactMean earlier < exactMean later)

/-- A sample at three times gravity along the axis. -/
def boostSample : LiftoffLabel := .sample ⟨.finite 0, .finite 0, .finite 3⟩ true

/-- An armed machine, and an iteration up to its tick in which the IMU detects liftoff. -/
def armedAndDetected : List LiftoffLabel :=
  [.operate ⟨{}, .startSequence fullReadiness .normal⟩, .refresh true] ++
    List.replicate 69 boostSample ++ [.receive]

/-- The liftoff, a rollback, and the next iteration under the same acceleration. -/
def liftoffAndRollback (refreshes : Bool) : List LiftoffLabel :=
  armedAndDetected ++
    [.tick {} { monotonicUs := 1000000 } true, .recache true,
      .operate ⟨{}, .liftoffDetectionEmergencyStop⟩, .refresh refreshes, boostSample, .receive,
      .tick {} { monotonicUs := 1001000 } true]

end MissionBoard.Flight
