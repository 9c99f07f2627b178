import MissionBoard.Flight.ResetControl
import MissionBoard.Runtime.SafetyTask

/-!
Owns the agreement of the two flight clocks: the one the mission state machine
reads in each tick, and the one the safety task keeps from the snapshots it
observes. After liftoff the clocks agree as long as the safety task takes over a
liftoff with the offset the machine holds. A snapshot published after a reset
gives it the elapsed time instead.
-/

namespace MissionBoard.Flight

open Protocol Mission MissionStateMachine Control MissionBoard.Runtime

/-! ### The machine's clock -/

/-- What the machine's clock satisfies under every operation and every checkpoint. -/
structure Timed (machine : MissionStateMachine) : Prop where
  flying : machine.snapshot.liftoffTimeValid = true → machine.snapshot.state ≠ .liftoffDetection
  fresh : machine.snapshot.resetInvalidated = false → machine.elapsedOffsetUs = 0

theorem timed_initial : Timed {} := ⟨nofun, fun _ => rfl⟩

theorem Timed.tick {machine : MissionStateMachine} (timed : Timed machine)
    (guard : FinOvertravelGuard) (input : MissionTickInput) (safety : SafetyRequest) :
    Timed (machine.tick guard input safety).1 := by
  have clock := tick_flightClock machine guard input safety
  rw [flightClock_lifted] at clock
  constructor
  · intro flying armed
    obtain ⟨before, silent⟩ := armed_of_tick machine guard input safety armed
    rw [if_neg (by simp [silent])] at clock
    exact timed.flying ((liftoffTimeValid_of_clock clock).symm.trans flying) before
  · intro ordinary
    have invalidated : machine.snapshot.resetInvalidated = false :=
      (congrArg AttemptData.resetInvalidated
        (tick_attempt machine guard input safety)).symm.trans ordinary
    have offset : (machine.tick guard input safety).1.elapsedOffsetUs = _ :=
      congrArg ElapsedClock.offset clock
    rw [offset]
    split
    · rfl
    · exact timed.fresh invalidated

theorem Timed.step {machine : MissionStateMachine} (timed : Timed machine) (call : Call) :
    Timed (machine.step call) := by
  have outcome := machine.outcome call
  generalize machine.step call = next, (machine.perform call).result = result at outcome ⊢
  cases outcome with
  | refused => exact timed
  | started => exact ⟨nofun, fun _ => rfl⟩
  | cancelled => exact ⟨nofun, fun _ => rfl⟩
  | rolledBack => exact ⟨nofun, fun _ => rfl⟩
  | controlDisabled guard sequencing =>
      unfold controlDisabled
      dsimp only
      split
      · exact ⟨fun _ => nofun, timed.fresh⟩
      · exact ⟨timed.flying, timed.fresh⟩
  | restoredArmed => exact ⟨nofun, nofun⟩
  | restoredFlying guard nowUs checkpoint =>
      refine ⟨fun _ => ?_, nofun⟩
      show (if checkpoint.deploymentStarted = true ∨ checkpoint.state = .descent then
        MissionState.descent else .engineBurn) ≠ .liftoffDetection
      split <;> decide
  | ticked guard input safety => exact timed.tick guard input safety

/-- After liftoff every tick reads the machine's clock as it stands. -/
theorem Timed.elapsedUs_tick {machine : MissionStateMachine} (timed : Timed machine)
    (flying : machine.snapshot.liftoffTimeValid = true) (guard : FinOvertravelGuard)
    (input : MissionTickInput) (safety : SafetyRequest) :
    (machine.tick guard input safety).1.snapshot.elapsedUs =
      machine.flightClock.reading input.monotonicUs := by
  rw [tick_elapsedUs, elapsedAt_eq_reading, flightClock_lifted, if_neg]
  rintro ⟨armed, -⟩
  exact timed.flying flying armed

/-! ### The two tasks -/

/-- The mission state machine and the safety task. -/
structure ClockSystem where
  machine : MissionStateMachine := {}
  safety : SafetyTask := {}

/-- An operation of the machine, an iteration of the safety task, or a reboot that
restores a checkpoint before the tasks start. -/
inductive ClockEvent where
  | operate (call : Call)
  | iterate (input : SafetyInput)
  | reboot (nowUs : UInt64) (checkpoint : Option ResetCheckpoint)

namespace ClockSystem

/-- The system an event leaves. -/
def step (system : ClockSystem) : ClockEvent → ClockSystem
  | .operate call => { system with machine := system.machine.step call }
  | .iterate input =>
      { system with safety := (system.safety.iterate system.machine.snapshot input).1 }
  | .reboot nowUs (some checkpoint) =>
      { machine := (({} : MissionStateMachine).restoreAfterReset nowUs checkpoint).2 }
  | .reboot _ none => {}

/-- The safety task tracks a valid liftoff of the machine's epoch. -/
def Tracks (system : ClockSystem) : Prop :=
  system.safety.liftoffValid = true ∧
    system.safety.trackedEpoch = system.machine.snapshot.flightEpoch

instance (system : ClockSystem) : Decidable system.Tracks := inferInstanceAs (Decidable (_ ∧ _))

/-- While the safety task tracks the flight, a tick at any time records the elapsed
time the task computes for that time. -/
def Agrees (system : ClockSystem) : Prop :=
  system.Tracks → ∀ guard input request,
    (system.machine.tick guard input request).1.snapshot.elapsedUs =
      system.safety.elapsedAt input.monotonicUs

/-- A completed operation brings the machine to the epoch the safety task tracks
already: a wrap of the epoch counter, or a restore under a running safety task. -/
def ReusesEpoch (system : ClockSystem) (call : Call) : Prop :=
  (system.machine.perform call).result = .completed ∧
    match call.operation with
    | .startSequence _ _ | .liftoffDetectionEmergencyStop =>
        nextEpoch system.machine.snapshot.flightEpoch = system.safety.trackedEpoch
    | .restoreAfterReset _ checkpoint => checkpoint.flightEpoch = system.safety.trackedEpoch
    | _ => False

/-- An iteration that takes over a liftoff after a reset finds in the snapshot the
elapsed time the machine's offset holds. -/
def AdoptsExactly (system : ClockSystem) (input : SafetyInput) : Prop :=
  input.takesMutex = true → system.safety.Adopts system.machine.snapshot →
    system.machine.snapshot.resetInvalidated = true →
      system.machine.snapshot.elapsedUs = system.machine.elapsedOffsetUs

instance (system : ClockSystem) (input : SafetyInput) : Decidable (system.AdoptsExactly input) :=
  inferInstanceAs (Decidable (_ → _ → _ → _))

/-- The event keeps the clocks together. -/
def KeepsClock (system : ClockSystem) : ClockEvent → Prop
  | .operate call => system.safety.liftoffValid = true → ¬ system.ReusesEpoch call
  | .iterate input => system.AdoptsExactly input
  | .reboot _ _ => True

/-- The deadlines of an iteration are those of a tick at the iteration's time. -/
def DeadlinesAgree (system : ClockSystem) (input : SafetyInput) : Prop :=
  (system.step (.iterate input)).Tracks → ∀ guard (tick : MissionTickInput) request,
    tick.monotonicUs = input.nowUs →
    ((∃ epoch, .sendPara { kind := .open, flightEpoch := epoch, safetyAuthorized := true } true ∈
        (system.safety.iterate system.machine.snapshot input).2) ↔
      (system.safety.observed system.machine.snapshot input).deploymentRequested = false ∧
        ((input.pressureDeploymentEpoch = system.machine.snapshot.flightEpoch ∧
            kPressureDeploymentGateUs ≤
              (system.machine.tick guard tick request).1.snapshot.elapsedUs) ∨
          kDeploymentDeadlineUs ≤
            (system.machine.tick guard tick request).1.snapshot.elapsedUs)) ∧
    ((system.step (.iterate input)).safety.cutoffLatched = true ↔
      (system.safety.observed system.machine.snapshot input).cutoffLatched = true ∨
        kPowerCutoffUs ≤ (system.machine.tick guard tick request).1.snapshot.elapsedUs)

/-- While it tracks the flight, the safety task keeps the machine's own clock. -/
structure Synced (system : ClockSystem) : Prop where
  timed : Timed system.machine
  clock : system.Tracks → system.safety.clock = system.machine.flightClock

theorem synced_initial : Synced {} := ⟨timed_initial, nofun⟩

theorem Synced.agrees {system : ClockSystem} (synced : system.Synced) : system.Agrees := by
  intro tracks guard input request
  have clock := synced.clock tracks
  have flying : system.machine.snapshot.liftoffTimeValid = true :=
    (congrArg ElapsedClock.running clock).symm.trans tracks.1
  rw [synced.timed.elapsedUs_tick flying, ← clock]
  rfl

/-! ### One event -/

section Events

variable {system : ClockSystem} (synced : system.Synced)

include synced

/-- An operation that does not reuse the tracked epoch leaves the tracked clock alone. -/
theorem Synced.operate {call : Call} (keeps : system.KeepsClock (.operate call)) :
    (system.step (.operate call)).Synced := by
  obtain ⟨machine, safety⟩ := system
  refine ⟨synced.timed.step call, ?_⟩
  rintro ⟨valid, tracked⟩
  have fresh := keeps valid
  have clock := synced.clock
  have timed := synced.timed
  unfold Tracks at clock
  unfold ReusesEpoch at fresh
  have moved : (ClockSystem.step ⟨machine, safety⟩ (.operate call)).machine = machine.step call :=
    rfl
  rw [moved] at tracked ⊢
  show safety.clock = _
  have outcome := machine.outcome call
  dsimp only at *
  generalize machine.step call = next,
    (machine.perform call).result = result at outcome tracked fresh ⊢
  cases outcome with
  | refused => exact clock ⟨valid, tracked⟩
  | started => exact absurd ⟨rfl, tracked.symm⟩ fresh
  | rolledBack => exact absurd ⟨rfl, tracked.symm⟩ fresh
  | restoredArmed => exact absurd ⟨rfl, tracked.symm⟩ fresh
  | restoredFlying => exact absurd ⟨rfl, tracked.symm⟩ fresh
  | cancelled guard armed =>
      have same := clock ⟨valid, tracked⟩
      exact absurd armed (timed.flying ((congrArg ElapsedClock.running same).symm.trans valid))
  | controlDisabled guard sequencing =>
      have left : machine.controlDisabled.flightClock = machine.flightClock ∧
          machine.controlDisabled.snapshot.flightEpoch = machine.snapshot.flightEpoch := by
        unfold controlDisabled
        dsimp only
        split <;> exact ⟨rfl, rfl⟩
      rw [left.1]
      exact clock ⟨valid, tracked.trans left.2⟩
  | ticked guard input request =>
      have epoch := flightEpoch_of_attempt (tick_attempt machine guard input request)
      have same := clock ⟨valid, tracked.trans epoch⟩
      rw [tick_flightClock, flightClock_lifted, if_neg]
      · exact same
      · rintro ⟨armed, -⟩
        exact timed.flying ((congrArg ElapsedClock.running same).symm.trans valid) armed

/-- An iteration that adopts exactly takes over the machine's clock or keeps it. -/
theorem Synced.iterate {input : SafetyInput} (adopts : system.AdoptsExactly input) :
    (system.step (.iterate input)).Synced := by
  refine ⟨synced.timed, ?_⟩
  rintro ⟨valid, tracked⟩
  have tracking := system.safety.iterate_tracking system.machine.snapshot input
  have clocks : (system.step (.iterate input)).safety.clock =
      (system.safety.observed system.machine.snapshot input).clock := congrArg Prod.snd tracking
  have running : (system.safety.observed system.machine.snapshot input).liftoffValid = true :=
    (congrArg ElapsedClock.running clocks).symm.trans valid
  by_cases takesOver : input.takesMutex = true ∧ system.safety.Adopts system.machine.snapshot
  · obtain ⟨takes, adopted⟩ := takesOver
    have taken := SafetyTask.observed_of_adopts takes adopted
    rw [clocks, show (system.safety.observed system.machine.snapshot input).clock = _ from
      congrArg Prod.snd taken]
    have offset : SafetyTask.adoptedOffset system.machine.snapshot =
        system.machine.elapsedOffsetUs := by
      unfold SafetyTask.adoptedOffset
      split
      · next invalidated => exact adopts takes adopted invalidated
      · next ordinary =>
        exact (synced.timed.fresh (Bool.eq_false_of_not_eq_true ordinary)).symm
    rw [offset]
    show _ = flightClock system.machine
    unfold flightClock
    rw [adopted.1]
  · rcases SafetyTask.observed_of_not_adopts takesOver with stopped | kept
    · rw [stopped] at running
      contradiction
    · have before : system.safety.tracking = (system.step (.iterate input)).safety.tracking :=
        kept.symm.trans tracking.symm
      have same : system.safety.clock = (system.step (.iterate input)).safety.clock :=
        congrArg Prod.snd before
      rw [← same]
      apply synced.clock
      refine ⟨(congrArg ElapsedClock.running same).trans valid, ?_⟩
      exact (show system.safety.trackedEpoch = _ from congrArg Prod.fst before).trans tracked

theorem Synced.step {event : ClockEvent} (keeps : system.KeepsClock event) :
    (system.step event).Synced := by
  cases event with
  | operate call => exact synced.operate keeps
  | iterate input => exact synced.iterate keeps
  | reboot nowUs checkpoint =>
      cases checkpoint with
      | none => exact synced_initial
      | some checkpoint =>
          exact ⟨timed_initial.step ⟨{}, .restoreAfterReset nowUs checkpoint⟩, nofun⟩

/-- An iteration that takes over the elapsed time in place of the offset sets its
clock apart from the machine's. -/
theorem Synced.parts {input : SafetyInput} (misses : ¬ system.AdoptsExactly input) :
    ¬ (system.step (.iterate input)).Agrees := by
  unfold AdoptsExactly at misses
  simp only [Classical.not_imp] at misses
  obtain ⟨takes, adopted, invalidated, differs⟩ := misses
  have tracking : (system.step (.iterate input)).safety.tracking = _ :=
    (system.safety.iterate_tracking system.machine.snapshot input).trans
      (SafetyTask.observed_of_adopts takes adopted)
  have clock : (system.step (.iterate input)).safety.clock = _ := congrArg Prod.snd tracking
  have tracks : (system.step (.iterate input)).Tracks :=
    ⟨congrArg ElapsedClock.running clock, congrArg Prod.fst tracking⟩
  intro agrees
  have same : ∀ now, (flightClock system.machine).reading now =
      (system.step (.iterate input)).safety.clock.reading now := by
    intro now
    have elapsed := agrees tracks {} { monotonicUs := now } {}
    rw [show (system.step (.iterate input)).machine = system.machine from rfl,
      synced.timed.elapsedUs_tick adopted.1] at elapsed
    exact elapsed
  have origin : (flightClock system.machine).origin =
      (system.step (.iterate input)).safety.clock.origin := (congrArg ElapsedClock.origin clock).symm
  have running : (flightClock system.machine).running = true := adopted.1
  have offsets := (ElapsedClock.reading_eq_iff_offset running
    (congrArg ElapsedClock.running clock) origin).mp same
  rw [clock] at offsets
  unfold SafetyTask.adoptedOffset at offsets
  rw [if_pos invalidated] at offsets
  exact differs offsets.symm

/-- The deadlines of an iteration follow its clock. -/
theorem Synced.deadlines {input : SafetyInput} (adopts : system.AdoptsExactly input) :
    system.DeadlinesAgree input := by
  intro tracks guard tick request now
  have elapsed := (synced.iterate adopts).agrees tracks guard tick request
  rw [show (system.step (.iterate input)).machine = system.machine from rfl, now] at elapsed
  have tracking := system.safety.iterate_tracking system.machine.snapshot input
  have epoch : (system.safety.observed system.machine.snapshot input).trackedEpoch =
      system.machine.snapshot.flightEpoch :=
    (congrArg Prod.fst tracking).symm.trans tracks.2
  rw [elapsed, show (system.step (.iterate input)).safety.elapsedAt input.nowUs = _ from
    SafetyTask.elapsedAt_of_tracking tracking input.nowUs, ← epoch]
  exact ⟨system.safety.sendOpen_mem_iterate system.machine.snapshot input,
    system.safety.cutoffLatched_iterate system.machine.snapshot input⟩

end Events

end ClockSystem

open ClockSystem

/-- One flight clock. From boot, through any interleaving of operations, safety
iterations and reboots:

* the clocks agree as long as every liftoff taken over after a reset comes with the
  offset the machine holds, and no operation reuses the tracked epoch;
* the deadlines of such an iteration are those of a tick at the same time;
* an iteration that takes over any other elapsed time sets the clocks apart. -/
theorem safety_clock_agrees {events : List ClockEvent}
    (keeps : Run.Along ClockSystem.step KeepsClock {} events) :
    (Run.after ClockSystem.step {} events).Agrees ∧
    (∀ input, (Run.after ClockSystem.step {} events).AdoptsExactly input →
      (Run.after ClockSystem.step {} events).DeadlinesAgree input) ∧
    ∀ input, ¬ (Run.after ClockSystem.step {} events).AdoptsExactly input →
      ¬ ((Run.after ClockSystem.step {} events).step (.iterate input)).Agrees := by
  have preserved : ∀ system event, Synced system → KeepsClock system event →
      Synced (ClockSystem.step system event) := by
    intro system event synced permitted
    exact synced.step permitted
  have synced := Run.invariant_after preserved synced_initial keeps
  exact ⟨synced.agrees, fun _ adopts => synced.deadlines adopts, fun _ misses => synced.parts misses⟩

/-- A reboot into a burning flight, observed before its first tick. -/
def observedRestore : List ClockEvent :=
  [.reboot 500000 (some burningCheckpoint), .iterate { nowUs := 600000 },
    .operate (readyTick 1000000 false)]

/-- The restored flight is 6.5 s old, 3.5 s after its restore, for both tasks. -/
theorem safety_clock_agrees_restored :
    (Run.after ClockSystem.step {} observedRestore).safety.elapsedAt 4000000 = 6500000 ∧
      ((Run.after ClockSystem.step {} observedRestore).machine.tick {}
        { monotonicUs := 4000000 } {}).1.snapshot.elapsedUs = 6500000 := by
  have elapsed : (Run.after ClockSystem.step {} observedRestore).safety.elapsedAt 4000000 =
      6500000 := by decide +kernel
  have exactly : (Run.after ClockSystem.step {} (observedRestore.take 1)).AdoptsExactly
      { nowUs := 600000 } := by decide +kernel
  have keeps : Run.Along ClockSystem.step KeepsClock {} observedRestore :=
    ⟨trivial, exactly, fun _ reuses => reuses.2, trivial⟩
  have agrees := (safety_clock_agrees keeps).1 (by decide +kernel) {}
    { monotonicUs := 4000000 } {}
  exact ⟨elapsed, agrees.trans elapsed⟩

/-- The checkpoint of an attempt armed for liftoff, with every preflight item ready. -/
def armedCheckpoint : ResetCheckpoint where
  valid := true
  state := .liftoffDetection
  flightEpoch := 1
  preflightGeneration := 1
  preflightReadyMask := 0x1F

/-- A liftoff detected after a reset is dated one second back and counted once more. -/
theorem safety_clock_disagrees :
    ¬ ∀ events, (Run.after ClockSystem.step {} events).Agrees := by
  intro always
  have agrees := always [.reboot 500000 (some armedCheckpoint),
    .operate (readyTick 2000000 true), .iterate { nowUs := 2000000 }] (by decide +kernel) {}
      { monotonicUs := 17000000 } {}
  exact absurd agrees (by decide +kernel)

end MissionBoard.Flight
