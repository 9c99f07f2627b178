import MissionBoard.Mission.Recovery
import MissionBoard.Runtime.RecoveryDump

/-!
Owns a periodic wake of the board in recovery-only mode: the dumps of `internalFlashTask`
and `sdLogTask` side by side with the sleep decision at the end of an iteration of
`internalFlashTask`, and which runs never sleep while a dump is active.

`enterPeriodicDeepSleep` follows the decision in the same task, so that `sdLogTask` may
run between the two. An enter request changes nothing in recovery-only mode, since
`recovery_requested` is set from the start.
-/

namespace MissionBoard.Runtime

open Protocol Mission

/-- The condition of `internalFlashTask` for `enterPeriodicDeepSleep` -/
def sleepDecided (recovery : RecoveryRuntime) (recoveryOnly commandSent : Bool)
    (wakeDeadlineUs entryDeadlineUs nowUs : UInt64) : Bool :=
  let wakeWindowElapsed : Bool := recoveryOnly && wakeDeadlineUs ≤ nowUs
  let entryWindowElapsed : Bool :=
    !recoveryOnly && entryDeadlineUs != 0 && entryDeadlineUs ≤ nowUs
  recovery.mayEnterDeepSleep &&
    (wakeWindowElapsed || (!recoveryOnly && (commandSent || entryWindowElapsed)))

/-- The board between a wake and the next deep sleep -/
structure RecoveryWake where
  recovery : RecoveryRuntime
  wakeDeadlineUs : UInt64
  flash : DumpHistory := {}
  sd : DumpHistory := {}
  /-- `internalFlashTask` has decided and comes to `enterPeriodicDeepSleep` next. -/
  sleeping : Bool := false
  asleep : Bool := false
deriving DecidableEq

/-- One step of a task in recovery-only mode -/
inductive WakeStep where
  | flash (label : DumpStep)
  | sd (label : DumpStep)
  | decide (nowUs : UInt64) (commandSent : Bool)
  | enterPeriodicDeepSleep
deriving DecidableEq

namespace RecoveryWake

/-- What `internalFlashTask` sets up before its loop -/
def start (validWake : Bool) (nowUs : UInt64) : RecoveryWake :=
  { recovery := if validWake then (RecoveryRuntime.wake {} true true).2 else {}
    wakeDeadlineUs := nowUs + 2000000 }

/-- One step, given the two logs -/
def step (flashLog sdLog : LogSource) (wake : RecoveryWake) (label : WakeStep) : RecoveryWake :=
  if wake.asleep then wake
  else
    match label with
    | .flash label =>
        if wake.sleeping then wake else { wake with flash := wake.flash.step flashLog label }
    | .sd label => { wake with sd := wake.sd.step sdLog label }
    | .decide nowUs commandSent =>
        if wake.sleeping then wake
        else
          { wake with
            sleeping := sleepDecided wake.recovery true commandSent wake.wakeDeadlineUs 0 nowUs }
    | .enterPeriodicDeepSleep => if wake.sleeping then { wake with asleep := true } else wake

/-- The board is not put to sleep while a dump is active. -/
def SleepsIdle (wake : RecoveryWake) : Prop :=
  wake.asleep = true → wake.flash.cursor.active = false ∧ wake.sd.cursor.active = false

/-- Every dump accepted so far has completed, was stopped or failed. -/
def Finished (history : DumpHistory) : Prop :=
  ∀ transfer ∈ history.transfers, transfer.ending ≠ none

instance (history : DumpHistory) : Decidable (Finished history) :=
  inferInstanceAs (Decidable (∀ transfer ∈ history.transfers, transfer.ending ≠ none))

/-- The request starts a dump of at least one byte. -/
def Starts (log : LogSource) (request : RecoveryControl) (ready : Bool) : Prop :=
  request.opcode = .startLogDump ∧ ready = true ∧ request.offset < log.size

/-- A decision of a valid wake that finds its deadline reached comes when every dump is
finished, and no dump of the SD log starts between the decision and the sleep. -/
def permitted (sdLog : LogSource) (wake : RecoveryWake) : WakeStep → Prop
  | .decide nowUs _ =>
      wake.recovery.mayEnterDeepSleep = true → wake.wakeDeadlineUs ≤ nowUs →
        Finished wake.flash ∧ Finished wake.sd
  | .sd (.control request ready) =>
      wake.sleeping = true → wake.asleep = false → ¬ Starts sdLog request ready
  | _ => True

/-! ### Dumps that are finished -/

/-- In a sound history the dumps are finished exactly when none is active. -/
theorem finished_iff {log : LogSource} {history : DumpHistory} (sound : history.Sound log) :
    Finished history ↔ history.cursor.active = false := by
  refine ⟨fun finished => ?_, sound.closed⟩
  by_contra active
  obtain ⟨newest, earlier, transfers, -, unended⟩ :=
    sound.opened (Bool.eq_true_of_not_eq_false active)
  refine finished newest ?_ unended
  rw [transfers]
  exact List.mem_cons_self

/-- A request that starts no dump of at least one byte leaves an idle task idle. -/
theorem idle_control {log : LogSource} {history : DumpHistory} {request : RecoveryControl}
    {ready : Bool} (idle : history.cursor.active = false) :
    (history.control log request ready).cursor.active = true ↔ Starts log request ready := by
  have cursor : (history.control log request ready).cursor =
      (log.answer ready history.cursor request).2 := rfl
  rw [cursor]
  unfold LogSource.answer Starts
  cases request.opcode with
  | wake => simp [idle]
  | stopLogDump => simp [idle]
  | startLogDump =>
      cases ready with
      | false => simp [idle]
      | true =>
          simp only [Bool.not_true, Bool.false_eq_true, if_false, idle, true_and]
          by_cases outside : request.offset > log.size
          · rw [if_pos outside, idle]
            simp only [Bool.false_eq_true, false_iff]
            exact UInt32.lt_asymm outside
          · rw [if_neg outside]
            have within : request.offset ≤ log.size := UInt32.not_lt.mp outside
            have available : log.size - request.offset = 0 ↔ ¬ request.offset < log.size := by
              rw [← UInt32.toNat_inj, UInt32.toNat_sub_of_le _ _ within, UInt32.lt_iff_toNat_lt]
              have below := UInt32.le_iff_toNat_le.mp within
              have zero : (0 : UInt32).toNat = 0 := rfl
              omega
            have least : (min request.length (log.size - request.offset)) =
                if request.length ≤ log.size - request.offset then request.length
                else log.size - request.offset := rfl
            by_cases whole : request.length = 0
            · simp [whole, available]
            · rw [least]
              by_cases short : request.length ≤ log.size - request.offset
              · have some : log.size - request.offset ≠ 0 := by
                  intro none
                  rw [none] at short
                  exact whole (UInt32.le_zero_iff.mp short)
                simpa [whole, short] using available.not_left.mp some
              · simp [whole, short, available]

/-! ### Runs -/

/-- Both tasks keep their dumps in order, and none is active once the sleep is decided. -/
structure Settled (flashLog sdLog : LogSource) (wake : RecoveryWake) : Prop where
  flash : wake.flash.Sound flashLog
  sd : wake.sd.Sound sdLog
  idle : wake.sleeping = true ∨ wake.asleep = true →
    wake.flash.cursor.active = false ∧ wake.sd.cursor.active = false

/-- In recovery-only mode the decision asks for the wake window only. -/
@[simp] theorem sleepDecided_recoveryOnly (recovery : RecoveryRuntime) (commandSent : Bool)
    (wakeDeadlineUs entryDeadlineUs nowUs : UInt64) :
    sleepDecided recovery true commandSent wakeDeadlineUs entryDeadlineUs nowUs =
      (recovery.mayEnterDeepSleep && decide (wakeDeadlineUs ≤ nowUs)) := by
  simp [sleepDecided]

theorem step_settled (flashLog sdLog : LogSource) (wake : RecoveryWake) (label : WakeStep)
    (settled : Settled flashLog sdLog wake) (allowed : permitted sdLog wake label) :
    Settled flashLog sdLog (wake.step flashLog sdLog label) := by
  unfold step
  by_cases asleep : wake.asleep = true
  · rw [if_pos asleep]
    exact settled
  rw [if_neg asleep]
  cases label with
  | flash label =>
      dsimp only
      by_cases sleeping : wake.sleeping = true
      · rw [if_pos sleeping]
        exact settled
      · rw [if_neg sleeping]
        refine ⟨settled.flash.step label, settled.sd, fun either => ?_⟩
        exact absurd either (not_or_intro sleeping asleep)
  | sd label =>
      refine ⟨settled.flash, settled.sd.step label, fun either => ?_⟩
      obtain ⟨flashIdle, sdIdle⟩ := settled.idle either
      refine ⟨flashIdle, ?_⟩
      cases label with
      | dump answers room => simp [DumpHistory.step, DumpHistory.dump, sdIdle]
      | control request ready =>
          have quiet := allowed (either.resolve_right asleep) (Bool.eq_false_iff.mpr asleep)
          exact Bool.eq_false_iff.mpr fun active => quiet ((idle_control sdIdle).mp active)
  | decide nowUs commandSent =>
      dsimp only
      by_cases sleeping : wake.sleeping = true
      · rw [if_pos sleeping]
        exact settled
      · rw [if_neg sleeping]
        refine ⟨settled.flash, settled.sd, fun either => ?_⟩
        have decided := either.resolve_right asleep
        rw [sleepDecided_recoveryOnly, Bool.and_eq_true, decide_eq_true_eq] at decided
        obtain ⟨flashDone, sdDone⟩ := allowed decided.1 decided.2
        exact ⟨(finished_iff settled.flash).mp flashDone, (finished_iff settled.sd).mp sdDone⟩
  | enterPeriodicDeepSleep =>
      dsimp only
      by_cases sleeping : wake.sleeping = true
      · rw [if_pos sleeping]
        exact ⟨settled.flash, settled.sd, fun _ => settled.idle (Or.inl sleeping)⟩
      · rw [if_neg sleeping]
        exact settled

/-- After a step that is not permitted, `enterPeriodicDeepSleep` is called while a dump is
active. -/
theorem sleeps_of_not_permitted {flashLog sdLog : LogSource} {wake : RecoveryWake}
    (settled : Settled flashLog sdLog wake) {label : WakeStep}
    (refused : ¬ permitted sdLog wake label) :
    ¬ ((wake.step flashLog sdLog label).step flashLog sdLog .enterPeriodicDeepSleep).SleepsIdle := by
  cases label with
  | flash label => exact absurd trivial refused
  | enterPeriodicDeepSleep => exact absurd trivial refused
  | sd label =>
      cases label with
      | dump answers room => exact absurd trivial refused
      | control request ready =>
          simp only [permitted, not_forall, not_not, exists_prop] at refused
          obtain ⟨sleeping, awake, starts⟩ := refused
          obtain ⟨-, sdIdle⟩ := settled.idle (Or.inl sleeping)
          have active : (wake.sd.control sdLog request ready).cursor.active = true :=
            (idle_control sdIdle).mpr starts
          intro idle
          simp only [step, awake, sleeping, Bool.false_eq_true, if_false, if_true] at idle
          exact absurd (idle rfl).2 (by simp [DumpHistory.step, active])
  | decide nowUs commandSent =>
      simp only [permitted, not_forall, exists_prop] at refused
      obtain ⟨mayEnter, reached, unfinished⟩ := refused
      rw [finished_iff settled.flash, finished_iff settled.sd] at unfinished
      have undecided : ¬ (wake.sleeping = true ∨ wake.asleep = true) :=
        fun either => unfinished (settled.idle either)
      rw [not_or, Bool.not_eq_true, Bool.not_eq_true] at undecided
      intro idle
      simp only [step, undecided.1, undecided.2, Bool.false_eq_true, if_false,
        sleepDecided_recoveryOnly, mayEnter, reached, Bool.true_and, decide_true, if_true] at idle
      exact unfinished (idle rfl)

/-- **No deep sleep during a transfer.** A run whose steps are all permitted does not call
`enterPeriodicDeepSleep` while a dump is active; a step that is not permitted may be
followed by that call. -/
theorem sleeps_between_dumps (flashLog sdLog : LogSource) (validWake : Bool) (startUs : UInt64)
    (labels : List WakeStep)
    (along : Run.Along (step flashLog sdLog) (permitted sdLog) (start validWake startUs) labels) :
    (Run.after (step flashLog sdLog) (start validWake startUs) labels).SleepsIdle ∧
      ∀ label,
        ¬ permitted sdLog (Run.after (step flashLog sdLog) (start validWake startUs) labels) label →
          ¬ (Run.after (step flashLog sdLog) (start validWake startUs)
            (labels ++ [label, .enterPeriodicDeepSleep])).SleepsIdle := by
  have initially : Settled flashLog sdLog (start validWake startUs) :=
    ⟨DumpHistory.initial_sound flashLog, DumpHistory.initial_sound sdLog, nofun⟩
  have settled := Run.invariant_after (step_settled flashLog sdLog) initially along
  refine ⟨fun asleep => settled.idle (Or.inr asleep), fun label refused => ?_⟩
  rw [Run.after_append]
  exact sleeps_of_not_permitted settled refused

/-- Logs of seven bytes -/
def sevenByteLog (source : RecoverySource) : LogSource :=
  ⟨source, [7, 6, 5, 4, 3, 2, 1], by decide⟩

/-- A dump of the whole internal flash log, two iterations of the task -/
def wholeDump : List WakeStep :=
  [.flash (.control ⟨.startLogDump, .internalFlash, 1, 0, 0⟩ true), .flash (.dump true true),
    .flash (.dump true true)]

theorem sleeps_between_dumps_wholeDump :
    let run := Run.after (step (sevenByteLog .internalFlash) (sevenByteLog .missionSdLatestFlight))
      (start true 0) (wholeDump ++ [.decide 2000000 false, .enterPeriodicDeepSleep])
    run.asleep = true ∧ run.SleepsIdle := by
  refine ⟨by decide +kernel, (sleeps_between_dumps _ _ _ _ _ ?_).1⟩
  refine ⟨trivial, trivial, trivial, fun _ _ => ⟨?_, nofun⟩, trivial, trivial⟩
  exact (by decide +kernel)

/-- The deadline is reached after the first of two frames: the board sleeps in the middle
of the dump. -/
theorem sleeps_in_wholeDump :
    ¬ (Run.after (step (sevenByteLog .internalFlash) (sevenByteLog .missionSdLatestFlight))
      (start true 0) (wholeDump.take 2 ++ [.decide 2000000 false,
        .enterPeriodicDeepSleep])).SleepsIdle := by
  intro idle
  exact absurd (idle (by decide +kernel)).1 (by decide +kernel)

end RecoveryWake

end MissionBoard.Runtime
