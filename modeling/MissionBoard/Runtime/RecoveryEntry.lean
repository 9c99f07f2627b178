import MissionBoard.Library.BoundedQueue
import MissionBoard.Protocol.Can
import MissionBoard.Runtime.RecoveryWake

/-!
Owns the way into recovery: the enter requests that `internalFlashTask` takes, the flags
that `safetyTask`, `missionRealtimeTask`, `sdLogTask` and `canTask` publish for it, the
recovery marker in RTC memory, and the deep sleeps of the board over any number of boots.

`internalFlashTask` runs in stages, each of which reads or writes what other tasks may
change. The mission state machine is what its `state_mutex` gives: any snapshot, at any
time; an enter request may come at any time as well. What the dumps do between these
stages is in `RecoveryDump`.
-/

namespace MissionBoard.Runtime

open Protocol Mission

/-! ### The marker in RTC memory -/

/-- `wakeSequence` -/
def wakeSequence (marker : RecoveryMarker) : UInt32 :=
  if validRecoveryMarker marker then marker.wakeSequence else 0

/-- `commitRecoveryEntryMarker`: whether a marker with an entry time is there, and the
marker -/
def commitRecoveryEntryMarker (marker : RecoveryMarker) (nowUs : UInt64) :
    Bool × RecoveryMarker :=
  if validRecoveryMarker marker && marker.entryRtcTimeUs != 0 then (true, marker)
  else if nowUs = 0 then (false, marker)
  else
    let marker := makeRecoveryMarker 0 nowUs
    (validRecoveryMarker marker && marker.entryRtcTimeUs == nowUs, marker)

/-- `prepareMarker` -/
def prepareMarker (marker : RecoveryMarker) : RecoveryMarker :=
  if !validRecoveryMarker marker || marker.entryRtcTimeUs == 0 then marker
  else makeRecoveryMarker (wakeSequence marker + 1) marker.entryRtcTimeUs

/-! ### The tasks -/

/-- `recovery_persistence::LatchState` -/
inductive LatchState where
  | inactive
  | active
  | unreadable
deriving DecidableEq

/-- The four flags that `internalFlashTask` waits for, in the order in which it reads
them -/
inductive SafeFlag where
  | power
  | motor
  | sdFlush
  | flashFlush
deriving DecidableEq

/-- The atomics of recovery that the tasks share -/
structure RecoveryFlags where
  requested : Bool := false
  powerSafe : Bool := false
  motorSafe : Bool := false
  sdFlushed : Bool := false
  persistenceFlushed : Bool := false
  modeReason : RecoveryModeReason := .autoElapsed120
  commandPending : Bool := false
  commandSent : Bool := false
deriving DecidableEq

/-- Reading one of the four -/
def RecoveryFlags.safe (flags : RecoveryFlags) : SafeFlag → Bool
  | .power => flags.powerSafe
  | .motor => flags.motorSafe
  | .sdFlush => flags.sdFlushed
  | .flashFlush => flags.persistenceFlushed

/-- `RecoveryRequest` -/
inductive RecoveryRequest where
  | enter (reason : RecoveryModeReason)
  | control (control : RecoveryControl)
deriving DecidableEq

/-- What `internalFlashTask` does next -/
inductive FlashStage where
  /-- Takes a request from `recovery_queue`. -/
  | receiving
  /-- Asks the state machine about an enter request. -/
  | checking (reason : RecoveryModeReason)
  /-- Raises `recovery_requested`. -/
  | requesting (reason : RecoveryModeReason)
  /-- Clears the flags of an earlier attempt. -/
  | resetting
  /-- Signals `sdLogTask`. -/
  | signalling
  /-- Reports the flash log flushed when its queue is empty. -/
  | flushing
  | observing (flag : SafeFlag)
  | committing
  /-- Has `RecoveryModeCommand` sent and sets the deadline. -/
  | publishing
  | deciding
  /-- Is in `enterPeriodicDeepSleep`. -/
  | sleeping
deriving DecidableEq

/-- The locals of `internalFlashTask` -/
structure FlashTask where
  recovery : RecoveryRuntime := {}
  enterWaiting : Bool := false
  enterReason : RecoveryModeReason := .autoElapsed120
  entryDeadlineUs : UInt64 := 0
  wakeDeadlineUs : UInt64 := 0
  flushPending : Bool := false
  stage : FlashStage := .receiving
deriving DecidableEq

/-- What `canTask` does next about `RecoveryModeCommand` -/
inductive ModeCommandStage where
  | loading
  | writing
  | reporting
deriving DecidableEq

/-- What happens on the way into recovery -/
inductive EntryEvent where
  /-- An enter request was found eligible in this state, with this cutoff latch. -/
  | accepted (state : MissionState) (cutoffLatched : Bool)
  /-- The flag was read as set. -/
  | observed (flag : SafeFlag)
  | committed (marker : RecoveryMarker)
deriving DecidableEq

/-- What happens to the marker -/
inductive MarkerEvent where
  | committed (marker : RecoveryMarker)
  /-- The board went to sleep with this marker. -/
  | slept (marker : RecoveryMarker)
  /-- A recovery exit was prepared. -/
  | cleared
  /-- The board lost its RTC memory. -/
  | lost
deriving DecidableEq

/-- The volatile state of one boot, with the events since it began -/
structure EntryBoot where
  recoveryOnly : Bool
  flags : RecoveryFlags := {}
  requests : BoundedQueue RecoveryRequest 4 := BoundedQueue.empty
  /-- `persistence_queue` holds a signal. -/
  signal : Bool := false
  /-- `sdLogTask` flushes for a signal that it has taken. -/
  sdFlushing : Bool := false
  modeCommand : ModeCommandStage := .loading
  flash : FlashTask := {}
  events : List EntryEvent := []

/-- The board over its boots: the marker in RTC memory, the latch in NVS, and all that
happened to the marker -/
structure RecoveryBoard where
  marker : RecoveryMarker
  latch : LatchState
  boot : EntryBoot
  asleep : Bool := false
  markerLog : List MarkerEvent := []

/-- `app_main` and what the tasks set up before their loops: recovery-only mode for a valid
marker, a timer wake or a latch that is not known to be inactive -/
def EntryBoot.start (marker : RecoveryMarker) (latch : LatchState) (wakeCauseValid : Bool)
    (nowUs : UInt64) : EntryBoot :=
  let markerValid := validRecoveryMarker marker
  let persistentEvidence := latch != .inactive
  let recoveryOnly := markerValid || wakeCauseValid || persistentEvidence
  let wakeValid := (markerValid && wakeCauseValid) || persistentEvidence
  if recoveryOnly then
    { recoveryOnly
      flags :=
        { requested := true, motorSafe := true, modeReason := .recoveryWakeRetry
          commandPending := true }
      flash :=
        { recovery := if wakeValid then (RecoveryRuntime.wake {} true true).2 else {}
          wakeDeadlineUs := nowUs + 2000000 } }
  else { recoveryOnly }

/-- What a stage of `internalFlashTask` finds outside this state -/
structure FlashInput where
  /-- `state_mutex` was taken in time. -/
  locked : Bool := true
  state : MissionState := .commandReceive
  cutoffLatched : Bool := false
  /-- `flash_log_queue` holds records. -/
  recordsWaiting : Bool := false
  rtcNowUs : UInt64 := 0
  nowUs : UInt64 := 0
deriving DecidableEq

/-- One step of a task, or of the board -/
inductive EntryStep where
  /-- `safetyTask` or `missionRealtimeTask` sends an enter request. -/
  | enter (reason : RecoveryModeReason)
  /-- `canTask` sends a `RecoveryControl`. -/
  | control (control : RecoveryControl)
  | safetyTask (auxSafe paraSafe : Bool)
  | missionRealtimeTask (coasts : Bool)
  | sdLogTask
  | canTask (written : Bool)
  | internalFlashTask (input : FlashInput)
  /-- `prepareExit` clears the marker. -/
  | clearMarker
  /-- `ensureActive` or `prepareExit` writes the latch, or NVS turns unreadable. -/
  | latch (state : LatchState)
  /-- The board boots: from its sleep, or after a reset. -/
  | boot (rtcKept wakeCauseValid : Bool) (nowUs : UInt64)
deriving DecidableEq

/-- Where `internalFlashTask` goes on after reading a flag as set -/
def SafeFlag.next : SafeFlag → FlashStage
  | .power => .observing .motor
  | .motor => .observing .sdFlush
  | .sdFlush => .observing .flashFlush
  | .flashFlush => .committing

/-- A stage of `internalFlashTask` that leaves the marker alone -/
def EntryBoot.flashStep (boot : EntryBoot) (input : FlashInput) : EntryBoot :=
  let task := boot.flash
  match task.stage with
  | .receiving =>
      match boot.requests.receive with
      | none => { boot with flash := { task with stage := .flushing } }
      | some (.control _, requests) => { boot with requests }
      | some (.enter reason, requests) =>
          if boot.flags.requested then { boot with requests }
          else { boot with requests, flash := { task with stage := .checking reason } }
  | .checking reason =>
      let eligible := input.locked && input.state == .descent && input.cutoffLatched
      if eligible && task.recovery.requestEntry.1 then
        { boot with
          flash := { task with
            recovery := task.recovery.requestEntry.2
            stage := .requesting reason }
          events := boot.events ++ [.accepted input.state input.cutoffLatched] }
      else { boot with flash := { task with stage := .receiving } }
  | .requesting reason =>
      { boot with
        flags := { boot.flags with requested := true }
        flash := { task with enterReason := reason, stage := .resetting } }
  | .resetting =>
      { boot with
        flags := { boot.flags with
          sdFlushed := false, persistenceFlushed := false
          commandPending := false, commandSent := false }
        flash := { task with stage := .signalling } }
  | .signalling =>
      { boot with
        signal := true
        flash := { task with flushPending := true, enterWaiting := true, stage := .receiving } }
  | .flushing =>
      let stage := if task.enterWaiting then .observing .power else .deciding
      if task.flushPending && !input.recordsWaiting then
        { boot with
          flags := { boot.flags with persistenceFlushed := true }
          flash := { task with flushPending := false, stage } }
      else { boot with flash := { task with stage } }
  | .observing flag =>
      if boot.flags.safe flag then
        { boot with
          flash := { task with stage := flag.next }
          events := boot.events ++ [.observed flag] }
      else { boot with flash := { task with stage := .deciding } }
  | .publishing =>
      { boot with
        flags := { boot.flags with
          modeReason := task.enterReason, commandSent := false, commandPending := true }
        flash := { task with
          entryDeadlineUs := input.nowUs + 1000000, enterWaiting := false, stage := .deciding } }
  | .deciding =>
      let decided := sleepDecided task.recovery boot.recoveryOnly boot.flags.commandSent
        task.wakeDeadlineUs task.entryDeadlineUs input.nowUs
      { boot with flash := { task with stage := if decided then .sleeping else .receiving } }
  | .committing => boot
  | .sleeping => boot

namespace RecoveryBoard

/-- The board that boots with this marker and this latch -/
def start (marker : RecoveryMarker) (latch : LatchState) (wakeCauseValid : Bool)
    (nowUs : UInt64) : RecoveryBoard :=
  { marker, latch, boot := EntryBoot.start marker latch wakeCauseValid nowUs }

/-- `commitRecoveryEntryMarker` and `markResourcesSafeAndFlushed` -/
def commit (board : RecoveryBoard) (rtcNowUs : UInt64) : RecoveryBoard :=
  let task := board.boot.flash
  let (committed, marker) := commitRecoveryEntryMarker board.marker rtcNowUs
  if committed then
    let (marked, recovery) := task.recovery.markResourcesSafeAndFlushed
    { board with
      marker
      boot := { board.boot with
        flash := { task with recovery, stage := if marked then .publishing else .deciding }
        events := board.boot.events ++ [.committed marker] }
      markerLog := board.markerLog ++ [.committed marker] }
  else
    { board with marker, boot := { board.boot with flash := { task with stage := .deciding } } }

/-- `enterPeriodicDeepSleep` -/
def enterPeriodicDeepSleep (board : RecoveryBoard) : RecoveryBoard :=
  let marker := prepareMarker board.marker
  { board with marker, asleep := true, markerLog := board.markerLog ++ [.slept marker] }

/-- One step of a task of the board that is awake -/
def awakeStep (board : RecoveryBoard) (label : EntryStep) : RecoveryBoard :=
  let boot := board.boot
  let flags := boot.flags
  match label with
  | .enter reason =>
      { board with boot := { boot with requests := boot.requests.offer (.enter reason) } }
  | .control control =>
      { board with boot := { boot with requests := boot.requests.offer (.control control) } }
  | .safetyTask auxSafe paraSafe =>
      if flags.requested then
        { board with
          boot := { boot with flags := { flags with powerSafe := auxSafe && paraSafe } } }
      else board
  | .missionRealtimeTask coasts =>
      if flags.requested then
        { board with boot := { boot with flags := { flags with motorSafe := coasts } } }
      else board
  | .sdLogTask =>
      if boot.sdFlushing then
        { board with
          boot := { boot with flags := { flags with sdFlushed := true }, sdFlushing := false } }
      else if boot.signal then
        { board with boot := { boot with signal := false, sdFlushing := true } }
      else board
  | .canTask written =>
      match boot.modeCommand with
      | .loading =>
          if flags.commandPending then
            { board with boot := { boot with modeCommand := .writing } }
          else board
      | .writing =>
          if written then
            { board with
              boot := { boot with
                flags := { flags with commandPending := false }, modeCommand := .reporting } }
          else { board with boot := { boot with modeCommand := .loading } }
      | .reporting =>
          { board with
            boot := { boot with
              flags := { flags with commandSent := true }, modeCommand := .loading } }
  | .internalFlashTask input =>
      match boot.flash.stage with
      | .committing => board.commit input.rtcNowUs
      | .sleeping => board.enterPeriodicDeepSleep
      | _ => { board with boot := boot.flashStep input }
  | .clearMarker => { board with marker := {}, markerLog := board.markerLog ++ [.cleared] }
  | .latch state => { board with latch := state }
  | .boot .. => board

/-- One step: a board that sleeps or is reset boots, a board that is awake runs its tasks. -/
def step (board : RecoveryBoard) : EntryStep → RecoveryBoard
  | .boot rtcKept wakeCauseValid nowUs =>
      let marker := if rtcKept then board.marker else {}
      { board with
        marker
        boot := EntryBoot.start marker board.latch wakeCauseValid nowUs
        asleep := false
        markerLog := if rtcKept then board.markerLog else board.markerLog ++ [.lost] }
  | label => if board.asleep then board else board.awakeStep label

end RecoveryBoard

/-! ### The order of an entry -/

/-- An enter request was accepted in descent with the power cutoff latched, and these flags
were read as set after it. -/
def Accepted (events : List EntryEvent) (flags : List SafeFlag) : Prop :=
  ∃ earlier later, events = earlier ++ .accepted .descent true :: later ∧
    ∀ flag ∈ flags, .observed flag ∈ later

/-- An enter request was accepted in descent with the power cutoff latched, all four flags
were read as set after it, and after them a valid marker with an entry time was
committed. -/
def EntryOrdered (events : List EntryEvent) : Prop :=
  ∃ earlier middle marker later,
    events = earlier ++ .accepted .descent true :: middle ++ .committed marker :: later ∧
      (∀ flag, .observed flag ∈ middle) ∧
        validRecoveryMarker marker = true ∧ marker.entryRtcTimeUs ≠ 0

variable {events : List EntryEvent} {flags : List SafeFlag}

theorem accepted_concat (events : List EntryEvent) :
    Accepted (events ++ [.accepted .descent true]) [] :=
  ⟨events, [], rfl, nofun⟩

theorem Accepted.concat (accepted : Accepted events flags) (event : EntryEvent) :
    Accepted (events ++ [event]) flags := by
  obtain ⟨earlier, later, split, observed⟩ := accepted
  refine ⟨earlier, later ++ [event], by simp [split], fun flag within => ?_⟩
  exact List.mem_append_left _ (observed flag within)

theorem Accepted.observe (accepted : Accepted events flags) (flag : SafeFlag) :
    Accepted (events ++ [.observed flag]) (flag :: flags) := by
  obtain ⟨earlier, later, split, observed⟩ := accepted
  refine ⟨earlier, later ++ [.observed flag], by simp [split], fun other within => ?_⟩
  rcases List.mem_cons.mp within with rfl | known
  · exact List.mem_append_right _ List.mem_cons_self
  · exact List.mem_append_left _ (observed other known)

theorem Accepted.commit {marker : RecoveryMarker} (accepted : Accepted events flags)
    (all : ∀ flag, flag ∈ flags) (valid : validRecoveryMarker marker = true)
    (entered : marker.entryRtcTimeUs ≠ 0) : EntryOrdered (events ++ [.committed marker]) := by
  obtain ⟨earlier, later, split, observed⟩ := accepted
  exact ⟨earlier, later, marker, [], by simp [split], fun flag => observed flag (all flag), valid,
    entered⟩

theorem EntryOrdered.concat (ordered : EntryOrdered events) (event : EntryEvent) :
    EntryOrdered (events ++ [event]) := by
  obtain ⟨earlier, middle, marker, later, split, observed⟩ := ordered
  exact ⟨earlier, middle, marker, later ++ [event], by simp [split], observed⟩

/-- The flags that are read before this one -/
def SafeFlag.before : SafeFlag → List SafeFlag
  | .power => []
  | .motor => [.power]
  | .sdFlush => [.motor, .power]
  | .flashFlush => [.sdFlush, .motor, .power]

/-- What a stage of `internalFlashTask` needs when it is reached -/
def FlashStage.Needs (stage : FlashStage) (recovery : RecoveryRuntime)
    (events : List EntryEvent) : Prop :=
  match stage with
  | .requesting _ | .resetting | .signalling => recovery.state ≠ .inactive
  | .observing flag => Accepted events flag.before
  | .committing => Accepted events [.flashFlush, .sdFlush, .motor, .power]
  | .sleeping => recovery.mayEnterDeepSleep = true
  | _ => True

/-- Outside recovery-only mode the state of `RecoveryRuntime` tells how far the entry has
come. -/
structure EntryTracked (boot : EntryBoot) : Prop where
  states : boot.flash.recovery.state = .inactive ∨
    boot.flash.recovery.state = .flushingAndSafeing ∨
      boot.flash.recovery.state = .readyForDeepSleep
  accepted : boot.flash.recovery.state ≠ .inactive → Accepted boot.events []
  ready : boot.flash.recovery.state = .readyForDeepSleep → EntryOrdered boot.events
  waiting : boot.flash.enterWaiting = true → boot.flash.recovery.state ≠ .inactive
  needs : boot.flash.stage.Needs boot.flash.recovery boot.events

theorem recoveryOnly_flashStep (boot : EntryBoot) (input : FlashInput) :
    (boot.flashStep input).recoveryOnly = boot.recoveryOnly := by
  unfold EntryBoot.flashStep
  dsimp only
  repeat' split
  all_goals rfl

theorem EntryTracked.flashStep {boot : EntryBoot} (tracked : EntryTracked boot)
    (input : FlashInput) : EntryTracked (boot.flashStep input) := by
  obtain ⟨states, accepted, ready, waiting, needs⟩ := tracked
  unfold EntryBoot.flashStep
  dsimp only
  cases stage : boot.flash.stage with
  | receiving =>
      dsimp only
      cases received : boot.requests.receive with
      | none => exact ⟨states, accepted, ready, waiting, trivial⟩
      | some front =>
          obtain ⟨request, requests⟩ := front
          cases request with
          | control control => exact ⟨states, accepted, ready, waiting, needs⟩
          | enter reason =>
              dsimp only
              split
              · exact ⟨states, accepted, ready, waiting, needs⟩
              · exact ⟨states, accepted, ready, waiting, trivial⟩
  | checking reason =>
      dsimp only
      split
      · rename_i eligible
        simp only [Bool.and_eq_true, beq_iff_eq] at eligible
        obtain ⟨⟨⟨-, descending⟩, latched⟩, requested⟩ := eligible
        rw [descending, latched]
        have inactive : boot.flash.recovery.state = .inactive := by
          by_contra active
          simp [RecoveryRuntime.requestEntry, active] at requested
        have begun : boot.flash.recovery.requestEntry.2 = ⟨.flushingAndSafeing⟩ := by
          simp [RecoveryRuntime.requestEntry, inactive]
        rw [begun]
        exact ⟨Or.inr (Or.inl rfl), fun _ => accepted_concat _, nofun, fun _ => nofun, nofun⟩
      · exact ⟨states, accepted, ready, waiting, trivial⟩
  | requesting reason =>
      rw [stage] at needs
      exact ⟨states, accepted, ready, waiting, needs⟩
  | resetting =>
      rw [stage] at needs
      exact ⟨states, accepted, ready, waiting, needs⟩
  | signalling =>
      rw [stage] at needs
      exact ⟨states, accepted, ready, fun _ => needs, trivial⟩
  | flushing =>
      have next : (if boot.flash.enterWaiting then FlashStage.observing .power
          else .deciding).Needs boot.flash.recovery boot.events := by
        split
        · rename_i waits
          exact accepted (waiting waits)
        · trivial
      dsimp only
      split
      · exact ⟨states, accepted, ready, waiting, next⟩
      · exact ⟨states, accepted, ready, waiting, next⟩
  | observing flag =>
      rw [stage] at needs
      dsimp only
      split
      · refine ⟨states, fun active => (accepted active).concat _,
          fun isReady => (ready isReady).concat _, waiting, ?_⟩
        have observed := Accepted.observe needs flag
        cases flag <;> exact observed
      · exact ⟨states, accepted, ready, waiting, trivial⟩
  | publishing => exact ⟨states, accepted, ready, nofun, trivial⟩
  | deciding =>
      refine ⟨states, accepted, ready, waiting, ?_⟩
      dsimp only
      split
      · rename_i decided
        exact (Bool.and_eq_true _ _ ▸ decided).1
      · trivial
  | committing => exact ⟨states, accepted, ready, waiting, needs⟩
  | sleeping => exact ⟨states, accepted, ready, waiting, needs⟩

/-- What `commitRecoveryEntryMarker` does: it keeps a marker that has an entry time, makes
one, or fails and leaves the marker alone. -/
theorem commitRecoveryEntryMarker_cases (marker : RecoveryMarker) (nowUs : UInt64) :
    (commitRecoveryEntryMarker marker nowUs = (true, marker) ∧
      validRecoveryMarker marker = true ∧ marker.entryRtcTimeUs ≠ 0) ∨
    (commitRecoveryEntryMarker marker nowUs = (false, marker)) ∨
    (commitRecoveryEntryMarker marker nowUs = (true, makeRecoveryMarker 0 nowUs) ∧ nowUs ≠ 0 ∧
      ¬ (validRecoveryMarker marker = true ∧ marker.entryRtcTimeUs ≠ 0)) := by
  unfold commitRecoveryEntryMarker
  by_cases there : validRecoveryMarker marker = true ∧ marker.entryRtcTimeUs ≠ 0
  · left
    rw [if_pos (by simp [there.1, there.2])]
    exact ⟨rfl, there⟩
  · right
    have absent : ¬ (validRecoveryMarker marker && marker.entryRtcTimeUs != 0) = true := by
      simpa using there
    by_cases unset : nowUs = 0
    · left
      rw [if_neg absent, if_pos unset]
    · right
      rw [if_neg absent, if_neg unset]
      exact ⟨by simp, unset, there⟩

/-- The stage after a commit, in both outcomes -/
theorem EntryTracked.commit {boot : EntryBoot} (tracked : EntryTracked boot)
    (stage : boot.flash.stage = .committing) {marker : RecoveryMarker}
    (valid : validRecoveryMarker marker = true) (entered : marker.entryRtcTimeUs ≠ 0) :
    EntryTracked { boot with
      flash := { boot.flash with
        recovery := boot.flash.recovery.markResourcesSafeAndFlushed.2
        stage := if boot.flash.recovery.markResourcesSafeAndFlushed.1 then .publishing
          else .deciding }
      events := boot.events ++ [.committed marker] } := by
  obtain ⟨states, accepted, ready, waiting, needs⟩ := tracked
  rw [stage] at needs
  have ordered : EntryOrdered (boot.events ++ [.committed marker]) :=
    Accepted.commit needs (fun flag => by cases flag <;> simp) valid entered
  have anyway : ∀ goes : Bool, (if goes then FlashStage.publishing else .deciding).Needs
      boot.flash.recovery.markResourcesSafeAndFlushed.2 (boot.events ++ [.committed marker]) := by
    intro goes
    cases goes <;> trivial
  by_cases flushing : boot.flash.recovery.state = .flushingAndSafeing
  · have marked : boot.flash.recovery.markResourcesSafeAndFlushed.2 = ⟨.readyForDeepSleep⟩ := by
      simp [RecoveryRuntime.markResourcesSafeAndFlushed, flushing]
    refine ⟨?_, fun _ => ?_, fun _ => ordered, fun _ => ?_, anyway _⟩
    · exact Or.inr (Or.inr (congrArg RecoveryRuntime.state marked))
    · exact (accepted (by rw [flushing]; decide)).concat _
    · dsimp only
      rw [marked]
      decide
  · have same : boot.flash.recovery.markResourcesSafeAndFlushed.2 = boot.flash.recovery := by
      simp [RecoveryRuntime.markResourcesSafeAndFlushed, flushing]
    refine ⟨?_, fun active => ?_, fun _ => ordered, fun waits => ?_, anyway _⟩
    · dsimp only
      rwa [same]
    · dsimp only at active
      rw [same] at active
      exact (accepted active).concat _
    · dsimp only
      rw [same]
      exact waiting waits

namespace RecoveryBoard

/-- The entry of the boot that runs, outside recovery-only mode -/
structure EntersInOrder (board : RecoveryBoard) : Prop where
  tracked : board.boot.recoveryOnly = false → EntryTracked board.boot
  slept : board.asleep = true → board.boot.recoveryOnly = false →
    board.boot.flash.recovery.mayEnterDeepSleep = true

/-- A step that leaves `internalFlashTask` alone -/
private theorem EntersInOrder.frame {board next : RecoveryBoard} (inOrder : board.EntersInOrder)
    (mode : next.boot.recoveryOnly = board.boot.recoveryOnly)
    (flash : next.boot.flash = board.boot.flash) (events : next.boot.events = board.boot.events)
    (asleep : next.asleep = board.asleep) : next.EntersInOrder := by
  refine ⟨fun normal => ?_, fun sleeps normal => ?_⟩
  · obtain ⟨states, accepted, ready, waiting, needs⟩ := inOrder.tracked (mode ▸ normal)
    constructor <;> rw [flash] <;> try rw [events]
    · exact states
    · exact accepted
    · exact ready
    · exact waiting
    · exact needs
  · rw [flash]
    exact inOrder.slept (asleep ▸ sleeps) (mode ▸ normal)

private theorem commit_entersInOrder {board : RecoveryBoard} (inOrder : board.EntersInOrder)
    (awake : board.asleep = false) (stage : board.boot.flash.stage = .committing)
    (rtcNowUs : UInt64) : (board.commit rtcNowUs).EntersInOrder := by
  have stays : (board.commit rtcNowUs).asleep = false := by
    unfold commit
    dsimp only
    split <;> exact awake
  refine ⟨fun normal => ?_, fun asleep => absurd asleep (by rw [stays]; decide)⟩
  have mode : (board.commit rtcNowUs).boot.recoveryOnly = board.boot.recoveryOnly := by
    unfold commit
    dsimp only
    split <;> rfl
  have tracked := inOrder.tracked (mode ▸ normal)
  rcases commitRecoveryEntryMarker_cases board.marker rtcNowUs with
    ⟨committed, valid, entered⟩ | failed | ⟨committed, set, -⟩
  · unfold commit
    rw [committed]
    exact tracked.commit stage valid entered
  · unfold commit
    rw [failed]
    obtain ⟨states, accepted, ready, waiting, -⟩ := tracked
    exact ⟨states, accepted, ready, waiting, trivial⟩
  · unfold commit
    rw [committed]
    exact tracked.commit stage (valid_makeRecoveryMarker 0 rtcNowUs) set

/-- A boot that is not in recovery-only mode starts with nothing accepted. -/
private theorem start_tracked (marker : RecoveryMarker) (latch : LatchState)
    (wakeCauseValid : Bool) (nowUs : UInt64)
    (normal : (EntryBoot.start marker latch wakeCauseValid nowUs).recoveryOnly = false) :
    EntryTracked (EntryBoot.start marker latch wakeCauseValid nowUs) := by
  unfold EntryBoot.start at normal ⊢
  dsimp only at normal ⊢
  split at normal
  · rename_i recoveryOnly
    exact absurd normal (by simp [recoveryOnly])
  · rename_i recoveryOnly
    rw [if_neg recoveryOnly]
    exact ⟨Or.inl rfl, fun active => absurd rfl active, nofun, nofun, trivial⟩

private theorem step_eq_awakeStep {board : RecoveryBoard} {label : EntryStep}
    (runs : ¬ ∃ rtcKept wakeCauseValid nowUs, label = .boot rtcKept wakeCauseValid nowUs) :
    board.step label = if board.asleep then board else board.awakeStep label := by
  cases label <;> first | rfl | exact absurd ⟨_, _, _, rfl⟩ runs

theorem step_entersInOrder (board : RecoveryBoard) (label : EntryStep)
    (inOrder : board.EntersInOrder) : (board.step label).EntersInOrder := by
  by_cases boots : ∃ rtcKept wakeCauseValid nowUs, label = .boot rtcKept wakeCauseValid nowUs
  · obtain ⟨rtcKept, wakeCauseValid, nowUs, rfl⟩ := boots
    exact ⟨start_tracked _ board.latch wakeCauseValid nowUs, nofun⟩
  rw [step_eq_awakeStep boots]
  by_cases asleep : board.asleep = true
  · rw [if_pos asleep]
    exact inOrder
  rw [if_neg asleep]
  unfold awakeStep
  cases label with
  | enter reason => exact inOrder.frame rfl rfl rfl rfl
  | control control => exact inOrder.frame rfl rfl rfl rfl
  | safetyTask auxSafe paraSafe =>
      dsimp only
      split <;> exact inOrder.frame rfl rfl rfl rfl
  | missionRealtimeTask coasts =>
      dsimp only
      split <;> exact inOrder.frame rfl rfl rfl rfl
  | sdLogTask =>
      dsimp only
      split
      · exact inOrder.frame rfl rfl rfl rfl
      · split <;> exact inOrder.frame rfl rfl rfl rfl
  | canTask written =>
      dsimp only
      cases board.boot.modeCommand with
      | loading =>
          dsimp only
          split <;> exact inOrder.frame rfl rfl rfl rfl
      | writing =>
          dsimp only
          split <;> exact inOrder.frame rfl rfl rfl rfl
      | reporting => exact inOrder.frame rfl rfl rfl rfl
  | clearMarker => exact inOrder.frame rfl rfl rfl rfl
  | latch state => exact inOrder.frame rfl rfl rfl rfl
  | boot rtcKept wakeCauseValid nowUs => exact inOrder
  | internalFlashTask input =>
      dsimp only
      split
      · rename_i stage
        exact commit_entersInOrder inOrder (Bool.eq_false_iff.mpr asleep) stage _
      · rename_i stage
        refine ⟨inOrder.tracked, fun _ normal => ?_⟩
        have needs := (inOrder.tracked normal).needs
        rwa [stage] at needs
      · refine ⟨fun normal => (inOrder.tracked ?_).flashStep input,
          fun sleeps => absurd sleeps asleep⟩
        rwa [← recoveryOnly_flashStep board.boot input]

/-! ### The marker over the boots -/

/-- No exit was prepared and no RTC memory was lost. -/
def Undisturbed (events : List MarkerEvent) : Prop := .cleared ∉ events ∧ .lost ∉ events

/-- The deep sleeps among the events -/
def sleeps (events : List MarkerEvent) : ℕ :=
  events.countP fun event =>
    match event with
    | .slept _ => true
    | _ => false

/-- A marker that goes on from the one committed first: valid, with its entry time, and one
wake more for every sleep -/
structure GoesOn (first : RecoveryMarker) (events : List MarkerEvent) (marker : RecoveryMarker) :
    Prop where
  valid : validRecoveryMarker marker = true
  entry : marker.entryRtcTimeUs = first.entryRtcTimeUs
  wakes : marker.wakeSequence = first.wakeSequence + UInt32.ofNat (sleeps events)

/-- A sleep goes on from every marker committed before it that was not disturbed since. -/
def SleepsOn (before : List MarkerEvent) (event : MarkerEvent) : Prop :=
  match event with
  | .slept marker => ∀ earlier first between, before = earlier ++ .committed first :: between →
      Undisturbed between → GoesOn first (between ++ [event]) marker
  | _ => True

/-- The marker in RTC memory goes on from every marker committed, and so did every sleep. -/
structure MarkerTracked (board : RecoveryBoard) : Prop where
  current : ∀ earlier first between, board.markerLog = earlier ++ .committed first :: between →
    Undisturbed between → first.entryRtcTimeUs ≠ 0 ∧ GoesOn first between board.marker
  sleptOn : Trace.Throughout SleepsOn board.markerLog

private theorem Undisturbed.init {events : List MarkerEvent} {event : MarkerEvent}
    (undisturbed : Undisturbed (events ++ [event])) : Undisturbed events :=
  ⟨fun within => undisturbed.1 (List.mem_append_left _ within),
    fun within => undisturbed.2 (List.mem_append_left _ within)⟩

private theorem commit_markerTracked {board : RecoveryBoard} (tracked : board.MarkerTracked)
    (rtcNowUs : UInt64) : (board.commit rtcNowUs).MarkerTracked := by
  unfold commit
  have sleptOn (marker : RecoveryMarker) :
      Trace.Throughout SleepsOn (board.markerLog ++ [.committed marker]) :=
    Trace.throughout_concat tracked.sleptOn trivial
  rcases commitRecoveryEntryMarker_cases board.marker rtcNowUs with
    ⟨committed, valid, entered⟩ | failed | ⟨committed, set, absent⟩
  · rw [committed]
    refine ⟨fun earlier first between splits undisturbed => ?_, sleptOn _⟩
    rcases Trace.split_concat splits with ⟨rfl, ends, -⟩ | ⟨rest, rfl, before⟩
    · cases ends
      exact ⟨entered, valid, rfl, by simp [sleeps]⟩
    · obtain ⟨started, goesOn⟩ := tracked.current earlier first rest before undisturbed.init
      refine ⟨started, goesOn.valid, goesOn.entry, goesOn.wakes.trans ?_⟩
      simp [sleeps]
  · rw [failed]
    exact ⟨tracked.current, tracked.sleptOn⟩
  · rw [committed]
    refine ⟨fun earlier first between splits undisturbed => ?_, sleptOn _⟩
    rcases Trace.split_concat splits with ⟨rfl, ends, -⟩ | ⟨rest, rfl, before⟩
    · cases ends
      exact ⟨set, valid_makeRecoveryMarker 0 rtcNowUs, rfl, by simp [sleeps]⟩
    · obtain ⟨started, goesOn⟩ := tracked.current earlier first rest before undisturbed.init
      exact absurd ⟨goesOn.valid, goesOn.entry ▸ started⟩ absent

private theorem enterPeriodicDeepSleep_markerTracked {board : RecoveryBoard}
    (tracked : board.MarkerTracked) : board.enterPeriodicDeepSleep.MarkerTracked := by
  have next : ∀ earlier first between, board.markerLog = earlier ++ .committed first :: between →
      Undisturbed between → first.entryRtcTimeUs ≠ 0 ∧
        GoesOn first (between ++ [.slept (prepareMarker board.marker)])
          (prepareMarker board.marker) := by
    intro earlier first between splits undisturbed
    obtain ⟨started, goesOn⟩ := tracked.current earlier first between splits undisturbed
    have prepared : prepareMarker board.marker =
        makeRecoveryMarker (board.marker.wakeSequence + 1) board.marker.entryRtcTimeUs := by
      unfold prepareMarker wakeSequence
      rw [goesOn.valid, goesOn.entry, if_neg (by simpa using started), if_pos rfl]
    refine ⟨started, ?_⟩
    rw [prepared]
    refine ⟨valid_makeRecoveryMarker _ _, goesOn.entry, ?_⟩
    rw [wakeSequence_makeRecoveryMarker, goesOn.wakes]
    simp [sleeps, UInt32.add_assoc]
  refine ⟨fun earlier first between splits undisturbed => ?_,
    Trace.throughout_concat tracked.sleptOn fun earlier first between splits undisturbed =>
      (next earlier first between splits undisturbed).2⟩
  rcases Trace.split_concat splits with ⟨-, ends, -⟩ | ⟨rest, rfl, before⟩
  · cases ends
  · exact next earlier first rest before undisturbed.init

/-- The marker is cleared or lost. -/
private theorem MarkerTracked.disturb {board next : RecoveryBoard} (tracked : board.MarkerTracked)
    {event : MarkerEvent} (disturbs : event = .cleared ∨ event = .lost)
    (log : next.markerLog = board.markerLog ++ [event]) : next.MarkerTracked := by
  refine ⟨fun earlier first between splits undisturbed => ?_, ?_⟩
  · rw [log] at splits
    rcases Trace.split_concat splits with ⟨-, ends, -⟩ | ⟨rest, rfl, -⟩
    · rcases disturbs with rfl | rfl <;> cases ends
    · rcases disturbs with rfl | rfl
      · exact absurd (List.mem_append_right _ List.mem_cons_self) undisturbed.1
      · exact absurd (List.mem_append_right _ List.mem_cons_self) undisturbed.2
  · rw [log]
    refine Trace.throughout_concat tracked.sleptOn ?_
    rcases disturbs with rfl | rfl <;> trivial

/-- A step that leaves the marker alone -/
private theorem MarkerTracked.frame {board next : RecoveryBoard} (tracked : board.MarkerTracked)
    (marker : next.marker = board.marker) (log : next.markerLog = board.markerLog) :
    next.MarkerTracked := by
  refine ⟨fun earlier first between splits undisturbed => ?_, log ▸ tracked.sleptOn⟩
  rw [marker]
  exact tracked.current earlier first between (log ▸ splits) undisturbed

theorem step_markerTracked (board : RecoveryBoard) (label : EntryStep)
    (tracked : board.MarkerTracked) : (board.step label).MarkerTracked := by
  by_cases boots : ∃ rtcKept wakeCauseValid nowUs, label = .boot rtcKept wakeCauseValid nowUs
  · obtain ⟨rtcKept, wakeCauseValid, nowUs, rfl⟩ := boots
    cases rtcKept with
    | true => exact tracked.frame rfl rfl
    | false => exact tracked.disturb (Or.inr rfl) rfl
  rw [step_eq_awakeStep boots]
  by_cases asleep : board.asleep = true
  · rw [if_pos asleep]
    exact tracked
  rw [if_neg asleep]
  unfold awakeStep
  cases label with
  | enter reason => exact tracked.frame rfl rfl
  | control control => exact tracked.frame rfl rfl
  | safetyTask auxSafe paraSafe =>
      dsimp only
      split <;> exact tracked.frame rfl rfl
  | missionRealtimeTask coasts =>
      dsimp only
      split <;> exact tracked.frame rfl rfl
  | sdLogTask =>
      dsimp only
      split
      · exact tracked.frame rfl rfl
      · split <;> exact tracked.frame rfl rfl
  | canTask written =>
      dsimp only
      cases board.boot.modeCommand with
      | loading =>
          dsimp only
          split <;> exact tracked.frame rfl rfl
      | writing =>
          dsimp only
          split <;> exact tracked.frame rfl rfl
      | reporting => exact tracked.frame rfl rfl
  | clearMarker => exact tracked.disturb (Or.inl rfl) rfl
  | latch state => exact tracked.frame rfl rfl
  | boot rtcKept wakeCauseValid nowUs => exact tracked
  | internalFlashTask input =>
      dsimp only
      split
      · exact commit_markerTracked tracked _
      · exact enterPeriodicDeepSleep_markerTracked tracked
      · exact tracked.frame rfl rfl

/-- **Recovery entry ordering.** Over every run of the tasks and over every boot, a board
outside recovery-only mode goes to sleep only after an enter request was accepted in
descent with the power cutoff latched, all four flags were read as set after that, and a
valid marker with an entry time was committed after those; and every sleep goes on from
every marker committed before it, as long as no exit was prepared and the RTC memory was
kept in between. -/
theorem recovery_entry_ordered (marker : RecoveryMarker) (latch : LatchState)
    (wakeCauseValid : Bool) (nowUs : UInt64) (labels : List EntryStep) :
    let board := Run.after step (start marker latch wakeCauseValid nowUs) labels
    (board.asleep = true → board.boot.recoveryOnly = false → EntryOrdered board.boot.events) ∧
      Trace.Throughout SleepsOn board.markerLog := by
  have initially : (start marker latch wakeCauseValid nowUs).EntersInOrder ∧
      (start marker latch wakeCauseValid nowUs).MarkerTracked := by
    refine ⟨⟨start_tracked marker latch wakeCauseValid nowUs, nofun⟩, ?_,
      Trace.throughout_nil _⟩
    intro earlier first between splits
    exact absurd splits.symm (List.append_ne_nil_of_right_ne_nil earlier (List.cons_ne_nil _ _))
  have preserved : ∀ (board : RecoveryBoard) (label : EntryStep),
      board.EntersInOrder ∧ board.MarkerTracked → True →
        (board.step label).EntersInOrder ∧ (board.step label).MarkerTracked :=
    fun board label holds _ =>
      ⟨step_entersInOrder board label holds.1, step_markerTracked board label holds.2⟩
  obtain ⟨inOrder, tracked⟩ := Run.invariant_after preserved initially
    (Run.along_of_forall (fun _ _ => trivial) _ labels)
  refine ⟨fun asleep normal => ?_, tracked.sleptOn⟩
  have entered := inOrder.tracked normal
  have mayEnter := inOrder.slept asleep normal
  rcases entered.states with inactive | flushing | ready
  · simp [RecoveryRuntime.mayEnterDeepSleep, inactive] at mayEnter
  · simp [RecoveryRuntime.mayEnterDeepSleep, flushing] at mayEnter
  · exact entered.ready ready

/-- An entry from descent at 120 s up to the deep sleep -/
def descentEntry : List EntryStep :=
  [.enter .autoElapsed120, .internalFlashTask {},
    .internalFlashTask { state := .descent, cutoffLatched := true }, .internalFlashTask {},
    .safetyTask true true, .missionRealtimeTask true, .internalFlashTask {},
    .internalFlashTask {}, .sdLogTask, .sdLogTask, .internalFlashTask {}, .internalFlashTask {},
    .internalFlashTask {}, .internalFlashTask {}, .internalFlashTask {}, .internalFlashTask {},
    .internalFlashTask { rtcNowUs := 7 }, .internalFlashTask {},
    .internalFlashTask { nowUs := 1000000 }, .internalFlashTask {}]

theorem recovery_entry_ordered_descentEntry :
    let board := Run.after step (start {} .inactive false 0) descentEntry
    board.asleep = true ∧ EntryOrdered board.boot.events :=
  ⟨by decide +kernel,
    (recovery_entry_ordered {} .inactive false 0 descentEntry).1 (by decide +kernel)
      (by decide +kernel)⟩

/-- Each deep sleep keeps the entry time of the one before and counts one wake more. -/
def EverySleepCounts (events : List MarkerEvent) : Prop :=
  ∀ earlier first between second later,
    events = earlier ++ .slept first :: (between ++ .slept second :: later) → sleeps between = 0 →
      second.entryRtcTimeUs = first.entryRtcTimeUs ∧
        second.wakeSequence = first.wakeSequence + 1

/-- The board loses its power in its sleep and goes back to sleep by the latch, which the
entry has set. -/
def powerLost : List EntryStep :=
  .latch .active :: descentEntry ++ [.boot false false 0, .internalFlashTask {},
    .internalFlashTask {}, .internalFlashTask { nowUs := 2000000 }, .internalFlashTask {}]

/-- After the power loss the marker stays empty: the next sleep has no entry time and counts
no wake. -/
theorem sleep_of_powerLost_uncounted :
    ¬ EverySleepCounts (Run.after step (start {} .inactive false 0) powerLost).markerLog := by
  intro counts
  have kept := counts [.committed (makeRecoveryMarker 0 7)] (makeRecoveryMarker 1 7) [.lost] {} []
    (by decide +kernel) rfl
  exact absurd kept.1 (by decide)

end RecoveryBoard

end MissionBoard.Runtime
