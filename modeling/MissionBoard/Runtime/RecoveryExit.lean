import MissionBoard.Protocol.CanCodec
import MissionBoard.Runtime.RecoveryEntry

/-!
Owns the way out of recovery: the latch in NVS and the exit request of
`recovery_persistence.cpp`, and what `MissionRuntimeCan::read` and `write` do to them
as frames pass through.

Every call of NVS may fail; its failures are arguments. What the display attitude and the
power presence put into `0x100`, `0x102` and `0x107` frames is a parameter, since no other
frame depends on it.
-/

namespace MissionBoard.Runtime

open Protocol Mission

/-! ### The latch -/

/-- The namespace `recovery` of NVS, with its key `active_v1` -/
inductive RecoveryNamespace where
  | absent
  | present (active : Option UInt8)
deriving DecidableEq

/-- The value of the key, if it is there -/
def RecoveryNamespace.latched : RecoveryNamespace → Option UInt8
  | .absent => none
  | .present active => active

/-- Which calls of one read of the latch succeed -/
structure NvsRead where
  initializes : Bool := true
  opens : Bool := true
  reads : Bool := true
deriving DecidableEq

/-- The result of `nvs_open` for writing -/
inductive NvsOpen where
  | opened
  | notFound
  | failed
deriving DecidableEq

/-- Which calls of one change of the latch succeed -/
structure NvsAttempt where
  before : NvsRead := {}
  initializes : Bool := true
  opens : NvsOpen := .opened
  changes : Bool := true
  commits : Bool := true
  /-- A change that is not committed reaches the store all the same. -/
  reaches : Bool := false
  after : NvsRead := {}
deriving DecidableEq

/-- `latchState` -/
def latchState (store : RecoveryNamespace) (read : NvsRead) : LatchState :=
  if !read.initializes || !read.opens then .unreadable
  else
    match store with
    | .absent => .inactive
    | .present none => if read.reads then .inactive else .unreadable
    | .present (some active) => if !read.reads || active != 1 then .unreadable else .active

/-- The store after a change that was tried -/
def NvsAttempt.stored (attempt : NvsAttempt) (store : RecoveryNamespace) (active : Option UInt8) :
    RecoveryNamespace :=
  if attempt.changes && (attempt.commits || attempt.reaches) then .present active
  else .present store.latched

/-- `ensureActive` -/
def ensureActive (store : RecoveryNamespace) (attempt : NvsAttempt) : Bool × RecoveryNamespace :=
  if latchState store attempt.before = .active then (true, store)
  else if !attempt.initializes || attempt.opens != .opened then (false, store)
  else
    let stored := attempt.stored store (some 1)
    (attempt.changes && attempt.commits && latchState stored attempt.after == .active, stored)

/-! ### The exit request -/

/-- The latch, the marker in RTC memory and the atomics of `recovery_persistence.cpp`, with
the frames transmitted so far -/
structure RecoveryExit where
  store : RecoveryNamespace
  marker : RecoveryMarker
  porUnrecoverable : Bool := false
  exitTransaction : UInt8 := 0
  exitArgumentsValid : Bool := false
  exitPrepared : Bool := false
  bus : List CanFrame := []
  /-- `onExitStatusTransmitted` restarts the board. -/
  restarts : Bool := false
deriving DecidableEq

/-- A frame that passes through `MissionRuntimeCan` -/
inductive ExitStep where
  | read (frame : CanFrame)
  | write (frame : CanFrame) (attempt : NvsAttempt) (written : Bool)
deriving DecidableEq

namespace RecoveryExit

/-- `armExitRequest` -/
def armExitRequest (exit : RecoveryExit) (transactionId : UInt8) (validArguments : Bool) :
    RecoveryExit :=
  if transactionId = 0 then exit
  else
    { exit with
      exitArgumentsValid := validArguments
      exitTransaction := transactionId
      exitPrepared := false }

/-- `exitRequestPending` -/
def exitRequestPending (exit : RecoveryExit) (transactionId : UInt8) : Bool :=
  transactionId != 0 && exit.exitTransaction == transactionId

/-- `exitArgumentsValid` -/
def argumentsValid (exit : RecoveryExit) (transactionId : UInt8) : Bool :=
  exit.exitRequestPending transactionId && exit.exitArgumentsValid

/-- `prepareExit` -/
def prepareExit (exit : RecoveryExit) (transactionId : UInt8) (attempt : NvsAttempt) :
    Bool × RecoveryExit :=
  if !exit.argumentsValid transactionId then (false, exit)
  else if exit.exitPrepared then (true, exit)
  else if !attempt.initializes || attempt.opens == .failed then (false, exit)
  else
    let erased := attempt.opens == .notFound || (attempt.changes && attempt.commits)
    let store :=
      if attempt.opens = .notFound then exit.store else attempt.stored exit.store none
    if !erased || latchState store attempt.after != .inactive then (false, { exit with store })
    else
      (true, { exit with store, marker := {}, porUnrecoverable := false, exitPrepared := true })

/-- `clearExitRequest` -/
def clearExitRequest (exit : RecoveryExit) (transactionId : UInt8) : RecoveryExit :=
  if exit.exitRequestPending transactionId then
    { exit with exitTransaction := 0, exitArgumentsValid := false, exitPrepared := false }
  else exit

/-! ### The frames -/

/-- `MissionRuntimeCan::read`: an exit request is armed and passed on as a wake. -/
def read (exit : RecoveryExit) (frame : CanFrame) : CanFrame × RecoveryExit :=
  if frame.identifier = 0x008 ∧ frame.dataLength = 8 ∧ frame.byte 0 &&& 0x0F = 4 then
    let validArguments : Bool :=
      (frame.byte 0 >>> 4) &&& 0x01 = 0 && frame.byte 1 != 0 && frame.byte 2 == 0 &&
        frame.byte 3 == 0 && frame.byte 4 == 0 && frame.byte 5 == 0 && frame.byte 6 == 0 &&
        frame.byte 7 == 0
    (frame.setByte 0 ((frame.byte 0 &&& 0x10) ||| 1),
      exit.armExitRequest (frame.byte 1) validArguments)
  else (frame, exit)

/-- What `write` makes of the frames that have nothing to do with the exit -/
def telemetryFrame (telemetry : CanFrame → CanFrame) (exit : RecoveryExit) (frame : CanFrame) :
    CanFrame :=
  if frame.identifier = 0x100 ∨ frame.identifier = 0x102 ∨ frame.identifier = 0x107 then
    telemetry frame
  else if frame.identifier = 0x103 ∧ frame.dataLength = 8 ∧ exit.porUnrecoverable = true then
    (frame.setByte 5 0xFD).setByte 6 0xFF
  else frame

/-- The frame is a `RecoveryModeCommand`, before which `write` sets the latch. -/
def setsLatch (frame : CanFrame) : Prop := frame.identifier = 0x014 ∧ frame.dataLength = 3

instance (frame : CanFrame) : Decidable (setsLatch frame) :=
  inferInstanceAs (Decidable (_ ∧ _))

/-- The frame is the status that answers the exit request. -/
def answersExit (exit : RecoveryExit) (frame : CanFrame) : Prop :=
  frame.identifier = 0x105 ∧ frame.dataLength = 8 ∧ frame.byte 0 = 1 ∧
    exit.exitRequestPending (frame.byte 1) = true

instance (exit : RecoveryExit) (frame : CanFrame) : Decidable (exit.answersExit frame) :=
  inferInstanceAs (Decidable (_ ∧ _ ∧ _ ∧ _))

/-- The status of an exit with this code -/
def exitStatus (frame : CanFrame) (code : UInt8) : CanFrame :=
  { frame with
    data := #v[4, frame.byte 1, code, 0, 0, 0, 0, 0] }

/-- The status that answers an exit request, whether it says complete, and the state after
preparing it -/
def answer (exit : RecoveryExit) (frame : CanFrame) (attempt : NvsAttempt) :
    CanFrame × Bool × RecoveryExit :=
  let transaction := frame.byte 1
  if frame.byte 2 = 0 then
    if !exit.argumentsValid transaction then (exitStatus frame 5, false, exit)
    else
      let (prepared, exit) := exit.prepareExit transaction attempt
      if prepared then (exitStatus frame 2, true, exit) else (exitStatus frame 7, false, exit)
  else (exitStatus frame (frame.byte 2), false, exit)

/-- A frame has been transmitted. -/
def transmit (exit : RecoveryExit) (frame : CanFrame) : RecoveryExit :=
  { exit with bus := exit.bus ++ [frame] }

/-- `MissionRuntimeCan::write` -/
def write (telemetry : CanFrame → CanFrame) (exit : RecoveryExit) (frame : CanFrame)
    (attempt : NvsAttempt) (written : Bool) : RecoveryExit :=
  if setsLatch frame then
    let exit := { exit with store := (ensureActive exit.store attempt).2 }
    let frame :=
      if exit.porUnrecoverable then frame.setByte 2 3 else frame
    if written then exit.transmit frame else exit
  else if exit.answersExit frame then
    let (status, complete, exit) := exit.answer frame attempt
    if written then
      let exit := exit.transmit status
      if complete then { exit with restarts := true } else exit.clearExitRequest (frame.byte 1)
    else exit
  else if written then exit.transmit (telemetryFrame telemetry exit frame)
  else exit

/-- One frame; none passes once the board restarts. -/
def step (telemetry : CanFrame → CanFrame) (exit : RecoveryExit) (label : ExitStep) :
    RecoveryExit :=
  if exit.restarts then exit
  else
    match label with
    | .read frame => (exit.read frame).2
    | .write frame attempt written => exit.write telemetry frame attempt written

/-- The latch is inactive and the marker cleared. -/
def Cleared (exit : RecoveryExit) : Prop := exit.store.latched = none ∧ exit.marker = {}

/-- While an exit is prepared, no `RecoveryModeCommand` frame brings the latch back. -/
def permitted (exit : RecoveryExit) : ExitStep → Prop
  | .write frame attempt _ =>
      exit.restarts = false → exit.exitPrepared = true → setsLatch frame →
        (ensureActive exit.store attempt).2.latched = none
  | .read _ => True

/-! ### Preparing an exit -/

/-- A latch that reads inactive is inactive. -/
theorem latched_of_inactive {store : RecoveryNamespace} {read : NvsRead}
    (inactive : latchState store read = .inactive) : store.latched = none := by
  unfold latchState at inactive
  cases store with
  | absent => rfl
  | present active =>
      cases active with
      | none => rfl
      | some value =>
          exfalso
          revert inactive
          dsimp only
          split
          · nofun
          · split <;> nofun

/-- An inactive latch that can be read reads inactive. -/
theorem latchState_of_latched {store : RecoveryNamespace} (latched : store.latched = none) :
    latchState store {} = .inactive := by
  cases store with
  | absent => rfl
  | present active =>
      obtain rfl : active = none := latched
      rfl

/-- An exit that is prepared has its request, a latch that is inactive and no marker. -/
structure Sound (exit : RecoveryExit) : Prop where
  prepared : exit.exitPrepared = true → exit.Cleared ∧ exit.exitTransaction ≠ 0 ∧
    exit.exitArgumentsValid = true
  restarted : exit.restarts = true → exit.Cleared

/-- What `prepareExit` does: it clears latch and marker, or leaves an exit that was not
prepared so. -/
theorem prepareExit_sound {exit : RecoveryExit} (sound : exit.Sound)
    (running : exit.restarts = false) (transactionId : UInt8) (attempt : NvsAttempt) :
    (exit.prepareExit transactionId attempt).2.Sound ∧
      (exit.prepareExit transactionId attempt).2.restarts = false ∧
      ((exit.prepareExit transactionId attempt).1 = true →
        (exit.prepareExit transactionId attempt).2.Cleared) := by
  unfold prepareExit
  by_cases valid : exit.argumentsValid transactionId = true
  · rw [if_neg (by simp [valid])]
    by_cases prepared : exit.exitPrepared = true
    · rw [if_pos prepared]
      exact ⟨sound, running, fun _ => (sound.prepared prepared).1⟩
    · rw [if_neg prepared]
      split
      · exact ⟨sound, running, nofun⟩
      · dsimp only
        generalize (if attempt.opens = .notFound then exit.store
          else attempt.stored exit.store none) = store
        split
        · refine ⟨⟨fun isPrepared => absurd isPrepared prepared, ?_⟩, running, nofun⟩
          exact fun restarts => absurd restarts (by simp [running])
        · rename_i erased
          simp only [Bool.or_eq_true, Bool.not_eq_true', bne_iff_ne, not_or, not_not] at erased
          have latched := latched_of_inactive erased.2
          unfold argumentsValid exitRequestPending at valid
          simp only [Bool.and_eq_true, bne_iff_ne, beq_iff_eq] at valid
          obtain ⟨⟨some, same⟩, arguments⟩ := valid
          have cleared : Cleared { exit with
              store, marker := {}, porUnrecoverable := false, exitPrepared := true } :=
            ⟨latched, rfl⟩
          exact ⟨⟨fun _ => ⟨cleared, same ▸ some, arguments⟩, fun _ => cleared⟩, running,
            fun _ => cleared⟩
  · rw [if_pos (by simpa using valid)]
    exact ⟨sound, running, nofun⟩

private theorem clearExitRequest_sound {exit : RecoveryExit} (sound : exit.Sound)
    (transactionId : UInt8) : (exit.clearExitRequest transactionId).Sound := by
  unfold clearExitRequest
  split
  · exact ⟨nofun, sound.restarted⟩
  · exact sound

private theorem read_sound {exit : RecoveryExit} (sound : exit.Sound) (frame : CanFrame) :
    (exit.read frame).2.Sound := by
  unfold read
  split
  · unfold armExitRequest
    dsimp only
    split
    · exact sound
    · exact ⟨nofun, sound.restarted⟩
  · exact sound

private theorem answer_sound {exit : RecoveryExit} (sound : exit.Sound)
    (running : exit.restarts = false) (frame : CanFrame) (attempt : NvsAttempt) :
    (exit.answer frame attempt).2.2.Sound ∧ (exit.answer frame attempt).2.2.restarts = false ∧
      ((exit.answer frame attempt).2.1 = true → (exit.answer frame attempt).2.2.Cleared) := by
  have prepared := prepareExit_sound sound running (frame.byte 1) attempt
  unfold answer
  dsimp only
  split
  · split
    · exact ⟨sound, running, nofun⟩
    · generalize exit.prepareExit (frame.byte 1) attempt = outcome at prepared ⊢
      obtain ⟨complete, next⟩ := outcome
      cases complete with
      | true => exact prepared
      | false => exact ⟨prepared.1, prepared.2.1, nofun⟩
  · exact ⟨sound, running, nofun⟩

private theorem write_sound {telemetry : CanFrame → CanFrame} {exit : RecoveryExit}
    (sound : exit.Sound) (running : exit.restarts = false) {frame : CanFrame}
    {attempt : NvsAttempt} {written : Bool}
    (allowed : exit.permitted (.write frame attempt written)) :
    (exit.write telemetry frame attempt written).Sound := by
  unfold write
  by_cases mode : setsLatch frame
  · rw [if_pos mode]
    have set : Sound { exit with store := (ensureActive exit.store attempt).2 } := by
      refine ⟨fun prepared => ?_, fun restarts => absurd restarts (by simp [running])⟩
      obtain ⟨cleared, request⟩ := sound.prepared prepared
      exact ⟨⟨allowed running prepared mode, cleared.2⟩, request⟩
    cases written with
    | true => exact ⟨set.prepared, set.restarted⟩
    | false => exact set
  · rw [if_neg mode]
    by_cases status : exit.answersExit frame
    · rw [if_pos status]
      obtain ⟨answered, stillRuns, complete⟩ := answer_sound sound running frame attempt
      generalize exit.answer frame attempt = answer at answered stillRuns complete ⊢
      obtain ⟨frame', completes, next⟩ := answer
      dsimp only at answered stillRuns complete ⊢
      have transmitted : (next.transmit frame').Sound := ⟨answered.prepared, answered.restarted⟩
      cases written with
      | false => exact answered
      | true =>
          cases completes with
          | false => exact clearExitRequest_sound transmitted _
          | true => exact ⟨transmitted.prepared, fun _ => complete rfl⟩
    · rw [if_neg status]
      cases written with
      | true => exact ⟨sound.prepared, sound.restarted⟩
      | false => exact sound

theorem step_sound (telemetry : CanFrame → CanFrame) (exit : RecoveryExit) (label : ExitStep)
    (sound : exit.Sound) (allowed : exit.permitted label) : (exit.step telemetry label).Sound := by
  unfold step
  by_cases restarts : exit.restarts = true
  · rw [if_pos restarts]
    exact sound
  rw [if_neg restarts]
  cases label with
  | read frame => exact read_sound sound frame
  | write frame attempt written =>
      exact write_sound sound (Bool.eq_false_iff.mpr restarts) allowed

/-- The status that asks for the answer to an exit request -/
def wakeReady (transaction : UInt8) : CanFrame :=
  { identifier := 0x105, dataLength := 8, data := #v[1, transaction, 0, 0, 0, 0, 0, 0] }

/-- An exit that is prepared completes with the next answer that is transmitted, whatever
the latch is. -/
private theorem completes_of_prepared {telemetry : CanFrame → CanFrame} {exit : RecoveryExit}
    (running : exit.restarts = false) (prepared : exit.exitPrepared = true)
    (requested : exit.exitTransaction ≠ 0) (arguments : exit.exitArgumentsValid = true) :
    exit.step telemetry (.write (wakeReady exit.exitTransaction) {} true) =
      { exit with
        bus := exit.bus ++ [exitStatus (wakeReady exit.exitTransaction) 2], restarts := true } := by
  have pending : exit.exitRequestPending exit.exitTransaction = true := by
    simp [exitRequestPending, requested]
  have answers : exit.answersExit (wakeReady exit.exitTransaction) := ⟨rfl, rfl, rfl, pending⟩
  have silent : ¬ setsLatch (wakeReady exit.exitTransaction) := by simp [setsLatch, wakeReady]
  have complete : exit.answer (wakeReady exit.exitTransaction) {} =
      (exitStatus (wakeReady exit.exitTransaction) 2, true, exit) := by
    have valid : exit.argumentsValid exit.exitTransaction = true := by
      simp [argumentsValid, pending, arguments]
    have transaction : (wakeReady exit.exitTransaction).byte 1 = exit.exitTransaction := rfl
    have reason : (wakeReady exit.exitTransaction).byte 2 = 0 := rfl
    unfold answer prepareExit
    simp [valid, prepared, transaction, reason]
  simp only [step, running, Bool.false_eq_true, if_false, write, if_neg silent, if_pos answers,
    complete, if_true]
  rfl

/-- After a frame that is not permitted the exit may complete with the latch set. -/
private theorem exits_latched {telemetry : CanFrame → CanFrame} {exit : RecoveryExit}
    (sound : exit.Sound) {label : ExitStep} (refused : ¬ exit.permitted label) :
    let next := (exit.step telemetry label).step telemetry
      (.write (wakeReady exit.exitTransaction) {} true)
    next.restarts = true ∧ ¬ next.Cleared := by
  cases label with
  | read frame => exact absurd trivial refused
  | write frame attempt written =>
      simp only [permitted, not_forall, exists_prop] at refused
      obtain ⟨running, prepared, mode, latched⟩ := refused
      obtain ⟨-, requested, arguments⟩ := sound.prepared prepared
      have first : ∃ bus, exit.step telemetry (.write frame attempt written) =
          { exit with store := (ensureActive exit.store attempt).2, bus } := by
        simp only [step, running, Bool.false_eq_true, if_false, write, if_pos mode]
        cases written with
        | true => exact ⟨_, rfl⟩
        | false => exact ⟨_, rfl⟩
      obtain ⟨bus, first⟩ := first
      have second := @completes_of_prepared telemetry
        { exit with store := (ensureActive exit.store attempt).2, bus } running prepared requested
        arguments
      dsimp only at second ⊢
      rw [first, second]
      exact ⟨rfl, fun cleared => latched cleared.1⟩

/-- **Recovery exit is final.** Along every sequence of frames that are all permitted, the
board restarts after an exit only with the latch inactive and the marker cleared, and then
it boots normally; a frame that is not permitted may be followed by an answer that
restarts the board with the latch set. -/
theorem exit_final (telemetry : CanFrame → CanFrame) (store : RecoveryNamespace)
    (marker : RecoveryMarker) (porUnrecoverable : Bool) (labels : List ExitStep)
    (along : Run.Along (step telemetry) permitted { store, marker, porUnrecoverable } labels) :
    let exit := Run.after (step telemetry) { store, marker, porUnrecoverable } labels
    (exit.restarts = true → exit.Cleared ∧ ∀ nowUs,
      (EntryBoot.start exit.marker (latchState exit.store {}) false nowUs).recoveryOnly = false) ∧
    ∀ label, ¬ exit.permitted label →
      ∃ frame, (Run.after (step telemetry) exit [label, frame]).restarts = true ∧
        ¬ (Run.after (step telemetry) exit [label, frame]).Cleared := by
  have initially : Sound { store, marker, porUnrecoverable } := ⟨nofun, nofun⟩
  have sound := Run.invariant_after (step_sound telemetry) initially along
  refine ⟨fun restarts => ?_, fun label refused => ?_⟩
  · have cleared := sound.restarted restarts
    refine ⟨cleared, fun nowUs => ?_⟩
    rw [cleared.2, latchState_of_latched cleared.1]
    rfl
  · exact ⟨.write (wakeReady _) {} true, @exits_latched telemetry _ sound _ refused⟩

/-- An exit request with transaction 9 -/
def exitRequest : CanFrame :=
  { identifier := 0x008, dataLength := 8, data := #v[4, 9, 0, 0, 0, 0, 0, 0] }

/-- A `RecoveryModeCommand` -/
def enterBeacon : CanFrame :=
  { identifier := 0x014, dataLength := 3, data := #v[0, 1, 2, 0, 0, 0, 0, 0] }

/-- The answer to an exit request is transmitted at the first attempt. -/
def exitsAtOnce : List ExitStep :=
  [.write enterBeacon {} true, .read exitRequest, .write (wakeReady 9) {} true]

theorem exit_final_exitsAtOnce :
    let exit := Run.after (step id) ⟨.present (some 1), makeRecoveryMarker 3 7, false, 0, false,
      false, [], false⟩ exitsAtOnce
    exit.restarts = true ∧ exit.Cleared :=
  ⟨by decide +kernel, ((exit_final id (.present (some 1)) (makeRecoveryMarker 3 7) false exitsAtOnce
    ⟨nofun, trivial, nofun, trivial⟩).1 (by decide +kernel)).1⟩

/-- The first write of the answer fails, a `RecoveryModeCommand` is written, and the answer
again. -/
def exitsInTwo : List ExitStep :=
  [.read exitRequest, .write (wakeReady 9) {} false, .write enterBeacon {} true,
    .write (wakeReady 9) {} true]

/-- The board restarts with the latch set. -/
theorem exit_of_exitsInTwo_latched :
    let exit := Run.after (step id) ⟨.present (some 1), makeRecoveryMarker 3 7, false, 0, false,
      false, [], false⟩ exitsInTwo
    exit.restarts = true ∧ exit.bus.getLast? = some (exitStatus (wakeReady 9) 2) ∧
      latchState exit.store {} = .active ∧ ¬ exit.Cleared := by
  have latched : (Run.after (step id) ⟨.present (some 1), makeRecoveryMarker 3 7, false, 0, false,
      false, [], false⟩ exitsInTwo).store.latched = some 1 := by decide +kernel
  refine ⟨by decide +kernel, by decide +kernel, by decide +kernel, fun cleared => ?_⟩
  rw [Cleared, latched] at cleared
  exact absurd cleared.1 (by decide)

end RecoveryExit

end MissionBoard.Runtime
