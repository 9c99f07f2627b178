import MissionBoard.Library.Run
import MissionBoard.Protocol.CanMessages

/-!
Owns the log dump of recovery mode as `internalFlashTask` and `sdLogTask` both run it:
the cursor, the handling of a `RecoveryControl`, and the step that reads up to six bytes
and offers them to `recovery_log_data_queue`.

The two tasks have the same code over their own log; what they read it from is the
parameter `LogSource`. In recovery-only mode no task appends to a log, so it is fixed.
-/

namespace MissionBoard.Runtime

open Protocol

/-- What a dump reads: the source it names itself by, and the bytes of its log. -/
structure LogSource where
  source : RecoverySource
  log : List UInt8
  bounded : log.length < 2 ^ 32

/-- `RecoveryDumpCursor` -/
structure RecoveryDumpCursor where
  active : Bool
  control : RecoveryControl
  nextOffset : UInt32
  remaining : UInt32
  sequence : UInt8
deriving DecidableEq

/-- `RecoveryDumpCursor{}`: the control is unset until a dump starts. -/
def RecoveryDumpCursor.idle : RecoveryDumpCursor :=
  ⟨false, ⟨.wake, .internalFlash, 0, 0, 0⟩, 0, 0, 0⟩

namespace LogSource

/-- `size` -/
def size (source : LogSource) : UInt32 := UInt32.ofNat source.log.length

/-- `read` of either log, when the storage answers -/
def read (source : LogSource) (offset : UInt32) (requested : ℕ) : List UInt8 :=
  if source.size ≤ offset ∨ requested = 0 then []
  else (source.log.drop offset.toNat).take (min requested (source.size.toNat - offset.toNat))

/-- The answer to a `RecoveryControl` in recovery-only mode, and the cursor after it -/
def answer (source : LogSource) (ready : Bool) (cursor : RecoveryDumpCursor)
    (control : RecoveryControl) : RecoveryStatusCode × RecoveryDumpCursor :=
  match control.opcode with
  | .wake => (.ready, cursor)
  | .startLogDump =>
      if !ready then (.sourceUnavailable, cursor)
      else if cursor.active then (.busy, cursor)
      else if control.offset > source.size then (.invalidArgument, cursor)
      else
        let available := source.size - control.offset
        let requested := if control.length = 0 then available else min control.length available
        (if requested = 0 then .complete else .dumping,
          ⟨requested ≠ 0, control, control.offset, requested, 0⟩)
  | .stopLogDump =>
      if cursor.active && cursor.control.transferId = control.transferId then
        (.aborted, { cursor with active := false })
      else (.invalidState, cursor)

/-- What one iteration reads for an active dump -/
def chunk (source : LogSource) (cursor : RecoveryDumpCursor) : List UInt8 :=
  source.read cursor.nextOffset (min 6 cursor.remaining.toNat)

/-- The frame that one iteration offers: the bytes read, the rest of the data zero -/
def frame (source : LogSource) (cursor : RecoveryDumpCursor) : RecoveryLogData :=
  { transferId := cursor.control.transferId
    sequence := cursor.sequence
    data := Vector.ofFn fun index => (source.chunk cursor).getD index 0 }

/-- The cursor once the frame is in the queue -/
def advance (source : LogSource) (cursor : RecoveryDumpCursor) : RecoveryDumpCursor :=
  let readSize := UInt32.ofNat (source.chunk cursor).length
  { cursor with
    nextOffset := cursor.nextOffset + readSize
    remaining := cursor.remaining - readSize
    sequence := cursor.sequence + 1 }

/-- What becomes of the frame of one iteration -/
inductive Offer where
  /-- The read failed or gave nothing. -/
  | failed
  /-- The queue had no room. -/
  | refused
  | taken
deriving DecidableEq

/-- How the dump block of one iteration goes, given whether the storage answers and
whether the queue has room -/
def offer (source : LogSource) (cursor : RecoveryDumpCursor) (answers room : Bool) : Offer :=
  if !answers || (source.chunk cursor).isEmpty then .failed
  else if room then .taken else .refused

/-- The cursor after the dump block of one iteration -/
def dump (source : LogSource) (cursor : RecoveryDumpCursor) (answers room : Bool) :
    RecoveryDumpCursor :=
  if cursor.active then
    match source.offer cursor answers room with
    | .failed => { cursor with active := false }
    | .refused => cursor
    | .taken =>
        let cursor := source.advance cursor
        if cursor.remaining = 0 then { cursor with active := false } else cursor
  else cursor

end LogSource

/-! ### Histories of dumps -/

/-- How a dump came to its end -/
inductive DumpEnd where
  | completed
  | stopped (control : RecoveryControl)
  | readFailed
deriving DecidableEq

/-- An accepted dump: the frames it offered to the queue, each with whether it was taken,
and how it ended, if it has. -/
structure Transfer where
  control : RecoveryControl
  offered : List (RecoveryLogData × Bool) := []
  ending : Option DumpEnd := none
deriving DecidableEq

/-- A frame has been offered to the queue. -/
def Transfer.offer (transfer : Transfer) (frame : RecoveryLogData) (taken : Bool) : Transfer :=
  { transfer with offered := transfer.offered ++ [(frame, taken)] }

/-- The frames of the transfer that were put in the queue -/
def Transfer.frames (transfer : Transfer) : List RecoveryLogData :=
  (transfer.offered.filter (·.2)).map (·.1)

/-- One task with the history of its dumps, the newest first -/
structure DumpHistory where
  cursor : RecoveryDumpCursor := .idle
  transfers : List Transfer := []
deriving DecidableEq

/-- One step of a task: a control taken from its queue, or the dump block -/
inductive DumpStep where
  | control (request : RecoveryControl) (ready : Bool)
  | dump (answers room : Bool)
deriving DecidableEq

/-- The bytes that an accepted request asks for: from its offset, all of them or as many
as its length when that is not zero -/
def Transfer.wanted (source : LogSource) (transfer : Transfer) : List UInt8 :=
  let available := source.log.drop transfer.control.offset.toNat
  if transfer.control.length = 0 then available
  else available.take transfer.control.length.toNat

/-- The frame at a position of a transfer: the next six wanted bytes, then zeros -/
def Transfer.frameAt (source : LogSource) (transfer : Transfer) (position : ℕ) :
    RecoveryLogData :=
  { transferId := transfer.control.transferId
    sequence := UInt8.ofNat position
    data := Vector.ofFn fun index =>
      (transfer.wanted source).getD (6 * position + index.val) 0 }

namespace DumpHistory

/-- A start that is answered with dumping or complete begins a transfer; a control after
which the dump is over has stopped it. -/
def control (source : LogSource) (history : DumpHistory) (request : RecoveryControl)
    (ready : Bool) : DumpHistory :=
  let (status, cursor) := source.answer ready history.cursor request
  { cursor
    transfers :=
      match status with
      | .dumping => { control := request } :: history.transfers
      | .complete => { control := request, ending := some .completed } :: history.transfers
      | _ =>
          if history.cursor.active && !cursor.active then
            history.transfers.modifyHead fun newest =>
              { newest with ending := some (.stopped request) }
          else history.transfers }

/-- The dump block offers a frame of the active dump and may end it. -/
def dump (source : LogSource) (history : DumpHistory) (answers room : Bool) : DumpHistory :=
  if history.cursor.active then
    let cursor := source.dump history.cursor answers room
    let frame := source.frame history.cursor
    { cursor
      transfers := history.transfers.modifyHead fun newest =>
        let newest :=
          match source.offer history.cursor answers room with
          | .failed => newest
          | .refused => newest.offer frame false
          | .taken => newest.offer frame true
        { newest with
          ending :=
            if cursor.active then none
            else some (if answers then .completed else .readFailed) } }
  else history

/-- One step of the task -/
def step (source : LogSource) (history : DumpHistory) : DumpStep → DumpHistory
  | .control request ready => history.control source request ready
  | .dump answers room => history.dump source answers room

end DumpHistory

/-! ### What a dump reads -/

namespace Transfer

variable (transfer : Transfer) (source : LogSource) (frame : RecoveryLogData)

@[simp] theorem frames_offer_taken :
    (transfer.offer frame true).frames = transfer.frames ++ [frame] := by
  simp [frames, offer]

@[simp] theorem frames_offer_refused : (transfer.offer frame false).frames = transfer.frames := by
  simp [frames, offer]

/-- Every frame offered to the queue is the one at the position that the frames taken
before it leave next. -/
def OffersNext : Prop :=
  Trace.Throughout (fun before entry =>
    entry.1 = transfer.frameAt source ((before.filter (·.2)).map (·.1)).length) transfer.offered

/-- What the end of a transfer says about it -/
def EndsWell : Prop :=
  match transfer.ending with
  | none => True
  | some .completed => (transfer.wanted source).length ≤ 6 * transfer.frames.length
  | some (.stopped request) =>
      request.opcode = .stopLogDump ∧ request.transferId = transfer.control.transferId
  | some .readFailed => True

/-- A transfer in order: it starts inside the log, offers its frames in turn, sends none
beyond the wanted bytes, and ends well. -/
structure InOrder : Prop where
  within : transfer.control.offset.toNat ≤ source.log.length
  offersNext : transfer.OffersNext source
  needed : 6 * transfer.frames.length < (transfer.wanted source).length + 6
  endsWell : transfer.EndsWell source

end Transfer

theorem LogSource.toNat_size (source : LogSource) : source.size.toNat = source.log.length := by
  unfold size
  rw [UInt32.toNat_ofNat']
  exact Nat.mod_eq_of_lt source.bounded

/-- A cursor in step with its transfer after some frames -/
structure InStep (source : LogSource) (cursor : RecoveryDumpCursor) (transfer : Transfer) :
    Prop where
  control : cursor.control = transfer.control
  within : transfer.control.offset.toNat + (transfer.wanted source).length ≤ source.log.length
  offset : cursor.nextOffset.toNat = transfer.control.offset.toNat + 6 * transfer.frames.length
  remaining : cursor.remaining.toNat + 6 * transfer.frames.length = (transfer.wanted source).length
  unfinished : 6 * transfer.frames.length < (transfer.wanted source).length
  sequence : cursor.sequence = UInt8.ofNat transfer.frames.length

namespace InStep

variable {source : LogSource} {cursor : RecoveryDumpCursor} {transfer : Transfer}

/-- The wanted bytes are a slice of the log. -/
theorem wanted_eq (transfer : Transfer) (source : LogSource) :
    transfer.wanted source =
      (source.log.drop transfer.control.offset.toNat).take (transfer.wanted source).length := by
  unfold Transfer.wanted
  dsimp only
  split
  · rw [List.take_length]
  · rw [List.length_take, ← List.take_take, List.take_length]

/-- One iteration reads the next six wanted bytes, or as many as are left. -/
theorem chunk_eq (inStep : InStep source cursor transfer) :
    source.chunk cursor =
      ((transfer.wanted source).drop (6 * transfer.frames.length)).take 6 := by
  obtain ⟨-, within, offset, remaining, unfinished, -⟩ := inStep
  have size := source.toNat_size
  have inside : ¬ (source.size ≤ cursor.nextOffset ∨ min 6 cursor.remaining.toNat = 0) := by
    rw [UInt32.le_iff_toNat_le]
    omega
  have amount : min (min 6 cursor.remaining.toNat) (source.size.toNat - cursor.nextOffset.toNat) =
      min 6 ((transfer.wanted source).length - 6 * transfer.frames.length) := by omega
  have slice := wanted_eq transfer source
  unfold LogSource.chunk LogSource.read
  rw [if_neg inside, amount]
  generalize (transfer.wanted source).length = length at slice
  rw [slice, List.drop_take, List.drop_drop, List.take_take, offset]

theorem length_chunk (inStep : InStep source cursor transfer) :
    (source.chunk cursor).length =
      min 6 ((transfer.wanted source).length - 6 * transfer.frames.length) := by
  rw [inStep.chunk_eq, List.length_take, List.length_drop]

/-- The frame that an iteration offers is the next one of the transfer. -/
theorem frame_eq (inStep : InStep source cursor transfer) :
    source.frame cursor = transfer.frameAt source transfer.frames.length := by
  have chunk := inStep.chunk_eq
  unfold LogSource.frame Transfer.frameAt
  rw [inStep.control, inStep.sequence, chunk]
  congr 2
  funext index
  rw [List.getD_eq_getElem?_getD, List.getD_eq_getElem?_getD,
    List.getElem?_take_of_lt index.isLt, List.getElem?_drop]

/-- A frame that was refused leaves the cursor in step. -/
theorem refused (inStep : InStep source cursor transfer) (frame : RecoveryLogData)
    (ending : Option DumpEnd) :
    InStep source cursor { transfer.offer frame false with ending } := by
  have frames : ({ transfer.offer frame false with ending } : Transfer).frames = transfer.frames :=
    transfer.frames_offer_refused frame
  obtain ⟨control, within, offset, remaining, unfinished, sequence⟩ := inStep
  constructor
  all_goals (try rw [frames]); assumption

/-- A frame that was taken moves the cursor on by the bytes read. -/
theorem advanced (inStep : InStep source cursor transfer) :
    (source.advance cursor).nextOffset.toNat = transfer.control.offset.toNat +
        6 * transfer.frames.length + (source.chunk cursor).length ∧
      (source.advance cursor).remaining.toNat + 6 * transfer.frames.length +
        (source.chunk cursor).length = (transfer.wanted source).length ∧
      (source.advance cursor).sequence = UInt8.ofNat (transfer.frames.length + 1) := by
  have length := inStep.length_chunk
  have bound := source.bounded
  obtain ⟨control, within, offset, remaining, unfinished, sequence⟩ := inStep
  have amount :
      (UInt32.ofNat (source.chunk cursor).length).toNat = (source.chunk cursor).length := by
    rw [UInt32.toNat_ofNat']
    omega
  refine ⟨?_, ?_, ?_⟩
  · show (cursor.nextOffset + UInt32.ofNat (source.chunk cursor).length).toNat = _
    rw [UInt32.toNat_add, amount]
    omega
  · show (cursor.remaining - UInt32.ofNat (source.chunk cursor).length).toNat + _ + _ = _
    rw [UInt32.toNat_sub_of_le _ _ (by rw [UInt32.le_iff_toNat_le]; omega), amount]
    omega
  · show cursor.sequence + 1 = _
    rw [sequence, UInt8.ofNat_add]
    rfl

/-- When nothing remains after a taken frame, every wanted byte has been taken. -/
theorem all_taken (inStep : InStep source cursor transfer)
    (last : (source.advance cursor).remaining = 0) (frame : RecoveryLogData)
    (ending : Option DumpEnd) :
    (transfer.wanted source).length ≤
      6 * ({ transfer.offer frame true with ending } : Transfer).frames.length := by
  have frames : ({ transfer.offer frame true with ending } : Transfer).frames =
      transfer.frames ++ [frame] := transfer.frames_offer_taken frame
  have length := inStep.length_chunk
  obtain ⟨-, remaining, -⟩ := inStep.advanced
  rw [last] at remaining
  rw [frames, List.length_append, List.length_singleton]
  simp only [UInt32.toNat_zero] at remaining
  omega

/-- While bytes remain after a taken frame the cursor is in step with the transfer. -/
theorem taken (inStep : InStep source cursor transfer)
    (more : (source.advance cursor).remaining ≠ 0) (ending : Option DumpEnd) :
    InStep source (source.advance cursor)
      { transfer.offer (source.frame cursor) true with ending } := by
  have frames : ({ transfer.offer (source.frame cursor) true with ending } : Transfer).frames =
      transfer.frames ++ [source.frame cursor] := transfer.frames_offer_taken _
  have length := inStep.length_chunk
  obtain ⟨offset, remaining, sequence⟩ := inStep.advanced
  have left : (source.advance cursor).remaining.toNat ≠ 0 := by
    intro none
    exact more (UInt32.toNat_inj.mp none)
  have wanted : ({ transfer.offer (source.frame cursor) true with ending } : Transfer).wanted
      source = transfer.wanted source := rfl
  refine ⟨inStep.control, inStep.within, ?_, ?_, ?_, ?_⟩
  all_goals rw [frames, List.length_append, List.length_singleton]
  · show _ = transfer.control.offset.toNat + _
    omega
  · rw [wanted]
    omega
  · rw [wanted]
    omega
  · exact sequence

/-- What becomes of a frame is decided by the storage and the queue alone. -/
theorem offer_eq (inStep : InStep source cursor transfer) (answers room : Bool) :
    source.offer cursor answers room =
      if answers then (if room then .taken else .refused) else .failed := by
  have length := inStep.length_chunk
  have unfinished := inStep.unfinished
  have something : (source.chunk cursor).isEmpty = false := by
    rw [List.isEmpty_eq_false_iff, ← List.length_pos_iff]
    omega
  unfold LogSource.offer
  cases answers <;> cases room <;> simp [something]

end InStep

namespace Transfer

variable {transfer : Transfer} {source : LogSource}

/-- Ending a transfer leaves the rest of it alone. -/
theorem InOrder.ending (inOrder : transfer.InOrder source) {ending : Option DumpEnd}
    (endsWell : EndsWell { transfer with ending } source) :
    InOrder { transfer with ending } source :=
  ⟨inOrder.within, inOrder.offersNext, inOrder.needed, endsWell⟩

/-- Offering the next frame keeps a transfer in order while bytes are wanted. -/
theorem InOrder.offer (inOrder : transfer.InOrder source) (unended : transfer.ending = none)
    (unfinished : 6 * transfer.frames.length < (transfer.wanted source).length) (taken : Bool) :
    (transfer.offer (transfer.frameAt source transfer.frames.length) taken).InOrder source := by
  refine ⟨inOrder.within, Trace.throughout_concat inOrder.offersNext rfl, ?_, ?_⟩
  · show 6 * _ < (transfer.wanted source).length + 6
    have needed := inOrder.needed
    cases taken
    · rw [frames_offer_refused]
      exact needed
    · rw [frames_offer_taken, List.length_append, List.length_singleton]
      omega
  · unfold EndsWell
    rw [show (transfer.offer _ taken).ending = none from unended]
    trivial

end Transfer

/-! ### Whole histories -/

namespace DumpHistory

/-- The newest transfer is in step with an active cursor, every other one has ended, and
all are in order. -/
structure Sound (source : LogSource) (history : DumpHistory) : Prop where
  opened : history.cursor.active = true → ∃ newest earlier,
    history.transfers = newest :: earlier ∧ InStep source history.cursor newest ∧
      newest.ending = none
  closed : history.cursor.active = false → ∀ transfer ∈ history.transfers, transfer.ending ≠ none
  earlier : ∀ transfer ∈ history.transfers.tail, transfer.ending ≠ none
  inOrder : ∀ transfer ∈ history.transfers, transfer.InOrder source

/-- A newest transfer in order is put before transfers that have ended. -/
private theorem sound_cons {source : LogSource} {cursor : RecoveryDumpCursor}
    {newest : Transfer} {earlier : List Transfer} (inOrder : newest.InOrder source)
    (ended : ∀ transfer ∈ earlier, transfer.ending ≠ none)
    (ordered : ∀ transfer ∈ earlier, transfer.InOrder source)
    (opened : cursor.active = true → InStep source cursor newest ∧ newest.ending = none)
    (closed : cursor.active = false → newest.ending ≠ none) :
    Sound source { cursor, transfers := newest :: earlier } := by
  refine ⟨fun active => ⟨newest, earlier, rfl, opened active⟩, ?_, ended, ?_⟩
  · intro inactive transfer within
    rcases List.mem_cons.mp within with rfl | old
    · exact closed inactive
    · exact ended transfer old
  · intro transfer within
    rcases List.mem_cons.mp within with rfl | old
    · exact inOrder
    · exact ordered transfer old

theorem dump_sound {source : LogSource} {history : DumpHistory} (sound : history.Sound source)
    (answers room : Bool) : (history.dump source answers room).Sound source := by
  unfold dump
  by_cases active : history.cursor.active = true
  · rw [if_pos active]
    obtain ⟨newest, earlier, transfers, inStep, unended⟩ := sound.opened active
    have ended : ∀ transfer ∈ earlier, transfer.ending ≠ none := by
      have others := sound.earlier
      rwa [transfers] at others
    have all := sound.inOrder
    rw [transfers] at all
    have ordered : ∀ transfer ∈ earlier, transfer.InOrder source :=
      fun transfer within => all transfer (List.mem_cons_of_mem _ within)
    have inOrder : newest.InOrder source := all newest List.mem_cons_self
    have next := inOrder.offer unended inStep.unfinished
    rw [← inStep.frame_eq] at next
    have offer := inStep.offer_eq answers room
    cases answers with
    | false =>
        have cursor : source.dump history.cursor false room =
            { history.cursor with active := false } := by
          unfold LogSource.dump
          rw [if_pos active, offer]
          rfl
        rw [cursor, offer, transfers]
        exact sound_cons (inOrder.ending trivial) ended ordered nofun nofun
    | true =>
        cases room with
        | false =>
            have cursor : source.dump history.cursor true false = history.cursor := by
              unfold LogSource.dump
              rw [if_pos active, offer]
              rfl
            rw [cursor, offer, transfers]
            simp only [active, if_true]
            refine sound_cons ((next false).ending trivial) ended ordered
              (fun _ => ⟨inStep.refused _ _, rfl⟩) (fun inactive => ?_)
            exact absurd active (by rw [inactive]; decide)
        | true =>
            have cursor : source.dump history.cursor true true =
                if (source.advance history.cursor).remaining = 0 then
                  { source.advance history.cursor with active := false }
                else source.advance history.cursor := by
              unfold LogSource.dump
              rw [if_pos active, offer]
              rfl
            rw [cursor, offer, transfers]
            by_cases last : (source.advance history.cursor).remaining = 0
            · rw [if_pos last]
              refine sound_cons ((next true).ending ?_) ended ordered nofun nofun
              exact inStep.all_taken last _ _
            · rw [if_neg last]
              have running : (source.advance history.cursor).active = true := active
              simp only [running, if_true]
              refine sound_cons ((next true).ending trivial) ended ordered
                (fun _ => ⟨inStep.taken last _, rfl⟩) (fun inactive => ?_)
              exact absurd running (by rw [inactive]; decide)
  · rw [if_neg active]
    exact sound

/-- An accepted start asks for as many bytes as its request wants of the log. -/
theorem toNat_requested {source : LogSource} {request : RecoveryControl}
    (within : ¬ request.offset > source.size) (transfer : Transfer)
    (control : transfer.control = request) :
    (if request.length = 0 then source.size - request.offset
      else min request.length (source.size - request.offset)).toNat =
        (transfer.wanted source).length := by
  have size := source.toNat_size
  have below : request.offset ≤ source.size := UInt32.not_lt.mp within
  have available : (source.size - request.offset).toNat =
      (source.log.drop request.offset.toNat).length := by
    rw [UInt32.toNat_sub_of_le _ _ below, List.length_drop, size]
  unfold Transfer.wanted
  rw [control]
  dsimp only
  split
  · exact available
  · have least : (min request.length (source.size - request.offset)).toNat =
        min request.length.toNat (source.size - request.offset).toNat := by
      have smaller : min request.length (source.size - request.offset) =
          if request.length ≤ source.size - request.offset then request.length
          else source.size - request.offset := rfl
      rw [smaller]
      split
      · rename_i less
        exact (Nat.min_eq_left (UInt32.le_iff_toNat_le.mp less)).symm
      · rename_i more
        rw [UInt32.le_iff_toNat_le] at more
        omega
    rw [List.length_take, ← available, least]

/-- What a control does to the history: it begins a transfer that is complete at once or
under way, stops the transfer under way, or changes nothing. -/
theorem control_cases (source : LogSource) (history : DumpHistory) (request : RecoveryControl)
    (ready : Bool) :
    (request.opcode = .startLogDump ∧ history.cursor.active = false ∧
      ∃ cursor ending, history.control source request ready =
          { cursor, transfers := { control := request, ending } :: history.transfers } ∧
        request.offset ≤ source.size ∧
        cursor = ⟨cursor.remaining ≠ 0, request, request.offset, cursor.remaining, 0⟩ ∧
        cursor.remaining.toNat = (Transfer.wanted source { control := request }).length ∧
        ending = if cursor.remaining = 0 then some .completed else none) ∨
    (request.opcode = .stopLogDump ∧ history.cursor.active = true ∧
      history.cursor.control.transferId = request.transferId ∧
      history.control source request ready =
        { cursor := { history.cursor with active := false }
          transfers := history.transfers.modifyHead fun newest =>
            { newest with ending := some (.stopped request) } }) ∨
    history.control source request ready = history := by
  unfold control LogSource.answer
  cases opcode : request.opcode with
  | wake =>
      right; right
      cases active : history.cursor.active <;> simp [active]
  | startLogDump =>
      by_cases available : ready = true
      · cases active : history.cursor.active with
        | true =>
            right; right
            simp [available, active]
        | false =>
            by_cases outside : request.offset > source.size
            · right; right
              simp [available, active, outside]
            · left
              have wanted := toNat_requested outside { control := request } rfl
              have below : request.offset ≤ source.size := UInt32.not_lt.mp outside
              dsimp only
              rw [available, if_neg (by decide), if_neg (by simp), if_neg outside]
              generalize (if request.length = 0 then source.size - request.offset
                else min request.length (source.size - request.offset)) = requested at wanted
              refine ⟨rfl, rfl, ⟨requested ≠ 0, request, request.offset, requested, 0⟩,
                if requested = 0 then some .completed else none, ?_, below, rfl, wanted, rfl⟩
              by_cases nothing : requested = 0
              · simp only [nothing, if_true]
              · simp only [nothing, if_false]
      · right; right
        cases active : history.cursor.active <;> simp [available, active]
  | stopLogDump =>
      by_cases stops : (history.cursor.active &&
          history.cursor.control.transferId = request.transferId) = true
      · right; left
        have both := stops
        rw [Bool.and_eq_true, decide_eq_true_eq] at both
        dsimp only
        rw [if_pos stops]
        refine ⟨rfl, both.1, both.2, ?_⟩
        simp [both.1]
      · right; right
        dsimp only
        rw [if_neg stops]
        cases history.cursor.active <;> simp

theorem control_sound {source : LogSource} {history : DumpHistory} (sound : history.Sound source)
    (request : RecoveryControl) (ready : Bool) :
    (history.control source request ready).Sound source := by
  rcases history.control_cases source request ready with
    ⟨-, inactive, cursor, ending, began, within, fields, remaining, ends⟩ |
      ⟨opcode, active, same, stopped⟩ | unchanged
  · have size := source.toNat_size
    have length : (Transfer.wanted source { control := request, ending }).length =
        cursor.remaining.toNat := remaining.symm
    have ended : ∀ transfer ∈ history.transfers, transfer.ending ≠ none := sound.closed inactive
    rw [began]
    refine sound_cons ⟨?_, Trace.throughout_nil _, ?_, ?_⟩ ended sound.inOrder ?_ ?_
    · rw [← size]
      exact UInt32.le_iff_toNat_le.mp within
    · exact Nat.lt_add_left _ (by decide : 6 * 0 < 6)
    · unfold Transfer.EndsWell
      rw [ends]
      by_cases nothing : cursor.remaining = 0
      · rw [if_pos nothing]
        show (Transfer.wanted source { control := request, ending }).length ≤ 0
        rw [length, nothing]
        exact le_rfl
      · rw [if_neg nothing]
        trivial
    · intro active
      rw [fields] at active
      have something : cursor.remaining ≠ 0 := of_decide_eq_true active
      have positive : cursor.remaining.toNat ≠ 0 := fun none =>
        something (UInt32.toNat_inj.mp none)
      refine ⟨?_, by rw [ends, if_neg something]⟩
      have whole : request.offset.toNat +
          (Transfer.wanted source { control := request, ending }).length ≤ source.log.length := by
        have below := UInt32.le_iff_toNat_le.mp within
        have slice := InStep.wanted_eq { control := request, ending } source
        have fits := congrArg List.length slice
        rw [List.length_take, List.length_drop] at fits
        dsimp only at fits
        omega
      rw [fields]
      refine ⟨rfl, whole, rfl, ?_, ?_, rfl⟩
      · exact remaining
      · show 6 * 0 < (Transfer.wanted source { control := request, ending }).length
        omega
    · intro inactive
      rw [fields] at inactive
      have nothing : cursor.remaining = 0 := by simpa using inactive
      rw [ends, if_pos nothing]
      nofun
  · obtain ⟨newest, earlier, transfers, inStep, unended⟩ := sound.opened active
    have ended : ∀ transfer ∈ earlier, transfer.ending ≠ none := by
      have others := sound.earlier
      rwa [transfers] at others
    have all := sound.inOrder
    rw [transfers] at all
    rw [stopped, transfers]
    refine sound_cons ((all newest List.mem_cons_self).ending ⟨opcode, ?_⟩) ended
      (fun transfer within => all transfer (List.mem_cons_of_mem _ within)) nofun nofun
    rw [← same, inStep.control]
  · rw [unchanged]
    exact sound

theorem Sound.step {source : LogSource} {history : DumpHistory} (sound : history.Sound source)
    (label : DumpStep) : (history.step source label).Sound source := by
  cases label with
  | control request ready => exact control_sound sound request ready
  | dump answers room => exact dump_sound sound answers room

theorem initial_sound (source : LogSource) : Sound source {} := ⟨nofun, nofun, nofun, nofun⟩

/-- A start is refused while a dump is active. -/
theorem control_start_of_active (source : LogSource) {history : DumpHistory}
    (active : history.cursor.active = true) {request : RecoveryControl}
    (starts : request.opcode = .startLogDump) (ready : Bool) :
    history.control source request ready = history := by
  rcases history.control_cases source request ready with
    ⟨-, inactive, -⟩ | ⟨stops, -⟩ | unchanged
  · exact absurd active (by rw [inactive]; decide)
  · rw [starts] at stops
    cases stops
  · exact unchanged

end DumpHistory

/-! ### What a transfer carries -/

namespace Transfer

variable {source : LogSource} {transfer : Transfer}

/-- The frames taken are the first frames of the transfer, in order. -/
theorem OffersNext.frames_eq (offersNext : transfer.OffersNext source) :
    transfer.frames = (List.range transfer.frames.length).map (transfer.frameAt source) := by
  unfold OffersNext at offersNext
  unfold frames
  generalize transfer.offered = offered at offersNext
  induction offered using List.reverseRecOn with
  | nil => rfl
  | append_singleton before entry inductionHypothesis =>
      obtain ⟨earlier, next⟩ := Trace.throughout_concat_iff.mp offersNext
      obtain ⟨frame, taken⟩ := entry
      have known := inductionHypothesis earlier
      rw [List.filter_append, List.map_append]
      cases taken with
      | false => simpa using known
      | true =>
          have mine : frame = transfer.frameAt source
            ((before.filter (·.2)).map (·.1)).length := next
          rw [show ([(frame, true)].filter (·.2)).map (·.1) = [frame] from rfl, List.length_append,
            List.length_singleton, List.range_succ, List.map_append, ← known, List.map_singleton,
            ← mine]

/-- A frame that was refused is offered again before any other. -/
theorem OffersNext.resent (offersNext : transfer.OffersNext source) {before after}
    {frame again : RecoveryLogData} {taken : Bool}
    (offered : transfer.offered = before ++ (frame, false) :: (again, taken) :: after) :
    again = frame := by
  have first := offersNext before (frame, false) ((again, taken) :: after) offered
  have second := offersNext (before ++ [(frame, false)]) (again, taken) after (by simp [offered])
  simp only [List.filter_append, List.map_append, List.length_append] at second
  exact second.trans first.symm

/-- The data of the first frames is the wanted bytes, then zeros. -/
private theorem flatMap_frameAt (source : LogSource) (transfer : Transfer) (count : ℕ) :
    ((List.range count).map (transfer.frameAt source)).flatMap (fun frame => frame.data.toList) =
      (List.range (6 * count)).map fun position => (transfer.wanted source).getD position 0 := by
  induction count with
  | zero => rfl
  | succ count inductionHypothesis =>
      have last : (transfer.frameAt source count).data.toList = (List.range 6).map fun index =>
          (transfer.wanted source).getD (6 * count + index) 0 := by
        unfold frameAt
        rw [Vector.toList_ofFn, List.ofFn_eq_map]
        rfl
      rw [List.range_succ, List.map_append, List.flatMap_append, inductionHypothesis, Nat.mul_succ,
        List.range_add, List.map_append, List.map_map, List.map_singleton, List.flatMap_singleton,
        last]
      rfl

/-- The bytes in the frames, cut where the wanted bytes end, are the first wanted bytes. -/
theorem OffersNext.bytes_eq (offersNext : transfer.OffersNext source) :
    (transfer.frames.flatMap fun frame => frame.data.toList).take
        (transfer.wanted source).length =
      (transfer.wanted source).take (6 * transfer.frames.length) := by
  rw [offersNext.frames_eq, flatMap_frameAt, List.length_map, List.length_range]
  generalize transfer.wanted source = wanted
  apply List.ext_getElem?
  intro position
  rw [List.getElem?_take, List.getElem?_take, List.getElem?_map]
  by_cases early : position < 6 * transfer.frames.length
  · by_cases within : position < wanted.length
    · simp [early, within]
    · simp [early, within]
  · simp [early]

/-- A transfer carries its log bytes exactly: the frames put in the queue are numbered from
zero modulo 256 and hold the wanted bytes in order, six in each but the last, none twice;
a frame that did not fit is offered again unchanged; and the transfer ends by completion
after the last byte, by a stop with its transfer id, or by a failed read. -/
structure Exact (source : LogSource) (transfer : Transfer) : Prop where
  within : transfer.control.offset.toNat ≤ source.log.length
  frames : transfer.frames = (List.range transfer.frames.length).map (transfer.frameAt source)
  bytes : (transfer.frames.flatMap fun frame => frame.data.toList).take
      (transfer.wanted source).length =
    (transfer.wanted source).take (6 * transfer.frames.length)
  needed : 6 * transfer.frames.length < (transfer.wanted source).length + 6
  resent : ∀ before frame again taken after,
    transfer.offered = before ++ (frame, false) :: (again, taken) :: after → again = frame
  endsWell : transfer.EndsWell source

theorem InOrder.exact (inOrder : transfer.InOrder source) : transfer.Exact source :=
  ⟨inOrder.within, inOrder.offersNext.frames_eq, inOrder.offersNext.bytes_eq, inOrder.needed,
    fun _ _ _ _ _ offered => inOrder.offersNext.resent offered, inOrder.endsWell⟩

end Transfer

/-- **The recovery log dump is exact.** Over every log and every run of controls, readings
and full or free queues, every accepted dump is exact, one that has not ended is still
active, and while a dump is active a second start is refused and changes nothing. -/
theorem dump_exact (source : LogSource) (labels : List DumpStep) :
    let history := Run.after (DumpHistory.step source) {} labels
    (∀ transfer ∈ history.transfers, transfer.Exact source) ∧
    (∀ transfer ∈ history.transfers, transfer.ending = none → history.cursor.active = true) ∧
    (history.cursor.active = true → ∀ request ready, request.opcode = .startLogDump →
      source.answer ready history.cursor request =
          (if ready then .busy else .sourceUnavailable, history.cursor) ∧
        history.step source (.control request ready) = history) := by
  have preserved : ∀ (history : DumpHistory) (label : DumpStep), history.Sound source → True →
      (history.step source label).Sound source := fun _ label sound _ => sound.step label
  have sound := Run.invariant_after preserved (DumpHistory.initial_sound source)
    (Run.along_of_forall (fun _ _ => trivial) _ labels)
  refine ⟨fun transfer within => (sound.inOrder transfer within).exact, ?_, ?_⟩
  · intro transfer within unended
    by_contra inactive
    exact sound.closed (Bool.eq_false_iff.mpr inactive) transfer within unended
  · intro active request ready starts
    refine ⟨?_, DumpHistory.control_start_of_active source active starts ready⟩
    unfold LogSource.answer
    cases ready <;> simp [starts, active]

/-- Nine bytes of log, dumped from the third on, with a queue that is full once -/
def refusedOnce : List DumpStep :=
  [.control ⟨.startLogDump, .internalFlash, 5, 2, 0⟩ true, .dump true true, .dump true false,
    .dump true true]

theorem dump_exact_refusedOnce :
    let source : LogSource := ⟨.internalFlash, [1, 2, 3, 4, 5, 6, 7, 8, 9], by decide⟩
    let history := Run.after (DumpHistory.step source) {} refusedOnce
    history.transfers.map Transfer.frames =
        [[⟨5, 0, #v[3, 4, 5, 6, 7, 8]⟩, ⟨5, 1, #v[9, 0, 0, 0, 0, 0]⟩]] ∧
      history.cursor.active = false ∧ ∀ transfer ∈ history.transfers, transfer.Exact source :=
  ⟨by decide +kernel, by decide +kernel, (dump_exact _ refusedOnce).1⟩

end MissionBoard.Runtime
