import MissionBoard.Bringup.StreamPayload
import MissionBoard.Library.BoundedQueue
import MissionBoard.Library.Run

/-!
Owns `StreamProtocol` of `bringup/stream_protocol.cpp`: the frames of the bring-up stream, the command that
sends them through a queue without waiting, the task that writes them to the USB port, and the other text
that goes out there.

The steps of the command and of the task come in any order. The state begins after `initialize`; an item of
the queue is kept as the frame whose bytes it holds. `log`, `written`, `text` and `wire` tell what has
happened since `beginCapture`.
-/

namespace MissionBoard.Bringup

open LittleEndian
open Characterization (espOk espErrInvalidState)

/-! ### Frames -/

def kMagic0 : UInt8 := 0xA5
def kMagic1 : UInt8 := 0x5A
def kVersion : UInt8 := 1

/-- One bit of `crc16` -/
def crc16Bit (crc : UInt16) : UInt16 :=
  if crc &&& 0x8000 ≠ 0 then (crc <<< 1) ^^^ 0x1021 else crc <<< 1

/-- One byte of `crc16` -/
def crc16Byte (crc : UInt16) (byte : UInt8) : UInt16 :=
  crc16Bit^[8] (crc ^^^ (byte.toUInt16 <<< 8))

/-- `crc16` -/
def crc16 (bytes : List UInt8) : UInt16 := bytes.foldl crc16Byte 0xFFFF

example : crc16 [0x31, 0x32, 0x33, 0x34, 0x35, 0x36, 0x37, 0x38, 0x39] = 0x29B1 := by
  decide +kernel

/-- A frame, of which `send` makes the bytes -/
structure StreamFrame where
  type : StreamRecordType
  sequence : UInt32
  payload : StreamPayload

namespace StreamFrame

variable (frame : StreamFrame)

/-- The bytes that the checksum covers -/
def covered : List UInt8 :=
  [kVersion, frame.type.code, UInt8.ofNat frame.payload.bytes.length,
    UInt8.ofNat (frame.payload.bytes.length >>> 8)] ++ bytes32 frame.sequence ++ frame.payload.bytes

/-- The bytes of the item -/
def bytes : List UInt8 := [kMagic0, kMagic1] ++ frame.covered ++ bytes16 (crc16 frame.covered)

@[simp] theorem length_bytes : frame.bytes.length = frame.payload.bytes.length + 12 := by
  simp only [bytes, covered, bytes32, bytes16, List.length_append, List.length_cons, List.length_nil]
  omega

end StreamFrame

/-! ### The protocol -/

/-- `kQueueDepth` -/
def kQueueDepth : ℕ := 64

/-- `ESP_ERR_TIMEOUT` -/
def espErrTimeout : Int32 := 0x107

/-- `ESP_FAIL` -/
def espFail : Int32 := -1

/-- Where `writerLoop` stands -/
inductive Writer where
  /-- It waits for an item. -/
  | idle
  /-- It has written so many bytes of the item. -/
  | writing (frame : StreamFrame) (written : ℕ)
  /-- It has left the loop that writes, and the item still counts as outstanding. -/
  | done

namespace Writer

/-- The item that is being written -/
def frames : Writer → List StreamFrame
  | .writing frame _ => [frame]
  | _ => []

/-- The items that it has taken and not yet counted off -/
def count : Writer → ℕ
  | .idle => 0
  | _ => 1

/-- What has gone out of the item that is being written -/
def part : Writer → List UInt8
  | .writing frame written => frame.bytes.take written
  | _ => []

end Writer

structure StreamProtocol where
  queue : BoundedQueue StreamFrame kQueueDepth := .empty
  dropped : UInt32 := 0
  outputErrors : UInt32 := 0
  outstanding : UInt32 := 0
  sequence : UInt32 := 0
  active : Bool := false
  /-- The frame of a `send` that has counted it as outstanding and has not tried the queue -/
  sending : Option StreamFrame := none
  /-- `finish` is in its loop. -/
  finishing : Bool := false
  writer : Writer := .idle
  /-- What the last `finish` of this capture returned -/
  result : Option Int32 := none
  /-- The frames that were sent, and whether there was room for them -/
  log : List (StreamFrame × Bool) := []
  /-- The number of frames whose writing was broken off -/
  cut : ℕ := 0
  /-- The frames that went out whole, each after the text before it -/
  written : List (List UInt8 × StreamFrame) := []
  /-- What went out after them that belongs to no frame -/
  text : List UInt8 := []
  /-- The bytes that went out -/
  wire : List UInt8 := []

/-- A step of the command, of the task, or of another task that prints -/
inductive StreamCall where
  | beginCapture
  /-- `send`, until the frame is counted as outstanding -/
  | send (type : StreamRecordType) (payload : StreamPayload)
  /-- `send`, from `xQueueSend` on -/
  | enqueue
  /-- `finish`, until its loop -/
  | finish
  /-- The loop of `finish`, whether or not the deadline has passed -/
  | poll (late : Bool)
  /-- `xQueueReceive` -/
  | receive
  /-- `usb_serial_jtag_write_bytes` with its result -/
  | write (result : Int32)
  /-- The item is counted off. -/
  | complete
  | print (text : List UInt8)

namespace StreamProtocol

variable (protocol : StreamProtocol)

/-- The command is in no call. -/
def atRest : Bool := protocol.sending.isNone && !protocol.finishing

/-- `beginCapture` -/
def beginCapture : StreamProtocol :=
  if protocol.active ∨ protocol.outstanding ≠ 0 then protocol
  else
    { protocol with
      sequence := 0, dropped := 0, outputErrors := 0, active := true, result := none, log := [],
      cut := 0, written := [], text := [], wire := [] }

/-- `send`. A payload is never too large. -/
def send (type : StreamRecordType) (payload : StreamPayload) : StreamProtocol :=
  if protocol.active then
    { protocol with
      sequence := protocol.sequence + 1
      outstanding := protocol.outstanding + 1
      sending := some ⟨type, protocol.sequence, payload⟩ }
  else protocol

def enqueue : StreamProtocol :=
  match protocol.sending with
  | none => protocol
  | some frame =>
      match protocol.queue.send frame with
      | some queue =>
          { protocol with queue, sending := none, log := protocol.log ++ [(frame, true)] }
      | none =>
          { protocol with
            outstanding := protocol.outstanding - 1
            dropped := protocol.dropped + 1
            sending := none
            log := protocol.log ++ [(frame, false)] }

/-- `finish` -/
def finish : StreamProtocol :=
  if protocol.active then { protocol with active := false, finishing := true } else protocol

def poll (late : Bool) : StreamProtocol :=
  if protocol.finishing then
    if protocol.outstanding = 0 then
      { protocol with
        finishing := false
        result := some (if protocol.outputErrors = 0 then espOk else espFail) }
    else if late then { protocol with finishing := false, result := some espErrTimeout }
    else protocol
  else protocol

def receive : StreamProtocol :=
  match protocol.writer with
  | .idle =>
      match protocol.queue.receive with
      | some (frame, queue) => { protocol with queue, writer := .writing frame 0 }
      | none => protocol
  | _ => protocol

/-- A turn of the loop that writes. The driver takes no more than it is given. -/
def write (result : Int32) : StreamProtocol :=
  match protocol.writer with
  | .writing frame written =>
      if result ≤ 0 then
        { protocol with
          outputErrors := protocol.outputErrors + 1
          writer := .done
          cut := protocol.cut + 1
          text := protocol.text ++ frame.bytes.take written }
      else
        let wire := protocol.wire ++ (frame.bytes.drop written).take result.toNatClampNeg
        if written + result.toNatClampNeg < frame.bytes.length then
          { protocol with writer := .writing frame (written + result.toNatClampNeg), wire }
        else
          { protocol with
            writer := .done
            written := protocol.written ++ [(protocol.text, frame)]
            text := []
            wire }
  | _ => protocol

def complete : StreamProtocol :=
  match protocol.writer with
  | .done => { protocol with outstanding := protocol.outstanding - 1, writer := .idle }
  | _ => protocol

def print (text : List UInt8) : StreamProtocol :=
  { protocol with text := protocol.text ++ text, wire := protocol.wire ++ text }

def step (protocol : StreamProtocol) : StreamCall → StreamProtocol
  | .beginCapture => if protocol.atRest then protocol.beginCapture else protocol
  | .send type payload => if protocol.atRest then protocol.send type payload else protocol
  | .enqueue => protocol.enqueue
  | .finish => if protocol.atRest then protocol.finish else protocol
  | .poll late => protocol.poll late
  | .receive => protocol.receive
  | .write result => protocol.write result
  | .complete => protocol.complete
  | .print text => protocol.print text

/-- No other task prints while part of a frame is out. -/
def Orderly (protocol : StreamProtocol) : StreamCall → Prop
  | .print _ => protocol.writer.part = []
  | _ => True

instance (protocol : StreamProtocol) : (call : StreamCall) → Decidable (protocol.Orderly call)
  | .print _ => inferInstanceAs (Decidable (protocol.writer.part = []))
  | .beginCapture | .send _ _ | .enqueue | .finish | .poll _ | .receive | .write _ | .complete =>
      .isTrue trivial

/-- The frames for which `send` has returned `ESP_OK` -/
def accepted : List StreamFrame := (protocol.log.filter Prod.snd).map Prod.fst

/-- All frames in the order of their numbers -/
def numbered : List StreamFrame := protocol.log.map Prod.fst ++ protocol.sending.toList

/-! ### What the counters say -/

/-- The counters of a capture, against what was sent and what went out -/
structure Consistent : Prop where
  outstanding : protocol.outstanding =
    UInt32.ofNat (protocol.queue.items.length + protocol.sending.toList.length +
      protocol.writer.count)
  sequence : protocol.sequence = UInt32.ofNat protocol.numbered.length
  numbers : protocol.numbered.map StreamFrame.sequence =
    (List.range protocol.numbered.length).map UInt32.ofNat
  dropped : protocol.dropped = UInt32.ofNat (protocol.log.countP fun entry => !entry.2)
  outputErrors : protocol.outputErrors = UInt32.ofNat protocol.cut
  /-- Every frame that was accepted is out, broken off, in the hands of the task or in the queue. -/
  kept : protocol.cut + protocol.written.length + protocol.writer.frames.length +
    protocol.queue.items.length = protocol.accepted.length
  whole : protocol.cut = 0 → protocol.accepted =
    protocol.written.map Prod.snd ++ protocol.writer.frames ++ protocol.queue.items
  /-- The command is in one call at most. -/
  alone : protocol.finishing = true → protocol.sending = none
  stopped : protocol.finishing = true → protocol.active = false
  ended : protocol.result ≠ none → protocol.active = false ∧ protocol.sending = none
  delivered : protocol.result = some espOk →
    protocol.queue.items = [] ∧ protocol.writer = .idle ∧ protocol.outputErrors = 0

variable {protocol}

theorem consistent_start : Consistent {} := by
  constructor <;> intros <;> simp_all [numbered, accepted, BoundedQueue.empty, Writer.count,
    Writer.frames]

/-- The command and the task hold two items at most beside the queue. -/
theorem held_lt : protocol.queue.items.length + protocol.sending.toList.length +
    protocol.writer.count < 2 ^ 32 := by
  have bounded := protocol.queue.bounded
  have one : protocol.sending.toList.length ≤ 1 := by
    cases protocol.sending <;> simp
  have two : protocol.writer.count ≤ 1 := by
    cases protocol.writer <;> simp [Writer.count]
  unfold kQueueDepth at bounded
  omega

theorem Consistent.rest (consistent : Consistent protocol) (none : protocol.outstanding = 0) :
    protocol.queue.items = [] ∧ protocol.sending = .none ∧ protocol.writer = .idle := by
  have zero : protocol.queue.items.length + protocol.sending.toList.length +
      protocol.writer.count = 0 := by
    have same := congrArg UInt32.toNat (consistent.outstanding.symm.trans none)
    rwa [UInt32.toNat_ofNat', Nat.mod_eq_of_lt held_lt] at same
  refine ⟨List.eq_nil_of_length_eq_zero (by omega), ?_, ?_⟩
  · have nobody : protocol.sending.toList.length = 0 := by omega
    cases there : protocol.sending with
    | none => rfl
    | some frame =>
        rw [there] at nobody
        cases nobody
  · have nothing : protocol.writer.count = 0 := by omega
    cases there : protocol.writer with
    | idle => rfl
    | writing frame written =>
        rw [there] at nothing
        cases nothing
    | done =>
        rw [there] at nothing
        cases nothing

theorem atRest_iff : protocol.atRest = true ↔
    protocol.sending = none ∧ protocol.finishing = false := by
  unfold atRest
  cases protocol.sending <;> cases protocol.finishing <;> simp

theorem consistent_beginCapture (consistent : Consistent protocol) (rest : protocol.atRest = true) :
    Consistent protocol.beginCapture := by
  unfold beginCapture
  split_ifs with refused
  · exact consistent
  · rw [not_or, Decidable.not_not] at refused
    obtain ⟨empty, unsent, idle⟩ := consistent.rest refused.2
    have still := (atRest_iff.mp rest).2
    constructor
    · exact consistent.outstanding
    · simp [numbered, unsent]
    · simp [numbered, unsent]
    · rfl
    · rfl
    · simp [accepted, idle, empty, Writer.frames]
    · simp [accepted, idle, empty, Writer.frames]
    · exact consistent.alone
    · intro finishing
      rw [still] at finishing
      cases finishing
    · exact fun ended => absurd rfl ended
    · exact fun ended => nomatch ended

theorem consistent_send (consistent : Consistent protocol) (rest : protocol.atRest = true)
    (type : StreamRecordType) (payload : StreamPayload) : Consistent (protocol.send type payload) := by
  obtain ⟨unsent, still⟩ := atRest_iff.mp rest
  unfold send
  split_ifs with active
  · constructor
    · show protocol.outstanding + 1 = _
      rw [consistent.outstanding, unsent, ← UInt32.ofNat_one, ← UInt32.ofNat_add]
      congr 1
      simp
      omega
    · show protocol.sequence + 1 = _
      rw [consistent.sequence, ← UInt32.ofNat_one, ← UInt32.ofNat_add]
      simp [numbered, unsent]
    · have sequence := consistent.sequence
      have numbers := consistent.numbers
      simp only [numbered, unsent, Option.toList_none, List.append_nil] at sequence numbers
      simp only [numbered, Option.toList_some, List.map_append, numbers, List.length_append,
        List.length_singleton, List.range_succ, List.map_singleton, sequence]
    · exact consistent.dropped
    · exact consistent.outputErrors
    · exact consistent.kept
    · exact consistent.whole
    · intro finishing
      have running : protocol.finishing = true := finishing
      rw [still] at running
      cases running
    · intro finishing
      have running : protocol.finishing = true := finishing
      rw [still] at running
      cases running
    · intro ended
      have stopped := (consistent.ended ended).1
      rw [active] at stopped
      cases stopped
    · exact consistent.delivered
  · exact consistent

theorem consistent_enqueue (consistent : Consistent protocol) : Consistent protocol.enqueue := by
  unfold enqueue
  split
  · exact consistent
  · rename_i frame unsent
    have unended : protocol.result = none := by
      by_contra ended
      rw [(consistent.ended ended).2] at unsent
      cases unsent
    have unfinished : protocol.finishing ≠ true := by
      intro finishing
      rw [consistent.alone finishing] at unsent
      cases unsent
    have logged : ∀ room : Bool, (protocol.log ++ [(frame, room)]).map Prod.fst =
        protocol.numbered := by
      intro room
      simp [numbered, unsent]
    split
    · rename_i queue sent
      have items := BoundedQueue.items_send sent
      have accepts : accepted { protocol with
          queue, sending := none, log := protocol.log ++ [(frame, true)] } =
            protocol.accepted ++ [frame] := by
        simp [accepted]
      constructor
      · show protocol.outstanding = _
        rw [consistent.outstanding, unsent, items]
        congr 1
        simp
      · show protocol.sequence = UInt32.ofNat (_ ++ []).length
        rw [List.append_nil, logged, consistent.sequence]
      · show (_ ++ []).map _ = (List.range (_ ++ []).length).map _
        rw [List.append_nil, logged, consistent.numbers]
      · show protocol.dropped = _
        rw [consistent.dropped]
        simp
      · exact consistent.outputErrors
      · have kept := consistent.kept
        rw [accepts, List.length_append, List.length_singleton, ← kept]
        show _ + queue.items.length = _
        rw [items, List.length_append, List.length_singleton]
        rfl
      · intro uncut
        rw [accepts, consistent.whole uncut]
        show _ = _ ++ queue.items
        rw [items, List.append_assoc]
      · exact fun finishing => absurd finishing unfinished
      · exact fun finishing => absurd finishing unfinished
      · exact fun ended => absurd unended ended
      · intro ended
        have returned : protocol.result = some espOk := ended
        rw [unended] at returned
        cases returned
    · rename_i full
      have accepts : accepted { protocol with
          outstanding := protocol.outstanding - 1
          dropped := protocol.dropped + 1
          sending := none
          log := protocol.log ++ [(frame, false)] } = protocol.accepted := by
        simp [accepted]
      constructor
      · show protocol.outstanding - 1 = _
        rw [consistent.outstanding, unsent]
        show UInt32.ofNat (_ + 1 + _) - 1 = UInt32.ofNat (_ + 0 + _)
        rw [Nat.add_zero, Nat.add_right_comm, UInt32.ofNat_add, UInt32.ofNat_one, UInt32.add_sub_cancel]
        rfl
      · show protocol.sequence = UInt32.ofNat (_ ++ []).length
        rw [List.append_nil, logged, consistent.sequence]
      · show (_ ++ []).map _ = (List.range (_ ++ []).length).map _
        rw [List.append_nil, logged, consistent.numbers]
      · show protocol.dropped + 1 = _
        rw [consistent.dropped, ← UInt32.ofNat_one, ← UInt32.ofNat_add]
        simp
      · exact consistent.outputErrors
      · exact accepts ▸ consistent.kept
      · exact fun uncut => accepts ▸ consistent.whole uncut
      · exact fun finishing => absurd finishing unfinished
      · exact fun finishing => absurd finishing unfinished
      · exact fun ended => absurd unended ended
      · intro ended
        have returned : protocol.result = some espOk := ended
        rw [unended] at returned
        cases returned

theorem consistent_finish (consistent : Consistent protocol) (rest : protocol.atRest = true) :
    Consistent protocol.finish := by
  obtain ⟨unsent, still⟩ := atRest_iff.mp rest
  unfold finish
  split_ifs with active
  · exact { consistent with
      alone := fun _ => unsent
      stopped := fun _ => rfl
      ended := fun ended => ⟨rfl, unsent⟩ }
  · exact consistent

theorem consistent_poll (consistent : Consistent protocol) (late : Bool) :
    Consistent (protocol.poll late) := by
  unfold poll
  split_ifs with finishing none clean tooLate
  · obtain ⟨empty, unsent, idle⟩ := consistent.rest none
    exact { consistent with
      alone := fun running => absurd running Bool.false_ne_true
      stopped := fun running => absurd running Bool.false_ne_true
      ended := fun _ => ⟨consistent.stopped finishing, unsent⟩
      delivered := fun _ => ⟨empty, idle, clean⟩ }
  · exact { consistent with
      alone := fun running => absurd running Bool.false_ne_true
      stopped := fun running => absurd running Bool.false_ne_true
      ended := fun _ => ⟨consistent.stopped finishing, consistent.alone finishing⟩
      delivered := fun ok => absurd (Option.some.inj ok) (by decide) }
  · exact { consistent with
      alone := fun running => absurd running Bool.false_ne_true
      stopped := fun running => absurd running Bool.false_ne_true
      ended := fun _ => ⟨consistent.stopped finishing, consistent.alone finishing⟩
      delivered := fun ok => absurd (Option.some.inj ok) (by decide) }
  · exact consistent
  · exact consistent

theorem consistent_receive (consistent : Consistent protocol) : Consistent protocol.receive := by
  unfold receive
  split
  · rename_i idle
    split
    · rename_i frame queue received
      have items := BoundedQueue.items_receive received
      have undelivered : protocol.result ≠ some espOk := by
        intro ok
        have empty := (consistent.delivered ok).1
        rw [items] at empty
        cases empty
      exact { consistent with
        outstanding := by
          show protocol.outstanding = UInt32.ofNat (queue.items.length + _ + 1)
          rw [consistent.outstanding, idle, items, List.length_cons]
          congr 1
          exact Nat.add_right_comm _ 1 _
        kept := by
          have kept := consistent.kept
          rw [idle, items, List.length_cons] at kept
          show protocol.cut + protocol.written.length + 1 + queue.items.length =
            protocol.accepted.length
          simp only [Writer.frames, List.length_nil] at kept
          omega
        whole := fun uncut => by
          have whole := consistent.whole uncut
          rw [idle, items] at whole
          show protocol.accepted = _ ++ [frame] ++ queue.items
          rw [whole]
          simp [Writer.frames]
        delivered := fun ok => absurd ok undelivered }
    · exact consistent
  · exact consistent

theorem consistent_write (consistent : Consistent protocol) (result : Int32) :
    Consistent (protocol.write result) := by
  unfold write
  split
  · rename_i frame written writing
    have undelivered : protocol.result ≠ some espOk := by
      intro ok
      have idle := (consistent.delivered ok).2.1
      rw [writing] at idle
      cases idle
    have outstanding := consistent.outstanding
    have kept := consistent.kept
    have whole := consistent.whole
    rw [writing] at outstanding kept whole
    dsimp only
    split_ifs with failed goesOn
    · exact { consistent with
        outstanding := outstanding
        outputErrors := by
          show protocol.outputErrors + 1 = UInt32.ofNat (protocol.cut + 1)
          rw [consistent.outputErrors, UInt32.ofNat_add, UInt32.ofNat_one]
        kept := by
          show protocol.cut + 1 + protocol.written.length + 0 + protocol.queue.items.length =
            protocol.accepted.length
          simp only [Writer.frames, List.length_singleton] at kept
          omega
        whole := fun uncut => absurd uncut (Nat.succ_ne_zero _)
        delivered := fun ok => absurd ok undelivered }
    · exact { consistent with
        outstanding := outstanding
        kept := kept
        whole := whole
        delivered := fun ok => absurd ok undelivered }
    · exact { consistent with
        outstanding := outstanding
        kept := by
          show _ + (_ ++ [_]).length + 0 + _ = protocol.accepted.length
          simp only [Writer.frames, List.length_singleton] at kept
          rw [List.length_append, List.length_singleton]
          omega
        whole := fun uncut => by
          show protocol.accepted = (_ ++ [_]).map Prod.snd ++ [] ++ protocol.queue.items
          rw [whole uncut]
          simp [Writer.frames]
        delivered := fun ok => absurd ok undelivered }
  · exact consistent

theorem consistent_complete (consistent : Consistent protocol) : Consistent protocol.complete := by
  unfold complete
  split
  · rename_i done
    have undelivered : protocol.result ≠ some espOk := by
      intro ok
      have idle := (consistent.delivered ok).2.1
      rw [done] at idle
      cases idle
    have outstanding := consistent.outstanding
    have kept := consistent.kept
    have whole := consistent.whole
    rw [done] at outstanding kept whole
    exact { consistent with
      outstanding := by
        show protocol.outstanding - 1 = UInt32.ofNat (_ + _ + 0)
        rw [outstanding]
        show UInt32.ofNat (_ + _ + 1) - 1 = _
        rw [UInt32.ofNat_add, UInt32.ofNat_one, UInt32.add_sub_cancel, Nat.add_zero]
      kept := kept
      whole := whole
      delivered := fun ok => absurd ok undelivered }
  · exact consistent

theorem consistent_step (consistent : Consistent protocol) (call : StreamCall) :
    Consistent (protocol.step call) := by
  cases call with
  | beginCapture =>
      unfold step
      split_ifs with rest
      · exact consistent_beginCapture consistent rest
      · exact consistent
  | send type payload =>
      unfold step
      split_ifs with rest
      · exact consistent_send consistent rest type payload
      · exact consistent
  | enqueue => exact consistent_enqueue consistent
  | finish =>
      unfold step
      split_ifs with rest
      · exact consistent_finish consistent rest
      · exact consistent
  | poll late => exact consistent_poll consistent late
  | receive => exact consistent_receive consistent
  | write result => exact consistent_write consistent result
  | complete => exact consistent_complete consistent
  | print text => exact { consistent with }

theorem consistent_after (calls : List StreamCall) : Consistent (Run.after step {} calls) := by
  have preserved : ∀ (protocol : StreamProtocol) (call : StreamCall), Consistent protocol → True →
      Consistent (protocol.step call) := fun _ call consistent _ => consistent_step consistent call
  exact Run.invariant_after preserved consistent_start
    (Run.along_of_forall (fun _ _ => trivial) _ calls)

/-! ### What goes out -/

/-- Each of these texts and the frame after it -/
def spelled (segments : List (List UInt8 × StreamFrame)) : List UInt8 :=
  segments.flatMap fun segment => segment.1 ++ segment.2.bytes

/-- What went out is the frames with the text between them, and of the frame that is being written what
has gone out so far. -/
structure Spelled (protocol : StreamProtocol) : Prop where
  wire : protocol.wire = spelled protocol.written ++ protocol.text ++ protocol.writer.part
  within : ∀ frame written, protocol.writer = .writing frame written → written < frame.bytes.length

theorem spelled_beginCapture (spells : Spelled protocol) (consistent : Consistent protocol) :
    Spelled protocol.beginCapture := by
  unfold beginCapture
  split_ifs with refused
  · exact spells
  · rw [not_or, Decidable.not_not] at refused
    have idle := (consistent.rest refused.2).2.2
    refine ⟨?_, spells.within⟩
    show [] = spelled [] ++ [] ++ protocol.writer.part
    rw [idle]
    rfl

theorem spelled_send (spells : Spelled protocol) (type : StreamRecordType)
    (payload : StreamPayload) : Spelled (protocol.send type payload) := by
  unfold send
  split_ifs
  · exact ⟨spells.wire, spells.within⟩
  · exact spells

theorem spelled_enqueue (spells : Spelled protocol) : Spelled protocol.enqueue := by
  unfold enqueue
  split
  · exact spells
  · split
    · exact ⟨spells.wire, spells.within⟩
    · exact ⟨spells.wire, spells.within⟩

theorem spelled_finish (spells : Spelled protocol) : Spelled protocol.finish := by
  unfold finish
  split_ifs
  · exact ⟨spells.wire, spells.within⟩
  · exact spells

theorem spelled_poll (spells : Spelled protocol) (late : Bool) : Spelled (protocol.poll late) := by
  unfold poll
  split_ifs
  · exact ⟨spells.wire, spells.within⟩
  · exact ⟨spells.wire, spells.within⟩
  · exact ⟨spells.wire, spells.within⟩
  · exact spells
  · exact spells

theorem spelled_receive (spells : Spelled protocol) : Spelled protocol.receive := by
  unfold receive
  split
  · rename_i idle
    split
    · rename_i frame queue received
      refine ⟨?_, ?_⟩
      · show protocol.wire = _
        rw [spells.wire, idle]
        rfl
      · rintro _ _ ⟨⟩
        rw [StreamFrame.length_bytes]
        omega
    · exact spells
  · exact spells

theorem spelled_write (spells : Spelled protocol) (result : Int32) :
    Spelled (protocol.write result) := by
  unfold write
  split
  · rename_i frame written writing
    have wire := spells.wire
    rw [writing] at wire
    have part : (Writer.writing frame written).part = frame.bytes.take written := rfl
    dsimp only
    split_ifs with failed goesOn
    · refine ⟨?_, ?_⟩
      · show protocol.wire = _ ++ (protocol.text ++ frame.bytes.take written) ++ []
        rw [wire, part]
        simp
      · rintro _ _ ⟨⟩
    · refine ⟨?_, ?_⟩
      · show protocol.wire ++ _ = _ ++ frame.bytes.take (written + result.toNatClampNeg)
        rw [wire, part, List.take_add, List.append_assoc]
      · rintro _ _ ⟨⟩
        exact goesOn
    · refine ⟨?_, ?_⟩
      · have rest : (frame.bytes.drop written).take result.toNatClampNeg =
            frame.bytes.drop written := by
          apply List.take_of_length_le
          rw [List.length_drop]
          omega
        show protocol.wire ++ _ = spelled (protocol.written ++ [_]) ++ [] ++ []
        rw [wire, part, rest, List.append_assoc, List.take_append_drop]
        simp [spelled]
      · rintro _ _ ⟨⟩
  · exact spells

theorem spelled_complete (spells : Spelled protocol) : Spelled protocol.complete := by
  unfold complete
  split
  · rename_i done
    refine ⟨?_, ?_⟩
    · show protocol.wire = _
      rw [spells.wire, done]
      rfl
    · rintro _ _ ⟨⟩
  · exact spells

theorem spelled_step (consistent : Consistent protocol) (spells : Spelled protocol)
    {call : StreamCall} (orderly : protocol.Orderly call) : Spelled (protocol.step call) := by
  cases call with
  | beginCapture =>
      show Spelled (if protocol.atRest then protocol.beginCapture else protocol)
      split_ifs
      · exact spelled_beginCapture spells consistent
      · exact spells
  | send type payload =>
      show Spelled (if protocol.atRest then protocol.send type payload else protocol)
      split_ifs
      · exact spelled_send spells type payload
      · exact spells
  | enqueue => exact spelled_enqueue spells
  | finish =>
      show Spelled (if protocol.atRest then protocol.finish else protocol)
      split_ifs
      · exact spelled_finish spells
      · exact spells
  | poll late => exact spelled_poll spells late
  | receive => exact spelled_receive spells
  | write result => exact spelled_write spells result
  | complete => exact spelled_complete spells
  | print text =>
      have nothing : protocol.writer.part = [] := orderly
      refine ⟨?_, spells.within⟩
      show protocol.wire ++ text =
        spelled protocol.written ++ (protocol.text ++ text) ++ protocol.writer.part
      rw [spells.wire, nothing]
      simp

theorem spelled_after {calls : List StreamCall} (orderly : Run.Along step Orderly {} calls) :
    Consistent (Run.after step {} calls) ∧ Spelled (Run.after step {} calls) := by
  have preserved : ∀ (protocol : StreamProtocol) (call : StreamCall),
      Consistent protocol ∧ Spelled protocol → protocol.Orderly call →
        Consistent (protocol.step call) ∧ Spelled (protocol.step call) :=
    fun _ call ⟨consistent, spells⟩ orderly =>
      ⟨consistent_step consistent call, spelled_step consistent spells orderly⟩
  refine Run.invariant_after preserved ⟨consistent_start, rfl, ?_⟩ orderly
  rintro _ _ ⟨⟩

/-- When `finish` has returned `ESP_OK`, the frames that went out are those that were accepted, in their
order, each of them whole. -/
theorem delivered_of_finish {calls : List StreamCall} (orderly : Run.Along step Orderly {} calls)
    (few : (Run.after step {} calls).log.length < 2 ^ 32)
    (finished : (Run.after step {} calls).result = some espOk) :
    (Run.after step {} calls).wire =
        spelled (Run.after step {} calls).written ++ (Run.after step {} calls).text ∧
      (Run.after step {} calls).written.map Prod.snd = (Run.after step {} calls).accepted := by
  obtain ⟨consistent, spells⟩ := spelled_after orderly
  generalize Run.after step {} calls = protocol at *
  obtain ⟨empty, idle, clean⟩ := consistent.delivered finished
  have accepts : protocol.accepted.length ≤ protocol.log.length := by
    unfold accepted
    rw [List.length_map]
    exact List.length_filter_le _ _
  have uncut : protocol.cut = 0 := by
    have kept := consistent.kept
    have same := congrArg UInt32.toNat (consistent.outputErrors.symm.trans clean)
    rwa [UInt32.toNat_ofNat', Nat.mod_eq_of_lt (by omega)] at same
  refine ⟨?_, ?_⟩
  · rw [spells.wire, idle]
    simp [Writer.part]
  · rw [consistent.whole uncut, idle, empty]
    simp [Writer.frames]

end StreamProtocol

end MissionBoard.Bringup
