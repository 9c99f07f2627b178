import MissionBoard.Bringup.RecordSchema
import MissionBoard.Bringup.StreamProtocol
import MissionBoard.Library.FrameScan

/-!
Owns `FrameParser` of `tools/capture_bringup.py`: the host's parser, which is fed the bytes of the port in
pieces of any length, and the scan that it amounts to.
-/

namespace MissionBoard.Bringup

/-! ### The parser -/

/-- `MAGIC` -/
def MAGIC : List UInt8 := [0xA5, 0x5A]

def PROTOCOL_VERSION : UInt8 := 1

def HEADER_SIZE : ℕ := 10

def TRAILER_SIZE : ℕ := 2

def MAX_PAYLOAD_SIZE : ℕ := 96

def MAX_FRAME_SIZE : ℕ := HEADER_SIZE + MAX_PAYLOAD_SIZE + TRAILER_SIZE

def MAX_FEED_SIZE : ℕ := 65536

/-- One bit of `crc16_ccitt` -/
def crc16CcittBit (crc : ℕ) : ℕ :=
  if crc &&& 0x8000 ≠ 0 then ((crc <<< 1) ^^^ 0x1021) &&& 0xFFFF else (crc <<< 1) &&& 0xFFFF

/-- `crc16_ccitt` -/
def crc16Ccitt (data : List UInt8) : ℕ :=
  data.foldl (fun crc value => crc16CcittBit^[8] (crc ^^^ (value.toNat <<< 8))) 0xFFFF

/-- `Frame` without its place -/
structure FrameContent where
  version : UInt8
  recordType : UInt8
  sequence : ℕ
  payload : List UInt8
deriving DecidableEq

/-- `Frame` -/
structure Frame where
  content : FrameContent
  rawOffset : ℕ
deriving DecidableEq

/-- The bytes of a frame -/
def Frame.size (frame : Frame) : ℕ := HEADER_SIZE + frame.content.payload.length + TRAILER_SIZE

/-- `FrameParser`; `frames` are those that `on_frame` was called with. -/
structure FrameParser where
  buffer : List UInt8 := []
  streamOffset : ℕ := 0
  validFrames : ℕ := 0
  crcErrors : ℕ := 0
  malformedHeaders : ℕ := 0
  discardedBytes : ℕ := 0
  incompleteBytes : ℕ := 0
  frames : List Frame := []

/-- `find` of the magic -/
def findMagic : List UInt8 → Option ℕ
  | first :: second :: rest =>
      if first = 0xA5 ∧ second = 0x5A then some 0 else (findMagic (second :: rest)).map (· + 1)
  | _ => none

namespace FrameParser

variable (parser : FrameParser)

/-- `_discard` -/
def discard (count : ℕ) : FrameParser :=
  { parser with
    buffer := parser.buffer.drop count
    streamOffset := parser.streamOffset + count
    discardedBytes := parser.discardedBytes + count }

/-- The size of the payload that the header tells -/
def payloadSize (buffer : List UInt8) : ℕ := numberOf ((buffer.drop 4).take 2)

/-- The frame at the front of the buffer, when it is there -/
def frontFrame (buffer : List UInt8) : FrameContent where
  version := buffer.getD 2 0
  recordType := buffer.getD 3 0
  sequence := numberOf ((buffer.drop 6).take 4)
  payload := (buffer.drop HEADER_SIZE).take (payloadSize buffer)

/-- The turn of the loop of `feed` from where the marks are at the front, and whether there is another
turn -/
def readFront : Bool × FrameParser :=
  if parser.buffer.length < HEADER_SIZE then (false, parser)
  else
    let version := parser.buffer.getD 2 0
    let payloadSize := payloadSize parser.buffer
    if version ≠ PROTOCOL_VERSION ∨ payloadSize > MAX_PAYLOAD_SIZE then
      (true, { parser with malformedHeaders := parser.malformedHeaders + 1 }.discard 1)
    else
      let frameSize := HEADER_SIZE + payloadSize + TRAILER_SIZE
      if parser.buffer.length < frameSize then (false, parser)
      else
        let expectedCrc := numberOf ((parser.buffer.drop (frameSize - 2)).take 2)
        let actualCrc := crc16Ccitt ((parser.buffer.take (frameSize - 2)).drop 2)
        if actualCrc ≠ expectedCrc then
          (true, { parser with crcErrors := parser.crcErrors + 1 }.discard 1)
        else
          (true,
            { parser with
              buffer := parser.buffer.drop frameSize
              streamOffset := parser.streamOffset + frameSize
              validFrames := parser.validFrames + 1
              frames := parser.frames ++ [⟨frontFrame parser.buffer, parser.streamOffset⟩] })

/-- A turn of the loop of `feed` -/
def turn : Bool × FrameParser :=
  match findMagic parser.buffer with
  | none =>
      let keep := if parser.buffer.getLast? = some 0xA5 then 1 else 0
      (false, parser.discard (parser.buffer.length - keep))
  | some magicAt => (if magicAt ≠ 0 then parser.discard magicAt else parser).readFront

/-- The loop of `feed`, for at most so many turns -/
def loop : ℕ → FrameParser → FrameParser
  | 0, parser => parser
  | fuel + 1, parser =>
      match parser.turn with
      | (true, next) => loop fuel next
      | (false, next) => next

/-- `feed` of no more than `MAX_FEED_SIZE` bytes. Every turn but the last removes a byte. -/
def feedPiece (data : List UInt8) : FrameParser :=
  loop ((parser.buffer ++ data).length + 1) { parser with buffer := parser.buffer ++ data }

/-- `feed` -/
def feed (data : List UInt8) : FrameParser :=
  if data.length > MAX_FEED_SIZE then
    (List.range ((data.length + MAX_FEED_SIZE - 1) / MAX_FEED_SIZE)).foldl
      (fun parser index => parser.feedPiece ((data.drop (index * MAX_FEED_SIZE)).take MAX_FEED_SIZE))
      parser
  else parser.feedPiece data

/-- `finish` -/
def finish : FrameParser :=
  { parser with incompleteBytes := parser.buffer.length }.discard parser.buffer.length

end FrameParser

/-! ### The format -/

/-- Why a byte begins no frame -/
inductive Noise where
  | unmarked
  | malformed
  | checksum
deriving DecidableEq

open FrameParser in
/-- What the header and the checksum say behind the marks -/
def markedFront (buffer : List UInt8) : Front Noise FrameContent :=
  if buffer.length < HEADER_SIZE then .unfinished
  else if buffer.getD 2 0 ≠ PROTOCOL_VERSION ∨ payloadSize buffer > MAX_PAYLOAD_SIZE then
    .noise .malformed
  else if buffer.length < HEADER_SIZE + payloadSize buffer + TRAILER_SIZE then .unfinished
  else if crc16Ccitt ((buffer.take (HEADER_SIZE + payloadSize buffer)).drop 2) ≠
      numberOf ((buffer.drop (HEADER_SIZE + payloadSize buffer)).take 2) then .noise .checksum
  else .frame (HEADER_SIZE + payloadSize buffer + TRAILER_SIZE) (frontFrame buffer)

/-- What the front of the bytes is judged to be -/
def streamFront (buffer : List UInt8) : Front Noise FrameContent :=
  match buffer with
  | [] => .unfinished
  | [first] => if first = 0xA5 then .unfinished else .noise .unmarked
  | first :: second :: _ =>
      if first = 0xA5 ∧ second = 0x5A then markedFront buffer else .noise .unmarked

theorem slice_append {buffer : List UInt8} {start count : ℕ} (more : List UInt8)
    (within : start + count ≤ buffer.length) :
    ((buffer ++ more).drop start).take count = (buffer.drop start).take count := by
  have rest : count ≤ (buffer.drop start).length := by
    rw [List.length_drop]
    omega
  rw [List.drop_append_of_le_length (by omega), List.take_append_of_le_length rest]

theorem getD_append {buffer : List UInt8} {index : ℕ} (more : List UInt8)
    (within : index < buffer.length) : (buffer ++ more).getD index 0 = buffer.getD index 0 :=
  List.getD_append _ _ _ _ within

theorem covered_append {buffer : List UInt8} {stop : ℕ} (more : List UInt8)
    (within : stop ≤ buffer.length) :
    ((buffer ++ more).take stop).drop 2 = (buffer.take stop).drop 2 := by
  rw [List.take_append_of_le_length within]

theorem payloadSize_append {buffer : List UInt8} (more : List UInt8)
    (within : HEADER_SIZE ≤ buffer.length) :
    FrameParser.payloadSize (buffer ++ more) = FrameParser.payloadSize buffer := by
  unfold HEADER_SIZE at within
  unfold FrameParser.payloadSize
  rw [slice_append more (by omega)]

theorem frontFrame_append {buffer : List UInt8} (more : List UInt8)
    (within : HEADER_SIZE + FrameParser.payloadSize buffer ≤ buffer.length) :
    FrameParser.frontFrame (buffer ++ more) = FrameParser.frontFrame buffer := by
  have header : HEADER_SIZE ≤ buffer.length := by omega
  unfold FrameParser.frontFrame
  rw [payloadSize_append more header, slice_append more within]
  unfold HEADER_SIZE at header
  rw [getD_append more (by omega), getD_append more (by omega), slice_append more (by omega)]

theorem markedFront_stable {buffer : List UInt8} (judged : markedFront buffer ≠ .unfinished)
    (more : List UInt8) : markedFront (buffer ++ more) = markedFront buffer := by
  unfold markedFront at judged ⊢
  by_cases short : buffer.length < HEADER_SIZE
  · rw [if_pos short] at judged
    exact absurd rfl judged
  · have header : HEADER_SIZE ≤ buffer.length := Nat.le_of_not_lt short
    have longer : (buffer ++ more).length = buffer.length + more.length := List.length_append
    have version : (buffer ++ more).getD 2 0 = buffer.getD 2 0 := by
      unfold HEADER_SIZE at header
      exact getD_append more (by omega)
    rw [if_neg short] at judged ⊢
    rw [if_neg (by omega), payloadSize_append more header, version]
    split at judged
    · rename_i malformed
      rw [if_pos malformed, if_pos malformed]
    · rename_i wellFormed
      rw [if_neg wellFormed, if_neg wellFormed]
      split at judged
      · exact absurd rfl judged
      · rename_i arrived
        have whole : HEADER_SIZE + FrameParser.payloadSize buffer + 2 ≤ buffer.length :=
          Nat.le_of_not_lt arrived
        rw [if_neg arrived, if_neg (by omega), covered_append more (by omega),
          slice_append more whole, frontFrame_append more (by omega)]

theorem streamFront_stable {buffer : List UInt8} (judged : streamFront buffer ≠ .unfinished)
    (more : List UInt8) : streamFront (buffer ++ more) = streamFront buffer := by
  match buffer with
  | [] => exact absurd rfl judged
  | [first] =>
      have unmarked : first ≠ 0xA5 := by
        rintro rfl
        exact judged rfl
      have noise : streamFront [first] = .noise .unmarked := if_neg unmarked
      cases more with
      | nil => rfl
      | cons second rest =>
          rw [noise]
          exact if_neg fun marked => unmarked marked.1
  | first :: second :: rest =>
      show (if _ then markedFront ((first :: second :: rest) ++ more) else _) =
        if _ then markedFront (first :: second :: rest) else _
      have judgedHere : (if first = 0xA5 ∧ second = 0x5A then markedFront (first :: second :: rest)
        else .noise .unmarked) ≠ .unfinished := judged
      split_ifs at judgedHere ⊢
      · exact markedFront_stable judgedHere more
      · rfl

/-- What is known of a frame at the front -/
theorem markedFront_eq_frame {buffer : List UInt8} {size : ℕ} {value : FrameContent}
    (judged : markedFront buffer = .frame size value) :
    size = HEADER_SIZE + FrameParser.payloadSize buffer + TRAILER_SIZE ∧ size ≤ buffer.length ∧
      FrameParser.payloadSize buffer ≤ MAX_PAYLOAD_SIZE ∧ value = FrameParser.frontFrame buffer := by
  unfold markedFront at judged
  split_ifs at judged with short malformed pending mismatch
  cases judged
  rw [not_or, Nat.not_lt] at malformed
  exact ⟨rfl, Nat.le_of_not_lt pending, malformed.2, rfl⟩

theorem streamFront_eq_frame {buffer : List UInt8} {size : ℕ} {value : FrameContent}
    (judged : streamFront buffer = .frame size value) :
    markedFront buffer = .frame size value := by
  match buffer with
  | [] => cases judged
  | [first] =>
      unfold streamFront at judged
      dsimp only at judged
      split_ifs at judged
  | first :: second :: rest =>
      unfold streamFront at judged
      dsimp only at judged
      split_ifs at judged
      exact judged

/-- The frames of the bring-up stream as a format -/
def streamFormat : FrameFormat UInt8 Noise FrameContent where
  front := streamFront
  front_nil := rfl
  size_pos := by
    intro buffer size value judged
    have known := markedFront_eq_frame (streamFront_eq_frame judged)
    unfold HEADER_SIZE at known
    omega
  size_le := by
    intro buffer size value judged
    exact (markedFront_eq_frame (streamFront_eq_frame judged)).2.1
  stable := streamFront_stable

/-! ### The parser and the scan -/

open Scanned

namespace FrameParser

variable {parser : FrameParser}

/-- The parser after these events, with these bytes left -/
def absorb (parser : FrameParser) (scanned : List (Scanned Noise FrameContent) × List UInt8) :
    FrameParser where
  buffer := scanned.2
  streamOffset := parser.streamOffset + extent scanned.1
  validFrames := parser.validFrames + (placed parser.streamOffset scanned.1).length
  crcErrors := parser.crcErrors + passed (· == .checksum) scanned.1
  malformedHeaders := parser.malformedHeaders + passed (· == .malformed) scanned.1
  discardedBytes := parser.discardedBytes + passed (fun _ => true) scanned.1
  incompleteBytes := parser.incompleteBytes
  frames := parser.frames ++
    (placed parser.streamOffset scanned.1).map fun taken => ⟨taken.value, taken.offset⟩

theorem absorb_nil (buffer : List UInt8) :
    parser.absorb ([], buffer) = { parser with buffer } := by
  simp [absorb]

/-- Events may be absorbed one after the other. -/
theorem absorb_append (first second : List (Scanned Noise FrameContent)) (middle rest : List UInt8) :
    parser.absorb (first ++ second, rest) = (parser.absorb (first, middle)).absorb (second, rest) := by
  simp [absorb, placed_append, Nat.add_assoc]

/-- Bytes before which there are no marks -/
def unmarked (count : ℕ) : List (Scanned Noise FrameContent) :=
  List.replicate count (.noise .unmarked)

@[simp] theorem extent_unmarked (count : ℕ) : extent (unmarked count) = count := by
  induction count with
  | zero => rfl
  | succ count inductionHypothesis =>
      show 1 + extent (unmarked count) = count + 1
      omega

@[simp] theorem passed_unmarked (kind : Noise → Bool) (count : ℕ) :
    passed kind (unmarked count) = if kind .unmarked then count else 0 := by
  simp [passed, unmarked, List.countP_replicate]

@[simp] theorem placed_unmarked (offset count : ℕ) : placed offset (unmarked count) = [] := by
  induction count generalizing offset with
  | zero => rfl
  | succ count inductionHypothesis => exact inductionHypothesis (offset + 1)

theorem absorb_unmarked (count : ℕ) (rest : List UInt8) :
    parser.absorb (unmarked count, rest) = { parser.discard count with buffer := rest } := by
  simp [absorb, discard]

/-- How many bytes are kept where no marks were found -/
def keep (buffer : List UInt8) : ℕ := if buffer.getLast? = some 0xA5 then 1 else 0

theorem keep_le (buffer : List UInt8) : keep buffer ≤ buffer.length := by
  cases buffer with
  | nil => exact Nat.le_refl 0
  | cons first rest =>
      unfold keep
      split <;> simp

theorem scan_none {buffer : List UInt8} (none : findMagic buffer = none) :
    streamFormat.scan buffer =
      (unmarked (buffer.length - keep buffer), buffer.drop (buffer.length - keep buffer)) := by
  induction buffer using findMagic.induct with
  | case1 first second rest marked =>
      unfold findMagic at none
      rw [if_pos marked] at none
      cases none
  | case2 first second rest unlike inductionHypothesis =>
      unfold findMagic at none
      rw [if_neg unlike, Option.map_eq_none_iff] at none
      have front : streamFormat.front (first :: second :: rest) = .noise .unmarked := if_neg unlike
      have last : keep (first :: second :: rest) = keep (second :: rest) := by
        unfold keep
        rw [List.getLast?_cons_cons]
      have few := keep_le (second :: rest)
      have longer : (first :: second :: rest).length - keep (second :: rest) =
          ((second :: rest).length - keep (second :: rest)) + 1 := by
        rw [List.length_cons]
        omega
      rw [FrameFormat.scan_noise front, List.tail_cons, inductionHypothesis none, last, longer]
      rfl
  | case3 buffer short =>
      match buffer with
      | [] => rfl
      | [first] =>
          by_cases mark : first = 0xA5
          · subst mark
            rfl
          · have front : streamFormat.front [first] = .noise .unmarked := if_neg mark
            have kept : keep [first] = 0 := if_neg fun last => mark (Option.some.inj last)
            rw [FrameFormat.scan_noise front, kept]
            rfl
      | first :: second :: rest => exact absurd rfl (short first second rest)

theorem scan_some {buffer : List UInt8} {magicAt : ℕ} (found : findMagic buffer = some magicAt) :
    streamFormat.scan buffer =
        (unmarked magicAt ++ (streamFormat.scan (buffer.drop magicAt)).1,
          (streamFormat.scan (buffer.drop magicAt)).2) ∧
      streamFront (buffer.drop magicAt) = markedFront (buffer.drop magicAt) ∧
      buffer.drop magicAt ≠ [] := by
  induction buffer using findMagic.induct generalizing magicAt with
  | case1 first second rest marked =>
      unfold findMagic at found
      rw [if_pos marked] at found
      cases found
      exact ⟨rfl, if_pos marked, List.cons_ne_nil _ _⟩
  | case2 first second rest unlike inductionHypothesis =>
      unfold findMagic at found
      rw [if_neg unlike, Option.map_eq_some_iff] at found
      obtain ⟨later, there, rfl⟩ := found
      obtain ⟨scanned, front, some⟩ := inductionHypothesis there
      have noise : streamFormat.front (first :: second :: rest) = .noise .unmarked := if_neg unlike
      refine ⟨?_, front, some⟩
      rw [FrameFormat.scan_noise noise, List.tail_cons, scanned]
      rfl
  | case3 buffer short =>
      unfold findMagic at found
      split at found
      · rename_i first second rest
        exact absurd rfl (short first second rest)
      · cases found

theorem absorb_noise (cause : Noise) (events : List (Scanned Noise FrameContent))
    (rest : List UInt8) :
    parser.absorb (.noise cause :: events, rest) =
      (discard { parser with
          malformedHeaders := parser.malformedHeaders + (cause == Noise.malformed).toNat
          crcErrors := parser.crcErrors + (cause == Noise.checksum).toNat } 1).absorb
        (events, rest) := by
  simp [absorb, discard, Nat.add_assoc, Nat.add_comm]

theorem absorb_frame (size : ℕ) (value : FrameContent) (events : List (Scanned Noise FrameContent))
    (rest : List UInt8) :
    parser.absorb (.frame size value :: events, rest) =
      absorb { parser with
        buffer := parser.buffer.drop size
        streamOffset := parser.streamOffset + size
        validFrames := parser.validFrames + 1
        frames := parser.frames ++ [⟨value, parser.streamOffset⟩] } (events, rest) := by
  simp [absorb, Nat.add_assoc, Nat.add_comm, Nat.add_left_comm]

theorem absorb_settled (settled : streamFront parser.buffer = .unfinished) :
    parser.absorb (streamFormat.scan parser.buffer) = parser := by
  have front : streamFormat.front parser.buffer = .unfinished := settled
  rw [FrameFormat.scan_unfinished front, absorb_nil]

/-- With the marks at the front a turn takes one event off it, or it is the last one. -/
theorem absorb_readFront (marked : streamFront parser.buffer = markedFront parser.buffer) :
    (parser.readFront.1 = true ∧ parser.readFront.2.buffer.length < parser.buffer.length ∧
      parser.absorb (streamFormat.scan parser.buffer) =
        parser.readFront.2.absorb (streamFormat.scan parser.readFront.2.buffer)) ∨
    (parser.readFront.1 = false ∧
      parser.absorb (streamFormat.scan parser.buffer) = parser.readFront.2) := by
  have front : streamFormat.front parser.buffer = markedFront parser.buffer := marked
  have settled : markedFront parser.buffer = .unfinished →
      parser.absorb (streamFormat.scan parser.buffer) = parser :=
    fun judged => absorb_settled (marked.trans judged)
  have stop : HEADER_SIZE + payloadSize parser.buffer + TRAILER_SIZE - 2 =
      HEADER_SIZE + payloadSize parser.buffer := Nat.add_sub_cancel _ 2
  unfold markedFront at front settled
  unfold readFront
  dsimp only
  rw [stop]
  split_ifs at front settled ⊢ with short malformed pending mismatch
  · exact Or.inr ⟨rfl, settled rfl⟩
  · have some := @FrameFormat.length_pos_of_front _ _ _ streamFormat parser.buffer (by simp [front])
    refine Or.inl ⟨rfl, ?_, ?_⟩
    · show (parser.buffer.drop 1).length < parser.buffer.length
      rw [List.length_drop]
      omega
    · rw [FrameFormat.scan_noise front, absorb_noise, ← List.drop_one]
      rfl
  · exact Or.inr ⟨rfl, settled rfl⟩
  · have some := @FrameFormat.length_pos_of_front _ _ _ streamFormat parser.buffer (by simp [front])
    refine Or.inl ⟨rfl, ?_, ?_⟩
    · show (parser.buffer.drop 1).length < parser.buffer.length
      rw [List.length_drop]
      omega
    · rw [FrameFormat.scan_noise front, absorb_noise, ← List.drop_one]
      rfl
  · have positive := streamFormat.size_pos front
    have within := streamFormat.size_le front
    refine Or.inl ⟨rfl, ?_, ?_⟩
    · show (parser.buffer.drop _).length < parser.buffer.length
      rw [List.length_drop]
      omega
    · rw [FrameFormat.scan_frame front, absorb_frame]

theorem absorb_turn :
    (parser.turn.1 = true ∧ parser.turn.2.buffer.length < parser.buffer.length ∧
      parser.absorb (streamFormat.scan parser.buffer) =
        parser.turn.2.absorb (streamFormat.scan parser.turn.2.buffer)) ∨
    (parser.turn.1 = false ∧ parser.absorb (streamFormat.scan parser.buffer) = parser.turn.2) := by
  unfold turn
  cases found : findMagic parser.buffer with
  | none =>
      refine Or.inr ⟨rfl, ?_⟩
      rw [scan_none found, absorb_unmarked]
      rfl
  | some magicAt =>
      obtain ⟨scanned, front, some⟩ := scan_some found
      have same : (if magicAt ≠ 0 then parser.discard magicAt else parser) =
          parser.discard magicAt := by
        split_ifs with zero
        · rfl
        · rw [Decidable.not_not] at zero
          subst zero
          rfl
      have shorter : (parser.discard magicAt).buffer.length ≤ parser.buffer.length := by
        show (parser.buffer.drop magicAt).length ≤ _
        rw [List.length_drop]
        exact Nat.sub_le _ _
      have absorbed : parser.absorb (streamFormat.scan parser.buffer) =
          (parser.discard magicAt).absorb (streamFormat.scan (parser.discard magicAt).buffer) := by
        rw [scanned, absorb_append _ _ (parser.buffer.drop magicAt), absorb_unmarked]
        rfl
      dsimp only
      rw [same, absorbed]
      rcases @absorb_readFront (parser.discard magicAt) front with ⟨goesOn, less, next⟩ | last
      · exact Or.inl ⟨goesOn, less.trans_le shorter, next⟩
      · exact Or.inr last

/-- The loop absorbs what the scan makes of the buffer. -/
theorem loop_eq (fuel : ℕ) : parser.buffer.length < fuel →
    loop fuel parser = parser.absorb (streamFormat.scan parser.buffer) := by
  induction fuel generalizing parser with
  | zero =>
      intro none
      exact absurd none (Nat.not_lt_zero _)
  | succ fuel inductionHypothesis =>
      intro enough
      unfold loop
      rcases @absorb_turn parser with ⟨goesOn, less, next⟩ | ⟨last, ended⟩
      · generalize parser.turn = turned at goesOn less next
        obtain ⟨more, after⟩ := turned
        obtain rfl : more = true := goesOn
        have fewer : after.buffer.length < parser.buffer.length := less
        rw [next]
        exact inductionHypothesis (by omega)
      · generalize parser.turn = turned at last ended
        obtain ⟨more, after⟩ := turned
        obtain rfl : more = false := last
        exact ended.symm

theorem feedPiece_eq (parser : FrameParser) (data : List UInt8) :
    parser.feedPiece data = parser.absorb (streamFormat.scan (parser.buffer ++ data)) :=
  loop_eq _ (Nat.lt_succ_self _)

/-- Two pieces are absorbed like one. -/
theorem absorb_absorb (parser : FrameParser) (first second : List UInt8) :
    (parser.absorb (streamFormat.scan first)).absorb
        (streamFormat.scan ((streamFormat.scan first).2 ++ second)) =
      parser.absorb (streamFormat.scan (first ++ second)) := by
  rw [FrameFormat.scan_append first second, absorb_append _ _ (streamFormat.scan first).2]

theorem foldl_feedPiece_eq (pieces : List (List UInt8)) (scanned : List UInt8) :
    pieces.foldl feedPiece (parser.absorb (streamFormat.scan scanned)) =
      parser.absorb (streamFormat.scan (scanned ++ pieces.flatten)) := by
  induction pieces generalizing scanned with
  | nil => simp
  | cons piece rest inductionHypothesis =>
      have first : (parser.absorb (streamFormat.scan scanned)).feedPiece piece =
          parser.absorb (streamFormat.scan (scanned ++ piece)) := by
        rw [feedPiece_eq]
        exact absorb_absorb parser scanned piece
      rw [List.foldl_cons, first, inductionHypothesis, List.append_assoc, List.flatten_cons]

/-- The pieces in which `feed` takes what is too long for one make up what it was given. -/
theorem flatten_pieces (data : List UInt8) (size count : ℕ) :
    ((List.range count).map fun index => (data.drop (index * size)).take size).flatten =
      data.take (count * size) := by
  induction count with
  | zero => simp
  | succ count inductionHypothesis =>
      rw [List.range_succ, List.map_append, List.flatten_append, inductionHypothesis,
        Nat.succ_mul, List.take_add]
      simp

theorem feed_absorb (scanned data : List UInt8) :
    (parser.absorb (streamFormat.scan scanned)).feed data =
      parser.absorb (streamFormat.scan (scanned ++ data)) := by
  unfold feed
  split_ifs with long
  · have whole : data.length ≤ (data.length + MAX_FEED_SIZE - 1) / MAX_FEED_SIZE * MAX_FEED_SIZE := by
      unfold MAX_FEED_SIZE
      omega
    rw [← List.foldl_map (f := fun index => (data.drop (index * MAX_FEED_SIZE)).take MAX_FEED_SIZE)
      (g := feedPiece), foldl_feedPiece_eq, flatten_pieces, List.take_of_length_le whole]
  · rw [feedPiece_eq]
    exact absorb_absorb parser scanned data

/-- However the bytes are cut into pieces, the parser comes to what the scan makes of them all. -/
theorem foldl_feed_eq (chunks : List (List UInt8)) :
    chunks.foldl feed {} = absorb {} (streamFormat.scan chunks.flatten) := by
  have from_ : ∀ (chunks : List (List UInt8)) (scanned : List UInt8),
      chunks.foldl feed (absorb {} (streamFormat.scan scanned)) =
        absorb {} (streamFormat.scan (scanned ++ chunks.flatten)) := by
    intro chunks
    induction chunks with
    | nil =>
        intro scanned
        simp
    | cons chunk rest inductionHypothesis =>
        intro scanned
        rw [List.foldl_cons, feed_absorb, inductionHypothesis, List.append_assoc,
          List.flatten_cons]
  have start : absorb {} (streamFormat.scan []) = {} := rfl
  have fed := from_ chunks []
  rwa [start, List.nil_append] at fed

theorem payload_length {buffer : List UInt8} {size : ℕ} {value : FrameContent}
    (judged : streamFront buffer = .frame size value) :
    size = HEADER_SIZE + value.payload.length + TRAILER_SIZE := by
  obtain ⟨total, within, -, rfl⟩ := markedFront_eq_frame (streamFront_eq_frame judged)
  have length : ((buffer.drop HEADER_SIZE).take (payloadSize buffer)).length =
      payloadSize buffer := by
    rw [List.length_take, List.length_drop]
    omega
  rw [total]
  show _ = HEADER_SIZE + ((buffer.drop HEADER_SIZE).take (payloadSize buffer)).length + TRAILER_SIZE
  rw [length]

/-- What may still become a frame is shorter than the longest frame. -/
theorem length_unfinished {buffer : List UInt8} (unfinished : streamFront buffer = .unfinished) :
    buffer.length < MAX_FRAME_SIZE := by
  unfold MAX_FRAME_SIZE HEADER_SIZE MAX_PAYLOAD_SIZE TRAILER_SIZE
  match buffer with
  | [] => decide
  | [first] =>
      show 1 < 108
      decide
  | first :: second :: rest =>
      unfold streamFront at unfinished
      dsimp only at unfinished
      split_ifs at unfinished
      generalize (first :: second :: rest) = buffer at *
      unfold markedFront at unfinished
      split_ifs at unfinished with short malformed pending mismatch
      · unfold HEADER_SIZE at short
        omega
      · unfold HEADER_SIZE TRAILER_SIZE at pending
        unfold MAX_PAYLOAD_SIZE at malformed
        omega

/-- What the host makes of the bytes of a port -/
structure Accounts (parser : FrameParser) (bytes : List UInt8) : Prop where
  /-- Each byte is one of a frame, or it was discarded; those that were left over count among these. -/
  total : (parser.frames.map Frame.size).sum + parser.discardedBytes = bytes.length
  offset : parser.streamOffset = bytes.length
  buffer : parser.buffer = []
  counted : parser.validFrames = parser.frames.length
  errors : parser.crcErrors + parser.malformedHeaders + parser.incompleteBytes ≤
    parser.discardedBytes
  /-- A frame is at its place, its header well formed and its checksum right. -/
  placed : ∀ frame ∈ parser.frames,
    streamFront (bytes.drop frame.rawOffset) = .frame frame.size frame.content
  apart : parser.frames.Pairwise fun earlier later =>
    earlier.rawOffset + earlier.size ≤ later.rawOffset

theorem size_of_placed {bytes : List UInt8} {taken : Placed FrameContent}
    (within : taken ∈ placed 0 (streamFormat.scan bytes).1) :
    streamFront (bytes.drop taken.offset) =
        .frame (Frame.size ⟨taken.value, taken.offset⟩) taken.value ∧
      Frame.size ⟨taken.value, taken.offset⟩ = taken.size := by
  have there : streamFront (bytes.drop taken.offset) = .frame taken.size taken.value :=
    FrameFormat.front_of_placed within
  have size : taken.size = Frame.size ⟨taken.value, taken.offset⟩ := payload_length there
  exact ⟨size ▸ there, size.symm⟩

theorem extent_eq (offset : ℕ) (events : List (Scanned Noise FrameContent)) :
    extent events = ((placed offset events).map Placed.size).sum +
      passed (fun _ => true) events := by
  induction events generalizing offset with
  | nil => rfl
  | cons event rest inductionHypothesis =>
      cases event with
      | noise cause =>
          rw [extent_noise, placed_noise, passed_noise, inductionHypothesis (offset + 1)]
          simp
          omega
      | frame size value =>
          rw [extent_frame, placed_frame, passed_frame, inductionHypothesis (offset + size)]
          simp
          omega

theorem passed_le (events : List (Scanned Noise FrameContent)) :
    passed (· == .checksum) events + passed (· == .malformed) events ≤
      passed (fun _ => true) events := by
  induction events with
  | nil => exact Nat.le_refl 0
  | cons event rest inductionHypothesis =>
      cases event with
      | noise cause =>
          have one : (cause == Noise.checksum).toNat + (cause == Noise.malformed).toNat ≤ 1 := by
            cases cause <;> decide
          simp only [passed_noise, Bool.toNat_true]
          omega
      | frame size value =>
          simp only [passed_frame]
          exact inductionHypothesis

/-- However the bytes arrive, the parser comes to the same end, and it accounts for every byte. -/
theorem parse_accounts (chunks : List (List UInt8)) :
    (chunks.foldl feed {}).finish = (feed {} chunks.flatten).finish ∧
      Accounts (chunks.foldl feed {}).finish chunks.flatten := by
  have alone : feed {} chunks.flatten = chunks.foldl feed {} := by
    have one := foldl_feed_eq [chunks.flatten]
    rw [List.flatten_singleton, ← foldl_feed_eq] at one
    exact one
  refine ⟨by rw [alone], ?_⟩
  rw [foldl_feed_eq]
  generalize chunks.flatten = bytes
  have whole := @FrameFormat.extent_scan _ _ _ streamFormat bytes
  have parts := extent_eq 0 (streamFormat.scan bytes).1
  have few := passed_le (streamFormat.scan bytes).1
  have frames : (finish (absorb {} (streamFormat.scan bytes))).frames =
      (placed 0 (streamFormat.scan bytes).1).map fun taken => ⟨taken.value, taken.offset⟩ := rfl
  have discarded : (finish (absorb {} (streamFormat.scan bytes))).discardedBytes =
      passed (fun _ => true) (streamFormat.scan bytes).1 + (streamFormat.scan bytes).2.length := by
    simp [finish, discard, absorb]
  have sizes : ((finish (absorb {} (streamFormat.scan bytes))).frames.map Frame.size) =
      (placed 0 (streamFormat.scan bytes).1).map Placed.size := by
    rw [frames, List.map_map]
    exact List.map_congr_left fun taken within => (size_of_placed within).2
  have checksums : (finish (absorb {} (streamFormat.scan bytes))).crcErrors =
      passed (· == Noise.checksum) (streamFormat.scan bytes).1 := Nat.zero_add _
  have headers : (finish (absorb {} (streamFormat.scan bytes))).malformedHeaders =
      passed (· == Noise.malformed) (streamFormat.scan bytes).1 := Nat.zero_add _
  have incomplete : (finish (absorb {} (streamFormat.scan bytes))).incompleteBytes =
      (streamFormat.scan bytes).2.length := rfl
  constructor
  · rw [sizes, discarded]
    omega
  · show 0 + extent (streamFormat.scan bytes).1 + (streamFormat.scan bytes).2.length = _
    omega
  · show List.drop _ _ = []
    exact List.drop_length
  · rw [frames, List.length_map]
    exact Nat.zero_add _
  · rw [discarded, checksums, headers, incomplete]
    omega
  · intro frame within
    rw [frames] at within
    obtain ⟨taken, there, rfl⟩ := List.mem_map.mp within
    exact (size_of_placed there).1
  · rw [frames, List.pairwise_map]
    refine (FrameFormat.disjoint_placed 0 (streamFormat.scan bytes).1).imp_of_mem ?_
    intro earlier later within _ apart
    rw [(size_of_placed within).2]
    exact apart

/-- A frame in the bytes is not missed, whatever is before and behind it, unless one that was taken covers
its first byte; at the end of the bytes it may have to wait for a longer one that seems to begin before. -/
theorem frame_taken (chunks : List (List UInt8)) {start size : ℕ} {content : FrameContent}
    (there : streamFront (chunks.flatten.drop start) = .frame size content)
    (followed : start + MAX_FRAME_SIZE ≤ chunks.flatten.length) :
    ∃ frame ∈ (chunks.foldl feed {}).frames, frame = ⟨content, start⟩ ∨
      frame.rawOffset < start ∧ start < frame.rawOffset + frame.size := by
  rw [foldl_feed_eq]
  generalize chunks.flatten = bytes at there followed ⊢
  have whole := @FrameFormat.extent_scan _ _ _ streamFormat bytes
  have short := length_unfinished (@FrameFormat.front_rest _ _ _ streamFormat bytes)
  obtain ⟨taken, within, covers⟩ := @FrameFormat.covered_of_front _ _ _ streamFormat bytes start size
    content there (by omega) 0
  refine ⟨⟨taken.value, taken.offset⟩, List.mem_map.mpr ⟨taken, within, rfl⟩, ?_⟩
  rcases covers with same | ⟨before, beyond⟩
  · left
    rw [same]
    simp
  · right
    rw [(size_of_placed within).2]
    show taken.offset < start ∧ start < taken.offset + taken.size
    omega

/-- A frame after another byte, with a frame's length of other bytes behind it -/
def amongOthers : List (List UInt8) :=
  [[0x20, 0xA5], [0x5A, 1, 1, 2, 0, 3, 0, 0, 0, 7, 0xA5, 0xC1, 0x58], List.replicate 96 0]

theorem frame_taken_among_others : ∃ frame ∈ (amongOthers.foldl feed {}).frames,
    frame = ⟨⟨1, 1, 3, [7, 0xA5]⟩, 1⟩ ∨
      frame.rawOffset < 1 ∧ 1 < frame.rawOffset + frame.size :=
  frame_taken amongOthers (by decide +kernel : _ = Front.frame 14 _) (by decide)

/-- Bytes behind marks that are no frame are counted, unless a frame that was taken covers the marks. -/
theorem noise_counted (chunks : List (List UInt8)) {start : ℕ} {cause : Noise}
    (there : streamFront (chunks.flatten.drop start) = .noise cause) (marked : cause ≠ .unmarked)
    (followed : start + MAX_FRAME_SIZE ≤ chunks.flatten.length) :
    0 < (chunks.foldl feed {}).crcErrors + (chunks.foldl feed {}).malformedHeaders ∨
      ∃ frame ∈ (chunks.foldl feed {}).frames,
        frame.rawOffset < start ∧ start < frame.rawOffset + frame.size := by
  rw [foldl_feed_eq]
  generalize chunks.flatten = bytes at there followed ⊢
  have whole := @FrameFormat.extent_scan _ _ _ streamFormat bytes
  have short := length_unfinished (@FrameFormat.front_rest _ _ _ streamFormat bytes)
  have past : start < extent (streamFormat.scan bytes).1 := by omega
  have counted : ∀ kind : Noise → Bool, kind cause = true →
      0 < passed kind (streamFormat.scan bytes).1 ∨
        ∃ frame ∈ (absorb {} (streamFormat.scan bytes)).frames,
          frame.rawOffset < start ∧ start < frame.rawOffset + frame.size := by
    intro kind told
    refine (@FrameFormat.passed_of_front _ _ _ streamFormat bytes start cause kind there told past
      0).imp_right ?_
    rintro ⟨taken, within, before, beyond⟩
    refine ⟨⟨taken.value, taken.offset⟩, List.mem_map.mpr ⟨taken, within, rfl⟩, ?_⟩
    rw [(size_of_placed within).2]
    show taken.offset < start ∧ start < taken.offset + taken.size
    omega
  have checksums : (absorb {} (streamFormat.scan bytes)).crcErrors =
      passed (· == Noise.checksum) (streamFormat.scan bytes).1 := Nat.zero_add _
  have headers : (absorb {} (streamFormat.scan bytes)).malformedHeaders =
      passed (· == Noise.malformed) (streamFormat.scan bytes).1 := Nat.zero_add _
  rw [checksums, headers]
  cases cause with
  | unmarked => exact absurd rfl marked
  | malformed => exact (counted (· == .malformed) rfl).imp_left fun some => by omega
  | checksum => exact (counted (· == .checksum) rfl).imp_left fun some => by omega

end FrameParser

end MissionBoard.Bringup
