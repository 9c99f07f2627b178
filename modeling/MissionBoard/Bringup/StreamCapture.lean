import MissionBoard.Bringup.FrameBytes

/-!
Owns what reaches the host of a capture: `FrameParser` takes the frames that went out and passes over the
text between them, and `SequenceTracker` counts the frames that had no room.
-/

namespace MissionBoard.Bringup

open LittleEndian
open Characterization (espOk)
open Scanned

/-! ### Frames and text -/

/-- There are no marks in the text. -/
def Unmarked (text : List UInt8) : Prop := ¬MAGIC <:+: text

instance (text : List UInt8) : Decidable (Unmarked text) :=
  inferInstanceAs (Decidable (¬MAGIC <:+: text))

theorem Unmarked.tail {first : UInt8} {rest : List UInt8} (unmarked : Unmarked (first :: rest)) :
    Unmarked rest := fun within => unmarked (within.trans (List.suffix_cons first rest).isInfix)

theorem Unmarked.front {first second : UInt8} {rest : List UInt8}
    (unmarked : Unmarked (first :: second :: rest)) : ¬(first = 0xA5 ∧ second = 0x5A) := by
  rintro ⟨rfl, rfl⟩
  exact unmarked ⟨[], rest, rfl⟩

/-- The marks of a frame are found behind the text before it. -/
theorem findMagic_text {text : List UInt8} (unmarked : Unmarked text) (rest : List UInt8) :
    findMagic (text ++ 0xA5 :: 0x5A :: rest) = some text.length := by
  induction text with
  | nil => rfl
  | cons first more inductionHypothesis =>
      have later := inductionHypothesis unmarked.tail
      cases more with
      | nil =>
          have unlike : ¬(first = 0xA5 ∧ (0xA5 : UInt8) = 0x5A) := fun marked =>
            absurd marked.2 (by decide)
          show findMagic (first :: 0xA5 :: 0x5A :: rest) = some 1
          rw [findMagic, if_neg unlike]
          exact congrArg (Option.map (· + 1)) later
      | cons second others =>
          show findMagic (first :: second :: (others ++ 0xA5 :: 0x5A :: rest)) = some _
          rw [findMagic, if_neg unmarked.front]
          exact congrArg (Option.map (· + 1)) later

theorem findMagic_none {text : List UInt8} (unmarked : Unmarked text) : findMagic text = none := by
  induction text with
  | nil => rfl
  | cons first more inductionHypothesis =>
      cases more with
      | nil => rfl
      | cons second others =>
          rw [findMagic, if_neg unmarked.front]
          exact congrArg (Option.map (· + 1)) (inductionHypothesis unmarked.tail)

open FrameParser (unmarked scan_some scan_none keep)

/-- What the scan makes of the frames of a capture and the text between them -/
def heard (segments : List (List UInt8 × StreamFrame)) : List (Scanned Noise FrameContent) :=
  segments.flatMap fun segment =>
    unmarked segment.1.length ++ [.frame segment.2.bytes.length segment.2.content]

theorem scan_spelled (segments : List (List UInt8 × StreamFrame)) (text : List UInt8)
    (plain : ∀ segment ∈ segments, Unmarked segment.1) (plainLast : Unmarked text) :
    streamFormat.scan (StreamProtocol.spelled segments ++ text) =
      (heard segments ++ unmarked (text.length - keep text),
        text.drop (text.length - keep text)) := by
  induction segments with
  | nil => exact scan_none (findMagic_none plainLast)
  | cons segment rest inductionHypothesis =>
      obtain ⟨before, frame⟩ := segment
      have later := inductionHypothesis fun other within =>
        plain other (List.mem_cons_of_mem _ within)
      have marks : ∃ more, frame.bytes = 0xA5 :: 0x5A :: more := ⟨_, rfl⟩
      obtain ⟨more, marks⟩ := marks
      have whole : StreamProtocol.spelled ((before, frame) :: rest) ++ text =
          before ++ (frame.bytes ++ (StreamProtocol.spelled rest ++ text)) := by
        simp [StreamProtocol.spelled]
      have found : findMagic (before ++ (frame.bytes ++ (StreamProtocol.spelled rest ++ text))) =
          some before.length := by
        rw [marks]
        exact findMagic_text (plain _ List.mem_cons_self) _
      have front : streamFormat.front (frame.bytes ++ (StreamProtocol.spelled rest ++ text)) =
          .frame frame.bytes.length frame.content := frame.front_bytes _
      rw [whole, (scan_some found).1, List.drop_left, FrameFormat.scan_frame front, List.drop_left,
        later]
      simp [heard]

/-! ### The numbers of the frames -/

/-- `SequenceTracker` -/
structure SequenceTracker where
  expectedFirst : Option ℕ
  first : Option ℕ := none
  last : Option ℕ := none
  gapEvents : ℕ := 0
  missingFrames : ℕ := 0
  duplicates : ℕ := 0
  outOfOrder : ℕ := 0
  /-- The numbers before and after a gap and how many are missing -/
  examples : List (ℕ × ℕ × ℕ) := []

namespace SequenceTracker

/-- `(later - earlier) & 0xFFFFFFFF` -/
def delta (later earlier : ℕ) : ℕ := (((later : ℤ) - earlier) % 2 ^ 32).toNat

/-- `observe` -/
def observe (tracker : SequenceTracker) (sequence : ℕ) : SequenceTracker :=
  match tracker.first, tracker.last with
  | none, _ =>
      let started := { tracker with first := some sequence, last := some sequence }
      match tracker.expectedFirst with
      | none => started
      | some expected =>
          let delta := delta sequence expected
          if 0 < delta ∧ delta < 0x80000000 then
            { started with
              gapEvents := started.gapEvents + 1
              missingFrames := started.missingFrames + delta
              examples := started.examples ++
                [(SequenceTracker.delta expected 1, sequence, delta)] }
          else if delta ≥ 0x80000000 then { started with outOfOrder := started.outOfOrder + 1 }
          else started
  | some _, none => tracker
  | some _, some last =>
      let delta := delta sequence last
      if delta = 0 then { tracker with duplicates := tracker.duplicates + 1 }
      else if delta = 1 then { tracker with last := some sequence }
      else if delta < 0x80000000 then
        { tracker with
          gapEvents := tracker.gapEvents + 1
          missingFrames := tracker.missingFrames + (delta - 1)
          examples :=
            if tracker.examples.length < 20 then
              tracker.examples ++ [(last, sequence, delta - 1)]
            else tracker.examples
          last := some sequence }
      else { tracker with outOfOrder := tracker.outOfOrder + 1 }

end SequenceTracker

/-- How many of the last sends had no room -/
def refusedLast (log : List (StreamFrame × Bool)) : ℕ :=
  (log.reverse.takeWhile fun entry => !entry.2).length

/-- How many sends had no room -/
def refused (log : List (StreamFrame × Bool)) : ℕ := log.countP fun entry => !entry.2

/-- What the tracker knows when it has observed the accepted frames of the log -/
structure Tracks (tracker : SequenceTracker) (log : List (StreamFrame × Bool)) : Prop where
  expected : tracker.expectedFirst = some 0
  missing : tracker.missingFrames + refusedLast log = refused log
  duplicates : tracker.duplicates = 0
  outOfOrder : tracker.outOfOrder = 0
  last : tracker.last = if refusedLast log = log.length then none
    else some ((log.length - 1 - refusedLast log) % 2 ^ 32)
  first : tracker.first = none ↔ tracker.last = none
  gaps : tracker.gapEvents = 0 → tracker.missingFrames = 0

@[simp] theorem refusedLast_accepted (log : List (StreamFrame × Bool)) (frame : StreamFrame) :
    refusedLast (log ++ [(frame, true)]) = 0 := by
  simp [refusedLast]

@[simp] theorem refusedLast_refused (log : List (StreamFrame × Bool)) (frame : StreamFrame) :
    refusedLast (log ++ [(frame, false)]) = refusedLast log + 1 := by
  simp [refusedLast]

@[simp] theorem refused_accepted (log : List (StreamFrame × Bool)) (frame : StreamFrame) :
    refused (log ++ [(frame, true)]) = refused log := by
  simp [refused]

@[simp] theorem refused_refused (log : List (StreamFrame × Bool)) (frame : StreamFrame) :
    refused (log ++ [(frame, false)]) = refused log + 1 := by
  simp [refused]

theorem refusedLast_le (log : List (StreamFrame × Bool)) :
    refusedLast log ≤ refused log ∧ refused log ≤ log.length := by
  induction log using List.reverseRecOn with
  | nil => exact ⟨Nat.le_refl 0, Nat.le_refl 0⟩
  | append_singleton log entry inductionHypothesis =>
      obtain ⟨frame, room⟩ := entry
      rw [List.length_append, List.length_singleton]
      cases room with
      | true =>
          rw [refusedLast_accepted, refused_accepted]
          omega
      | false =>
          rw [refusedLast_refused, refused_refused]
          omega

theorem tracks_start : Tracks { expectedFirst := some 0 } [] := by
  constructor <;> first | rfl | exact fun _ => rfl

/-- The frame that was observed last is the last one of the log. -/
theorem tracks_accepted {next : SequenceTracker} {log : List (StreamFrame × Bool)}
    (frame : StreamFrame) {seen : ℕ} (expected : next.expectedFirst = some 0)
    (missing : next.missingFrames = refused log) (duplicates : next.duplicates = 0)
    (outOfOrder : next.outOfOrder = 0) (first : next.first = some seen)
    (last : next.last = some (log.length % 2 ^ 32))
    (gaps : next.gapEvents = 0 → next.missingFrames = 0) : Tracks next (log ++ [(frame, true)]) := by
  constructor
  · exact expected
  · rw [refusedLast_accepted, refused_accepted]
    exact missing
  · exact duplicates
  · exact outOfOrder
  · rw [refusedLast_accepted, List.length_append, List.length_singleton, if_neg (by omega), last]
    congr 2
  · rw [first, last]
    simp
  · exact gaps

theorem tracks_observe {tracker : SequenceTracker} {log : List (StreamFrame × Bool)}
    (tracks : Tracks tracker log) (frame : StreamFrame) (few : refused log + 1 < 2 ^ 31)
    (number : frame.sequence = UInt32.ofNat log.length) :
    Tracks (tracker.observe frame.sequence.toNat) (log ++ [(frame, true)]) := by
  obtain ⟨expected, missing, duplicates, outOfOrder, last, first, gaps⟩ := tracks
  obtain ⟨lastFew, few'⟩ := refusedLast_le log
  have sequence : frame.sequence.toNat = log.length % 2 ^ 32 := by
    rw [number, UInt32.toNat_ofNat']
  unfold SequenceTracker.observe
  rw [sequence]
  by_cases none : refusedLast log = log.length
  · rw [if_pos none] at last
    have unseen := first.mpr last
    have delta : SequenceTracker.delta (log.length % 2 ^ 32) 0 = log.length := by
      unfold SequenceTracker.delta
      omega
    rw [unseen, last, expected]
    dsimp only
    rw [delta]
    split_ifs with some late
    · have counted : tracker.missingFrames + log.length = refused log := by omega
      exact tracks_accepted frame rfl counted duplicates outOfOrder rfl rfl
        fun none => absurd none (Nat.succ_ne_zero _)
    · omega
    · have counted : tracker.missingFrames = refused log := by omega
      exact tracks_accepted frame rfl counted duplicates outOfOrder rfl rfl gaps
  · rw [if_neg none] at last
    have seen : ∃ number, tracker.first = some number := by
      cases known : tracker.first with
      | none =>
          rw [first.mp known] at last
          cases last
      | some number => exact ⟨number, rfl⟩
    obtain ⟨number, seen⟩ := seen
    have delta : SequenceTracker.delta (log.length % 2 ^ 32)
        ((log.length - 1 - refusedLast log) % 2 ^ 32) = refusedLast log + 1 := by
      unfold SequenceTracker.delta
      omega
    rw [seen, last]
    dsimp only
    rw [delta]
    rw [if_neg (Nat.succ_ne_zero _)]
    by_cases following : refusedLast log + 1 = 1
    · rw [if_pos following]
      have counted : tracker.missingFrames = refused log := by omega
      exact tracks_accepted frame expected counted duplicates outOfOrder rfl rfl gaps
    · have near : refusedLast log + 1 < 0x80000000 := by omega
      rw [if_neg following, if_pos near]
      have counted : tracker.missingFrames + (refusedLast log + 1 - 1) = refused log := by omega
      exact tracks_accepted frame expected counted duplicates outOfOrder rfl rfl
        fun none => absurd none (Nat.succ_ne_zero _)

theorem tracks_refused {tracker : SequenceTracker} {log : List (StreamFrame × Bool)}
    (tracks : Tracks tracker log) (frame : StreamFrame) :
    Tracks tracker (log ++ [(frame, false)]) := by
  obtain ⟨expected, missing, duplicates, outOfOrder, last, first, gaps⟩ := tracks
  have few := (refusedLast_le log).2
  refine ⟨expected, ?_, duplicates, outOfOrder, ?_, first, gaps⟩
  · rw [refusedLast_refused, refused_refused]
    omega
  · rw [last, refusedLast_refused, List.length_append, List.length_singleton]
    split_ifs with none more more
    · rfl
    · omega
    · omega
    · congr 2
      omega

/-- The tracker of a capture whose frames are numbered from zero on -/
theorem tracks_log (log : List (StreamFrame × Bool))
    (numbers : (log.map Prod.fst).map StreamFrame.sequence =
      (List.range log.length).map UInt32.ofNat)
    (few : refused log + 1 < 2 ^ 31) :
    Tracks (((log.filter Prod.snd).map Prod.fst).foldl
      (fun tracker frame => tracker.observe frame.sequence.toNat) { expectedFirst := some 0 }) log := by
  induction log using List.reverseRecOn with
  | nil => exact tracks_start
  | append_singleton log entry inductionHypothesis =>
      obtain ⟨frame, room⟩ := entry
      rw [List.length_append, List.length_singleton, List.range_succ, List.map_append,
        List.map_append, List.map_append] at numbers
      obtain ⟨before, last⟩ := List.append_inj' numbers rfl
      have number : frame.sequence = UInt32.ofNat log.length := List.head_eq_of_cons_eq last
      cases room with
      | true =>
          rw [refused_accepted] at few
          have known := inductionHypothesis before few
          simpa using tracks_observe known frame few number
      | false =>
          rw [refused_refused] at few
          have known := inductionHypothesis before (by omega)
          simpa using tracks_refused known frame

/-! ### A capture -/

theorem placed_heard (offset : ℕ) (segments : List (List UInt8 × StreamFrame)) :
    (placed offset (heard segments)).map Placed.value =
      segments.map fun segment => segment.2.content := by
  induction segments generalizing offset with
  | nil => rfl
  | cons segment rest inductionHypothesis =>
      have whole : heard (segment :: rest) = unmarked segment.1.length ++
          .frame segment.2.bytes.length segment.2.content :: heard rest := by
        simp [heard]
      rw [whole, placed_append, FrameParser.placed_unmarked, List.nil_append, placed_frame,
        List.map_cons, List.map_cons, inductionHypothesis]

theorem passed_heard (kind : Noise → Bool) (segments : List (List UInt8 × StreamFrame)) :
    passed kind (heard segments) =
      if kind .unmarked then (segments.map fun segment => segment.1.length).sum else 0 := by
  induction segments with
  | nil => simp [heard]
  | cons segment rest inductionHypothesis =>
      have whole : heard (segment :: rest) = unmarked segment.1.length ++
          .frame segment.2.bytes.length segment.2.content :: heard rest := by
        simp [heard]
      rw [whole, passed_append, FrameParser.passed_unmarked, passed_frame, inductionHypothesis]
      split_ifs
      · rfl
      · rfl

/-- The tracker of a capture that the host has asked for -/
def observed (parser : FrameParser) : SequenceTracker :=
  (parser.frames.map fun frame => frame.content.sequence).foldl SequenceTracker.observe
    { expectedFirst := some 0 }

/-- What the host knows of a capture when it has all its bytes -/
structure Received (protocol : StreamProtocol) (parser : FrameParser) : Prop where
  /-- The frames are those for which `send` has returned `ESP_OK`. -/
  frames : parser.frames.map Frame.content = protocol.accepted.map StreamFrame.content
  crcErrors : parser.crcErrors = 0
  malformedHeaders : parser.malformedHeaders = 0
  /-- What was discarded is the text. -/
  discardedBytes : parser.discardedBytes =
    (protocol.written.map fun segment => segment.1.length).sum + protocol.text.length
  /-- The frames that are missing are those that had no room, except any after the last that had. -/
  missingFrames : (observed parser).missingFrames + refusedLast protocol.log =
    protocol.dropped.toNat
  duplicates : (observed parser).duplicates = 0
  outOfOrder : (observed parser).outOfOrder = 0

/-- A capture of one frame, with a line of text before it -/
def shortCapture : List StreamCall :=
  [.beginCapture, .print [0x6F, 0x6B, 0xA5], .send .encoder ⟨[0xA5, 0x5A], by decide⟩, .enqueue,
    .receive, .write 5, .finish, .poll false, .write 9, .complete, .poll false]

end MissionBoard.Bringup
