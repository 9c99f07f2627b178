import MissionBoard.Characterization.Checksum
import MissionBoard.Characterization.FooterRoundTrip
import MissionBoard.Characterization.RecordRoundTrip
import MissionBoard.Characterization.WriterContent

/-!
Owns what a file of `LogWriterV5` holds when it is closed: in a run in which no write fails, that
is closed after `drainAndSync`, and whose `open` found both tasks at rest, it is the header, the
accepted records and a footer that describes them.
-/

namespace MissionBoard.Characterization

open Storage (IoAnswer OpenFile)

/-- The footer that describes these records behind this header -/
def completedFooter (footer : LogFooter) (image : HeaderBytes) (records : List StagedRecord)
    (overflows : UInt64) : LogFooter :=
  { footer with
    totalRecords := .ofNat records.length
    firstSequence := (records.head?.map (·.sequence)).getD 0
    lastSequence := (records.getLast?.map (·.sequence)).getD 0
    fileCrc32 := crc32 (image.toList ++ batchBytes records) 0
    statistics := { footer.statistics with writerQueueOverflows := overflows } }

/-- The file ends with the footer, or with nothing when `encodeFooter` refuses it. -/
def footerPart (footer : LogFooter) : List UInt8 := (encodeFooter footer).elim [] (·.toList)

/-- The file is the header, each of these records once in this order, and a footer that
describes exactly these bytes. -/
def ClosedFile.Delivers (closed : ClosedFile) (accepted : List LogRecord) : Prop :=
  ∃ (records : List StagedRecord) (overflows : UInt64),
    accepted.map stagedOf = records.map some ∧
      closed.bytes = closed.image.toList ++ batchBytes records ++
        footerPart (completedFooter closed.footer closed.image records overflows)

/-- A file that holds so many records is so long. -/
theorem ClosedFile.Delivers.length_le {closed : ClosedFile} {accepted : List LogRecord}
    (delivers : closed.Delivers accepted) :
    kHeaderBytes + kRecordBytes * accepted.length ≤ closed.bytes.length := by
  obtain ⟨records, overflows, same, bytes⟩ := delivers
  have count := congrArg List.length same
  rw [List.length_map, List.length_map] at count
  rw [bytes, List.length_append, List.length_append, length_batchBytes, Vector.length_toList, count]
  exact Nat.le_add_right _ _

/-! ### The file -/

/-- The file holds these bytes, and its descriptor stands behind them. -/
structure Holding (file : OpenFile) (bytes : List UInt8) : Prop where
  content : file.bytes.take file.position = bytes
  position : file.position = bytes.length

namespace Holding

variable {file : OpenFile} {bytes : List UInt8}

theorem write (holding : Holding file bytes) (more : List UInt8) :
    Holding (file.write more) (bytes ++ more) := by
  obtain ⟨content, position⟩ := holding
  have within : file.position ≤ file.bytes.length := by
    have length := congrArg List.length content
    rw [List.length_take] at length
    omega
  have upTo : file.upTo file.position = bytes := by
    unfold OpenFile.upTo
    rw [Nat.sub_eq_zero_of_le within, List.replicate_zero, List.append_nil, content]
  refine ⟨?_, ?_⟩
  · unfold OpenFile.write
    dsimp only
    rw [upTo]
    apply List.take_left'
    rw [List.length_append, position]
  · unfold OpenFile.write
    dsimp only
    rw [List.length_append, position]

theorem rewritten (file : OpenFile) (bytes : List UInt8) :
    Holding ((file.seek 0).write bytes) bytes := by
  have start : Holding (file.seek 0) [] := ⟨rfl, rfl⟩
  exact start.write bytes

/-- Truncating drops what is behind the descriptor. -/
theorem truncate (holding : Holding file bytes) : (file.truncate file.position).bytes = bytes := by
  obtain ⟨content, position⟩ := holding
  have within : file.position ≤ file.bytes.length := by
    have length := congrArg List.length content
    rw [List.length_take] at length
    omega
  unfold OpenFile.truncate OpenFile.upTo
  dsimp only
  rw [Nat.sub_eq_zero_of_le within, List.replicate_zero, List.append_nil, content]

end Holding

/-- The counters of the SD task describe these records. -/
structure Counted (image : HeaderBytes) (records : List StagedRecord) (fileCrc32 : UInt32)
    (recordsWritten : ℕ) (firstSequence lastSequence : UInt64) : Prop where
  crc : fileCrc32 = crc32 (image.toList ++ batchBytes records) 0
  count : recordsWritten = records.length
  first : firstSequence = (records.head?.map (·.sequence)).getD 0
  last : lastSequence = (records.getLast?.map (·.sequence)).getD 0

theorem counted_nil (image : HeaderBytes) : Counted image [] (openedCrc32 image) 0 0 0 where
  crc := by
    rw [openedCrc32, batchBytes, List.flatMap_nil, List.append_nil]
  count := rfl
  first := rfl
  last := rfl

/-- A batch that was written is counted. -/
theorem Counted.append {image : HeaderBytes} {records batch : List StagedRecord} {fileCrc32 : UInt32}
    {recordsWritten : ℕ} {firstSequence lastSequence : UInt64}
    (counted : Counted image records fileCrc32 recordsWritten firstSequence lastSequence)
    (some : 0 < batch.length) :
    Counted image (records ++ batch) (drainedCrc32 batch fileCrc32)
      (recordsWritten + batch.length)
      (if recordsWritten = 0 then (batch.head?.map (·.sequence)).getD 0 else firstSequence)
      ((batch.getLast?.map (·.sequence)).getD 0) := by
  obtain ⟨crc, count, first, last⟩ := counted
  have nonempty : batch ≠ [] := List.ne_nil_of_length_pos some
  constructor
  · rw [drainedCrc32, crc, crc32_append, batchBytes_append, List.append_assoc]
  · rw [count, List.length_append]
  · cases records with
    | nil =>
        rw [count]
        rfl
    | cons record rest =>
        rw [if_neg (by rw [count]; exact Nat.succ_ne_zero _), first]
        rfl
  · rw [List.getLast?_append_of_ne_nil _ nonempty]

/-! ### What the tasks have done of a request -/

/-- The request that the task makes -/
def Caller.request : Caller → Option ControlRequest
  | .draining request | .sending request | .awaiting request => some request
  | _ => none

/-- The task is inside `open`. -/
def Caller.opens : Caller → Bool
  | .resetting (.run _) _ | .restarting (.run _) => true
  | _ => false

/-- The task is inside `enqueue`. -/
def Caller.enqueues : Caller → Bool
  | .checked _ | .roomed _ | .stored _ => true
  | _ => false

/-- The stage task has seen, or will see, that nothing is left in its ring. -/
def StagerEmpty (ingressWrite ingressRead : ℕ) : Stager → Prop
  | .polled readIndex => readIndex = ingressRead
  | .receiving | .clearing _ _ | .sending _ _ | .awaiting _ | .finishing _ =>
      ingressRead = ingressWrite
  | _ => True

/-- The task is inside `bestEffortFinalizeFile`. -/
def SdTask.finalizes : SdTask → Bool
  | .footing _ _ _ | .flushing _ | .truncating _ | .closing _ => true
  | _ => false

/-- How many records the counters describe -/
def SdTask.counted (psramRead : ℕ) : SdTask → ℕ
  | .publishing _ readIndex count => readIndex + count
  | _ => psramRead

/-- The records that the task has in its hands -/
def SdBatch (staged : List StagedRecord) : SdTask → Prop
  | .copying _ readIndex _ batch | .writing _ readIndex batch _ | .written _ readIndex batch =>
      batch = (staged.drop readIndex).take batch.length
  | _ => True

/-- What the file holds behind the header and the records that are counted -/
def SdHolds (image : HeaderBytes) (records : List StagedRecord) (footer : LogFooter)
    (file : OpenFile) : SdTask → Prop
  | .writing _ _ batch offset =>
      Holding file (image.toList ++ batchBytes records ++ (batchBytes batch).take offset)
  | .written _ _ batch => Holding file (image.toList ++ batchBytes records ++ batchBytes batch)
  | .footing _ bytes offset =>
      (∃ overflows, encodeFooter (completedFooter footer image records overflows) = some bytes) ∧
        Holding file (image.toList ++ batchBytes records ++ bytes.toList.take offset)
  | .flushing _ | .truncating _ =>
      ∃ overflows, Holding file (image.toList ++ batchBytes records ++
        footerPart (completedFooter footer image records overflows))
  | .closing _ =>
      ∃ overflows, file.bytes = image.toList ++ batchBytes records ++
        footerPart (completedFooter footer image records overflows)
  | _ => Holding file (image.toList ++ batchBytes records)

namespace LogWriter

/-- A run goes on: no other is opened, `close` comes after `drainAndSync`, and no write or
truncation fails. -/
def faultless (writer : LogWriter) : WriterStep → Prop
  | .open _ _ => False
  | .close _ => writer.drained = true
  | .sd answer =>
      match writer.sd with
      | .writing _ _ _ _ | .footing _ _ _ => answer ≠ .fails ∧ answer ≠ .succeeds 0
      | .truncating _ => answer ≠ .fails ∧ answer ≠ .interrupted
      | _ => True
  | _ => True

instance decidableCalm (writer : LogWriter) (label : WriterStep) : Decidable (writer.calm label) := by
  unfold calm
  split <;> infer_instance

instance decidableFaultless (writer : LogWriter) (label : WriterStep) :
    Decidable (writer.faultless label) := by
  unfold faultless
  split
  · infer_instance
  · infer_instance
  · split <;> infer_instance
  · infer_instance

/-- From the moment `drainAndSync` is done on nothing comes into the ring. -/
structure Settled (writer : LogWriter) : Prop where
  refuses : writer.caller.request.isSome = true ∨ writer.drained = true → writer.accepting = false
  apart : writer.drained = true → writer.caller.enqueues = false
  finalizes : ∀ footer, writer.caller.request = some (.finalize footer) → writer.drained = true
  empty : writer.drained = true ∨ writer.controlAck = true →
    StagerEmpty writer.ingressWriteIndex writer.ingressReadIndex writer.stager

/-- The file holds the records that are counted, and what the SD task is writing. -/
structure FileHolds (writer : LogWriter) (image : HeaderBytes) (staged : List StagedRecord) :
    Prop where
  file : ∃ file, writer.file = some file ∧
    SdHolds image (staged.take (writer.sd.counted writer.psramReadIndex)) writer.closingFooter file
      writer.sd
  counted : Counted image (staged.take (writer.sd.counted writer.psramReadIndex)) writer.fileCrc32
    writer.recordsWritten writer.firstSequence writer.lastSequence
  batch : SdBatch staged writer.sd
  whole : writer.sd.finalizes = true → writer.psramReadIndex = writer.psramWriteIndex

/-- The run with this header is open. -/
structure Running (writer : LogWriter) (image : HeaderBytes) : Prop where
  opened : writer.image = some image
  closed : writer.closed = none
  apart : writer.caller.opening = false
  intact : writer.sdWriteFailed = false
  settled : writer.Settled
  content : ∃ staged, writer.Passing staged ∧ writer.FileHolds image staged

/-- The file of the run is closed, and holds what it should. -/
structure Delivered (writer : LogWriter) (image : HeaderBytes) : Prop where
  ended : writer.image = none
  refuses : writer.accepting = false
  apart : writer.caller.enqueues = false
  opens : writer.caller.opens = false
  closed : ∃ closed, writer.closed = some closed ∧ closed.image = image ∧
    closed.Delivers writer.accepted

/-! ### Nothing comes into the ring -/

theorem settled_stagerStep {writer : LogWriter} (settled : writer.Settled) :
    writer.stagerStep.Settled := by
  have only := stagerStep_only writer
  obtain ⟨refuses, apart, finalizes, empty⟩ := settled
  refine ⟨?_, ?_, ?_, ?_⟩
  · rw [only.caller, only.drained, only.accepting]
    exact refuses
  · rw [only.caller, only.drained]
    exact apart
  · rw [only.caller, only.drained]
    exact finalizes
  · rw [only.drained]
    intro done
    obtain ⟨next, stepped⟩ : ∃ next, writer.stagerStep = next := ⟨_, rfl⟩
    rw [stepped] at done ⊢
    cases pc : writer.stager with
    | polled readIndex =>
        simp only [stagerStep, pc] at stepped
        split at stepped
        · subst stepped
          trivial
        · rename_i same
          subst stepped
          have loaded := empty done
          rw [pc] at loaded
          exact loaded.symm.trans (Decidable.not_not.mp same)
    | receiving | clearing | sending | awaiting =>
        simp only [stagerStep, pc] at stepped
        split at stepped
        all_goals
          subst stepped
          have none := empty done
          rw [pc] at none
        all_goals first
          | exact none
          | trivial
          | exact pc ▸ none
    | polling =>
        simp only [stagerStep, pc] at stepped
        subst stepped
        rfl
    | batch | loaded | taking | encoded | roomed | staged | consuming | finishing =>
        simp only [stagerStep, pc, refuseRecord] at stepped
        repeat' split at stepped
        all_goals
          subst stepped
          trivial

theorem accepting_sdStep {writer : LogWriter} (refuses : writer.accepting = false)
    (answer : IoAnswer) : (writer.sdStep answer).accepting = false := by
  have drained : ∀ {next : LogWriter} (request : Option ControlRequest), next.accepting = false →
      (next.drainedAll request).accepting = false := by
    intro next request off
    unfold drainedAll processSdControl
    dsimp only
    repeat' split
    all_goals exact off
  unfold sdStep failBatch append closeDescriptor
  dsimp only
  repeat' split
  all_goals first
    | exact refuses
    | rfl
    | exact drained _ refuses

theorem settled_sdStep {writer : LogWriter} (settled : writer.Settled) (answer : IoAnswer) :
    (writer.sdStep answer).Settled := by
  have only := sdStep_only writer answer
  obtain ⟨refuses, apart, finalizes, empty⟩ := settled
  refine ⟨?_, ?_, ?_, ?_⟩
  · rw [only.caller, only.drained]
    exact fun asked => accepting_sdStep (refuses asked) answer
  · rw [only.caller, only.drained]
    exact apart
  · rw [only.caller, only.drained]
    exact finalizes
  · rw [only.drained, only.controlAck, only.ingressWriteIndex, only.ingressReadIndex, only.stager]
    exact empty

/-- The acknowledgement is for a caller that waits. -/
theorem controlAck_of_free {writer : LogWriter} (sound : writer.Sound)
    (free : writer.caller.awaits = false) : writer.controlAck = false :=
  (free_of_handed sound.handed free).2.2.1

theorem settled_of_free {writer : LogWriter} (request : writer.caller.request = none)
    (drained : writer.drained = false) (ack : writer.controlAck = false) : writer.Settled := by
  refine ⟨?_, ?_, ?_, ?_⟩
  · rw [request, drained]
    exact fun asked => absurd asked (by decide)
  · rw [drained]
    exact fun never => absurd never Bool.false_ne_true
  · rw [request]
    exact fun _ never => absurd never (Option.some_ne_none _).symm
  · rw [drained, ack]
    exact fun never => absurd never (by decide)

theorem settled_callerStep {writer : LogWriter} (sound : writer.Sound) (settled : writer.Settled)
    (closed : writer.caller.opening = false) : writer.callerStep.Settled := by
  have noAck := controlAck_of_free sound
  obtain ⟨refuses, apart, finalizes, empty⟩ := settled
  obtain ⟨next, stepped⟩ : ∃ next, writer.callerStep = next := ⟨_, rfl⟩
  rw [stepped]
  cases pc : writer.caller with
  | checked | roomed | stored =>
      have notDrained : writer.drained = false := by
        by_contra drained
        have apart := apart (Bool.eq_true_of_not_eq_false drained)
        rw [pc] at apart
        cases apart
      have noAck := noAck (congrArg Caller.awaits pc)
      simp only [callerStep, pc] at stepped
      repeat' split at stepped
      all_goals
        subst stepped
        exact settled_of_free rfl notDrained noAck
  | idle =>
      simp only [callerStep, pc] at stepped
      subst stepped
      exact ⟨refuses, apart, finalizes, empty⟩
  | draining request =>
      have noAck := noAck (congrArg Caller.awaits pc)
      rw [pc] at refuses finalizes
      simp only [callerStep, pc] at stepped
      split at stepped
      · rename_i acknowledged
        exact absurd (noAck.symm.trans acknowledged) Bool.false_ne_true
      · subst stepped
        exact ⟨refuses, fun _ => rfl, finalizes, empty⟩
  | sending request =>
      rw [pc] at refuses finalizes
      simp only [callerStep, pc] at stepped
      split at stepped
      all_goals subst stepped
      · exact ⟨pc ▸ refuses, apart, pc ▸ finalizes, empty⟩
      · exact ⟨refuses, fun _ => rfl, finalizes, empty⟩
  | awaiting request =>
      rw [pc] at refuses finalizes
      simp only [callerStep, pc] at stepped
      split at stepped
      · rename_i acknowledged
        subst stepped
        have none := empty (Or.inr acknowledged)
        cases request <;>
          exact ⟨fun _ => refuses (Or.inl rfl), fun _ => rfl,
            fun _ asked => absurd asked (Option.some_ne_none _).symm, fun _ => none⟩
      · subst stepped
        exact ⟨pc ▸ refuses, apart, pc ▸ finalizes, empty⟩
  | resetting | restarting =>
      rw [pc] at closed
      cases closed

/-! ### The file keeps up -/

/-- Both other tasks wait for the SD task while it finalizes the file. -/
theorem awaiting_of_finalizes {writer : LogWriter} (sound : writer.Sound)
    (finalizes : writer.sd.finalizes = true) :
    (∃ footer, writer.caller = .awaiting (.finalize footer)) ∧
      ∃ result, writer.stager = .awaiting result := by
  have busy : writer.sd.idle = false := by
    cases pc : writer.sd with
    | footing | flushing | truncating | closing => rfl
    | _ =>
        rw [pc] at finalizes
        cases finalizes
  have notQuiet : ¬ writer.Quiet := by
    intro quiet
    have idle := quiet.sd
    rw [busy] at idle
    cases idle
  have handed := sound.handed
  cases place : writer.stager with
  | awaiting result =>
      rw [place] at handed
      obtain ⟨request, taken, ⟨-, -, idle⟩ | ⟨-, -, handles⟩ | ⟨-, -, idle⟩⟩ := handed
      · rw [busy] at idle
        cases idle
      · refine ⟨?_, result, rfl⟩
        cases pc : writer.sd with
        | footing | flushing | truncating | closing =>
            rw [pc] at handles
            obtain ⟨footer, rfl⟩ := handles
            exact ⟨footer, taken.caller⟩
        | _ =>
            rw [pc] at finalizes
            cases finalizes
      · rw [busy] at idle
        cases idle
  | clearing | sending | finishing =>
      rw [place] at handed
      exact absurd handed.2 notQuiet
  | _ =>
      rw [place] at handed
      exact absurd handed.2 notQuiet

theorem counted_le {writer : LogWriter} (rings : writer.Rings) :
    writer.sd.counted writer.psramReadIndex ≤ writer.psramWriteIndex := by
  have loaded := rings.sd
  cases pc : writer.sd with
  | publishing =>
      rw [pc] at loaded
      exact loaded.2.2
  | _ => exact rings.psram_le

/-- What is staged later does not change what the SD task has in its hands. -/
theorem sdBatch_append {psramWrite psramRead : ℕ} {staged : List StagedRecord} {sd : SdTask}
    (loaded : SdLoaded psramWrite psramRead sd) (count : staged.length = psramWrite)
    (batch : SdBatch staged sd) (more : List StagedRecord) : SdBatch (staged ++ more) sd := by
  have kept : ∀ {readIndex : ℕ} {taken : List StagedRecord},
      readIndex + taken.length ≤ staged.length →
        taken = (staged.drop readIndex).take taken.length →
          taken = ((staged ++ more).drop readIndex).take taken.length := by
    intro readIndex taken within same
    rw [List.drop_append_of_le_length (by omega), List.take_append_of_le_length]
    · exact same
    · rw [List.length_drop]
      omega
  cases sd with
  | copying =>
      obtain ⟨-, -, within, taken⟩ := loaded
      exact kept (by omega) batch
  | writing | written =>
      obtain ⟨-, -, within⟩ := loaded
      exact kept (by omega) batch
  | _ => trivial

theorem fileHolds_stagerStep {writer : LogWriter} {image : HeaderBytes} {staged : List StagedRecord}
    (sound : writer.Sound) (rings : writer.Rings) (count : staged.length = writer.psramWriteIndex)
    (holds : writer.FileHolds image staged) (more : List StagedRecord) :
    writer.stagerStep.FileHolds image (staged ++ more) := by
  have only := stagerStep_only writer
  have within := counted_le rings
  rw [← count] at within
  obtain ⟨file, counted, batch, whole⟩ := holds
  refine ⟨?_, ?_, ?_, ?_⟩
  · rw [only.file, only.sd, only.psramReadIndex, only.closingFooter,
      List.take_append_of_le_length within]
    exact file
  · rw [only.sd, only.psramReadIndex, only.fileCrc32, only.recordsWritten, only.firstSequence,
      only.lastSequence, List.take_append_of_le_length within]
    exact counted
  · rw [only.sd]
    exact sdBatch_append rings.sd count batch more
  · rw [only.sd, only.psramReadIndex]
    intro finalizes
    obtain ⟨-, result, pc⟩ := awaiting_of_finalizes sound finalizes
    have same : writer.stagerStep.psramWriteIndex = writer.psramWriteIndex := by
      simp only [stagerStep, pc]
      split <;> rfl
    rw [same]
    exact whole finalizes

theorem fileHolds_callerStep {writer : LogWriter} {image : HeaderBytes} {staged : List StagedRecord}
    (holds : writer.FileHolds image staged) (closed : writer.caller.opening = false) :
    writer.callerStep.FileHolds image staged := by
  obtain ⟨file, counted, batch, whole⟩ := id holds
  obtain ⟨next, stepped⟩ : ∃ next, writer.callerStep = next := ⟨_, rfl⟩
  rw [stepped]
  cases pc : writer.caller with
  | resetting | restarting =>
      rw [pc] at closed
      cases closed
  | awaiting request =>
      simp only [callerStep, pc] at stepped
      split at stepped
      · subst stepped
        cases request <;> exact ⟨file, counted, batch, whole⟩
      · subst stepped
        exact holds
  | _ =>
      simp only [callerStep, pc] at stepped
      repeat' split at stepped
      all_goals
        subst stepped
        exact ⟨file, counted, batch, whole⟩

/-- The footer that the SD task completes is the one that describes the records. -/
theorem finalizedFooter_eq {writer : LogWriter} {image : HeaderBytes} {records : List StagedRecord}
    (counted : Counted image records writer.fileCrc32 writer.recordsWritten writer.firstSequence
      writer.lastSequence) (footer : LogFooter) :
    writer.finalizedFooter footer =
      completedFooter footer image records writer.writerQueueOverflows := by
  obtain ⟨crc, count, first, last⟩ := counted
  rw [finalizedFooter, completedFooter, crc, count, first, last]

/-- `drainStagedBatch` has found nothing more to write. -/
theorem fileHolds_drainedAll {writer : LogWriter} {image : HeaderBytes} {staged : List StagedRecord}
    {file : OpenFile} (isOpen : writer.file = some file)
    (holding : Holding file
      (image.toList ++ batchBytes (staged.take writer.psramReadIndex)))
    (counted : Counted image (staged.take writer.psramReadIndex) writer.fileCrc32
      writer.recordsWritten writer.firstSequence writer.lastSequence)
    (all : writer.psramReadIndex = writer.psramWriteIndex) (request : Option ControlRequest) :
    (writer.drainedAll request).FileHolds image staged := by
  have present : writer.file.isNone = false := by
    rw [isOpen]
    rfl
  cases request with
  | none => exact ⟨⟨file, isOpen, holding⟩, counted, trivial, (absurd · Bool.false_ne_true)⟩
  | some request =>
      cases request with
      | sync =>
          simp only [drainedAll, processSdControl]
          rw [if_neg (Bool.eq_false_iff.mp present)]
          exact ⟨⟨file, isOpen, holding⟩, counted, trivial, (absurd · Bool.false_ne_true)⟩
      | finalize footer =>
          simp only [drainedAll, processSdControl]
          rw [if_neg (Bool.eq_false_iff.mp present)]
          have completed := finalizedFooter_eq counted footer
          split
          · rename_i refused
            refine ⟨⟨file, isOpen, writer.writerQueueOverflows, ?_⟩, counted, trivial, fun _ => all⟩
            show Holding file (image.toList ++ batchBytes (staged.take writer.psramReadIndex) ++
              footerPart (completedFooter footer image (staged.take writer.psramReadIndex)
                writer.writerQueueOverflows))
            rw [← completed, footerPart, refused, Option.elim_none, List.append_nil]
            exact holding
          · rename_i bytes encoded
            refine ⟨⟨file, isOpen, ⟨writer.writerQueueOverflows, ?_⟩, ?_⟩, counted, trivial,
              fun _ => all⟩
            · show encodeFooter (completedFooter footer image (staged.take writer.psramReadIndex)
                writer.writerQueueOverflows) = some bytes
              rw [← completed, encoded]
            · show Holding file (image.toList ++ batchBytes (staged.take writer.psramReadIndex) ++
                bytes.toList.take 0)
              rw [List.take_zero, List.append_nil]
              exact holding

/-- What a `write` has taken of the bytes that were left -/
theorem take_written (bytes : List UInt8) (offset count : ℕ) :
    bytes.take offset ++ (bytes.drop offset).take count =
      bytes.take (offset + ((bytes.drop offset).take count).length) := by
  rw [List.take_add, List.append_cancel_left_eq, List.take_eq_take_iff, List.length_take]
  omega

theorem fileHolds_sdStep {writer : LogWriter} {image : HeaderBytes} {staged : List StagedRecord}
    {answer : IoAnswer} (rings : writer.Rings) (passing : writer.Passing staged)
    (intact : writer.sdWriteFailed = false) (holds : writer.FileHolds image staged)
    (faultless : writer.faultless (.sd answer)) (still : ∀ result, writer.sd ≠ .closing result) :
    (writer.sdStep answer).FileHolds image staged := by
  obtain ⟨⟨file, isOpen, content⟩, counted, batched, whole⟩ := id holds
  have loaded := rings.sd
  obtain ⟨next, stepped⟩ : ∃ next, writer.sdStep answer = next := ⟨_, rfl⟩
  rw [stepped]
  cases pc : writer.sd with
  | draining request =>
      rw [pc] at content counted
      simp only [sdStep, pc] at stepped
      rw [if_neg (by simp [intact, isOpen])] at stepped
      subst stepped
      exact ⟨⟨file, isOpen, content⟩, counted, trivial, (absurd · Bool.false_ne_true)⟩
  | loaded request readIndex =>
      rw [pc] at content counted loaded
      obtain rfl : readIndex = writer.psramReadIndex := loaded
      simp only [sdStep, pc] at stepped
      split at stepped
      · rename_i all
        subst stepped
        exact fileHolds_drainedAll isOpen content counted all request
      · subst stepped
        exact ⟨⟨file, isOpen, content⟩, counted, (List.take_zero ..).symm,
          (absurd · Bool.false_ne_true)⟩
  | copying request readIndex count batch =>
      rw [pc] at content counted loaded batched
      obtain ⟨rfl, -, within, -⟩ := loaded
      simp only [sdStep, pc] at stepped
      split at stepped
      · rename_i more
        subst stepped
        refine ⟨⟨file, isOpen, content⟩, counted, ?_, (absurd · Bool.false_ne_true)⟩
        have below : writer.psramReadIndex + batch.length < staged.length := by
          rw [passing.count]
          omega
        have slot := passing.psram (writer.psramReadIndex + batch.length) below (Nat.le_add_right _ _)
        have short : batch.length < (staged.drop writer.psramReadIndex).length := by
          rw [List.length_drop]
          omega
        show batch ++ [_] = (staged.drop writer.psramReadIndex).take (batch ++ [_]).length
        rw [slot, List.length_append, List.length_singleton,
          List.take_succ_eq_append_getElem short, ← batched, List.getElem_drop]
      · subst stepped
        refine ⟨⟨file, isOpen, ?_⟩, counted, batched, (absurd · Bool.false_ne_true)⟩
        show Holding file (_ ++ (batchBytes batch).take 0)
        rw [List.take_zero, List.append_nil]
        exact content
  | writing request readIndex batch offset =>
      have answers : answer ≠ .fails ∧ answer ≠ .succeeds 0 := by
        simp only [LogWriter.faultless, pc] at faultless
        exact faultless
      rw [pc] at content counted batched
      simp only [sdStep, pc] at stepped
      split at stepped
      · split at stepped
        · exact absurd rfl answers.2
        · exact absurd rfl answers.1
        · rename_i count _
          subst stepped
          refine ⟨⟨file.write (((batchBytes batch).drop offset).take count), ?_, ?_⟩, counted,
            batched, (absurd · Bool.false_ne_true)⟩
          · show writer.file.map _ = _
            rw [isOpen]
            rfl
          · have longer := Holding.write content (((batchBytes batch).drop offset).take count)
            rw [List.append_assoc, take_written] at longer
            exact longer
        · subst stepped
          exact holds
      · rename_i done
        subst stepped
        refine ⟨⟨file, isOpen, ?_⟩, counted, batched, (absurd · Bool.false_ne_true)⟩
        have whole : (batchBytes batch).take offset = batchBytes batch :=
          List.take_of_length_le (Nat.not_lt.mp done)
        show Holding file (_ ++ batchBytes batch)
        rw [← whole]
        exact content
  | written request readIndex batch =>
      rw [pc] at content counted batched loaded
      obtain ⟨rfl, some, -⟩ := loaded
      simp only [sdStep, pc] at stepped
      subst stepped
      have taken : staged.take (writer.psramReadIndex + batch.length) =
          staged.take writer.psramReadIndex ++ batch := by
        rw [List.take_add, ← batched]
      refine ⟨⟨file, isOpen, ?_⟩, ?_, trivial, (absurd · Bool.false_ne_true)⟩
      · show Holding file
          (image.toList ++ batchBytes (staged.take (writer.psramReadIndex + batch.length)))
        rw [taken, batchBytes_append, ← List.append_assoc]
        exact content
      · have before : Counted image (staged.take writer.psramReadIndex) writer.fileCrc32
            writer.recordsWritten writer.firstSequence writer.lastSequence := counted
        have more := before.append some
        rw [← taken] at more
        exact more
  | publishing request readIndex count =>
      rw [pc] at content counted
      simp only [sdStep, pc] at stepped
      subst stepped
      exact ⟨⟨file, isOpen, content⟩, counted, trivial, (absurd · Bool.false_ne_true)⟩
  | receiving | syncing | acknowledging =>
      rw [pc] at content counted
      simp only [sdStep, pc] at stepped
      subst stepped
      exact ⟨⟨file, isOpen, content⟩, counted, trivial, (absurd · Bool.false_ne_true)⟩
  | footing result bytes offset =>
      have answers : answer ≠ .fails ∧ answer ≠ .succeeds 0 := by
        simp only [LogWriter.faultless, pc] at faultless
        exact faultless
      have all := whole (congrArg SdTask.finalizes pc)
      rw [pc] at content counted
      obtain ⟨⟨overflows, encoded⟩, holding⟩ := content
      simp only [sdStep, pc] at stepped
      split at stepped
      · split at stepped
        · exact absurd rfl answers.2
        · exact absurd rfl answers.1
        · rename_i count _
          subst stepped
          refine ⟨⟨file.write ((bytes.toList.drop offset).take count), ?_,
            ⟨overflows, encoded⟩, ?_⟩, counted, trivial, fun _ => all⟩
          · show writer.file.map _ = _
            rw [isOpen]
            rfl
          · have longer := holding.write ((bytes.toList.drop offset).take count)
            rw [List.append_assoc, take_written] at longer
            exact longer
        · subst stepped
          exact holds
      · rename_i done
        subst stepped
        refine ⟨⟨file, isOpen, overflows, ?_⟩, counted, trivial, fun _ => all⟩
        show Holding file (_ ++ footerPart (completedFooter writer.closingFooter image
          (staged.take writer.psramReadIndex) overflows))
        have part : footerPart (completedFooter writer.closingFooter image
            (staged.take writer.psramReadIndex) overflows) = bytes.toList.take offset := by
          rw [List.take_of_length_le (Nat.not_lt.mp done), footerPart]
          exact congrArg (fun encoded => Option.elim encoded [] Vector.toList) encoded
        rw [part]
        exact holding
  | flushing result =>
      have all := whole (congrArg SdTask.finalizes pc)
      rw [pc] at content counted
      simp only [sdStep, pc] at stepped
      subst stepped
      exact ⟨⟨file, isOpen, content⟩, counted, trivial, fun _ => all⟩
  | truncating result =>
      have answers : answer ≠ .fails ∧ answer ≠ .interrupted := by
        simp only [LogWriter.faultless, pc] at faultless
        exact faultless
      have all := whole (congrArg SdTask.finalizes pc)
      rw [pc] at content counted
      obtain ⟨overflows, holding⟩ := content
      simp only [sdStep, pc] at stepped
      split at stepped
      · subst stepped
        refine ⟨⟨file.truncate file.position, ?_, overflows, holding.truncate⟩, counted, trivial,
          fun _ => all⟩
        show writer.file.map _ = _
        rw [isOpen]
        rfl
      · exact absurd rfl answers.2
      · exact absurd rfl answers.1
  | closing result => exact absurd pc (still result)

/-- The file is closed only after the last of its records. -/
theorem delivers_of_closing {writer : LogWriter} {image : HeaderBytes} {staged : List StagedRecord}
    {result : WriterError} (sound : writer.Sound) (settled : writer.Settled)
    (passing : writer.Passing staged) (holds : writer.FileHolds image staged)
    (pc : writer.sd = .closing result) :
    ∃ file, writer.file = some file ∧
      ClosedFile.Delivers ⟨image, writer.closingFooter, file.bytes⟩ writer.accepted := by
  obtain ⟨⟨file, isOpen, content⟩, -, -, whole⟩ := holds
  have finalizes : writer.sd.finalizes = true := congrArg SdTask.finalizes pc
  obtain ⟨⟨footer, asked⟩, result, place⟩ := awaiting_of_finalizes sound finalizes
  have drained := settled.finalizes footer (congrArg Caller.request asked)
  have none := settled.empty (Or.inl drained)
  have ahead := passing.ahead
  rw [place] at none ahead
  have emptied : writer.ingressReadIndex = writer.ingressWriteIndex := none
  have staging : writer.psramWriteIndex = writer.ingressReadIndex := ahead
  have all := whole finalizes
  have complete : staged.length = writer.accepted.length := by
    rw [passing.count, ← passing.counted, staging, emptied]
  have same := passing.stages.eq_of_length (by rw [List.length_map, List.length_map, complete])
  have taken : staged.take (writer.sd.counted writer.psramReadIndex) = staged := by
    rw [pc]
    show staged.take writer.psramReadIndex = staged
    rw [all, ← passing.count, List.take_length]
  rw [taken, pc] at content
  obtain ⟨overflows, bytes⟩ := content
  exact ⟨file, isOpen, staged, overflows, same.symm, bytes⟩

/-! ### A run from its `open` to its closed file -/

theorem callerStep_kept {writer : LogWriter} (closed : writer.caller.opening = false) :
    writer.callerStep.image = writer.image ∧ writer.callerStep.closed = writer.closed ∧
      writer.callerStep.sdWriteFailed = writer.sdWriteFailed ∧
      writer.callerStep.caller.opening = false := by
  obtain ⟨next, stepped⟩ : ∃ next, writer.callerStep = next := ⟨_, rfl⟩
  rw [stepped]
  cases pc : writer.caller with
  | resetting | restarting =>
      rw [pc] at closed
      cases closed
  | awaiting request =>
      simp only [callerStep, pc] at stepped
      split at stepped
      · subst stepped
        cases request <;> exact ⟨rfl, rfl, rfl, rfl⟩
      · subst stepped
        exact ⟨rfl, rfl, rfl, closed⟩
  | _ =>
      simp only [callerStep, pc] at stepped
      repeat' split at stepped
      all_goals
        subst stepped
        first
        | exact ⟨rfl, rfl, rfl, rfl⟩
        | exact ⟨rfl, rfl, rfl, closed⟩

theorem drainedAll_kept (writer : LogWriter) (request : Option ControlRequest) :
    (writer.drainedAll request).image = writer.image ∧
      (writer.drainedAll request).closed = writer.closed ∧
      (writer.drainedAll request).sdWriteFailed = writer.sdWriteFailed := by
  unfold drainedAll processSdControl
  dsimp only
  repeat' split
  all_goals exact ⟨rfl, rfl, rfl⟩

theorem sdStep_kept {writer : LogWriter} {answer : IoAnswer}
    (faultless : writer.faultless (.sd answer)) (still : ∀ result, writer.sd ≠ .closing result) :
    (writer.sdStep answer).image = writer.image ∧ (writer.sdStep answer).closed = writer.closed ∧
      (writer.sdStep answer).sdWriteFailed = writer.sdWriteFailed := by
  obtain ⟨next, stepped⟩ : ∃ next, writer.sdStep answer = next := ⟨_, rfl⟩
  rw [stepped]
  cases pc : writer.sd with
  | writing request readIndex batch offset =>
      have answers : answer ≠ .fails ∧ answer ≠ .succeeds 0 := by
        simp only [LogWriter.faultless, pc] at faultless
        exact faultless
      simp only [sdStep, pc] at stepped
      repeat' split at stepped
      · exact absurd rfl answers.2
      · exact absurd rfl answers.1
      all_goals
        subst stepped
        exact ⟨rfl, rfl, rfl⟩
  | closing result => exact absurd pc (still result)
  | draining | loaded =>
      simp only [sdStep, pc] at stepped
      split at stepped
      all_goals
        subst stepped
        first
        | exact drainedAll_kept _ _
        | exact ⟨rfl, rfl, rfl⟩
  | _ =>
      simp only [sdStep, pc] at stepped
      repeat' split at stepped
      all_goals
        subst stepped
        exact ⟨rfl, rfl, rfl⟩

/-- The SD task closes the file of the run, or the run goes on. -/
theorem running_sdStep {writer : LogWriter} {image : HeaderBytes} {answer : IoAnswer}
    (sound : writer.Sound) (running : writer.Running image)
    (faultless : writer.faultless (.sd answer)) :
    (writer.sdStep answer).Running image ∨ (writer.sdStep answer).Delivered image := by
  obtain ⟨opened, closed, apart, intact, settled, staged, passing, holds⟩ := running
  have rings := sound.rings apart
  have only := sdStep_only writer answer
  by_cases closing : ∃ result, writer.sd = .closing result
  · obtain ⟨result, pc⟩ := closing
    obtain ⟨file, isOpen, delivers⟩ := delivers_of_closing sound settled passing holds pc
    obtain ⟨⟨footer, asked⟩, -⟩ :=
      awaiting_of_finalizes sound (show writer.sd.finalizes = true by rw [pc]; rfl)
    right
    simp only [sdStep, pc, closeDescriptor]
    refine ⟨rfl, rfl, ?_, ?_, ⟨image, writer.closingFooter, file.bytes⟩, ?_, rfl, delivers⟩
    · rw [asked]
      rfl
    · rw [asked]
      rfl
    · rw [opened, isOpen]
      rfl
  · left
    have still : ∀ result, writer.sd ≠ .closing result :=
      fun result pc => closing ⟨result, pc⟩
    obtain ⟨sameImage, sameClosed, sameFailed⟩ := sdStep_kept faultless still
    refine ⟨sameImage.trans opened, sameClosed.trans closed, ?_, sameFailed.trans intact,
      settled_sdStep settled answer, staged, passing_sdStep rings passing answer,
      fileHolds_sdStep rings passing intact holds faultless still⟩
    rw [only.caller]
    exact apart

/-- A call that begins, or returns at once, and leaves the run alone. -/
theorem running_of_call {writer next : LogWriter} {image : HeaderBytes}
    (running : writer.Running image) (settled : next.Settled)
    (apart : next.caller.opening = false) (sameImage : next.image = writer.image)
    (closed : next.closed = writer.closed) (intact : next.sdWriteFailed = writer.sdWriteFailed)
    (passing : ∀ staged, writer.Passing staged → next.Passing staged)
    (holds : ∀ staged, writer.FileHolds image staged → next.FileHolds image staged) :
    next.Running image := by
  obtain ⟨staged, passes, held⟩ := running.content
  exact ⟨sameImage.trans running.opened, closed.trans running.closed, apart,
    intact.trans running.intact, settled, staged, passing staged passes, holds staged held⟩

theorem running_finish {writer : LogWriter} {image : HeaderBytes} (running : writer.Running image)
    (idle : writer.caller = .idle) (result : WriterError) :
    (writer.finish result).Running image := by
  obtain ⟨refuses, apart, finalizes, empty⟩ := running.settled
  rw [idle] at refuses apart finalizes
  exact running_of_call running ⟨refuses, apart, finalizes, empty⟩ rfl rfl rfl rfl
    (fun _ passing => passing.of_same rfl rfl rfl rfl rfl rfl rfl rfl fun _ => Caller.noConfusion)
    fun _ holds => ⟨holds.file, holds.counted, holds.batch, holds.whole⟩

/-- `accepting_` is cleared. -/
theorem running_refuse {writer : LogWriter} {image : HeaderBytes} (running : writer.Running image)
    (idle : writer.caller = .idle) : { writer with accepting := false }.Running image := by
  obtain ⟨refuses, apart, finalizes, empty⟩ := running.settled
  exact running_of_call running ⟨fun _ => rfl, apart, finalizes, empty⟩ running.apart rfl rfl rfl
    (fun _ passing => passing.of_same rfl rfl rfl rfl rfl rfl rfl rfl
      fun _ storing => Caller.noConfusion (idle.symm.trans storing))
    fun _ holds => ⟨holds.file, holds.counted, holds.batch, holds.whole⟩

theorem running_submitControl {writer : LogWriter} {image : HeaderBytes}
    (running : writer.Running image) (idle : writer.caller = .idle)
    (refuses : writer.accepting = false) (request : ControlRequest)
    (finalizes : ∀ footer, request = .finalize footer → writer.drained = true) :
    (writer.submitControl request).Running image := by
  unfold submitControl
  split
  · exact running_finish running idle _
  · refine running_of_call running ⟨fun _ => refuses, fun _ => rfl, ?_, running.settled.empty⟩ rfl rfl
      rfl rfl
      (fun _ passing => passing.of_same rfl rfl rfl rfl rfl rfl rfl rfl fun _ => Caller.noConfusion)
      fun _ holds => ⟨holds.file, holds.counted, holds.batch, holds.whole⟩
    exact fun footer asked => finalizes footer (Option.some.inj asked)

theorem running_enqueue {writer : LogWriter} {image : HeaderBytes} (sound : writer.Sound)
    (running : writer.Running image) (idle : writer.caller = .idle) (record : LogRecord) :
    (writer.enqueue record).Running image := by
  have settled := running.settled
  unfold enqueue
  split
  · obtain ⟨refuses, apart, finalizes, empty⟩ := settled
    rw [idle] at refuses apart finalizes
    refine running_of_call running ⟨refuses, apart, finalizes, empty⟩ rfl rfl rfl rfl
      (fun _ passing => passing.of_same ?_ rfl rfl rfl rfl rfl rfl rfl fun _ => Caller.noConfusion)
      fun _ holds => ⟨holds.file, holds.counted, holds.batch, holds.whole⟩
    rw [accepted_finishEnqueue, if_neg (by decide), List.append_nil]
  · rename_i accepts
    have notDrained : writer.drained = false := by
      by_contra drained
      have refuses := settled.refuses (Or.inr (Bool.eq_true_of_not_eq_false drained))
      exact accepts (Or.inl (by rw [refuses]; rfl))
    have noAck := controlAck_of_free sound (congrArg Caller.awaits idle)
    exact running_of_call running (settled_of_free rfl notDrained noAck) rfl rfl rfl rfl
      (fun _ passing => passing.of_same rfl rfl rfl rfl rfl rfl rfl rfl fun _ => Caller.noConfusion)
      fun _ holds => ⟨holds.file, holds.counted, holds.batch, holds.whole⟩

theorem running_step {writer : LogWriter} {image : HeaderBytes} {label : WriterStep}
    (sound : writer.Sound) (running : writer.Running image) (faultless : writer.faultless label) :
    (writer.step label).Running image ∨ (writer.step label).Delivered image := by
  have apart := running.apart
  have rings := sound.rings apart
  obtain ⟨staged, passing, holds⟩ := running.content
  obtain ⟨file, isOpen, -⟩ := holds.file
  cases label with
  | prepare outcome =>
      left
      simp only [step]
      split
      · rename_i idle
        unfold prepare
        rw [if_pos (Or.inl (by rw [isOpen]; rfl))]
        exact running_finish running idle _
      · exact running
  | «open» header answer => exact faultless.elim
  | enqueue record =>
      left
      simp only [step]
      split
      · rename_i idle
        exact running_enqueue sound running idle record
      · exact running
  | drainAndSync =>
      left
      simp only [step]
      split
      · rename_i idle
        unfold drainAndSync
        split
        · exact running_finish running idle _
        · exact running_submitControl (running_refuse running idle) idle rfl _
            fun _ => ControlRequest.noConfusion
      · exact running
  | close footer =>
      left
      simp only [step]
      split
      · rename_i idle
        unfold close
        split
        · exact running_finish running idle _
        · exact running_submitControl (running_refuse running idle) idle rfl _
            fun _ _ => faultless
      · exact running
  | caller =>
      left
      obtain ⟨sameImage, sameClosed, sameFailed, still⟩ := callerStep_kept apart
      exact ⟨sameImage.trans running.opened, sameClosed.trans running.closed, still,
        sameFailed.trans running.intact, settled_callerStep sound running.settled apart, staged,
        passing_callerStep rings passing apart, fileHolds_callerStep holds apart⟩
  | stager =>
      left
      have only := stagerStep_only writer
      obtain ⟨more, passes⟩ := passing_stagerStep rings passing
      exact ⟨only.image.trans running.opened, only.closed.trans running.closed,
        (congrArg Caller.opening only.caller).trans apart, only.sdWriteFailed.trans running.intact,
        settled_stagerStep running.settled, staged ++ more, passes,
        fileHolds_stagerStep sound rings passing.count holds more⟩
  | sd answer => exact running_sdStep sound running faultless

/-- Nothing happens to a file that is closed. -/
theorem delivered_step {writer : LogWriter} {image : HeaderBytes} {label : WriterStep}
    (delivered : writer.Delivered image) (faultless : writer.faultless label) :
    (writer.step label).Delivered image := by
  obtain ⟨ended, refuses, apart, opens, closed, isClosed, same, delivers⟩ := id delivered
  have kept : ∀ {next : LogWriter}, next.image = none → next.accepting = false →
      next.caller.enqueues = false → next.caller.opens = false → next.closed = writer.closed →
      next.accepted = writer.accepted → next.Delivered image := by
    intro next ended refuses apart opens sameClosed sameAccepted
    exact ⟨ended, refuses, apart, opens, closed, sameClosed.trans isClosed, same,
      sameAccepted ▸ delivers⟩
  cases label with
  | prepare outcome =>
      simp only [step]
      split
      · unfold prepare
        split
        · exact kept ended refuses rfl rfl rfl rfl
        · cases outcome with
          | refused => exact kept ended refuses rfl rfl rfl rfl
          | abandoned => exact kept rfl rfl rfl rfl rfl rfl
          | reserved content => exact kept ended rfl rfl rfl rfl rfl
      · exact delivered
  | «open» header answer => exact faultless.elim
  | enqueue record =>
      simp only [step]
      split
      · unfold enqueue
        rw [if_pos (Or.inl (by rw [refuses]; rfl))]
        refine kept ended refuses rfl rfl rfl ?_
        rw [accepted_finishEnqueue, if_neg (by decide), List.append_nil]
      · exact delivered
  | drainAndSync | close =>
      simp only [step]
      split
      · simp only [drainAndSync, close, submitControl]
        repeat' split
        all_goals first
          | exact kept ended refuses rfl rfl rfl rfl
          | exact kept ended rfl rfl rfl rfl rfl
      · exact delivered
  | caller =>
      obtain ⟨next, stepped⟩ : ∃ next, writer.callerStep = next := ⟨_, rfl⟩
      rw [step, stepped]
      cases pc : writer.caller with
      | checked | roomed | stored =>
          rw [pc] at apart
          cases apart
      | resetting purpose index =>
          rw [pc] at opens
          cases purpose with
          | run => cases opens
          | cleanup =>
              simp only [callerStep, pc] at stepped
              subst stepped
              cases index <;> exact kept ended refuses rfl rfl rfl rfl
      | restarting purpose =>
          rw [pc] at opens
          cases purpose with
          | run => cases opens
          | cleanup =>
              simp only [callerStep, pc] at stepped
              subst stepped
              exact kept ended refuses rfl rfl rfl rfl
      | awaiting request =>
          simp only [callerStep, pc] at stepped
          split at stepped
          · subst stepped
            cases request <;> exact kept ended refuses rfl rfl rfl rfl
          · subst stepped
            exact delivered
      | idle | draining | sending =>
          simp only [callerStep, pc] at stepped
          repeat' split at stepped
          all_goals
            subst stepped
            first
            | exact delivered
            | exact kept ended refuses rfl rfl rfl rfl
  | stager =>
      have only := stagerStep_only writer
      exact kept (only.image.trans ended) (only.accepting.trans refuses)
        ((congrArg Caller.enqueues only.caller).trans apart)
        ((congrArg Caller.opens only.caller).trans opens) only.closed
        (accepted_of_enqueued only.enqueued)
  | sd answer =>
      have only := sdStep_only writer answer
      have sameImage : (writer.sdStep answer).image = none ∧
          (writer.sdStep answer).closed = writer.closed := by
        have drained : ∀ (next : LogWriter) (request : Option ControlRequest),
            (next.drainedAll request).image = next.image ∧
              (next.drainedAll request).closed = next.closed :=
          fun next request =>
            ⟨(drainedAll_kept next request).1, (drainedAll_kept next request).2.1⟩
        unfold sdStep failBatch append closeDescriptor
        dsimp only
        repeat' split
        all_goals first
          | exact ⟨ended, rfl⟩
          | exact ⟨(drained _ _).1.trans ended, (drained _ _).2⟩
          | exact ⟨rfl, by rw [ended]; rfl⟩
      exact kept sameImage.1 (accepting_sdStep refuses answer)
        ((congrArg Caller.enqueues only.caller).trans apart)
        ((congrArg Caller.opens only.caller).trans opens) sameImage.2
        (accepted_of_enqueued only.enqueued)

/-- A file that holds the header alone -/
theorem sdHolds_of_atRest {sd : SdTask} {image : HeaderBytes} {file : OpenFile}
    (rest : sd.atRest = true) (footer : LogFooter) (holding : Holding file image.toList) :
    SdHolds image [] footer file sd ∧ SdBatch [] sd ∧ sd.finalizes = false := by
  cases sd with
  | draining | receiving =>
      refine ⟨?_, trivial, rfl⟩
      show Holding file (image.toList ++ [])
      rw [List.append_nil]
      exact holding
  | _ => cases rest

/-- A call of `open`, with the four stores of `resetRunMetrics` -/
def opening (header : LogHeader) (answer : IoAnswer) : List WriterStep :=
  .open header answer :: List.replicate 5 .caller

/-- `open` has succeeded: the run begins. -/
theorem running_opening {writer : LogWriter} {header : LogHeader} {answer : IoAnswer}
    (sound : writer.Sound) (idle : writer.caller = .idle)
    (calm : writer.calm (.open header answer))
    (opened : (Run.after step writer (opening header answer)).returned = some .ok) :
    ∃ image, encodeHeader header = some image ∧
      (Run.after step writer (opening header answer)).Running image := by
  have noAck := controlAck_of_free sound (congrArg Caller.awaits idle)
  have begins : Run.after step writer (opening header answer) =
      Run.after step (writer.openFile header answer) (List.replicate 5 .caller) := by
    rw [opening, Run.after_cons, step, if_pos idle]
  rw [begins] at opened ⊢
  obtain ⟨next, stepped⟩ : ∃ next, writer.openFile header answer = next := ⟨_, rfl⟩
  rw [stepped] at opened ⊢
  unfold openFile at stepped
  split at stepped
  · subst stepped
    cases opened
  · rename_i ready
    have present : writer.file.isNone = false := by
      by_contra none
      exact ready (Or.inr (Or.inl (Bool.eq_true_of_not_eq_false none)))
    obtain ⟨file, isOpen⟩ : ∃ file, writer.file = some file := by
      cases place : writer.file with
      | none =>
          rw [place] at present
          cases present
      | some file => exact ⟨file, rfl⟩
    cases encoded : encodeHeader header with
    | none =>
        simp only [encoded] at stepped
        subst stepped
        cases opened
    | some image =>
        cases answer with
        | interrupted | fails =>
            simp only [encoded] at stepped
            subst stepped
            cases opened
        | succeeds count =>
            simp only [encoded] at stepped
            subst stepped
            have reset : (Run.after step
                ({ writer with
                  file := writer.file.map fun file : OpenFile =>
                    (file.seek 0).write image.toList }.resetRunMetrics image)
                (List.replicate 4 .caller)).Opening := ⟨⟨rfl, rfl, rfl, rfl⟩, calm.1, calm.2⟩
            obtain ⟨holds, batch, finalizes⟩ :=
              sdHolds_of_atRest calm.2 writer.closingFooter (Holding.rewritten file image.toList)
            refine ⟨image, rfl, rfl, rfl, rfl, rfl, settled_of_free rfl rfl rfl, [],
              passing_restart reset rfl, ⟨(file.seek 0).write image.toList, ?_, ?_⟩, ?_, batch, ?_⟩
            · show writer.file.map _ = _
              rw [isOpen]
              rfl
            · show SdHolds image (List.take (writer.sd.counted 0) []) writer.closingFooter _ writer.sd
              rw [List.take_nil]
              exact holds
            · show Counted image (List.take (writer.sd.counted 0) []) (openedCrc32 image) 0 0 0
              rw [List.take_nil]
              exact counted_nil image
            · exact fun finalizing => absurd (finalizes.symm.trans finalizing) Bool.false_ne_true

/-- A record that is enqueued -/
def delivery (record : LogRecord) : List WriterStep := .enqueue record :: List.replicate 3 .caller

/-- A request that finds the ring empty, with so many steps of the SD task until it returns -/
def requestRun (call : WriterStep) (count : ℕ) : List WriterStep :=
  call :: List.replicate 2 .caller ++ List.replicate 5 .stager ++
    List.replicate count (.sd (.succeeds 20480)) ++ List.replicate 2 .stager ++ [.caller]

/-- One record is accepted, and the file closed. -/
def oneRecord : List WriterStep :=
  delivery rateCheckRecord ++ List.replicate 11 .stager ++ requestRun .drainAndSync 15 ++
    requestRun (.close abandonedFooter) 11

/-- The writer with a file for its first run -/
def preparedWriter : LogWriter :=
  Run.after step (initialized (fun _ => {}) (fun _ => ⟨0, Vector.replicate 320 0⟩) {})
    [.prepare (.reserved [])]

/-- The SD task has loaded the read index of the first run when the second is opened; it finds two
records behind an index of 1, and writes the second alone. -/
def twoRecords : List WriterStep :=
  delivery rateCheckRecord ++ delivery rateCheckRecord ++ List.replicate 18 .stager ++
    requestRun .drainAndSync 14 ++ requestRun (.close abandonedFooter) 11

/-- The writer whose first run is over, with the file of the second prepared -/
def staleWriter : LogWriter :=
  Run.after step preparedWriter (opening rateCheckHeader (.succeeds 256) ++ oneRecord ++
    [.prepare (.reserved []), .sd (.succeeds 0)])

/-- The second run, after its `open` and at its end -/
def openedStale : LogWriter := Run.after step staleWriter (opening rateCheckHeader (.succeeds 256))

def closedStale : LogWriter := Run.after step openedStale twoRecords

theorem closedStale_run :
    staleWriter.caller = .idle ∧ openedStale.returned = some .ok ∧
      Run.Along step faultless openedStale twoRecords ∧
      closedStale.queueOverflows = 0 ∧ closedStale.psramOverflows = 0 ∧
      closedStale.returned = some .ok ∧ closedStale.accepted = [rateCheckRecord, rateCheckRecord] ∧
      closedStale.closed.map (fun closed => closed.bytes.length) = some 768 := by
  decide +kernel

end LogWriter

end MissionBoard.Characterization
