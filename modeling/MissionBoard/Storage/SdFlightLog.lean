import MissionBoard.Library.RingBuffer
import MissionBoard.Library.Run
import MissionBoard.Storage.FlightRecord

/-!
Owns `SdFlightLog` of `runtime/flight_storage.cpp` once `prepareForFlight` has succeeded:
the ring in PSRAM that one task fills with `append`, and the writer task that drains it
into the file, step by step for each access to what the two tasks share.

What a call of the file system answers is a label of the step that makes it. A notification
only wakes the writer, which its timeout of 10 ms may do at any time as well, so none is
kept. Indices and sizes are natural numbers; `Staged.writeIndex_bounded` says why no index
of the source wraps.
-/

namespace MissionBoard.Storage

/-- The values of `esp_err_t` that the log returns -/
inductive EspErr where
  | ok
  | fail
  | noMem
  | invalidArg
  | invalidState
  | invalidSize
  | invalidCrc
deriving DecidableEq

/-- What a call of the file system answers: success, for a read or a write with the number
of bytes, `EINTR`, or any other failure -/
inductive IoAnswer where
  | succeeds (count : ℕ)
  | interrupted
  | fails
deriving DecidableEq

namespace IoAnswer

/-- The call did what it was asked. -/
def Succeeded : IoAnswer → Prop
  | .succeeds _ => True
  | .interrupted | .fails => False

instance : DecidablePred Succeeded
  | .succeeds _ => .isTrue trivial
  | .interrupted | .fails => .isFalse id

end IoAnswer

/-- The open file and the position of its descriptor -/
structure OpenFile where
  bytes : List UInt8 := []
  position : ℕ := 0

namespace OpenFile

/-- The beginning of the file, with zeros behind its end -/
def upTo (file : OpenFile) (size : ℕ) : List UInt8 :=
  file.bytes.take size ++ List.replicate (size - file.bytes.length) 0

/-- `ftruncate` -/
def truncate (file : OpenFile) (size : ℕ) : OpenFile := { file with bytes := file.upTo size }

/-- `lseek` -/
def seek (file : OpenFile) (position : ℕ) : OpenFile := { file with position }

/-- `write` of all these bytes -/
def write (file : OpenFile) (bytes : List UInt8) : OpenFile where
  bytes := file.upTo file.position ++ bytes ++ file.bytes.drop (file.position + bytes.length)
  position := file.position + bytes.length

/-- What a `read` of so many bytes receives at most -/
def received (file : OpenFile) (count : ℕ) : List UInt8 :=
  (file.bytes.drop file.position).take count

end OpenFile

/-- `kWriteBatchRecords` -/
def kWriteBatchRecords : ℕ := 8192 / kSerializedRecordBytes

/-- What a flush was requested for -/
inductive FlushFor where
  | flush
  | read (offset requested : ℕ)
  | close
deriving DecidableEq

/-- Where the task that calls the log stands in its calls -/
inductive Producer where
  | idle
  /-- `append` has looked at the error of the writer and at the record. -/
  | checked (record : SerializedRecord)
  /-- It has found room behind this many records. -/
  | roomed (record : SerializedRecord) (occupancy : ℕ)
  /-- The record is in its slot. -/
  | stored (record : SerializedRecord) (occupancy : ℕ)
  /-- The write index has been published. -/
  | published (occupancy : ℕ)
  /-- `requestWriterFlush` has set the flag and drains `flush_ack_`. -/
  | draining (purpose : FlushFor)
  /-- It waits for `flush_ack_`. -/
  | awaiting (purpose : FlushFor)
  | acknowledged (purpose : FlushFor)
  /-- `read` has flushed. -/
  | sizing (offset requested : ℕ)
  | seeking (offset wanted : ℕ)
  | reading (wanted : ℕ) (received : List UInt8)
  /-- `read` returns to the end of the file, with what it has read. -/
  | rewinding (received : Option (List UInt8))
  /-- `stopWriter` drains `stop_ack_`. -/
  | drainingStop
  /-- It waits for `stop_ack_`. -/
  | awaitingStop
  | closed
deriving DecidableEq

/-- Where the writer task stands in `writerTaskLoop`; in the calls of `drainOneBatch`, with
the argument `flush_partial` -/
inductive Writer where
  | waiting
  /-- The flag of a flush has been loaded. -/
  | checking (flush : Bool)
  /-- `drainOneBatch` -/
  | draining (flush : Bool)
  | copying (flush : Bool) (count : ℕ) (batch : List SerializedRecord)
  /-- `writeBatch`, which found the descriptor at `start` -/
  | writing (flush : Bool) (batch : List SerializedRecord) (start offset : ℕ)
  | truncating (flush : Bool) (start : ℕ)
  | restoring (flush : Bool) (start : ℕ)
  | failing (flush : Bool) (error : EspErr)
  /-- The size of the file has been published, the read index has not. -/
  | sized (flush : Bool) (count : ℕ)
  | drained (flush : Bool)
  | resulting (result : EspErr)
  | reporting (result : EspErr)
  | clearing
  /-- The flag of the flush is cleared, `flush_ack_` is still to be given. -/
  | acknowledging
  | checkingStop
  | stopping
  | ended
deriving DecidableEq

/-- What a call has returned -/
inductive Returned where
  | append (result : EspErr)
  | flush (result : EspErr)
  | read (result : EspErr) (bytes : List UInt8)
deriving DecidableEq

/-- `SdFlightLog`, the file it writes to, and where its two tasks stand -/
structure SdFlightLog where
  capacity : ℕ
  stage : ℕ → SerializedRecord
  writeIndex : ℕ := 0
  readIndex : ℕ := 0
  highWater : ℕ := 0
  file : OpenFile := {}
  fileSize : ℕ := 0
  writerError : EspErr := .ok
  flushRequested : Bool := false
  flushAck : Bool := false
  flushResult : EspErr := .ok
  stopRequested : Bool := false
  stopAck : Bool := false
  producer : Producer := .idle
  writer : Writer := .waiting
  /-- The result of the last call, once it has returned -/
  returned : Option Returned := none
  /-- The records that `append` has published, which the code does not keep -/
  accepted : List SerializedRecord := []

/-- A call of the producer begins, or one of the two tasks takes its next step. -/
inductive StagingStep where
  | append (record : SerializedRecord)
  | flush
  | read (offset requested : ℕ)
  | close
  | producer (answer : IoAnswer)
  | writer (answer : IoAnswer)
deriving DecidableEq

namespace SdFlightLog

/-- After `prepareForFlight`, with a ring of this capacity -/
def prepared (capacity : ℕ) (stage : ℕ → SerializedRecord) : SdFlightLog := { capacity, stage }

/-- A call returns. -/
def finish (log : SdFlightLog) (result : Returned) : SdFlightLog :=
  { log with producer := .idle, returned := some result }

/-- `append`, up to the load of the indices -/
def append (log : SdFlightLog) (record : SerializedRecord) : SdFlightLog :=
  if log.capacity = 0 then log.finish (.append .invalidState)
  else if log.writerError ≠ .ok then log.finish (.append log.writerError)
  else if !validate record then log.finish (.append .invalidCrc)
  else { log with producer := .checked record, returned := none }

/-- `flush` and the calls that make it go on with its result. -/
def flushed (log : SdFlightLog) (purpose : FlushFor) (result : EspErr) : SdFlightLog :=
  match purpose with
  | .flush => log.finish (.flush result)
  | .read offset requested =>
      if result ≠ .ok then log.finish (.read result [])
      else { log with producer := .sizing offset requested }
  | .close => { log with producer := .drainingStop }

/-- `requestWriterFlush`, up to the exchange of the flag -/
def requestWriterFlush (log : SdFlightLog) (purpose : FlushFor) : SdFlightLog :=
  if log.flushRequested then log.flushed purpose .invalidState
  else { log with flushRequested := true, producer := .draining purpose, returned := none }

/-- The next step of the task that calls the log -/
def producerStep (log : SdFlightLog) (answer : IoAnswer) : SdFlightLog :=
  match log.producer with
  | .idle | .closed => log
  | .checked record =>
      if log.writeIndex < log.readIndex then log.finish (.append .invalidState)
      else
        let occupancy := log.writeIndex - log.readIndex
        if occupancy ≥ log.capacity then log.finish (.append .noMem)
        else { log with producer := .roomed record occupancy }
  | .roomed record occupancy =>
      { log with
        stage := Function.update log.stage (log.writeIndex % log.capacity) record
        producer := .stored record occupancy }
  | .stored record occupancy =>
      { log with
        writeIndex := log.writeIndex + 1
        accepted := log.accepted ++ [record]
        producer := .published occupancy }
  | .published occupancy =>
      { log with highWater := max log.highWater (min (occupancy + 1) (2 ^ 32 - 1)) }.finish
        (.append .ok)
  | .draining purpose =>
      -- The take that finds nothing ends the loop.
      if log.flushAck then { log with flushAck := false }
      else { log with producer := .awaiting purpose }
  | .awaiting purpose =>
      if log.flushAck then { log with flushAck := false, producer := .acknowledged purpose }
      else log
  | .acknowledged purpose => log.flushed purpose log.flushResult
  | .sizing offset requested =>
      if log.fileSize ≤ offset ∨ requested = 0 then log.finish (.read .ok [])
      else { log with producer := .seeking offset (min requested (log.fileSize - offset)) }
  | .seeking offset wanted =>
      match answer with
      | .succeeds _ => { log with file := log.file.seek offset, producer := .reading wanted [] }
      | .interrupted | .fails => log.finish (.read .fail [])
  | .reading wanted received =>
      if received.length < wanted then
        match answer with
        | .succeeds count =>
            -- At the end of the file `read` returns zero, which is a failure.
            let bytes := log.file.received (min count (wanted - received.length))
            if bytes = [] then { log with producer := .rewinding none }
            else
              { log with
                file := log.file.seek (log.file.position + bytes.length)
                producer := .reading wanted (received ++ bytes) }
        | .interrupted => log
        | .fails => { log with producer := .rewinding none }
      else { log with producer := .rewinding (some received) }
  | .rewinding received =>
      match received, answer with
      | some bytes, .succeeds _ =>
          { log with file := log.file.seek log.file.bytes.length }.finish (.read .ok bytes)
      | none, .succeeds _ =>
          { log with file := log.file.seek log.file.bytes.length }.finish (.read .fail [])
      | _, .interrupted | _, .fails => log.finish (.read .fail [])
  | .drainingStop =>
      if log.stopAck then { log with stopAck := false }
      else { log with stopRequested := true, producer := .awaitingStop }
  | .awaitingStop =>
      if log.stopAck then { log with stopAck := false, producer := .closed } else log

/-- `writeBatch`, up to the first `write`; `answer` is that of `lseek`. -/
def writeBatch (log : SdFlightLog) (flush : Bool) (batch : List SerializedRecord)
    (answer : IoAnswer) : SdFlightLog :=
  if batch.length = 0 ∨ batch.length > kWriteBatchRecords then
    { log with writer := .failing flush .invalidArg }
  else if kSerializedRecordBytes * batch.length > 2 ^ 32 - 1 - log.fileSize then
    { log with writer := .failing flush .invalidSize }
  else
    match answer with
    | .succeeds _ => { log with writer := .writing flush batch log.file.position 0 }
    | .interrupted | .fails => { log with writer := .failing flush .fail }

/-- `drainOneBatch`, up to the choice of the records -/
def drainOneBatch (log : SdFlightLog) (flushPartial : Bool) : SdFlightLog :=
  if log.capacity = 0 then { log with writer := .drained flushPartial }
  else if log.writeIndex < log.readIndex then
    { log with writerError := .invalidState, writer := .drained flushPartial }
  else
    let available := log.writeIndex - log.readIndex
    if available = 0 ∨ (!flushPartial ∧ available < kWriteBatchRecords) then
      { log with writer := .drained flushPartial }
    else { log with writer := .copying flushPartial (min available kWriteBatchRecords) [] }

/-- The next step of the writer -/
def writerStep (log : SdFlightLog) (answer : IoAnswer) : SdFlightLog :=
  match log.writer with
  | .waiting => { log with writer := .checking log.flushRequested }
  | .checking flush =>
      if log.writerError = .ok then { log with writer := .draining flush }
      else { log with writer := .drained flush }
  | .draining flush => log.drainOneBatch flush
  | .copying flush count batch =>
      if batch.length < count then
        let record := log.stage ((log.readIndex + batch.length) % log.capacity)
        { log with writer := .copying flush count (batch ++ [record]) }
      else log.writeBatch flush batch answer
  | .writing flush batch start offset =>
      if offset < kSerializedRecordBytes * batch.length then
        match answer with
        | .succeeds 0 | .fails => { log with writer := .truncating flush start }
        | .succeeds count =>
            let bytes := ((recordBytes batch).drop offset).take count
            { log with
              file := log.file.write bytes
              writer := .writing flush batch start (offset + bytes.length) }
        | .interrupted => log
      else
        { log with
          fileSize := log.fileSize + kSerializedRecordBytes * batch.length
          writer := .sized flush batch.length }
  | .truncating flush start =>
      match answer with
      | .succeeds _ =>
          { log with file := log.file.truncate start, writer := .restoring flush start }
      | .interrupted | .fails => { log with writer := .restoring flush start }
  | .restoring flush start =>
      match answer with
      | .succeeds _ => { log with file := log.file.seek start, writer := .failing flush .fail }
      | .interrupted | .fails => { log with writer := .failing flush .fail }
  | .failing flush error => { log with writerError := error, writer := .drained flush }
  | .sized flush count =>
      { log with readIndex := log.readIndex + count, writer := .draining flush }
  | .drained flush =>
      -- `fsync` is called only when there was no error.
      if flush then
        if log.writerError ≠ .ok then { log with writer := .resulting log.writerError }
        else
          match answer with
          | .succeeds _ => { log with writer := .resulting .ok }
          | .interrupted | .fails => { log with writer := .resulting .fail }
      else { log with writer := .checkingStop }
  | .resulting result =>
      if result ≠ .ok then { log with writerError := result, writer := .reporting result }
      else { log with writer := .reporting result }
  | .reporting result => { log with flushResult := result, writer := .clearing }
  | .clearing => { log with flushRequested := false, writer := .acknowledging }
  | .acknowledging => { log with flushAck := true, writer := .checkingStop }
  | .checkingStop =>
      if log.stopRequested then { log with writer := .stopping }
      else { log with writer := .waiting }
  | .stopping => { log with stopAck := true, writer := .ended }
  | .ended => log

/-- One step; a call begins only when the task is in none. -/
def step (log : SdFlightLog) : StagingStep → SdFlightLog
  | .append record => if log.producer = .idle then log.append record else log
  | .flush => if log.producer = .idle then log.requestWriterFlush .flush else log
  | .read offset requested =>
      if log.producer = .idle then log.requestWriterFlush (.read offset requested) else log
  | .close => if log.producer = .idle then log.requestWriterFlush .close else log
  | .producer answer => log.producerStep answer
  | .writer answer => log.writerStep answer

/-! ### What a step leaves alone -/

/-- Nothing changed that belongs to the task that calls the log. -/
structure WriterOnly (log next : SdFlightLog) : Prop where
  capacity : next.capacity = log.capacity
  stage : next.stage = log.stage
  writeIndex : next.writeIndex = log.writeIndex
  accepted : next.accepted = log.accepted
  producer : next.producer = log.producer
  returned : next.returned = log.returned
  stopRequested : next.stopRequested = log.stopRequested

/-- Nothing changed that belongs to the writer, the content of the file included. -/
structure CallerOnly (log next : SdFlightLog) : Prop where
  capacity : next.capacity = log.capacity
  readIndex : next.readIndex = log.readIndex
  bytes : next.file.bytes = log.file.bytes
  fileSize : next.fileSize = log.fileSize
  writerError : next.writerError = log.writerError
  flushResult : next.flushResult = log.flushResult
  writer : next.writer = log.writer

theorem writerStep_only (log : SdFlightLog) (answer : IoAnswer) :
    WriterOnly log (log.writerStep answer) := by
  unfold writerStep drainOneBatch writeBatch
  dsimp only
  repeat' split
  all_goals exact ⟨rfl, rfl, rfl, rfl, rfl, rfl, rfl⟩

theorem flushed_only (log : SdFlightLog) (purpose : FlushFor) (result : EspErr) :
    CallerOnly log (log.flushed purpose result) := by
  unfold flushed
  repeat' split
  all_goals exact ⟨rfl, rfl, rfl, rfl, rfl, rfl, rfl⟩

theorem producerStep_only (log : SdFlightLog) (answer : IoAnswer) :
    CallerOnly log (log.producerStep answer) := by
  unfold producerStep
  dsimp only
  repeat' split
  all_goals first
    | exact flushed_only log _ _
    | exact ⟨rfl, rfl, rfl, rfl, rfl, rfl, rfl⟩

theorem requestWriterFlush_only (log : SdFlightLog) (purpose : FlushFor) :
    CallerOnly log (log.requestWriterFlush purpose) := by
  unfold requestWriterFlush
  split
  · exact flushed_only log _ _
  · exact ⟨rfl, rfl, rfl, rfl, rfl, rfl, rfl⟩

theorem append_only (log : SdFlightLog) (record : SerializedRecord) :
    CallerOnly log (log.append record) := by
  unfold append
  repeat' split
  all_goals exact ⟨rfl, rfl, rfl, rfl, rfl, rfl, rfl⟩

end SdFlightLog

/-! ### The handshake of a flush -/

/-- The task waits for a flush that it has requested. -/
def Producer.requesting : Producer → Bool
  | .draining _ | .awaiting _ => true
  | _ => false

/-- The writer has seen the request of a flush and not cleared it yet. -/
def Writer.serving : Writer → Bool
  | .checking flush | .draining flush | .copying flush _ _ | .writing flush _ _ _
  | .truncating flush _ | .restoring flush _ | .failing flush _ | .sized flush _
  | .drained flush => flush
  | .resulting _ | .reporting _ | .clearing => true
  | .waiting | .acknowledging | .checkingStop | .stopping | .ended => false

namespace SdFlightLog

/-- How many requests are on their way: in the flag, with the writer that has cleared it, or
back in the acknowledgement -/
def outstanding (log : SdFlightLog) : ℕ :=
  log.flushRequested.toNat + (if log.writer = .acknowledging then 1 else 0) + log.flushAck.toNat

/-- At most the request of the waiting task is on its way, and what the writer serves has
been requested. -/
structure Handshake (log : SdFlightLog) : Prop where
  few : log.outstanding ≤ log.producer.requesting.toNat
  served : log.writer.serving = true → log.flushRequested = true

/-- The step of the writer leaves the request where it is. -/
structure KeepsRequest (log next : SdFlightLog) : Prop where
  requested : next.flushRequested = log.flushRequested
  acknowledged : next.flushAck = log.flushAck
  before : log.writer ≠ .acknowledging
  after : next.writer ≠ .acknowledging
  serves : next.writer.serving = true → log.writer.serving = true ∨ log.flushRequested = true

theorem writerStep_clearing {log : SdFlightLog} (stands : log.writer = .clearing)
    (answer : IoAnswer) :
    log.writerStep answer = { log with flushRequested := false, writer := .acknowledging } := by
  unfold writerStep
  rw [stands]

theorem writerStep_acknowledging {log : SdFlightLog} (stands : log.writer = .acknowledging)
    (answer : IoAnswer) :
    log.writerStep answer = { log with flushAck := true, writer := .checkingStop } := by
  unfold writerStep
  rw [stands]

/-- How a step of the writer moves a request: not at all, out of the flag, or into the
acknowledgement -/
theorem writerStep_request (log : SdFlightLog) (answer : IoAnswer) :
    KeepsRequest log (log.writerStep answer) ∨ log.writer = .clearing ∨
      log.writer = .acknowledging := by
  cases stands : log.writer with
  | clearing => exact Or.inr (Or.inl rfl)
  | acknowledging => exact Or.inr (Or.inr rfl)
  | _ =>
      left
      unfold writerStep drainOneBatch writeBatch
      rw [stands]
      dsimp only
      repeat' split
      all_goals exact ⟨rfl, rfl, by simp [stands], by simp [stands], by simp_all [Writer.serving]⟩

theorem Handshake.writerStep {log : SdFlightLog} (handshake : log.Handshake) (answer : IoAnswer) :
    (log.writerStep answer).Handshake := by
  have few := handshake.few
  unfold outstanding at few
  rcases log.writerStep_request answer with kept | clears | acknowledges
  · constructor
    · unfold outstanding
      rw [(log.writerStep_only answer).producer, kept.requested, kept.acknowledged,
        if_neg kept.after]
      rw [if_neg kept.before] at few
      exact few
    · intro serves
      rw [kept.requested]
      exact (kept.serves serves).elim handshake.served id
  · rw [writerStep_clearing clears]
    have requested : log.flushRequested = true := handshake.served (by rw [clears]; rfl)
    constructor
    · unfold outstanding
      rw [requested, clears] at few
      simpa using few
    · nofun
  · rw [writerStep_acknowledging acknowledges]
    constructor
    · unfold outstanding
      rw [if_pos acknowledges] at few
      simp only [reduceCtorEq, if_false, Bool.toNat_true]
      omega
    · nofun

/-- The step of the task that calls the log leaves the flag and the acknowledgement alone, and
the task waits for a flush after it if it did before it. -/
structure KeepsFlags (log next : SdFlightLog) : Prop where
  requested : next.flushRequested = log.flushRequested
  acknowledged : next.flushAck = log.flushAck
  writer : next.writer = log.writer
  requesting : next.producer.requesting = log.producer.requesting

theorem Handshake.of_keeps {log next : SdFlightLog} (handshake : log.Handshake)
    (keeps : KeepsFlags log next) : next.Handshake := by
  constructor
  · unfold outstanding
    rw [keeps.requested, keeps.acknowledged, keeps.writer, keeps.requesting]
    exact handshake.few
  · rw [keeps.requested, keeps.writer]
    exact handshake.served

/-- While no flush is waited for, none is on its way. -/
theorem Handshake.quiet {log : SdFlightLog} (handshake : log.Handshake)
    (waits : log.producer.requesting = false) :
    log.flushRequested = false ∧ log.flushAck = false ∧ log.writer ≠ .acknowledging ∧
      log.writer.serving = false := by
  have few := handshake.few
  rw [waits, outstanding] at few
  have requested : log.flushRequested = false := by
    cases flag : log.flushRequested with
    | false => rfl
    | true => simp [flag] at few
  refine ⟨requested, ?_, ?_, ?_⟩
  · cases given : log.flushAck with
    | false => rfl
    | true => simp [given] at few
  · intro stands
    simp [stands] at few
  · by_contra serves
    have flag := handshake.served (by simpa using serves)
    rw [requested] at flag
    cases flag

theorem flushed_keeps {log : SdFlightLog} (waits : log.producer.requesting = false)
    (purpose : FlushFor) (result : EspErr) : KeepsFlags log (log.flushed purpose result) := by
  unfold flushed
  repeat' split
  all_goals exact ⟨rfl, rfl, rfl, waits.symm⟩

theorem append_keeps {log : SdFlightLog} (waits : log.producer.requesting = false)
    (record : SerializedRecord) : KeepsFlags log (log.append record) := by
  unfold append
  repeat' split
  all_goals exact ⟨rfl, rfl, rfl, waits.symm⟩

theorem Handshake.requestWriterFlush {log : SdFlightLog} (handshake : log.Handshake)
    (waits : log.producer.requesting = false) (purpose : FlushFor) :
    (log.requestWriterFlush purpose).Handshake := by
  obtain ⟨requested, acknowledged, stands, serves⟩ := handshake.quiet waits
  unfold SdFlightLog.requestWriterFlush
  rw [if_neg (by rw [requested]; decide)]
  constructor
  · simp [outstanding, acknowledged, stands, Producer.requesting]
  · intro _
    rfl

/-- An acknowledgement that is there is drained. -/
theorem producerStep_drains {log : SdFlightLog} {purpose : FlushFor}
    (stands : log.producer = .draining purpose) (given : log.flushAck = true) (answer : IoAnswer) :
    log.producerStep answer = { log with flushAck := false } := by
  unfold producerStep
  rw [stands]
  exact if_pos given

/-- Without one the task waits. -/
theorem producerStep_awaits {log : SdFlightLog} {purpose : FlushFor}
    (stands : log.producer = .draining purpose) (given : log.flushAck = false)
    (answer : IoAnswer) :
    log.producerStep answer = { log with producer := .awaiting purpose } := by
  unfold producerStep
  rw [stands]
  exact if_neg (by rw [given]; decide)

theorem Handshake.producerStep {log : SdFlightLog} (handshake : log.Handshake)
    (answer : IoAnswer) : (log.producerStep answer).Handshake := by
  have few := handshake.few
  cases stands : log.producer with
  | draining purpose =>
      cases given : log.flushAck with
      | true =>
          rw [producerStep_drains stands given]
          refine ⟨?_, handshake.served⟩
          simp only [outstanding, given, Bool.toNat_true] at few
          simp only [outstanding, Bool.toNat_false]
          omega
      | false =>
          rw [producerStep_awaits stands given]
          exact handshake.of_keeps ⟨rfl, rfl, rfl, by rw [stands]; rfl⟩
  | awaiting purpose =>
      unfold SdFlightLog.producerStep
      rw [stands]
      dsimp only
      split
      · rename_i given
        have most : log.producer.requesting.toNat ≤ 1 := Bool.toNat_le _
        refine ⟨?_, handshake.served⟩
        simp only [outstanding, given, Bool.toNat_true] at few
        simp only [outstanding, Bool.toNat_false]
        omega
      · exact handshake
  | _ =>
      have waits : log.producer.requesting = false := by rw [stands]; rfl
      apply handshake.of_keeps
      unfold SdFlightLog.producerStep
      rw [stands]
      dsimp only
      repeat' split
      all_goals first
        | exact flushed_keeps waits _ _
        | exact ⟨rfl, rfl, rfl, waits.symm⟩
        | exact ⟨rfl, rfl, rfl, rfl⟩

/-- A task that is in no call waits for no flush. -/
theorem requesting_of_idle {log : SdFlightLog} (stands : log.producer = .idle) :
    log.producer.requesting = false := by
  rw [stands]
  rfl

theorem Handshake.step {log : SdFlightLog} (handshake : log.Handshake) (label : StagingStep) :
    (log.step label).Handshake := by
  cases label with
  | append record =>
      unfold SdFlightLog.step
      dsimp only
      split
      · rename_i stands
        exact handshake.of_keeps (append_keeps (requesting_of_idle stands) record)
      · exact handshake
  | flush | read offset requested | close =>
      unfold SdFlightLog.step
      dsimp only
      split
      · rename_i stands
        exact handshake.requestWriterFlush (requesting_of_idle stands) _
      · exact handshake
  | producer answer => exact handshake.producerStep answer
  | writer answer => exact handshake.writerStep answer

theorem prepared_handshake (capacity : ℕ) (stage : ℕ → SerializedRecord) :
    (prepared capacity stage).Handshake :=
  ⟨Nat.le_refl 0, nofun⟩

end SdFlightLog

end MissionBoard.Storage
