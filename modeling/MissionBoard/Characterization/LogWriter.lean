import MissionBoard.Characterization.RecordFormat
import MissionBoard.Library.RingBuffer
import MissionBoard.Library.Run
import MissionBoard.Storage.SdFlightLog

/-!
Owns `LogWriterV5` of `characterization/log_writer_v5.cpp` once `initialize` has succeeded: the
task that calls it, the stage task that takes the records from the ring in DRAM into the ring
in PSRAM, and the SD task that writes them, step by step for each access to what the tasks
share.

What a call of the file system answers is a label of the step that makes it. A notification
only wakes a task, which its timeout of 10 ms may do at any time as well, so none is kept.
Indices and counts are natural numbers: none of them reaches 2 ^ 64. The times and the high
water marks, which are only printed, are left out, and so is `abortAndClose`, which is
`drainAndSync` and then `close`.
-/

namespace MissionBoard.Characterization

open Storage (IoAnswer OpenFile)

/-- The values of `esp_err_t` that the writer remembers or returns -/
inductive WriterError where
  | ok
  | fail
  | noMem
  | invalidArg
  | invalidState
  | invalidResponse
deriving DecidableEq

/-- `rememberOperation` -/
def rememberOperation (operation first : WriterError) : WriterError :=
  if first = .ok ∧ operation ≠ .ok then operation else first

/-- `ControlRequest` -/
inductive ControlRequest where
  | sync
  | finalize (footer : LogFooter)
deriving DecidableEq

/-- `StagedRecord` -/
structure StagedRecord where
  sequence : UInt64
  bytes : RecordBytes
deriving DecidableEq

/-- `kQueueDepth` -/
def kQueueDepth : ℕ := 128

/-- `kBatchRecords` -/
def kBatchRecords : ℕ := 64

/-- `kPsramStagingBytes` -/
def kPsramStagingBytes : ℕ := 4 * 1024 * 1024

/-- `kPsramStagingCapacity`; a `StagedRecord` has 328 bytes. -/
def kPsramStagingCapacity : ℕ := kPsramStagingBytes / 328

/-- The difference of two indices, as `uint64_t` subtracts -/
def occupancy (writeIndex readIndex : ℕ) : ℕ :=
  if readIndex ≤ writeIndex then writeIndex - readIndex else 2 ^ 64 + writeIndex - readIndex

theorem occupancy_of_le {writeIndex readIndex : ℕ} (below : readIndex ≤ writeIndex) :
    occupancy writeIndex readIndex = writeIndex - readIndex :=
  if_pos below

/-- The bytes of a batch, back to back -/
def batchBytes (batch : List StagedRecord) : List UInt8 :=
  batch.flatMap fun staged => staged.bytes.toList

theorem length_batchBytes (batch : List StagedRecord) :
    (batchBytes batch).length = kRecordBytes * batch.length := by
  induction batch with
  | nil => rfl
  | cons staged rest inductionHypothesis =>
      have whole : batchBytes (staged :: rest) = staged.bytes.toList ++ batchBytes rest := rfl
      rw [whole, List.length_append, inductionHypothesis, Vector.length_toList, List.length_cons]
      unfold kRecordBytes
      omega

/-- `file_crc32_` after `open` -/
def openedCrc32 (image : HeaderBytes) : UInt32 := crc32 image.toList 0

/-- `file_crc32_` after `drainStagedBatch` -/
def drainedCrc32 (batch : List StagedRecord) (fileCrc32 : UInt32) : UInt32 :=
  crc32 (batchBytes batch) fileCrc32

/-- The indices of the two rings, in the order in which they are reset -/
inductive RingIndex where
  | ingressWrite
  | ingressRead
  | psramWrite
  | psramRead
deriving DecidableEq

/-- What the indices are reset for: the run of a header, or `cleanupPreparedFile` -/
inductive ResetFor where
  | run (image : HeaderBytes)
  | cleanup (error : WriterError)
deriving DecidableEq

/-- Where the task that calls the writer stands in its calls -/
inductive Caller where
  | idle
  /-- `enqueue` has looked at `accepting_`, the descriptor and the first error. -/
  | checked (record : LogRecord)
  /-- It has found room. -/
  | roomed (record : LogRecord)
  /-- The record is in its slot. -/
  | stored (record : LogRecord)
  /-- The index is about to be reset. -/
  | resetting (purpose : ResetFor) (index : RingIndex)
  /-- All four are reset. -/
  | restarting (purpose : ResetFor)
  /-- `submitControl` drains `control_ack_`. -/
  | draining (request : ControlRequest)
  /-- It sends the request. -/
  | sending (request : ControlRequest)
  /-- It waits for `control_ack_`. -/
  | awaiting (request : ControlRequest)
deriving DecidableEq

/-- Where the stage task stands in `taskLoop` -/
inductive Stager where
  | polling
  | polled (readIndex : ℕ)
  /-- `processRecordBatch`, with `count` records staged -/
  | batch (count : ℕ)
  | loaded (count readIndex : ℕ)
  | taking (count readIndex : ℕ)
  /-- `stageEncodedRecord` -/
  | encoded (count readIndex : ℕ) (record : StagedRecord)
  | roomed (count readIndex : ℕ) (record : StagedRecord) (writeIndex : ℕ)
  | staged (count readIndex writeIndex : ℕ)
  | consuming (count readIndex : ℕ)
  /-- The ring was found empty; `control_queue_` is looked at. -/
  | receiving
  /-- `processControl` drains `sd_control_ack_`. -/
  | clearing (request : ControlRequest) (result : WriterError)
  | sending (request : ControlRequest) (result : WriterError)
  | awaiting (result : WriterError)
  | finishing (result : WriterError)
deriving DecidableEq

/-- Where the SD task stands in `sdTaskLoop`; in the calls of `drainStagedBatch`, with the
request that it has received, if any -/
inductive SdTask where
  | draining (request : Option ControlRequest)
  | loaded (request : Option ControlRequest) (readIndex : ℕ)
  | copying (request : Option ControlRequest) (readIndex count : ℕ) (batch : List StagedRecord)
  /-- `writeDescriptor`, with so many bytes written -/
  | writing (request : Option ControlRequest) (readIndex : ℕ) (batch : List StagedRecord)
      (offset : ℕ)
  | written (request : Option ControlRequest) (readIndex : ℕ) (batch : List StagedRecord)
  | publishing (request : Option ControlRequest) (readIndex count : ℕ)
  | receiving
  /-- `processSdControl`, `Sync` -/
  | syncing (result : WriterError)
  /-- `bestEffortFinalizeFile` writes the footer. -/
  | footing (result : WriterError) (bytes : FooterBytes) (offset : ℕ)
  | flushing (result : WriterError)
  | truncating (result : WriterError)
  | closing (result : WriterError)
  | acknowledging (result : WriterError)
deriving DecidableEq

/-- A file that was closed: the header of its run, the footer that `close` was called with, and
what it holds -/
structure ClosedFile where
  image : HeaderBytes
  footer : LogFooter
  bytes : List UInt8

/-- `LogWriterV5`, the file it writes to, and where the three tasks stand -/
structure LogWriter where
  ingressRing : ℕ → LogRecord
  ingressWriteIndex : ℕ := 0
  ingressReadIndex : ℕ := 0
  psramStage : ℕ → StagedRecord
  psramWriteIndex : ℕ := 0
  psramReadIndex : ℕ := 0
  controlQueue : Option ControlRequest := none
  sdControlQueue : Option ControlRequest := none
  controlAck : Bool := false
  sdControlAck : Bool := false
  controlPending : Bool := false
  controlResult : WriterError := .ok
  sdControlResult : WriterError := .ok
  sdWriteFailed : Bool := false
  /-- The file that `file_descriptor_` names -/
  file : Option OpenFile := none
  accepting : Bool := false
  synced : Bool := false
  firstError : WriterError := .ok
  recordsWritten : ℕ := 0
  firstSequence : UInt64 := 0
  lastSequence : UInt64 := 0
  queueOverflows : UInt64 := 0
  psramOverflows : UInt64 := 0
  fileCrc32 : UInt32 := 0
  contiguousPreallocated : Bool := false
  prepared : Bool := false
  caller : Caller := .idle
  stager : Stager := .polling
  sd : SdTask := .draining none
  /-- What the last call but `enqueue` returned -/
  returned : Option WriterError := none
  /-- The calls of `enqueue` since `open`, with what they returned, which the code does not keep,
  nor what follows -/
  enqueued : List (LogRecord × WriterError) := []
  /-- The header of the run, from the end of `open` until its file is closed -/
  image : Option HeaderBytes := none
  /-- `drainAndSync` has returned since then. -/
  drained : Bool := false
  /-- The footer that is being written -/
  closingFooter : LogFooter
  closed : Option ClosedFile := none

/-- How the calls of the file system in `prepare` end -/
inductive Preparation where
  /-- One fails before the file is open. -/
  | refused
  /-- `fsync` or `lseek` fails on the open file. -/
  | abandoned
  /-- The file is open, with this content. -/
  | reserved (content : List UInt8)

/-- A call begins, or one of the three tasks takes its next step. -/
inductive WriterStep where
  | prepare (outcome : Preparation)
  | open (header : LogHeader) (answer : IoAnswer)
  | enqueue (record : LogRecord)
  | drainAndSync
  | close (footer : LogFooter)
  | caller
  | stager
  | sd (answer : IoAnswer)

namespace LogWriter

/-- `rememberFirst` -/
def rememberFirst (writer : LogWriter) (error : WriterError) : LogWriter :=
  { writer with firstError := rememberOperation error writer.firstError }

/-- `writerQueueOverflows` -/
def writerQueueOverflows (writer : LogWriter) : UInt64 :=
  writer.queueOverflows + writer.psramOverflows

/-- A call returns. -/
def finish (writer : LogWriter) (result : WriterError) : LogWriter :=
  { writer with caller := .idle, returned := some result }

/-- `enqueue` returns. -/
def finishEnqueue (writer : LogWriter) (record : LogRecord) (result : WriterError) : LogWriter :=
  { writer with caller := .idle, enqueued := writer.enqueued ++ [(record, result)] }

/-- The records whose `enqueue` returned `ESP_OK`, in their order -/
def accepted (writer : LogWriter) : List LogRecord :=
  (writer.enqueued.filter fun call => call.2 = .ok).map Prod.fst

/-! ### The calls -/

/-- `cleanupPreparedFile`, up to the reset of the indices, for a call that returns `error` -/
def cleanupPreparedFile (writer : LogWriter) (error : WriterError) : LogWriter :=
  { writer with
    accepting := false
    synced := false
    image := none
    caller := .resetting (.cleanup error) .ingressWrite }

/-- `prepare` -/
def prepare (writer : LogWriter) (outcome : Preparation) : LogWriter :=
  if writer.file.isSome ∨ writer.prepared then writer.finish .invalidState
  else
    match outcome with
    | .refused => writer.finish .fail
    | .abandoned => { writer with file := some {} }.cleanupPreparedFile .fail
    | .reserved content =>
        { writer with
          file := some { bytes := content }
          contiguousPreallocated := true
          prepared := true
          accepting := false
          synced := true }.finish .ok

/-- `resetRunMetrics`, up to the reset of the indices -/
def resetRunMetrics (writer : LogWriter) (image : HeaderBytes) : LogWriter :=
  { writer with
    controlQueue := none
    sdControlQueue := none
    controlAck := false
    sdControlAck := false
    controlPending := false
    firstError := .ok
    sdWriteFailed := false
    recordsWritten := 0
    firstSequence := 0
    lastSequence := 0
    queueOverflows := 0
    image := none
    caller := .resetting (.run image) .ingressWrite }

/-- `open`, up to the reset of the indices; `answer` is that of `lseek` and `writeDescriptor`. -/
def openFile (writer : LogWriter) (header : LogHeader) (answer : IoAnswer) : LogWriter :=
  if !writer.prepared ∨ writer.file.isNone ∨ writer.accepting ∨ !writer.contiguousPreallocated then
    writer.finish .invalidState
  else
    match encodeHeader header, answer with
    | none, _ => writer.cleanupPreparedFile .invalidArg
    | some image, .succeeds _ =>
        { writer with
          file := writer.file.map fun file : OpenFile =>
            (file.seek 0).write image.toList }.resetRunMetrics image
    | some _, .interrupted | some _, .fails => writer.cleanupPreparedFile .fail

/-- `enqueue`, up to the load of the read index -/
def enqueue (writer : LogWriter) (record : LogRecord) : LogWriter :=
  if !writer.accepting ∨ writer.file.isNone ∨ writer.firstError ≠ .ok then
    writer.finishEnqueue record .invalidState
  else { writer with caller := .checked record }

/-- `submitControl`, up to the drain of the acknowledgement -/
def submitControl (writer : LogWriter) (request : ControlRequest) : LogWriter :=
  if writer.controlPending then writer.finish .invalidState
  else { writer with controlPending := true, caller := .draining request, returned := none }

/-- `drainAndSync` -/
def drainAndSync (writer : LogWriter) : LogWriter :=
  if writer.file.isNone ∨ !writer.prepared then writer.finish .invalidState
  else { writer with accepting := false }.submitControl .sync

/-- `close` -/
def close (writer : LogWriter) (footer : LogFooter) : LogWriter :=
  if writer.file.isNone ∨ !writer.prepared then writer.finish .invalidState
  else { writer with accepting := false }.submitControl (.finalize footer)

/-- One of the four stores -/
def resetIndex (writer : LogWriter) (purpose : ResetFor) : RingIndex → LogWriter
  | .ingressWrite =>
      { writer with ingressWriteIndex := 0, caller := .resetting purpose .ingressRead }
  | .ingressRead =>
      { writer with ingressReadIndex := 0, caller := .resetting purpose .psramWrite }
  | .psramWrite =>
      { writer with psramWriteIndex := 0, caller := .resetting purpose .psramRead }
  | .psramRead => { writer with psramReadIndex := 0, caller := .restarting purpose }

/-- The rest of `open` or of `cleanupPreparedFile` -/
def restart (writer : LogWriter) : ResetFor → LogWriter
  | .run image =>
      { writer with
        psramOverflows := 0
        fileCrc32 := openedCrc32 image
        synced := false
        accepting := true
        enqueued := []
        image := some image
        drained := false
        closed := none }.finish .ok
  | .cleanup error =>
      { writer with
        file := none
        contiguousPreallocated := false
        prepared := false }.finish error

/-- `submitControl` returns, and with it `drainAndSync` or `close`. -/
def finishControl (writer : LogWriter) : ControlRequest → LogWriter
  | .sync => { writer with drained := writer.image.isSome }.finish writer.controlResult
  | .finalize _ => { writer with contiguousPreallocated := false }.finish writer.controlResult

/-- The next step of the task that calls the writer -/
def callerStep (writer : LogWriter) : LogWriter :=
  match writer.caller with
  | .idle => writer
  | .checked record =>
      if occupancy writer.ingressWriteIndex writer.ingressReadIndex ≥ kQueueDepth then
        { writer with queueOverflows := writer.queueOverflows + 1 }.rememberFirst .noMem
          |>.finishEnqueue record .noMem
      else { writer with caller := .roomed record }
  | .roomed record =>
      { writer with
        ingressRing :=
          Function.update writer.ingressRing (writer.ingressWriteIndex % kQueueDepth) record
        caller := .stored record }
  | .stored record =>
      { writer with ingressWriteIndex := writer.ingressWriteIndex + 1 }.finishEnqueue record .ok
  | .resetting purpose index => writer.resetIndex purpose index
  | .restarting purpose => writer.restart purpose
  | .draining request =>
      -- The take that finds nothing ends the loop.
      if writer.controlAck then { writer with controlAck := false }
      else { writer with caller := .sending request }
  | .sending request =>
      if writer.controlQueue.isSome then writer
      else { writer with controlQueue := some request, caller := .awaiting request }
  | .awaiting request =>
      if writer.controlAck then { writer with controlAck := false }.finishControl request
      else writer

/-! ### The stage task -/

/-- A record cannot be taken from the ring. -/
def refuseRecord (writer : LogWriter) : LogWriter :=
  { writer.rememberFirst .invalidResponse with stager := .polling }

/-- The next step of the stage task -/
def stagerStep (writer : LogWriter) : LogWriter :=
  match writer.stager with
  | .polling => { writer with stager := .polled writer.ingressReadIndex }
  | .polled readIndex =>
      if readIndex ≠ writer.ingressWriteIndex then { writer with stager := .batch 0 }
      else { writer with stager := .receiving }
  | .batch count =>
      if count < kBatchRecords then { writer with stager := .loaded count writer.ingressReadIndex }
      else { writer with stager := .polling }
  | .loaded count readIndex =>
      if readIndex = writer.ingressWriteIndex then { writer with stager := .polling }
      else { writer with stager := .taking count readIndex }
  | .taking count readIndex =>
      -- The record is looked at in its slot.
      let record := writer.ingressRing (readIndex % kQueueDepth)
      if hasError (validateRecordStrict record) then writer.refuseRecord
      else
        match encodeRecord record with
        | none => writer.refuseRecord
        | some bytes => { writer with stager := .encoded count readIndex ⟨record.sequence, bytes⟩ }
  | .encoded count readIndex record =>
      let writeIndex := writer.psramWriteIndex
      if occupancy writeIndex writer.psramReadIndex ≥ kPsramStagingCapacity then
        { { writer with psramOverflows := writer.psramOverflows + 1 }.rememberFirst .noMem with
          stager := .polling }
      else { writer with stager := .roomed count readIndex record writeIndex }
  | .roomed count readIndex record writeIndex =>
      { writer with
        psramStage :=
          Function.update writer.psramStage (writeIndex % kPsramStagingCapacity) record
        stager := .staged count readIndex writeIndex }
  | .staged count readIndex writeIndex =>
      { writer with psramWriteIndex := writeIndex + 1, stager := .consuming count readIndex }
  | .consuming count readIndex =>
      { writer with ingressReadIndex := readIndex + 1, stager := .batch (count + 1) }
  | .receiving =>
      match writer.controlQueue with
      | some request =>
          { writer with controlQueue := none, stager := .clearing request writer.firstError }
      | none => { writer with stager := .polling }
  | .clearing request result =>
      if writer.sdControlAck then { writer with sdControlAck := false }
      else { writer with stager := .sending request result }
  | .sending request result =>
      if writer.sdControlQueue.isSome then writer
      else { writer with sdControlQueue := some request, stager := .awaiting result }
  | .awaiting result =>
      if writer.sdControlAck then
        { writer with
          sdControlAck := false
          stager := .finishing (rememberOperation writer.sdControlResult result) }
      else writer
  | .finishing result =>
      { writer.rememberFirst result with
        controlResult := result
        controlPending := false
        controlAck := true
        stager := .polling }

/-! ### The SD task -/

/-- The footer as `processSdControl` completes it -/
def finalizedFooter (writer : LogWriter) (footer : LogFooter) : LogFooter :=
  { footer with
    totalRecords := .ofNat writer.recordsWritten
    firstSequence := writer.firstSequence
    lastSequence := writer.lastSequence
    fileCrc32 := writer.fileCrc32
    statistics :=
      { footer.statistics with writerQueueOverflows := writer.writerQueueOverflows } }

/-- `processSdControl`, up to its first call of the file system -/
def processSdControl (writer : LogWriter) : ControlRequest → LogWriter
  | .sync =>
      if writer.file.isNone then
        { writer with
          synced := false
          sd := .acknowledging (rememberOperation .invalidState writer.firstError) }
      else { writer with sd := .syncing writer.firstError }
  | .finalize footer =>
      if writer.file.isNone then
        { writer with sd := .acknowledging (rememberOperation .invalidState writer.firstError) }
      else
        let result :=
          if writer.synced then writer.firstError
          else rememberOperation .invalidState writer.firstError
        match encodeFooter (writer.finalizedFooter footer) with
        | none =>
            { writer with
              closingFooter := footer
              sd := .flushing (rememberOperation .invalidArg result) }
        | some bytes => { writer with closingFooter := footer, sd := .footing result bytes 0 }

/-- `drainStagedBatch` has returned false. -/
def drainedAll (writer : LogWriter) : Option ControlRequest → LogWriter
  | none => { writer with sd := .receiving }
  | some request => writer.processSdControl request

/-- `writeDescriptor` has failed on a batch. -/
def failBatch (writer : LogWriter) (request : Option ControlRequest) : LogWriter :=
  ({ writer with sdWriteFailed := true }.rememberFirst .fail).drainedAll request

/-- More bytes have been written. -/
def append (writer : LogWriter) (bytes : List UInt8) : LogWriter :=
  { writer with file := writer.file.map fun file => file.write bytes }

/-- `closeDescriptor`: the descriptor is given up. -/
def closeDescriptor (writer : LogWriter) (result : WriterError) : LogWriter :=
  { writer with
    file := none
    prepared := false
    synced := false
    accepting := false
    closed := (writer.image.bind fun image => writer.file.map fun file =>
      ⟨image, writer.closingFooter, file.bytes⟩).or writer.closed
    image := none
    sd := .acknowledging result }

/-- What a call that only succeeds or fails adds to the result -/
def outcomeOf : IoAnswer → WriterError
  | .succeeds _ => .ok
  | .interrupted | .fails => .fail

/-- The next step of the SD task -/
def sdStep (writer : LogWriter) (answer : IoAnswer) : LogWriter :=
  match writer.sd with
  | .draining request =>
      if writer.sdWriteFailed ∨ writer.file.isNone then writer.drainedAll request
      else { writer with sd := .loaded request writer.psramReadIndex }
  | .loaded request readIndex =>
      if readIndex = writer.psramWriteIndex then writer.drainedAll request
      else
        let count := min (occupancy writer.psramWriteIndex readIndex) kBatchRecords
        { writer with sd := .copying request readIndex count [] }
  | .copying request readIndex count batch =>
      if batch.length < count then
        let record := writer.psramStage ((readIndex + batch.length) % kPsramStagingCapacity)
        { writer with sd := .copying request readIndex count (batch ++ [record]) }
      else { writer with sd := .writing request readIndex batch 0 }
  | .writing request readIndex batch offset =>
      if offset < (batchBytes batch).length then
        match answer with
        | .succeeds 0 | .fails => writer.failBatch request
        | .succeeds count =>
            let bytes := ((batchBytes batch).drop offset).take count
            { writer.append bytes with
              sd := .writing request readIndex batch (offset + bytes.length) }
        | .interrupted => writer
      else { writer with sd := .written request readIndex batch }
  | .written request readIndex batch =>
      { writer with
        fileCrc32 := drainedCrc32 batch writer.fileCrc32
        recordsWritten := writer.recordsWritten + batch.length
        firstSequence :=
          if writer.recordsWritten = 0 then (batch.head?.map (·.sequence)).getD 0
          else writer.firstSequence
        lastSequence := (batch.getLast?.map (·.sequence)).getD 0
        sd := .publishing request readIndex batch.length }
  | .publishing request readIndex count =>
      { writer with psramReadIndex := readIndex + count, sd := .draining request }
  | .receiving =>
      { writer with sdControlQueue := none, sd := .draining writer.sdControlQueue }
  | .syncing result =>
      { writer with
        synced := decide (outcomeOf answer = .ok)
        sd := .acknowledging (rememberOperation (outcomeOf answer) result) }
  | .footing result bytes offset =>
      if offset < bytes.toList.length then
        match answer with
        | .succeeds 0 | .fails => { writer with sd := .flushing (rememberOperation .fail result) }
        | .succeeds count =>
            let part := (bytes.toList.drop offset).take count
            { writer.append part with sd := .footing result bytes (offset + part.length) }
        | .interrupted => writer
      else { writer with sd := .flushing result }
  | .flushing result =>
      { writer with sd := .truncating (rememberOperation (outcomeOf answer) result) }
  | .truncating result =>
      match answer with
      | .succeeds _ =>
          { writer with
            file := writer.file.map fun file => file.truncate file.position
            sd := .closing result }
      | .interrupted | .fails => { writer with sd := .closing (rememberOperation .fail result) }
  | .closing result => writer.closeDescriptor (rememberOperation (outcomeOf answer) result)
  | .acknowledging result =>
      { writer.rememberFirst result with
        sdControlResult := result
        sdControlAck := true
        sd := .draining none }

/-- One step; a call begins only when the task is in none. -/
def step (writer : LogWriter) : WriterStep → LogWriter
  | .prepare outcome => if writer.caller = .idle then writer.prepare outcome else writer
  | .open header answer => if writer.caller = .idle then writer.openFile header answer else writer
  | .enqueue record => if writer.caller = .idle then writer.enqueue record else writer
  | .drainAndSync => if writer.caller = .idle then writer.drainAndSync else writer
  | .close footer => if writer.caller = .idle then writer.close footer else writer
  | .caller => writer.callerStep
  | .stager => writer.stagerStep
  | .sd answer => writer.sdStep answer

end LogWriter

end MissionBoard.Characterization
