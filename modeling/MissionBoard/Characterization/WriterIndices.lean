import MissionBoard.Characterization.LogWriter

/-!
Owns what holds of `LogWriterV5` between any two steps of its three tasks, whatever the records
and the card do: the indices that a task has loaded are those of its ring, and a control request
is at one place at a time. The one thing asked for is that the two tasks rest while `open` or
`cleanupPreparedFile` resets the indices.
-/

namespace MissionBoard.Characterization

open Storage (IoAnswer OpenFile)

/-- The indices are being reset. -/
def Caller.opening : Caller → Bool
  | .resetting _ _ | .restarting _ => true
  | _ => false

/-- The task holds no index that it has loaded in `processRecordBatch`, and no request. -/
def Stager.atRest : Stager → Bool
  | .polling | .polled _ | .batch _ | .receiving => true
  | _ => false

/-- The task is inside `processControl`. -/
def Stager.serving : Stager → Bool
  | .clearing _ _ | .sending _ _ | .awaiting _ | .finishing _ => true
  | _ => false

/-- The task waits for its request to be done. -/
def Caller.awaits : Caller → Bool
  | .awaiting _ => true
  | _ => false

/-- The task is not inside `drainStagedBatch`, and holds no request. -/
def SdTask.atRest : SdTask → Bool
  | .draining none | .receiving => true
  | _ => false

/-- The task holds no request. -/
def SdTask.idle : SdTask → Bool
  | .draining none | .loaded none _ | .copying none _ _ _ | .writing none _ _ _ | .written none _ _
  | .publishing none _ _ | .receiving => true
  | _ => false

/-- The task has this request. -/
def SdTask.Handles (request : ControlRequest) : SdTask → Prop
  | .draining held | .loaded held _ | .copying held _ _ _ | .writing held _ _ _ | .written held _ _
  | .publishing held _ _ => held = some request
  | .receiving => False
  | .syncing _ => request = .sync
  | .footing _ _ _ | .flushing _ | .truncating _ | .closing _ => ∃ footer, request = .finalize footer
  | .acknowledging _ => True

theorem SdTask.idle_of_atRest {sd : SdTask} (rest : sd.atRest = true) : sd.idle = true := by
  unfold SdTask.atRest at rest
  split at rest <;> first | rfl | cases rest

namespace LogWriter

/-- The indices are reset only while both tasks rest, and the tasks rest meanwhile. -/
def calm (writer : LogWriter) : WriterStep → Prop
  | .open _ _ | .prepare .abandoned => writer.stager.atRest = true ∧ writer.sd.atRest = true
  | .stager | .sd _ => writer.caller.opening = false
  | _ => True

/-! ### The indices -/

/-- What `enqueue` knows of the ring -/
def CallerRoom (writeIndex readIndex : ℕ) : Caller → Prop
  | .roomed _ | .stored _ => writeIndex < readIndex + kQueueDepth
  | _ => True

/-- What the stage task knows of the two rings -/
def StagerLoaded (ingressWrite ingressRead psramWrite psramRead : ℕ) : Stager → Prop
  | .loaded _ readIndex => readIndex = ingressRead
  | .taking _ readIndex | .encoded _ readIndex _ | .consuming _ readIndex =>
      readIndex = ingressRead ∧ readIndex < ingressWrite
  | .roomed _ readIndex _ writeIndex | .staged _ readIndex writeIndex =>
      readIndex = ingressRead ∧ readIndex < ingressWrite ∧ writeIndex = psramWrite ∧
        psramWrite < psramRead + kPsramStagingCapacity
  | _ => True

/-- What the SD task knows of the ring in PSRAM -/
def SdLoaded (psramWrite psramRead : ℕ) : SdTask → Prop
  | .loaded _ readIndex => readIndex = psramRead
  | .copying _ readIndex count batch =>
      readIndex = psramRead ∧ 0 < count ∧ readIndex + count ≤ psramWrite ∧ batch.length ≤ count
  | .writing _ readIndex batch _ | .written _ readIndex batch =>
      readIndex = psramRead ∧ 0 < batch.length ∧ readIndex + batch.length ≤ psramWrite
  | .publishing _ readIndex count =>
      readIndex = psramRead ∧ 0 < count ∧ readIndex + count ≤ psramWrite
  | _ => True

/-- The indices, and what the tasks have loaded of them -/
structure Rings (writer : LogWriter) : Prop where
  ingress_le : writer.ingressReadIndex ≤ writer.ingressWriteIndex
  ingress_room : writer.ingressWriteIndex ≤ writer.ingressReadIndex + kQueueDepth
  psram_le : writer.psramReadIndex ≤ writer.psramWriteIndex
  psram_room : writer.psramWriteIndex ≤ writer.psramReadIndex + kPsramStagingCapacity
  caller : CallerRoom writer.ingressWriteIndex writer.ingressReadIndex writer.caller
  stager : StagerLoaded writer.ingressWriteIndex writer.ingressReadIndex writer.psramWriteIndex
    writer.psramReadIndex writer.stager
  sd : SdLoaded writer.psramWriteIndex writer.psramReadIndex writer.sd

/-- How far the indices are reset -/
def ResetAt (writer : LogWriter) : Caller → Prop
  | .resetting _ .ingressRead => writer.ingressWriteIndex = 0
  | .resetting _ .psramWrite => writer.ingressWriteIndex = 0 ∧ writer.ingressReadIndex = 0
  | .resetting _ .psramRead =>
      writer.ingressWriteIndex = 0 ∧ writer.ingressReadIndex = 0 ∧ writer.psramWriteIndex = 0
  | .restarting _ =>
      writer.ingressWriteIndex = 0 ∧ writer.ingressReadIndex = 0 ∧ writer.psramWriteIndex = 0 ∧
        writer.psramReadIndex = 0
  | _ => True

/-- What holds while the indices are reset -/
structure Opening (writer : LogWriter) : Prop where
  reset : writer.ResetAt writer.caller
  stager : writer.stager.atRest = true
  sd : writer.sd.atRest = true

/-! ### The requests -/

/-- The SD task knows of no request. -/
structure Quiet (writer : LogWriter) : Prop where
  queue : writer.sdControlQueue = none
  ack : writer.sdControlAck = false
  sd : writer.sd.idle = true

/-- The request is in the queue of the SD task, with the task, or acknowledged. -/
def AtSd (writer : LogWriter) (request : ControlRequest) : Prop :=
  (writer.sdControlQueue = some request ∧ writer.sdControlAck = false ∧ writer.sd.idle = true) ∨
    (writer.sdControlQueue = none ∧ writer.sdControlAck = false ∧ writer.sd.Handles request) ∨
    (writer.sdControlQueue = none ∧ writer.sdControlAck = true ∧ writer.sd.idle = true)

/-- The stage task has the request that the caller waits for. -/
structure Taken (writer : LogWriter) (request : ControlRequest) : Prop where
  caller : writer.caller = .awaiting request
  queue : writer.controlQueue = none
  ack : writer.controlAck = false

/-- Where the request stands while the stage task does not have it -/
def Asked (writer : LogWriter) : Caller → Prop
  | .awaiting request =>
      (writer.controlQueue = some request ∧ writer.controlAck = false) ∨
        (writer.controlQueue = none ∧ writer.controlAck = true)
  | _ => writer.controlQueue = none ∧ writer.controlAck = false

/-- A request is at one place. -/
def Handed (writer : LogWriter) : Stager → Prop
  | .clearing request _ | .sending request _ => writer.Taken request ∧ writer.Quiet
  | .awaiting _ => ∃ request, writer.Taken request ∧ writer.AtSd request
  | .finishing _ => (∃ request, writer.Taken request) ∧ writer.Quiet
  | _ => writer.Asked writer.caller ∧ writer.Quiet

/-- What holds between any two steps -/
structure Sound (writer : LogWriter) : Prop where
  rings : writer.caller.opening = false → writer.Rings
  opening : writer.caller.opening = true → writer.Opening
  handed : writer.Handed writer.stager

/-! ### What a step leaves alone -/

/-- Nothing changed but what belongs to the caller. -/
structure CallerOnly (writer next : LogWriter) : Prop where
  psramStage : next.psramStage = writer.psramStage
  stager : next.stager = writer.stager
  sd : next.sd = writer.sd
  sdControlQueue : next.sdControlQueue = writer.sdControlQueue
  sdControlAck : next.sdControlAck = writer.sdControlAck

/-- Nothing changed but what belongs to the stage task. -/
structure StagerOnly (writer next : LogWriter) : Prop where
  ingressRing : next.ingressRing = writer.ingressRing
  ingressWriteIndex : next.ingressWriteIndex = writer.ingressWriteIndex
  psramReadIndex : next.psramReadIndex = writer.psramReadIndex
  caller : next.caller = writer.caller
  sd : next.sd = writer.sd
  file : next.file = writer.file
  fileCrc32 : next.fileCrc32 = writer.fileCrc32
  recordsWritten : next.recordsWritten = writer.recordsWritten
  firstSequence : next.firstSequence = writer.firstSequence
  lastSequence : next.lastSequence = writer.lastSequence
  sdWriteFailed : next.sdWriteFailed = writer.sdWriteFailed
  enqueued : next.enqueued = writer.enqueued
  image : next.image = writer.image
  drained : next.drained = writer.drained
  accepting : next.accepting = writer.accepting
  closingFooter : next.closingFooter = writer.closingFooter
  closed : next.closed = writer.closed

/-- Nothing changed but what belongs to the SD task. -/
structure SdOnly (writer next : LogWriter) : Prop where
  ingressRing : next.ingressRing = writer.ingressRing
  ingressWriteIndex : next.ingressWriteIndex = writer.ingressWriteIndex
  ingressReadIndex : next.ingressReadIndex = writer.ingressReadIndex
  psramStage : next.psramStage = writer.psramStage
  psramWriteIndex : next.psramWriteIndex = writer.psramWriteIndex
  controlQueue : next.controlQueue = writer.controlQueue
  controlAck : next.controlAck = writer.controlAck
  caller : next.caller = writer.caller
  stager : next.stager = writer.stager
  enqueued : next.enqueued = writer.enqueued
  drained : next.drained = writer.drained

theorem stagerStep_only (writer : LogWriter) : StagerOnly writer writer.stagerStep := by
  unfold stagerStep refuseRecord rememberFirst
  dsimp only
  repeat' split
  all_goals exact ⟨rfl, rfl, rfl, rfl, rfl, rfl, rfl, rfl, rfl, rfl, rfl, rfl, rfl, rfl, rfl, rfl, rfl⟩

theorem drainedAll_only (writer : LogWriter) (request : Option ControlRequest) :
    SdOnly writer (writer.drainedAll request) := by
  unfold drainedAll processSdControl
  dsimp only
  repeat' split
  all_goals exact ⟨rfl, rfl, rfl, rfl, rfl, rfl, rfl, rfl, rfl, rfl, rfl⟩

/-- What `writeDescriptor` leaves behind when it fails belongs to the SD task. -/
theorem SdOnly.of_failed {writer next : LogWriter} {firstError : WriterError}
    (only : SdOnly { writer with sdWriteFailed := true, firstError } next) : SdOnly writer next :=
  ⟨only.ingressRing, only.ingressWriteIndex, only.ingressReadIndex, only.psramStage,
    only.psramWriteIndex, only.controlQueue, only.controlAck, only.caller, only.stager,
    only.enqueued, only.drained⟩

theorem sdStep_only (writer : LogWriter) (answer : IoAnswer) :
    SdOnly writer (writer.sdStep answer) := by
  unfold sdStep failBatch rememberFirst append closeDescriptor
  dsimp only
  repeat' split
  all_goals first
    | exact drainedAll_only _ _
    | exact (drainedAll_only _ _).of_failed
    | exact ⟨rfl, rfl, rfl, rfl, rfl, rfl, rfl, rfl, rfl, rfl, rfl⟩

theorem callerStep_only (writer : LogWriter) (closed : writer.caller.opening = false) :
    CallerOnly writer writer.callerStep := by
  unfold callerStep rememberFirst finishEnqueue finishControl finish
  dsimp only
  repeat' split
  all_goals first
    | exact ⟨rfl, rfl, rfl, rfl, rfl⟩
    | simp_all [Caller.opening]

/-! ### The stage task keeps it -/

theorem StagerLoaded.mono {ingressWrite ingressRead psramWrite psramRead more : ℕ} {stager : Stager}
    (loaded : StagerLoaded ingressWrite ingressRead psramWrite psramRead stager)
    (later : psramRead ≤ more) : StagerLoaded ingressWrite ingressRead psramWrite more stager := by
  cases stager <;> simp only [StagerLoaded] at loaded ⊢ <;> omega

theorem StagerLoaded.mono_write {ingressWrite ingressRead psramWrite psramRead more : ℕ}
    {stager : Stager}
    (loaded : StagerLoaded ingressWrite ingressRead psramWrite psramRead stager)
    (later : ingressWrite ≤ more) : StagerLoaded more ingressRead psramWrite psramRead stager := by
  cases stager <;> simp only [StagerLoaded] at loaded ⊢ <;> omega

theorem SdLoaded.mono {psramWrite psramRead more : ℕ} {sd : SdTask}
    (loaded : SdLoaded psramWrite psramRead sd) (later : psramWrite ≤ more) :
    SdLoaded more psramRead sd := by
  cases sd <;> simp only [SdLoaded] at loaded ⊢ <;> omega

theorem CallerRoom.mono {writeIndex readIndex more : ℕ} {caller : Caller}
    (room : CallerRoom writeIndex readIndex caller) (later : readIndex ≤ more) :
    CallerRoom writeIndex more caller := by
  cases caller <;> simp only [CallerRoom] at room ⊢ <;> omega

theorem rings_stagerStep {writer : LogWriter} (rings : writer.Rings) : writer.stagerStep.Rings := by
  obtain ⟨ingressLe, ingressRoom, psramLe, psramRoom, caller, stager, sd⟩ := rings
  cases pc : writer.stager with
  | roomed count readIndex record writeIndex =>
      rw [pc] at stager
      simp only [stagerStep, pc]
      exact ⟨ingressLe, ingressRoom, psramLe, psramRoom, caller, stager, sd⟩
  | staged count readIndex writeIndex =>
      rw [pc] at stager
      obtain ⟨same, below, rfl, room⟩ := stager
      have later : writer.psramReadIndex ≤ writer.psramWriteIndex + 1 := by omega
      have within : writer.psramWriteIndex + 1 ≤ writer.psramReadIndex + kPsramStagingCapacity := room
      simp only [stagerStep, pc]
      exact ⟨ingressLe, ingressRoom, later, within, caller, ⟨same, below⟩, sd.mono (Nat.le_succ _)⟩
  | consuming count readIndex =>
      rw [pc] at stager
      obtain ⟨rfl, below⟩ := stager
      have within : writer.ingressWriteIndex ≤ writer.ingressReadIndex + 1 + kQueueDepth := by omega
      simp only [stagerStep, pc]
      exact ⟨below, within, psramLe, psramRoom, caller.mono (Nat.le_succ _), trivial, sd⟩
  | loaded count readIndex =>
      rw [pc] at stager
      obtain rfl : readIndex = writer.ingressReadIndex := stager
      simp only [stagerStep, pc]
      split
      · exact ⟨ingressLe, ingressRoom, psramLe, psramRoom, caller, trivial, sd⟩
      · rename_i waiting
        have below : writer.ingressReadIndex < writer.ingressWriteIndex := by omega
        exact ⟨ingressLe, ingressRoom, psramLe, psramRoom, caller, ⟨rfl, below⟩, sd⟩
  | encoded count readIndex record =>
      rw [pc] at stager
      simp only [stagerStep, pc]
      split
      · exact ⟨ingressLe, ingressRoom, psramLe, psramRoom, caller, trivial, sd⟩
      · rename_i free
        rw [occupancy_of_le psramLe] at free
        have room : writer.psramWriteIndex < writer.psramReadIndex + kPsramStagingCapacity := by omega
        exact ⟨ingressLe, ingressRoom, psramLe, psramRoom, caller,
          ⟨stager.1, stager.2, rfl, room⟩, sd⟩
  | taking count readIndex =>
      rw [pc] at stager
      simp only [stagerStep, pc, refuseRecord]
      split
      · exact ⟨ingressLe, ingressRoom, psramLe, psramRoom, caller, trivial, sd⟩
      · split
        · exact ⟨ingressLe, ingressRoom, psramLe, psramRoom, caller, trivial, sd⟩
        · exact ⟨ingressLe, ingressRoom, psramLe, psramRoom, caller, stager, sd⟩
  | polling | finishing =>
      simp only [stagerStep, pc]
      exact ⟨ingressLe, ingressRoom, psramLe, psramRoom, caller, trivial, sd⟩
  | batch =>
      simp only [stagerStep, pc]
      split
      · exact ⟨ingressLe, ingressRoom, psramLe, psramRoom, caller, rfl, sd⟩
      · exact ⟨ingressLe, ingressRoom, psramLe, psramRoom, caller, trivial, sd⟩
  | polled | receiving =>
      simp only [stagerStep, pc]
      split <;> exact ⟨ingressLe, ingressRoom, psramLe, psramRoom, caller, trivial, sd⟩
  | clearing =>
      simp only [stagerStep, pc]
      split <;> exact ⟨ingressLe, ingressRoom, psramLe, psramRoom, caller, trivial, sd⟩
  | sending | awaiting =>
      simp only [stagerStep, pc]
      split
      all_goals first
        | exact ⟨ingressLe, ingressRoom, psramLe, psramRoom, caller, trivial, sd⟩
        | exact ⟨ingressLe, ingressRoom, psramLe, psramRoom, caller, stager, sd⟩

/-! ### The SD task keeps it -/

theorem sdLoaded_drainedAll (writer : LogWriter) (request : Option ControlRequest) :
    SdLoaded writer.psramWriteIndex (writer.drainedAll request).psramReadIndex
      (writer.drainedAll request).sd ∧
      (writer.drainedAll request).psramReadIndex = writer.psramReadIndex := by
  unfold drainedAll processSdControl
  dsimp only
  repeat' split
  all_goals exact ⟨trivial, rfl⟩

/-- The SD task gives up slots of its ring and loads what is there. -/
theorem sdLoaded_sdStep {writer : LogWriter} (rings : writer.Rings) (answer : IoAnswer) :
    SdLoaded writer.psramWriteIndex (writer.sdStep answer).psramReadIndex (writer.sdStep answer).sd ∧
      writer.psramReadIndex ≤ (writer.sdStep answer).psramReadIndex ∧
      (writer.sdStep answer).psramReadIndex ≤ writer.psramWriteIndex := by
  have below := rings.psram_le
  have loaded := rings.sd
  cases pc : writer.sd with
  | draining request =>
      simp only [sdStep, pc]
      split
      · obtain ⟨holds, same⟩ := sdLoaded_drainedAll writer request
        exact ⟨holds, same.ge, same.le.trans below⟩
      · exact ⟨rfl, le_rfl, below⟩
  | loaded request readIndex =>
      rw [pc] at loaded
      obtain rfl : readIndex = writer.psramReadIndex := loaded
      simp only [sdStep, pc]
      split
      · obtain ⟨holds, same⟩ := sdLoaded_drainedAll writer request
        exact ⟨holds, same.ge, same.le.trans below⟩
      · rename_i waiting
        rw [occupancy_of_le below]
        refine ⟨⟨rfl, ?_, ?_, Nat.zero_le _⟩, le_rfl, below⟩
        · have batch : 0 < kBatchRecords := by decide
          omega
        · omega
  | copying request readIndex count batch =>
      rw [pc] at loaded
      obtain ⟨rfl, some, within, taken⟩ := loaded
      simp only [sdStep, pc]
      split
      · refine ⟨⟨rfl, some, within, ?_⟩, le_rfl, below⟩
        rw [List.length_append, List.length_singleton]
        omega
      · exact ⟨⟨rfl, by omega, by omega⟩, le_rfl, below⟩
  | writing request readIndex batch offset =>
      rw [pc] at loaded
      simp only [sdStep, pc, failBatch]
      repeat' split
      all_goals first
        | exact ⟨loaded, le_rfl, below⟩
        | exact ⟨pc ▸ loaded, le_rfl, below⟩
        | skip
      all_goals
        obtain ⟨holds, same⟩ := sdLoaded_drainedAll
          ({ writer with sdWriteFailed := true }.rememberFirst .fail) request
        exact ⟨holds, same.ge, same.le.trans below⟩
  | written request readIndex batch =>
      rw [pc] at loaded
      simp only [sdStep, pc]
      exact ⟨loaded, le_rfl, below⟩
  | publishing request readIndex count =>
      rw [pc] at loaded
      obtain ⟨rfl, some, within⟩ := loaded
      simp only [sdStep, pc]
      exact ⟨trivial, Nat.le_add_right _ _, within⟩
  | receiving | syncing | flushing | closing | acknowledging =>
      simp only [sdStep, pc, closeDescriptor]
      exact ⟨trivial, le_rfl, below⟩
  | truncating =>
      simp only [sdStep, pc]
      split <;> exact ⟨trivial, le_rfl, below⟩
  | footing =>
      simp only [sdStep, pc]
      repeat' split
      all_goals first
        | exact ⟨trivial, le_rfl, below⟩
        | exact ⟨pc ▸ trivial, le_rfl, below⟩

theorem rings_sdStep {writer : LogWriter} (rings : writer.Rings) (answer : IoAnswer) :
    (writer.sdStep answer).Rings := by
  have only := sdStep_only writer answer
  obtain ⟨loaded, later, within⟩ := sdLoaded_sdStep rings answer
  constructor
  · rw [only.ingressReadIndex, only.ingressWriteIndex]
    exact rings.ingress_le
  · rw [only.ingressReadIndex, only.ingressWriteIndex]
    exact rings.ingress_room
  · rw [only.psramWriteIndex]
    exact within
  · rw [only.psramWriteIndex]
    exact rings.psram_room.trans (Nat.add_le_add_right later _)
  · rw [only.ingressReadIndex, only.ingressWriteIndex, only.caller]
    exact rings.caller
  · rw [only.ingressReadIndex, only.ingressWriteIndex, only.psramWriteIndex, only.stager]
    exact rings.stager.mono later
  · rw [only.psramWriteIndex]
    exact loaded

/-! ### The caller keeps it -/

theorem rings_callerStep {writer : LogWriter} (rings : writer.Rings)
    (closed : writer.caller.opening = false) : writer.callerStep.Rings := by
  obtain ⟨ingressLe, ingressRoom, psramLe, psramRoom, caller, stager, sd⟩ := id rings
  cases pc : writer.caller with
  | idle =>
      simp only [callerStep, pc]
      exact rings
  | checked record =>
      simp only [callerStep, pc]
      split
      · exact ⟨ingressLe, ingressRoom, psramLe, psramRoom, trivial, stager, sd⟩
      · rename_i free
        rw [occupancy_of_le ingressLe] at free
        have room : writer.ingressWriteIndex < writer.ingressReadIndex + kQueueDepth := by omega
        exact ⟨ingressLe, ingressRoom, psramLe, psramRoom, room, stager, sd⟩
  | roomed record =>
      rw [pc] at caller
      simp only [callerStep, pc]
      exact ⟨ingressLe, ingressRoom, psramLe, psramRoom, caller, stager, sd⟩
  | stored record =>
      rw [pc] at caller
      simp only [callerStep, pc]
      exact ⟨ingressLe.trans (Nat.le_succ _), caller, psramLe, psramRoom, trivial,
        stager.mono_write (Nat.le_succ _), sd⟩
  | resetting | restarting =>
      rw [pc] at closed
      cases closed
  | draining request =>
      simp only [callerStep, pc]
      split <;> exact ⟨ingressLe, ingressRoom, psramLe, psramRoom, trivial, stager, sd⟩
  | sending request =>
      simp only [callerStep, pc]
      split
      · exact rings
      · exact ⟨ingressLe, ingressRoom, psramLe, psramRoom, trivial, stager, sd⟩
  | awaiting request =>
      simp only [callerStep, pc]
      split
      · cases request <;> exact ⟨ingressLe, ingressRoom, psramLe, psramRoom, trivial, stager, sd⟩
      · exact rings

/-- The indices do not depend on a call that has just begun or returned. -/
theorem Rings.of_same {writer next : LogWriter} (rings : writer.Rings)
    (ingressWrite : next.ingressWriteIndex = writer.ingressWriteIndex)
    (ingressRead : next.ingressReadIndex = writer.ingressReadIndex)
    (psramWrite : next.psramWriteIndex = writer.psramWriteIndex)
    (psramRead : next.psramReadIndex = writer.psramReadIndex)
    (stager : next.stager = writer.stager) (sd : next.sd = writer.sd)
    (room : CallerRoom next.ingressWriteIndex next.ingressReadIndex next.caller) : next.Rings := by
  constructor
  · rw [ingressRead, ingressWrite]
    exact rings.ingress_le
  · rw [ingressRead, ingressWrite]
    exact rings.ingress_room
  · rw [psramRead, psramWrite]
    exact rings.psram_le
  · rw [psramRead, psramWrite]
    exact rings.psram_room
  · exact room
  · rw [ingressWrite, ingressRead, psramWrite, psramRead, stager]
    exact rings.stager
  · rw [psramWrite, psramRead, sd]
    exact rings.sd

/-- The reset of an index: the next one is due, or all four are reset. -/
theorem opening_resetIndex {writer : LogWriter} {purpose : ResetFor} {index : RingIndex}
    (pc : writer.caller = .resetting purpose index) (opening : writer.Opening) :
    (writer.resetIndex purpose index).caller.opening = true ∧
      (writer.resetIndex purpose index).Opening := by
  obtain ⟨reset, stager, sd⟩ := opening
  rw [pc] at reset
  cases index with
  | ingressWrite => exact ⟨rfl, rfl, stager, sd⟩
  | ingressRead => exact ⟨rfl, ⟨reset, rfl⟩, stager, sd⟩
  | psramWrite => exact ⟨rfl, ⟨reset.1, reset.2, rfl⟩, stager, sd⟩
  | psramRead => exact ⟨rfl, ⟨reset.1, reset.2.1, reset.2.2, rfl⟩, stager, sd⟩

theorem stagerLoaded_of_atRest {ingressWrite ingressRead psramWrite psramRead : ℕ} {stager : Stager}
    (rest : stager.atRest = true) :
    StagerLoaded ingressWrite ingressRead psramWrite psramRead stager := by
  cases stager <;> trivial

theorem sdLoaded_of_atRest {psramWrite psramRead : ℕ} {sd : SdTask} (rest : sd.atRest = true) :
    SdLoaded psramWrite psramRead sd := by
  cases sd <;> trivial

/-- Empty rings, with both tasks at rest -/
theorem rings_restart {writer : LogWriter} {purpose : ResetFor}
    (pc : writer.caller = .restarting purpose) (opening : writer.Opening) :
    (writer.restart purpose).Rings := by
  obtain ⟨reset, stager, sd⟩ := opening
  rw [pc] at reset
  obtain ⟨ingressWrite, ingressRead, psramWrite, psramRead⟩ := reset
  have empty : writer.ingressReadIndex ≤ writer.ingressWriteIndex := by omega
  have room : writer.ingressWriteIndex ≤ writer.ingressReadIndex + kQueueDepth := by omega
  have staged : writer.psramReadIndex ≤ writer.psramWriteIndex := by omega
  have within : writer.psramWriteIndex ≤ writer.psramReadIndex + kPsramStagingCapacity := by omega
  cases purpose <;>
    exact ⟨empty, room, staged, within, trivial, stagerLoaded_of_atRest stager,
      sdLoaded_of_atRest sd⟩

/-! ### The requests -/

theorem quiet_of_same {writer next : LogWriter} (quiet : writer.Quiet)
    (queue : next.sdControlQueue = writer.sdControlQueue)
    (ack : next.sdControlAck = writer.sdControlAck) (sd : next.sd = writer.sd) : next.Quiet :=
  ⟨queue.trans quiet.queue, ack.trans quiet.ack, (congrArg SdTask.idle sd).trans quiet.sd⟩

theorem handed_stagerStep {writer : LogWriter} (handed : writer.Handed writer.stager) :
    writer.stagerStep.Handed writer.stagerStep.stager := by
  cases pc : writer.stager with
  | clearing request result =>
      rw [pc] at handed
      obtain ⟨taken, quiet⟩ := handed
      simp only [stagerStep, pc]
      rw [if_neg (Bool.eq_false_iff.mp quiet.ack)]
      exact ⟨⟨taken.caller, taken.queue, taken.ack⟩, quiet_of_same quiet rfl rfl rfl⟩
  | sending request result =>
      rw [pc] at handed
      obtain ⟨taken, quiet⟩ := handed
      simp only [stagerStep, pc]
      rw [if_neg (by simp [quiet.queue])]
      exact ⟨request, ⟨taken.caller, taken.queue, taken.ack⟩, Or.inl ⟨rfl, quiet.ack, quiet.sd⟩⟩
  | awaiting result =>
      rw [pc] at handed
      obtain ⟨request, taken, atSd⟩ := handed
      simp only [stagerStep, pc]
      split
      · rename_i acknowledged
        rcases atSd with ⟨-, none, -⟩ | ⟨-, none, -⟩ | ⟨queue, -, sd⟩
        · rw [none] at acknowledged
          cases acknowledged
        · rw [none] at acknowledged
          cases acknowledged
        · exact ⟨⟨request, taken.caller, taken.queue, taken.ack⟩, queue, rfl, sd⟩
      · rw [pc]
        exact ⟨request, taken, atSd⟩
  | finishing result =>
      rw [pc] at handed
      obtain ⟨⟨request, taken⟩, quiet⟩ := handed
      simp only [stagerStep, pc]
      refine ⟨?_, quiet_of_same quiet rfl rfl rfl⟩
      show Asked _ writer.caller
      rw [taken.caller]
      exact Or.inr ⟨taken.queue, rfl⟩
  | receiving =>
      rw [pc] at handed
      obtain ⟨asked, quiet⟩ := handed
      simp only [stagerStep, pc]
      split
      · rename_i request waiting
        refine ⟨?_, quiet_of_same quiet rfl rfl rfl⟩
        cases caller : writer.caller with
        | awaiting expected =>
            rw [caller] at asked
            rcases asked with ⟨queue, ack⟩ | ⟨queue, -⟩
            · obtain rfl := Option.some.inj (waiting.symm.trans queue)
              exact ⟨rfl, rfl, ack⟩
            · rw [queue] at waiting
              cases waiting
        | _ =>
            rw [caller] at asked
            rw [asked.1] at waiting
            cases waiting
      · exact ⟨asked, quiet_of_same quiet rfl rfl rfl⟩
  | polling | polled | batch | loaded | taking | encoded | roomed | staged | consuming =>
      rw [pc] at handed
      obtain ⟨asked, quiet⟩ := handed
      simp only [stagerStep, pc, refuseRecord]
      repeat' split
      all_goals exact ⟨asked, quiet_of_same quiet rfl rfl rfl⟩

/-- The SD task goes on without a request, unless it looks into its queue. -/
theorem idle_sdStep {writer : LogWriter} (idle : writer.sd.idle = true) (answer : IoAnswer) :
    (writer.sdStep answer).sdControlAck = writer.sdControlAck ∧
      (((writer.sdStep answer).sdControlQueue = writer.sdControlQueue ∧
          (writer.sdStep answer).sd.idle = true) ∨
        ((writer.sdStep answer).sdControlQueue = none ∧
          (writer.sdStep answer).sd = .draining writer.sdControlQueue)) := by
  obtain ⟨next, stepped⟩ : ∃ next, writer.sdStep answer = next := ⟨_, rfl⟩
  rw [stepped]
  cases pc : writer.sd with
  | draining held | loaded held | copying held | writing held | written held | publishing held =>
      rw [pc] at idle
      cases held with
      | some request => cases idle
      | none =>
          simp only [sdStep, pc, failBatch, drainedAll] at stepped
          repeat' split at stepped
          all_goals
            subst stepped
            exact ⟨rfl, Or.inl ⟨rfl, by first | rfl | exact congrArg SdTask.idle pc⟩⟩
  | receiving =>
      simp only [sdStep, pc] at stepped
      subst stepped
      exact ⟨rfl, Or.inr ⟨rfl, rfl⟩⟩
  | syncing | footing | flushing | truncating | closing | acknowledging =>
      rw [pc] at idle
      cases idle

/-- Nothing comes to the SD task from an empty queue. -/
theorem empty_sdStep {writer : LogWriter} (idle : writer.sd.idle = true)
    (queue : writer.sdControlQueue = none) (answer : IoAnswer) :
    (writer.sdStep answer).sdControlQueue = none ∧ (writer.sdStep answer).sd.idle = true := by
  rcases (idle_sdStep idle answer).2 with ⟨same, still⟩ | ⟨none, taken⟩
  · exact ⟨same.trans queue, still⟩
  · rw [queue] at taken
    exact ⟨none, by rw [taken]; rfl⟩

theorem handles_processSdControl (writer : LogWriter) (request : ControlRequest) :
    (writer.processSdControl request).sd.Handles request ∧
      (writer.processSdControl request).sdControlQueue = writer.sdControlQueue ∧
      (writer.processSdControl request).sdControlAck = writer.sdControlAck := by
  cases request with
  | sync =>
      simp only [processSdControl]
      split
      · exact ⟨trivial, rfl, rfl⟩
      · exact ⟨rfl, rfl, rfl⟩
  | finalize footer =>
      simp only [processSdControl]
      split
      · exact ⟨trivial, rfl, rfl⟩
      · split <;> exact ⟨⟨footer, rfl⟩, rfl, rfl⟩

theorem handles_sdStep {writer : LogWriter} {request : ControlRequest}
    (handles : writer.sd.Handles request) (queue : writer.sdControlQueue = none)
    (ack : writer.sdControlAck = false) (answer : IoAnswer) :
    (writer.sdStep answer).AtSd request := by
  have kept : ∀ {next : LogWriter}, next.sd.Handles request →
      next.sdControlQueue = writer.sdControlQueue → next.sdControlAck = writer.sdControlAck →
      next.AtSd request :=
    fun handles sameQueue sameAck => Or.inr (Or.inl ⟨sameQueue.trans queue, sameAck.trans ack, handles⟩)
  cases pc : writer.sd with
  | draining held | loaded held | copying held | writing held | written held | publishing held =>
      rw [pc] at handles
      obtain rfl : held = some request := handles
      simp only [sdStep, pc, failBatch, drainedAll]
      repeat' split
      all_goals first
        | exact kept (handles_processSdControl _ _).1 (handles_processSdControl _ _).2.1
            (handles_processSdControl _ _).2.2
        | exact kept rfl rfl rfl
        | exact kept (congrArg (SdTask.Handles request) pc ▸ rfl) rfl rfl
  | receiving =>
      rw [pc] at handles
      cases handles
  | syncing | flushing | closing =>
      rw [pc] at handles
      simp only [sdStep, pc, closeDescriptor]
      exact kept (by first | exact handles | trivial) rfl rfl
  | truncating | footing =>
      rw [pc] at handles
      simp only [sdStep, pc]
      repeat' split
      all_goals first
        | exact kept handles rfl rfl
        | exact kept (pc ▸ handles) rfl rfl
  | acknowledging =>
      simp only [sdStep, pc]
      exact Or.inr (Or.inr ⟨queue, rfl, rfl⟩)

theorem handed_sdStep {writer : LogWriter} (handed : writer.Handed writer.stager)
    (answer : IoAnswer) : (writer.sdStep answer).Handed (writer.sdStep answer).stager := by
  have only := sdStep_only writer answer
  have quieted : writer.Quiet → (writer.sdStep answer).Quiet := by
    intro quiet
    obtain ⟨queue, sd⟩ := empty_sdStep quiet.sd quiet.queue answer
    exact ⟨queue, (idle_sdStep quiet.sd answer).1.trans quiet.ack, sd⟩
  have taken : ∀ {request}, writer.Taken request → (writer.sdStep answer).Taken request :=
    fun taken => ⟨only.caller.trans taken.caller, only.controlQueue.trans taken.queue,
      only.controlAck.trans taken.ack⟩
  have asked : writer.Asked writer.caller →
      (writer.sdStep answer).Asked (writer.sdStep answer).caller := by
    intro asked
    unfold Asked at asked ⊢
    rw [only.caller, only.controlQueue, only.controlAck]
    exact asked
  rw [only.stager]
  cases pc : writer.stager with
  | clearing | sending =>
      rw [pc] at handed
      exact ⟨taken handed.1, quieted handed.2⟩
  | awaiting =>
      rw [pc] at handed
      obtain ⟨request, held, atSd⟩ := handed
      refine ⟨request, taken held, ?_⟩
      rcases atSd with ⟨queue, ack, sd⟩ | ⟨queue, ack, sd⟩ | ⟨queue, ack, sd⟩
      · obtain ⟨same, ⟨still, idle⟩ | ⟨none, received⟩⟩ := idle_sdStep sd answer
        · exact Or.inl ⟨still.trans queue, same.trans ack, idle⟩
        · rw [queue] at received
          exact Or.inr (Or.inl ⟨none, same.trans ack, by rw [received]; rfl⟩)
      · exact handles_sdStep sd queue ack answer
      · obtain ⟨still, idle⟩ := empty_sdStep sd queue answer
        exact Or.inr (Or.inr ⟨still, (idle_sdStep sd answer).1.trans ack, idle⟩)
  | finishing =>
      rw [pc] at handed
      obtain ⟨⟨request, held⟩, quiet⟩ := handed
      exact ⟨⟨request, taken held⟩, quieted quiet⟩
  | polling | polled | batch | loaded | taking | encoded | roomed | staged | consuming | receiving =>
      rw [pc] at handed
      exact ⟨asked handed.1, quieted handed.2⟩

theorem handed_of_not_serving {writer : LogWriter} (apart : writer.stager.serving = false)
    (asked : writer.Asked writer.caller) (quiet : writer.Quiet) : writer.Handed writer.stager := by
  cases pc : writer.stager with
  | clearing | sending | awaiting | finishing =>
      rw [pc] at apart
      cases apart
  | _ => exact ⟨asked, quiet⟩

/-- While the caller waits for nothing, no request is anywhere. -/
theorem free_of_handed {writer : LogWriter} (handed : writer.Handed writer.stager)
    (free : writer.caller.awaits = false) :
    writer.stager.serving = false ∧ writer.controlQueue = none ∧ writer.controlAck = false ∧
      writer.Quiet := by
  have busy : ∀ request, ¬ writer.Taken request := by
    intro request taken
    rw [taken.caller] at free
    cases free
  have none : writer.Asked writer.caller → writer.controlQueue = none ∧ writer.controlAck = false := by
    intro asked
    cases pc : writer.caller with
    | awaiting =>
        rw [pc] at free
        cases free
    | _ =>
        rw [pc] at asked
        exact asked
  cases pc : writer.stager with
  | clearing request | sending request =>
      rw [pc] at handed
      exact absurd handed.1 (busy request)
  | awaiting =>
      rw [pc] at handed
      obtain ⟨request, taken, -⟩ := handed
      exact absurd taken (busy request)
  | finishing =>
      rw [pc] at handed
      obtain ⟨⟨request, taken⟩, -⟩ := handed
      exact absurd taken (busy request)
  | _ =>
      rw [pc] at handed
      exact ⟨rfl, (none handed.1).1, (none handed.1).2, handed.2⟩

/-- A step of the caller that leaves the requests alone. -/
theorem handed_of_free {writer next : LogWriter} (handed : writer.Handed writer.stager)
    (free : writer.caller.awaits = false) (still : next.caller.awaits = false)
    (only : CallerOnly writer next) (queue : next.controlQueue = none ∨
      next.controlQueue = writer.controlQueue)
    (ack : next.controlAck = false ∨ next.controlAck = writer.controlAck) :
    next.Handed next.stager := by
  obtain ⟨apart, noQueue, noAck, quiet⟩ := free_of_handed handed free
  have asked : next.Asked next.caller := by
    have none : next.controlQueue = none ∧ next.controlAck = false :=
      ⟨queue.elim id fun same => same.trans noQueue, ack.elim id fun same => same.trans noAck⟩
    cases pc : next.caller with
    | awaiting =>
        rw [pc] at still
        cases still
    | _ => exact none
  exact handed_of_not_serving (by rw [only.stager]; exact apart) asked
    (quiet_of_same quiet only.sdControlQueue only.sdControlAck only.sd)

theorem handed_callerStep {writer : LogWriter} (handed : writer.Handed writer.stager)
    (closed : writer.caller.opening = false) :
    writer.callerStep.Handed writer.callerStep.stager := by
  have only := callerStep_only writer closed
  cases pc : writer.caller with
  | idle | checked | roomed | stored | draining =>
      have free : writer.caller.awaits = false := congrArg Caller.awaits pc
      obtain ⟨next, stepped⟩ : ∃ next, writer.callerStep = next := ⟨_, rfl⟩
      rw [stepped] at only ⊢
      simp only [callerStep, pc] at stepped
      repeat' split at stepped
      all_goals
        subst stepped
        refine handed_of_free handed free ?_ only (Or.inr rfl) ?_
      all_goals first
        | exact free
        | exact Or.inr rfl
        | exact Or.inl rfl
        | rfl
  | resetting | restarting =>
      rw [pc] at closed
      cases closed
  | sending request =>
      obtain ⟨apart, queue, ack, quiet⟩ := free_of_handed handed (by rw [pc]; rfl)
      have quieted := quiet_of_same quiet only.sdControlQueue only.sdControlAck only.sd
      refine handed_of_not_serving (by rw [only.stager]; exact apart) ?_ quieted
      simp only [callerStep, pc]
      rw [if_neg (by simp [queue])]
      exact Or.inl ⟨rfl, ack⟩
  | awaiting request =>
      simp only [callerStep, pc]
      split
      · rename_i acknowledged
        -- The acknowledgement has come, so that the request is nowhere else.
        have apart : writer.stager.serving = false ∧ writer.controlQueue = none ∧ writer.Quiet := by
          have pending : ∀ other, writer.Taken other → False := by
            intro other taken
            rw [taken.ack] at acknowledged
            cases acknowledged
          cases place : writer.stager with
          | clearing held | sending held =>
              rw [place] at handed
              exact (pending held handed.1).elim
          | awaiting =>
              rw [place] at handed
              obtain ⟨held, taken, -⟩ := handed
              exact (pending held taken).elim
          | finishing =>
              rw [place] at handed
              obtain ⟨⟨held, taken⟩, -⟩ := handed
              exact (pending held taken).elim
          | _ =>
              rw [place] at handed
              obtain ⟨asked, quiet⟩ := handed
              rw [pc] at asked
              rcases asked with ⟨-, none⟩ | ⟨queue, -⟩
              · rw [none] at acknowledged
                cases acknowledged
              · exact ⟨rfl, queue, quiet⟩
        obtain ⟨apart, queue, quiet⟩ := apart
        cases request <;>
          exact handed_of_not_serving apart ⟨queue, rfl⟩ (quiet_of_same quiet rfl rfl rfl)
      · exact handed

/-! ### Every step keeps it -/

theorem sound_callerStep {writer : LogWriter} (sound : writer.Sound) : writer.callerStep.Sound := by
  cases opening : writer.caller.opening with
  | false =>
      have rings := rings_callerStep (sound.rings opening) opening
      have handed := handed_callerStep sound.handed opening
      have still : writer.callerStep.caller.opening = false := by
        unfold callerStep rememberFirst finishEnqueue finishControl finish
        dsimp only
        repeat' split
        all_goals first
          | rfl
          | exact opening
          | simp_all [Caller.opening]
      exact ⟨fun _ => rings, fun opens => absurd (still.symm.trans opens) (by decide), handed⟩
  | true =>
      have opened := sound.opening opening
      cases pc : writer.caller with
      | resetting purpose index =>
          obtain ⟨opens, opened⟩ := opening_resetIndex pc opened
          have free : writer.caller.awaits = false := congrArg Caller.awaits pc
          have stepped : writer.callerStep = writer.resetIndex purpose index := by
            simp only [callerStep, pc]
          rw [stepped]
          refine ⟨fun closed => absurd (opens.symm.trans closed) (by decide), fun _ => opened, ?_⟩
          cases index <;>
            exact handed_of_free sound.handed free rfl ⟨rfl, rfl, rfl, rfl, rfl⟩ (Or.inr rfl)
              (Or.inr rfl)
      | restarting purpose =>
          have rings := rings_restart pc opened
          have free : writer.caller.awaits = false := congrArg Caller.awaits pc
          have stepped : writer.callerStep = writer.restart purpose := by
            simp only [callerStep, pc]
          rw [stepped]
          refine ⟨fun _ => rings, fun opens => ?_, ?_⟩
          · cases purpose <;> cases opens
          · cases purpose <;>
              exact handed_of_free sound.handed free rfl ⟨rfl, rfl, rfl, rfl, rfl⟩ (Or.inr rfl)
                (Or.inr rfl)
      | _ =>
          rw [pc] at opening
          cases opening

/-- A call that begins, or returns at once, and leaves the indices alone -/
theorem sound_of_call {writer next : LogWriter} (sound : writer.Sound)
    (idle : writer.caller = .idle) (only : CallerOnly writer next)
    (ingressWrite : next.ingressWriteIndex = writer.ingressWriteIndex)
    (ingressRead : next.ingressReadIndex = writer.ingressReadIndex)
    (psramWrite : next.psramWriteIndex = writer.psramWriteIndex)
    (psramRead : next.psramReadIndex = writer.psramReadIndex)
    (queue : next.controlQueue = writer.controlQueue) (ack : next.controlAck = writer.controlAck)
    (started : next.caller = .idle ∨ (∃ record, next.caller = .checked record) ∨
      ∃ request, next.caller = .draining request) : next.Sound := by
  have rings := sound.rings (by rw [idle]; rfl)
  have places : next.caller.opening = false ∧ next.caller.awaits = false ∧
      CallerRoom next.ingressWriteIndex next.ingressReadIndex next.caller := by
    rcases started with pc | ⟨record, pc⟩ | ⟨request, pc⟩ <;>
      · rw [pc]
        exact ⟨rfl, rfl, trivial⟩
  obtain ⟨closed, still, room⟩ := places
  refine ⟨fun _ => ?_, fun opens => absurd (closed.symm.trans opens) (by decide), ?_⟩
  · exact rings.of_same ingressWrite ingressRead psramWrite psramRead only.stager only.sd room
  · exact handed_of_free sound.handed (by rw [idle]; rfl) still only (Or.inr queue) (Or.inr ack)

/-- A call that begins to reset the indices -/
theorem sound_of_reset {writer next : LogWriter} (sound : writer.Sound)
    (idle : writer.caller = .idle) (stager : writer.stager.atRest = true)
    (sd : writer.sd.atRest = true) (sameStager : next.stager = writer.stager)
    (sameSd : next.sd = writer.sd)
    (queue : next.controlQueue = none) (ack : next.controlAck = false)
    (sdQueue : next.sdControlQueue = none) (sdAck : next.sdControlAck = false)
    (started : ∃ purpose, next.caller = .resetting purpose .ingressWrite) : next.Sound := by
  obtain ⟨purpose, pc⟩ := started
  obtain ⟨apart, -, -, -⟩ := free_of_handed sound.handed (by rw [idle]; rfl)
  refine ⟨fun closed => ?_, fun _ => ⟨?_, ?_, ?_⟩, ?_⟩
  · rw [pc] at closed
    cases closed
  · rw [pc]
    trivial
  · rw [sameStager]
    exact stager
  · rw [sameSd]
    exact sd
  · refine handed_of_not_serving (by rw [sameStager]; exact apart) ?_
      ⟨sdQueue, sdAck, by rw [sameSd]; exact SdTask.idle_of_atRest sd⟩
    rw [pc]
    exact ⟨queue, ack⟩

theorem sound_submitControl {writer next : LogWriter} (sound : writer.Sound)
    (idle : writer.caller = .idle) (request : ControlRequest)
    (begun : next = writer ∨ next = { writer with accepting := false }) :
    (next.submitControl request).Sound := by
  unfold submitControl
  split
  · rcases begun with rfl | rfl <;>
      exact sound_of_call sound idle ⟨rfl, rfl, rfl, rfl, rfl⟩ rfl rfl rfl rfl rfl rfl (Or.inl rfl)
  · rcases begun with rfl | rfl <;>
      exact sound_of_call sound idle ⟨rfl, rfl, rfl, rfl, rfl⟩ rfl rfl rfl rfl rfl rfl
        (Or.inr (Or.inr ⟨request, rfl⟩))

theorem sound_step {writer : LogWriter} {label : WriterStep} (sound : writer.Sound)
    (calm : writer.calm label) : (writer.step label).Sound := by
  have returns : ∀ result, writer.caller = .idle → (writer.finish result).Sound :=
    fun result idle => sound_of_call sound idle ⟨rfl, rfl, rfl, rfl, rfl⟩ rfl rfl rfl rfl rfl rfl
      (Or.inl rfl)
  cases label with
  | prepare outcome =>
      simp only [step]
      split
      · rename_i idle
        obtain ⟨apart, noQueue, noAck, quiet⟩ := free_of_handed sound.handed (by rw [idle]; rfl)
        unfold prepare
        split
        · exact returns _ idle
        · cases outcome with
          | refused => exact returns _ idle
          | abandoned =>
              exact sound_of_reset sound idle calm.1 calm.2 rfl rfl noQueue noAck quiet.queue
                quiet.ack ⟨_, rfl⟩
          | reserved content =>
              exact sound_of_call sound idle ⟨rfl, rfl, rfl, rfl, rfl⟩ rfl rfl rfl rfl rfl rfl
                (Or.inl rfl)
      · exact sound
  | «open» header answer =>
      simp only [step]
      split
      · rename_i idle
        obtain ⟨apart, noQueue, noAck, quiet⟩ := free_of_handed sound.handed (by rw [idle]; rfl)
        have cleaned : ∀ error, (writer.cleanupPreparedFile error).Sound :=
          fun error => sound_of_reset sound idle calm.1 calm.2 rfl rfl noQueue noAck quiet.queue
            quiet.ack ⟨_, rfl⟩
        unfold openFile
        split
        · exact returns _ idle
        · split
          · exact cleaned _
          · exact sound_of_reset sound idle calm.1 calm.2 rfl rfl rfl rfl rfl rfl ⟨_, rfl⟩
          · exact cleaned _
          · exact cleaned _
      · exact sound
  | enqueue record =>
      simp only [step]
      split
      · rename_i idle
        unfold enqueue
        split
        · exact sound_of_call sound idle ⟨rfl, rfl, rfl, rfl, rfl⟩ rfl rfl rfl rfl rfl rfl
            (Or.inl rfl)
        · exact sound_of_call sound idle ⟨rfl, rfl, rfl, rfl, rfl⟩ rfl rfl rfl rfl rfl rfl
            (Or.inr (Or.inl ⟨record, rfl⟩))
      · exact sound
  | drainAndSync =>
      simp only [step]
      split
      · rename_i idle
        unfold drainAndSync
        split
        · exact returns _ idle
        · exact sound_submitControl sound idle _ (Or.inr rfl)
      · exact sound
  | close footer =>
      simp only [step]
      split
      · rename_i idle
        unfold close
        split
        · exact returns _ idle
        · exact sound_submitControl sound idle _ (Or.inr rfl)
      · exact sound
  | caller => exact sound_callerStep sound
  | stager =>
      have only := stagerStep_only writer
      have closed : writer.caller.opening = false := calm
      refine ⟨fun _ => rings_stagerStep (sound.rings closed), fun opens => ?_,
        handed_stagerStep sound.handed⟩
      rw [step, only.caller, closed] at opens
      cases opens
  | sd answer =>
      have only := sdStep_only writer answer
      have closed : writer.caller.opening = false := calm
      refine ⟨fun _ => rings_sdStep (sound.rings closed) answer, fun opens => ?_,
        handed_sdStep sound.handed answer⟩
      rw [step, only.caller, closed] at opens
      cases opens

/-- After `initialize` -/
def initialized (ingressRing : ℕ → LogRecord) (psramStage : ℕ → StagedRecord)
    (closingFooter : LogFooter) : LogWriter :=
  { ingressRing, psramStage, closingFooter }

theorem sound_initialized (ingressRing : ℕ → LogRecord) (psramStage : ℕ → StagedRecord)
    (closingFooter : LogFooter) : (initialized ingressRing psramStage closingFooter).Sound where
  rings _ := ⟨le_rfl, Nat.zero_le _, le_rfl, Nat.zero_le _, trivial, trivial, trivial⟩
  opening := nofun
  handed := ⟨⟨rfl, rfl⟩, rfl, rfl, rfl⟩

end LogWriter

end MissionBoard.Characterization
