import Mathlib.Data.Prod.Lex
import MissionBoard.Characterization.WriterJam

/-!
Owns how a control request of `LogWriterV5` comes closer to its answer: at each place where it
can stand, which task it waits for, and that this task's next step brings it on.
-/

namespace MissionBoard.Characterization

open Storage (IoAnswer OpenFile)

/-! ### The SD task drains -/

/-- The task is inside `drainStagedBatch`, for this request if it has one. -/
def SdTask.Drains (request : Option ControlRequest) : SdTask → Prop
  | .draining held | .loaded held _ | .copying held _ _ _ | .writing held _ _ _ | .written held _ _
  | .publishing held _ _ => held = request
  | _ => False

/-- How much of the batch is still to be done -/
def SdTask.rank : SdTask → ℕ
  | .draining _ => 6 + (kRecordBytes + 1) * kBatchRecords
  | .loaded _ _ => 5 + (kRecordBytes + 1) * kBatchRecords
  | .copying _ _ count batch => 4 + kRecordBytes * count + (count - batch.length)
  | .writing _ _ batch offset => 3 + ((batchBytes batch).length - offset)
  | .written _ _ _ => 2
  | .publishing _ _ _ => 1
  | _ => 0

namespace LogWriter

/-- What is still to be drained: the records in PSRAM, and the rest of the batch -/
def drainMeasure (writer : LogWriter) : ℕ ×ₗ ℕ :=
  toLex (writer.psramWriteIndex - writer.psramReadIndex, writer.sd.rank)

/-- What a step inside `drainStagedBatch` can do -/
inductive DrainStep (writer next : LogWriter) (request : Option ControlRequest)
    (answer : IoAnswer) : Prop where
  | ends
      (reason : writer.sdWriteFailed = true ∨ writer.file.isNone = true ∨
        writer.psramReadIndex = writer.psramWriteIndex)
      (same : next = writer.drainedAll request)
  | fails (same : next = writer.failBatch request)
  | goesOn (drains : next.sd.Drains request) (lower : next.drainMeasure < writer.drainMeasure)
      (later : writer.psramReadIndex ≤ next.psramReadIndex)
      (queue : next.sdControlQueue = writer.sdControlQueue)
      (ack : next.sdControlAck = writer.sdControlAck)
  | waits (interrupted : answer = .interrupted) (same : next = writer)

theorem lower_of_rank {writer next : LogWriter}
    (write : next.psramWriteIndex = writer.psramWriteIndex)
    (read : next.psramReadIndex = writer.psramReadIndex)
    (lower : next.sd.rank < writer.sd.rank) : next.drainMeasure < writer.drainMeasure := by
  unfold drainMeasure
  rw [Prod.Lex.toLex_lt_toLex, write, read]
  exact Or.inr ⟨rfl, lower⟩

theorem drainStep_sdStep {writer : LogWriter} (rings : writer.Rings)
    {request : Option ControlRequest} (drains : writer.sd.Drains request) (answer : IoAnswer) :
    DrainStep writer (writer.sdStep answer) request answer := by
  have loaded := rings.sd
  obtain ⟨next, stepped⟩ : ∃ next, writer.sdStep answer = next := ⟨_, rfl⟩
  rw [stepped]
  cases pc : writer.sd with
  | draining held =>
      rw [pc] at drains
      obtain rfl : held = request := drains
      simp only [sdStep, pc] at stepped
      split at stepped
      · rename_i stops
        exact .ends (stops.imp id Or.inl) stepped.symm
      · subst stepped
        exact .goesOn rfl (lower_of_rank rfl rfl (by rw [pc]; simp [SdTask.rank])) le_rfl rfl rfl
  | loaded held readIndex =>
      rw [pc] at drains loaded
      obtain rfl : held = request := drains
      obtain rfl : readIndex = writer.psramReadIndex := loaded
      simp only [sdStep, pc] at stepped
      split at stepped
      · rename_i none
        exact .ends (Or.inr (Or.inr none)) stepped.symm
      · subst stepped
        refine .goesOn rfl (lower_of_rank rfl rfl ?_) le_rfl rfl rfl
        rw [pc]
        simp only [SdTask.rank, List.length_nil]
        have few := Nat.min_le_right (occupancy writer.psramWriteIndex writer.psramReadIndex)
          kBatchRecords
        generalize min (occupancy writer.psramWriteIndex writer.psramReadIndex) kBatchRecords =
          count at few ⊢
        unfold kBatchRecords kRecordBytes at *
        omega
  | copying held readIndex count batch =>
      rw [pc] at drains loaded
      obtain rfl : held = request := drains
      obtain ⟨-, -, -, taken⟩ := loaded
      simp only [sdStep, pc] at stepped
      split at stepped
      · rename_i more
        subst stepped
        refine .goesOn rfl (lower_of_rank rfl rfl ?_) le_rfl rfl rfl
        rw [pc]
        simp only [SdTask.rank, List.length_append, List.length_singleton]
        omega
      · subst stepped
        refine .goesOn rfl (lower_of_rank rfl rfl ?_) le_rfl rfl rfl
        obtain rfl : batch.length = count := by omega
        rw [pc]
        simp only [SdTask.rank, length_batchBytes]
        omega
  | writing held readIndex batch offset =>
      rw [pc] at drains
      obtain rfl : held = request := drains
      simp only [sdStep, pc] at stepped
      split at stepped
      · rename_i more
        split at stepped
        · exact .fails stepped.symm
        · exact .fails stepped.symm
        · rename_i _ count positive
          subst stepped
          refine .goesOn rfl (lower_of_rank rfl rfl ?_) le_rfl rfl rfl
          have some : 0 < count := Nat.pos_of_ne_zero positive
          rw [pc]
          simp only [SdTask.rank, List.length_take, List.length_drop]
          omega
        · exact .waits rfl stepped.symm
      · subst stepped
        refine .goesOn rfl (lower_of_rank rfl rfl ?_) le_rfl rfl rfl
        rw [pc]
        simp only [SdTask.rank]
        omega
  | written held readIndex batch =>
      rw [pc] at drains
      obtain rfl : held = request := drains
      simp only [sdStep, pc] at stepped
      subst stepped
      exact .goesOn rfl (lower_of_rank rfl rfl (by rw [pc]; simp [SdTask.rank])) le_rfl rfl rfl
  | publishing held readIndex count =>
      rw [pc] at drains loaded
      obtain rfl : held = request := drains
      obtain ⟨rfl, some, within⟩ := loaded
      simp only [sdStep, pc] at stepped
      subst stepped
      refine .goesOn rfl ?_ (Nat.le_add_right _ _) rfl rfl
      unfold drainMeasure
      rw [Prod.Lex.toLex_lt_toLex]
      left
      show writer.psramWriteIndex - (writer.psramReadIndex + count) <
        writer.psramWriteIndex - writer.psramReadIndex
      omega
  | receiving | syncing | footing | flushing | truncating | closing | acknowledging =>
      rw [pc] at drains
      cases drains

/-! ### The SD task handles the request -/

end LogWriter

/-- How much of `processSdControl` is still to be done -/
def SdTask.remaining : SdTask → ℕ
  | .footing _ _ offset => 6 + (kFooterBytes - offset)
  | .flushing _ => 5
  | .truncating _ => 4
  | .closing _ => 3
  | .syncing _ => 2
  | .acknowledging _ => 1
  | _ => 0

/-- The task is inside `processSdControl`. -/
def SdTask.processing : SdTask → Bool
  | .syncing _ | .footing _ _ _ | .flushing _ | .truncating _ | .closing _ | .acknowledging _ => true
  | _ => false

namespace LogWriter

theorem processing_processSdControl (writer : LogWriter) (request : ControlRequest) :
    (writer.processSdControl request).sd.processing = true := by
  unfold processSdControl
  dsimp only
  repeat' split
  all_goals rfl

/-- What a step inside `processSdControl` can do -/
inductive ProcessStep (writer next : LogWriter) (answer : IoAnswer) : Prop where
  | acknowledges (queue : next.sdControlQueue = writer.sdControlQueue)
      (ack : next.sdControlAck = true)
  | goesOn (processes : next.sd.processing = true)
      (lower : next.sd.remaining < writer.sd.remaining)
      (queue : next.sdControlQueue = writer.sdControlQueue)
      (ack : next.sdControlAck = writer.sdControlAck)
  | waits (interrupted : answer = .interrupted) (same : next = writer)

theorem processStep_sdStep {writer : LogWriter} (processes : writer.sd.processing = true)
    (answer : IoAnswer) : ProcessStep writer (writer.sdStep answer) answer := by
  obtain ⟨next, stepped⟩ : ∃ next, writer.sdStep answer = next := ⟨_, rfl⟩
  rw [stepped]
  cases pc : writer.sd with
  | syncing | flushing | closing =>
      simp only [sdStep, pc, closeDescriptor] at stepped
      subst stepped
      exact .goesOn rfl (by rw [pc]; simp [SdTask.remaining]) rfl rfl
  | truncating =>
      simp only [sdStep, pc] at stepped
      split at stepped <;>
        · subst stepped
          exact .goesOn rfl (by rw [pc]; simp [SdTask.remaining]) rfl rfl
  | acknowledging =>
      simp only [sdStep, pc] at stepped
      subst stepped
      exact .acknowledges rfl rfl
  | footing result bytes offset =>
      simp only [sdStep, pc] at stepped
      split at stepped
      · rename_i more
        rw [Vector.length_toList] at more
        split at stepped
        · subst stepped
          exact .goesOn rfl (by rw [pc]; simp only [SdTask.remaining]; omega) rfl rfl
        · subst stepped
          exact .goesOn rfl (by rw [pc]; simp only [SdTask.remaining]; omega) rfl rfl
        · rename_i _ count positive
          subst stepped
          have some : 0 < count := Nat.pos_of_ne_zero positive
          refine .goesOn rfl ?_ rfl rfl
          rw [pc]
          simp only [SdTask.remaining, List.length_take, List.length_drop, Vector.length_toList,
            kFooterBytes]
          omega
        · exact .waits rfl stepped.symm
      · subst stepped
        exact .goesOn rfl (by rw [pc]; simp only [SdTask.remaining]; omega) rfl rfl
  | draining | loaded | copying | writing | written | publishing | receiving =>
      rw [pc] at processes
      cases processes

/-- The request is in the loop that drains, or it is processed. -/
theorem drains_or_processing {sd : SdTask} {request : ControlRequest} (handles : sd.Handles request) :
    sd.Drains (some request) ∨ sd.processing = true := by
  cases sd with
  | draining | loaded | copying | writing | written | publishing => exact Or.inl handles
  | receiving => cases handles
  | _ => exact Or.inr rfl

/-- Without a request the task drains or looks into its queue. -/
theorem drains_or_receiving {sd : SdTask} (idle : sd.idle = true) :
    sd.Drains none ∨ sd = .receiving := by
  cases sd with
  | draining held | loaded held | copying held | writing held | written held | publishing held =>
      cases held with
      | none => exact Or.inl rfl
      | some request => cases idle
  | receiving => exact Or.inr rfl
  | _ => cases idle

theorem not_processing_of_drains {sd : SdTask} {request : Option ControlRequest}
    (drains : sd.Drains request) : sd.processing = false := by
  cases sd <;> first | rfl | cases drains

/-! ### Where the request stands -/

end LogWriter

/-- The stage task empties its ring. -/
def Stager.inRing : Stager → Bool
  | .receiving | .clearing _ _ | .sending _ _ | .awaiting _ | .finishing _ => false
  | _ => true

/-- The three tasks -/
inductive WriterTask where
  | caller
  | stager
  | sd
deriving DecidableEq

/-- The label gives the task a step; a call of the card that is interrupted is no step. -/
def WriterTask.turn : WriterTask → WriterStep → Prop
  | .caller, .caller => True
  | .stager, .stager => True
  | .sd, .sd answer => answer ≠ .interrupted
  | _, _ => False

namespace LogWriter

/-- How many steps the stage task needs for the first record of its ring, or to find the ring
empty -/
def stagerRank (writer : LogWriter) : ℕ :=
  if writer.ingressReadIndex = writer.ingressWriteIndex then
    match writer.stager with
    | .polled readIndex => if readIndex = writer.ingressWriteIndex then 1 else 5
    | .polling => 2
    | .loaded _ _ => 3
    | .batch count => if count < kBatchRecords then 4 else 3
    | _ => 0
  else
    match writer.stager with
    | .consuming _ _ => 1
    | .staged _ _ _ => 2
    | .roomed _ _ _ _ => 3
    | .encoded _ _ _ => 4
    | .taking _ _ => 5
    | .loaded _ _ => 6
    | .batch count => if count < kBatchRecords then 7 else 10
    | .polled readIndex => if readIndex = writer.ingressWriteIndex then 1 else 8
    | .polling => 9
    | _ => 0

/-- The same for the SD task while the ring in PSRAM is full -/
def fullRank (sd : SdTask) : ℕ :=
  if sd = .receiving then 7 + (kRecordBytes + 1) * kBatchRecords else sd.rank

/-- How many records wait in the ring, twice, and one more while there is no room for them -/
noncomputable def waitingRank (writer : LogWriter) : ℕ :=
  open Classical in
  2 * (writer.ingressWriteIndex - writer.ingressReadIndex) + if writer.Blocked then 1 else 0

/-- The task whose step the request waits for, and how far it is from the end -/
noncomputable def place (writer : LogWriter) : WriterTask × (ℕ ×ₗ ℕ ×ₗ ℕ) :=
  open Classical in
  match writer.caller with
  | .draining _ => (.caller, toLex (10, toLex (0, 0)))
  | .sending _ => (.caller, toLex (9, toLex (0, 0)))
  | .awaiting _ =>
      if writer.controlAck then (.caller, toLex (1, toLex (0, 0)))
      else
        match writer.stager with
        | .receiving => (.stager, toLex (7, toLex (0, 0)))
        | .clearing _ _ => (.stager, toLex (6, toLex (1, 0)))
        | .sending _ _ => (.stager, toLex (6, toLex (0, 0)))
        | .awaiting _ =>
            if writer.sdControlAck then (.stager, toLex (2, toLex (1, 0)))
            else if writer.sdControlQueue.isSome then (.sd, toLex (5, writer.drainMeasure))
            else if writer.sd.processing then (.sd, toLex (3, toLex (0, writer.sd.remaining)))
            else (.sd, toLex (4, writer.drainMeasure))
        | .finishing _ => (.stager, toLex (2, toLex (0, 0)))
        | _ =>
            if writer.Blocked then
              (.sd, toLex (8, toLex (writer.waitingRank, fullRank writer.sd)))
            else (.stager, toLex (8, toLex (writer.waitingRank, writer.stagerRank)))
  | _ => (.caller, toLex (0, toLex (0, 0)))

/-- The request is closer to its end, or a task has moved that it does not wait for. -/
def Advances (writer next : LogWriter) (label : WriterStep) : Prop :=
  next.place.2 < writer.place.2 ∨ (next.place = writer.place ∧ ¬ writer.place.1.turn label)

theorem advances_of_phase {writer next : LogWriter} {label : WriterStep} {task other : WriterTask}
    {phase later : ℕ} {rest rest' : ℕ ×ₗ ℕ} (here : writer.place = (task, toLex (phase, rest)))
    (there : next.place = (other, toLex (later, rest'))) (lower : later < phase) :
    Advances writer next label := by
  left
  rw [here, there, Prod.Lex.toLex_lt_toLex]
  exact Or.inl lower

theorem advances_of_rest {writer next : LogWriter} {label : WriterStep} {task other : WriterTask}
    {phase : ℕ} {rest rest' : ℕ ×ₗ ℕ} (here : writer.place = (task, toLex (phase, rest)))
    (there : next.place = (other, toLex (phase, rest'))) (lower : rest' < rest) :
    Advances writer next label := by
  left
  rw [here, there, Prod.Lex.toLex_lt_toLex]
  exact Or.inr ⟨rfl, lower⟩

theorem advances_of_same {writer next : LogWriter} {label : WriterStep} {task : WriterTask}
    {rank : ℕ ×ₗ ℕ ×ₗ ℕ} (here : writer.place = (task, rank)) (there : next.place = (task, rank))
    (notIts : ¬ task.turn label) : Advances writer next label := by
  refine Or.inr ⟨there.trans here.symm, ?_⟩
  rw [here]
  exact notIts

variable {writer : LogWriter} {request : ControlRequest}

theorem place_of_ack (caller : writer.caller = .awaiting request) (ack : writer.controlAck = true) :
    writer.place = (.caller, toLex (1, toLex (0, 0))) := by
  simp only [place, caller, ack, if_true]

theorem place_receiving (caller : writer.caller = .awaiting request)
    (ack : writer.controlAck = false) (pc : writer.stager = .receiving) :
    writer.place = (.stager, toLex (7, toLex (0, 0))) := by
  simp only [place, caller, ack, pc, Bool.false_eq_true, if_false]

theorem place_clearing {held : ControlRequest} {result : WriterError}
    (caller : writer.caller = .awaiting request) (ack : writer.controlAck = false)
    (pc : writer.stager = .clearing held result) :
    writer.place = (.stager, toLex (6, toLex (1, 0))) := by
  simp only [place, caller, ack, pc, Bool.false_eq_true, if_false]

theorem place_sending {held : ControlRequest} {result : WriterError}
    (caller : writer.caller = .awaiting request) (ack : writer.controlAck = false)
    (pc : writer.stager = .sending held result) :
    writer.place = (.stager, toLex (6, toLex (0, 0))) := by
  simp only [place, caller, ack, pc, Bool.false_eq_true, if_false]

theorem place_finishing {result : WriterError} (caller : writer.caller = .awaiting request)
    (ack : writer.controlAck = false) (pc : writer.stager = .finishing result) :
    writer.place = (.stager, toLex (2, toLex (0, 0))) := by
  simp only [place, caller, ack, pc, Bool.false_eq_true, if_false]

section AtSd

variable {result : WriterError} (caller : writer.caller = .awaiting request)
  (ack : writer.controlAck = false) (pc : writer.stager = .awaiting result)

include caller ack pc

theorem place_acknowledged (sdAck : writer.sdControlAck = true) :
    writer.place = (.stager, toLex (2, toLex (1, 0))) := by
  simp only [place, caller, ack, pc, sdAck, Bool.false_eq_true, if_false, if_true]

theorem place_queued (sdAck : writer.sdControlAck = false) {queued : ControlRequest}
    (queue : writer.sdControlQueue = some queued) :
    writer.place = (.sd, toLex (5, writer.drainMeasure)) := by
  simp only [place, caller, ack, pc, sdAck, queue, Option.isSome_some, Bool.false_eq_true, if_false,
    if_true]

theorem place_processing (sdAck : writer.sdControlAck = false) (queue : writer.sdControlQueue = none)
    (processes : writer.sd.processing = true) :
    writer.place = (.sd, toLex (3, toLex (0, writer.sd.remaining))) := by
  simp only [place, caller, ack, pc, sdAck, queue, processes, Option.isSome_none, Bool.false_eq_true,
    if_false, if_true]

theorem place_draining (sdAck : writer.sdControlAck = false) (queue : writer.sdControlQueue = none)
    (drains : writer.sd.processing = false) :
    writer.place = (.sd, toLex (4, writer.drainMeasure)) := by
  simp only [place, caller, ack, pc, sdAck, queue, drains, Option.isSome_none, Bool.false_eq_true,
    if_false]

end AtSd

theorem place_blocked (caller : writer.caller = .awaiting request) (ack : writer.controlAck = false)
    (inRing : writer.stager.inRing = true) (blocked : writer.Blocked) :
    writer.place = (.sd, toLex (8, toLex (writer.waitingRank, fullRank writer.sd))) := by
  cases pc : writer.stager with
  | receiving | clearing | sending | awaiting | finishing =>
      rw [pc] at inRing
      cases inRing
  | _ => simp only [place, caller, ack, pc, if_pos blocked, Bool.false_eq_true, if_false]

theorem place_inRing (caller : writer.caller = .awaiting request) (ack : writer.controlAck = false)
    (inRing : writer.stager.inRing = true) (free : ¬ writer.Blocked) :
    writer.place = (.stager, toLex (8, toLex (writer.waitingRank, writer.stagerRank))) := by
  cases pc : writer.stager with
  | receiving | clearing | sending | awaiting | finishing =>
      rw [pc] at inRing
      cases inRing
  | _ => simp only [place, caller, ack, pc, if_neg free, Bool.false_eq_true, if_false]

/-! ### The stage task's steps -/

/-- The request is in the queue of the stage task, or the task has it. -/
theorem queue_of_unanswered (handed : writer.Handed writer.stager)
    (caller : writer.caller = .awaiting request) (ack : writer.controlAck = false)
    (apart : writer.stager.serving = false) :
    writer.controlQueue = some request ∧ writer.Quiet := by
  have both : writer.Asked writer.caller ∧ writer.Quiet := by
    cases pc : writer.stager with
    | clearing | sending | awaiting | finishing =>
        rw [pc] at apart
        cases apart
    | _ =>
        rw [pc] at handed
        exact handed
  obtain ⟨asked, quiet⟩ := both
  rw [caller] at asked
  rcases asked with ⟨queue, -⟩ | ⟨-, answered⟩
  · exact ⟨queue, quiet⟩
  · rw [ack] at answered
    cases answered

theorem waitingRank_of_free (free : ¬ writer.Blocked) :
    writer.waitingRank = 2 * (writer.ingressWriteIndex - writer.ingressReadIndex) := by
  simp only [waitingRank, if_neg free, Nat.add_zero]

theorem waitingRank_of_blocked (blocked : writer.Blocked) :
    writer.waitingRank = 2 * (writer.ingressWriteIndex - writer.ingressReadIndex) + 1 := by
  simp only [waitingRank, if_pos blocked]

/-- What a step in the ring can do, while there is room or the ring is empty -/
inductive RingStep (writer next : LogWriter) : Prop where
  | receives (pc : next.stager = .receiving)
  | consumes (some : writer.ingressReadIndex < writer.ingressWriteIndex)
      (taken : next.ingressReadIndex = writer.ingressReadIndex + 1) (inRing : next.stager.inRing = true)
  | goesOn (inRing : next.stager.inRing = true)
      (same : next.ingressReadIndex = writer.ingressReadIndex)
      (free : ¬ next.Blocked) (lower : next.stagerRank < writer.stagerRank)

theorem ringStep_stagerStep (rings : writer.Rings) (ack : writer.controlAck = false)
    (flows : ¬ writer.Jammed) (inRing : writer.stager.inRing = true) (free : ¬ writer.Blocked) :
    RingStep writer writer.stagerStep := by
  have loaded := rings.stager
  have below := rings.ingress_le
  obtain ⟨next, stepped⟩ : ∃ next, writer.stagerStep = next := ⟨_, rfl⟩
  rw [stepped]
  -- A step that faces the ring without room had none before.
  have stays : ∀ {place : Stager}, writer.Facing ∨ writer.Staging →
      ¬ Blocked { writer with stager := place } := by
    intro place faces blocked
    exact free ⟨blocked.waiting, faces, blocked.full⟩
  cases pc : writer.stager with
  | polling =>
      simp only [stagerStep, pc] at stepped
      subst stepped
      have faces : writer.Facing ∨ writer.Staging := by simp [Facing, pc]
      refine .goesOn rfl rfl (stays faces) ?_
      simp only [stagerRank, pc]
      split <;> simp_all
  | polled readIndex =>
      simp only [stagerStep, pc] at stepped
      split at stepped
      · rename_i apart
        subst stepped
        have faces : writer.Facing ∨ writer.Staging := by simp [Facing, pc, apart]
        refine .goesOn rfl rfl (stays faces) ?_
        simp only [stagerRank, pc, if_neg apart, kBatchRecords]
        split <;> simp
      · subst stepped
        exact .receives rfl
  | batch count =>
      simp only [stagerStep, pc] at stepped
      have faces : writer.Facing ∨ writer.Staging := by simp [Facing, pc]
      split at stepped
      · rename_i more
        subst stepped
        refine .goesOn rfl rfl (stays faces) ?_
        simp only [stagerRank, pc, if_pos more]
        split <;> simp
      · rename_i full
        subst stepped
        refine .goesOn rfl rfl (stays faces) ?_
        simp only [stagerRank, pc, if_neg full]
        split <;> simp
  | loaded count readIndex =>
      rw [pc] at loaded
      obtain rfl : readIndex = writer.ingressReadIndex := loaded
      have faces : writer.Facing ∨ writer.Staging := by simp [Facing, pc]
      simp only [stagerStep, pc] at stepped
      split at stepped
      · rename_i none
        subst stepped
        refine .goesOn rfl rfl (stays faces) ?_
        simp only [stagerRank, pc, if_pos none]
        decide
      · rename_i some
        subst stepped
        refine .goesOn rfl rfl (stays faces) ?_
        simp only [stagerRank, pc, if_neg some]
        decide
  | taking count readIndex =>
      rw [pc] at loaded
      obtain ⟨rfl, some⟩ := loaded
      have facing : writer.Facing := by simp [Facing, pc]
      have accepted : ¬ writer.HeadRefused :=
        fun refused => flows ⟨ack, Or.inl ⟨some.ne, facing, refused⟩⟩
      obtain ⟨valid, encodes⟩ := not_or.mp accepted
      simp only [stagerStep, pc, if_neg valid] at stepped
      split at stepped
      · rename_i none
        exact absurd none encodes
      · subst stepped
        refine .goesOn rfl rfl (stays (Or.inl facing)) ?_
        simp only [stagerRank, pc, if_neg some.ne]
        decide
  | encoded count readIndex record =>
      rw [pc] at loaded
      obtain ⟨rfl, some⟩ := loaded
      have staging : writer.Facing ∨ writer.Staging := by simp [Staging, pc]
      simp only [stagerStep, pc] at stepped
      split at stepped
      · rename_i none
        rw [occupancy_of_le rings.psram_le] at none
        have full : writer.Full := by
          have ordered := rings.psram_le
          have room := rings.psram_room
          unfold Full
          omega
        exact absurd ⟨some.ne, staging, full⟩ free
      · subst stepped
        refine .goesOn rfl rfl (stays staging) ?_
        simp only [stagerRank, pc, if_neg some.ne]
        decide
  | roomed count readIndex record writeIndex =>
      rw [pc] at loaded
      have some : writer.ingressReadIndex < writer.ingressWriteIndex := by
        have first := loaded.1
        have second := loaded.2.1
        omega
      simp only [stagerStep, pc] at stepped
      subst stepped
      refine .goesOn rfl rfl (fun blocked => by simpa [Facing, Staging] using blocked.place) ?_
      simp only [stagerRank, pc, if_neg some.ne]
      decide
  | staged count readIndex writeIndex =>
      rw [pc] at loaded
      have some : writer.ingressReadIndex < writer.ingressWriteIndex := by
        have first := loaded.1
        have second := loaded.2.1
        omega
      simp only [stagerStep, pc] at stepped
      subst stepped
      refine .goesOn rfl rfl (fun blocked => by simpa [Facing, Staging] using blocked.place) ?_
      simp only [stagerRank, pc, if_neg some.ne]
      decide
  | consuming count readIndex =>
      rw [pc] at loaded
      obtain ⟨rfl, some⟩ := loaded
      simp only [stagerStep, pc] at stepped
      subst stepped
      exact .consumes some rfl rfl
  | receiving | clearing | sending | awaiting | finishing =>
      rw [pc] at inRing
      cases inRing

theorem blocked_of_same {next : LogWriter} (blocked : next.Blocked)
    (waiting : next.ingressReadIndex = writer.ingressReadIndex)
    (write : next.ingressWriteIndex = writer.ingressWriteIndex)
    (stager : next.stager = writer.stager) (full : next.Full → writer.Full) : writer.Blocked := by
  obtain ⟨apart, place, isFull⟩ := blocked
  rw [waiting, write] at apart
  refine ⟨apart, ?_, full isFull⟩
  unfold Facing Staging at place ⊢
  rw [stager, write] at place
  exact place

theorem advances_stagerStep (steady : writer.Steady) (caller : writer.caller = .awaiting request)
    (ack : writer.controlAck = false) (flows : ¬ writer.Jammed) :
    Advances writer writer.stagerStep .stager := by
  have only := stagerStep_only writer
  have closed : writer.caller.opening = false := by rw [caller]; rfl
  have rings := steady.sound.rings closed
  have handed := steady.sound.handed
  have still : writer.stagerStep.caller = .awaiting request := only.caller.trans caller
  have unanswered : (∀ result, writer.stager ≠ .finishing result) →
      writer.stagerStep.controlAck = false := unanswered_stagerStep ack
  cases inRing : writer.stager.inRing with
  | true =>
      have notFinishing : ∀ result, writer.stager ≠ .finishing result := by
        intro result pc
        rw [pc] at inRing
        cases inRing
      have ack' := unanswered notFinishing
      by_cases blocked : writer.Blocked
      · have next := blocked_stagerStep rings blocked
        have inRing' : writer.stagerStep.stager.inRing = true := by
          have place := next.place
          unfold Facing Staging at place
          cases pc : writer.stagerStep.stager <;> first | rfl | simp [pc] at place
        have same : writer.stagerStep.ingressReadIndex = writer.ingressReadIndex := by
          have place := blocked.place
          unfold Facing Staging at place
          unfold stagerStep refuseRecord
          dsimp only
          repeat' split
          all_goals first
            | rfl
            | simp_all
        have rank : writer.stagerStep.waitingRank = writer.waitingRank := by
          rw [waitingRank_of_blocked blocked, waitingRank_of_blocked next, same,
            only.ingressWriteIndex]
        refine advances_of_same (place_blocked caller ack inRing blocked) ?_ (by simp [WriterTask.turn])
        rw [place_blocked still ack' inRing' next, rank, only.sd]
      · have here := place_inRing caller ack inRing blocked
        cases ringStep_stagerStep rings ack flows inRing blocked with
        | receives pc =>
            exact advances_of_phase here (place_receiving still ack' pc) (by decide)
        | consumes some taken inRing' =>
            have write := only.ingressWriteIndex
            have fewer : writer.stagerStep.waitingRank < writer.waitingRank := by
              rw [waitingRank_of_free blocked]
              by_cases next : writer.stagerStep.Blocked
              · rw [waitingRank_of_blocked next]
                omega
              · rw [waitingRank_of_free next]
                omega
            have lower : ∀ rank rank' : ℕ,
                toLex (writer.stagerStep.waitingRank, rank') < toLex (writer.waitingRank, rank) := by
              intro rank rank'
              rw [Prod.Lex.toLex_lt_toLex]
              exact Or.inl fewer
            by_cases next : writer.stagerStep.Blocked
            · exact advances_of_rest here (place_blocked still ack' inRing' next) (lower _ _)
            · exact advances_of_rest here (place_inRing still ack' inRing' next) (lower _ _)
        | goesOn inRing' same next lower =>
            refine advances_of_rest here (place_inRing still ack' inRing' next) ?_
            rw [waitingRank_of_free blocked, waitingRank_of_free next, same, only.ingressWriteIndex,
              Prod.Lex.toLex_lt_toLex]
            exact Or.inr ⟨rfl, lower⟩
  | false =>
      cases pc : writer.stager with
      | receiving =>
          obtain ⟨queue, -⟩ := queue_of_unanswered handed caller ack (by rw [pc]; rfl)
          have next : writer.stagerStep.stager = .clearing request writer.firstError := by
            simp only [stagerStep, pc, queue]
          exact advances_of_phase (place_receiving caller ack pc)
            (place_clearing still (unanswered fun _ same => by cases pc.symm.trans same) next) (by decide)
      | clearing held result =>
          rw [pc] at handed
          have next : writer.stagerStep.stager = .sending held result := by
            simp only [stagerStep, pc, handed.2.ack, Bool.false_eq_true, if_false]
          refine advances_of_rest (place_clearing caller ack pc)
            (place_sending still (unanswered fun _ same => by cases pc.symm.trans same) next) ?_
          rw [Prod.Lex.toLex_lt_toLex]
          exact Or.inl (by decide)
      | sending held result =>
          rw [pc] at handed
          have stepped : writer.stagerStep =
              { writer with sdControlQueue := some held, stager := .awaiting result } := by
            simp only [stagerStep, pc, handed.2.queue, Option.isSome_none, Bool.false_eq_true,
              if_false]
          rw [stepped]
          exact advances_of_phase (place_sending caller ack pc)
            (place_queued caller ack rfl handed.2.ack rfl) (by decide)
      | awaiting result =>
          cases sdAck : writer.sdControlAck with
          | true =>
              have next : writer.stagerStep.stager =
                  .finishing (rememberOperation writer.sdControlResult result) := by
                simp only [stagerStep, pc, sdAck, if_true]
              refine advances_of_rest (place_acknowledged caller ack pc sdAck)
                (place_finishing still (unanswered fun _ same => by cases pc.symm.trans same) next) ?_
              rw [Prod.Lex.toLex_lt_toLex]
              exact Or.inl (by decide)
          | false =>
              have stepped : writer.stagerStep = writer := by
                simp only [stagerStep, pc, sdAck, Bool.false_eq_true, if_false]
              rw [stepped]
              have waits : writer.place.1 = .sd := by
                simp only [place, caller, ack, pc, sdAck, Bool.false_eq_true, if_false]
                repeat' split
                all_goals rfl
              refine Or.inr ⟨rfl, ?_⟩
              rw [waits]
              exact id
      | finishing result =>
          have next : writer.stagerStep.controlAck = true := by
            simp only [stagerStep, pc]
          exact advances_of_phase (place_finishing caller ack pc) (place_of_ack still next) (by decide)
      | polling | polled | batch | loaded | taking | encoded | roomed | staged | consuming =>
          rw [pc] at inRing
          cases inRing

/-! ### The SD task's steps -/

/-- While the stage task has the request, it does not matter where the SD task stands. -/
theorem place_sdStep_of_apart (caller : writer.caller = .awaiting request)
    (ack : writer.controlAck = false) (answer : IoAnswer) (apart : writer.stager.inRing = false)
    (notAwaiting : ∀ result, writer.stager ≠ .awaiting result) :
    (writer.sdStep answer).place = writer.place ∧ writer.place.1 = .stager := by
  have only := sdStep_only writer answer
  have still := only.caller.trans caller
  have ack' := only.controlAck.trans ack
  cases pc : writer.stager with
  | receiving =>
      have here := place_receiving caller ack pc
      exact ⟨(place_receiving still ack' (only.stager.trans pc)).trans here.symm, by rw [here]⟩
  | clearing =>
      have here := place_clearing caller ack pc
      exact ⟨(place_clearing still ack' (only.stager.trans pc)).trans here.symm, by rw [here]⟩
  | sending =>
      have here := place_sending caller ack pc
      exact ⟨(place_sending still ack' (only.stager.trans pc)).trans here.symm, by rw [here]⟩
  | finishing =>
      have here := place_finishing caller ack pc
      exact ⟨(place_finishing still ack' (only.stager.trans pc)).trans here.symm, by rw [here]⟩
  | awaiting result => exact absurd pc (notAwaiting result)
  | polling | polled | batch | loaded | taking | encoded | roomed | staged | consuming =>
      rw [pc] at apart
      cases apart

/-- The SD task never fills the ring in PSRAM. -/
theorem full_of_sdStep (rings : writer.Rings) (answer : IoAnswer)
    (full : (writer.sdStep answer).Full) : writer.Full := by
  have only := sdStep_only writer answer
  obtain ⟨-, later, -⟩ := sdLoaded_sdStep rings answer
  have room := rings.psram_room
  unfold Full at full ⊢
  rw [only.psramWriteIndex] at full
  omega

theorem blocked_of_sdStep (rings : writer.Rings) (answer : IoAnswer)
    (blocked : (writer.sdStep answer).Blocked) : writer.Blocked := by
  have only := sdStep_only writer answer
  exact blocked_of_same blocked only.ingressReadIndex only.ingressWriteIndex only.stager
    (full_of_sdStep rings answer)

theorem fullRank_of_drains {sd : SdTask} {held : Option ControlRequest} (drains : sd.Drains held) :
    fullRank sd = sd.rank := by
  unfold fullRank
  rw [if_neg]
  rintro rfl
  cases drains

/-- While the ring in PSRAM is full, the SD task makes room. -/
theorem advances_sdStep_of_blocked (steady : writer.Steady)
    (caller : writer.caller = .awaiting request) (ack : writer.controlAck = false)
    (answer : IoAnswer) (flows : ¬ writer.Jammed) (flows' : ¬ (writer.sdStep answer).Jammed)
    (blocked : writer.Blocked) : Advances writer (writer.sdStep answer) (.sd answer) := by
  have only := sdStep_only writer answer
  have closed : writer.caller.opening = false := by rw [caller]; rfl
  have rings := steady.sound.rings closed
  have still := only.caller.trans caller
  have ack' := only.controlAck.trans ack
  have inRing : writer.stager.inRing = true := by
    have place := blocked.place
    unfold Facing Staging at place
    cases pc : writer.stager <;> first | rfl | simp [pc] at place
  have apart : writer.stager.serving = false := by
    cases pc : writer.stager <;> first | rfl | (rw [pc] at inRing; cases inRing)
  have inRing' : (writer.sdStep answer).stager.inRing = true :=
    (congrArg Stager.inRing only.stager).trans inRing
  obtain ⟨-, quiet⟩ := queue_of_unanswered steady.sound.handed caller ack apart
  have here := place_blocked caller ack inRing blocked
  have written : writer.sdWriteFailed ≠ true := fun failed => flows ⟨ack, Or.inr ⟨blocked, failed⟩⟩
  have opened : writer.file.isNone ≠ true := by
    rcases steady.isOpen (by rw [caller]; rfl) with opened | answered | ⟨result, pc⟩ | ⟨⟨result, pc⟩, -⟩
    · simpa using Option.isSome_iff_ne_none.mp opened
    · rw [ack] at answered
      cases answered
    · rw [pc] at inRing
      cases inRing
    · rw [pc] at inRing
      cases inRing
  have some : writer.psramReadIndex ≠ writer.psramWriteIndex := by
    have full := blocked.full
    have positive : 0 < kPsramStagingCapacity := by decide
    unfold Full at full
    omega
  -- As long as the ring is full, only the rank of the batch has fallen.
  have lower : (writer.sdStep answer).Blocked → writer.sd.Drains none →
      (writer.sdStep answer).sd.Drains none →
      (writer.sdStep answer).drainMeasure < writer.drainMeasure →
      toLex ((writer.sdStep answer).waitingRank, fullRank (writer.sdStep answer).sd) <
        toLex (writer.waitingRank, fullRank writer.sd) := by
    intro blocked' drains drains' less
    have full := blocked.full
    have full' := blocked'.full
    unfold Full at full full'
    unfold drainMeasure at less
    rw [Prod.Lex.toLex_lt_toLex] at less ⊢
    rw [only.psramWriteIndex] at full' less
    rw [waitingRank_of_blocked blocked', waitingRank_of_blocked blocked, only.ingressReadIndex,
      only.ingressWriteIndex, fullRank_of_drains drains, fullRank_of_drains drains']
    dsimp only at less ⊢
    omega
  have freed : ¬ (writer.sdStep answer).Blocked → Advances writer (writer.sdStep answer) (.sd answer) := by
    intro next
    refine advances_of_rest here (place_inRing still ack' inRing' next) ?_
    rw [waitingRank_of_blocked blocked, waitingRank_of_free next, only.ingressReadIndex,
      only.ingressWriteIndex, Prod.Lex.toLex_lt_toLex]
    exact Or.inl (Nat.lt_succ_self _)
  rcases drains_or_receiving quiet.sd with drains | pc
  · cases drainStep_sdStep rings drains answer with
    | ends reason same =>
        rcases reason with failed | missing | none
        · exact absurd failed written
        · exact absurd missing opened
        · exact absurd none some
    | fails same =>
        refine absurd ⟨ack', Or.inr ⟨?_, by rw [same]; rfl⟩⟩ flows'
        have kept : (writer.sdStep answer).psramReadIndex = writer.psramReadIndex := by
          rw [same]
          rfl
        refine ⟨?_, ?_, ?_⟩
        · rw [only.ingressReadIndex, only.ingressWriteIndex]
          exact blocked.waiting
        · exact blocked.place.imp (facing_sdStep · answer) (staging_sdStep · answer)
        · have full := blocked.full
          unfold Full at full ⊢
          rw [only.psramWriteIndex, kept]
          exact full
    | goesOn next less later queue sdAck =>
        by_cases blocked' : (writer.sdStep answer).Blocked
        · exact advances_of_rest here (place_blocked still ack' inRing' blocked')
            (lower blocked' drains next less)
        · exact freed blocked'
    | waits interrupted same =>
        rw [same]
        refine Or.inr ⟨rfl, ?_⟩
        rw [here]
        exact fun turn => turn interrupted
  · have stepped : writer.sdStep answer =
        { writer with sdControlQueue := none, sd := .draining none } := by
      simp only [sdStep, pc, quiet.queue]
    by_cases blocked' : (writer.sdStep answer).Blocked
    · refine advances_of_rest here (place_blocked still ack' inRing' blocked') ?_
      rw [waitingRank_of_blocked blocked', waitingRank_of_blocked blocked, only.ingressReadIndex,
        only.ingressWriteIndex, Prod.Lex.toLex_lt_toLex]
      refine Or.inr ⟨rfl, ?_⟩
      rw [stepped, pc]
      simp [fullRank, SdTask.rank]
    · exact freed blocked'

theorem rank_pos_of_drains {sd : SdTask} {held : Option ControlRequest} (drains : sd.Drains held) :
    0 < sd.rank := by
  cases sd <;> first | (simp only [SdTask.rank]; omega) | cases drains

/-- The SD task empties its ring, takes the request, empties it again and handles the request. -/
theorem advances_sdStep_of_awaiting (steady : writer.Steady)
    (caller : writer.caller = .awaiting request) (ack : writer.controlAck = false)
    (answer : IoAnswer) {result : WriterError} (pc : writer.stager = .awaiting result) :
    Advances writer (writer.sdStep answer) (.sd answer) := by
  have only := sdStep_only writer answer
  have closed : writer.caller.opening = false := by rw [caller]; rfl
  have rings := steady.sound.rings closed
  have handed := steady.sound.handed
  have still := only.caller.trans caller
  have ack' := only.controlAck.trans ack
  have pc' := only.stager.trans pc
  rw [pc] at handed
  obtain ⟨held, taken, atSd⟩ := handed
  have waits : ∀ {task rank}, writer.place = (task, rank) → task = .sd → answer = .interrupted →
      writer.sdStep answer = writer → Advances writer (writer.sdStep answer) (.sd answer) := by
    rintro task rank here rfl interrupted same
    rw [same]
    refine Or.inr ⟨rfl, ?_⟩
    rw [here]
    exact fun turn => turn interrupted
  rcases atSd with ⟨queue, sdAck, idle⟩ | ⟨queue, sdAck, handles⟩ | ⟨queue, sdAck, idle⟩
  · have here := place_queued caller ack pc sdAck queue
    rcases drains_or_receiving idle with drains | place
    · cases drainStep_sdStep rings drains answer with
      | ends reason same =>
          have sameAck : (writer.sdStep answer).sdControlAck = false := by
            rw [same]
            exact sdAck
          have sameQueue : (writer.sdStep answer).sdControlQueue = some held := by
            rw [same]
            exact queue
          refine advances_of_rest here (place_queued still ack' pc' sameAck sameQueue) ?_
          rw [same]
          exact lower_of_rank rfl rfl (rank_pos_of_drains drains)
      | fails same =>
          have sameAck : (writer.sdStep answer).sdControlAck = false := by
            rw [same]
            exact sdAck
          have sameQueue : (writer.sdStep answer).sdControlQueue = some held := by
            rw [same]
            exact queue
          refine advances_of_rest here (place_queued still ack' pc' sameAck sameQueue) ?_
          rw [same]
          exact lower_of_rank rfl rfl (rank_pos_of_drains drains)
      | goesOn next less later sameQueue sameAck =>
          exact advances_of_rest here
            (place_queued still ack' pc' (sameAck.trans sdAck) (sameQueue.trans queue)) less
      | waits interrupted same => exact waits here rfl interrupted same
    · have stepped : writer.sdStep answer =
          { writer with sdControlQueue := none, sd := .draining (some held) } := by
        simp only [sdStep, place, queue]
      rw [stepped] at pc' ⊢
      exact advances_of_phase here (place_draining caller ack pc sdAck rfl rfl) (by decide)
  · rcases drains_or_processing handles with drains | processes
    · have here := place_draining caller ack pc sdAck queue (not_processing_of_drains drains)
      have processed : ∀ {middle : LogWriter}, writer.sdStep answer = middle.processSdControl held →
          middle.sdControlQueue = none → middle.sdControlAck = false →
          Advances writer (writer.sdStep answer) (.sd answer) := by
        intro middle same middleQueue middleAck
        obtain ⟨-, sameQueue, sameAck⟩ := handles_processSdControl middle held
        refine advances_of_phase here (place_processing still ack' pc' ?_ ?_ ?_) (by decide)
        · rw [same]
          exact sameAck.trans middleAck
        · rw [same]
          exact sameQueue.trans middleQueue
        · rw [same]
          exact processing_processSdControl middle held
      cases drainStep_sdStep rings drains answer with
      | ends reason same => exact processed same queue sdAck
      | fails same => exact processed same queue sdAck
      | goesOn next less later sameQueue sameAck =>
          exact advances_of_rest here
            (place_draining still ack' pc' (sameAck.trans sdAck) (sameQueue.trans queue)
              (not_processing_of_drains next)) less
      | waits interrupted same => exact waits here rfl interrupted same
    · have here := place_processing caller ack pc sdAck queue processes
      cases processStep_sdStep processes answer with
      | acknowledges sameQueue acknowledged =>
          exact advances_of_phase here (place_acknowledged still ack' pc' acknowledged) (by decide)
      | goesOn next less sameQueue sameAck =>
          refine advances_of_rest here
            (place_processing still ack' pc' (sameAck.trans sdAck) (sameQueue.trans queue) next) ?_
          rw [Prod.Lex.toLex_lt_toLex]
          exact Or.inr ⟨rfl, less⟩
      | waits interrupted same => exact waits here rfl interrupted same
  · obtain ⟨sameAck, -⟩ := idle_sdStep idle answer
    exact advances_of_same (place_acknowledged caller ack pc sdAck)
      (place_acknowledged still ack' pc' (sameAck.trans sdAck)) id

theorem advances_sdStep (steady : writer.Steady) (caller : writer.caller = .awaiting request)
    (ack : writer.controlAck = false) (answer : IoAnswer) (flows : ¬ writer.Jammed)
    (flows' : ¬ (writer.sdStep answer).Jammed) :
    Advances writer (writer.sdStep answer) (.sd answer) := by
  have only := sdStep_only writer answer
  have closed : writer.caller.opening = false := by rw [caller]; rfl
  have rings := steady.sound.rings closed
  by_cases awaits : ∃ result, writer.stager = .awaiting result
  · obtain ⟨result, pc⟩ := awaits
    exact advances_sdStep_of_awaiting steady caller ack answer pc
  · cases inRing : writer.stager.inRing with
    | false =>
        obtain ⟨same, its⟩ := place_sdStep_of_apart caller ack answer inRing
          fun result pc => awaits ⟨result, pc⟩
        refine Or.inr ⟨same, ?_⟩
        rw [its]
        exact id
    | true =>
        by_cases blocked : writer.Blocked
        · exact advances_sdStep_of_blocked steady caller ack answer flows flows' blocked
        · have free := fun next => blocked (blocked_of_sdStep rings answer next)
          refine advances_of_same (place_inRing caller ack inRing blocked) ?_ id
          rw [place_inRing (only.caller.trans caller) (only.controlAck.trans ack)
            ((congrArg Stager.inRing only.stager).trans inRing) free, waitingRank_of_free free,
            waitingRank_of_free blocked]
          unfold stagerRank
          rw [only.ingressReadIndex, only.ingressWriteIndex, only.stager]

end LogWriter

end MissionBoard.Characterization
