import MissionBoard.Characterization.WriterIndices

/-!
Owns what a control request of `LogWriterV5` relies on beyond the indices, and the rings that
cannot be emptied: once the first record is refused, or PSRAM is full and the SD task has
stopped writing, nothing that the tasks do moves the stage task's ring.
-/

namespace MissionBoard.Characterization

open Storage (IoAnswer OpenFile)

/-! ### The descriptor and the failure of the card -/

/-- The task has submitted a request and waits. -/
def Caller.requesting : Caller → Bool
  | .draining _ | .sending _ | .awaiting _ => true
  | _ => false

/-- The task is inside `drainStagedBatch`, past the test of `sd_write_failed_`. -/
def SdTask.inBatch : SdTask → Bool
  | .loaded _ _ | .copying _ _ _ _ | .writing _ _ _ _ | .written _ _ _ | .publishing _ _ _ => true
  | _ => false

namespace LogWriter

/-- The SD task is done with the request. -/
def Handled (writer : LogWriter) : Prop :=
  writer.controlAck = true ∨ (∃ result, writer.stager = .finishing result) ∨
    ((∃ result, writer.stager = .awaiting result) ∧
      (writer.sdControlAck = true ∨ ∃ result, writer.sd = .acknowledging result))

/-- What the request relies on beyond the indices: no batch is written after a failure, and the
descriptor is open until the request is handled. -/
structure Steady (writer : LogWriter) : Prop where
  sound : writer.Sound
  stopped : writer.sdWriteFailed = true → writer.sd.inBatch = false
  isOpen : writer.caller.requesting = true → writer.file.isSome = true ∨ writer.Handled

theorem stopped_drainedAll (writer : LogWriter) (request : Option ControlRequest) :
    (writer.drainedAll request).sd.inBatch = false := by
  unfold drainedAll processSdControl
  dsimp only
  repeat' split
  all_goals rfl

theorem stopped_sdStep {writer : LogWriter}
    (stopped : writer.sdWriteFailed = true → writer.sd.inBatch = false) (answer : IoAnswer) :
    (writer.sdStep answer).sdWriteFailed = true → (writer.sdStep answer).sd.inBatch = false := by
  cases failed : writer.sdWriteFailed with
  | true =>
      have apart := stopped failed
      intro _
      cases pc : writer.sd with
      | loaded | copying | writing | written | publishing =>
          rw [pc] at apart
          cases apart
      | draining request =>
          simp only [sdStep, pc, failed, true_or, if_true]
          exact stopped_drainedAll writer request
      | _ =>
          simp only [sdStep, pc, closeDescriptor]
          repeat' split
          all_goals first
            | rfl
            | exact congrArg SdTask.inBatch pc
  | false =>
      cases pc : writer.sd with
      | writing request readIndex batch offset =>
          simp only [sdStep, pc, failBatch]
          repeat' split
          all_goals first
            | exact fun _ => stopped_drainedAll _ _
            | exact fun set => absurd (failed.symm.trans set) (by decide)
      | draining | loaded | copying | written | publishing =>
          simp only [sdStep, pc, drainedAll, processSdControl]
          repeat' split
          all_goals exact fun set => absurd (failed.symm.trans set) (by decide)
      | _ =>
          simp only [sdStep, pc, closeDescriptor]
          repeat' split
          all_goals exact fun set => absurd (failed.symm.trans set) (by decide)

/-- The stage task waits while the SD task has a request. -/
theorem awaiting_of_busy {writer : LogWriter} (handed : writer.Handed writer.stager)
    (busy : writer.sd.idle = false) : ∃ result, writer.stager = .awaiting result := by
  have absurdly : ¬ writer.Quiet := fun quiet => by
    rw [quiet.sd] at busy
    cases busy
  cases pc : writer.stager with
  | awaiting result => exact ⟨result, rfl⟩
  | _ =>
      rw [pc] at handed
      exact absurd handed.2 absurdly

theorem isSome_file_drainedAll (writer : LogWriter) (request : Option ControlRequest) :
    (writer.drainedAll request).file = writer.file := by
  unfold drainedAll processSdControl
  dsimp only
  repeat' split
  all_goals rfl

theorem handled_sdStep {writer : LogWriter} (handled : writer.Handled) (answer : IoAnswer) :
    (writer.sdStep answer).Handled := by
  have only := sdStep_only writer answer
  rcases handled with ack | finishing | ⟨awaiting, ack | ⟨result, pc⟩⟩
  · exact Or.inl (only.controlAck.trans ack)
  · exact Or.inr (Or.inl (by rw [only.stager]; exact finishing))
  · refine Or.inr (Or.inr ⟨by rw [only.stager]; exact awaiting, Or.inl ?_⟩)
    unfold sdStep failBatch drainedAll processSdControl closeDescriptor append
    dsimp only
    repeat' split
    all_goals first
      | exact ack
      | rfl
  · refine Or.inr (Or.inr ⟨by rw [only.stager]; exact awaiting, Or.inl ?_⟩)
    simp only [sdStep, pc]

theorem handled_stagerStep {writer : LogWriter} (handled : writer.Handled) :
    writer.stagerStep.Handled := by
  rcases handled with ack | ⟨result, pc⟩ | ⟨⟨result, pc⟩, done⟩
  · left
    unfold stagerStep refuseRecord
    dsimp only
    repeat' split
    all_goals first
      | exact ack
      | rfl
  · simp only [stagerStep, pc]
    exact Or.inl rfl
  · simp only [stagerStep, pc]
    split
    · exact Or.inr (Or.inl ⟨_, rfl⟩)
    · exact Or.inr (Or.inr ⟨⟨result, pc⟩, done⟩)

/-- Only the end of `close` gives the descriptor up, and then the request is handled. -/
theorem isOpen_sdStep {writer : LogWriter} (handed : writer.Handed writer.stager)
    (isOpen : writer.file.isSome = true ∨ writer.Handled) (answer : IoAnswer) :
    (writer.sdStep answer).file.isSome = true ∨ (writer.sdStep answer).Handled := by
  rcases isOpen with opened | handled
  · cases pc : writer.sd with
    | closing result =>
        have awaits := awaiting_of_busy handed (by rw [pc]; rfl)
        simp only [sdStep, pc, closeDescriptor]
        exact Or.inr (Or.inr (Or.inr ⟨awaits, Or.inr ⟨_, rfl⟩⟩))
    | draining | loaded =>
        simp only [sdStep, pc]
        split
        · rw [isSome_file_drainedAll]
          exact Or.inl opened
        · exact Or.inl opened
    | writing =>
        simp only [sdStep, pc, failBatch, append]
        repeat' split
        all_goals first
          | exact Or.inl opened
          | (rw [isSome_file_drainedAll]; exact Or.inl opened)
          | (simp only [Option.isSome_map]; exact Or.inl opened)
    | _ =>
        simp only [sdStep, pc, append]
        repeat' split
        all_goals first
          | exact Or.inl opened
          | (simp only [Option.isSome_map]; exact Or.inl opened)
  · exact Or.inr (handled_sdStep handled answer)

/-- What a step of the caller can do to the descriptor, the failure and the request -/
structure CallerKeeps (writer next : LogWriter) : Prop where
  sd : next.sd = writer.sd
  stager : next.stager = writer.stager
  failed : next.sdWriteFailed = true → writer.sdWriteFailed = true
  requesting : next.caller.requesting = true → next.file.isSome = true ∨
    (writer.caller.requesting = true ∧ next.file = writer.file ∧ next.controlAck = writer.controlAck ∧
      next.sdControlAck = writer.sdControlAck)

theorem keeps_of_returned {writer next : LogWriter} (sd : next.sd = writer.sd)
    (stager : next.stager = writer.stager)
    (failed : next.sdWriteFailed = true → writer.sdWriteFailed = true)
    (done : next.caller.requesting = false) : CallerKeeps writer next :=
  ⟨sd, stager, failed, fun asks => absurd (done.symm.trans asks) (by decide)⟩

theorem callerKeeps_callerStep {writer : LogWriter} (handed : writer.Handed writer.stager) :
    CallerKeeps writer writer.callerStep := by
  obtain ⟨next, stepped⟩ : ∃ next, writer.callerStep = next := ⟨_, rfl⟩
  rw [stepped]
  cases pc : writer.caller with
  | idle =>
      simp only [callerStep, pc] at stepped
      subst stepped
      exact keeps_of_returned rfl rfl id (congrArg Caller.requesting pc)
  | checked | roomed | stored =>
      simp only [callerStep, pc] at stepped
      repeat' split at stepped
      all_goals
        subst stepped
        exact keeps_of_returned rfl rfl id rfl
  | resetting purpose index =>
      simp only [callerStep, pc] at stepped
      subst stepped
      cases index <;> exact keeps_of_returned rfl rfl id rfl
  | restarting purpose =>
      simp only [callerStep, pc] at stepped
      subst stepped
      cases purpose <;> exact keeps_of_returned rfl rfl id rfl
  | draining request =>
      obtain ⟨-, -, ack, -⟩ := free_of_handed handed (by rw [pc]; rfl)
      simp only [callerStep, pc, ack, Bool.false_eq_true, if_false] at stepped
      subst stepped
      exact ⟨rfl, rfl, id, fun _ => Or.inr ⟨congrArg Caller.requesting pc, rfl, ack.symm, rfl⟩⟩
  | sending request =>
      have asks := congrArg Caller.requesting pc
      simp only [callerStep, pc] at stepped
      split at stepped <;>
        · subst stepped
          exact ⟨rfl, rfl, id, fun _ => Or.inr ⟨asks, rfl, rfl, rfl⟩⟩
  | awaiting request =>
      have asks := congrArg Caller.requesting pc
      simp only [callerStep, pc] at stepped
      split at stepped
      · subst stepped
        cases request <;> exact keeps_of_returned rfl rfl id rfl
      · subst stepped
        exact ⟨rfl, rfl, id, fun _ => Or.inr ⟨asks, rfl, rfl, rfl⟩⟩

theorem callerKeeps_submitControl (writer : LogWriter) (request : ControlRequest)
    (opened : writer.file.isSome = true) :
    CallerKeeps writer ({ writer with accepting := false }.submitControl request) := by
  unfold submitControl
  split
  · exact keeps_of_returned rfl rfl id rfl
  · exact ⟨rfl, rfl, id, fun _ => Or.inl opened⟩

/-- The calls that begin -/
theorem callerKeeps_call {writer : LogWriter} {label : WriterStep} (idle : writer.caller = .idle)
    (call : ∀ answer, label ≠ .caller ∧ label ≠ .stager ∧ label ≠ .sd answer) :
    CallerKeeps writer (writer.step label) := by
  cases label with
  | prepare outcome =>
      simp only [step, idle, if_true]
      unfold prepare
      split
      · exact keeps_of_returned rfl rfl id rfl
      · cases outcome <;> exact keeps_of_returned rfl rfl id rfl
  | «open» header answer =>
      simp only [step, idle, if_true]
      unfold openFile
      split
      · exact keeps_of_returned rfl rfl id rfl
      · split
        · exact keeps_of_returned rfl rfl id rfl
        · exact keeps_of_returned rfl rfl (absurd · Bool.false_ne_true) rfl
        · exact keeps_of_returned rfl rfl id rfl
        · exact keeps_of_returned rfl rfl id rfl
  | enqueue record =>
      simp only [step, idle, if_true]
      unfold enqueue
      split <;> exact keeps_of_returned rfl rfl id rfl
  | drainAndSync =>
      simp only [step, idle, if_true]
      unfold drainAndSync
      split
      · exact keeps_of_returned rfl rfl id rfl
      · rename_i opened
        exact callerKeeps_submitControl writer _ (by
          rw [not_or] at opened
          exact Option.isSome_iff_ne_none.mpr (by simpa using opened.1))
  | close footer =>
      simp only [step, idle, if_true]
      unfold close
      split
      · exact keeps_of_returned rfl rfl id rfl
      · rename_i opened
        exact callerKeeps_submitControl writer _ (by
          rw [not_or] at opened
          exact Option.isSome_iff_ne_none.mpr (by simpa using opened.1))
  | caller => exact absurd rfl (call (.succeeds 0)).1
  | stager => exact absurd rfl (call (.succeeds 0)).2.1
  | sd answer => exact absurd rfl (call answer).2.2

theorem steady_of_keeps {writer next : LogWriter} (steady : writer.Steady) (sound : next.Sound)
    (keeps : CallerKeeps writer next) : next.Steady := by
  refine ⟨sound, ?_, ?_⟩
  · intro failed
    rw [keeps.sd]
    exact steady.stopped (keeps.failed failed)
  · intro asks
    rcases keeps.requesting asks with opened | ⟨asked, file, ack, sdAck⟩
    · exact Or.inl opened
    · rcases steady.isOpen asked with opened | handled
      · exact Or.inl (by rw [file]; exact opened)
      · refine Or.inr ?_
        unfold Handled at handled ⊢
        rw [ack, keeps.stager, sdAck, keeps.sd]
        exact handled

theorem steady_step {writer : LogWriter} {label : WriterStep} (steady : writer.Steady)
    (calm : writer.calm label ∨ writer.caller.requesting = true) : (writer.step label).Steady := by
  have requests : writer.caller.requesting = true → writer.caller.opening = false := by
    cases writer.caller <;> first | exact fun _ => rfl | exact fun asks => by cases asks
  cases label with
  | caller =>
      exact steady_of_keeps steady (sound_callerStep steady.sound)
        (callerKeeps_callerStep steady.sound.handed)
  | stager =>
      have only := stagerStep_only writer
      have closed : writer.caller.opening = false := calm.elim id requests
      refine ⟨sound_step steady.sound closed, ?_, ?_⟩
      · rw [step, only.sdWriteFailed, only.sd]
        exact steady.stopped
      · rw [step, only.caller, only.file]
        exact fun asks => (steady.isOpen asks).imp_right handled_stagerStep
  | sd answer =>
      have only := sdStep_only writer answer
      have closed : writer.caller.opening = false := calm.elim id requests
      refine ⟨sound_step steady.sound closed, stopped_sdStep steady.stopped answer, ?_⟩
      rw [step, only.caller]
      exact fun asks => isOpen_sdStep steady.sound.handed (steady.isOpen asks) answer
  | _ =>
      by_cases idle : writer.caller = .idle
      · have apart : writer.calm _ := calm.resolve_right (by rw [idle]; decide)
        exact steady_of_keeps steady (sound_step steady.sound apart)
          (callerKeeps_call idle (by simp))
      · simp only [step, if_neg idle]
        exact steady

/-! ### A ring that cannot be emptied -/

/-- The stage task is about to look at the first record of its ring. -/
def Facing (writer : LogWriter) : Prop :=
  match writer.stager with
  | .polling | .batch _ | .loaded _ _ | .taking _ _ => True
  | .polled readIndex => readIndex ≠ writer.ingressWriteIndex
  | _ => False

/-- It has encoded the record and is about to stage it. -/
def Staging (writer : LogWriter) : Prop :=
  match writer.stager with
  | .encoded _ _ _ => True
  | _ => False

/-- `processRecordBatch` refuses the first record of the ring. -/
def HeadRefused (writer : LogWriter) : Prop :=
  let record := writer.ingressRing (writer.ingressReadIndex % kQueueDepth)
  hasError (validateRecordStrict record) = true ∨ encodeRecord record = none

/-- The ring in PSRAM has no room. -/
def Full (writer : LogWriter) : Prop :=
  writer.psramWriteIndex = writer.psramReadIndex + kPsramStagingCapacity

/-- The stage task finds no room in PSRAM for the first record of its ring. -/
structure Blocked (writer : LogWriter) : Prop where
  waiting : writer.ingressReadIndex ≠ writer.ingressWriteIndex
  place : writer.Facing ∨ writer.Staging
  full : writer.Full

/-- The ring is not empty, and no record can leave it: its first record is refused, or there is
no room for it in PSRAM and the SD task has stopped writing. -/
structure Jammed (writer : LogWriter) : Prop where
  unanswered : writer.controlAck = false
  cause : (writer.ingressReadIndex ≠ writer.ingressWriteIndex ∧ writer.Facing ∧ writer.HeadRefused) ∨
    (writer.Blocked ∧ writer.sdWriteFailed = true)

/-- Without room the stage task turns round and round. -/
theorem blocked_stagerStep {writer : LogWriter} (rings : writer.Rings) (blocked : writer.Blocked) :
    writer.stagerStep.Blocked := by
  obtain ⟨waiting, place, full⟩ := blocked
  have loaded := rings.stager
  obtain ⟨next, stepped⟩ : ∃ next, writer.stagerStep = next := ⟨_, rfl⟩
  rw [stepped]
  cases pc : writer.stager with
  | polling | batch =>
      simp only [stagerStep, pc] at stepped
      repeat' split at stepped
      all_goals
        subst stepped
        exact ⟨waiting, Or.inl (by first | exact waiting | trivial), full⟩
  | polled readIndex =>
      have facing : readIndex ≠ writer.ingressWriteIndex := by
        simpa [Facing, Staging, pc] using place
      simp only [stagerStep, pc, if_pos facing] at stepped
      subst stepped
      exact ⟨waiting, Or.inl trivial, full⟩
  | loaded count readIndex =>
      rw [pc] at loaded
      obtain rfl : readIndex = writer.ingressReadIndex := loaded
      simp only [stagerStep, pc, if_neg waiting] at stepped
      subst stepped
      exact ⟨waiting, Or.inl trivial, full⟩
  | taking count readIndex =>
      simp only [stagerStep, pc, refuseRecord] at stepped
      repeat' split at stepped
      all_goals
        subst stepped
        exact ⟨waiting, by first | exact Or.inl trivial | exact Or.inr trivial, full⟩
  | encoded count readIndex record =>
      have none : occupancy writer.psramWriteIndex writer.psramReadIndex ≥
          kPsramStagingCapacity := by
        rw [occupancy_of_le rings.psram_le, full]
        omega
      simp only [stagerStep, pc, if_pos none] at stepped
      subst stepped
      exact ⟨waiting, Or.inl trivial, full⟩
  | roomed | staged | consuming | receiving | clearing | sending | awaiting | finishing =>
      simp [Facing, Staging, pc] at place

/-- The stage task looks at a record in vain that it refuses. -/
theorem refused_stagerStep {writer : LogWriter} (rings : writer.Rings)
    (waiting : writer.ingressReadIndex ≠ writer.ingressWriteIndex) (facing : writer.Facing)
    (refused : writer.HeadRefused) :
    writer.stagerStep.ingressReadIndex = writer.ingressReadIndex ∧ writer.stagerStep.Facing := by
  have loaded := rings.stager
  obtain ⟨next, stepped⟩ : ∃ next, writer.stagerStep = next := ⟨_, rfl⟩
  rw [stepped]
  cases pc : writer.stager with
  | polling | batch =>
      simp only [stagerStep, pc] at stepped
      repeat' split at stepped
      all_goals
        subst stepped
        exact ⟨rfl, by first | exact waiting | trivial⟩
  | polled readIndex =>
      have apart : readIndex ≠ writer.ingressWriteIndex := by simpa [Facing, pc] using facing
      simp only [stagerStep, pc, if_pos apart] at stepped
      subst stepped
      exact ⟨rfl, trivial⟩
  | loaded count readIndex =>
      rw [pc] at loaded
      obtain rfl : readIndex = writer.ingressReadIndex := loaded
      simp only [stagerStep, pc, if_neg waiting] at stepped
      subst stepped
      exact ⟨rfl, trivial⟩
  | taking count readIndex =>
      rw [pc] at loaded
      obtain ⟨rfl, below⟩ := loaded
      simp only [stagerStep, pc, refuseRecord] at stepped
      split at stepped
      · subst stepped
        exact ⟨rfl, trivial⟩
      · rename_i valid
        split at stepped
        · subst stepped
          exact ⟨rfl, trivial⟩
        · rename_i bytes encoded
          rcases refused with invalid | none
          · exact absurd invalid valid
          · rw [none] at encoded
            cases encoded
  | encoded | roomed | staged | consuming | receiving | clearing | sending | awaiting | finishing =>
      simp [Facing, pc] at facing

/-- What leaves the acknowledgement, once it is not there, to `processControl` -/
theorem unanswered_stagerStep {writer : LogWriter} (unanswered : writer.controlAck = false)
    (apart : ∀ result, writer.stager ≠ .finishing result) :
    writer.stagerStep.controlAck = false := by
  unfold stagerStep refuseRecord
  dsimp only
  repeat' split
  all_goals first
    | exact unanswered
    | exact absurd (by assumption) (apart _)

theorem jammed_stagerStep {writer : LogWriter} (rings : writer.Rings) (jammed : writer.Jammed) :
    writer.stagerStep.Jammed := by
  have only := stagerStep_only writer
  obtain ⟨unanswered, cause⟩ := jammed
  have apart : ∀ result, writer.stager ≠ .finishing result := by
    intro result pc
    rcases cause with ⟨-, facing, -⟩ | ⟨⟨-, place, -⟩, -⟩
    · simp [Facing, pc] at facing
    · simp [Facing, Staging, pc] at place
  refine ⟨unanswered_stagerStep unanswered apart, ?_⟩
  rcases cause with ⟨waiting, facing, refused⟩ | ⟨blocked, failed⟩
  · obtain ⟨same, faces⟩ := refused_stagerStep rings waiting facing refused
    refine Or.inl ⟨?_, faces, ?_⟩
    · rw [same, only.ingressWriteIndex]
      exact waiting
    · unfold HeadRefused at refused ⊢
      rw [only.ingressRing, same]
      exact refused
  · exact Or.inr ⟨blocked_stagerStep rings blocked, only.sdWriteFailed.trans failed⟩

theorem facing_sdStep {writer : LogWriter} (facing : writer.Facing) (answer : IoAnswer) :
    (writer.sdStep answer).Facing := by
  have only := sdStep_only writer answer
  unfold Facing at facing ⊢
  rw [only.stager, only.ingressWriteIndex]
  exact facing

theorem staging_sdStep {writer : LogWriter} (staging : writer.Staging) (answer : IoAnswer) :
    (writer.sdStep answer).Staging := by
  unfold Staging at staging ⊢
  rw [(sdStep_only writer answer).stager]
  exact staging

/-- The SD task gives no room once a write has failed. -/
theorem failed_sdStep {writer : LogWriter} (failed : writer.sdWriteFailed = true)
    (apart : writer.sd.inBatch = false) (answer : IoAnswer) :
    (writer.sdStep answer).sdWriteFailed = true ∧
      (writer.sdStep answer).psramReadIndex = writer.psramReadIndex := by
  cases pc : writer.sd with
  | loaded | copying | writing | written | publishing =>
      rw [pc] at apart
      cases apart
  | _ =>
      obtain ⟨next, stepped⟩ : ∃ next, writer.sdStep answer = next := ⟨_, rfl⟩
      rw [stepped]
      simp only [sdStep, pc, drainedAll, processSdControl, closeDescriptor, append] at stepped
      repeat' split at stepped
      all_goals
        subst stepped
        exact ⟨failed, rfl⟩

theorem jammed_sdStep {writer : LogWriter} (steady : writer.Steady) (jammed : writer.Jammed)
    (answer : IoAnswer) : (writer.sdStep answer).Jammed := by
  have only := sdStep_only writer answer
  obtain ⟨unanswered, cause⟩ := jammed
  refine ⟨only.controlAck.trans unanswered, ?_⟩
  rcases cause with ⟨waiting, facing, refused⟩ | ⟨⟨waiting, place, full⟩, failed⟩
  · refine Or.inl ⟨?_, facing_sdStep facing answer, ?_⟩
    · rw [only.ingressReadIndex, only.ingressWriteIndex]
      exact waiting
    · unfold HeadRefused at refused ⊢
      rw [only.ingressRing, only.ingressReadIndex]
      exact refused
  · obtain ⟨still, same⟩ := failed_sdStep failed (steady.stopped failed) answer
    refine Or.inr ⟨⟨?_, ?_, ?_⟩, still⟩
    · rw [only.ingressReadIndex, only.ingressWriteIndex]
      exact waiting
    · exact place.imp (facing_sdStep · answer) (staging_sdStep · answer)
    · unfold Full at full ⊢
      rw [only.psramWriteIndex, same]
      exact full

/-- A ring that cannot be emptied stays so while the caller waits, and the caller waits. -/
theorem jammed_step {writer : LogWriter} {label : WriterStep} (steady : writer.Steady)
    (asks : writer.caller.requesting = true) (jammed : writer.Jammed) :
    (writer.step label).Jammed ∧ (writer.step label).caller.requesting = true := by
  have closed : writer.caller.opening = false := by
    revert asks
    cases writer.caller <;> first | exact fun _ => rfl | exact fun asks => by cases asks
  cases label with
  | caller =>
      simp only [step]
      obtain ⟨ack, cause⟩ := jammed
      cases pc : writer.caller with
      | draining | sending =>
          obtain ⟨-, queue, -, -⟩ := free_of_handed steady.sound.handed (by rw [pc]; rfl)
          simp only [callerStep, pc, ack, queue, Option.isSome_none, Bool.false_eq_true, if_false]
          exact ⟨⟨rfl, cause.imp id fun stuck =>
            ⟨⟨stuck.1.waiting, stuck.1.place, stuck.1.full⟩, stuck.2⟩⟩, rfl⟩
      | awaiting =>
          simp only [callerStep, pc, ack, Bool.false_eq_true, if_false]
          exact ⟨⟨ack, cause⟩, rfl⟩
      | _ =>
          rw [pc] at asks
          cases asks
  | stager =>
      have only := stagerStep_only writer
      exact ⟨jammed_stagerStep (steady.sound.rings closed) jammed,
        (congrArg Caller.requesting only.caller).trans asks⟩
  | sd answer =>
      have only := sdStep_only writer answer
      exact ⟨jammed_sdStep steady jammed answer,
        (congrArg Caller.requesting only.caller).trans asks⟩
  | _ =>
      have busy : writer.caller ≠ .idle := by
        intro idle
        rw [idle] at asks
        cases asks
      simp only [step, if_neg busy]
      exact ⟨jammed, asks⟩

end LogWriter

end MissionBoard.Characterization
