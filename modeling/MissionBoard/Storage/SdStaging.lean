import MissionBoard.Storage.StagingWriter

/-!
Owns what the ring of `SdFlightLog` keeps of the records that `append` accepted, and what
the writer makes of them in the file: none is lost and none is written twice.
-/

namespace MissionBoard.Storage

namespace SdFlightLog

/-! ### After an error -/

/-- At most the record of an append that was under way has been appended. -/
def Grown (log next : SdFlightLog) : Prop :=
  (next.accepted = log.accepted ∧
      (next.producer.appending = none ∨ next.producer.appending = log.producer.appending)) ∨
    ∃ record, log.producer.appending = some record ∧
      next.accepted = log.accepted ++ [record] ∧ next.producer.appending = none

theorem Grown.refl (log : SdFlightLog) : Grown log log := Or.inl ⟨rfl, Or.inr rfl⟩

theorem Grown.trans {first second third : SdFlightLog} (before : Grown first second)
    (after : Grown second third) : Grown first third := by
  rcases before with ⟨same, appending⟩ | ⟨record, appending, grown, ended⟩
  · rcases after with ⟨later, next⟩ | ⟨record, next, grown, ended⟩
    · refine Or.inl ⟨later.trans same, ?_⟩
      rcases next with none | kept
      · exact Or.inl none
      · rwa [kept]
    · rcases appending with none | kept
      · rw [none] at next
        cases next
      · exact Or.inr ⟨record, kept ▸ next, by rw [grown, same], ended⟩
  · rcases after with ⟨later, next⟩ | ⟨other, next, -⟩
    · refine Or.inr ⟨record, appending, later.trans grown, ?_⟩
      rcases next with none | kept
      · exact none
      · rw [kept, ended]
    · rw [ended] at next
      cases next

theorem Grown.of_flushed (log : SdFlightLog) (purpose : FlushFor) (result : EspErr) :
    Grown log (log.flushed purpose result) := by
  unfold flushed
  repeat' split
  all_goals exact Or.inl ⟨rfl, Or.inl rfl⟩

theorem Grown.of_producerStep (log : SdFlightLog) (answer : IoAnswer) :
    Grown log (log.producerStep answer) := by
  cases stands : log.producer with
  | stored record occupancy =>
      unfold producerStep
      rw [stands]
      exact Or.inr ⟨record, by rw [stands]; rfl, rfl, rfl⟩
  | roomed record occupancy =>
      unfold producerStep
      rw [stands]
      exact Or.inl ⟨rfl, Or.inr (by rw [stands]; rfl)⟩
  | acknowledged purpose =>
      unfold producerStep
      rw [stands]
      exact Grown.of_flushed log purpose log.flushResult
  | checked record =>
      unfold producerStep
      rw [stands]
      dsimp only
      repeat' split
      · exact Or.inl ⟨rfl, Or.inl rfl⟩
      · exact Or.inl ⟨rfl, Or.inl rfl⟩
      · exact Or.inl ⟨rfl, Or.inr (by rw [stands]; rfl)⟩
  | _ =>
      unfold producerStep
      rw [stands]
      dsimp only
      repeat' split
      all_goals first
        | exact Or.inl ⟨rfl, Or.inl rfl⟩
        | exact Grown.refl log

/-- The writer has given up: there was an error, and it is not in a batch. -/
structure GivenUp (log : SdFlightLog) : Prop where
  harmed : log.writerError ≠ .ok
  rests : log.writer.busy = false

theorem GivenUp.writerStep {log : SdFlightLog} (givenUp : log.GivenUp) (answer : IoAnswer) :
    (log.writerStep answer).GivenUp ∧ (log.writerStep answer).file = log.file ∧
      (log.writerStep answer).fileSize = log.fileSize ∧
      (log.writerStep answer).readIndex = log.readIndex := by
  have harmed := givenUp.harmed
  have rests := givenUp.rests
  cases stands : log.writer with
  | draining | copying | writing | truncating | restoring | failing | sized =>
      rw [stands] at rests
      cases rests
  | checking flush =>
      unfold SdFlightLog.writerStep
      rw [stands]
      dsimp only
      rw [if_neg harmed]
      exact ⟨⟨harmed, rfl⟩, rfl, rfl, rfl⟩
  | drained flush =>
      unfold SdFlightLog.writerStep
      rw [stands]
      dsimp only
      rw [if_pos harmed]
      split <;> exact ⟨⟨harmed, rfl⟩, rfl, rfl, rfl⟩
  | resulting result =>
      unfold SdFlightLog.writerStep
      rw [stands]
      dsimp only
      split
      · rename_i failed
        exact ⟨⟨failed, rfl⟩, rfl, rfl, rfl⟩
      · exact ⟨⟨harmed, rfl⟩, rfl, rfl, rfl⟩
  | checkingStop =>
      unfold SdFlightLog.writerStep
      rw [stands]
      dsimp only
      split <;> exact ⟨⟨harmed, rfl⟩, rfl, rfl, rfl⟩
  | ended =>
      unfold SdFlightLog.writerStep
      rw [stands]
      exact ⟨givenUp, rfl, rfl, rfl⟩
  | _ =>
      unfold SdFlightLog.writerStep
      rw [stands]
      exact ⟨⟨harmed, rfl⟩, rfl, rfl, rfl⟩

/-- Nothing is written any more, and at most the append under way goes on. -/
structure Stopped (log next : SdFlightLog) : Prop where
  givenUp : next.GivenUp
  bytes : next.file.bytes = log.file.bytes
  fileSize : next.fileSize = log.fileSize
  readIndex : next.readIndex = log.readIndex
  grown : Grown log next

theorem Stopped.of_caller {log next last : SdFlightLog} (stopped : Stopped log next)
    (only : CallerOnly next last) (grown : Grown next last) : Stopped log last where
  givenUp := ⟨only.writerError ▸ stopped.givenUp.harmed, only.writer ▸ stopped.givenUp.rests⟩
  bytes := only.bytes.trans stopped.bytes
  fileSize := only.fileSize.trans stopped.fileSize
  readIndex := only.readIndex.trans stopped.readIndex
  grown := stopped.grown.trans grown

theorem Stopped.step {log next : SdFlightLog} (stopped : Stopped log next) (label : StagingStep) :
    Stopped log (next.step label) := by
  have harmed := stopped.givenUp.harmed
  cases label with
  | append record =>
      unfold SdFlightLog.step
      dsimp only
      split
      · refine stopped.of_caller (append_only next record) (Or.inl ?_)
        unfold append
        rw [if_pos harmed]
        split <;> exact ⟨rfl, Or.inl rfl⟩
      · exact stopped
  | flush | read offset requested | close =>
      unfold SdFlightLog.step
      dsimp only
      split
      · refine stopped.of_caller (requestWriterFlush_only next _) ?_
        unfold requestWriterFlush
        split
        · exact Grown.of_flushed next _ _
        · exact Or.inl ⟨rfl, Or.inl rfl⟩
      · exact stopped
  | producer answer =>
      exact stopped.of_caller (producerStep_only next answer) (Grown.of_producerStep next answer)
  | writer answer =>
      obtain ⟨givenUp, file, fileSize, readIndex⟩ := stopped.givenUp.writerStep answer
      have only := next.writerStep_only answer
      exact {
        givenUp
        bytes := by
          show (next.writerStep answer).file.bytes = log.file.bytes
          rw [file, stopped.bytes]
        fileSize := fileSize.trans stopped.fileSize
        readIndex := readIndex.trans stopped.readIndex
        grown := stopped.grown.trans (Or.inl ⟨only.accepted, Or.inr (by
          show (next.writerStep answer).producer.appending = next.producer.appending
          rw [only.producer])⟩) }

/-- After an error of the writer nothing is written any more, whatever happens. -/
theorem Staged.stopped {log : SdFlightLog} (staged : log.Staged) (harmed : log.writerError ≠ .ok)
    (more : List StagingStep) : Stopped log (Run.after SdFlightLog.step log more) := by
  have rests : log.writer.busy = false := by
    by_contra busy
    exact harmed (staged.unharmed (by simpa using busy))
  exact Run.invariant_after (fun _ label stopped _ => stopped.step label)
    ⟨⟨harmed, rests⟩, rfl, rfl, rfl, Grown.refl log⟩
    (Run.along_of_forall (fun _ _ => trivial) log more)

/-! ### Nothing is lost -/

end SdFlightLog

/-- The file may hold a part of a batch whose records are not consumed yet. -/
def Writer.midBatch : Writer → Bool
  | .writing _ _ _ _ | .truncating _ _ | .sized _ _ => true
  | _ => false

/-- The writer is about to write at the position of the descriptor. -/
def Writer.placed : Writer → Bool
  | .copying _ _ _ | .writing _ _ _ _ => true
  | _ => false

namespace SdFlightLog

/-- What the records that `append` has accepted can rely on -/
structure LosesNothing (log : SdFlightLog) : Prop where
  /-- Outside a batch the file holds the first records, as many as the read index says. -/
  file : log.writer.midBatch = false →
    log.file.bytes = recordBytes (log.accepted.take log.readIndex) ∧
      log.fileSize = 192 * log.readIndex
  /-- During a batch it holds these and the beginning of the records that follow, of which the
  size counts none or all. -/
  batch : log.writer.midBatch = true → ∃ count written,
    count ≤ kWriteBatchRecords ∧ log.readIndex + count ≤ log.accepted.length ∧
      log.file.bytes = (recordBytes (log.accepted.take (log.readIndex + count))).take
        (192 * log.readIndex + written) ∧
      (log.fileSize = 192 * log.readIndex ∨
        log.fileSize = 192 * (log.readIndex + count) ∧ written = 192 * count)
  ring : log.readIndex ≤ log.accepted.length ∧
    log.accepted.length ≤ log.readIndex + log.capacity
  /-- A record that is not in the file yet is still in its slot. -/
  unread : RingBuffer.Holds log.stage log.capacity log.readIndex log.accepted
  flushed : log.producer = .idle → log.returned = some (.flush .ok) →
    log.file.bytes = recordBytes log.accepted
  position : log.writer.placed = true → log.file.position = log.file.bytes.length
  /-- After an error of the writer nothing is written, and only an append that was under way
  may still be counted. -/
  stopped : log.writerError ≠ .ok → ∀ more,
    (Run.after step log more).file.bytes = log.file.bytes ∧
      (Run.after step log more).fileSize = log.fileSize ∧
      (Run.after step log more).readIndex = log.readIndex ∧
      ((Run.after step log more).accepted = log.accepted ∨
        ∃ record, log.producer.appending = some record ∧
          (Run.after step log more).accepted = log.accepted ++ [record])

theorem Staged.file {log : SdFlightLog} (staged : log.Staged)
    (outside : log.writer.midBatch = false) :
    Exact log.accepted log.readIndex log.file.bytes log.fileSize := by
  have place := staged.batch
  cases stands : log.writer with
  | writing | truncating | sized =>
      rw [stands] at outside
      cases outside
  | copying =>
      rw [stands] at place
      obtain ⟨done, filed, -⟩ := place
      exact ⟨done, filed⟩
  | restoring | failing =>
      rw [stands] at place
      exact place.1
  | _ =>
      rw [stands] at place
      exact place

theorem Staged.losesNothing {log : SdFlightLog} (staged : log.Staged) : log.LosesNothing where
  file outside := Exact.eq_take (staged.file outside)
  batch during := by
    have place := staged.batch
    cases stands : log.writer with
    | writing flush batch start offset =>
        rw [stands] at place
        obtain ⟨done, filed, batched, -⟩ := place
        have within := batched.next.length_le
        rw [List.length_append, filed.count] at within
        refine ⟨batch.length, offset, batched.few, within, ?_, Or.inl filed.size⟩
        rw [filed.content, batch_eq_take batched, filed.count]
    | truncating flush start =>
        rw [stands] at place
        obtain ⟨done, batch, offset, filed, batched, -⟩ := place
        have within := batched.next.length_le
        rw [List.length_append, filed.count] at within
        refine ⟨batch.length, offset, batched.few, within, ?_, Or.inl filed.size⟩
        rw [filed.content, batch_eq_take batched, filed.count]
    | sized flush count =>
        rw [stands] at place
        obtain ⟨done, batch, filed, length, batched, content, size⟩ := place
        have within := batched.next.length_le
        rw [List.length_append, filed, length] at within
        refine ⟨count, 192 * count, length ▸ batched.few, within, ?_, Or.inr ⟨size, rfl⟩⟩
        have whole := batch_eq_take batched (192 * count)
        rw [filed, length] at whole
        rw [content, recordBytes_append, ← whole, ← length, ← length_recordBytes, List.take_length]
    | _ =>
        rw [stands] at during
        cases during
  ring := ⟨staged.ordered, staged.room⟩
  unread := staged.holds
  flushed rests returned := by
    have empty := staged.empty (Or.inr (Or.inr (by rw [rests]; exact returned)))
    have outside : log.writer.midBatch = false := by
      by_contra during
      have under : log.writer.inBatch = true := by
        cases stands : log.writer with
        | writing | truncating | sized => rfl
        | _ =>
            rw [stands] at during
            exact absurd rfl during
      have pending := staged.batch.pending under
      omega
    rw [(Exact.eq_take (staged.file outside)).1, empty, List.take_length]
  position placed := by
    cases stands : log.writer with
    | copying | writing =>
        exact staged.position (by rw [stands]; rfl) (staged.rests (by rw [stands]; rfl))
    | _ =>
        rw [stands] at placed
        cases placed
  stopped harmed more := by
    have stopped := staged.stopped harmed more
    refine ⟨stopped.bytes, stopped.fileSize, stopped.readIndex, ?_⟩
    rcases stopped.grown with ⟨same, -⟩ | ⟨record, appending, grown, -⟩
    · exact Or.inl same
    · exact Or.inr ⟨record, appending, grown⟩

/-- However the calls of the one task and the steps of the writer interleave, and whichever
writes are short, interrupted or fail, as long as the calls that put the file back succeed, no
record that was accepted is lost, moved or written twice. -/
theorem staging_loses_nothing {capacity : ℕ} {stage : ℕ → SerializedRecord}
    {labels : List StagingStep}
    (restored : Run.Along step restores (prepared capacity stage) labels) :
    (Run.after step (prepared capacity stage) labels).LosesNothing := by
  have preserved : ∀ (log : SdFlightLog) (label : StagingStep), log.Handshake ∧ log.Staged →
      log.restores label → (log.step label).Handshake ∧ (log.step label).Staged :=
    fun _ label sound restores => ⟨sound.1.step label, sound.2.step sound.1 restores⟩
  have sound := Run.invariant_after preserved
    ⟨prepared_handshake capacity stage, prepared_staged capacity stage⟩ restored
  exact sound.2.losesNothing

/-- One append, a flush, and the first byte of the record -/
def firstByte : List StagingStep :=
  .append emptyRecord :: List.replicate 4 (.producer (.succeeds 0)) ++
    .flush :: List.replicate 5 (.writer (.succeeds 0)) ++ [.writer (.succeeds 1)]

theorem staging_loses_nothing_firstByte :
    (Run.after step (prepared 42 fun _ => emptyRecord) firstByte).LosesNothing :=
  staging_loses_nothing (by decide +kernel)

/-- Forty-two records, and another one whose append has looked at the error of the writer;
then the first write of the batch fails, and the file is put back. -/
def failsUnderway : List StagingStep :=
  (List.replicate 42
      (.append emptyRecord :: List.replicate 4 (.producer (.succeeds 0)))).flatten ++
    .append emptyRecord :: List.replicate 46 (.writer (.succeeds 0)) ++
    .writer .fails :: List.replicate 3 (.writer (.succeeds 0))

/-- In the middle of a batch the file is not made of the consumed records, and an append that
was under way goes on after an error. -/
theorem file_in_batch_and_append_after_error :
    (Run.after step (prepared 42 fun _ => emptyRecord) firstByte).file.bytes ≠
        recordBytes ((Run.after step (prepared 42 fun _ => emptyRecord) firstByte).accepted.take
          (Run.after step (prepared 42 fun _ => emptyRecord) firstByte).readIndex) ∧
      (Run.after step (prepared 43 fun _ => emptyRecord) failsUnderway).writerError ≠ .ok ∧
      (Run.after step (prepared 43 fun _ => emptyRecord)
        (failsUnderway ++ List.replicate 3 (.producer (.succeeds 0)))).accepted.length ≠
        (Run.after step (prepared 43 fun _ => emptyRecord) failsUnderway).accepted.length := by
  decide +kernel

end SdFlightLog

end MissionBoard.Storage
