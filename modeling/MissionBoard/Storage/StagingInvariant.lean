import MissionBoard.Storage.StagedFile

/-!
Owns the invariant of the ring of `SdFlightLog`, and that the task that calls the log keeps it.

The calls that put the file back where it was are assumed to succeed: `ftruncate` and `lseek`
after a batch that failed, and the `lseek` at the end of a read.
-/

namespace MissionBoard.Storage

/-! ### The invariant -/

/-- The task is in `append` and has looked at the error of the writer, with this record. -/
def Producer.appending : Producer → Option SerializedRecord
  | .checked record | .roomed record _ | .stored record _ => some record
  | _ => none

/-- A read has moved the descriptor. -/
def Producer.displaced : Producer → Bool
  | .reading _ _ | .rewinding _ => true
  | _ => false

/-- A read returns to the end of the file. -/
def Producer.returning : Producer → Bool
  | .rewinding _ => true
  | _ => false

/-- A batch that failed has left the descriptor behind the records. -/
def Writer.displaced : Writer → Bool
  | .truncating _ _ | .restoring _ _ => true
  | _ => false

/-- The writer drains the ring, which it does only while it has seen no error. -/
def Writer.busy : Writer → Bool
  | .draining _ => true
  | writer => writer.inBatch

namespace SdFlightLog

/-- The writer has drained the ring for a flush without an error. -/
def drainedAt (writerError flushResult : EspErr) : Writer → Prop
  | .drained flush => flush = true ∧ writerError = .ok
  | .resulting result | .reporting result => result = .ok
  | .clearing | .acknowledging => flushResult = .ok
  | _ => False

/-- The task knows of a flush that succeeded. -/
def flushedAt (flushResult : EspErr) (returned : Option Returned) : Producer → Prop
  | .idle => returned = some (.flush .ok)
  | .acknowledged _ => flushResult = .ok
  | .sizing _ _ | .seeking _ _ | .reading _ _ | .rewinding _ => True
  | _ => False

/-- The ring has been drained for a flush, and nothing has been appended since. -/
def settled (log : SdFlightLog) : Prop :=
  drainedAt log.writerError log.flushResult log.writer ∨
    (log.flushAck = true ∧ log.flushResult = .ok) ∨
    flushedAt log.flushResult log.returned log.producer

/-- What `append` knows of the ring -/
def appendAt (log : SdFlightLog) : Producer → Prop
  | .roomed _ _ => log.accepted.length < log.readIndex + log.capacity
  | .stored record _ =>
      log.accepted.length < log.readIndex + log.capacity ∧
        log.stage (log.accepted.length % log.capacity) = record
  | _ => True

/-- What holds between any two steps: the ring keeps the records that were accepted from the
read index on, the file holds those before it as far as the writer's place says, and what a
flush reports is true. -/
structure Staged (log : SdFlightLog) : Prop where
  counted : log.writeIndex = log.accepted.length
  ordered : log.readIndex ≤ log.accepted.length
  room : log.accepted.length ≤ log.readIndex + log.capacity
  holds : RingBuffer.Holds log.stage log.capacity log.readIndex log.accepted
  appends : log.appendAt log.producer
  batch : BatchAt log.accepted log.readIndex log.file.bytes log.fileSize log.writer
  unharmed : log.writer.busy = true → log.writerError = .ok
  empty : log.settled → log.readIndex = log.accepted.length
  position : log.writer.displaced = false → log.producer.displaced = false →
    log.file.position = log.file.bytes.length
  fits : log.fileSize < 2 ^ 32

/-- The calls that put the file back succeed. -/
def restores (log : SdFlightLog) : StagingStep → Prop
  | .producer answer => log.producer.returning = true → answer.Succeeded
  | .writer answer => log.writer.displaced = true → answer.Succeeded
  | _ => True

instance (log : SdFlightLog) : DecidablePred log.restores
  | .producer _ | .writer _ => inferInstanceAs (Decidable (_ → _))
  | .append _ | .flush | .read _ _ | .close => .isTrue trivial

theorem prepared_staged (capacity : ℕ) (stage : ℕ → SerializedRecord) :
    (prepared capacity stage).Staged where
  counted := rfl
  ordered := le_rfl
  room := Nat.zero_le _
  holds := RingBuffer.holds_nil
  appends := trivial
  batch := ⟨[], ⟨List.prefix_rfl, rfl, rfl, rfl⟩⟩
  unharmed := nofun
  empty _ := rfl
  position _ _ := rfl
  fits := Nat.two_pow_pos 32

/-! ### The task that calls the log -/

/-- A step of the task that neither fills a slot nor publishes a record -/
structure Passive (log next : SdFlightLog) : Prop where
  only : CallerOnly log next
  stage : next.stage = log.stage
  writeIndex : next.writeIndex = log.writeIndex
  accepted : next.accepted = log.accepted
  given : next.flushAck = true → log.flushAck = true
  knows : flushedAt log.flushResult next.returned next.producer → log.settled
  appends : log.appendAt next.producer
  position : next.producer.displaced = false →
    next.file.position = log.file.position ∧ log.producer.displaced = false ∨
      next.file.position = log.file.bytes.length ∧ log.producer.displaced = true

theorem Staged.of_passive {log next : SdFlightLog} (staged : log.Staged)
    (passive : Passive log next) : next.Staged := by
  have only := passive.only
  constructor
  · rw [passive.writeIndex, passive.accepted]
    exact staged.counted
  · rw [only.readIndex, passive.accepted]
    exact staged.ordered
  · rw [only.readIndex, only.capacity, passive.accepted]
    exact staged.room
  · rw [passive.stage, only.readIndex, only.capacity, passive.accepted]
    exact staged.holds
  · have appends := passive.appends
    unfold appendAt at appends ⊢
    rw [passive.stage, only.readIndex, only.capacity, passive.accepted]
    exact appends
  · rw [passive.accepted, only.readIndex, only.bytes, only.fileSize, only.writer]
    exact staged.batch
  · rw [only.writer, only.writerError]
    exact staged.unharmed
  · rw [only.readIndex, passive.accepted]
    intro settled
    apply staged.empty
    unfold SdFlightLog.settled at settled
    rw [only.writer, only.writerError, only.flushResult] at settled
    rcases settled with drained | ⟨given, result⟩ | knows
    · exact Or.inl drained
    · exact Or.inr (Or.inl ⟨passive.given given, result⟩)
    · exact passive.knows knows
  · intro still rests
    rw [only.writer] at still
    rw [only.bytes]
    rcases passive.position rests with ⟨same, before⟩ | ⟨ends, -⟩
    · rw [same]
      exact staged.position still before
    · exact ends
  · rw [only.fileSize]
    exact staged.fits

theorem passive_refl {log : SdFlightLog} (staged : log.Staged) : Passive log log where
  only := ⟨rfl, rfl, rfl, rfl, rfl, rfl, rfl⟩
  stage := rfl
  writeIndex := rfl
  accepted := rfl
  given := id
  knows knows := Or.inr (Or.inr knows)
  appends := staged.appends
  position rests := Or.inl ⟨rfl, rests⟩

/-- The task goes on to another place of its calls. -/
theorem passive_to (log : SdFlightLog) (producer : Producer) (returned : Option Returned)
    (knows : flushedAt log.flushResult returned producer → log.settled)
    (appends : log.appendAt producer)
    (rests : producer.displaced = false → log.producer.displaced = false) :
    Passive log { log with producer, returned } where
  only := ⟨rfl, rfl, rfl, rfl, rfl, rfl, rfl⟩
  stage := rfl
  writeIndex := rfl
  accepted := rfl
  given := id
  knows := knows
  appends := appends
  position still := Or.inl ⟨rfl, rests still⟩

theorem append_passive {log : SdFlightLog} (rests : log.producer.displaced = false)
    (record : SerializedRecord) : Passive log (log.append record) := by
  unfold append
  repeat' split
  all_goals exact log.passive_to _ _ nofun trivial fun _ => rests

theorem flushed_passive {log : SdFlightLog} (rests : log.producer.displaced = false)
    (purpose : FlushFor) {result : EspErr} (knows : result = .ok → log.settled) :
    Passive log (log.flushed purpose result) := by
  cases purpose with
  | flush =>
      refine log.passive_to _ _ (fun told => knows ?_) trivial fun _ => rests
      exact Returned.flush.inj (Option.some.inj told)
  | read offset requested =>
      unfold flushed
      dsimp only
      split
      · exact log.passive_to _ _ nofun trivial fun _ => rests
      · rename_i succeeded
        exact log.passive_to _ _ (fun _ => knows (not_not.mp succeeded)) trivial fun _ => rests
  | close => exact log.passive_to _ _ nofun trivial fun _ => rests

theorem requestWriterFlush_passive {log : SdFlightLog} (rests : log.producer.displaced = false)
    (purpose : FlushFor) : Passive log (log.requestWriterFlush purpose) := by
  unfold requestWriterFlush
  split
  · exact flushed_passive rests purpose nofun
  · exact ⟨⟨rfl, rfl, rfl, rfl, rfl, rfl, rfl⟩, rfl, rfl, rfl, id, nofun, trivial,
      fun _ => Or.inl ⟨rfl, rests⟩⟩

/-- Every step of the task is passive but those that fill a slot and publish a record. -/
theorem producerStep_passive {log : SdFlightLog} (staged : log.Staged) {answer : IoAnswer}
    (restored : log.restores (.producer answer))
    (notRoomed : ∀ record occupancy, log.producer ≠ .roomed record occupancy)
    (notStored : ∀ record occupancy, log.producer ≠ .stored record occupancy) :
    Passive log (log.producerStep answer) := by
  have knows : flushedAt log.flushResult log.returned log.producer → log.settled :=
    fun knows => Or.inr (Or.inr knows)
  have displaced : ∀ {producer : Producer}, log.producer = producer →
      producer.displaced = false → log.producer.displaced = false := by
    rintro producer stands rests
    rw [stands]
    exact rests
  cases stands : log.producer with
  | idle | closed =>
      unfold producerStep
      rw [stands]
      exact passive_refl staged
  | roomed record occupancy => exact absurd stands (notRoomed record occupancy)
  | stored record occupancy => exact absurd stands (notStored record occupancy)
  | checked record =>
      unfold producerStep
      rw [stands]
      dsimp only
      repeat' split
      · exact log.passive_to _ _ nofun trivial fun _ => displaced stands rfl
      · exact log.passive_to _ _ nofun trivial fun _ => displaced stands rfl
      · have counted := staged.counted
        refine log.passive_to _ _ nofun ?_ fun _ => displaced stands rfl
        show log.accepted.length < log.readIndex + log.capacity
        omega
  | published occupancy =>
      unfold producerStep
      rw [stands]
      exact ⟨⟨rfl, rfl, rfl, rfl, rfl, rfl, rfl⟩, rfl, rfl, rfl, id, nofun, trivial,
        fun _ => Or.inl ⟨rfl, displaced stands rfl⟩⟩
  | draining purpose =>
      unfold producerStep
      rw [stands]
      dsimp only
      split
      · exact ⟨⟨rfl, rfl, rfl, rfl, rfl, rfl, rfl⟩, rfl, rfl, rfl, nofun, nofun, trivial,
          fun _ => Or.inl ⟨rfl, displaced stands rfl⟩⟩
      · exact log.passive_to _ _ nofun trivial fun _ => displaced stands rfl
  | awaiting purpose =>
      unfold producerStep
      rw [stands]
      dsimp only
      split
      · rename_i given
        exact ⟨⟨rfl, rfl, rfl, rfl, rfl, rfl, rfl⟩, rfl, rfl, rfl, nofun,
          fun result => Or.inr (Or.inl ⟨given, result⟩), trivial,
          fun _ => Or.inl ⟨rfl, displaced stands rfl⟩⟩
      · exact passive_refl staged
  | acknowledged purpose =>
      unfold producerStep
      rw [stands]
      rw [stands] at knows
      exact flushed_passive (displaced stands rfl) purpose knows
  | sizing offset requested =>
      unfold producerStep
      rw [stands]
      rw [stands] at knows
      dsimp only
      split
      · exact log.passive_to _ _ nofun trivial fun _ => displaced stands rfl
      · exact log.passive_to _ _ (fun _ => knows trivial) trivial fun _ => displaced stands rfl
  | seeking offset wanted =>
      unfold producerStep
      rw [stands]
      rw [stands] at knows
      cases answer with
      | succeeds count =>
          exact ⟨⟨rfl, rfl, rfl, rfl, rfl, rfl, rfl⟩, rfl, rfl, rfl, id, fun _ => knows trivial,
            trivial, nofun⟩
      | interrupted | fails =>
          exact log.passive_to _ _ nofun trivial fun _ => displaced stands rfl
  | reading wanted received =>
      unfold producerStep
      rw [stands]
      rw [stands] at knows
      dsimp only
      repeat' split
      all_goals first
        | exact passive_refl staged
        | exact ⟨⟨rfl, rfl, rfl, rfl, rfl, rfl, rfl⟩, rfl, rfl, rfl, id, fun _ => knows trivial,
            trivial, nofun⟩
  | rewinding received =>
      cases answer with
      | succeeds count =>
          unfold producerStep
          rw [stands]
          cases received with
          | none | some =>
              exact ⟨⟨rfl, rfl, rfl, rfl, rfl, rfl, rfl⟩, rfl, rfl, rfl, id, nofun, trivial,
                fun _ => Or.inr ⟨rfl, by rw [stands]; rfl⟩⟩
      | interrupted | fails => exact (restored (by rw [stands]; rfl)).elim
  | drainingStop | awaitingStop =>
      unfold producerStep
      rw [stands]
      dsimp only
      split
      all_goals first
        | exact ⟨⟨rfl, rfl, rfl, rfl, rfl, rfl, rfl⟩, rfl, rfl, rfl, id, nofun, trivial,
            fun _ => Or.inl ⟨rfl, displaced stands rfl⟩⟩
        | exact passive_refl staged

/-- A slot that is free is filled. -/
theorem Staged.store {log : SdFlightLog} (staged : log.Staged) {record : SerializedRecord}
    {occupancy : ℕ} (stands : log.producer = .roomed record occupancy) (answer : IoAnswer) :
    (log.producerStep answer).Staged := by
  have free : log.accepted.length < log.readIndex + log.capacity := by
    have appends := staged.appends
    rw [stands] at appends
    exact appends
  have settled : ∀ next : SdFlightLog, next.settled → next.producer = .stored record occupancy →
      next.writer = log.writer → next.writerError = log.writerError →
      next.flushResult = log.flushResult → next.flushAck = log.flushAck → log.settled := by
    rintro next (drained | given | knows) producer writer error result ack
    · rw [writer, error, result] at drained
      exact Or.inl drained
    · rw [ack, result] at given
      exact Or.inr (Or.inl given)
    · rw [producer] at knows
      exact knows.elim
  unfold producerStep
  rw [stands]
  dsimp only
  rw [staged.counted]
  exact {
    counted := rfl
    ordered := staged.ordered
    room := staged.room
    holds := staged.holds.store free record
    appends := ⟨free, Function.update_self _ _ _⟩
    batch := staged.batch
    unharmed := staged.unharmed
    empty := fun next => staged.empty (settled _ next rfl rfl rfl rfl rfl)
    position := fun still _ => staged.position still (by rw [stands]; rfl)
    fits := staged.fits }

/-- The record in the slot is counted. -/
theorem Staged.publish {log : SdFlightLog} (staged : log.Staged) (handshake : log.Handshake)
    {record : SerializedRecord} {occupancy : ℕ}
    (stands : log.producer = .stored record occupancy) (answer : IoAnswer) :
    (log.producerStep answer).Staged := by
  obtain ⟨free, filled⟩ : log.accepted.length < log.readIndex + log.capacity ∧
      log.stage (log.accepted.length % log.capacity) = record := by
    have appends := staged.appends
    rw [stands] at appends
    exact appends
  have grows : log.accepted <+: log.accepted ++ [record] := List.prefix_append _ _
  have length : (log.accepted ++ [record]).length = log.accepted.length + 1 := by simp
  obtain ⟨-, given, acknowledging, serving⟩ := handshake.quiet (by rw [stands]; rfl)
  have notDrained : ¬ drainedAt log.writerError log.flushResult log.writer := by
    intro drained
    cases writer : log.writer with
    | drained flush =>
        rw [writer] at drained serving
        rw [show flush = false from serving] at drained
        cases drained.1
    | resulting | reporting | clearing =>
        rw [writer] at serving
        cases serving
    | acknowledging => exact acknowledging writer
    | _ =>
        rw [writer] at drained
        exact drained
  unfold producerStep
  rw [stands]
  exact {
    counted := by
      rw [length, ← staged.counted]
    ordered := by
      rw [length]
      exact Nat.le_succ_of_le staged.ordered
    room := by
      rw [length]
      exact free
    holds := staged.holds.publish filled
    appends := trivial
    batch := staged.batch.mono grows
    unharmed := staged.unharmed
    empty := by
      rintro (drained | ⟨ack, -⟩ | knows)
      · exact absurd drained notDrained
      · exact absurd ack (by simp [given])
      · exact knows.elim
    position := fun still _ => staged.position still (by rw [stands]; rfl)
    fits := staged.fits }

end SdFlightLog

end MissionBoard.Storage
