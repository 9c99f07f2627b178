import MissionBoard.Storage.StagingInvariant

/-!
Owns the writer's side of the invariant of the ring of `SdFlightLog`: the batches that are
copied, written, given up or consumed, and the answer to a flush.
-/

namespace MissionBoard.Storage.SdFlightLog

/-- A step of the writer that leaves the read index alone -/
theorem Staged.of_written {log next : SdFlightLog} (staged : log.Staged)
    (only : WriterOnly log next) (same : next.readIndex = log.readIndex)
    (batch : BatchAt log.accepted log.readIndex next.file.bytes next.fileSize next.writer)
    (unharmed : next.writer.busy = true → next.writerError = .ok)
    (empty : next.settled → log.readIndex = log.accepted.length)
    (position : next.writer.displaced = false → log.producer.displaced = false →
      next.file.position = next.file.bytes.length)
    (fits : next.fileSize < 2 ^ 32) : next.Staged := by
  constructor
  · rw [only.writeIndex, only.accepted]
    exact staged.counted
  · rw [same, only.accepted]
    exact staged.ordered
  · rw [same, only.capacity, only.accepted]
    exact staged.room
  · rw [only.stage, same, only.capacity, only.accepted]
    exact staged.holds
  · have appends := staged.appends
    unfold appendAt at appends ⊢
    rw [only.producer, only.stage, same, only.capacity, only.accepted]
    exact appends
  · rw [only.accepted, same]
    exact batch
  · exact unharmed
  · rw [same, only.accepted]
    exact empty
  · rw [only.producer]
    exact position
  · exact fits

/-- A step of the writer that leaves the answer to a flush alone -/
theorem Staged.of_unreported {log next : SdFlightLog} (staged : log.Staged)
    (only : WriterOnly log next) (same : next.readIndex = log.readIndex)
    (given : next.flushAck = log.flushAck) (result : next.flushResult = log.flushResult)
    (batch : BatchAt log.accepted log.readIndex next.file.bytes next.fileSize next.writer)
    (unharmed : next.writer.busy = true → next.writerError = .ok)
    (drained : drainedAt next.writerError next.flushResult next.writer →
      log.readIndex = log.accepted.length)
    (position : next.writer.displaced = false → log.producer.displaced = false →
      next.file.position = next.file.bytes.length)
    (fits : next.fileSize < 2 ^ 32) : next.Staged := by
  refine staged.of_written only same batch unharmed ?_ position fits
  rintro (now | known)
  · exact drained now
  · rw [given, result, only.returned, only.producer] at known
    exact staged.empty (Or.inr known)

/-- The writer goes on to another place, and the file stays as it is. -/
theorem Staged.to_writer {log : SdFlightLog} (staged : log.Staged) {writer : Writer}
    (still : log.writer.displaced = false)
    (batch : BatchAt log.accepted log.readIndex log.file.bytes log.fileSize writer)
    (unharmed : writer.busy = true → log.writerError = .ok)
    (drained : drainedAt log.writerError log.flushResult writer →
      log.readIndex = log.accepted.length) : { log with writer }.Staged :=
  @Staged.of_unreported log { log with writer } staged ⟨rfl, rfl, rfl, rfl, rfl, rfl, rfl⟩ rfl rfl
    rfl batch unharmed drained (fun _ rests => staged.position still rests) staged.fits

/-- While a batch is under way, no read has moved the descriptor. -/
theorem Staged.rests {log : SdFlightLog} (staged : log.Staged)
    (under : log.writer.inBatch = true) : log.producer.displaced = false := by
  by_contra moved
  have pending := staged.batch.pending under
  have knows : flushedAt log.flushResult log.returned log.producer := by
    cases stands : log.producer with
    | reading | rewinding => trivial
    | _ =>
        rw [stands] at moved
        exact absurd rfl moved
  have empty := staged.empty (Or.inr (Or.inr knows))
  omega

theorem Staged.drainOneBatch {log : SdFlightLog} (staged : log.Staged) {flush : Bool}
    (stands : log.writer = .draining flush) : (log.drainOneBatch flush).Staged := by
  have still : log.writer.displaced = false := by rw [stands]; rfl
  have whole : Exact log.accepted log.readIndex log.file.bytes log.fileSize := by
    have batch := staged.batch
    rw [stands] at batch
    exact batch
  have counted := staged.counted
  have ordered := staged.ordered
  have room := staged.room
  unfold SdFlightLog.drainOneBatch
  split
  · exact staged.to_writer still whole nofun fun _ => by omega
  · split
    · omega
    · dsimp only
      split
      · rename_i none
        refine staged.to_writer still whole nofun fun drained => ?_
        rcases none with nothing | ⟨partly, -⟩
        · omega
        · rw [drained.1] at partly
          cases partly
      · rename_i some
        have size : kWriteBatchRecords = 42 := rfl
        have unharmed : log.writerError = .ok := staged.unharmed (by rw [stands]; rfl)
        obtain ⟨done, filed⟩ := whole
        refine staged.to_writer still ⟨done, filed, ?_, ?_⟩ (fun _ => unharmed) nofun
        · rw [List.append_nil]
          exact filed.first
        · rw [not_or] at some
          have available := some.1
          rw [List.length_nil]
          omega

theorem Staged.copy {log : SdFlightLog} (staged : log.Staged) {flush : Bool} {count : ℕ}
    {batch : List SerializedRecord} (stands : log.writer = .copying flush count batch)
    (more : batch.length < count) :
    { log with
      writer := .copying flush count
        (batch ++ [log.stage ((log.readIndex + batch.length) % log.capacity)]) }.Staged := by
  have place := staged.batch
  rw [stands] at place
  obtain ⟨done, filed, next, within, some, few, available⟩ := place
  have length : (done ++ batch).length = log.readIndex + batch.length := by
    rw [List.length_append, filed.count]
  have below : (done ++ batch).length < log.accepted.length := by omega
  have copied : log.stage ((log.readIndex + batch.length) % log.capacity) =
      log.accepted[(done ++ batch).length] := by
    rw [← length]
    exact staged.holds _ below (by omega)
  have unharmed : log.writerError = .ok := staged.unharmed (by rw [stands]; rfl)
  refine staged.to_writer (by rw [stands]; rfl) ⟨done, filed, ?_, ?_, some, few, available⟩
    (fun _ => unharmed) nofun
  · rw [copied, ← List.append_assoc]
    exact prefix_concat next below
  · rw [List.length_append, List.length_singleton]
    exact more

theorem Staged.writeBatch {log : SdFlightLog} (staged : log.Staged) {flush : Bool} {count : ℕ}
    {batch : List SerializedRecord} (stands : log.writer = .copying flush count batch)
    (answer : IoAnswer) : (log.writeBatch flush batch answer).Staged := by
  have pending := staged.batch.pending (by rw [stands]; rfl)
  have place := staged.batch
  rw [stands] at place
  obtain ⟨done, filed, next, within, some, few, available⟩ := place
  have still : log.writer.displaced = false := by rw [stands]; rfl
  have unharmed : log.writerError = .ok := staged.unharmed (by rw [stands]; rfl)
  have fails : ∀ error, error ≠ .ok → { log with writer := .failing flush error }.Staged :=
    fun error harm =>
      staged.to_writer still ⟨⟨done, filed⟩, pending, harm⟩ (fun _ => unharmed) nofun
  unfold SdFlightLog.writeBatch
  split
  · exact fails _ nofun
  · rename_i sized
    rw [not_or] at sized
    split
    · exact fails _ nofun
    · rename_i fits
      cases answer with
      | succeeds _ =>
          have ends := staged.position still (staged.rests (by rw [stands]; rfl))
          have size : kSerializedRecordBytes * batch.length = 192 * batch.length := rfl
          have bounded := staged.fits
          refine staged.to_writer still
            ⟨done, ?_, ⟨next, by omega, by omega⟩, ?_, by omega, by omega⟩ (fun _ => unharmed) nofun
          · rwa [List.take_zero]
          · rw [ends, filed.content, List.append_nil, length_recordBytes, filed.count]
      | interrupted | fails => exact fails _ nofun

/-- What one `write` adds to the file -/
theorem Staged.write {log : SdFlightLog} (staged : log.Staged) {flush : Bool}
    {batch : List SerializedRecord} {start offset : ℕ}
    (stands : log.writer = .writing flush batch start offset) (count : ℕ) :
    { log with
      file := log.file.write (((recordBytes batch).drop offset).take count)
      writer := .writing flush batch start
        (offset + (((recordBytes batch).drop offset).take count).length) }.Staged := by
  have place := staged.batch
  rw [stands] at place
  obtain ⟨done, filed, batched, begins, within, fits⟩ := place
  have unharmed : log.writerError = .ok := staged.unharmed (by rw [stands]; rfl)
  have ends : log.file.position = log.file.bytes.length :=
    staged.position (by rw [stands]; rfl) (staged.rests (by rw [stands]; rfl))
  have length : (((recordBytes batch).drop offset).take count).length =
      min count (192 * batch.length - offset) := by
    rw [List.length_take, List.length_drop, length_recordBytes]
  refine @Staged.of_unreported log _ staged ⟨rfl, rfl, rfl, rfl, rfl, rfl, rfl⟩ rfl rfl rfl
    ⟨done, ⟨filed.first, filed.count, ?_, filed.size⟩, batched, begins, ?_, fits⟩
    (fun _ => unharmed) nofun (fun _ _ => OpenFile.write_at_end_position ends _) staged.fits
  · dsimp only
    rw [OpenFile.write_at_end ends, filed.content, List.append_assoc, List.take_add,
      List.length_take, ← List.take_eq_take_min]
  · rw [length]
    omega

/-- The batch is complete, and the size of the file is published. -/
theorem Staged.size {log : SdFlightLog} (staged : log.Staged) {flush : Bool}
    {batch : List SerializedRecord} {start offset : ℕ}
    (stands : log.writer = .writing flush batch start offset)
    (complete : 192 * batch.length ≤ offset) :
    { log with
      fileSize := log.fileSize + kSerializedRecordBytes * batch.length
      writer := .sized flush batch.length }.Staged := by
  have place := staged.batch
  rw [stands] at place
  obtain ⟨done, filed, batched, begins, within, fits⟩ := place
  have unharmed : log.writerError = .ok := staged.unharmed (by rw [stands]; rfl)
  refine @Staged.of_unreported log _ staged ⟨rfl, rfl, rfl, rfl, rfl, rfl, rfl⟩ rfl rfl rfl
    ⟨done, batch, filed.count, rfl, batched, ?_, ?_⟩ (fun _ => unharmed) nofun
    (fun _ rests => staged.position (by rw [stands]; rfl) rests) fits
  · dsimp only
    rw [filed.content, List.take_of_length_le (by rw [length_recordBytes]; exact complete),
      recordBytes_append]
  · dsimp only
    rw [filed.size, Nat.mul_add]

/-- Where the writer has drained the ring for a flush, nothing waits in it. -/
theorem Staged.drained {log : SdFlightLog} (staged : log.Staged) {writer : Writer}
    (stands : log.writer = writer) (drained : drainedAt log.writerError log.flushResult writer) :
    log.readIndex = log.accepted.length :=
  staged.empty (Or.inl (stands ▸ drained))

/-- What the task knows of a flush depends on its result only where the task has it. -/
theorem flushedAt_result {result : EspErr} {returned : Option Returned} {producer : Producer}
    (knows : flushedAt result returned producer) (other : EspErr) :
    result = .ok ∨ flushedAt other returned producer := by
  cases producer with
  | acknowledged => exact Or.inl knows
  | _ => exact Or.inr knows

theorem Staged.writerStep {log : SdFlightLog} (staged : log.Staged) {answer : IoAnswer}
    (restored : log.restores (.writer answer)) : (log.writerStep answer).Staged := by
  have place := staged.batch
  have empty := staged.empty
  have unharmed := staged.unharmed
  have position := staged.position
  cases stands : log.writer with
  | waiting =>
      unfold SdFlightLog.writerStep
      rw [stands] at place ⊢
      exact staged.to_writer (by rw [stands]; rfl) place nofun nofun
  | checking flush =>
      unfold SdFlightLog.writerStep
      rw [stands] at place ⊢
      dsimp only
      split
      · rename_i unharmed
        exact staged.to_writer (by rw [stands]; rfl) place (fun _ => unharmed) nofun
      · rename_i harmed
        exact staged.to_writer (by rw [stands]; rfl) place nofun
          fun drained => absurd drained.2 harmed
  | draining flush =>
      unfold SdFlightLog.writerStep
      rw [stands]
      exact staged.drainOneBatch stands
  | copying flush count batch =>
      unfold SdFlightLog.writerStep
      rw [stands]
      dsimp only
      split
      · rename_i more
        exact staged.copy stands more
      · exact staged.writeBatch stands answer
  | writing flush batch start offset =>
      have harmless : log.writerError = .ok := unharmed (by rw [stands]; rfl)
      have fails : { log with writer := .truncating flush start }.Staged := by
        rw [stands] at place
        obtain ⟨done, filed, batched, begins, -⟩ := place
        exact staged.to_writer (by rw [stands]; rfl) ⟨done, batch, offset, filed, batched, begins⟩
          (fun _ => harmless) nofun
      unfold SdFlightLog.writerStep
      rw [stands]
      dsimp only
      split
      · cases answer with
        | succeeds count =>
            cases count with
            | zero => exact fails
            | succ count => exact staged.write stands (count + 1)
        | interrupted => exact staged
        | fails => exact fails
      · rename_i complete
        exact staged.size stands (Nat.not_lt.mp complete)
  | truncating flush start =>
      have harmless : log.writerError = .ok := unharmed (by rw [stands]; rfl)
      have pending := place.pending (by rw [stands]; rfl)
      cases answer with
      | interrupted | fails => exact (restored (by rw [stands]; rfl)).elim
      | succeeds count =>
          unfold SdFlightLog.writerStep
          rw [stands] at place ⊢
          obtain ⟨done, records, offset, filed, batched, begins⟩ := place
          have start_eq : start = (recordBytes done).length := by
            rw [begins, length_recordBytes, filed.count]
          refine @Staged.of_unreported log _ staged ⟨rfl, rfl, rfl, rfl, rfl, rfl, rfl⟩ rfl rfl
            rfl ⟨⟨done, filed.first, filed.count, ?_, filed.size⟩, pending, begins⟩
            (fun _ => harmless) nofun nofun staged.fits
          dsimp only
          rw [start_eq, OpenFile.truncate_append filed.content, List.append_nil]
  | restoring flush start =>
      have harmless : log.writerError = .ok := unharmed (by rw [stands]; rfl)
      cases answer with
      | interrupted | fails => exact (restored (by rw [stands]; rfl)).elim
      | succeeds count =>
          unfold SdFlightLog.writerStep
          rw [stands] at place ⊢
          obtain ⟨⟨done, filed⟩, pending, begins⟩ := place
          refine @Staged.of_unreported log _ staged ⟨rfl, rfl, rfl, rfl, rfl, rfl, rfl⟩ rfl rfl
            rfl ⟨⟨done, filed⟩, pending, nofun⟩ (fun _ => harmless) nofun ?_ staged.fits
          intro _ _
          show start = log.file.bytes.length
          rw [begins, filed.content, List.append_nil, length_recordBytes, filed.count]
  | failing flush error =>
      unfold SdFlightLog.writerStep
      rw [stands] at place ⊢
      obtain ⟨whole, pending, harm⟩ := place
      exact @Staged.of_unreported log _ staged ⟨rfl, rfl, rfl, rfl, rfl, rfl, rfl⟩ rfl rfl rfl
        whole nofun (fun drained => absurd drained.2 harm)
        (fun _ rests => position (by rw [stands]; rfl) rests) staged.fits
  | sized flush count =>
      have rests := staged.rests (by rw [stands]; rfl)
      have ends := position (by rw [stands]; rfl) rests
      have harmless : log.writerError = .ok := unharmed (by rw [stands]; rfl)
      have pending := place.pending (by rw [stands]; rfl)
      unfold SdFlightLog.writerStep
      rw [stands] at place ⊢
      obtain ⟨done, records, filed, length, batched, content, size⟩ := place
      have within := batched.next.length_le
      rw [List.length_append, filed, length] at within
      exact {
        counted := staged.counted
        ordered := within
        room := by
          have room := staged.room
          dsimp only
          omega
        holds := staged.holds.consume (Nat.le_add_right _ _)
        appends := by
          have appends := staged.appends
          cases task : log.producer with
          | roomed record occupancy =>
              rw [task] at appends
              exact Nat.lt_of_lt_of_le appends (by dsimp only; omega)
          | stored record occupancy =>
              rw [task] at appends
              exact ⟨Nat.lt_of_lt_of_le appends.1 (by dsimp only; omega), appends.2⟩
          | _ => trivial
        batch := ⟨done ++ records, batched.next, by rw [List.length_append, filed, length],
          by rw [List.append_nil]; exact content, size⟩
        unharmed := fun _ => harmless
        empty := by
          rintro (now | known)
          · exact now.elim
          · have same := empty (Or.inr known)
            omega
        position := fun _ _ => ends
        fits := staged.fits }
  | drained flush =>
      unfold SdFlightLog.writerStep
      rw [stands] at place ⊢
      dsimp only
      have still : log.writer.displaced = false := by rw [stands]; rfl
      split
      · rename_i flushes
        split
        · rename_i harmed
          exact staged.to_writer still place nofun fun drained => absurd drained harmed
        · rename_i harmless
          have drained := staged.drained stands ⟨flushes, not_not.mp harmless⟩
          cases answer with
          | succeeds count => exact staged.to_writer still place nofun fun _ => drained
          | interrupted | fails => exact staged.to_writer still place nofun nofun
      · exact staged.to_writer still place nofun nofun
  | resulting result =>
      unfold SdFlightLog.writerStep
      rw [stands] at place ⊢
      dsimp only
      have drained : result = .ok → log.readIndex = log.accepted.length :=
        staged.drained stands
      split
      · exact @Staged.of_unreported log _ staged ⟨rfl, rfl, rfl, rfl, rfl, rfl, rfl⟩ rfl rfl rfl
          place nofun drained (fun _ rests => position (by rw [stands]; rfl) rests) staged.fits
      · exact staged.to_writer (by rw [stands]; rfl) place nofun drained
  | reporting result =>
      have drained : result = .ok → log.readIndex = log.accepted.length :=
        staged.drained stands
      unfold SdFlightLog.writerStep
      rw [stands] at place ⊢
      refine @Staged.of_written log _ staged ⟨rfl, rfl, rfl, rfl, rfl, rfl, rfl⟩ rfl place nofun
        ?_ (fun _ rests => position (by rw [stands]; rfl) rests) staged.fits
      rintro (now | ⟨-, succeeded⟩ | knows)
      · exact drained now
      · exact drained succeeded
      · rcases flushedAt_result knows log.flushResult with succeeded | known
        · exact drained succeeded
        · exact empty (Or.inr (Or.inr known))
  | clearing =>
      unfold SdFlightLog.writerStep
      rw [stands] at place ⊢
      exact @Staged.of_unreported log _ staged ⟨rfl, rfl, rfl, rfl, rfl, rfl, rfl⟩ rfl rfl rfl
        place nofun (fun drained => staged.drained stands drained)
        (fun _ rests => position (by rw [stands]; rfl) rests) staged.fits
  | acknowledging =>
      have drained : log.flushResult = .ok → log.readIndex = log.accepted.length :=
        staged.drained stands
      unfold SdFlightLog.writerStep
      rw [stands] at place ⊢
      refine @Staged.of_written log _ staged ⟨rfl, rfl, rfl, rfl, rfl, rfl, rfl⟩ rfl place nofun
        ?_ (fun _ rests => position (by rw [stands]; rfl) rests) staged.fits
      rintro (now | ⟨-, result⟩ | knows)
      · exact now.elim
      · exact drained result
      · exact empty (Or.inr (Or.inr knows))
  | checkingStop =>
      unfold SdFlightLog.writerStep
      rw [stands] at place ⊢
      dsimp only
      split
      · exact staged.to_writer (by rw [stands]; rfl) place nofun nofun
      · exact staged.to_writer (by rw [stands]; rfl) place nofun nofun
  | stopping =>
      unfold SdFlightLog.writerStep
      rw [stands] at place ⊢
      exact @Staged.of_unreported log _ staged ⟨rfl, rfl, rfl, rfl, rfl, rfl, rfl⟩ rfl rfl rfl
        place nofun nofun (fun _ rests => position (by rw [stands]; rfl) rests) staged.fits
  | ended =>
      unfold SdFlightLog.writerStep
      rw [stands]
      exact staged

theorem Staged.step {log : SdFlightLog} (staged : log.Staged) (handshake : log.Handshake)
    {label : StagingStep} (restored : log.restores label) : (log.step label).Staged := by
  have idle : log.producer = .idle → log.producer.displaced = false := by
    intro stands
    rw [stands]
    rfl
  cases label with
  | append record =>
      unfold SdFlightLog.step
      dsimp only
      split
      · rename_i stands
        exact staged.of_passive (append_passive (idle stands) record)
      · exact staged
  | flush | read offset requested | close =>
      unfold SdFlightLog.step
      dsimp only
      split
      · rename_i stands
        exact staged.of_passive (requestWriterFlush_passive (idle stands) _)
      · exact staged
  | producer answer =>
      show (log.producerStep answer).Staged
      cases stands : log.producer with
      | roomed record occupancy => exact staged.store stands answer
      | stored record occupancy => exact staged.publish handshake stands answer
      | _ =>
          refine staged.of_passive (producerStep_passive staged restored ?_ ?_)
          · rw [stands]
            nofun
          · rw [stands]
            nofun
  | writer answer => exact staged.writerStep restored

/-- The file is never shorter than the records that the read index counts. -/
theorem Staged.sized {log : SdFlightLog} (staged : log.Staged) :
    192 * log.readIndex ≤ log.fileSize := by
  have place := staged.batch
  cases stands : log.writer with
  | copying | writing =>
      rw [stands] at place
      obtain ⟨done, filed, -⟩ := place
      exact filed.size.ge
  | truncating =>
      rw [stands] at place
      obtain ⟨done, batch, offset, filed, -⟩ := place
      exact filed.size.ge
  | restoring | failing =>
      rw [stands] at place
      obtain ⟨⟨done, filed⟩, -⟩ := place
      exact filed.size.ge
  | sized =>
      rw [stands] at place
      obtain ⟨done, batch, -, -, -, -, size⟩ := place
      omega
  | _ =>
      rw [stands] at place
      obtain ⟨done, filed⟩ := place
      exact filed.size.ge

/-- No index of the source comes near 2^64, however much is appended. -/
theorem Staged.writeIndex_bounded {log : SdFlightLog} (staged : log.Staged) :
    192 * log.writeIndex < 2 ^ 32 + 192 * log.capacity := by
  have counted := staged.counted
  have room := staged.room
  have fits := staged.fits
  have sized := staged.sized
  omega

end MissionBoard.Storage.SdFlightLog
