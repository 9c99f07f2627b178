import MissionBoard.Storage.SdFlightLog

/-!
Owns what the file of `SdFlightLog` holds while the writer of `writeBatch` stands at each of
its places, in terms of the records that were accepted.
-/

namespace MissionBoard.Storage

/-! ### The file -/

theorem recordBytes_append (first second : List SerializedRecord) :
    recordBytes (first ++ second) = recordBytes first ++ recordBytes second :=
  List.flatMap_append

namespace OpenFile

theorem upTo_of_le {file : OpenFile} {size : ℕ} (within : size ≤ file.bytes.length) :
    file.upTo size = file.bytes.take size := by
  unfold upTo
  rw [Nat.sub_eq_zero_of_le within, List.replicate_zero, List.append_nil]

/-- Writing at the end appends. -/
theorem write_at_end {file : OpenFile} (ends : file.position = file.bytes.length)
    (bytes : List UInt8) : (file.write bytes).bytes = file.bytes ++ bytes := by
  unfold write
  dsimp only
  rw [ends, upTo_of_le le_rfl, List.take_length, List.drop_eq_nil_of_le (Nat.le_add_right _ _),
    List.append_nil]

theorem write_at_end_position {file : OpenFile} (ends : file.position = file.bytes.length)
    (bytes : List UInt8) : (file.write bytes).position = (file.write bytes).bytes.length := by
  rw [write_at_end ends, List.length_append, ← ends]
  rfl

/-- Truncating drops what was written behind. -/
theorem truncate_append {file : OpenFile} {before tail : List UInt8}
    (whole : file.bytes = before ++ tail) : (file.truncate before.length).bytes = before := by
  unfold truncate
  dsimp only
  rw [upTo_of_le (by rw [whole, List.length_append]; omega), whole, List.take_left]

end OpenFile

/-- The file holds the records `done`, which are the first that were accepted, as many as the
read index says, and behind them this tail. -/
structure Filed (accepted : List SerializedRecord) (readIndex : ℕ) (bytes : List UInt8)
    (fileSize : ℕ) (done : List SerializedRecord) (tail : List UInt8) : Prop where
  first : done <+: accepted
  count : done.length = readIndex
  content : bytes = recordBytes done ++ tail
  size : fileSize = 192 * readIndex

/-- The file holds the first records, and nothing else. -/
def Exact (accepted : List SerializedRecord) (readIndex : ℕ) (bytes : List UInt8)
    (fileSize : ℕ) : Prop :=
  ∃ done, Filed accepted readIndex bytes fileSize done []

/-- The records of a batch follow those that are done. -/
structure Batched (accepted done batch : List SerializedRecord) : Prop where
  next : done ++ batch <+: accepted
  some : 0 < batch.length
  few : batch.length ≤ kWriteBatchRecords

theorem prefix_concat {accepted done : List SerializedRecord} (first : done <+: accepted)
    (more : done.length < accepted.length) : done ++ [accepted[done.length]] <+: accepted := by
  have whole : done = accepted.take done.length := List.prefix_iff_eq_take.mp first
  have longer : done ++ [accepted[done.length]] = accepted.take (done.length + 1) := by
    rw [← List.take_append_getElem more, ← whole]
  rw [longer]
  exact List.take_prefix _ _

theorem Batched.mono {accepted more done batch : List SerializedRecord}
    (batched : Batched accepted done batch) (grows : accepted <+: more) :
    Batched more done batch :=
  ⟨batched.next.trans grows, batched.some, batched.few⟩

theorem Filed.mono {accepted more done : List SerializedRecord} {readIndex fileSize : ℕ}
    {bytes tail : List UInt8} (filed : Filed accepted readIndex bytes fileSize done tail)
    (grows : accepted <+: more) : Filed more readIndex bytes fileSize done tail :=
  { filed with first := filed.first.trans grows }

theorem Exact.mono {accepted more : List SerializedRecord} {readIndex fileSize : ℕ}
    {bytes : List UInt8} (whole : Exact accepted readIndex bytes fileSize)
    (grows : accepted <+: more) : Exact more readIndex bytes fileSize := by
  obtain ⟨done, filed⟩ := whole
  exact ⟨done, filed.mono grows⟩

/-- What the file holds, for each place at which the writer can stand -/
def BatchAt (accepted : List SerializedRecord) (readIndex : ℕ) (bytes : List UInt8)
    (fileSize : ℕ) : Writer → Prop
  | .copying _ count batch =>
      ∃ done, Filed accepted readIndex bytes fileSize done [] ∧ done ++ batch <+: accepted ∧
        batch.length ≤ count ∧ 0 < count ∧ count ≤ kWriteBatchRecords ∧
        readIndex + count ≤ accepted.length
  | .writing _ batch start offset =>
      ∃ done, Filed accepted readIndex bytes fileSize done ((recordBytes batch).take offset) ∧
        Batched accepted done batch ∧ start = 192 * readIndex ∧ offset ≤ 192 * batch.length ∧
        fileSize + 192 * batch.length < 2 ^ 32
  | .truncating _ start =>
      ∃ done batch offset,
        Filed accepted readIndex bytes fileSize done ((recordBytes batch).take offset) ∧
        Batched accepted done batch ∧ start = 192 * readIndex
  | .restoring _ start =>
      Exact accepted readIndex bytes fileSize ∧ readIndex < accepted.length ∧
        start = 192 * readIndex
  | .failing _ error =>
      Exact accepted readIndex bytes fileSize ∧ readIndex < accepted.length ∧ error ≠ .ok
  | .sized _ count =>
      ∃ done batch, done.length = readIndex ∧ batch.length = count ∧
        Batched accepted done batch ∧ bytes = recordBytes (done ++ batch) ∧
        fileSize = 192 * (readIndex + count)
  | _ => Exact accepted readIndex bytes fileSize

theorem BatchAt.mono {accepted more : List SerializedRecord} {readIndex fileSize : ℕ}
    {bytes : List UInt8} {writer : Writer}
    (batch : BatchAt accepted readIndex bytes fileSize writer) (grows : accepted <+: more) :
    BatchAt more readIndex bytes fileSize writer := by
  have longer := grows.length_le
  cases writer with
  | copying =>
      obtain ⟨done, filed, next, within, some, few, available⟩ := batch
      exact ⟨done, filed.mono grows, next.trans grows, within, some, few, available.trans longer⟩
  | writing =>
      obtain ⟨done, filed, batched, rest⟩ := batch
      exact ⟨done, filed.mono grows, batched.mono grows, rest⟩
  | truncating =>
      obtain ⟨done, records, offset, filed, batched, start⟩ := batch
      exact ⟨done, records, offset, filed.mono grows, batched.mono grows, start⟩
  | restoring | failing =>
      obtain ⟨whole, pending, rest⟩ := batch
      exact ⟨whole.mono grows, pending.trans_le longer, rest⟩
  | sized =>
      obtain ⟨done, records, count, length, batched, rest⟩ := batch
      exact ⟨done, records, count, length, batched.mono grows, rest⟩
  | _ => exact Exact.mono batch grows

/-- The writer is between choosing the records of a batch and consuming them. -/
def Writer.inBatch : Writer → Bool
  | .copying _ _ _ | .writing _ _ _ _ | .truncating _ _ | .restoring _ _ | .failing _ _
  | .sized _ _ => true
  | _ => false

/-- While a batch is under way, records are waiting. -/
theorem BatchAt.pending {accepted : List SerializedRecord} {readIndex fileSize : ℕ}
    {bytes : List UInt8} {writer : Writer}
    (batch : BatchAt accepted readIndex bytes fileSize writer) (under : writer.inBatch = true) :
    readIndex < accepted.length := by
  have waiting : ∀ {done records}, Batched accepted done records → done.length = readIndex →
      readIndex < accepted.length := by
    rintro done records batched rfl
    have longer := batched.next.length_le
    have some := batched.some
    rw [List.length_append] at longer
    omega
  cases writer with
  | copying =>
      obtain ⟨done, filed, next, within, some, few, available⟩ := batch
      omega
  | writing =>
      obtain ⟨done, filed, batched, rest⟩ := batch
      exact waiting batched filed.count
  | truncating =>
      obtain ⟨done, records, offset, filed, batched, start⟩ := batch
      exact waiting batched filed.count
  | restoring | failing => exact batch.2.1
  | sized =>
      obtain ⟨done, records, count, length, batched, rest⟩ := batch
      exact waiting batched count
  | _ => cases under

/-! ### In terms of the read index -/

theorem Exact.eq_take {accepted : List SerializedRecord} {readIndex fileSize : ℕ}
    {bytes : List UInt8} (whole : Exact accepted readIndex bytes fileSize) :
    bytes = recordBytes (accepted.take readIndex) ∧ fileSize = 192 * readIndex := by
  obtain ⟨done, filed⟩ := whole
  have same : done = accepted.take readIndex := by
    rw [← filed.count]
    exact List.prefix_iff_eq_take.mp filed.first
  rw [filed.content, List.append_nil, same]
  exact ⟨rfl, filed.size⟩

/-- The first bytes of a batch behind the records that are done -/
theorem batch_eq_take {accepted done batch : List SerializedRecord}
    (batched : Batched accepted done batch) (offset : ℕ) :
    recordBytes done ++ (recordBytes batch).take offset =
      (recordBytes (accepted.take (done.length + batch.length))).take
        (192 * done.length + offset) := by
  have same : done ++ batch = accepted.take (done.length + batch.length) := by
    rw [← List.length_append]
    exact List.prefix_iff_eq_take.mp batched.next
  rw [← same, recordBytes_append, ← length_recordBytes, List.take_length_add_append]

end MissionBoard.Storage
