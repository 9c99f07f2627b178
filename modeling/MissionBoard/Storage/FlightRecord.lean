import MissionBoard.Library.WireFormat

/-!
Owns the records of `runtime/flight_log.cpp` as the storage sees them: 192 bytes, a
checksum over all but the last four, and the tests that tell a record from anything else.

What a record says of a flight is not looked at by the storage.
-/

namespace MissionBoard.Storage

/-- `kSerializedRecordBytes` -/
abbrev kSerializedRecordBytes : ℕ := 192

/-- `SerializedRecord` -/
abbrev SerializedRecord := Vector UInt8 192

/-- One byte of the checksum -/
def crc32Byte (crc : UInt32) (byte : UInt8) : UInt32 :=
  (List.range 8).foldl
    (fun crc _ => (crc >>> 1) ^^^ (if crc &&& 1 ≠ 0 then 0xEDB88320 else 0))
    (crc ^^^ byte.toUInt32)

/-- `crc32` -/
def crc32 (bytes : List UInt8) : UInt32 := ~~~ bytes.foldl crc32Byte 0xFFFFFFFF

/-- `kMagic`: the letters 99LG -/
def kMagic : List UInt8 := [0x39, 0x39, 0x4C, 0x47]

/-- `kSchemaVersion` -/
def kSchemaVersion : UInt8 := 2

/-- `getU32` -/
def recordU32 (record : SerializedRecord) (offset : ℕ) (within : offset + 3 < 192 := by decide) :
    UInt32 :=
  LittleEndian.join32 record[offset] record[offset + 1] record[offset + 2] record[offset + 3]

/-- `validate` -/
def validate (record : SerializedRecord) : Bool :=
  if record.toList.take 4 ≠ kMagic ∨ record[4] ≠ kSchemaVersion ∨ record[5] ≠ 192 then false
  else recordU32 record 188 == crc32 (record.toList.take 188)

/-- `erased` -/
def erased (record : SerializedRecord) : Bool := record.toList.all (· == 0xFF)

/-- A valid record starts with the magic. -/
theorem first_of_validate {record : SerializedRecord} (valid : validate record = true) :
    record[0] = 0x39 := by
  unfold validate at valid
  split at valid
  · cases valid
  · rename_i header
    have magic : record.toList.take 4 = kMagic := not_not.mp (not_or.mp header).1
    have first := congrArg (fun bytes => bytes[0]?) magic
    simpa [kMagic] using first

/-- A valid record is not erased. -/
theorem erased_of_validate {record : SerializedRecord} (valid : validate record = true) :
    erased record = false := by
  have first := first_of_validate valid
  have within : record[0] ∈ record.toList := by simp
  unfold erased
  rw [List.all_eq_false]
  exact ⟨record[0], within, by rw [first]; decide⟩

/-- A window that starts with an erased byte is not a valid record. -/
theorem validate_of_erased_start {record : SerializedRecord} (start : record[0] = 0xFF) :
    validate record = false := by
  by_contra valid
  rw [Bool.not_eq_false] at valid
  have first := first_of_validate valid
  rw [start] at first
  exact absurd first (by decide)

/-- The records back to back -/
def recordBytes (records : List SerializedRecord) : List UInt8 :=
  records.flatMap fun record => record.toList

@[simp] theorem length_recordBytes (records : List SerializedRecord) :
    (recordBytes records).length = 192 * records.length := by
  induction records with
  | nil => rfl
  | cons record rest inductionHypothesis =>
      have whole : recordBytes (record :: rest) = record.toList ++ recordBytes rest := rfl
      rw [whole, List.length_append, inductionHypothesis, Vector.length_toList, List.length_cons]
      omega

/-- A record with nothing in it but its header and its checksum -/
def emptyRecord : SerializedRecord :=
  Vector.ofFn fun index =>
    if index.val < 188 then (kMagic ++ [kSchemaVersion, 192]).getD index.val 0
    else [0x70, 0xA9, 0xBA, 0x53].getD (index.val - 188) 0

theorem validate_emptyRecord : validate emptyRecord = true := by decide +kernel

end MissionBoard.Storage
