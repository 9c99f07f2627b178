import MissionBoard.Library.PrefixScan
import MissionBoard.Storage.FlightRecord

/-!
Owns `InternalFlashLog` of `runtime/flight_storage.cpp`: the records that are appended to
the `flightlog` partition, and the scan that finds their end again when the log is opened.

The partition stores what it is given; which of its calls succeed is an argument. Sizes
and offsets are natural numbers, since a partition ends before the last block of `uint32_t`.
-/

namespace MissionBoard.Storage

/-- The `flightlog` partition: its size and what each address holds -/
structure FlashPartition where
  size : ℕ
  bounded : size ≤ 2 ^ 32 - 4096
  bytes : ℕ → UInt8

namespace FlashPartition

/-- `esp_partition_erase_range` of the whole partition -/
def erase (partition : FlashPartition) : FlashPartition :=
  { partition with bytes := fun _ => 0xFF }

/-- `esp_partition_write` -/
def write (partition : FlashPartition) (offset : ℕ) (bytes : List UInt8) : FlashPartition :=
  { partition with
    bytes := fun address =>
      if offset ≤ address then bytes.getD (address - offset) (partition.bytes address)
      else partition.bytes address }

/-- `esp_partition_read` -/
def read (partition : FlashPartition) (offset count : ℕ) : List UInt8 :=
  (List.range count).map fun index => partition.bytes (offset + index)

/-- The record that the scan copies out of its buffer -/
def window (partition : FlashPartition) (position : ℕ) : SerializedRecord :=
  Vector.ofFn fun index => partition.bytes (position + index.val)

end FlashPartition

/-- `kMinimumFlightLogBytes` -/
def kMinimumFlightLogBytes : ℕ := 2 * 1024 * 1024

/-- The size of `scan_buffer_` -/
abbrev scanBufferBytes : ℕ := 4096

/-- `InternalFlashLog` over its partition -/
structure InternalFlashLog where
  partition : FlashPartition
  located : Bool := false
  writeOffset : ℕ := 0
  hasData : Bool := false

/-- What the scan of `openExisting` has found -/
structure FlashScan where
  writeOffset : ℕ := 0
  hasData : Bool := false
  validPrefix : Bool := true

namespace FlashPartition

/-- The positions at which the scan looks for records in a block -/
def positions (partition : FlashPartition) (block : ℕ) : List ℕ :=
  let blockSize := min scanBufferBytes (partition.size - scanBufferBytes * block)
  (List.range (blockSize / kSerializedRecordBytes)).map fun slot =>
    scanBufferBytes * block + kSerializedRecordBytes * slot

/-- The position holds a record. -/
def recordAt (partition : FlashPartition) (position : ℕ) : Bool :=
  !(erased (partition.window position) || !validate (partition.window position))

/-- The records of one block, up to the first position that holds none -/
def scanRecords (partition : FlashPartition) : FlashScan → List ℕ → FlashScan
  | scan, [] => scan
  | scan, position :: rest =>
      if partition.recordAt position then
        partition.scanRecords { scan with writeOffset := position + kSerializedRecordBytes } rest
      else { scan with validPrefix := false }

/-- One block -/
def scanBlock (partition : FlashPartition) (scan : FlashScan) (block : ℕ) : FlashScan :=
  let blockSize := min scanBufferBytes (partition.size - scanBufferBytes * block)
  let any := (partition.read (scanBufferBytes * block) blockSize).any (· != 0xFF)
  let scan := { scan with hasData := scan.hasData || any }
  if scan.validPrefix then partition.scanRecords scan (partition.positions block) else scan

/-- The blocks in order, until one cannot be read -/
def scanBlocks (partition : FlashPartition) (answers : ℕ → Bool) :
    FlashScan → List ℕ → Bool × FlashScan
  | scan, [] => (true, scan)
  | scan, block :: rest =>
      if answers block then partition.scanBlocks answers (partition.scanBlock scan block) rest
      else (false, scan)

/-- The blocks of the partition -/
def blocks (partition : FlashPartition) : List ℕ :=
  List.range ((partition.size + (scanBufferBytes - 1)) / scanBufferBytes)

end FlashPartition

namespace InternalFlashLog

/-- `locatePartition` -/
def locatePartition (log : InternalFlashLog) (found : Bool) : Bool × InternalFlashLog :=
  if log.located then (true, log)
  else if !found || log.partition.size < kMinimumFlightLogBytes then (false, log)
  else (true, { log with located := true })

/-- `prepareForFlight` -/
def prepareForFlight (log : InternalFlashLog) (found erases : Bool) : Bool × InternalFlashLog :=
  let (located, log) := log.locatePartition found
  if !located then (false, log)
  else if !erases then (false, log)
  else (true, { log with partition := log.partition.erase, writeOffset := 0, hasData := false })

/-- `erase` -/
def erase (log : InternalFlashLog) (found erases : Bool) : Bool × InternalFlashLog :=
  let (located, log) := if log.located then (true, log) else log.locatePartition found
  if !located then (false, log)
  else if erases then
    (true, { log with partition := log.partition.erase, writeOffset := 0, hasData := false })
  else (false, log)

/-- `append` -/
def append (log : InternalFlashLog) (record : SerializedRecord) (writes : Bool) :
    Bool × InternalFlashLog :=
  if !log.located then (false, log)
  else if !validate record then (false, log)
  else if log.writeOffset > log.partition.size ∨
      kSerializedRecordBytes > log.partition.size - log.writeOffset then (false, log)
  else if writes then
    (true,
      { log with
        partition := log.partition.write log.writeOffset record.toList
        writeOffset := log.writeOffset + kSerializedRecordBytes
        hasData := true })
  else (false, log)

/-- `openExisting` -/
def openExisting (log : InternalFlashLog) (found : Bool) (answers : ℕ → Bool) :
    Bool × InternalFlashLog :=
  let (located, log) := log.locatePartition found
  if !located then (false, log)
  else
    let (opened, scan) := log.partition.scanBlocks answers {} log.partition.blocks
    (opened, { log with writeOffset := scan.writeOffset, hasData := scan.hasData })

/-- `read`: the bytes that it returns, when it succeeds -/
def read (log : InternalFlashLog) (offset requested : ℕ) (reads : Bool) : Option (List UInt8) :=
  if !log.located then none
  else if log.writeOffset ≤ offset ∨ requested = 0 then some []
  else if reads then
    some (log.partition.read offset (min requested (log.writeOffset - offset)))
  else none

/-- Appending records one after the other, when every append succeeds -/
def appendAll (log : InternalFlashLog) : List SerializedRecord → Option InternalFlashLog
  | [] => some log
  | record :: rest =>
      match log.append record true with
      | (true, log) => log.appendAll rest
      | (false, _) => none

end InternalFlashLog

/-! ### The scan -/

namespace FlashPartition

variable (partition : FlashPartition)

theorem recordAt_eq (position : ℕ) :
    partition.recordAt position = validate (partition.window position) := by
  unfold recordAt
  cases valid : validate (partition.window position) with
  | false => simp
  | true => simp [erased_of_validate valid]

theorem scanRecords_eq (positions : List ℕ) (scan : FlashScan) (clean : scan.validPrefix = true) :
    partition.scanRecords scan positions = { scan with
      writeOffset := PrefixScan.scan partition.recordAt (· + kSerializedRecordBytes)
        scan.writeOffset positions
      validPrefix := positions.all partition.recordAt } := by
  induction positions generalizing scan with
  | nil => simp [scanRecords, ← clean]
  | cons position rest inductionHypothesis =>
      cases record : partition.recordAt position with
      | false => simp [scanRecords, record, PrefixScan.scan_cons_of_fails record]
      | true =>
          simp only [scanRecords, record, if_true]
          rw [inductionHypothesis
            { scan with writeOffset := position + kSerializedRecordBytes } clean,
            PrefixScan.scan_cons_of_passes record]
          simp [record]

theorem scanBlock_of_clean {scan : FlashScan} (clean : scan.validPrefix = true) (block : ℕ) :
    ∃ hasData, partition.scanBlock scan block =
      { writeOffset := PrefixScan.scan partition.recordAt (· + kSerializedRecordBytes)
          scan.writeOffset (partition.positions block)
        hasData
        validPrefix := (partition.positions block).all partition.recordAt } := by
  refine ⟨(partition.scanBlock scan block).hasData, ?_⟩
  unfold scanBlock
  dsimp only
  rw [if_pos clean, partition.scanRecords_eq _ _ (by exact clean)]

theorem scanBlock_of_stopped {scan : FlashScan} (stopped : scan.validPrefix = false) (block : ℕ) :
    ∃ hasData, partition.scanBlock scan block = { scan with hasData } := by
  refine ⟨(partition.scanBlock scan block).hasData, ?_⟩
  unfold scanBlock
  dsimp only
  rw [if_neg (by rw [stopped]; decide)]

/-- The blocks are scanned as one list of positions. -/
theorem writeOffset_scanBlocks {answers : ℕ → Bool} {blocks : List ℕ} {scan last : FlashScan}
    (scanned : partition.scanBlocks answers scan blocks = (true, last)) :
    last.writeOffset =
      if scan.validPrefix then
        PrefixScan.scan partition.recordAt (· + kSerializedRecordBytes) scan.writeOffset
          (blocks.flatMap partition.positions)
      else scan.writeOffset := by
  induction blocks generalizing scan with
  | nil =>
      cases scanned
      simp
  | cons block rest inductionHypothesis =>
      unfold scanBlocks at scanned
      cases answered : answers block with
      | false => simp [answered] at scanned
      | true =>
          rw [answered, if_pos rfl] at scanned
          rw [inductionHypothesis scanned, List.flatMap_cons]
          cases clean : scan.validPrefix with
          | false =>
              obtain ⟨hasData, same⟩ := partition.scanBlock_of_stopped clean block
              rw [same, if_neg (by rw [clean]; decide), if_neg (by decide)]
          | true =>
              obtain ⟨hasData, scannedBlock⟩ := partition.scanBlock_of_clean clean block
              rw [scannedBlock, if_pos rfl]
              dsimp only
              cases all : (partition.positions block).all partition.recordAt with
              | true => rw [PrefixScan.scan_append_of_all all, if_pos rfl]
              | false => rw [PrefixScan.scan_append_of_not_all all, if_neg (by decide)]

/-- The scan succeeds when every block can be read. -/
theorem scanBlocks_answers (blocks : List ℕ) (scan : FlashScan) :
    (partition.scanBlocks (fun _ => true) scan blocks).1 = true := by
  induction blocks generalizing scan with
  | nil => rfl
  | cons block rest inductionHypothesis => exact inductionHypothesis _

/-- The scan looks at twenty-one positions in each block, as far as the partition goes. -/
theorem mem_positions {position : ℕ} :
    position ∈ partition.blocks.flatMap partition.positions ↔
      ∃ block slot, position = 4096 * block + 192 * slot ∧ slot ≤ 20 ∧
        position + 192 ≤ partition.size := by
  simp only [List.mem_flatMap, blocks, positions, List.mem_range, List.mem_map, scanBufferBytes,
    kSerializedRecordBytes]
  constructor
  · rintro ⟨block, within, slot, fits, rfl⟩
    refine ⟨block, slot, rfl, ?_, ?_⟩ <;> omega
  · rintro ⟨block, slot, rfl, early, fits⟩
    refine ⟨block, ?_, slot, ?_, rfl⟩ <;> omega

theorem positions_sorted : (partition.blocks.flatMap partition.positions).Pairwise (· < ·) := by
  rw [List.pairwise_flatMap]
  constructor
  · intro block _
    rw [positions, List.pairwise_map]
    exact List.pairwise_lt_range.imp fun less =>
      Nat.add_lt_add_left (Nat.mul_lt_mul_of_pos_left less (by decide)) _
  · refine List.pairwise_lt_range.imp fun {first second} less => ?_
    intro early within late above
    simp only [positions, List.mem_map, List.mem_range, scanBufferBytes,
      kSerializedRecordBytes] at within above
    obtain ⟨slot, fits, rfl⟩ := within
    obtain ⟨other, -, rfl⟩ := above
    omega

end FlashPartition

/-! ### What the partition holds -/

/-- The window at a position of bytes that erased ones follow -/
def windowOf (bytes : List UInt8) (position : ℕ) : SerializedRecord :=
  Vector.ofFn fun index => bytes.getD (position + index.val) 0xFF

/-- The log has written these bytes to an erased partition. -/
structure Wrote (log : InternalFlashLog) (bytes : List UInt8) : Prop where
  located : log.located = true
  offset : log.writeOffset = bytes.length
  fits : bytes.length ≤ log.partition.size
  holds : ∀ address, log.partition.bytes address = bytes.getD address 0xFF

theorem Wrote.window {log : InternalFlashLog} {bytes : List UInt8} (wrote : Wrote log bytes)
    (position : ℕ) : log.partition.window position = windowOf bytes position := by
  simp only [FlashPartition.window, windowOf, wrote.holds]

/-- An append puts a valid record behind what was written. -/
theorem Wrote.append {log next : InternalFlashLog} {bytes : List UInt8} (wrote : Wrote log bytes)
    {record : SerializedRecord} (appended : log.append record true = (true, next)) :
    validate record = true ∧ Wrote next (bytes ++ record.toList) := by
  unfold InternalFlashLog.append at appended
  rw [wrote.located] at appended
  simp only [Bool.not_true, Bool.false_eq_true, if_false] at appended
  split at appended
  · cases appended
  · rename_i valid
    split at appended
    · cases appended
    · rename_i room
      obtain rfl := (Prod.mk.inj appended).2
      rw [not_or, Nat.not_lt, Nat.not_lt] at room
      have offset := wrote.offset
      have length : record.toList.length = 192 := Vector.length_toList
      refine ⟨by simpa using valid, rfl, ?_, ?_, fun address => ?_⟩
      · simp [offset]
      · have size : kSerializedRecordBytes = 192 := rfl
        rw [List.length_append, length]
        show bytes.length + 192 ≤ log.partition.size
        omega
      · dsimp only [FlashPartition.write]
        rw [wrote.holds, offset]
        by_cases early : bytes.length ≤ address
        · rw [if_pos early, List.getD_append_right _ _ _ _ early,
            List.getD_eq_default bytes _ early]
        · rw [if_neg early, List.getD_append _ _ _ _ (Nat.not_le.mp early)]

theorem Wrote.appendAll {log last : InternalFlashLog} {bytes : List UInt8}
    (wrote : Wrote log bytes) {records : List SerializedRecord}
    (appended : log.appendAll records = some last) :
    (∀ record ∈ records, validate record = true) ∧ Wrote last (bytes ++ recordBytes records) := by
  induction records generalizing log bytes with
  | nil =>
      cases appended
      refine ⟨nofun, ?_⟩
      rw [show recordBytes [] = [] from rfl, List.append_nil]
      exact wrote
  | cons record rest inductionHypothesis =>
      unfold InternalFlashLog.appendAll at appended
      split at appended
      · rename_i next first
        obtain ⟨valid, onto⟩ := wrote.append first
        obtain ⟨others, whole⟩ := inductionHypothesis onto appended
        refine ⟨fun other within => ?_, ?_⟩
        · rcases List.mem_cons.mp within with rfl | later
          · exact valid
          · exact others other later
        · rwa [List.append_assoc] at whole
      · cases appended

/-- Records that are valid and fit can all be appended. -/
theorem Wrote.exists_appendAll {log : InternalFlashLog} {bytes : List UInt8}
    (wrote : Wrote log bytes) {records : List SerializedRecord}
    (valid : ∀ record ∈ records, validate record = true)
    (fits : bytes.length + 192 * records.length ≤ log.partition.size) :
    ∃ last, log.appendAll records = some last := by
  induction records generalizing log bytes with
  | nil => exact ⟨log, rfl⟩
  | cons record rest inductionHypothesis =>
      rw [List.length_cons] at fits
      have offset := wrote.offset
      have size : kSerializedRecordBytes = 192 := rfl
      have first : ∃ next, log.append record true = (true, next) ∧
          next.partition.size = log.partition.size := by
        unfold InternalFlashLog.append
        rw [wrote.located, valid record List.mem_cons_self, if_neg (by decide), if_neg (by decide),
          if_neg (by omega), if_pos rfl]
        exact ⟨_, rfl, rfl⟩
      obtain ⟨next, appended, same⟩ := first
      obtain ⟨-, onto⟩ := wrote.append appended
      obtain ⟨last, all⟩ := inductionHypothesis onto
        (fun other within => valid other (List.mem_cons_of_mem _ within))
        (by rw [List.length_append, Vector.length_toList, same]; omega)
      refine ⟨last, ?_⟩
      rw [InternalFlashLog.appendAll, appended]
      exact all

/-- A log that was just prepared or erased -/
def Fresh (log fresh : InternalFlashLog) : Prop :=
  ∃ found erases, log.prepareForFlight found erases = (true, fresh) ∨
    log.erase found erases = (true, fresh)

/-- Once the partition was found, the log keeps it and changes nothing else. -/
theorem InternalFlashLog.locatePartition_found {log : InternalFlashLog} {found : Bool}
    (there : (log.locatePartition found).1 = true) :
    (log.locatePartition found).2 = { log with located := true } := by
  unfold InternalFlashLog.locatePartition at there ⊢
  split at there
  · rename_i already
    rw [if_pos already, ← already]
  · rename_i missing
    split at there
    · cases there
    · rename_i suits
      rw [if_neg missing, if_neg suits]

theorem Fresh.wrote {log fresh : InternalFlashLog} (isFresh : Fresh log fresh) :
    Wrote fresh [] := by
  have located : ∀ found, (log.locatePartition found).1 = true →
      (log.locatePartition found).2.located = true := by
    intro found there
    rw [InternalFlashLog.locatePartition_found there]
  have begins : ∀ next : InternalFlashLog, next.located = true →
      Wrote { next with partition := next.partition.erase, writeOffset := 0, hasData := false }
        [] :=
    fun next there => ⟨there, rfl, Nat.zero_le _, fun _ => rfl⟩
  obtain ⟨found, erases, prepared | cleared⟩ := isFresh
  · unfold InternalFlashLog.prepareForFlight at prepared
    dsimp only at prepared
    split at prepared
    · cases prepared
    · rename_i there
      split at prepared
      · cases prepared
      · cases prepared
        exact begins _ (located found (by simpa using there))
  · unfold InternalFlashLog.erase at cleared
    by_cases already : log.located = true
    · rw [if_pos already] at cleared
      dsimp only at cleared
      rw [if_neg (by simp)] at cleared
      cases erases with
      | false => cases cleared
      | true =>
          obtain rfl := (Prod.mk.inj cleared).2
          exact begins log already
    · rw [if_neg already] at cleared
      dsimp only at cleared
      split at cleared
      · cases cleared
      · rename_i there
        cases erases with
        | false => cases cleared
        | true =>
            obtain rfl := (Prod.mk.inj cleared).2
            exact begins _ (located found (by simpa using there))

/-! ### Opening the log again -/

/-- The log that was opened ends behind these records, and a read returns their bytes. -/
def ReopensAs (log : InternalFlashLog) (records : List SerializedRecord) : Prop :=
  log.writeOffset = 192 * records.length ∧
    ∀ offset requested, log.read offset requested true =
      some (((recordBytes records).drop offset).take requested)

/-- The last record ends with one of the first twenty-one of its three blocks, or there is
none; and wherever the scan looks before the end, it finds a valid record. -/
def ScansClean (records : List SerializedRecord) : Prop :=
  (records.length = 0 ∨ 1 ≤ records.length % 64 ∧ records.length % 64 ≤ 21) ∧
    ∀ block slot, slot ≤ 20 → 4096 * block + 192 * slot < 192 * records.length →
      validate (windowOf (recordBytes records) (4096 * block + 192 * slot)) = true

/-- Positions of the scan lie a record apart, or further. -/
private theorem positions_apart {block slot other place : ℕ} (early : slot ≤ 20) (near : place ≤ 20)
    (before : 4096 * other + 192 * place < 4096 * block + 192 * slot + 192) :
    4096 * other + 192 * place ≤ 4096 * block + 192 * slot := by
  rcases Nat.lt_trichotomy other block with less | same | more
  · omega
  · omega
  · omega

/-- The scan ends behind the last record exactly when it is clean. -/
theorem Wrote.scan_eq_iff {log : InternalFlashLog} {records : List SerializedRecord}
    (wrote : Wrote log (recordBytes records)) :
    PrefixScan.scan log.partition.recordAt (· + kSerializedRecordBytes) 0
        (log.partition.blocks.flatMap log.partition.positions) = 192 * records.length ↔
      ScansClean records := by
  have fits := wrote.fits
  rw [length_recordBytes] at fits
  have recordAt : ∀ position, log.partition.recordAt position =
      validate (windowOf (recordBytes records) position) := by
    intro position
    rw [FlashPartition.recordAt_eq, wrote.window]
  have beyond : ∀ position, 192 * records.length ≤ position →
      log.partition.recordAt position = false := by
    intro position behind
    rw [recordAt]
    refine validate_of_erased_start ?_
    rw [windowOf, Vector.getElem_ofFn]
    exact List.getD_eq_default _ _ (by rw [length_recordBytes]; omega)
  have reached := @PrefixScan.getLast?_takeWhile_eq_some_iff _ log.partition.recordAt _ _
    log.partition.positions_sorted
  rw [PrefixScan.scan_eq]
  constructor
  · intro ends
    cases found : ((log.partition.blocks.flatMap log.partition.positions).takeWhile
        log.partition.recordAt).getLast? with
    | none =>
        rw [found] at ends
        have none : 192 * records.length = 0 := ends.symm
        exact ⟨Or.inl (by omega), fun block slot _ before => by omega⟩
    | some last =>
        rw [found] at ends
        have end_eq : last + 192 = 192 * records.length := ends
        obtain ⟨⟨within, all⟩, -⟩ := reached.mp found
        obtain ⟨block, slot, position, early, -⟩ := log.partition.mem_positions.mp within
        clear ends
        refine ⟨Or.inr (by omega), fun other place inBlock before => ?_⟩
        have reaches : 4096 * other + 192 * place ≤ last := by
          rw [position]
          exact positions_apart early inBlock (by omega)
        rw [← recordAt]
        exact all _ (log.partition.mem_positions.mpr ⟨other, place, rfl, inBlock, by omega⟩) reaches
  · rintro ⟨aligned, clean⟩
    rcases aligned with none | ⟨low, high⟩
    · have nothing : (log.partition.blocks.flatMap log.partition.positions).takeWhile
          log.partition.recordAt = [] := by
        rw [List.eq_nil_iff_forall_not_mem]
        intro position within
        have passed := List.mem_takeWhile_imp within
        rw [beyond position (by omega)] at passed
        exact absurd passed (by decide)
      rw [nothing, none]
      rfl
    · have last : ((log.partition.blocks.flatMap log.partition.positions).takeWhile
          log.partition.recordAt).getLast? = some (192 * (records.length - 1)) := by
        rw [reached]
        refine ⟨⟨?_, fun earlier within before => ?_⟩, fun later within after => ?_⟩
        · rw [log.partition.mem_positions]
          exact ⟨3 * (records.length / 64), records.length % 64 - 1, by omega, by omega, by omega⟩
        · obtain ⟨block, slot, rfl, early, -⟩ := log.partition.mem_positions.mp within
          rw [recordAt]
          exact clean block slot early (by omega)
        · refine ⟨later, within, le_rfl, beyond later ?_⟩
          obtain ⟨block, slot, rfl, early, -⟩ := log.partition.mem_positions.mp within
          have lastPosition : 192 * (records.length - 1) =
              4096 * (3 * (records.length / 64)) + 192 * (records.length % 64 - 1) := by omega
          have apart := @positions_apart (3 * (records.length / 64)) (records.length % 64 - 1)
            block slot (by omega) early
          omega
      rw [last]
      show 192 * (records.length - 1) + 192 = 192 * records.length
      omega

/-- What `openExisting` leaves: the partition as it was, and the end that the scan found -/
theorem InternalFlashLog.openExisting_opened {log opened : InternalFlashLog} {found : Bool}
    {answers : ℕ → Bool} (opens : log.openExisting found answers = (true, opened)) :
    opened.located = true ∧ opened.partition = log.partition ∧
      opened.writeOffset = PrefixScan.scan log.partition.recordAt (· + kSerializedRecordBytes) 0
        (log.partition.blocks.flatMap log.partition.positions) := by
  unfold InternalFlashLog.openExisting at opens
  dsimp only at opens
  split at opens
  · cases opens
  · rename_i there
    rw [locatePartition_found (by simpa using there)] at opens
    obtain ⟨scanned, rfl⟩ := Prod.mk.inj opens
    exact ⟨rfl, rfl, log.partition.writeOffset_scanBlocks (Prod.ext scanned rfl)⟩

/-- A log that ends behind the bytes it holds returns them. -/
theorem InternalFlashLog.read_eq {log : InternalFlashLog} {bytes : List UInt8}
    (located : log.located = true) (ends : log.writeOffset = bytes.length)
    (holds : ∀ address, log.partition.bytes address = bytes.getD address 0xFF)
    (offset requested : ℕ) :
    log.read offset requested true = some ((bytes.drop offset).take requested) := by
  unfold InternalFlashLog.read
  rw [located, ends, if_neg (by decide)]
  by_cases nothing : bytes.length ≤ offset ∨ requested = 0
  · rw [if_pos nothing]
    rcases nothing with behind | none
    · rw [List.drop_eq_nil_of_le behind, List.take_nil]
    · rw [none, List.take_zero]
  · rw [if_neg nothing, if_pos rfl]
    apply congrArg some
    apply List.ext_getElem
    · simp [FlashPartition.read]
    · intro index below _
      simp only [FlashPartition.read, List.length_map, List.length_range] at below
      simp only [FlashPartition.read, List.getElem_map, List.getElem_range, List.getElem_take,
        List.getElem_drop, holds]
      exact List.getD_eq_getElem _ _ (by omega)

/-- The end that is found is that of the last record exactly when the scan is clean. -/
theorem writeOffset_opened_iff {log fresh written reopened opened : InternalFlashLog}
    {records : List SerializedRecord} {found : Bool} {answers : ℕ → Bool}
    (isFresh : Fresh log fresh) (appended : fresh.appendAll records = some written)
    (kept : reopened.partition = written.partition)
    (opens : reopened.openExisting found answers = (true, opened)) :
    opened.writeOffset = 192 * records.length ↔ ScansClean records := by
  have wrote : Wrote written (recordBytes records) := (isFresh.wrote.appendAll appended).2
  obtain ⟨-, -, ends⟩ := InternalFlashLog.openExisting_opened opens
  rw [← wrote.scan_eq_iff, ends, kept]

/-- Records that were appended to a log that had just been prepared or erased are found again
by `openExisting`, all of them and nothing else, exactly when the last of them ends with one
of the first twenty-one of its three blocks of the scan, and every position before their end
at which the scan looks holds a valid record. -/
theorem reopens_exactly {log fresh written reopened opened : InternalFlashLog}
    {records : List SerializedRecord} {found : Bool} {answers : ℕ → Bool}
    (isFresh : Fresh log fresh) (appended : fresh.appendAll records = some written)
    (kept : reopened.partition = written.partition)
    (opens : reopened.openExisting found answers = (true, opened)) :
    ReopensAs opened records ↔ ScansClean records := by
  rw [← writeOffset_opened_iff isFresh appended kept opens]
  have wrote : Wrote written (recordBytes records) := (isFresh.wrote.appendAll appended).2
  obtain ⟨located, same, -⟩ := InternalFlashLog.openExisting_opened opens
  constructor
  · exact fun reopens => reopens.1
  · intro length
    refine ⟨length, InternalFlashLog.read_eq located ?_ ?_⟩
    · rw [length, length_recordBytes]
    · rw [same, kept]
      exact wrote.holds

/-! ### Few records -/

theorem windowOf_start (record : SerializedRecord) (bytes : List UInt8) :
    windowOf (record.toList ++ bytes) 0 = record := by
  apply Vector.ext
  intro index below
  have within : index < record.toList.length := by rwa [Vector.length_toList]
  simp only [windowOf, Vector.getElem_ofFn, Nat.zero_add]
  rw [List.getD_append _ _ _ _ within, List.getD_eq_getElem _ _ within, Vector.getElem_toList]

theorem windowOf_later (record : SerializedRecord) (bytes : List UInt8) (position : ℕ) :
    windowOf (record.toList ++ bytes) (192 + position) = windowOf bytes position := by
  apply Vector.ext
  intro index _
  have length : record.toList.length = 192 := Vector.length_toList
  simp only [windowOf, Vector.getElem_ofFn]
  rw [List.getD_append_right _ _ _ _ (by omega), length, Nat.add_assoc, Nat.add_sub_cancel_left]

/-- At the position of a record stands that record. -/
theorem windowOf_recordBytes {records : List SerializedRecord} {index : ℕ}
    (below : index < records.length) :
    windowOf (recordBytes records) (192 * index) = records[index] := by
  induction records generalizing index with
  | nil => exact absurd below (Nat.not_lt_zero _)
  | cons record rest inductionHypothesis =>
      have whole : recordBytes (record :: rest) = record.toList ++ recordBytes rest := rfl
      rw [whole]
      cases index with
      | zero => exact windowOf_start record _
      | succ index =>
          rw [Nat.mul_succ, Nat.add_comm, windowOf_later]
          exact inductionHypothesis (Nat.lt_of_succ_lt_succ below)

/-- The records that fit into the first block of the scan are always found again. -/
theorem scansClean_of_few {records : List SerializedRecord} (few : records.length ≤ 21)
    (valid : ∀ record ∈ records, validate record = true) : ScansClean records := by
  refine ⟨by omega, fun block slot early before => ?_⟩
  obtain rfl : block = 0 := by omega
  rw [Nat.mul_zero, Nat.zero_add, windowOf_recordBytes (by omega)]
  exact valid _ (List.getElem_mem _)

/-- A log over an erased partition of the smallest size -/
def blankLog : InternalFlashLog where
  partition := ⟨kMinimumFlightLogBytes, by decide, fun _ => 0xFF⟩

theorem blankLog_fresh : Fresh blankLog { blankLog with located := true } :=
  ⟨true, true, Or.inl rfl⟩

/-- Empty records in a fresh log, which is then opened again -/
private theorem emptyRecords_reopened {count : ℕ} (fits : 192 * count ≤ kMinimumFlightLogBytes) :
    ∃ written opened,
      InternalFlashLog.appendAll { blankLog with located := true }
        (List.replicate count emptyRecord) = some written ∧
      written.openExisting true (fun _ => true) = (true, opened) := by
  have valid : ∀ record ∈ List.replicate count emptyRecord, validate record = true := by
    intro record within
    rw [List.eq_of_mem_replicate within]
    exact validate_emptyRecord
  have room : ([] : List UInt8).length + 192 * (List.replicate count emptyRecord).length ≤
      blankLog.partition.size := by
    rw [List.length_replicate, List.length_nil, Nat.zero_add]
    exact fits
  obtain ⟨written, appended⟩ := blankLog_fresh.wrote.exists_appendAll valid room
  have located := (blankLog_fresh.wrote.appendAll appended).2.located
  refine ⟨written, _, appended, Prod.ext ?_ rfl⟩
  unfold InternalFlashLog.openExisting InternalFlashLog.locatePartition
  rw [if_pos located]
  exact written.partition.scanBlocks_answers _ _

theorem reopens_exactly_one :
    ∃ written opened,
      InternalFlashLog.appendAll { blankLog with located := true } [emptyRecord] = some written ∧
      written.openExisting true (fun _ => true) = (true, opened) ∧
      ReopensAs opened [emptyRecord] := by
  obtain ⟨written, opened, appended, opens⟩ := @emptyRecords_reopened 1 (by decide)
  have clean : ScansClean [emptyRecord] :=
    scansClean_of_few (by decide) (by simpa using validate_emptyRecord)
  exact ⟨written, opened, appended, opens,
    (reopens_exactly blankLog_fresh appended rfl opens).mpr clean⟩

/-- The twenty-second record crosses the end of the first block, and is lost. -/
theorem reopens_of_twentyTwo :
    ∃ written opened,
      InternalFlashLog.appendAll { blankLog with located := true }
        (List.replicate 22 emptyRecord) = some written ∧
      written.openExisting true (fun _ => true) = (true, opened) ∧
      opened.writeOffset ≠ 192 * 22 := by
  obtain ⟨written, opened, appended, opens⟩ := @emptyRecords_reopened 22 (by decide)
  refine ⟨written, opened, appended, opens, fun whole => ?_⟩
  have clean := (writeOffset_opened_iff blankLog_fresh appended rfl opens).mp whole
  exact absurd clean.1 (by decide)

end MissionBoard.Storage
