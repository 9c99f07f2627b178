import MissionBoard.Library.Run
import MissionBoard.Storage.FlashExport

/-!
Owns `InternalFlashLog::append` of `internalFlashTask` and `exportRawFlashAndErase` of
`sdLogTask` on one log, step by step for each access to what the two tasks share. No lock
keeps them apart.

A record that is stored in a block behind its verification is erased without being in the
file, and an append that has stored its record advances an offset that the export may have
reset before. What the export has verified decides which records it may erase.
-/

namespace MissionBoard.Storage

/-- Where the task that appends stands in `append` -/
inductive Appending where
  | idle
  /-- The record is valid and fits; the offset has been read for the write. -/
  | checked (record : SerializedRecord) (offset : ℕ)
  /-- `esp_partition_write` has succeeded. -/
  | stored (record : SerializedRecord)
  /-- The offset has been read to be advanced. -/
  | loaded (record : SerializedRecord) (offset : ℕ)
deriving DecidableEq

/-- Where the other task stands in `exportRawFlashAndErase` -/
inductive Exporting where
  | idle
  | copying (block : ℕ)
  | verifying (block : ℕ)
  | erasing (sector : ℕ)
  | returned (result : EspErr)
deriving DecidableEq

/-- The export has compared the block with the file, and has not returned. -/
def Exporting.hasVerified : Exporting → ℕ → Bool
  | .verifying next, block => block < next
  | .erasing _, _ => true
  | .idle, _ | .copying _, _ | .returned _, _ => false

namespace FlashPartition

/-- The part of `esp_partition_erase_range` that erases one sector -/
def eraseSector (partition : FlashPartition) (sector : ℕ) (left : ℕ → UInt8) : FlashPartition :=
  { partition with
    bytes := fun address =>
      if address / scanBufferBytes = sector then left address else partition.bytes address }

end FlashPartition

/-- The log, the file, and where the two tasks stand -/
structure SharedFlash where
  log : InternalFlashLog
  appending : Appending := .idle
  exporting : Exporting := .idle
  file : List UInt8 := []
  /-- The records whose `append` has returned `ESP_OK`, which the code does not keep -/
  acknowledged : List SerializedRecord := []
  /-- The records stored behind the verification, with their offsets, until the log is reset;
  nor does it keep these -/
  unverified : List (ℕ × SerializedRecord) := []

/-- A record arrives, or one of the two tasks takes its next step. -/
inductive SharingStep where
  | append (record : SerializedRecord)
  | appending (writes : EspErr)
  | exporting (answers : ExportAnswers)

namespace SharedFlash

/-- `append`, up to the read of the offset for the write -/
def append (shared : SharedFlash) (record : SerializedRecord) : SharedFlash :=
  if !shared.log.located then shared
  else if !validate record then shared
  else if shared.log.writeOffset > shared.log.partition.size ∨
      kSerializedRecordBytes > shared.log.partition.size - shared.log.writeOffset then shared
  else { shared with appending := .checked record shared.log.writeOffset }

/-- The next step of the task that appends; a write that fails ends the call. -/
def appendStep (shared : SharedFlash) (writes : EspErr) : SharedFlash :=
  match shared.appending with
  | .idle => shared
  | .checked record offset =>
      if writes = .ok then
        { shared with
          log := { shared.log with
            partition := shared.log.partition.write offset record.toList }
          appending := .stored record
          unverified := if shared.exporting.hasVerified (offset / scanBufferBytes) then
            (offset, record) :: shared.unverified else shared.unverified }
      else { shared with appending := .idle }
  | .stored record => { shared with appending := .loaded record shared.log.writeOffset }
  | .loaded record offset =>
      { shared with
        log := { shared.log with
          writeOffset := offset + kSerializedRecordBytes
          hasData := true }
        appending := .idle
        acknowledged := shared.acknowledged ++ [record] }

/-- The export returns. -/
def returns (shared : SharedFlash) (result : EspErr) : SharedFlash :=
  { shared with exporting := .returned result }

/-- The next step of the task that exports -/
def exportStep (shared : SharedFlash) (answers : ExportAnswers) : SharedFlash :=
  match shared.exporting with
  | .idle =>
      if !answers.mounted || !shared.log.located || shared.log.partition.size == 0 then
        shared.returns .invalidState
      else if answers.writable && !answers.flushes then shared.returns .fail
      else if !answers.opens then shared.returns .fail
      else { shared with exporting := .copying 0, file := [] }
  | .copying block =>
      if exportBufferBytes * block < shared.log.partition.size then
        match shared.log.copyBlock answers shared.file block with
        | .error error => shared.returns error
        | .ok file => { shared with exporting := .copying (block + 1), file }
      else
        match shared.log.checkFile answers shared.file with
        | .error error => shared.returns error
        | .ok () => { shared with exporting := .verifying 0 }
  | .verifying block =>
      if exportBufferBytes * block < shared.log.partition.size then
        match shared.log.verifyBlock answers shared.file [] block with
        | .error error => shared.returns error
        | .ok _ => { shared with exporting := .verifying (block + 1) }
      else if !answers.closes then shared.returns .fail
      else { shared with exporting := .erasing 0 }
  | .erasing sector =>
      if exportBufferBytes * sector < shared.log.partition.size then
        if answers.erases = .ok then
          { shared with
            log := { shared.log with
              partition := shared.log.partition.eraseSector sector fun _ => 0xFF }
            exporting := .erasing (sector + 1) }
        else
          { shared with
            log := { shared.log with
              partition := shared.log.partition.eraseSector sector answers.torn } }.returns
            answers.erases
      else
        { shared with
          log := { shared.log with writeOffset := 0, hasData := false }
          unverified := [] }.returns .ok
  | .returned _ => shared

/-- One step; an append begins only when the task is in none. -/
def step (shared : SharedFlash) : SharingStep → SharedFlash
  | .append record => if shared.appending = .idle then shared.append record else shared
  | .appending writes => shared.appendStep writes
  | .exporting answers => shared.exportStep answers

/-! ### What is to hold, and when it does -/

/-- The record stands in the file. -/
def InFile (shared : SharedFlash) (record : SerializedRecord) : Prop :=
  ∃ position, (shared.file.drop position).take 192 = record.toList

/-- The record is read back from the log. -/
def InLog (shared : SharedFlash) (record : SerializedRecord) : Prop :=
  ∃ index, 192 * (index + 1) ≤ shared.log.writeOffset ∧
    shared.log.partition.window (192 * index) = record

/-- Every record that was acknowledged is in the file or in the log, and the offset of the log
is the length of the records that are read from it. -/
structure LosesNothing (shared : SharedFlash) : Prop where
  kept : ∀ record ∈ shared.acknowledged, shared.InFile record ∨ shared.InLog record
  counted : ∃ records : List SerializedRecord, (∀ record ∈ records, validate record = true) ∧
    shared.log.partition.read 0 shared.log.writeOffset = recordBytes records

/-- The next step of the export resets the offset. -/
def Resetting (shared : SharedFlash) : Prop :=
  match shared.exporting with
  | .erasing sector => shared.log.partition.size ≤ exportBufferBytes * sector
  | _ => False

/-- The append that is under way has stored its record. -/
def HasStored (shared : SharedFlash) : Prop :=
  match shared.appending with
  | .stored _ | .loaded _ _ => True
  | .idle | .checked _ _ => False

instance : DecidablePred Resetting := fun shared => by
  unfold Resetting
  split <;> infer_instance

instance : DecidablePred HasStored := fun shared => by
  unfold HasStored
  split <;> infer_instance

/-- The two tasks stay out of each other's way. A record is stored where the log still ends.
The export resets the log when no record has been stored behind its verification and no append
is between its write and its return; only the first record of an empty log may be stored late,
once its sector has been erased. -/
def undisturbed (shared : SharedFlash) : SharingStep → Prop
  | .append _ => True
  | .appending writes =>
      match shared.appending with
      | .checked _ offset => writes = .ok → offset = shared.log.writeOffset
      | _ => True
  | .exporting _ => shared.Resetting →
      (∀ entry ∈ shared.unverified, entry.1 = 0 ∧ shared.log.writeOffset = 0 ∧
        shared.log.partition.read 0 192 = entry.2.toList) ∧
      (shared.HasStored → shared.unverified ≠ [])

/-- The log holds these records, and both tasks are idle. -/
structure Begins (shared : SharedFlash) : Prop where
  idle : shared.appending = .idle ∧ shared.exporting = .idle ∧ shared.unverified = []
  offset : shared.log.writeOffset = 192 * shared.acknowledged.length
  fits : shared.log.writeOffset ≤ shared.log.partition.size
  valid : ∀ record ∈ shared.acknowledged, validate record = true
  holds : ∀ index (within : index < shared.acknowledged.length),
    shared.log.partition.window (192 * index) = shared.acknowledged[index]

/-! ### What holds until the log is reset, and behind that -/

/-- The record that an append has stored and not yet counted -/
def storing : Appending → Option SerializedRecord
  | .stored record | .loaded record _ => some record
  | .idle | .checked _ _ => none

/-- The byte stands at the address, in the file once the export has verified its block. -/
def Holds (shared : SharedFlash) (address : ℕ) (byte : UInt8) : Prop :=
  if shared.exporting.hasVerified (address / scanBufferBytes) then
    shared.file[address]? = some byte
  else shared.log.partition.bytes address = byte

/-- All bytes of the record stand where they belong. -/
def Covered (shared : SharedFlash) (offset : ℕ) (record : SerializedRecord) : Prop :=
  ∀ index (within : index < 192), shared.Holds (offset + index) record[index]

/-- The log is made of the committed records, and the one being stored follows them. Each is
covered, or was stored behind the verification. -/
structure Sound (shared : SharedFlash) (committed : List SerializedRecord) : Prop where
  offset : shared.log.writeOffset = 192 * committed.length
  fits : 192 * (committed ++ (storing shared.appending).toList).length ≤ shared.log.partition.size
  valid : ∀ record ∈ committed ++ (storing shared.appending).toList, validate record = true
  covered : ∀ index record,
    (committed ++ (storing shared.appending).toList)[index]? = some record →
    (192 * index, record) ∈ shared.unverified ∨ shared.Covered (192 * index) record
  late : ∀ entry ∈ shared.unverified, ∃ index,
    (committed ++ (storing shared.appending).toList)[index]? = some entry.2 ∧
      entry.1 = 192 * index
  waiting : ∀ record offset, shared.appending = .checked record offset →
    validate record = true ∧ offset + 192 ≤ shared.log.partition.size
  reread : ∀ record offset, shared.appending = .loaded record offset →
    offset = shared.log.writeOffset
  kept : ∀ record ∈ shared.acknowledged,
    record ∈ committed ∨ (shared.exporting = .returned .ok ∧ shared.InFile record)
  settled : shared.exporting = .returned .ok → shared.unverified = []

/-- The export has failed, or everything is in its place. -/
def Steady (shared : SharedFlash) : Prop :=
  (∃ result, result ≠ .ok ∧ shared.exporting = .returned result) ∨
    ∃ committed, shared.Sound committed

variable {shared next : SharedFlash} {committed : List SerializedRecord}

theorem Begins.sound (begins : shared.Begins) : shared.Sound shared.acknowledged := by
  obtain ⟨idle, waits, none⟩ := begins.idle
  have placed : shared.acknowledged ++ (storing shared.appending).toList = shared.acknowledged := by
    rw [idle]
    exact List.append_nil _
  have offset := begins.offset
  have fits := begins.fits
  constructor
  · exact offset
  · rw [placed]
    omega
  · rw [placed]
    exact begins.valid
  · intro index record there
    rw [placed] at there
    obtain ⟨within, rfl⟩ := List.getElem?_eq_some_iff.mp there
    right
    intro byte inside
    have window := congrArg (fun record => record[byte]) (begins.holds index within)
    unfold Holds
    rw [waits]
    simpa [Exporting.hasVerified, FlashPartition.window] using window
  · rw [none]
    simp
  · rw [idle]
    simp
  · rw [idle]
    simp
  · intro record acknowledged
    exact .inl acknowledged
  · intro _
    exact none

/-- A step that leaves the log's end and the appends alone, and every byte in its place -/
theorem Sound.of_holds (sound : shared.Sound committed)
    (appending : next.appending = shared.appending)
    (acknowledged : next.acknowledged = shared.acknowledged)
    (unverified : next.unverified = shared.unverified)
    (offset : next.log.writeOffset = shared.log.writeOffset)
    (size : next.log.partition.size = shared.log.partition.size)
    (before : shared.exporting ≠ .returned .ok) (behind : next.exporting ≠ .returned .ok)
    (holds : ∀ address byte, address < shared.log.partition.size → shared.Holds address byte →
      next.Holds address byte) : next.Sound committed := by
  constructor
  · rw [offset]
    exact sound.offset
  · rw [appending, size]
    exact sound.fits
  · rw [appending]
    exact sound.valid
  · intro index record there
    rw [appending] at there
    rw [unverified]
    refine (sound.covered index record there).imp_right fun covered byte within => ?_
    have early := (List.getElem?_eq_some_iff.mp there).1
    have fits := sound.fits
    exact holds _ _ (by omega) (covered byte within)
  · rw [appending, unverified]
    exact sound.late
  · rw [appending, size]
    exact sound.waiting
  · rw [appending, offset]
    exact sound.reread
  · intro record within
    rw [acknowledged] at within
    exact (sound.kept record within).imp_right fun inFile => absurd inFile.1 before
  · intro returned
    exact absurd returned behind

/-! ### The appends -/

/-- A step that touches neither flash nor file, and counts a record at most that was stored -/
theorem Sound.of_placed (sound : shared.Sound committed) {counted : List SerializedRecord}
    (placed : counted ++ (storing next.appending).toList =
      committed ++ (storing shared.appending).toList)
    (partition : next.log.partition = shared.log.partition)
    (exporting : next.exporting = shared.exporting) (file : next.file = shared.file)
    (unverified : next.unverified = shared.unverified)
    (offset : next.log.writeOffset = 192 * counted.length)
    (waiting : ∀ record offset, next.appending = .checked record offset →
      validate record = true ∧ offset + 192 ≤ shared.log.partition.size)
    (reread : ∀ record offset, next.appending = .loaded record offset →
      offset = next.log.writeOffset)
    (kept : ∀ record ∈ next.acknowledged,
      record ∈ counted ∨ (shared.exporting = .returned .ok ∧ shared.InFile record)) :
    next.Sound counted := by
  constructor
  · exact offset
  · rw [placed, partition]
    exact sound.fits
  · rw [placed]
    exact sound.valid
  · intro index record there
    rw [placed] at there
    rw [unverified]
    refine (sound.covered index record there).imp_right fun covered byte within => ?_
    have holds := covered byte within
    unfold Holds at holds ⊢
    rwa [exporting, file, partition]
  · rw [placed, unverified]
    exact sound.late
  · rw [partition]
    exact waiting
  · exact reread
  · unfold InFile
    rw [exporting, file]
    exact kept
  · rw [exporting, unverified]
    exact sound.settled

theorem Sound.append (sound : shared.Sound committed) (idle : shared.appending = .idle)
    (record : SerializedRecord) : (shared.append record).Sound committed := by
  unfold SharedFlash.append
  split
  · exact sound
  · split
    · exact sound
    · rename_i valid
      split
      · exact sound
      · rename_i room
        apply sound.of_placed
        · rw [idle]
          rfl
        · rfl
        · rfl
        · rfl
        · rfl
        · exact sound.offset
        · intro other offset checks
          obtain ⟨rfl, rfl⟩ := Appending.checked.inj checks
          have size : kSerializedRecordBytes = 192 := rfl
          exact ⟨by simpa using valid, by omega⟩
        · intro other offset loads
          cases loads
        · exact sound.kept

/-- A write behind the end of the log leaves what is before it. -/
theorem Holds.write {offset address : ℕ} {byte : UInt8} {record : SerializedRecord}
    (holds : shared.Holds address byte) (before : address < offset)
    (exporting : next.exporting = shared.exporting) (file : next.file = shared.file)
    (partition : next.log.partition = shared.log.partition.write offset record.toList) :
    next.Holds address byte := by
  unfold Holds at holds ⊢
  rw [exporting, file, partition]
  unfold FlashPartition.write
  dsimp only
  rwa [if_neg (Nat.not_le.mpr before)]

/-- A block that has not been verified is followed by none that has. -/
theorem hasVerified_of_le {exporting : Exporting} {first second : ℕ} (order : first ≤ second)
    (later : exporting.hasVerified second = true) : exporting.hasVerified first = true := by
  cases exporting with
  | idle | copying | returned => cases later
  | erasing sector => rfl
  | verifying block =>
      simp only [Exporting.hasVerified, decide_eq_true_eq] at later ⊢
      omega

theorem Sound.store (sound : shared.Sound committed) {record : SerializedRecord} {offset : ℕ}
    (checks : shared.appending = .checked record offset)
    (current : offset = shared.log.writeOffset) : (shared.appendStep .ok).Sound committed := by
  obtain ⟨valid, room⟩ := sound.waiting record offset checks
  have none : storing shared.appending = none := by rw [checks]; rfl
  have before := sound.covered
  have ending := sound.offset
  have known := sound.late
  rw [none, Option.toList_none, List.append_nil] at before known
  unfold appendStep
  rw [checks]
  dsimp only
  rw [if_pos rfl]
  constructor
  · exact ending
  · show 192 * (committed ++ [record]).length ≤ shared.log.partition.size
    rw [List.length_append, List.length_singleton]
    omega
  · intro other within
    rcases List.mem_append.mp within with earlier | new
    · exact sound.valid other (List.mem_append_left _ earlier)
    · rwa [List.mem_singleton.mp new]
  · intro index other there
    dsimp only [storing, Option.toList_some] at there ⊢
    by_cases early : index < committed.length
    · rw [List.getElem?_append_left early] at there
      rcases before index other there with late | covered
      · left
        split
        · exact List.mem_cons_of_mem _ late
        · exact late
      · right
        intro byte within
        exact Holds.write (covered byte within) (by omega) rfl rfl rfl
    · have last : index = committed.length := by
        have bound := (List.getElem?_eq_some_iff.mp there).1
        rw [List.length_append, List.length_singleton] at bound
        omega
      have start : offset = 192 * index := by omega
      rw [last, List.getElem?_concat_length] at there
      obtain rfl := Option.some.inj there
      by_cases verified : shared.exporting.hasVerified (offset / scanBufferBytes) = true
      · left
        rw [if_pos verified, start]
        exact List.mem_cons_self
      · right
        intro byte within
        unfold Holds
        rw [if_neg]
        · dsimp only [FlashPartition.write]
          rw [← start, if_pos (Nat.le_add_right _ _), Nat.add_sub_cancel_left,
            List.getD_eq_getElem _ _ (by simpa using within), Vector.getElem_toList]
        · intro later
          exact verified (hasVerified_of_le (Nat.div_le_div_right (by omega)) later)
  · intro entry within
    dsimp only [storing, Option.toList_some] at within ⊢
    have grown : entry ∈ shared.unverified → ∃ index,
        (committed ++ [record])[index]? = some entry.2 ∧ entry.1 = 192 * index := by
      intro earlier
      obtain ⟨index, there, place⟩ := known entry earlier
      have early := (List.getElem?_eq_some_iff.mp there).1
      exact ⟨index, (List.getElem?_append_left early).trans there, place⟩
    split at within
    · rcases List.mem_cons.mp within with rfl | earlier
      · exact ⟨committed.length, List.getElem?_concat_length, by dsimp only; omega⟩
      · exact grown earlier
    · exact grown within
  · intro other later waits
    cases waits
  · intro other later loads
    cases loads
  · exact sound.kept
  · intro returned
    dsimp only at returned ⊢
    rw [returned, sound.settled returned]
    rfl

/-- A step of the task that appends keeps the log sound, when it stores where the log ends. -/
theorem Sound.appendStep {writes : EspErr} (sound : shared.Sound committed)
    (alone : shared.undisturbed (.appending writes)) :
    ∃ committed, (shared.appendStep writes).Sound committed := by
  cases stands : shared.appending with
  | idle =>
      refine ⟨committed, ?_⟩
      unfold SharedFlash.appendStep
      rwa [stands]
  | checked record offset =>
      unfold undisturbed at alone
      rw [stands] at alone
      refine ⟨committed, ?_⟩
      by_cases written : writes = .ok
      · rw [written]
        exact sound.store stands (alone written)
      · unfold SharedFlash.appendStep
        rw [stands]
        dsimp only
        rw [if_neg written]
        apply sound.of_placed
        · rw [stands]
          rfl
        · rfl
        · rfl
        · rfl
        · rfl
        · exact sound.offset
        · intro other later waits
          cases waits
        · intro other later loads
          cases loads
        · exact sound.kept
  | stored record =>
      refine ⟨committed, ?_⟩
      unfold SharedFlash.appendStep
      rw [stands]
      apply sound.of_placed
      · rw [stands]
        rfl
      · rfl
      · rfl
      · rfl
      · rfl
      · exact sound.offset
      · intro other later waits
        cases waits
      · intro other later loads
        exact (Appending.loaded.inj loads).2.symm
      · exact sound.kept
  | loaded record offset =>
      -- the record that was being stored now counts
      have current := sound.reread record offset stands
      have ending := sound.offset
      refine ⟨committed ++ [record], ?_⟩
      unfold SharedFlash.appendStep
      rw [stands]
      apply sound.of_placed
      · rw [stands]
        exact List.append_nil _
      · rfl
      · rfl
      · rfl
      · rfl
      · show offset + 192 = _
        rw [List.length_append, List.length_singleton]
        omega
      · intro other later waits
        cases waits
      · intro other later loads
        cases loads
      · intro other within
        rcases List.mem_append.mp within with earlier | new
        · exact (sound.kept other earlier).imp_left (List.mem_append_left _)
        · exact .inl (List.mem_append_right _ new)

/-! ### The export -/

/-- A verified block stands in the file as it stands in the partition. -/
theorem getElem?_of_verifyBlock {log : InternalFlashLog} {answers : ExportAnswers}
    {file readBack back : List UInt8} {block address : ℕ}
    (verified : log.verifyBlock answers file readBack block = .ok back)
    (within : address / scanBufferBytes = block) (early : address < log.partition.size) :
    file[address]? = some (log.partition.bytes address) := by
  have same := (InternalFlashLog.verifyBlock_eq verified).1
  obtain ⟨index, rfl⟩ : ∃ index, address = exportBufferBytes * block + index :=
    ⟨address - exportBufferBytes * block, by
      unfold scanBufferBytes at within
      unfold exportBufferBytes
      omega⟩
  have inside : index < log.partition.requested block := by
    unfold FlashPartition.requested exportBufferBytes at *
    unfold scanBufferBytes at within
    omega
  have there := congrArg (fun bytes => bytes[index]?) same
  rw [List.getElem?_take_of_lt inside, List.getElem?_drop] at there
  rw [there]
  simp [FlashPartition.read, inside]

theorem hasVerified_verifying (next block : ℕ) :
    (Exporting.verifying next).hasVerified block = decide (block < next) := rfl

/-- While the export copies, verifies and erases, every byte stays in its place. -/
theorem Sound.exportStep_holds (sound : shared.Sound committed) (answers : ExportAnswers)
    (before : shared.exporting ≠ .returned .ok) (running : ¬ shared.Resetting) :
    (shared.exportStep answers).Steady := by
  have fails : ∀ (flash : SharedFlash) {result : EspErr}, result ≠ .ok →
      (flash.returns result).Steady := by
    intro flash result failed
    exact .inl ⟨result, failed, rfl⟩
  have keeps : ∀ next : SharedFlash, next.appending = shared.appending →
      next.acknowledged = shared.acknowledged → next.unverified = shared.unverified →
      next.log.writeOffset = shared.log.writeOffset →
      next.log.partition.size = shared.log.partition.size → next.exporting ≠ .returned .ok →
      (∀ address byte, address < shared.log.partition.size → shared.Holds address byte →
        next.Holds address byte) → next.Steady := by
    intro next appending acknowledged unverified offset size behind holds
    exact .inr ⟨committed, sound.of_holds appending acknowledged unverified offset size before
      behind holds⟩
  unfold exportStep
  cases stands : shared.exporting with
  | idle =>
      dsimp only
      split
      · exact fails _ (by decide)
      · split
        · exact fails _ (by decide)
        · split
          · exact fails _ (by decide)
          · refine keeps _ rfl rfl rfl rfl rfl (by simp) fun address byte _ holds => ?_
            unfold Holds at holds ⊢
            rwa [stands] at holds
  | copying block =>
      dsimp only
      split
      · split
        · rename_i error failed
          exact fails _ (InternalFlashLog.copyBlock_ne_ok failed)
        · refine keeps _ rfl rfl rfl rfl rfl (by simp) fun address byte _ holds => ?_
          unfold Holds at holds ⊢
          rwa [stands] at holds
      · split
        · rename_i error failed
          exact fails _ (InternalFlashLog.checkFile_ne_ok failed)
        · refine keeps _ rfl rfl rfl rfl rfl (by simp) fun address byte _ holds => ?_
          unfold Holds at holds ⊢
          rw [stands] at holds
          exact holds
  | verifying block =>
      dsimp only
      split
      · split
        · rename_i error failed
          exact fails _ (InternalFlashLog.verifyBlock_ne_ok failed)
        · rename_i verified
          refine keeps _ rfl rfl rfl rfl rfl (by simp) fun address byte early holds => ?_
          unfold Holds at holds ⊢
          rw [stands] at holds
          by_cases this : address / scanBufferBytes = block
          · rw [hasVerified_verifying, if_neg (by simp [this])] at holds
            dsimp only
            rw [hasVerified_verifying, if_pos (by simp [this]), ← holds]
            exact getElem?_of_verifyBlock verified this early
          · dsimp only
            rw [hasVerified_verifying] at holds ⊢
            have same : address / scanBufferBytes < block + 1 ↔
                address / scanBufferBytes < block := by omega
            simpa only [same] using holds
      · split
        · exact fails _ (by decide)
        · rename_i last _
          refine keeps _ rfl rfl rfl rfl rfl (by simp) fun address byte early holds => ?_
          unfold Holds at holds ⊢
          rw [stands, hasVerified_verifying, if_pos] at holds
          · exact holds
          · unfold exportBufferBytes at last
            unfold scanBufferBytes
            simp only [decide_eq_true_eq]
            omega
  | erasing sector =>
      have more : exportBufferBytes * sector < shared.log.partition.size := by
        unfold Resetting at running
        rw [stands] at running
        exact Nat.not_le.mp running
      dsimp only
      rw [if_pos more]
      split
      · refine keeps _ rfl rfl rfl rfl rfl (by simp) fun address byte _ holds => ?_
        unfold Holds at holds ⊢
        rwa [stands] at holds
      · rename_i failed
        exact fails _ failed
  | returned result =>
      exact .inr ⟨committed, sound⟩

/-- Once all blocks are verified, a covered record is in the file. -/
theorem Covered.inFile {offset : ℕ} {record : SerializedRecord} {sector : ℕ}
    (covered : shared.Covered offset record) (stands : shared.exporting = .erasing sector) :
    shared.InFile record := by
  refine ⟨offset, List.ext_getElem? fun index => ?_⟩
  by_cases within : index < 192
  · have there := covered index within
    unfold Holds at there
    rw [stands, if_pos (by rfl)] at there
    rw [List.getElem?_take_of_lt within, List.getElem?_drop, there]
    simp [within]
  · rw [List.getElem?_eq_none (by simp; omega), List.getElem?_eq_none (by simp; omega)]

theorem byte_of_read {partition : FlashPartition} {record : SerializedRecord}
    (read : partition.read 0 192 = record.toList) {index : ℕ} (within : index < 192) :
    partition.bytes index = record[index] := by
  have there := congrArg (fun bytes => bytes[index]?) read
  simpa [FlashPartition.read, within] using there

/-- The reset leaves an empty log, and what the log held is in the file. -/
theorem Sound.reset (sound : shared.Sound committed) (answers : ExportAnswers)
    (resetting : shared.Resetting) (alone : shared.undisturbed (.exporting answers)) :
    (shared.exportStep answers).Sound [] := by
  obtain ⟨late, underway⟩ := alone resetting
  unfold Resetting at resetting
  cases stands : shared.exporting with
  | idle | copying | verifying | returned =>
      rw [stands] at resetting
      cases resetting
  | erasing sector =>
      rw [stands] at resetting
      have offset := sound.offset
      have fits := sound.fits
      have first : ∀ record, record ∈ storing shared.appending → committed = [] ∧
          shared.log.partition.read 0 192 = record.toList := by
        intro record stores
        have stored : shared.HasStored := by
          unfold HasStored
          cases appending : shared.appending with
          | idle | checked =>
              rw [appending] at stores
              cases stores
          | stored | loaded => trivial
        obtain ⟨entry, within⟩ := List.exists_mem_of_ne_nil _ (underway stored)
        obtain ⟨start, empty, read⟩ := late entry within
        obtain ⟨index, there, place⟩ := sound.late entry within
        have none : committed = [] := List.eq_nil_of_length_eq_zero (by omega)
        obtain rfl : index = 0 := by omega
        rw [none, Option.mem_def.mp stores] at there
        obtain rfl : record = entry.2 := Option.some.inj there
        exact ⟨none, read⟩
      unfold exportStep
      rw [stands]
      dsimp only
      rw [if_neg (Nat.not_lt.mpr resetting)]
      constructor
      · rfl
      · rw [List.length_append] at fits
        rw [List.nil_append]
        exact (Nat.mul_le_mul_left 192 (Nat.le_add_left _ _)).trans fits
      · intro record within
        exact sound.valid record (List.mem_append_right _ within)
      · intro index record there
        right
        rw [List.nil_append] at there
        obtain ⟨here, stores⟩ : index = 0 ∧ storing shared.appending = some record := by
          revert there
          dsimp only [returns]
          cases storing shared.appending with
          | none => simp
          | some other => cases index <;> simp
        rw [here]
        intro byte within
        show shared.log.partition.bytes (0 + byte) = record[byte]
        rw [Nat.zero_add]
        exact byte_of_read (first record stores).2 within
      · intro entry none
        cases none
      · exact sound.waiting
      · intro record stale loads
        have current := sound.reread record stale loads
        have none := (first record (by
          show record ∈ storing shared.appending
          rw [show shared.appending = .loaded record stale from loads]
          rfl)).1
        rw [none] at offset
        exact current.trans offset
      · intro record acknowledged
        right
        refine ⟨rfl, ?_⟩
        rcases sound.kept record acknowledged with within | ⟨ended, -⟩
        · obtain ⟨index, inside, rfl⟩ := List.getElem_of_mem within
          have there : (committed ++ (storing shared.appending).toList)[index]? =
              some committed[index] := by
            rw [List.getElem?_append_left inside, List.getElem?_eq_getElem inside]
          rcases sound.covered index _ there with unverified | covered
          · obtain ⟨-, empty, -⟩ := late _ unverified
            omega
          · exact covered.inFile stands
        · rw [stands] at ended
          cases ended
      · intro _
        rfl

/-! ### Every run -/

theorem Sound.step {label : SharingStep} (sound : shared.Sound committed)
    (alone : shared.undisturbed label) : (shared.step label).Steady := by
  cases label with
  | append record =>
      unfold SharedFlash.step
      dsimp only
      split
      · rename_i idle
        exact .inr ⟨committed, sound.append idle record⟩
      · exact .inr ⟨committed, sound⟩
  | appending writes => exact .inr (sound.appendStep alone)
  | exporting answers =>
      by_cases resetting : shared.Resetting
      · exact .inr ⟨[], sound.reset answers resetting alone⟩
      · by_cases ended : shared.exporting = .returned .ok
        · have same : shared.exportStep answers = shared := by
            unfold exportStep
            rw [ended]
          refine .inr ⟨committed, ?_⟩
          show (shared.exportStep answers).Sound committed
          rwa [same]
        · exact sound.exportStep_holds answers ended resetting

/-- An export that has returned stays returned. -/
theorem step_of_returned {result : EspErr} (returned : shared.exporting = .returned result)
    (label : SharingStep) : (shared.step label).exporting = .returned result := by
  cases label with
  | append record =>
      unfold step append
      dsimp only
      repeat' split
      all_goals exact returned
  | appending writes =>
      unfold step appendStep
      dsimp only
      repeat' split
      all_goals exact returned
  | exporting answers =>
      unfold step exportStep
      rw [returned]
      exact returned

theorem Steady.step {label : SharingStep} (steady : shared.Steady)
    (alone : shared.undisturbed label) : (shared.step label).Steady := by
  rcases steady with ⟨result, failed, returned⟩ | ⟨committed, sound⟩
  · exact .inl ⟨result, failed, step_of_returned returned label⟩
  · exact sound.step alone

/-- Records that stand back to back are read back to back. -/
theorem read_eq_recordBytes {partition : FlashPartition} {records : List SerializedRecord}
    (stand : ∀ index (within : index < records.length) byte (inside : byte < 192),
      partition.bytes (192 * index + byte) = records[index][byte]) :
    partition.read 0 (192 * records.length) = recordBytes records := by
  induction records using List.reverseRecOn with
  | nil => rfl
  | append_singleton earlier record inductionHypothesis =>
      have before : partition.read 0 (192 * earlier.length) = recordBytes earlier := by
        apply inductionHypothesis
        intro index within byte inside
        have there := stand index (by rw [List.length_append]; omega) byte inside
        rw [there]
        congr 1
        exact List.getElem_append_left within
      have last : partition.read (192 * earlier.length) 192 = record.toList := by
        apply List.ext_getElem
        · simp [FlashPartition.length_read]
        · intro byte _ inside
          rw [Vector.length_toList] at inside
          have there := stand earlier.length (by simp) byte inside
          rw [List.getElem_concat_length rfl] at there
          simpa [FlashPartition.read] using there
      have whole := partition.read_append 0 (192 * earlier.length) 192
      rw [Nat.zero_add, before, last] at whole
      rw [List.length_append, List.length_singleton, Nat.mul_add, Nat.mul_one, ← whole]
      simp [recordBytes]

/-- A log that is sound behind the reset has lost nothing. -/
theorem Sound.losesNothing (sound : shared.Sound committed)
    (returned : shared.exporting = .returned .ok) : shared.LosesNothing := by
  have stand : ∀ index (within : index < committed.length) byte (inside : byte < 192),
      shared.log.partition.bytes (192 * index + byte) = committed[index][byte] := by
    intro index within byte inside
    have there : (committed ++ (storing shared.appending).toList)[index]? =
        some committed[index] := by
      rw [List.getElem?_append_left within, List.getElem?_eq_getElem within]
    rcases sound.covered index _ there with unverified | covered
    · rw [sound.settled returned] at unverified
      cases unverified
    · have holds := covered byte inside
      unfold Holds at holds
      rw [returned, if_neg (by rintro ⟨⟩)] at holds
      exact holds
  constructor
  · intro record acknowledged
    rcases sound.kept record acknowledged with within | ⟨-, inFile⟩
    · right
      obtain ⟨index, inside, rfl⟩ := List.getElem_of_mem within
      have offset := sound.offset
      refine ⟨index, by omega, Vector.ext fun byte early => ?_⟩
      rw [← stand index inside byte early]
      simp [FlashPartition.window]
    · exact .inl inFile
  · refine ⟨committed, fun record within => sound.valid record (List.mem_append_left _ within), ?_⟩
    rw [sound.offset]
    exact read_eq_recordBytes stand

/-- In every run in which the two tasks stay out of each other's way, an export that returns
`ESP_OK` has lost no record, then and at any later time. -/
theorem export_loses_nothing {labels : List SharingStep} (begins : shared.Begins)
    (alone : Run.Along step undisturbed shared labels)
    (returned : (Run.after step shared labels).exporting = .returned .ok) :
    (Run.after step shared labels).LosesNothing := by
  have steady : (Run.after step shared labels).Steady :=
    Run.invariant_after (fun _ _ steady alone => steady.step alone)
      (.inr ⟨_, begins.sound⟩) alone
  rcases steady with ⟨result, failed, ended⟩ | ⟨committed, sound⟩
  · rw [returned] at ended
    exact absurd (Exporting.returned.inj ended).symm failed
  · exact sound.losesNothing returned

/-! ### An export that meets an append -/

/-- So many steps of an export for which everything answers -/
def exportSteps (count : ℕ) : List SharingStep := List.replicate count (.exporting {})

theorem after_exportSteps_succ (shared : SharedFlash) (count : ℕ) :
    Run.after step shared (exportSteps (count + 1)) =
      (Run.after step shared (exportSteps count)).exportStep {} := by
  unfold exportSteps
  rw [List.replicate_succ', Run.after_concat]
  rfl

theorem after_exportSteps_add (shared : SharedFlash) (first second : ℕ) :
    Run.after step shared (exportSteps (first + second)) =
      Run.after step (Run.after step shared (exportSteps first)) (exportSteps second) := by
  unfold exportSteps
  rw [List.replicate_add, Run.after_append]

theorem after_copying {count : ℕ} {file : List UInt8} (stands : shared.exporting = .copying 0)
    (empty : shared.file = [])
    (within : ∀ block < count, exportBufferBytes * block < shared.log.partition.size)
    (copied : (List.range count).foldlM (shared.log.copyBlock {}) [] = .ok file) :
    Run.after step shared (exportSteps count) =
      { shared with exporting := .copying count, file } := by
  induction count generalizing file with
  | zero =>
      obtain rfl := Except.ok.inj copied
      rw [← stands, ← empty]
      rfl
  | succ count inductionHypothesis =>
      cases before : (List.range count).foldlM (shared.log.copyBlock {}) [] with
      | error error =>
          rw [List.range_succ, List.foldlM_append, before] at copied
          cases copied
      | ok earlier =>
          rw [foldlM_range_succ before] at copied
          rw [after_exportSteps_succ, inductionHypothesis
            (fun block early => within block (Nat.lt_succ_of_lt early)) before]
          unfold exportStep
          dsimp only
          rw [if_pos (within count (Nat.lt_succ_self count)), copied]

/-- What has been read back does not matter to the next block. -/
theorem verifyBlock_forget {log : InternalFlashLog} {answers : ExportAnswers}
    {file readBack back : List UInt8} {block : ℕ}
    (verified : log.verifyBlock answers file readBack block = .ok back) :
    ∃ alone, log.verifyBlock answers file [] block = .ok alone := by
  revert verified
  unfold InternalFlashLog.verifyBlock
  dsimp only
  repeat' split
  all_goals simp

theorem after_verifying {count : ℕ} {back : List UInt8} (stands : shared.exporting = .verifying 0)
    (within : ∀ block < count, exportBufferBytes * block < shared.log.partition.size)
    (verified : (List.range count).foldlM (shared.log.verifyBlock {} shared.file) [] = .ok back) :
    Run.after step shared (exportSteps count) = { shared with exporting := .verifying count } := by
  induction count generalizing back with
  | zero =>
      rw [← stands]
      rfl
  | succ count inductionHypothesis =>
      cases before : (List.range count).foldlM (shared.log.verifyBlock {} shared.file) [] with
      | error error =>
          rw [List.range_succ, List.foldlM_append, before] at verified
          cases verified
      | ok earlier =>
          rw [foldlM_range_succ before] at verified
          obtain ⟨alone, verifies⟩ := verifyBlock_forget verified
          rw [after_exportSteps_succ, inductionHypothesis
            (fun block early => within block (Nat.lt_succ_of_lt early)) before]
          unfold exportStep
          dsimp only
          rw [if_pos (within count (Nat.lt_succ_self count)), verifies]

theorem after_erasing {count : ℕ} (stands : shared.exporting = .erasing 0)
    (within : ∀ block < count, exportBufferBytes * block < shared.log.partition.size) :
    ∃ partition : FlashPartition, partition.size = shared.log.partition.size ∧
      (∀ address, address / scanBufferBytes < count → partition.bytes address = 0xFF) ∧
      Run.after step shared (exportSteps count) =
        { shared with log := { shared.log with partition }, exporting := .erasing count } := by
  induction count with
  | zero => exact ⟨shared.log.partition, rfl, by simp, by rw [← stands]; rfl⟩
  | succ count inductionHypothesis =>
      obtain ⟨partition, size, erased, before⟩ := inductionHypothesis fun block early =>
        within block (Nat.lt_succ_of_lt early)
      refine ⟨partition.eraseSector count fun _ => 0xFF, size, ?_, ?_⟩
      · intro address early
        unfold FlashPartition.eraseSector
        dsimp only
        split
        · rfl
        · exact erased address (by omega)
      · rw [after_exportSteps_succ, before]
        unfold exportStep
        dsimp only
        rw [if_pos (by rw [size]; exact within count (Nat.lt_succ_self count)), if_pos rfl]

/-- The blocks of a partition as a number -/
def blockCount (partition : FlashPartition) : ℕ :=
  (partition.size + (scanBufferBytes - 1)) / scanBufferBytes

theorem lt_size_of_lt_blockCount {partition : FlashPartition} {block : ℕ}
    (early : block < blockCount partition) : exportBufferBytes * block < partition.size := by
  unfold blockCount scanBufferBytes at early
  unfold exportBufferBytes
  omega

/-- From its beginning to the erase, when nothing comes in between -/
theorem after_exportSteps_erasing (idle : shared.exporting = .idle)
    (located : shared.log.located = true) (some : 0 < shared.log.partition.size)
    (told : shared.log.partition.size < 2 ^ 31) :
    Run.after step shared
        (exportSteps (1 + blockCount shared.log.partition + 1 +
          blockCount shared.log.partition + 1)) =
      { shared with exporting := .erasing 0, file := shared.log.partition.content } := by
  have within : ∀ block < blockCount shared.log.partition,
      exportBufferBytes * block < shared.log.partition.size :=
    fun _ early => lt_size_of_lt_blockCount early
  have behind : ¬ exportBufferBytes * blockCount shared.log.partition <
      shared.log.partition.size := by
    unfold blockCount exportBufferBytes scanBufferBytes
    omega
  have copied := InternalFlashLog.foldlM_copyBlock located within
  have verified := InternalFlashLog.foldlM_verifyBlock_content located within
  have last : shared.log.partition.through (blockCount shared.log.partition) =
      shared.log.partition.size := shared.log.partition.through_last
  rw [last] at copied verified
  have begun : Run.after step shared (exportSteps 1) =
      { shared with exporting := .copying 0, file := [] } := by
    show shared.exportStep {} = _
    unfold exportStep
    rw [idle]
    simp [located, Nat.ne_of_gt some]
  have full : Run.after step shared (exportSteps (1 + blockCount shared.log.partition + 1)) =
      { shared with exporting := .verifying 0, file := shared.log.partition.content } := by
    have copies := @after_copying { shared with exporting := .copying 0, file := [] } _ _ rfl rfl
      within copied
    rw [after_exportSteps_succ, after_exportSteps_add, begun, copies]
    unfold exportStep
    dsimp only
    rw [if_neg behind, show shared.log.partition.read 0 shared.log.partition.size =
      shared.log.partition.content from rfl, InternalFlashLog.checkFile_content told]
  have verifies := @after_verifying
    { shared with exporting := .verifying 0, file := shared.log.partition.content } _ _ rfl
    within verified
  rw [after_exportSteps_succ, after_exportSteps_add, full, verifies]
  unfold exportStep
  dsimp only
  rw [if_neg behind]
  rfl

/-- From the erase to its end, when nothing comes in between -/
theorem after_exportSteps_returned (stands : shared.exporting = .erasing 0) :
    ∃ partition : FlashPartition, partition.size = shared.log.partition.size ∧
      (∀ address < shared.log.partition.size, partition.bytes address = 0xFF) ∧
      Run.after step shared (exportSteps (blockCount shared.log.partition + 1)) =
        { shared with
          log := { shared.log with partition, writeOffset := 0, hasData := false }
          exporting := .returned .ok
          unverified := [] } := by
  obtain ⟨partition, size, erased, before⟩ := after_erasing stands
    fun block (early : block < blockCount shared.log.partition) => lt_size_of_lt_blockCount early
  have behind : ¬ exportBufferBytes * blockCount shared.log.partition < partition.size := by
    rw [size]
    unfold blockCount exportBufferBytes scanBufferBytes
    omega
  refine ⟨partition, size, fun address early => erased address ?_, ?_⟩
  · unfold blockCount scanBufferBytes
    omega
  · rw [after_exportSteps_succ, before]
    unfold exportStep
    dsimp only
    rw [if_neg behind]
    rfl

/-- An empty log on a partition of 2 MiB -/
def empty : SharedFlash where
  log := { partition := ⟨2 * 1024 * 1024, by decide, fun _ => 0xFF⟩, located := true }

theorem begins_empty : empty.Begins where
  idle := ⟨rfl, rfl, rfl⟩
  offset := rfl
  fits := Nat.zero_le _
  valid := nofun
  holds := nofun

/-- One append from its call to its return -/
def appendSteps : List SharingStep :=
  [.append emptyRecord, .appending .ok, .appending .ok, .appending .ok]

/-- The append comes between the verification and the erase. -/
def appendBeforeErase : List SharingStep :=
  exportSteps (1 + 512 + 1 + 512 + 1) ++ appendSteps ++ exportSteps (512 + 1)

/-- The append has stored its record before the export, and advances the offset behind it. -/
def appendAcrossExport : List SharingStep :=
  appendSteps.take 3 ++ exportSteps (1 + 512 + 1 + 512 + 1) ++ exportSteps (512 + 1) ++
    appendSteps.drop 3

theorem mem_content_empty {byte : UInt8} (within : byte ∈ empty.log.partition.content) :
    byte = 0xFF := by
  simp only [FlashPartition.content, FlashPartition.read, List.mem_map] at within
  obtain ⟨-, -, rfl⟩ := within
  rfl

theorem append_of_valid {record : SerializedRecord} (located : shared.log.located = true)
    (valid : validate record = true)
    (room : shared.log.writeOffset + 192 ≤ shared.log.partition.size) :
    shared.append record = { shared with appending := .checked record shared.log.writeOffset } := by
  have size : kSerializedRecordBytes = 192 := rfl
  unfold append
  rw [located, valid, if_neg (by decide), if_neg (by decide), if_neg (by omega)]

/-- The steps of an append up to the read of the offset that it advances -/
theorem after_append_loaded (idle : shared.appending = .idle) (located : shared.log.located = true)
    (room : shared.log.writeOffset + 192 ≤ shared.log.partition.size) :
    Run.after step shared [.append emptyRecord, .appending .ok, .appending .ok] =
      { shared with
        log := { shared.log with
          partition := shared.log.partition.write shared.log.writeOffset emptyRecord.toList }
        appending := .loaded emptyRecord shared.log.writeOffset
        unverified := if shared.exporting.hasVerified (shared.log.writeOffset / scanBufferBytes) then
          (shared.log.writeOffset, emptyRecord) :: shared.unverified else shared.unverified } := by
  have called := append_of_valid located validate_emptyRecord room
  simp only [Run.after_cons, Run.after_nil, step]
  rw [if_pos idle, called]
  rfl

/-- The export of a log up to the erase -/
theorem after_export_erasing (idle : shared.exporting = .idle) (located : shared.log.located = true)
    (size : shared.log.partition.size = 2 * 1024 * 1024) :
    Run.after step shared (exportSteps (1 + 512 + 1 + 512 + 1)) =
      { shared with exporting := .erasing 0, file := shared.log.partition.content } := by
  have blocks : blockCount shared.log.partition = 512 := by
    unfold blockCount
    rw [size]
    decide
  have exported := after_exportSteps_erasing idle located (by omega) (by omega)
  rwa [blocks] at exported

/-- The export of a log from there to its end -/
theorem after_export_returned (stands : shared.exporting = .erasing 0)
    (size : shared.log.partition.size = 2 * 1024 * 1024) :
    ∃ partition : FlashPartition,
      (∀ address < 2 * 1024 * 1024, partition.bytes address = 0xFF) ∧
      Run.after step shared (exportSteps (512 + 1)) =
        { shared with
          log := { shared.log with partition, writeOffset := 0, hasData := false }
          exporting := .returned .ok
          unverified := [] } := by
  have blocks : blockCount shared.log.partition = 512 := by
    unfold blockCount
    rw [size]
    decide
  obtain ⟨partition, -, erased, run⟩ := after_exportSteps_returned stands
  rw [size] at erased
  rw [blocks] at run
  exact ⟨partition, erased, run⟩

/-- The export alone disturbs nothing. -/
theorem along_exportSteps (count : ℕ) (idle : shared.appending = .idle)
    (none : shared.unverified = []) :
    Run.Along step undisturbed shared (exportSteps count) := by
  induction count generalizing shared with
  | zero => trivial
  | succ count inductionHypothesis =>
      have quiet : ¬ shared.HasStored := by
        unfold HasStored
        rw [idle]
        exact id
      refine ⟨fun _ => ⟨by simp [none], fun stored => absurd stored quiet⟩, ?_⟩
      have kept : (shared.exportStep {}).appending = .idle ∧
          (shared.exportStep {}).unverified = [] := by
        unfold exportStep
        dsimp only
        repeat' split
        all_goals first
          | exact ⟨idle, none⟩
          | exact ⟨idle, rfl⟩
      exact inductionHypothesis kept.1 kept.2

/-- A log with one record on a partition of 2 MiB -/
def holdsOne : SharedFlash where
  log :=
    { partition := empty.log.partition.write 0 emptyRecord.toList
      located := true
      writeOffset := 192
      hasData := true }
  acknowledged := [emptyRecord]

theorem begins_holdsOne : holdsOne.Begins where
  idle := ⟨rfl, rfl, rfl⟩
  offset := rfl
  fits := by decide
  valid := by
    intro record within
    rw [List.mem_singleton.mp within]
    exact validate_emptyRecord
  holds := by
    intro index within
    obtain rfl : index = 0 := Nat.lt_one_iff.mp within
    apply Vector.ext
    intro byte inside
    simp [holdsOne, FlashPartition.window, FlashPartition.write]

/-- An export that nothing disturbs loses nothing. -/
theorem export_loses_nothing_holdsOne :
    (Run.after step holdsOne
      (exportSteps (1 + 512 + 1 + 512 + 1) ++ exportSteps (512 + 1))).LosesNothing := by
  have verified := @after_export_erasing holdsOne rfl rfl rfl
  obtain ⟨partition, -, ended⟩ := @after_export_returned
    { holdsOne with exporting := .erasing 0, file := holdsOne.log.partition.content } rfl rfl
  apply export_loses_nothing begins_holdsOne
  · rw [Run.along_append, verified]
    exact ⟨along_exportSteps _ rfl rfl, along_exportSteps _ rfl rfl⟩
  · rw [Run.after_append, verified, ended]

theorem after_appendBeforeErase (appends : shared.appending = .idle)
    (exports : shared.exporting = .idle) (located : shared.log.located = true)
    (room : shared.log.writeOffset + 192 ≤ shared.log.partition.size)
    (size : shared.log.partition.size = 2 * 1024 * 1024) :
    ∃ partition : FlashPartition, Run.after step shared appendBeforeErase =
      { shared with
        log := { shared.log with partition, writeOffset := 0, hasData := false }
        appending := .idle
        exporting := .returned .ok
        file := shared.log.partition.content
        acknowledged := shared.acknowledged ++ [emptyRecord]
        unverified := [] } := by
  have verified := after_export_erasing exports located size
  have loaded := @after_append_loaded
    { shared with exporting := .erasing 0, file := shared.log.partition.content } appends located room
  have split : appendSteps = [.append emptyRecord, .appending .ok, .appending .ok] ++
    [.appending .ok] := rfl
  obtain ⟨partition, -, ended⟩ := @after_export_returned
    { shared with
      log := { shared.log with
        partition := shared.log.partition.write shared.log.writeOffset emptyRecord.toList
        writeOffset := shared.log.writeOffset + 192
        hasData := true }
      appending := .idle
      exporting := .erasing 0
      file := shared.log.partition.content
      acknowledged := shared.acknowledged ++ [emptyRecord]
      unverified := (shared.log.writeOffset, emptyRecord) :: shared.unverified } rfl size
  refine ⟨partition, ?_⟩
  unfold appendBeforeErase
  rw [Run.after_append, Run.after_append, verified, split, Run.after_append, loaded]
  exact ended

theorem after_appendAcrossExport (appends : shared.appending = .idle)
    (exports : shared.exporting = .idle) (located : shared.log.located = true)
    (room : shared.log.writeOffset + 192 ≤ shared.log.partition.size)
    (size : shared.log.partition.size = 2 * 1024 * 1024) :
    ∃ (partition : FlashPartition) (file : List UInt8),
      (∀ address < 2 * 1024 * 1024, partition.bytes address = 0xFF) ∧
      Run.after step shared appendAcrossExport =
        { shared with
          log := { shared.log with
            partition
            writeOffset := shared.log.writeOffset + 192
            hasData := true }
          appending := .idle
          exporting := .returned .ok
          file
          acknowledged := shared.acknowledged ++ [emptyRecord]
          unverified := [] } := by
  have loaded := after_append_loaded appends located room
  have first : appendSteps.take 3 = [.append emptyRecord, .appending .ok, .appending .ok] := rfl
  have second : appendSteps.drop 3 = [.appending .ok] := rfl
  rw [exports, if_neg (by rintro ⟨⟩)] at loaded
  have verified := @after_export_erasing
    { shared with
      log := { shared.log with
        partition := shared.log.partition.write shared.log.writeOffset emptyRecord.toList }
      appending := .loaded emptyRecord shared.log.writeOffset
      exporting := .idle } rfl located size
  obtain ⟨partition, erased, ended⟩ := @after_export_returned
    { shared with
      log := { shared.log with
        partition := shared.log.partition.write shared.log.writeOffset emptyRecord.toList }
      appending := .loaded emptyRecord shared.log.writeOffset
      exporting := .erasing 0
      file := (shared.log.partition.write shared.log.writeOffset emptyRecord.toList).content } rfl size
  refine ⟨partition, (shared.log.partition.write shared.log.writeOffset emptyRecord.toList).content,
    erased, ?_⟩
  unfold appendAcrossExport
  rw [Run.after_append, Run.after_append, Run.after_append, first, second, loaded]
  dsimp only at verified ended ⊢
  rw [verified, ended]
  rfl

/-- Of two appends that meet an export, one loses its record, and the other leaves an offset
below which the log holds no record. -/
theorem export_loses_record :
    empty.Begins ∧
      ((Run.after step empty appendBeforeErase).exporting = .returned .ok ∧
        emptyRecord ∈ (Run.after step empty appendBeforeErase).acknowledged ∧
        ¬ (Run.after step empty appendBeforeErase).InFile emptyRecord ∧
        ¬ (Run.after step empty appendBeforeErase).InLog emptyRecord) ∧
      (Run.after step empty appendAcrossExport).exporting = .returned .ok ∧
        ¬ ∃ records : List SerializedRecord, (∀ record ∈ records, validate record = true) ∧
          (Run.after step empty appendAcrossExport).log.partition.read 0
            (Run.after step empty appendAcrossExport).log.writeOffset = recordBytes records := by
  have room : empty.log.writeOffset + 192 ≤ empty.log.partition.size := by decide
  have erasedBytes : ∀ byte ∈ empty.log.partition.content, byte = 0xFF := fun _ => mem_content_empty
  obtain ⟨lost, late⟩ := @after_appendBeforeErase empty rfl rfl rfl room rfl
  obtain ⟨left, file, erased, across⟩ := @after_appendAcrossExport empty rfl rfl rfl room rfl
  refine ⟨begins_empty, ?_, ?_⟩
  · rw [late]
    refine ⟨rfl, List.mem_append_right _ (List.mem_singleton_self _), ?_, ?_⟩
    · unfold InFile
      dsimp only
      generalize empty.log.partition.content = file at erasedBytes
      intro ⟨position, stands⟩
      have first : (0x39 : UInt8) ∈ emptyRecord.toList := by decide +kernel
      rw [← stands] at first
      exact absurd (erasedBytes _ (List.mem_of_mem_drop (List.mem_of_mem_take first))) (by decide)
    · intro ⟨index, within, _⟩
      exact absurd within (by simp)
  · rw [across]
    refine ⟨rfl, ?_⟩
    intro ⟨records, valid, read⟩
    dsimp only at read
    cases records with
    | nil =>
        have length := congrArg List.length read
        simp [FlashPartition.length_read, recordBytes, empty] at length
    | cons record rest =>
        have byte := congrArg (fun bytes => bytes[0]?) read
        have head := first_of_validate (valid record List.mem_cons_self)
        have whole : recordBytes (record :: rest) = record.toList ++ recordBytes rest := rfl
        rw [whole, List.getElem?_append_left (by simp)] at byte
        simp [FlashPartition.read, empty, erased 0 (by decide), head] at byte

end SharedFlash

end MissionBoard.Storage
