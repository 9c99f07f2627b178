import Mathlib.Control.Basic
import MissionBoard.Storage.InternalFlashLog
import MissionBoard.Storage.SdFlightLog

/-!
Owns `exportRawFlashAndErase` of `runtime/flight_storage.cpp`: the partition copied to a file,
the file read back and compared, and the partition erased behind it.

What the card and the partition answer is an argument, block by block. A write may store
anything, whatever it reports; a read that gives all it was asked for gives what the file
holds. `long` has 32 bits on the target, and `ftell` fails behind that.
-/

namespace MissionBoard.Storage

/-- The size of `flash_bytes` and `sd_bytes` -/
abbrev exportBufferBytes : ℕ := 4096

/-- What the calls of an export answer -/
structure ExportAnswers where
  mounted : Bool := true
  writable : Bool := false
  flushes : Bool := true
  opens : Bool := true
  copyReads : ℕ → EspErr := fun _ => .ok
  writes : ℕ → List UInt8 → ℕ × List UInt8 := fun _ bytes => (bytes.length, bytes)
  fileFlushes : Bool := true
  syncs : Bool := true
  seeksEnd : Bool := true
  tells : Bool := true
  rewinds : Bool := true
  fileReads : ℕ → Bool := fun _ => true
  verifyReads : ℕ → EspErr := fun _ => .ok
  closes : Bool := true
  erases : EspErr := .ok
  torn : ℕ → UInt8 := fun _ => 0xFF

/-- What an export leaves behind -/
structure RawExport where
  result : EspErr
  log : InternalFlashLog
  file : List UInt8 := []
  readBack : List UInt8 := []
  closed : Bool := false
  eraseStarted : Bool := false

namespace FlashPartition

/-- The bytes that the export asks for in a block -/
def requested (partition : FlashPartition) (block : ℕ) : ℕ :=
  min exportBufferBytes (partition.size - exportBufferBytes * block)

/-- All its bytes -/
def content (partition : FlashPartition) : List UInt8 := partition.read 0 partition.size

end FlashPartition

namespace InternalFlashLog

/-- `readRaw` -/
def readRaw (log : InternalFlashLog) (offset requested : ℕ) (reads : EspErr) :
    Except EspErr (List UInt8) :=
  if !log.located then .error .invalidState
  else if requested = 0 ∨ log.partition.size ≤ offset then .ok []
  else if reads = .ok then
    .ok (log.partition.read offset (min requested (log.partition.size - offset)))
  else .error reads

/-- One turn of the copy loop, from the file so far to the file behind it -/
def copyBlock (log : InternalFlashLog) (answers : ExportAnswers) (file : List UInt8) (block : ℕ) :
    Except EspErr (List UInt8) :=
  let requested := log.partition.requested block
  match log.readRaw (exportBufferBytes * block) requested (answers.copyReads block) with
  | .error error => .error error
  | .ok bytes =>
      if bytes.length ≠ requested then .error .fail
      else if (answers.writes block bytes).1 ≠ bytes.length then .error .fail
      else .ok (file ++ (answers.writes block bytes).2)

/-- `fread` of a block -/
def readFile (file : List UInt8) (offset requested : ℕ) (reads : Bool) : List UInt8 :=
  if reads then (file.drop offset).take requested else []

/-- One turn of the verify loop, with what has been read back -/
def verifyBlock (log : InternalFlashLog) (answers : ExportAnswers) (file readBack : List UInt8)
    (block : ℕ) : Except EspErr (List UInt8) :=
  let offset := exportBufferBytes * block
  let requested := log.partition.requested block
  let stored := readFile file offset requested (answers.fileReads block)
  if stored.length ≠ requested then .error .fail
  else
    match log.readRaw offset requested (answers.verifyReads block) with
    | .error error => .error error
    | .ok bytes =>
        if bytes.length ≠ requested then .error .fail
        else if stored ≠ bytes then .error .invalidCrc
        else .ok (readBack ++ stored)

/-- `ftell` at the end of the file -/
def tellEnd (file : List UInt8) (answers : ExportAnswers) : Option ℕ :=
  if answers.tells ∧ file.length < 2 ^ 31 then some file.length else none

/-- The file is on the card, and it has the size of the partition. -/
def checkFile (log : InternalFlashLog) (answers : ExportAnswers) (file : List UInt8) :
    Except EspErr Unit :=
  if !answers.fileFlushes || !answers.syncs then .error .fail
  else if !answers.seeksEnd then .error .fail
  else if tellEnd file answers ≠ some log.partition.size then .error .invalidSize
  else if !answers.rewinds then .error .fail
  else .ok ()

/-- What the export does with the file once the partition has been copied -/
def verifyFile (log : InternalFlashLog) (answers : ExportAnswers) (file : List UInt8) :
    Except EspErr (List UInt8) :=
  match log.checkFile answers file with
  | .error error => .error error
  | .ok () => log.partition.blocks.foldlM (log.verifyBlock answers file) []

/-- `exportRawFlashAndErase`. An `erase` that fails may have erased any part of the partition. -/
def exportRawFlashAndErase (log : InternalFlashLog) (answers : ExportAnswers) : RawExport :=
  if !answers.mounted || !log.located || log.partition.size == 0 then
    { result := .invalidState, log }
  else if answers.writable && !answers.flushes then { result := .fail, log }
  else if !answers.opens then { result := .fail, log }
  else
    match log.partition.blocks.foldlM (log.copyBlock answers) [] with
    | .error error => { result := error, log }
    | .ok file =>
        match log.verifyFile answers file with
        | .error error => { result := error, log, file }
        | .ok readBack =>
            if !answers.closes then { result := .fail, log, file, readBack }
            else if answers.erases = .ok then
              { result := .ok, log := (log.erase true true).2, file, readBack, closed := true,
                eraseStarted := true }
            else
              { result := answers.erases, log := { log with partition.bytes := answers.torn }, file,
                readBack, closed := true, eraseStarted := true }

end InternalFlashLog

/-- A loop over the blocks ends with its last turn. -/
theorem foldlM_range_succ {α : Type} {turn : α → ℕ → Except EspErr α} {start before : α}
    {count : ℕ} (earlier : (List.range count).foldlM turn start = .ok before) :
    (List.range (count + 1)).foldlM turn start = turn before count := by
  rw [List.range_succ, List.foldlM_append, earlier]
  exact bind_pure (turn before count)

/-! ### What has been verified -/

namespace FlashPartition

theorem length_read (partition : FlashPartition) (offset count : ℕ) :
    (partition.read offset count).length = count := by
  simp [read]

/-- Reading on where the last read ended -/
theorem read_append (partition : FlashPartition) (offset first second : ℕ) :
    partition.read offset first ++ partition.read (offset + first) second =
      partition.read offset (first + second) := by
  unfold read
  rw [List.range_add, List.map_append, List.map_map]
  congr 1
  apply List.map_congr_left
  intro index _
  simp [Nat.add_assoc]

/-- The bytes before a block -/
def through (partition : FlashPartition) (block : ℕ) : ℕ :=
  min (exportBufferBytes * block) partition.size

theorem through_succ (partition : FlashPartition) (block : ℕ) :
    partition.through (block + 1) = partition.through block + partition.requested block := by
  unfold through requested exportBufferBytes
  omega

/-- Behind the last block there is nothing. -/
theorem through_last (partition : FlashPartition) :
    partition.through ((partition.size + (scanBufferBytes - 1)) / scanBufferBytes) =
      partition.size := by
  unfold through exportBufferBytes scanBufferBytes
  omega

end FlashPartition

namespace InternalFlashLog

variable {log : InternalFlashLog} {answers : ExportAnswers} {file readBack next : List UInt8}

/-- A raw read that gives as much as was asked gives what the partition holds. -/
theorem readRaw_eq {offset requested : ℕ} {reads : EspErr} {bytes : List UInt8}
    (read : log.readRaw offset requested reads = .ok bytes) (whole : bytes.length = requested) :
    bytes = log.partition.read offset requested := by
  unfold readRaw at read
  split at read
  · cases read
  · split at read
    · obtain rfl := Except.ok.inj read
      obtain rfl : requested = 0 := whole.symm
      rfl
    · split at read
      · obtain rfl := Except.ok.inj read
        rw [FlashPartition.length_read] at whole
        rw [whole]
      · cases read

/-- A block that is verified holds in the file what it holds in the partition. -/
theorem verifyBlock_eq {block : ℕ} (verified : log.verifyBlock answers file readBack block = .ok next) :
    (file.drop (exportBufferBytes * block)).take (log.partition.requested block) =
        log.partition.read (exportBufferBytes * block) (log.partition.requested block) ∧
      next = readBack ++
        log.partition.read (exportBufferBytes * block) (log.partition.requested block) := by
  unfold verifyBlock at verified
  dsimp only at verified
  split at verified
  · cases verified
  · rename_i whole
    rw [ne_eq, not_not] at whole
    split at verified
    · cases verified
    · rename_i bytes read
      split at verified
      · cases verified
      · rename_i full
        rw [ne_eq, not_not] at full
        split at verified
        · cases verified
        · rename_i same
          rw [ne_eq, not_not] at same
          have holds := readRaw_eq read full
          obtain rfl := Except.ok.inj verified
          rw [same, holds]
          refine ⟨?_, rfl⟩
          rw [← holds, ← same]
          unfold readFile at whole ⊢
          split
          · rfl
          · rename_i silent
            rw [if_neg silent] at whole
            rw [← whole]
            rfl

/-- The blocks verified so far: as much of the file is what the partition holds, and that much
has been read back. -/
theorem foldlM_verifyBlock {count : ℕ}
    (verified : (List.range count).foldlM (log.verifyBlock answers file) [] = .ok readBack) :
    file.take (log.partition.through count) = log.partition.read 0 (log.partition.through count) ∧
      readBack = log.partition.read 0 (log.partition.through count) := by
  induction count generalizing readBack with
  | zero =>
      obtain rfl := Except.ok.inj verified
      simp [FlashPartition.through, FlashPartition.read]
  | succ count inductionHypothesis =>
      cases before : (List.range count).foldlM (log.verifyBlock answers file) [] with
      | error error =>
          rw [List.range_succ, List.foldlM_append, before] at verified
          cases verified
      | ok earlier =>
          rw [foldlM_range_succ before] at verified
          obtain ⟨inFile, earlierBytes⟩ := inductionHypothesis before
          obtain ⟨block, rfl⟩ := verifyBlock_eq verified
          have start : log.partition.requested count ≠ 0 →
              log.partition.through count = exportBufferBytes * count := by
            unfold FlashPartition.requested FlashPartition.through exportBufferBytes
            omega
          rw [FlashPartition.through_succ, List.take_add, inFile, earlierBytes,
            ← FlashPartition.read_append, Nat.zero_add]
          by_cases none : log.partition.requested count = 0
          · simp [none, FlashPartition.read]
          · rw [start none, block]
            exact ⟨rfl, rfl⟩

/-- A file that is checked has as many bytes as the partition. -/
theorem checkFile_length (checked : log.checkFile answers file = .ok ()) :
    file.length = log.partition.size := by
  unfold checkFile at checked
  split at checked
  · cases checked
  · split at checked
    · cases checked
    · split at checked
      · cases checked
      · rename_i told
        rw [ne_eq, not_not, tellEnd] at told
        split at told
        · exact Option.some.inj told
        · cases told

/-- A file that passes all the checks is the partition, byte for byte. -/
theorem verifyFile_eq (verified : log.verifyFile answers file = .ok readBack) :
    file = log.partition.content ∧ readBack = log.partition.content := by
  unfold verifyFile at verified
  split at verified
  · cases verified
  · rename_i checked
    obtain ⟨inFile, back⟩ := foldlM_verifyBlock verified
    rw [FlashPartition.through_last] at inFile back
    have size := checkFile_length checked
    rw [← size, List.take_length, size] at inFile
    exact ⟨inFile, back⟩

/-! ### What an error is not -/

theorem readRaw_ne_ok {offset requested : ℕ} {reads error : EspErr}
    (failed : log.readRaw offset requested reads = .error error) : error ≠ .ok := by
  unfold readRaw at failed
  split at failed
  · cases failed
    decide
  · split at failed
    · cases failed
    · split at failed
      · cases failed
      · rename_i silent
        obtain rfl := Except.error.inj failed
        exact silent

theorem copyBlock_ne_ok {block : ℕ} {error : EspErr}
    (failed : log.copyBlock answers file block = .error error) : error ≠ .ok := by
  unfold copyBlock at failed
  dsimp only at failed
  split at failed
  · rename_i read
    obtain rfl := Except.error.inj failed
    exact readRaw_ne_ok read
  · split at failed
    · cases failed
      decide
    · split at failed
      · cases failed
        decide
      · cases failed

theorem checkFile_ne_ok {error : EspErr} (failed : log.checkFile answers file = .error error) :
    error ≠ .ok := by
  unfold checkFile at failed
  repeat' split at failed
  all_goals
    cases failed
    try decide

theorem verifyBlock_ne_ok {block : ℕ} {error : EspErr}
    (failed : log.verifyBlock answers file readBack block = .error error) : error ≠ .ok := by
  unfold verifyBlock at failed
  dsimp only at failed
  split at failed
  · cases failed
    decide
  · split at failed
    · rename_i read
      obtain rfl := Except.error.inj failed
      exact readRaw_ne_ok read
    · split at failed
      · cases failed
        decide
      · split at failed
        · cases failed
          decide
        · cases failed

/-! ### When everything answers -/

theorem readRaw_requested {block : ℕ} (located : log.located = true)
    (within : exportBufferBytes * block < log.partition.size) :
    log.readRaw (exportBufferBytes * block) (log.partition.requested block) .ok =
      .ok (log.partition.read (exportBufferBytes * block) (log.partition.requested block)) := by
  have some : log.partition.requested block ≠ 0 := by
    unfold exportBufferBytes at within
    unfold FlashPartition.requested exportBufferBytes
    omega
  have fits : min (log.partition.requested block)
      (log.partition.size - exportBufferBytes * block) = log.partition.requested block := by
    unfold FlashPartition.requested
    omega
  unfold readRaw
  rw [located, if_neg (by decide), if_neg (by omega), if_pos rfl, fits]

theorem through_of_lt {block : ℕ} (within : exportBufferBytes * block < log.partition.size) :
    log.partition.through block = exportBufferBytes * block := by
  unfold FlashPartition.through
  omega

/-- The blocks copied so far -/
theorem foldlM_copyBlock {count : ℕ} (located : log.located = true)
    (within : ∀ block < count, exportBufferBytes * block < log.partition.size) :
    (List.range count).foldlM (log.copyBlock {}) [] =
      .ok (log.partition.read 0 (log.partition.through count)) := by
  induction count with
  | zero => rfl
  | succ count inductionHypothesis =>
      have last := within count (Nat.lt_succ_self count)
      have earlier := inductionHypothesis fun block early => within block (Nat.lt_succ_of_lt early)
      rw [foldlM_range_succ earlier]
      unfold copyBlock
      dsimp only
      rw [readRaw_requested located last]
      simp only [FlashPartition.length_read, ne_eq, not_true_eq_false, if_false]
      rw [FlashPartition.through_succ, through_of_lt last, ← FlashPartition.read_append,
        Nat.zero_add]

/-- The blocks verified so far of a file that is the partition -/
theorem foldlM_verifyBlock_content {count : ℕ} (located : log.located = true)
    (within : ∀ block < count, exportBufferBytes * block < log.partition.size) :
    (List.range count).foldlM (log.verifyBlock {} log.partition.content) [] =
      .ok (log.partition.read 0 (log.partition.through count)) := by
  induction count with
  | zero => rfl
  | succ count inductionHypothesis =>
      have last := within count (Nat.lt_succ_self count)
      have earlier := inductionHypothesis fun block early => within block (Nat.lt_succ_of_lt early)
      have block : readFile log.partition.content (exportBufferBytes * count)
          (log.partition.requested count) true =
            log.partition.read (exportBufferBytes * count) (log.partition.requested count) := by
        apply List.ext_getElem
        · simp [readFile, FlashPartition.content, FlashPartition.length_read,
            FlashPartition.requested]
        · intro index _ _
          simp [readFile, FlashPartition.content, FlashPartition.read]
      rw [foldlM_range_succ earlier]
      unfold verifyBlock
      dsimp only
      rw [block, readRaw_requested located last]
      simp only [FlashPartition.length_read, ne_eq, not_true_eq_false, if_false]
      rw [FlashPartition.through_succ, through_of_lt last, ← FlashPartition.read_append,
        Nat.zero_add]

theorem checkFile_content (told : log.partition.size < 2 ^ 31) :
    log.checkFile {} log.partition.content = .ok () := by
  have size : log.partition.content.length = log.partition.size :=
    FlashPartition.length_read _ _ _
  have endTold : tellEnd log.partition.content {} = some log.partition.size := by
    rw [tellEnd, size, if_pos ⟨rfl, told⟩]
  unfold checkFile
  rw [endTold, if_neg (by simp), if_neg (by simp), if_neg (by simp), if_neg (by simp)]

/-- When everything answers, a partition that `ftell` can tell is exported and erased. -/
theorem exportRawFlashAndErase_of_answers (located : log.located = true)
    (some : 0 < log.partition.size) (told : log.partition.size < 2 ^ 31) :
    log.exportRawFlashAndErase {} =
      { result := .ok, file := log.partition.content, readBack := log.partition.content,
        closed := true, eraseStarted := true,
        log := { log with partition := log.partition.erase, writeOffset := 0, hasData := false } } := by
  have within : ∀ block < (log.partition.size + (scanBufferBytes - 1)) / scanBufferBytes,
      exportBufferBytes * block < log.partition.size := by
    intro block early
    unfold scanBufferBytes at early
    unfold exportBufferBytes
    omega
  have copied := foldlM_copyBlock located within
  have verified := foldlM_verifyBlock_content located within
  rw [FlashPartition.through_last] at copied verified
  have passes : log.verifyFile {} log.partition.content = .ok log.partition.content := by
    unfold verifyFile
    rw [checkFile_content told]
    exact verified
  unfold exportRawFlashAndErase FlashPartition.blocks
  rw [copied]
  dsimp only
  rw [show log.partition.read 0 log.partition.size = log.partition.content from rfl, passes]
  simp [located, erase, Nat.ne_of_gt some]

/-- The erase is started only behind a file that is the partition byte for byte, that was read
back and compared, and that was closed; before that the log is left as it was. -/
theorem export_all_or_nothing (log : InternalFlashLog) (answers : ExportAnswers) :
    ((log.exportRawFlashAndErase answers).eraseStarted = true ∨
        (log.exportRawFlashAndErase answers).log ≠ log →
      (log.exportRawFlashAndErase answers).file = log.partition.content ∧
        (log.exportRawFlashAndErase answers).readBack = log.partition.content ∧
        (log.exportRawFlashAndErase answers).closed = true) ∧
    ((log.exportRawFlashAndErase answers).result ≠ .ok →
      (log.exportRawFlashAndErase answers).eraseStarted = false →
      (log.exportRawFlashAndErase answers).log = log) := by
  unfold exportRawFlashAndErase
  split
  · simp
  · split
    · simp
    · split
      · simp
      · split
        · simp
        · rename_i file copied
          split
          · simp
          · rename_i readBack verified
            obtain ⟨inFile, back⟩ := verifyFile_eq verified
            split
            · simp
            · split
              · exact ⟨fun _ => ⟨inFile, back, rfl⟩, fun failed => absurd rfl failed⟩
              · exact ⟨fun _ => ⟨inFile, back, rfl⟩, fun _ quiet => by cases quiet⟩

/-- Three bytes are copied and erased; with a card that stores one of them wrongly they stay. -/
theorem export_all_or_nothing_three :
    let log : InternalFlashLog :=
      { partition := ⟨3, by decide, fun address => if address = 1 then 7 else 0xFF⟩
        located := true, writeOffset := 192, hasData := true }
    let spoiled : ExportAnswers := { writes := fun _ bytes => (bytes.length, bytes.map (· &&& 1)) }
    (log.exportRawFlashAndErase {}).file = [0xFF, 7, 0xFF] ∧
      (log.exportRawFlashAndErase {}).log.partition.content = [0xFF, 0xFF, 0xFF] ∧
      (log.exportRawFlashAndErase spoiled).result = .invalidCrc ∧
      (log.exportRawFlashAndErase spoiled).log = log :=
  ⟨((export_all_or_nothing _ _).1 (.inl rfl)).1, by decide, by decide,
    (export_all_or_nothing _ _).2 (by decide) (by decide)⟩

end InternalFlashLog

end MissionBoard.Storage
