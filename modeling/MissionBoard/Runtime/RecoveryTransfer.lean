import MissionBoard.Library.RetryLane
import MissionBoard.Runtime.RecoveryDump
import Mathlib.Logic.Function.Basic

/-!
Owns the way of a log dump to the CAN bus: both dump tasks, `recovery_status_queue` and
`recovery_log_data_queue` between them and `canTask`, and the two blocks of `canTask`
that serve one status and then one data frame, each with its own retry slot.

A transfer is told from every other by its source and the number of the accepted start,
which the frames and the complete status carry as a ghost tag: transfer ids may repeat.
-/

namespace MissionBoard.Runtime

open Protocol

/-- The source of a transfer and the number of its start there -/
abbrev TransferTag := RecoverySource × ℕ

/-- A status message, with the transfer that it reports complete, if it does -/
structure StatusEntry where
  message : RecoveryStatusMessage
  completes : Option TransferTag := none
deriving DecidableEq

/-- A data frame with the transfer it belongs to -/
structure DataEntry where
  tag : TransferTag
  frame : RecoveryLogData
deriving DecidableEq

/-- What `canTask` has transmitted -/
inductive BusRecord where
  | status (entry : StatusEntry)
  | data (entry : DataEntry)
deriving DecidableEq

/-- One of the two dump tasks: its cursor, how many dumps it has accepted, and whether it
stands between its last data frame and the complete status. -/
structure DumpTask where
  cursor : RecoveryDumpCursor := .idle
  number : ℕ := 0
  completing : Bool := false

/-- The two tasks, the two lanes with the retry slots of `canTask`, whether its data block
comes next, the data frames put in the queue so far, and the bus. -/
structure TransferLink where
  tasks : RecoverySource → DumpTask := fun _ => {}
  statuses : RetryLane StatusEntry 4 := {}
  frames : RetryLane DataEntry 16 := {}
  dataNext : Bool := false
  sent : List DataEntry := []
  bus : List BusRecord := []

/-- One step of a task at the lanes -/
inductive TransferStep where
  /-- A dump task answers a control. -/
  | control (source : RecoverySource) (request : RecoveryControl) (ready : Bool)
  /-- A dump task runs its dump block up to the data frame. -/
  | dump (source : RecoverySource) (answers : Bool)
  /-- A dump task sends the complete status after its last data frame. -/
  | complete (source : RecoverySource)
  /-- A task sends a status of its own: the wake status of a boot, or busy for a control
  that finds its queue full. -/
  | notice (message : RecoveryStatusMessage) (incomplete : message.status ≠ .complete)
  /-- `canTask` runs its next block; the write succeeds or fails. -/
  | canTask (written : Bool)

namespace TransferLink

/-- The status of a source with the size of its log -/
def statusOf (logs : RecoverySource → LogSource) (source : RecoverySource)
    (opcode : RecoveryOpcode) (transferId : UInt8) (status : RecoveryStatusCode) :
    RecoveryStatusMessage :=
  { opcode, transferId, status, source, totalSize := (logs source).size }

/-- A dump task answers a control. -/
def control (logs : RecoverySource → LogSource) (link : TransferLink) (source : RecoverySource)
    (request : RecoveryControl) (ready : Bool) : TransferLink :=
  let task := link.tasks source
  let (status, cursor) := (logs source).answer ready task.cursor request
  let accepted : Bool := status = .dumping || status = .complete
  let number := if accepted then task.number + 1 else task.number
  { link with
    tasks := Function.update link.tasks source { task with cursor, number }
    statuses := link.statuses.offer
      { message := statusOf logs source request.opcode request.transferId status
        completes := if status = .complete then some (source, number) else none } }

/-- The dump block of a task up to its data frame -/
def dump (logs : RecoverySource → LogSource) (link : TransferLink) (source : RecoverySource)
    (answers : Bool) : TransferLink :=
  let task := link.tasks source
  let log := logs source
  match log.offer task.cursor answers link.frames.room with
  | .failed =>
      { link with
        tasks := Function.update link.tasks source
          { task with cursor := { task.cursor with active := false } }
        statuses := link.statuses.offer
          { message := statusOf logs source .startLogDump task.cursor.control.transferId .ioError } }
  | .refused => link
  | .taken =>
      let entry : DataEntry := ⟨(source, task.number), log.frame task.cursor⟩
      let cursor := log.advance task.cursor
      { link with
        tasks := Function.update link.tasks source
          { task with cursor, completing := cursor.remaining = 0 }
        frames := link.frames.offer entry
        sent := link.sent ++ [entry] }

/-- The complete status that a task sends after its last data frame -/
def completeStatus (logs : RecoverySource → LogSource) (link : TransferLink)
    (source : RecoverySource) : StatusEntry :=
  let task := link.tasks source
  { message := statusOf logs source .startLogDump task.cursor.control.transferId .complete
    completes := some (source, task.number) }

/-- The end of a dump after its last data frame -/
def complete (logs : RecoverySource → LogSource) (link : TransferLink)
    (source : RecoverySource) : TransferLink :=
  let task := link.tasks source
  { link with
    tasks := Function.update link.tasks source
      { task with cursor := { task.cursor with active := false }, completing := false }
    statuses := link.statuses.offer (link.completeStatus logs source) }

/-- The next block of `canTask` -/
def canTask (link : TransferLink) (written : Bool) : TransferLink :=
  if link.dataNext then
    let (served, frames) := link.frames.serve written
    { link with frames, dataNext := false, bus := link.bus ++ served.toList.map .data }
  else
    let (served, statuses) := link.statuses.serve written
    { link with statuses, dataNext := true, bus := link.bus ++ served.toList.map .status }

/-- One step. A task that stands before its complete status does nothing else first. -/
def step (logs : RecoverySource → LogSource) (link : TransferLink) : TransferStep → TransferLink
  | .control source request ready =>
      if (link.tasks source).completing then link else link.control logs source request ready
  | .dump source answers =>
      if (link.tasks source).completing || !(link.tasks source).cursor.active then link
      else link.dump logs source answers
  | .complete source =>
      if (link.tasks source).completing then link.complete logs source else link
  | .notice message _ => { link with statuses := link.statuses.offer { message } }
  | .canTask written => link.canTask written

/-! ### What is on the bus -/

/-- The data frames among the records -/
def dataOf (records : List BusRecord) : List DataEntry :=
  records.filterMap fun record =>
    match record with
    | .data entry => some entry
    | .status _ => none

@[simp] theorem dataOf_append (first second : List BusRecord) :
    dataOf (first ++ second) = dataOf first ++ dataOf second := List.filterMap_append

@[simp] theorem dataOf_data (served : Option DataEntry) :
    dataOf (served.toList.map .data) = served.toList := by
  cases served <;> rfl

@[simp] theorem dataOf_status (served : Option StatusEntry) :
    dataOf (served.toList.map .status) = [] := by
  cases served <;> rfl

/-- Every complete status on the bus comes after all data frames of its transfer. -/
def CompletesLast (link : TransferLink) : Prop :=
  ∀ first entry second, link.bus = first ++ .status entry :: second →
    entry.message.status = .complete →
      ∃ tag, entry.completes = some tag ∧
        (dataOf first).filter (·.tag = tag) = link.sent.filter (·.tag = tag)

/-- A complete status must follow the data frames of its transfer. -/
def Follows (entry : StatusEntry) (data : DataEntry) : Prop := entry.completes = some data.tag

/-- The services of the data lane that come before the next one of the status lane -/
def owed (link : TransferLink) : ℕ := if link.dataNext then 1 else 0

/-- When a task sends the complete status, at least as many statuses wait before it, with
the data block that `canTask` owes, as data frames up to the last of the transfer; and a
data write fails only when that stays so for every complete status that waits. -/
def permitted (link : TransferLink) : TransferStep → Prop
  | .complete source =>
      (link.tasks source).completing = true → link.statuses.room = true →
        ∀ data ∈ link.frames.path.drop (link.statuses.path.length + link.owed),
          data.tag ≠ (source, (link.tasks source).number)
  | .canTask false =>
      link.dataNext = true → Lanes.Covered Follows 0 link.statuses.path link.frames.path
  | _ => True

/-! ### The invariant -/

/-- The entry waits on the status lane or has been transmitted. -/
def Reported (link : TransferLink) (entry : StatusEntry) : Prop :=
  entry ∈ link.statuses.path ∨ .status entry ∈ link.bus

/-- The order of statuses and frames over the lanes and the bus -/
structure Ordered (link : TransferLink) : Prop where
  known : ∀ data ∈ link.sent, data.tag.2 ≤ (link.tasks data.tag.1).number
  completing : ∀ source, (link.tasks source).completing = true →
    (link.tasks source).cursor.active = true
  ended : ∀ entry, link.Reported entry → ∀ tag, entry.completes = some tag →
    tag.2 ≤ (link.tasks tag.1).number ∧
      ((link.tasks tag.1).cursor.active = true → tag.2 ≠ (link.tasks tag.1).number)
  tagged : ∀ entry, link.Reported entry →
    (entry.message.status = .complete ↔ ∃ tag, entry.completes = some tag)
  covered : Lanes.Covered Follows link.owed link.statuses.path link.frames.path
  conserved : link.sent = dataOf link.bus ++ link.frames.path
  last : ∀ first entry second, link.bus = first ++ .status entry :: second →
    ∀ data ∈ dataOf second ++ link.frames.path, ¬ Follows entry data

theorem Ordered.completesLast {link : TransferLink} (ordered : link.Ordered) :
    link.CompletesLast := by
  intro first entry second splits complete
  have reported : link.Reported entry := by
    right
    rw [splits]
    exact List.mem_append_right _ List.mem_cons_self
  obtain ⟨tag, completes⟩ := (ordered.tagged entry reported).mp complete
  refine ⟨tag, completes, ?_⟩
  have after : (dataOf second ++ link.frames.path).filter (·.tag = tag) = [] := by
    rw [List.filter_eq_nil_iff]
    intro data within same
    refine ordered.last first entry second splits data within ?_
    rw [Follows, completes, of_decide_eq_true same]
  have whole : link.sent = dataOf first ++ (dataOf second ++ link.frames.path) := by
    rw [ordered.conserved, splits, dataOf_append, List.append_assoc]
    rfl
  rw [whole, List.filter_append, after, List.append_nil]

/-- The tasks may change as long as a number that was not live does not become live. -/
theorem Ordered.retask {link : TransferLink} (ordered : link.Ordered)
    {tasks : RecoverySource → DumpTask}
    (grows : ∀ source, (link.tasks source).number ≤ (tasks source).number)
    (completing : ∀ source, (tasks source).completing = true →
      (tasks source).cursor.active = true)
    (live : ∀ source, (tasks source).cursor.active = true →
      (tasks source).number = (link.tasks source).number →
        (link.tasks source).cursor.active = true) :
    Ordered { link with tasks } := by
  refine ⟨fun data sent => (ordered.known data sent).trans (grows _), completing, ?_,
    ordered.tagged, ordered.covered, ordered.conserved, ordered.last⟩
  intro entry reported tag completes
  obtain ⟨below, notLive⟩ := ordered.ended entry reported tag completes
  refine ⟨below.trans (grows _), fun active same => ?_⟩
  have grown := grows tag.1
  dsimp only at active same
  by_cases unchanged : (tasks tag.1).number = (link.tasks tag.1).number
  · exact notLive (live tag.1 active unchanged) (same.trans unchanged)
  · omega

/-- A status is offered to its lane. -/
theorem Ordered.offerStatus {link : TransferLink} (ordered : link.Ordered) {entry : StatusEntry}
    (ended : ∀ tag, entry.completes = some tag → tag.2 ≤ (link.tasks tag.1).number ∧
      ((link.tasks tag.1).cursor.active = true → tag.2 ≠ (link.tasks tag.1).number))
    (tagged : entry.message.status = .complete ↔ ∃ tag, entry.completes = some tag)
    (near : link.statuses.room = true →
      ∀ data ∈ link.frames.path.drop (link.statuses.path.length + link.owed),
        ¬ Follows entry data) :
    Ordered { link with statuses := link.statuses.offer entry } := by
  cases room : link.statuses.room with
  | false =>
      rw [RetryLane.offer_of_full room]
      exact ordered
  | true =>
      have path := @RetryLane.path_offer_of_room _ _ _ entry room
      have split : ∀ other, Reported { link with statuses := link.statuses.offer entry } other →
          other = entry ∨ link.Reported other := by
        intro other reported
        rcases reported with waits | transmitted
        · rw [show ({ link with statuses := link.statuses.offer entry } : TransferLink).statuses =
            link.statuses.offer entry from rfl, path] at waits
          rcases List.mem_append.mp waits with old | new
          · exact Or.inr (Or.inl old)
          · exact Or.inl (List.mem_singleton.mp new)
        · exact Or.inr (Or.inr transmitted)
      refine ⟨ordered.known, ordered.completing, ?_, ?_, ?_, ordered.conserved, ordered.last⟩
      · intro other reported tag completes
        rcases split other reported with rfl | old
        · exact ended tag completes
        · exact ordered.ended other old tag completes
      · intro other reported
        rcases split other reported with rfl | old
        · exact tagged
        · exact ordered.tagged other old
      · dsimp only
        rw [path]
        exact ordered.covered.first_append (near room)

/-- A data frame of a live transfer is put in the queue. -/
theorem Ordered.sendFrame {link : TransferLink} (ordered : link.Ordered) {entry : DataEntry}
    (room : link.frames.room = true)
    (live : (link.tasks entry.tag.1).cursor.active = true)
    (number : entry.tag.2 = (link.tasks entry.tag.1).number) :
    Ordered { link with frames := link.frames.offer entry, sent := link.sent ++ [entry] } := by
  have path := @RetryLane.path_offer_of_room _ _ _ entry room
  have free : ∀ status, link.Reported status → ¬ Follows status entry := by
    intro status reported follows
    exact (ordered.ended status reported entry.tag follows).2 live number
  refine ⟨?_, ordered.completing, ordered.ended, ordered.tagged, ?_, ?_, ?_⟩
  · intro data sent
    rcases List.mem_append.mp sent with old | new
    · exact ordered.known data old
    · obtain rfl := List.mem_singleton.mp new
      exact number.le
  · dsimp only
    rw [path]
    exact ordered.covered.second_append fun status waits => free status (Or.inl waits)
  · dsimp only
    rw [path, ordered.conserved, List.append_assoc]
  · intro first status second splits data within
    dsimp only at within
    rw [path, ← List.append_assoc] at within
    rcases List.mem_append.mp within with old | new
    · exact ordered.last first status second splits data old
    · obtain rfl := List.mem_singleton.mp new
      refine free status (Or.inr ?_)
      rw [show link.bus = first ++ .status status :: second from splits]
      exact List.mem_append_right _ List.mem_cons_self

/-- The status block of `canTask` -/
private theorem statusBlock_ordered {link : TransferLink} (ordered : link.Ordered)
    (turn : link.dataNext = false) (written : Bool) :
    Ordered { link with
      statuses := (link.statuses.serve written).2
      dataNext := true
      bus := link.bus ++ (link.statuses.serve written).1.toList.map .status } := by
  have covered := ordered.covered
  rw [show link.owed = 0 by simp [owed, turn]] at covered
  have path := link.statuses.path_serve written
  cases served : link.statuses.serve written with
  | mk out statuses =>
      rw [served] at path
      cases out with
      | none =>
          simp only [Option.toList_none, List.map_nil, List.append_nil, List.nil_append] at path ⊢
          obtain ⟨known, completing, ended, tagged, -, conserved, last⟩ := ordered
          refine ⟨known, completing, fun entry reported => ?_, fun entry reported => ?_, ?_,
            conserved, last⟩
          · exact ended entry (reported.imp_left fun waits => path ▸ waits)
          · exact tagged entry (reported.imp_left fun waits => path ▸ waits)
          · rw [path] at covered
            exact covered.mono (Nat.zero_le 1)
      | some message =>
          have first : link.statuses.path = message :: statuses.path := path
          rw [first] at covered
          obtain ⟨rest, clear⟩ := covered.serve_first
          have reports : ∀ entry, (entry ∈ statuses.path ∨
              .status entry ∈ link.bus ++ [.status message]) → link.Reported entry := by
            intro entry reported
            rcases reported with waits | transmitted
            · exact Or.inl (first ▸ List.mem_cons_of_mem _ waits)
            · rcases List.mem_append.mp transmitted with old | new
              · exact Or.inr old
              · cases List.mem_singleton.mp new
                exact Or.inl (first ▸ List.mem_cons_self)
          obtain ⟨known, completing, ended, tagged, -, conserved, last⟩ := ordered
          refine ⟨known, completing, fun entry reported => ended entry (reports entry reported),
            fun entry reported => tagged entry (reports entry reported), rest, ?_, ?_⟩
          · show link.sent = dataOf (link.bus ++ [.status message]) ++ link.frames.path
            rw [dataOf_append, conserved, List.append_assoc]
            rfl
          · intro before entry after splits data within
            rcases Trace.split_concat splits with ⟨rfl, same, -⟩ | ⟨earlier, rfl, old⟩
            · cases same
              exact clear data within
            · rw [dataOf_append, List.append_assoc] at within
              exact last before entry earlier old data within

/-- The data block of `canTask` -/
private theorem dataBlock_ordered {link : TransferLink} (ordered : link.Ordered)
    (turn : link.dataNext = true) {written : Bool} (allowed : link.permitted (.canTask written)) :
    Ordered { link with
      frames := (link.frames.serve written).2
      dataNext := false
      bus := link.bus ++ (link.frames.serve written).1.toList.map .data } := by
  have covered := ordered.covered
  rw [show link.owed = 1 by simp [owed, turn]] at covered
  have path := link.frames.path_serve written
  have free : (link.frames.serve written).1 = none →
      Lanes.Covered Follows 0 link.statuses.path link.frames.path := by
    intro nothing
    cases written with
    | false => exact allowed turn
    | true =>
        rw [RetryLane.path_of_serve_none nothing]
        intro index message found item within
        rw [List.drop_nil] at within
        cases within
  cases served : link.frames.serve written with
  | mk out frames =>
      rw [served] at path free
      obtain ⟨known, completing, ended, tagged, -, conserved, last⟩ := ordered
      cases out with
      | none =>
          have same : link.frames.path = frames.path := path
          simp only [Option.toList_none, List.map_nil, List.append_nil]
          refine ⟨known, completing, ended, tagged, ?_, ?_, ?_⟩
          · dsimp only
            rw [← same]
            exact free rfl
          · dsimp only
            rw [← same]
            exact conserved
          · dsimp only
            rw [← same]
            exact last
      | some message =>
          have first : link.frames.path = message :: frames.path := path
          rw [first] at covered conserved last
          have reports : ∀ entry, (entry ∈ link.statuses.path ∨
              .status entry ∈ link.bus ++ [.data message]) → link.Reported entry := by
            intro entry reported
            rcases reported with waits | transmitted
            · exact Or.inl waits
            · rcases List.mem_append.mp transmitted with old | new
              · exact Or.inr old
              · cases List.mem_singleton.mp new
          refine ⟨known, completing, fun entry reported => ended entry (reports entry reported),
            fun entry reported => tagged entry (reports entry reported), covered.serve_second,
            ?_, ?_⟩
          · show link.sent = dataOf (link.bus ++ [.data message]) ++ frames.path
            rw [dataOf_append, conserved, List.append_assoc]
            rfl
          · intro before entry after splits data within
            rcases Trace.split_concat splits with ⟨-, same, -⟩ | ⟨earlier, rfl, old⟩
            · cases same
            · rw [dataOf_append, List.append_assoc] at within
              exact last before entry earlier old data within

theorem canTask_ordered {link : TransferLink} (ordered : link.Ordered) {written : Bool}
    (allowed : link.permitted (.canTask written)) : (link.canTask written).Ordered := by
  unfold canTask
  cases turn : link.dataNext with
  | false => exact statusBlock_ordered ordered turn written
  | true => exact dataBlock_ordered ordered turn allowed

/-! ### One step -/

/-- An answer makes a cursor active only when it says dumping, and not when it says
complete. -/
theorem answer_active (log : LogSource) (ready : Bool) (cursor : RecoveryDumpCursor)
    (request : RecoveryControl) :
    ((log.answer ready cursor request).2.active = true →
      cursor.active = true ∨ (log.answer ready cursor request).1 = .dumping) ∧
    ((log.answer ready cursor request).1 = .complete →
      (log.answer ready cursor request).2.active = false) := by
  unfold LogSource.answer
  cases request.opcode with
  | wake => exact ⟨Or.inl, nofun⟩
  | stopLogDump =>
      dsimp only
      split
      · exact ⟨nofun, nofun⟩
      · exact ⟨Or.inl, nofun⟩
  | startLogDump =>
      dsimp only
      split
      · exact ⟨Or.inl, nofun⟩
      · split
        · exact ⟨Or.inl, nofun⟩
        · split
          · exact ⟨Or.inl, nofun⟩
          · generalize (if request.length = 0 then log.size - request.offset
              else min request.length (log.size - request.offset)) = requested
            by_cases nothing : requested = 0
            · simp [nothing]
            · simp [nothing]

/-- One task changes: its number grows, and it becomes live only under a new number. -/
private theorem Ordered.retaskOne {link : TransferLink} (ordered : link.Ordered)
    (source : RecoverySource) {task : DumpTask}
    (grows : (link.tasks source).number ≤ task.number)
    (completing : task.completing = true → task.cursor.active = true)
    (live : task.cursor.active = true → task.number = (link.tasks source).number →
      (link.tasks source).cursor.active = true) :
    Ordered { link with tasks := Function.update link.tasks source task } := by
  refine ordered.retask (fun other => ?_) (fun other => ?_) (fun other => ?_)
  · by_cases same : other = source
    · subst same
      rwa [Function.update_self]
    · rw [Function.update_of_ne same]
  · by_cases same : other = source
    · subst same
      rwa [Function.update_self]
    · rw [Function.update_of_ne same]
      exact ordered.completing other
  · by_cases same : other = source
    · subst same
      rwa [Function.update_self]
    · rw [Function.update_of_ne same]
      exact fun active _ => active

private theorem control_ordered {logs : RecoverySource → LogSource} {link : TransferLink}
    (ordered : link.Ordered) {source : RecoverySource} (request : RecoveryControl) (ready : Bool)
    (between : (link.tasks source).completing = false) :
    (link.control logs source request ready).Ordered := by
  obtain ⟨activates, completes⟩ :=
    answer_active (logs source) ready (link.tasks source).cursor request
  unfold control
  dsimp only
  generalize (logs source).answer ready (link.tasks source).cursor request = answered
    at activates completes ⊢
  obtain ⟨status, cursor⟩ := answered
  dsimp only at activates completes ⊢
  have known := ordered.known
  have conserved := ordered.conserved
  generalize numbered : (if (decide (status = .dumping) || decide (status = .complete)) = true then
    (link.tasks source).number + 1 else (link.tasks source).number) = number
  have grows : (link.tasks source).number ≤ number := by
    rw [← numbered]
    split <;> omega
  have fresh : status = .dumping ∨ status = .complete → (link.tasks source).number < number := by
    intro accepted
    rw [← numbered, if_pos (by simpa using accepted)]
    omega
  have retasked := @Ordered.retaskOne link ordered source { link.tasks source with cursor, number }
    grows (fun completing => absurd between (by rw [completing]; decide))
    (fun active same => by
      rcases activates active with was | dumps
      · exact was
      · have above := fresh (Or.inl dumps)
        dsimp only at same
        omega)
  refine retasked.offerStatus ?_ ?_ ?_
  · intro tag completed
    dsimp only at completed ⊢
    split at completed
    · rename_i complete
      obtain rfl := Option.some.inj completed
      rw [Function.update_self]
      exact ⟨le_rfl, fun active => absurd active (by rw [completes complete]; decide)⟩
    · cases completed
  · dsimp only
    split
    · rename_i complete
      exact ⟨fun _ => ⟨_, rfl⟩, fun _ => complete⟩
    · rename_i incomplete
      exact ⟨fun complete => absurd complete incomplete, nofun⟩
  · intro _ data within follows
    have sent : data ∈ link.sent := by
      rw [conserved]
      exact List.mem_append_right _ (List.mem_of_mem_drop within)
    unfold Follows at follows
    dsimp only at follows
    split at follows
    · rename_i complete
      have tag := Option.some.inj follows
      have below := known data sent
      rw [← tag] at below
      have above := fresh (Or.inr complete)
      dsimp only at below
      omega
    · cases follows

private theorem dump_ordered {logs : RecoverySource → LogSource} {link : TransferLink}
    (ordered : link.Ordered) {source : RecoverySource} (answers : Bool)
    (between : (link.tasks source).completing = false)
    (active : (link.tasks source).cursor.active = true) :
    (link.dump logs source answers).Ordered := by
  unfold dump
  dsimp only
  cases offered : (logs source).offer (link.tasks source).cursor answers link.frames.room with
  | failed =>
      have stopped := @Ordered.retaskOne link ordered source
        { link.tasks source with cursor := { (link.tasks source).cursor with active := false } }
        le_rfl (fun completing => absurd between (by rw [completing]; decide)) nofun
      exact stopped.offerStatus nofun ⟨nofun, nofun⟩ (fun _ _ _ => nofun)
  | refused => exact ordered
  | taken =>
      have room : link.frames.room = true := by
        unfold LogSource.offer at offered
        split at offered
        · cases offered
        · split at offered
          · assumption
          · cases offered
      have extended := @Ordered.sendFrame link ordered
        ⟨(source, (link.tasks source).number), (logs source).frame (link.tasks source).cursor⟩
        room active rfl
      exact extended.retaskOne source le_rfl (fun _ => active) (fun _ _ => active)

private theorem complete_ordered {logs : RecoverySource → LogSource} {link : TransferLink}
    (ordered : link.Ordered) {source : RecoverySource}
    (completing : (link.tasks source).completing = true)
    (allowed : link.permitted (.complete source)) :
    (link.complete logs source).Ordered := by
  have stopped := @Ordered.retaskOne link ordered source
    { link.tasks source with
      cursor := { (link.tasks source).cursor with active := false }, completing := false }
    le_rfl nofun nofun
  refine stopped.offerStatus ?_ ⟨fun _ => ⟨_, rfl⟩, fun _ => rfl⟩ ?_
  · intro tag completes
    obtain rfl := Option.some.inj completes
    dsimp only
    rw [Function.update_self]
    exact ⟨le_rfl, nofun⟩
  · intro room data within follows
    refine allowed completing room data within ?_
    exact (Option.some.inj follows).symm

theorem step_ordered (logs : RecoverySource → LogSource) (link : TransferLink)
    (label : TransferStep) (ordered : link.Ordered) (allowed : link.permitted label) :
    (link.step logs label).Ordered := by
  cases label with
  | control source request ready =>
      unfold step
      dsimp only
      split
      · exact ordered
      · rename_i between
        exact control_ordered ordered request ready (Bool.eq_false_iff.mpr between)
  | dump source answers =>
      unfold step
      dsimp only
      split
      · exact ordered
      · rename_i runs
        rw [Bool.or_eq_true, not_or, Bool.not_eq_true, Bool.not_eq_true'] at runs
        exact dump_ordered ordered answers runs.1 (Bool.not_eq_false _ ▸ runs.2)
  | complete source =>
      unfold step
      dsimp only
      split
      · rename_i completing
        exact complete_ordered ordered completing allowed
      · exact ordered
  | notice message incomplete =>
      exact ordered.offerStatus nofun ⟨fun complete => absurd complete incomplete, nofun⟩
        (fun _ _ _ => nofun)
  | canTask written => exact canTask_ordered ordered allowed

/-- The dump block with the complete status after it is the dump block of the cursor. -/
theorem cursor_dump_complete (logs : RecoverySource → LogSource) {link : TransferLink}
    {source : RecoverySource} (between : (link.tasks source).completing = false)
    (answers : Bool) :
    (((link.step logs (.dump source answers)).step logs (.complete source)).tasks source).cursor =
      (logs source).dump (link.tasks source).cursor answers link.frames.room := by
  cases active : (link.tasks source).cursor.active with
  | false => simp [step, LogSource.dump, between, active]
  | true =>
      cases offered : (logs source).offer (link.tasks source).cursor answers link.frames.room with
      | failed => simp [step, dump, LogSource.dump, between, active, offered]
      | refused => simp [step, dump, LogSource.dump, between, active, offered]
      | taken =>
          by_cases last : ((logs source).advance (link.tasks source).cursor).remaining = 0
          · simp [step, dump, complete, LogSource.dump, between, active, offered, last]
          · simp [step, dump, LogSource.dump, between, active, offered, last]

/-! ### A step that is not permitted -/

/-- The complete status at the index is reached before a frame of its transfer. -/
def Overtakes (link : TransferLink) (index : ℕ) : Prop :=
  ∃ message data, link.statuses.path[index]? = some message ∧
    message.message.status = .complete ∧ Follows message data ∧
      data ∈ link.frames.path.drop (index + link.owed)

/-- A successful status block -/
private theorem canTask_status {link : TransferLink} (turn : link.dataNext = false) :
    link.canTask true = { link with
      statuses := (link.statuses.serve true).2
      dataNext := true
      bus := link.bus ++ link.statuses.path.head?.toList.map .status } := by
  unfold canTask
  rw [← link.statuses.serve_true.1, if_neg (by rw [turn]; decide)]

/-- A successful data block -/
private theorem canTask_data {link : TransferLink} (turn : link.dataNext = true) :
    link.canTask true = { link with
      frames := (link.frames.serve true).2
      dataNext := false
      bus := link.bus ++ link.frames.path.head?.toList.map .data } := by
  unfold canTask
  rw [← link.frames.serve_true.1, if_pos turn]

/-- A complete status is on the bus, and a frame of its transfer is not. -/
private theorem not_completesLast {link : TransferLink} {before : List BusRecord}
    {message : StatusEntry} {data : DataEntry} (bus : link.bus = before ++ [.status message])
    (complete : message.message.status = .complete) (follows : Follows message data)
    (waits : data ∈ link.frames.path) (conserved : link.sent = dataOf before ++ link.frames.path) :
    ¬ link.CompletesLast := by
  intro last
  obtain ⟨tag, completes, same⟩ := last before message [] bus complete
  rw [conserved, List.filter_append, List.self_eq_append_right, List.filter_eq_nil_iff] at same
  refine same data waits (decide_eq_true ?_)
  exact Option.some.inj (follows.symm.trans completes)

/-- When both blocks of `canTask` succeed, a complete status that overtakes is transmitted
before a frame of its transfer. -/
private theorem Overtakes.reached (logs : RecoverySource → LogSource) {index : ℕ}
    {link : TransferLink} (overtakes : link.Overtakes index) (turn : link.dataNext = false)
    (conserved : link.sent = dataOf link.bus ++ link.frames.path) :
    ∃ count, ¬ (Run.after (step logs) link
      (List.replicate count (.canTask true))).CompletesLast := by
  induction index generalizing link with
  | zero =>
      obtain ⟨message, data, found, complete, follows, within⟩ := overtakes
      refine ⟨1, ?_⟩
      show ¬ (link.canTask true).CompletesLast
      rw [canTask_status turn]
      refine not_completesLast ?_ complete follows (List.mem_of_mem_drop within) conserved
      rw [List.head?_eq_getElem?, found]
      rfl
  | succ index inductionHypothesis =>
      obtain ⟨message, data, found, complete, follows, within⟩ := overtakes
      have nothingOwed : link.owed = 0 := by simp [owed, turn]
      -- one status and one data frame go, and the status comes one place nearer to both ends
      generalize served : ((link.canTask true).canTask true) = next
      rw [canTask_status turn, canTask_data rfl] at served
      have statuses : next.statuses.path = link.statuses.path.tail := by
        rw [← served]
        exact link.statuses.serve_true.2
      have frames : next.frames.path = link.frames.path.tail := by
        rw [← served]
        exact link.frames.serve_true.2
      have keeps : next.sent = dataOf next.bus ++ next.frames.path := by
        rw [frames, ← served]
        dsimp only
        rw [conserved, dataOf_append, dataOf_append, dataOf_data, dataOf_status, List.append_nil,
          List.append_assoc]
        cases link.frames.path <;> rfl
      have nearer : next.Overtakes index := by
        refine ⟨message, data, ?_, complete, follows, ?_⟩
        · rw [statuses, List.getElem?_tail, found]
        · rw [nothingOwed] at within
          rw [frames, show next.owed = 0 by rw [← served]; rfl, List.drop_tail]
          exact within
      obtain ⟨count, reached⟩ := inductionHypothesis nearer (by rw [← served]) keeps
      refine ⟨count + 2, ?_⟩
      rw [List.replicate_succ, List.replicate_succ, Run.after_cons, Run.after_cons]
      rw [← served] at reached
      rwa [show (link.step logs (.canTask true)).step logs (.canTask true) =
        (link.canTask true).canTask true from rfl, canTask_status turn, canTask_data rfl]

/-- The same with the data block first -/
private theorem Overtakes.reached_of_owed (logs : RecoverySource → LogSource) {index : ℕ}
    {link : TransferLink} (overtakes : link.Overtakes index)
    (conserved : link.sent = dataOf link.bus ++ link.frames.path) :
    ∃ count, ¬ (Run.after (step logs) link
      (List.replicate count (.canTask true))).CompletesLast := by
  cases turn : link.dataNext with
  | false => exact overtakes.reached logs turn conserved
  | true =>
      obtain ⟨message, data, found, complete, follows, within⟩ := overtakes
      have owes : link.owed = 1 := by simp [owed, turn]
      rw [owes] at within
      generalize served : link.canTask true = next
      rw [canTask_data turn] at served
      have frames : next.frames.path = link.frames.path.tail := by
        rw [← served]
        exact link.frames.serve_true.2
      have keeps : next.sent = dataOf next.bus ++ next.frames.path := by
        rw [frames, ← served]
        dsimp only
        rw [conserved, dataOf_append, dataOf_data, List.append_assoc]
        cases link.frames.path <;> rfl
      have stays : next.Overtakes index := by
        refine ⟨message, data, by rw [← served]; exact found, complete, follows, ?_⟩
        rw [frames, show next.owed = 0 by rw [← served]; rfl, List.drop_tail]
        exact within
      obtain ⟨count, reached⟩ := stays.reached logs (by rw [← served]) keeps
      refine ⟨count + 1, ?_⟩
      rw [List.replicate_succ, Run.after_cons]
      rw [← served] at reached
      rwa [show link.step logs (.canTask true) = link.canTask true from rfl, canTask_data turn]

/-- After a step that is not permitted, what follows may transmit a complete status before
a frame of its transfer. -/
private theorem overtaken_of_not_permitted (logs : RecoverySource → LogSource)
    {link : TransferLink} (ordered : link.Ordered) {label : TransferStep}
    (refused : ¬ link.permitted label) :
    ∃ count, ¬ (Run.after (step logs) (link.step logs label)
      (List.replicate count (.canTask true))).CompletesLast := by
  cases label with
  | control source request ready => exact absurd trivial refused
  | dump source answers => exact absurd trivial refused
  | notice message incomplete => exact absurd trivial refused
  | complete source =>
      simp only [permitted, not_forall, ne_eq, not_not, exists_prop] at refused
      obtain ⟨completing, room, data, within, tag⟩ := refused
      rw [show link.step logs (.complete source) = link.complete logs source by
        unfold step; exact if_pos completing]
      refine @Overtakes.reached_of_owed logs link.statuses.path.length _
        ⟨link.completeStatus logs source, data, ?_, rfl, congrArg some tag.symm, within⟩
        ordered.conserved
      unfold complete
      dsimp only
      rw [RetryLane.path_offer_of_room room, List.getElem?_concat_length]
  | canTask written =>
      cases written with
      | true => exact absurd trivial refused
      | false =>
          simp only [permitted, Lanes.Covered, not_forall, not_not, exists_prop] at refused
          obtain ⟨turn, index, message, found, data, within, follows⟩ := refused
          have complete : message.message.status = .complete :=
            (ordered.tagged message (Or.inl (List.mem_of_getElem? found))).mpr ⟨_, follows⟩
          have same : (link.frames.serve false).2.path = link.frames.path :=
            link.frames.serve_false.2
          have failed : link.step logs (.canTask false) =
              { link with frames := (link.frames.serve false).2, dataNext := false } := by
            show link.canTask false = _
            unfold canTask
            rw [if_pos turn]
            dsimp only
            rw [link.frames.serve_false.1, Option.toList_none, List.map_nil, List.append_nil]
          rw [failed]
          refine @Overtakes.reached_of_owed logs index _
            ⟨message, data, found, complete, follows, ?_⟩ ?_
          · dsimp only
            rw [same]
            exact within
          · dsimp only
            rw [same]
            exact ordered.conserved

theorem initial_ordered : Ordered {} :=
  ⟨nofun, nofun, nofun, nofun, Lanes.covered_nil _ _, rfl,
    fun first _ _ splits => absurd splits.symm (List.append_ne_nil_of_right_ne_nil first nofun)⟩

/-- **Dump completion follows the data on the bus.** Along every run whose steps are all
permitted, every complete status is transmitted after all data frames of its transfer; and
a step that is not permitted may be followed by successful writes that break this. -/
theorem complete_follows_data (logs : RecoverySource → LogSource) (labels : List TransferStep)
    (along : Run.Along (step logs) permitted {} labels) :
    (Run.after (step logs) {} labels).CompletesLast ∧
      ∀ label, ¬ (Run.after (step logs) {} labels).permitted label →
        ∃ count, ¬ (Run.after (step logs) {}
          (labels ++ label :: List.replicate count (.canTask true))).CompletesLast := by
  have ordered := Run.invariant_after (step_ordered logs) initial_ordered along
  refine ⟨ordered.completesLast, fun label refused => ?_⟩
  obtain ⟨count, overtaken⟩ := overtaken_of_not_permitted logs ordered refused
  refine ⟨count, ?_⟩
  rwa [Run.after_append, Run.after_cons]

/-- Two logs of seven bytes -/
def sevenBytes (source : RecoverySource) : LogSource :=
  ⟨source, [1, 2, 3, 4, 5, 6, 7], by decide⟩

/-- A start of a dump of the last byte of the internal flash log -/
def lastByte : RecoveryControl := ⟨.startLogDump, .internalFlash, 1, 6, 0⟩

/-- The complete status is sent while `canTask` is between its two blocks. -/
def completedBetweenBlocks : List TransferStep :=
  [.control .internalFlash lastByte true, .canTask true, .dump .internalFlash true,
    .complete .internalFlash, .canTask true, .canTask true]

theorem complete_follows_data_completedBetweenBlocks :
    (Run.after (step sevenBytes) {} completedBetweenBlocks).CompletesLast ∧
      (Run.after (step sevenBytes) {} completedBetweenBlocks).bus.length = 3 :=
  ⟨(complete_follows_data sevenBytes completedBetweenBlocks
    ⟨trivial, trivial, trivial, fun _ _ => by decide +kernel, trivial, trivial, trivial⟩).1,
    by decide +kernel⟩

/-- A dump of all seven bytes, with both blocks of `canTask` after every step of the task
and every write successful -/
def allWritten : List TransferStep :=
  [.control .internalFlash ⟨.startLogDump, .internalFlash, 1, 0, 0⟩ true, .canTask true,
    .canTask true, .dump .internalFlash true, .canTask true, .canTask true,
    .dump .internalFlash true, .complete .internalFlash, .canTask true]

/-- The complete status is transmitted before the last byte. -/
theorem complete_of_allWritten_first :
    ¬ (Run.after (step sevenBytes) {} allWritten).CompletesLast := by
  intro last
  obtain ⟨tag, completes, same⟩ := last
    ((Run.after (step sevenBytes) {} allWritten).bus.take 2)
    ⟨⟨.startLogDump, 1, .complete, .internalFlash, 7⟩, some (.internalFlash, 1)⟩ []
    (by decide +kernel) rfl
  obtain rfl := Option.some.inj completes
  exact absurd same (by decide +kernel)

end TransferLink

end MissionBoard.Runtime
