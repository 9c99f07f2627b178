import MissionBoard.Characterization.CommandJournal
import MissionBoard.Library.Run

/-!
Owns that the evidence of the command journal is true: over every run of calls, what the journal says of
the output is the last request that the callback was handed.

`current_applied_` follows the callback at every invocation, `current_` only when evidence is made. A
request is skipped only when both agree with it.
-/

namespace MissionBoard.Characterization

namespace CommandJournal

variable {answer : ℕ → MotorApplyAnswer} {journal : CommandJournal}

/-! ### The trace of the callback -/

/-- The journal has a callback, knows what it was handed last, and handed it nothing but Coast while it
was not armed. -/
structure Traced (journal : CommandJournal) : Prop where
  bound : journal.bound = true
  applied : ∀ last ∈ journal.context.getLast?,
    journal.currentApplied.appliedCommandPermille = last.request.commandPermille ∧
      journal.currentApplied.appliedMode = last.request.mode ∧
      journal.currentApplied.resultCode = last.result
  gated : ∀ handed ∈ journal.context, handed.request ≠ .toCoast → handed.armed = true

/-- Nothing else in the journal matters for this. -/
theorem Traced.of_same (traced : Traced journal) {next : CommandJournal}
    (bound : next.bound = journal.bound) (context : next.context = journal.context)
    (applied : next.currentApplied = journal.currentApplied) : Traced next := by
  constructor
  · rw [bound]
    exact traced.bound
  · rw [context, applied]
    exact traced.applied
  · rw [context]
    exact traced.gated

/-- The last request that the callback was handed -/
def LastHanded (journal : CommandJournal) (request : MotorCommandRequest) : Prop :=
  ∃ last ∈ journal.context.getLast?, last.request = request

theorem lastHanded_callback (request : MotorCommandRequest) :
    LastHanded (journal.callback answer request).2 request :=
  ⟨_, List.getLast?_concat .., rfl⟩

theorem Traced.callback (traced : Traced journal) {request : MotorCommandRequest}
    (permitted : request ≠ .toCoast → journal.armed = true) :
    Traced (journal.callback answer request).2 := by
  constructor
  · exact traced.bound
  · intro last same
    unfold CommandJournal.callback at same
    dsimp only at same
    rw [List.getLast?_concat] at same
    rw [← Option.some.inj same]
    exact ⟨rfl, rfl, rfl⟩
  · intro handed within
    unfold CommandJournal.callback at within
    dsimp only at within
    rw [List.mem_append, List.mem_singleton] at within
    cases within with
    | inl earlier => exact traced.gated handed earlier
    | inr same =>
        rw [same]
        exact permitted

/-- Coast is handed to the callback at any time; then the journal is disarmed. -/
theorem Traced.disarm (traced : Traced journal) (nowUs : UInt64) :
    (journal.disarm answer nowUs).2 = { (journal.callback answer .toCoast).2 with armed := false } ∧
      Traced (journal.disarm answer nowUs).2 := by
  have same : (journal.disarm answer nowUs).2 =
      { (journal.callback answer .toCoast).2 with armed := false } := by
    unfold CommandJournal.disarm applyCoast
    rw [traced.bound]
    rfl
  rw [same]
  have coasted : Traced (journal.callback answer .toCoast).2 :=
    traced.callback fun other => absurd rfl other
  exact ⟨rfl, coasted.of_same rfl rfl rfl⟩

/-! ### New evidence -/

/-- A valid request that does not need the journal to be armed is Coast. -/
theorem eq_toCoast {request : MotorCommandRequest} (valid : request.valid = true)
    (harmless : request.needsArm = false) : request = .toCoast := by
  obtain ⟨commandPermille, mode⟩ := request
  unfold MotorCommandRequest.needsArm at harmless
  rw [Bool.or_eq_false_iff, bne_eq_false_iff_eq] at harmless
  obtain ⟨zero, notBrake⟩ := harmless
  dsimp only at zero notBrake
  subst zero
  cases mode with
  | coast => rfl
  | driveIn1 => exact absurd valid (by decide)
  | driveIn2 => exact absurd valid (by decide)
  | brake => exact absurd notBrake (by decide)

/-- The callback is handed the request and answers `ESP_OK`, or there is an error. -/
theorem Traced.handRequest (traced : Traced journal) (request : MotorCommandRequest) :
    Traced (journal.handRequest answer request).2 ∧
      (journal.handRequest answer request).2.nextGeneration = journal.nextGeneration ∧
      journal.context.length ≤ (journal.handRequest answer request).2.context.length ∧
      ((journal.handRequest answer request).1 = espOk →
        (journal.handRequest answer request).2 = (journal.callback answer request).2) := by
  have longer : journal.context.length ≤ (journal.callback answer request).2.context.length := by
    show journal.context.length ≤ (journal.context ++ [_]).length
    simp
  unfold CommandJournal.handRequest
  split
  · exact ⟨traced, rfl, Nat.le_refl _, fun ok => absurd ok (by decide : espErrInvalidArg ≠ espOk)⟩
  · rename_i valid
    rw [Bool.not_eq_true, Bool.not_eq_false'] at valid
    split
    · exact ⟨traced, rfl, Nat.le_refl _,
        fun ok => absurd ok (by decide : espErrInvalidState ≠ espOk)⟩
    · rename_i allowed
      rw [traced.bound]
      refine ⟨traced.callback fun other => ?_, rfl, longer, fun _ => rfl⟩
      cases needs : request.needsArm with
      | false => exact absurd (eq_toCoast valid needs) other
      | true => simpa [needs] using allowed

/-- What the evidence says of the output is what the callback was handed last. -/
def SnapshotTrue (journal : CommandJournal) : Prop :=
  ∃ last ∈ journal.context.getLast?, ∀ loggerSnapshotUs,
    (journal.snapshot loggerSnapshotUs).appliedCommandPermille = last.request.commandPermille ∧
      (journal.snapshot loggerSnapshotUs).appliedMotorMode = last.request.mode

/-- The journal is disarmed, and the callback was handed Coast last. -/
def Safe (journal : CommandJournal) : Prop := journal.armed = false ∧ LastHanded journal .toCoast

theorem Traced.snapshotTrue (traced : Traced journal) {request : MotorCommandRequest}
    (handed : LastHanded journal request) (result : Int32) :
    SnapshotTrue (journal.closeEvidence result) := by
  obtain ⟨last, there, -⟩ := handed
  obtain ⟨permille, mode, -⟩ := traced.applied last there
  exact ⟨last, there, fun _ => ⟨permille, mode⟩⟩

/-- Evidence is made of a request: the callback was invoked, and the evidence is true. -/
structure Evidenced (journal next : CommandJournal) : Prop where
  traced : Traced next
  snapshot : SnapshotTrue next
  generation : next.current.commandGeneration = journal.nextGeneration
  following : next.nextGeneration = journal.nextGeneration + 1
  invoked : journal.context.length < next.context.length

/-- Evidence of a request that is not applied, after which the motor coasts -/
theorem Traced.coasted (traced : Traced journal) (request : MotorCommandRequest) (result : Int32)
    (nowUs : UInt64) :
    Evidenced journal
        (((journal.openEvidence request nowUs).disarm answer nowUs).2.closeEvidence result) ∧
      Safe (((journal.openEvidence request nowUs).disarm answer nowUs).2.closeEvidence result) := by
  have opened : Traced (journal.openEvidence request nowUs) := traced.of_same rfl rfl rfl
  obtain ⟨same, coasted⟩ := @Traced.disarm answer _ opened nowUs
  have last : LastHanded ((journal.openEvidence request nowUs).disarm answer nowUs).2 .toCoast := by
    rw [same]
    exact lastHanded_callback .toCoast
  have snapshot := coasted.snapshotTrue last result
  have closed : Traced
      (((journal.openEvidence request nowUs).disarm answer nowUs).2.closeEvidence result) :=
    coasted.of_same rfl rfl rfl
  constructor
  · refine ⟨closed, snapshot, ?_, ?_, ?_⟩
    all_goals rw [same]
    · rfl
    · rfl
    · show journal.context.length < (journal.context ++ [_]).length
      simp
  · refine ⟨?_, last⟩
    rw [same]
    rfl

theorem apply_skipped {request : MotorCommandRequest} (skipped : journal.skips request = true)
    {nowUs : UInt64} : journal.apply answer request nowUs = (espOk, journal) := by
  unfold CommandJournal.apply
  rw [skipped]
  rfl

theorem Traced.rejectAndCoast (traced : Traced journal) {request : MotorCommandRequest}
    {cause : Int32} (accepted : rejects request cause = true) (nowUs : UInt64) :
    Evidenced journal (journal.rejectAndCoast answer request cause nowUs).2 ∧
      Safe (journal.rejectAndCoast answer request cause nowUs).2 := by
  unfold CommandJournal.rejectAndCoast
  rw [accepted]
  exact traced.coasted request cause nowUs

/-- A request that is applied leaves true evidence; one that fails leaves the motor coasting. -/
theorem Traced.apply (traced : Traced journal) {request : MotorCommandRequest}
    (applied : journal.skips request = false) (nowUs : UInt64) :
    Evidenced journal (journal.apply answer request nowUs).2 ∧
      ((journal.apply answer request nowUs).1 ≠ espOk →
        Safe (journal.apply answer request nowUs).2) := by
  obtain ⟨handed, generation, longer, succeeded⟩ := @Traced.handRequest answer _ traced request
  unfold CommandJournal.apply
  rw [applied, if_neg nofun]
  dsimp only
  split
  · rename_i failed
    obtain ⟨evidenced, safe⟩ := @Traced.coasted answer _ handed request
      (journal.handRequest answer request).1 nowUs
    refine ⟨⟨evidenced.traced, evidenced.snapshot, ?_, ?_, ?_⟩, fun _ => safe⟩
    · exact evidenced.generation.trans generation
    · exact evidenced.following.trans (congrArg (· + 1) generation)
    · exact Nat.lt_of_le_of_lt longer evidenced.invoked
  · rename_i ok
    rw [Decidable.not_not] at ok
    have opened : Traced ((journal.handRequest answer request).2.openEvidence request nowUs) :=
      handed.of_same rfl rfl rfl
    have last : LastHanded
        ((journal.handRequest answer request).2.openEvidence request nowUs) request := by
      rw [succeeded ok]
      exact lastHanded_callback request
    have snapshot := opened.snapshotTrue last (journal.handRequest answer request).1
    refine ⟨⟨opened.of_same rfl rfl rfl, snapshot, generation,
      congrArg (· + 1) generation, ?_⟩, fun failed => absurd ok failed⟩
    show journal.context.length < (journal.handRequest answer request).2.context.length
    rw [succeeded ok]
    show journal.context.length < (journal.context ++ [_]).length
    simp

end CommandJournal

/-! ### Runs -/

/-- A call of the journal, with its arguments -/
inductive JournalCall where
  | arm
  | disarm (nowUs : UInt64)
  | stopForError (cause : Int32) (nowUs : UInt64)
  | apply (request : MotorCommandRequest) (nowUs : UInt64)
  | rejectAndCoast (request : MotorCommandRequest) (cause : Int32) (nowUs : UInt64)

/-- The journal, and the evidence that it has made, in order -/
structure JournalRun where
  journal : CommandJournal
  evidences : List CommandEvidence := []

namespace JournalRun

open CommandJournal

variable (answer : ℕ → MotorApplyAnswer)

/-- Evidence has been made when `made` says so. -/
def record (run : JournalRun) (made : Bool) (next : CommandJournal) : JournalRun where
  journal := next
  evidences := if made then run.evidences ++ [next.current] else run.evidences

def step (run : JournalRun) : JournalCall → JournalRun
  | .arm => run.record false run.journal.arm.2
  | .disarm nowUs => run.record false (run.journal.disarm answer nowUs).2
  | .stopForError cause nowUs => run.record false (run.journal.stopForError answer cause nowUs).2
  | .apply request nowUs =>
      run.record (!run.journal.skips request) (run.journal.apply answer request nowUs).2
  | .rejectAndCoast request cause nowUs =>
      run.record (rejects request cause) (run.journal.rejectAndCoast answer request cause nowUs).2

/-- The run after these calls of a new journal that has a callback -/
def after (calls : List JournalCall) : JournalRun :=
  Run.after (step answer) { journal := { bound := true } } calls

/-- The journal is traced, and the evidence is numbered from one on. -/
structure Numbered (run : JournalRun) : Prop where
  traced : Traced run.journal
  started : run.evidences ≠ [] → run.journal.context ≠ []
  following : run.journal.nextGeneration = UInt64.ofNat (run.evidences.length + 1)
  current : run.journal.current.commandGeneration = UInt64.ofNat run.evidences.length
  generations : run.evidences.map (·.commandGeneration) =
    (List.range run.evidences.length).map fun number => UInt64.ofNat (number + 1)

variable {answer} {run : JournalRun}

/-- A call that makes no evidence keeps what is there. -/
theorem Numbered.keep (numbered : Numbered run) {next : CommandJournal} (traced : Traced next)
    (longer : run.journal.context.length ≤ next.context.length)
    (following : next.nextGeneration = run.journal.nextGeneration)
    (current : next.current = run.journal.current) : Numbered (run.record false next) := by
  refine ⟨traced, ?_, following.trans numbered.following, ?_, numbered.generations⟩
  · intro evidenced
    have before := List.length_pos_iff.mpr (numbered.started evidenced)
    exact List.length_pos_iff.mp (Nat.lt_of_lt_of_le before longer)
  · show next.current.commandGeneration = _
    rw [current]
    exact numbered.current

/-- New evidence has the next number. -/
theorem Numbered.extend (numbered : Numbered run) {next : CommandJournal}
    (evidenced : Evidenced run.journal next) : Numbered (run.record true next) := by
  have generation : next.current.commandGeneration = UInt64.ofNat (run.evidences.length + 1) :=
    evidenced.generation.trans numbered.following
  have evidences : (run.record true next).evidences = run.evidences ++ [next.current] := rfl
  have length : (run.record true next).evidences.length = run.evidences.length + 1 := by
    rw [evidences, List.length_append, List.length_singleton]
  refine ⟨evidenced.traced, ?_, ?_, ?_, ?_⟩
  · intro _
    exact List.length_pos_iff.mp (Nat.zero_lt_of_lt evidenced.invoked)
  · rw [length]
    show next.nextGeneration = _
    rw [evidenced.following, numbered.following, ← UInt64.ofNat_one, ← UInt64.ofNat_add]
  · rw [length]
    exact generation
  · rw [length, evidences, List.map_append, numbered.generations, List.map_singleton, generation,
      List.range_succ, List.map_append, List.map_singleton]

theorem Numbered.step (numbered : Numbered run) (call : JournalCall) :
    Numbered (run.step answer call) := by
  have disarmed : ∀ nowUs, Numbered (run.record false (run.journal.disarm answer nowUs).2) := by
    intro nowUs
    obtain ⟨same, traced⟩ := @Traced.disarm answer _ numbered.traced nowUs
    apply numbered.keep traced
    all_goals rw [same]
    · show run.journal.context.length ≤ (run.journal.context ++ [_]).length
      simp
    · rfl
    · rfl
  have kept : Numbered (run.record false run.journal) :=
    numbered.keep numbered.traced (Nat.le_refl _) rfl rfl
  cases call with
  | arm =>
      show Numbered (run.record false run.journal.arm.2)
      unfold arm
      split
      · exact kept
      · exact numbered.keep (numbered.traced.of_same rfl rfl rfl) (Nat.le_refl _) rfl rfl
  | disarm nowUs => exact disarmed nowUs
  | stopForError cause nowUs =>
      show Numbered (run.record false (run.journal.stopForError answer cause nowUs).2)
      unfold stopForError
      split
      · exact kept
      · exact disarmed nowUs
  | apply request nowUs =>
      show Numbered
        (run.record (!run.journal.skips request) (run.journal.apply answer request nowUs).2)
      cases skips : run.journal.skips request with
      | true =>
          rw [apply_skipped skips]
          exact kept
      | false => exact numbered.extend (numbered.traced.apply skips nowUs).1
  | rejectAndCoast request cause nowUs =>
      show Numbered (run.record (rejects request cause)
        (run.journal.rejectAndCoast answer request cause nowUs).2)
      cases accepted : rejects request cause with
      | true => exact numbered.extend (numbered.traced.rejectAndCoast accepted nowUs).1
      | false =>
          unfold CommandJournal.rejectAndCoast
          rw [accepted]
          exact kept

theorem numbered_after (calls : List JournalCall) : Numbered (after answer calls) := by
  have preserved : ∀ (run : JournalRun) (call : JournalCall), Numbered run → True →
      Numbered (run.step answer call) := fun _ call numbered _ => numbered.step call
  have initially : Numbered { journal := { bound := true } } := by
    constructor
    · constructor
      · rfl
      · intro last same
        cases same
      · intro handed within
        cases within
    · exact absurd rfl
    · rfl
    · rfl
    · rfl
  exact Run.invariant_after preserved initially (Run.along_of_forall (fun _ _ => trivial) _ calls)

/-! ### The evidence -/

/-- A skipped request is the one that the callback was handed last, with success. -/
theorem Numbered.last_of_skips (numbered : Numbered run) {request : MotorCommandRequest}
    (skips : run.journal.skips request = true) :
    ∃ last ∈ run.journal.context.getLast?, last.request = request ∧ last.result = espOk := by
  unfold CommandJournal.skips requestAlreadyApplied at skips
  simp only [Bool.and_eq_true, beq_iff_eq, bne_iff_ne] at skips
  obtain ⟨-, ⟨⟨⟨⟨⟨⟨⟨⟨made, -⟩, succeeded⟩, -⟩, -⟩, -⟩, -⟩, permille⟩, mode⟩⟩ := skips
  have evidenced : run.evidences ≠ [] := by
    intro nothing
    rw [numbered.current, nothing] at made
    exact made rfl
  cases found : run.journal.context.getLast? with
  | none => exact absurd (List.getLast?_eq_none_iff.mp found) (numbered.started evidenced)
  | some last =>
      obtain ⟨samePermille, sameMode, sameResult⟩ := numbered.traced.applied last found
      refine ⟨last, rfl, ?_, sameResult.symm.trans succeeded⟩
      have same : last.request.commandPermille = request.commandPermille ∧
          last.request.mode = request.mode :=
        ⟨samePermille.symm.trans permille, sameMode.symm.trans mode⟩
      calc last.request
          = ⟨last.request.commandPermille, last.request.mode⟩ := rfl
        _ = ⟨request.commandPermille, request.mode⟩ := by rw [same.1, same.2]

/-- What the journal says then is still true. -/
theorem Numbered.snapshot_of_skips (numbered : Numbered run) {request : MotorCommandRequest}
    (skips : run.journal.skips request = true) : SnapshotTrue run.journal := by
  obtain ⟨last, there, same, -⟩ := numbered.last_of_skips skips
  unfold CommandJournal.skips requestAlreadyApplied at skips
  simp only [Bool.and_eq_true, beq_iff_eq] at skips
  obtain ⟨-, ⟨⟨⟨⟨-, permille⟩, mode⟩, -⟩, -⟩⟩ := skips
  refine ⟨last, there, fun _ => ?_⟩
  rw [same]
  exact ⟨permille, mode⟩

/-- An `apply` is true to the motor: what it says, when it skips the callback, and where it ends in an
error. -/
structure ApplyTruthful (answer : ℕ → MotorApplyAnswer) (journal : CommandJournal)
    (request : MotorCommandRequest) (nowUs : UInt64) : Prop where
  snapshot : SnapshotTrue (journal.apply answer request nowUs).2
  skipped : (journal.apply answer request nowUs).2.context = journal.context →
    (∃ last ∈ journal.context.getLast?, last.request = request ∧ last.result = espOk) ∧
      (journal.apply answer request nowUs).2.current = journal.current
  failed : (journal.apply answer request nowUs).1 ≠ espOk →
    Safe (journal.apply answer request nowUs).2

theorem Numbered.applyTruthful (numbered : Numbered run) (request : MotorCommandRequest)
    (nowUs : UInt64) : ApplyTruthful answer run.journal request nowUs := by
  cases skips : run.journal.skips request with
  | true =>
      have same := @apply_skipped answer run.journal request skips nowUs
      constructor
      · rw [same]
        exact numbered.snapshot_of_skips skips
      · rw [same]
        exact fun _ => ⟨numbered.last_of_skips skips, rfl⟩
      · rw [same]
        exact absurd rfl
  | false =>
      obtain ⟨evidenced, failed⟩ := @Traced.apply answer _ numbered.traced request skips nowUs
      refine ⟨evidenced.snapshot, ?_, failed⟩
      intro same
      have longer := evidenced.invoked
      rw [same] at longer
      exact absurd longer (Nat.lt_irrefl _)

/-- Over every run a drive or brake request reaches the callback only while the journal is armed, what
the journal says of the output is true, and the evidence is numbered. -/
theorem evidence_truthful (answer : ℕ → MotorApplyAnswer) (calls : List JournalCall) :
    (∀ handed ∈ (after answer calls).journal.context,
        handed.request.commandPermille ≠ 0 ∨ handed.request.mode ≠ .coast →
          handed.armed = true) ∧
      (∀ request nowUs, ApplyTruthful answer (after answer calls).journal request nowUs) ∧
      (∀ request cause nowUs, rejects request cause = true →
        SnapshotTrue
            ((after answer calls).journal.rejectAndCoast answer request cause nowUs).2 ∧
          Safe ((after answer calls).journal.rejectAndCoast answer request cause nowUs).2) ∧
      (after answer calls).journal.current.commandGeneration =
        UInt64.ofNat (after answer calls).evidences.length ∧
      ((after answer calls).evidences.length < 2 ^ 64 →
        ((after answer calls).evidences.map (·.commandGeneration)).Pairwise (· < ·)) := by
  have numbered := @numbered_after answer calls
  refine ⟨?_, fun request nowUs => numbered.applyTruthful request nowUs, ?_, numbered.current, ?_⟩
  · intro handed within drives
    apply numbered.traced.gated handed within
    intro coast
    rw [coast] at drives
    exact drives.elim (absurd rfl) (absurd rfl)
  · intro request cause nowUs accepted
    obtain ⟨evidenced, safe⟩ := @Traced.rejectAndCoast answer _ numbered.traced request cause
      accepted nowUs
    exact ⟨evidenced.snapshot, safe⟩
  · intro few
    rw [numbered.generations, List.pairwise_map]
    apply List.pairwise_lt_range.imp_of_mem
    intro first second firstWithin secondWithin below
    rw [List.mem_range] at firstWithin secondWithin
    rw [UInt64.lt_iff_toNat_lt, UInt64.toNat_ofNat', UInt64.toNat_ofNat',
      Nat.mod_eq_of_lt (by omega), Nat.mod_eq_of_lt (by omega)]
    exact Nat.succ_lt_succ below

/-- Every request that is rejected makes evidence. -/
theorem evidences_replicate (number : ℕ) :
    (after answer (List.replicate number (.rejectAndCoast .toCoast 1 0))).evidences.length =
      number := by
  induction number with
  | zero => rfl
  | succ number inductionHypothesis =>
      rw [List.replicate_succ']
      unfold after at inductionHypothesis ⊢
      rw [Run.after_concat]
      show (_ ++ [_]).length = number + 1
      rw [List.length_append, inductionHypothesis]
      rfl

/-- After 2^64 of them the generation is zero again. -/
theorem generation_wraps :
    ¬∀ (answer : ℕ → MotorApplyAnswer) (calls : List JournalCall),
      ((after answer calls).evidences.map (·.commandGeneration)).Pairwise (· < ·) := by
  intro increasing
  have ordered := increasing (fun _ => ⟨espOk, 0⟩)
    (List.replicate (2 ^ 64) (.rejectAndCoast .toCoast 1 0))
  rw [(numbered_after _).generations, evidences_replicate, List.pairwise_map,
    List.pairwise_iff_getElem] at ordered
  have wrapped := ordered 0 (2 ^ 64 - 1) (by rw [List.length_range]; omega)
    (by rw [List.length_range]; omega) (by omega)
  rw [List.getElem_range, List.getElem_range] at wrapped
  exact absurd wrapped (by decide)

end JournalRun

end MissionBoard.Characterization
