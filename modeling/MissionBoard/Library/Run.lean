import Mathlib.Data.List.Infix
import Mathlib.Order.Basic

/-!
Owns runs of a deterministic labelled system: the state after a list of labels,
the requirement that every step of a run meet a predicate judged in the state
before it, and the rules that carry a fact about one step to a whole run. It also
owns the requirement that every event of a trace be allowed by the events before it, and
the custody of what the events of a trace take charge of until a later one releases it.

Nothing here names a particular system. A client supplies the step function and
proves one preservation lemma for it.
-/

namespace Run

variable {σ ι : Type*} (step : σ → ι → σ)

/-- The state after performing `labels` in order from `start`. -/
def after (start : σ) (labels : List ι) : σ := labels.foldl step start

/-- Every step of the run from a state meets `permitted` in the state before it. -/
def Along (permitted : σ → ι → Prop) : σ → List ι → Prop
  | _, [] => True
  | state, label :: rest => permitted state label ∧ Along permitted (step state label) rest

instance decidableAlong (permitted : σ → ι → Prop) [∀ state label, Decidable (permitted state label)] :
    ∀ (start : σ) (labels : List ι), Decidable (Along step permitted start labels)
  | _, [] => .isTrue trivial
  | state, label :: rest =>
      have := decidableAlong permitted (step state label) rest
      inferInstanceAs (Decidable (permitted state label ∧ Along step permitted _ rest))

@[simp] theorem after_nil (start : σ) : after step start [] = start := rfl

@[simp] theorem after_cons (start : σ) (label : ι) (rest : List ι) :
    after step start (label :: rest) = after step (step start label) rest := rfl

theorem after_append (start : σ) (first second : List ι) :
    after step start (first ++ second) = after step (after step start first) second :=
  List.foldl_append

theorem after_concat (start : σ) (labels : List ι) (last : ι) :
    after step start (labels ++ [last]) = step (after step start labels) last := by
  rw [after_append, after_cons, after_nil]

variable {step} {permitted : σ → ι → Prop}

@[simp] theorem along_nil (start : σ) : Along step permitted start [] := trivial

@[simp] theorem along_cons (start : σ) (label : ι) (rest : List ι) :
    Along step permitted start (label :: rest) ↔
      permitted start label ∧ Along step permitted (step start label) rest := Iff.rfl

theorem along_append (start : σ) (first second : List ι) :
    Along step permitted start (first ++ second) ↔
      Along step permitted start first ∧
        Along step permitted (after step start first) second := by
  induction first generalizing start with
  | nil => simp
  | cons label rest inductionHypothesis =>
      simp only [List.cons_append, along_cons, after_cons, inductionHypothesis, and_assoc]

/-- A requirement that every step meets holds along every run. -/
theorem along_of_forall (permits : ∀ state label, permitted state label) (start : σ)
    (labels : List ι) : Along step permitted start labels := by
  induction labels generalizing start with
  | nil => trivial
  | cons label rest inductionHypothesis =>
      exact ⟨permits start label, inductionHypothesis (step start label)⟩

/-! ### From one step to a whole run -/

/-- The invariant rule: a predicate kept by every permitted step holds at the
end of every run of permitted steps that starts in it. -/
theorem invariant_after {invariant : σ → Prop}
    (preserved : ∀ state label, invariant state → permitted state label →
      invariant (step state label))
    {start : σ} (initially : invariant start) {labels : List ι}
    (along : Along step permitted start labels) : invariant (after step start labels) := by
  induction labels generalizing start with
  | nil => exact initially
  | cons label rest inductionHypothesis =>
      exact inductionHypothesis (preserved start label initially along.1) along.2

/-- The log rule: when every permitted step keeps an invariant and appends only events of
one kind, a run of permitted steps appends only events of that kind. -/
theorem appends_after {ε : Type*} {invariant : σ → Prop} {log : σ → List ε} {kind : ε → Prop}
    (preserved : ∀ state label, invariant state → permitted state label →
      invariant (step state label) ∧
        ∃ events, log (step state label) = log state ++ events ∧ ∀ event ∈ events, kind event)
    {start : σ} (initially : invariant start) {labels : List ι}
    (along : Along step permitted start labels) :
    invariant (after step start labels) ∧
      ∃ events, log (after step start labels) = log start ++ events ∧
        ∀ event ∈ events, kind event := by
  induction labels generalizing start with
  | nil => exact ⟨initially, [], (List.append_nil _).symm, nofun⟩
  | cons label rest inductionHypothesis =>
      obtain ⟨next, first, logged, ofKind⟩ := preserved start label initially along.1
      obtain ⟨last, second, appended, restOfKind⟩ := inductionHypothesis next along.2
      refine ⟨last, first ++ second, ?_, ?_⟩
      · rw [after_cons, appended, logged, List.append_assoc]
      · intro event within
        exact (List.mem_append.mp within).elim (ofKind event) (restOfKind event)

/-- A measure that no permitted step lowers is not lowered by a run. The
measure may need an invariant to be judged. -/
theorem measure_le_after {α : Type*} [Preorder α] {invariant : σ → Prop} {measure : σ → α}
    (preserved : ∀ state label, invariant state → permitted state label →
      invariant (step state label) ∧ measure state ≤ measure (step state label))
    {start : σ} (initially : invariant start) {labels : List ι}
    (along : Along step permitted start labels) :
    measure start ≤ measure (after step start labels) := by
  induction labels generalizing start with
  | nil => exact le_rfl
  | cons label rest inductionHypothesis =>
      obtain ⟨next, grows⟩ := preserved start label initially along.1
      exact grows.trans (inductionHypothesis next along.2)

/-- The progress rule: a step that reaches the goal or lowers a measure reaches the goal
when it is taken often enough. -/
theorem reaches_of_measure {goal invariant : σ → Prop} {measure : σ → ℕ} {label : ι}
    (progress : ∀ state, invariant state →
      goal (step state label) ∨
        (invariant (step state label) ∧ measure (step state label) < measure state))
    {start : σ} (initially : invariant start) :
    ∃ count, goal (after step start (List.replicate count label)) := by
  induction size : measure start using Nat.strong_induction_on generalizing start with
  | _ bound inductionHypothesis =>
      rcases progress start initially with reached | ⟨kept, lower⟩
      · exact ⟨1, reached⟩
      · obtain ⟨count, reached⟩ := inductionHypothesis _ (size ▸ lower) kept rfl
        exact ⟨count + 1, reached⟩

/-- When the permitted steps are exactly the ones that keep the invariant, the
runs of permitted steps are exactly the runs that never leave it. -/
theorem along_iff_invariant {invariant : σ → Prop}
    (exact : ∀ state label, invariant state →
      (invariant (step state label) ↔ permitted state label))
    {start : σ} (initially : invariant start) (labels : List ι) :
    Along step permitted start labels ↔
      ∀ initial, initial <+: labels → invariant (after step start initial) := by
  constructor
  · rintro along initial ⟨rest, rfl⟩
    rw [along_append] at along
    exact invariant_after (fun state label holds => (exact state label holds).mpr) initially along.1
  · intro always
    induction labels generalizing start with
    | nil => trivial
    | cons label rest inductionHypothesis =>
        have next : invariant (step start label) :=
          always [label] ⟨rest, rfl⟩
        refine ⟨(exact start label initially).mp next, inductionHypothesis next ?_⟩
        intro initial within
        exact always (label :: initial) (List.cons_prefix_cons.mpr ⟨rfl, within⟩)

end Run

namespace Trace

variable {ε : Type*}

/-- Every event of the trace is one that the events before it allow. -/
def Throughout (allowed : List ε → ε → Prop) (trace : List ε) : Prop :=
  ∀ first event second, trace = first ++ event :: second → allowed first event

theorem throughout_nil (allowed : List ε → ε → Prop) : Throughout allowed [] := by
  intro first event second splits
  exact absurd splits.symm (List.append_ne_nil_of_right_ne_nil first (List.cons_ne_nil _ _))

/-- Where an event stands in a trace with one event more -/
theorem split_concat {trace first second : List ε} {last event : ε}
    (splits : trace ++ [last] = first ++ event :: second) :
    (second = [] ∧ last = event ∧ trace = first) ∨
      ∃ rest, second = rest ++ [last] ∧ trace = first ++ event :: rest := by
  rcases List.eq_nil_or_concat second with rfl | ⟨rest, tail, rfl⟩
  · obtain ⟨same, ends⟩ := List.append_inj' splits rfl
    exact Or.inl ⟨rfl, List.head_eq_of_cons_eq ends, same⟩
  · rw [List.concat_eq_append] at splits ⊢
    have longer : trace ++ [last] = (first ++ event :: rest) ++ [tail] := by
      rw [splits]
      simp
    obtain ⟨shorter, ends⟩ := List.append_inj' longer rfl
    exact Or.inr ⟨rest, by rw [List.head_eq_of_cons_eq ends], shorter⟩

theorem throughout_concat {allowed : List ε → ε → Prop} {trace : List ε}
    (holds : Throughout allowed trace) {last : ε} (allows : allowed trace last) :
    Throughout allowed (trace ++ [last]) := by
  intro first event second splits
  rcases split_concat splits with ⟨-, rfl, rfl⟩ | ⟨rest, -, shorter⟩
  · exact allows
  · exact holds first event rest shorter

/-- What is allowed throughout a trace is allowed throughout its beginning. -/
theorem Throughout.initial {allowed : List ε → ε → Prop} {trace rest : List ε}
    (holds : Throughout allowed (trace ++ rest)) : Throughout allowed trace := by
  rintro first event second rfl
  exact holds first event (second ++ rest) (by simp)

theorem throughout_concat_iff {allowed : List ε → ε → Prop} {trace : List ε} {last : ε} :
    Throughout allowed (trace ++ [last]) ↔ Throughout allowed trace ∧ allowed trace last :=
  ⟨fun holds => ⟨holds.initial, holds trace last [] rfl⟩,
    fun ⟨holds, allows⟩ => throughout_concat holds allows⟩

/-! ### Custody -/

variable {κ : Type*}

/-- Every key that an event takes charge of is released by a later event or still held. -/
def Custody (takes releases : ε → κ → Prop) (held : κ → Prop) (trace : List ε) : Prop :=
  ∀ first event second, trace = first ++ event :: second → ∀ key, takes event key →
    (∃ later ∈ second, releases later key) ∨ held key

theorem custody_nil (takes releases : ε → κ → Prop) (held : κ → Prop) :
    Custody takes releases held [] := by
  intro first event second splits
  exact absurd splits.symm (List.append_ne_nil_of_right_ne_nil first (List.cons_ne_nil _ _))

variable {takes releases : ε → κ → Prop} {held next : κ → Prop} {trace : List ε}

/-- Keys may be handed on without an event. -/
theorem Custody.mono (custody : Custody takes releases held trace)
    (kept : ∀ key, held key → next key) : Custody takes releases next trace := by
  intro first event second splits key taken
  exact (custody first event second splits key taken).imp_right (kept key)

/-- An event may release what is held; what it takes charge of must be held after it. -/
theorem Custody.concat (custody : Custody takes releases held trace) {last : ε}
    (kept : ∀ key, held key → releases last key ∨ next key)
    (fresh : ∀ key, takes last key → next key) : Custody takes releases next (trace ++ [last]) := by
  intro first event second splits key taken
  rcases split_concat splits with ⟨-, rfl, -⟩ | ⟨rest, rfl, shorter⟩
  · exact Or.inr (fresh key taken)
  · rcases custody first event rest shorter key taken with ⟨later, within, released⟩ | holds
    · exact Or.inl ⟨later, List.mem_append_left _ within, released⟩
    · rcases kept key holds with released | stays
      · exact Or.inl ⟨last, List.mem_append_right _ (List.mem_singleton_self last), released⟩
      · exact Or.inr stays

end Trace
