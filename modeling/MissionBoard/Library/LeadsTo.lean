import Mathlib.Data.Nat.Init

/-!
Owns what a run comes to: one predicate leads to another along a sequence of states, the rule for a
wait that reads an input turn after turn until it is ready, and the rule for a rank that is lowered
time and again.

Nothing here names a particular system. A client supplies the sequence of states of its run and
what one step of it does.
-/

variable {σ : Type*}

/-- Whenever the first predicate holds in the run, the second one holds then or later. -/
def LeadsTo (run : ℕ → σ) (first second : σ → Prop) : Prop :=
  ∀ index, first (run index) → ∃ later, index ≤ later ∧ second (run later)

namespace LeadsTo

variable {run : ℕ → σ} {first second third : σ → Prop}

theorem of_step (step : ∀ index, first (run index) → second (run (index + 1))) :
    LeadsTo run first second :=
  fun index holds => ⟨index + 1, Nat.le_succ index, step index holds⟩

theorem of_imp (implies : ∀ state, first state → second state) : LeadsTo run first second :=
  fun index holds => ⟨index, Nat.le_refl index, implies _ holds⟩

theorem trans (before : LeadsTo run first second) (after : LeadsTo run second third) :
    LeadsTo run first third := by
  intro index holds
  obtain ⟨middle, reached, between⟩ := before index holds
  obtain ⟨later, further, ends⟩ := after middle between
  exact ⟨later, Nat.le_trans reached further, ends⟩

theorem mono (leads : LeadsTo run first second) (implies : ∀ state, second state → third state) :
    LeadsTo run first third :=
  leads.trans (of_imp implies)

/-- The waiting rule. Each turn of the wait reads the input at a cursor, ends the wait when the input is
ready there, and otherwise moves the cursor on by no more than the width. When the input is time and
again ready for a whole width, the wait ends. -/
theorem of_window {waits goal : σ → Prop} (cursor : σ → ℕ) (ready : ℕ → Prop) (width : ℕ)
    (turn : ∀ index, waits (run index) → goal (run (index + 1)) ∨
      waits (run (index + 1)) ∧ ¬ready (cursor (run index)) ∧
        cursor (run index) < cursor (run (index + 1)) ∧
        cursor (run (index + 1)) ≤ cursor (run index) + width)
    (comes : ∀ moment, ∃ later, moment ≤ later ∧
      ∀ read, later ≤ read → read < later + width → ready read) :
    LeadsTo run waits goal := by
  -- The cursor is before the window or in it, and it cannot jump over it.
  have reaches : ∀ (later : ℕ), (∀ read, later ≤ read → read < later + width → ready read) →
      ∀ (distance index : ℕ), waits (run index) → later ≤ cursor (run index) + distance →
        cursor (run index) < later + width → ∃ reached, index ≤ reached ∧ goal (run reached) := by
    intro later window distance
    induction distance with
    | zero =>
        intro index waiting arrived within
        rcases turn index waiting with ended | ⟨-, unready, -, -⟩
        · exact ⟨index + 1, Nat.le_succ index, ended⟩
        · exact absurd (window _ arrived within) unready
    | succ distance inductionHypothesis =>
        intro index waiting near within
        rcases turn index waiting with ended | ⟨goesOn, unready, moves, slow⟩
        · exact ⟨index + 1, Nat.le_succ index, ended⟩
        · have before : cursor (run index) < later :=
            Nat.lt_of_not_le fun arrived => unready (window _ arrived within)
          obtain ⟨reached, further, ends⟩ := inductionHypothesis (index + 1) goesOn (by omega)
            (by omega)
          exact ⟨reached, by omega, ends⟩
  intro index waiting
  rcases turn index waiting with ended | ⟨-, -, moves, slow⟩
  · exact ⟨index + 1, Nat.le_succ index, ended⟩
  · obtain ⟨later, after, window⟩ := comes (cursor (run index))
    exact reaches later window (later - cursor (run index)) index waiting (by omega) (by omega)

/-- The rank rule. When every rank leads to the goal or to a lower rank, the run comes to the goal. -/
theorem of_rank {goal : σ → Prop} (rank : σ → ℕ)
    (progress : ∀ bound, LeadsTo run (fun state => rank state = bound)
      fun state => goal state ∨ rank state < bound) :
    ∀ index, ∃ later, index ≤ later ∧ goal (run later) := by
  have below : ∀ bound, LeadsTo run (fun state => rank state = bound) goal := by
    intro bound
    induction bound using Nat.strongRecOn with
    | ind bound inductionHypothesis =>
        intro index same
        obtain ⟨later, after, reached | lower⟩ := progress bound index same
        · exact ⟨later, after, reached⟩
        · obtain ⟨last, further, ends⟩ := inductionHypothesis _ lower later rfl
          exact ⟨last, Nat.le_trans after further, ends⟩
  exact fun index => below _ index rfl

end LeadsTo
