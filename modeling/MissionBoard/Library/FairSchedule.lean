import Mathlib.Order.WellFounded

/-!
Owns the endless runs of a deterministic labelled system under a schedule that gives every task
its turns, and the rule for what such a run reaches: a measure that no step raises, and a task
at each moment whose next step lowers it.

Nothing here names a particular system. A client says which labels count as a turn of which
task.
-/

namespace FairSchedule

variable {σ ι κ α : Type*} (step : σ → ι → σ)

/-- The state at a moment of the run that the schedule gives -/
def stateAt (start : σ) (schedule : ℕ → ι) : ℕ → σ
  | 0 => start
  | moment + 1 => step (stateAt start schedule moment) (schedule moment)

/-- The task has a turn after every moment. -/
def Often (turn : ι → Prop) (schedule : ℕ → ι) : Prop :=
  ∀ moment, ∃ later, moment ≤ later ∧ turn (schedule later)

variable {step} {start : σ} {schedule : ℕ → ι}

/-- The rule of the helpful task. While the goal is not reached, every step keeps the invariant;
it lowers the measure, or it leaves the measure and the helpful task as they are and is no turn
of that task. -/
theorem reaches [Preorder α] [WellFoundedLT α] {invariant goal : σ → Prop} {measure : σ → α}
    {helpful : σ → κ} {turn : κ → ι → Prop} (fair : ∀ task, Often (turn task) schedule)
    (progress : ∀ moment, invariant (stateAt step start schedule moment) →
      goal (stateAt step start schedule moment) ∨
        (invariant (stateAt step start schedule (moment + 1)) ∧
          (measure (stateAt step start schedule (moment + 1)) <
              measure (stateAt step start schedule moment) ∨
            (measure (stateAt step start schedule (moment + 1)) =
                measure (stateAt step start schedule moment) ∧
              helpful (stateAt step start schedule (moment + 1)) =
                helpful (stateAt step start schedule moment) ∧
              ¬ turn (helpful (stateAt step start schedule moment)) (schedule moment)))))
    (moment : ℕ) (initially : invariant (stateAt step start schedule moment)) :
    ∃ later, moment ≤ later ∧ goal (stateAt step start schedule later) := by
  induction bound : measure (stateAt step start schedule moment) using
    WellFoundedLT.induction generalizing moment with
  | ind bound lower =>
      subst bound
      obtain ⟨due, after, itsTurn⟩ := fair (helpful (stateAt step start schedule moment)) moment
      obtain ⟨wait, rfl⟩ := Nat.exists_eq_add_of_le after
      -- The induction is on how long the helpful task waits for its turn.
      induction wait generalizing moment with
      | zero =>
          rcases progress moment initially with reached | ⟨kept, falls | ⟨-, -, notIts⟩⟩
          · exact ⟨moment, le_rfl, reached⟩
          · obtain ⟨later, beyond, reached⟩ := lower _ falls _ kept rfl
            exact ⟨later, (Nat.le_succ _).trans beyond, reached⟩
          · exact absurd itsTurn notIts
      | succ wait sooner =>
          rcases progress moment initially with reached | ⟨kept, falls | ⟨same, still, -⟩⟩
          · exact ⟨moment, le_rfl, reached⟩
          · obtain ⟨later, beyond, reached⟩ := lower _ falls _ kept rfl
            exact ⟨later, (Nat.le_succ _).trans beyond, reached⟩
          · have shifted : moment + 1 + wait = moment + (wait + 1) := by omega
            obtain ⟨later, beyond, reached⟩ := sooner _ kept
              (fun next falls => lower next (same ▸ falls)) (Nat.le_add_right _ _)
              (by rw [shifted, still]; exact itsTurn)
            exact ⟨later, (Nat.le_succ _).trans beyond, reached⟩

end FairSchedule
