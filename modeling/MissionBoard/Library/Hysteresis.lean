import Mathlib.Data.List.Infix
import Mathlib.Data.List.TakeWhile

/-!
Owns switching with hysteresis: a switch that so many high samples in a row turn on, and so many
low ones in a row turn off.

Whether it is on is stated over a history with the latest sample first. What one more sample does
to it takes only the lengths of the two latest runs, which is what a pair of counters can know.
-/

namespace Hysteresis

variable {α : Type*}

/-- Somewhere in the history, so many samples in a row have the property. -/
def HasRun (property : α → Bool) (length : ℕ) (history : List α) : Prop :=
  ∃ run, run <:+: history ∧ run.length = length ∧ ∀ sample ∈ run, property sample = true

/-- A run of `entry` high samples is complete, and no run of `stop` low samples has come after it.
-/
def On (high : α → Bool) (entry stop : ℕ) (history : List α) : Prop :=
  ∃ since run before, history = since ++ run ++ before ∧ run.length = entry ∧
    (∀ sample ∈ run, high sample = true) ∧ ¬ HasRun (fun sample => !high sample) stop since

/-- How many of the latest samples have the property, one after another -/
def latest (property : α → Bool) (history : List α) : ℕ := (history.takeWhile property).length

variable {property high : α → Bool} {entry stop length : ℕ} {history : List α} {sample : α}

@[simp] theorem latest_nil : latest property [] = 0 := rfl

theorem latest_cons_of_pos (holds : property sample = true) :
    latest property (sample :: history) = latest property history + 1 := by
  rw [latest, List.takeWhile_cons_of_pos holds, List.length_cons, latest]

theorem latest_cons_of_neg (fails : ¬ property sample = true) :
    latest property (sample :: history) = 0 := by
  rw [latest, List.takeWhile_cons_of_neg fails, List.length_nil]

/-- The latest run is as long as the longest prefix with the property. -/
theorem le_latest_iff : length ≤ latest property history ↔
    ∃ run, run <+: history ∧ run.length = length ∧ ∀ sample ∈ run, property sample = true := by
  constructor
  · intro long
    refine ⟨(history.takeWhile property).take length,
      (List.take_prefix _ _).trans (List.takeWhile_prefix property),
      List.length_take_of_le long, fun sample within => ?_⟩
    exact List.mem_takeWhile_imp (List.mem_of_mem_take within)
  · rintro ⟨run, ⟨rest, rfl⟩, rfl, all⟩
    rw [latest, List.takeWhile_append_of_pos all, List.length_append]
    exact Nat.le_add_right _ _

theorem not_hasRun_nil (positive : 0 < length) : ¬ HasRun property length [] := by
  rintro ⟨run, within, long, -⟩
  rw [List.infix_nil.mp within, List.length_nil] at long
  omega

/-- With one more sample, a run is the latest one or was there before. -/
theorem hasRun_cons : HasRun property length (sample :: history) ↔
    length ≤ latest property (sample :: history) ∨ HasRun property length history := by
  rw [le_latest_iff]
  constructor
  · rintro ⟨run, within, rest⟩
    rcases List.infix_cons_iff.mp within with front | inside
    · exact Or.inl ⟨run, front, rest⟩
    · exact Or.inr ⟨run, inside, rest⟩
  · rintro (⟨run, front, rest⟩ | ⟨run, inside, rest⟩)
    · exact ⟨run, List.infix_cons_iff.mpr (Or.inl front), rest⟩
    · exact ⟨run, List.infix_cons_iff.mpr (Or.inr inside), rest⟩

theorem not_on_nil (positive : 0 < entry) : ¬ On high entry stop [] := by
  rintro ⟨since, run, before, parts, long, -⟩
  have whole := congrArg List.length parts
  simp only [List.length_nil, List.length_append] at whole
  omega

/-- A high sample can complete a run, and ends no run that has turned the switch on. -/
theorem on_cons_of_high (positive : 0 < stop) (rises : high sample = true) :
    On high entry stop (sample :: history) ↔
      entry ≤ latest high (sample :: history) ∨ On high entry stop history := by
  constructor
  · rintro ⟨since, run, before, parts, long, all, quiet⟩
    cases since with
    | nil => exact Or.inl (le_latest_iff.mpr ⟨run, ⟨before, parts.symm⟩, long, all⟩)
    | cons first since =>
        obtain ⟨-, parts⟩ := List.cons.inj parts
        exact Or.inr ⟨since, run, before, parts, long, all,
          fun low => quiet (hasRun_cons.mpr (Or.inr low))⟩
  · rintro (complete | ⟨since, run, before, rfl, long, all, quiet⟩)
    · obtain ⟨run, ⟨before, parts⟩, long, all⟩ := le_latest_iff.mp complete
      exact ⟨[], run, before, parts.symm, long, all, not_hasRun_nil positive⟩
    · refine ⟨sample :: since, run, before, rfl, long, all, fun low => ?_⟩
      rcases hasRun_cons.mp low with now | earlier
      · rw [latest_cons_of_neg (by rw [rises]; exact Bool.false_ne_true)] at now
        omega
      · exact quiet earlier

/-- Low samples in a row before a high one are as many as are low after it. -/
theorem latest_of_run {since run before : List α} (some : 0 < run.length)
    (all : ∀ sample ∈ run, high sample = true) :
    latest (fun sample => !high sample) (since ++ run ++ before) =
      latest (fun sample => !high sample) since := by
  cases run with
  | nil => exact absurd some (Nat.lt_irrefl 0)
  | cons first run =>
      have ends : (first :: (run ++ before)).takeWhile (fun sample => !high sample) = [] := by
        rw [List.takeWhile_cons, all first List.mem_cons_self]
        rfl
      rw [latest, latest, List.append_assoc, List.cons_append, List.takeWhile_append, ends]
      split
      · rename_i whole
        rw [List.append_nil, whole]
      · rfl

/-- A low sample turns the switch off when it completes a run of low samples. -/
theorem on_cons_of_low (positive : 0 < entry) (falls : ¬ high sample = true) :
    On high entry stop (sample :: history) ↔
      On high entry stop history ∧ latest (fun sample => !high sample) (sample :: history) < stop := by
  constructor
  · rintro ⟨since, run, before, parts, long, all, quiet⟩
    cases since with
    | nil =>
        cases run with
        | nil => exact absurd long positive.ne
        | cons first run =>
            obtain ⟨rfl, -⟩ := List.cons.inj parts
            exact absurd (all sample List.mem_cons_self) falls
    | cons first since =>
        have same := @latest_of_run _ high (first :: since) run before (long ▸ positive) all
        rw [parts, same]
        obtain ⟨-, parts⟩ := List.cons.inj parts
        refine ⟨⟨since, run, before, parts, long, all,
          fun low => quiet (hasRun_cons.mpr (Or.inr low))⟩, ?_⟩
        apply Nat.lt_of_not_le
        exact fun complete => quiet (hasRun_cons.mpr (Or.inl complete))
  · rintro ⟨⟨since, run, before, rfl, long, all, quiet⟩, short⟩
    refine ⟨sample :: since, run, before, rfl, long, all, fun low => ?_⟩
    rcases hasRun_cons.mp low with now | earlier
    · have same := @latest_of_run _ high (sample :: since) run before (long ▸ positive) all
      rw [List.cons_append, List.cons_append] at same
      omega
    · exact quiet earlier

end Hysteresis
