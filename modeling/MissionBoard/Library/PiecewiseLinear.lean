import Mathlib.Topology.Algebra.Order.Field

/-!
Owns the piecewise-linear interpolation of a table: the line through each two neighbouring knots,
and the outermost values beyond the table.
-/

namespace PiecewiseLinear

section Field

variable {𝕜 : Type*} [Field 𝕜]

/-- The line through two knots -/
def line (left right : 𝕜 × 𝕜) (at_ : 𝕜) : 𝕜 :=
  left.2 + (at_ - left.1) / (right.1 - left.1) * (right.2 - left.2)

@[simp] theorem line_left (left right : 𝕜 × 𝕜) : line left right left.1 = left.2 := by
  rw [line, sub_self, zero_div, zero_mul, add_zero]

theorem line_right {left right : 𝕜 × 𝕜} (apart : left.1 ≠ right.1) :
    line left right right.1 = right.2 := by
  rw [line, div_self (sub_ne_zero.mpr apart.symm), one_mul, add_sub_cancel]

end Field

variable {𝕜 : Type*} [Field 𝕜] [LinearOrder 𝕜]

/-- The interpolation of the knots, which are in increasing order -/
def eval : List (𝕜 × 𝕜) → 𝕜 → 𝕜
  | [], _ => 0
  | [knot], _ => knot.2
  | left :: right :: rest, place =>
      if place ≤ left.1 then left.2
      else if place ≤ right.1 then line left right place
      else eval (right :: rest) place

variable {knot left right : 𝕜 × 𝕜} {front rest back : List (𝕜 × 𝕜)} {place : 𝕜}

/-- Before the table, the interpolation has the first value. -/
theorem eval_of_le (before : place ≤ knot.1) : eval (knot :: rest) place = knot.2 := by
  cases rest with
  | nil => rfl
  | cons next rest => rw [eval, if_pos before]

/-- After the table, it has the last one. -/
theorem eval_of_ge (sorted : (front ++ [knot]).Pairwise fun first second => first.1 < second.1)
    (after : knot.1 ≤ place) : eval (front ++ [knot]) place = knot.2 := by
  induction front with
  | nil => rfl
  | cons first front inductionHypothesis =>
      rw [List.cons_append, List.pairwise_cons] at sorted
      have last : first.1 < place :=
        (sorted.1 knot (List.mem_append_right _ (List.mem_singleton_self knot))).trans_le after
      have following := inductionHypothesis sorted.2
      cases front with
      | nil =>
          show (if place ≤ first.1 then first.2 else if place ≤ knot.1 then line first knot place
            else knot.2) = knot.2
          rw [if_neg last.not_ge]
          split
          · rename_i ends
            rw [le_antisymm ends after]
            exact line_right (sorted.1 knot (List.mem_singleton_self knot)).ne
          · rfl
      | cons second front =>
          have beyond : second.1 < place :=
            ((List.pairwise_cons.mp sorted.2).1 knot
              (List.mem_append_right _ (List.mem_singleton_self knot))).trans_le after
          rw [List.cons_append, List.cons_append, eval, if_neg last.not_ge, if_neg beyond.not_ge]
          exact following

/-- Between two neighbouring knots it is the line through them, at either end as well. -/
theorem eval_of_segment
    (sorted : (front ++ left :: right :: back).Pairwise fun first second => first.1 < second.1)
    (above : left.1 ≤ place) (below : place ≤ right.1) :
    eval (front ++ left :: right :: back) place = line left right place := by
  induction front with
  | nil =>
      rw [List.nil_append, eval]
      by_cases begins : place ≤ left.1
      · rw [if_pos begins, le_antisymm begins above, line_left]
      · rw [if_neg begins, if_pos below]
  | cons first front inductionHypothesis =>
      rw [List.cons_append, List.pairwise_cons] at sorted
      have before : first.1 < place :=
        (sorted.1 left (List.mem_append_right _ List.mem_cons_self)).trans_le above
      obtain ⟨next, following, same⟩ : ∃ next following,
          front ++ left :: right :: back = next :: following := by
        cases front with
        | nil => exact ⟨_, _, rfl⟩
        | cons next front => exact ⟨_, _, rfl⟩
      have reached : next.1 ≤ left.1 := by
        have inside : left ∈ next :: following :=
          same ▸ List.mem_append_right _ List.mem_cons_self
        rcases List.mem_cons.mp inside with rfl | later
        · exact le_rfl
        · exact ((List.pairwise_cons.mp (same ▸ sorted.2)).1 left later).le
      rw [← inductionHypothesis sorted.2, List.cons_append, same, eval, if_neg before.not_ge]
      split
      · rename_i ends
        rw [le_antisymm ends (reached.trans above), eval_of_le le_rfl]
        exact line_right (sorted.1 next (same ▸ List.mem_cons_self)).ne
      · rfl

/-- At a knot it has the value of the knot. -/
theorem eval_knot (sorted : (front ++ knot :: back).Pairwise fun first second => first.1 < second.1) :
    eval (front ++ knot :: back) knot.1 = knot.2 := by
  cases back with
  | nil => exact eval_of_ge sorted le_rfl
  | cons next back =>
      have apart : knot.1 < next.1 :=
        (List.pairwise_cons.mp (List.pairwise_append.mp sorted).2.1).1 next List.mem_cons_self
      rw [eval_of_segment sorted le_rfl apart.le, line_left]

/-- The pieces fit together. -/
theorem continuous_eval [IsStrictOrderedRing 𝕜] [TopologicalSpace 𝕜] [OrderTopology 𝕜]
    {knots : List (𝕜 × 𝕜)} (sorted : knots.Pairwise fun first second => first.1 < second.1) :
    Continuous (eval knots) := by
  induction knots with
  | nil => exact continuous_const
  | cons first rest inductionHypothesis =>
      cases rest with
      | nil => exact continuous_const
      | cons second rest =>
          have apart : first.1 < second.1 :=
            (List.pairwise_cons.mp sorted).1 second List.mem_cons_self
          have straight : Continuous (line first second) := by
            unfold line
            fun_prop
          have following := inductionHypothesis (List.pairwise_cons.mp sorted).2
          have inner : Continuous fun place =>
              if place ≤ second.1 then line first second place else eval (second :: rest) place := by
            apply Continuous.if_le straight following continuous_id continuous_const
            rintro _ rfl
            rw [line_right apart.ne, eval_of_le le_rfl]
          show Continuous fun place => if place ≤ first.1 then first.2
            else if place ≤ second.1 then line first second place else eval (second :: rest) place
          apply Continuous.if_le continuous_const inner continuous_id continuous_const
          rintro _ rfl
          rw [if_pos apart.le, line_left]

end PiecewiseLinear
