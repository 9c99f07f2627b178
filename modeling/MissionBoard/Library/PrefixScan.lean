import Mathlib.Data.List.Induction
import Mathlib.Data.List.TakeWhile
import Mathlib.Order.Lattice

/-!
Owns the scan of a list of positions up to the first that fails a test: what it keeps of
the last position that passed, how it goes on over lists in a row, and, for sorted
positions, which of them it reaches.
-/

namespace PrefixScan

variable {α β : Type*} {passes : α → Bool}

/-- The scan keeps the result of the last position that passed before the first that did
not. -/
def scan (passes : α → Bool) (result : α → β) (start : β) (positions : List α) : β :=
  (positions.takeWhile passes).foldl (fun _ position => result position) start

variable {result : α → β} {start : β}

@[simp] theorem scan_nil : scan passes result start [] = start := rfl

theorem scan_cons_of_passes {position : α} {rest : List α} (passed : passes position = true) :
    scan passes result start (position :: rest) = scan passes result (result position) rest := by
  simp [scan, passed]

theorem scan_cons_of_fails {position : α} {rest : List α} (failed : passes position = false) :
    scan passes result start (position :: rest) = start := by
  simp [scan, failed]

/-- After positions that all pass, the scan goes on. -/
theorem scan_append_of_all {first second : List α} (all : first.all passes = true) :
    scan passes result start (first ++ second) =
      scan passes result (scan passes result start first) second := by
  unfold scan
  rw [List.all_eq_true] at all
  rw [List.takeWhile_append_of_pos all, List.takeWhile_eq_self_iff.mpr all, List.foldl_append]

/-- After a position that fails, nothing is scanned. -/
theorem scan_append_of_not_all {first second : List α} (stops : first.all passes = false) :
    scan passes result start (first ++ second) = scan passes result start first := by
  induction first generalizing start with
  | nil => cases stops
  | cons position rest inductionHypothesis =>
      cases passed : passes position with
      | false => rw [List.cons_append, scan_cons_of_fails passed, scan_cons_of_fails passed]
      | true =>
          have later : rest.all passes = false := by simpa [passed] using stops
          rw [List.cons_append, scan_cons_of_passes passed, scan_cons_of_passes passed,
            inductionHypothesis later]

/-- The result is that of the last position that was reached. -/
theorem scan_eq (positions : List α) : scan passes result start positions =
    ((positions.takeWhile passes).getLast?.map result).getD start := by
  unfold scan
  generalize positions.takeWhile passes = reached
  induction reached using List.reverseRecOn with
  | nil => rfl
  | append_singleton before last _ => simp

/-! ### Sorted positions -/

variable [LinearOrder α] {positions : List α}

/-- A position is reached when it and all before it pass. -/
theorem mem_takeWhile_iff (sorted : positions.Pairwise (· < ·)) {position : α} :
    position ∈ positions.takeWhile passes ↔
      position ∈ positions ∧
        ∀ earlier ∈ positions, earlier ≤ position → passes earlier = true := by
  induction positions with
  | nil => simp
  | cons first rest inductionHypothesis =>
      obtain ⟨least, sorted⟩ := List.pairwise_cons.mp sorted
      cases passed : passes first with
      | false =>
          rw [List.takeWhile_cons, passed]
          constructor
          · nofun
          · rintro ⟨within, all⟩
            have before : first ≤ position := by
              rcases List.mem_cons.mp within with rfl | later
              · exact le_rfl
              · exact (least position later).le
            exact absurd (all first List.mem_cons_self before) (by rw [passed]; decide)
      | true =>
          rw [List.takeWhile_cons, passed, if_pos rfl, List.mem_cons, inductionHypothesis sorted,
            List.mem_cons]
          constructor
          · rintro (rfl | ⟨later, all⟩)
            · refine ⟨Or.inl rfl, fun earlier within below => ?_⟩
              rcases List.mem_cons.mp within with rfl | after
              · exact passed
              · exact absurd below (least earlier after).not_ge
            · refine ⟨Or.inr later, fun earlier within below => ?_⟩
              rcases List.mem_cons.mp within with rfl | after
              · exact passed
              · exact all earlier after below
          · rintro ⟨rfl | later, all⟩
            · exact Or.inl rfl
            · exact Or.inr
                ⟨later, fun earlier within => all earlier (List.mem_cons_of_mem _ within)⟩

/-- The last of a sorted list is its greatest. -/
theorem getLast?_eq_some_iff (sorted : positions.Pairwise (· < ·)) {last : α} :
    positions.getLast? = some last ↔
      last ∈ positions ∧ ∀ position ∈ positions, position ≤ last := by
  induction positions using List.reverseRecOn with
  | nil => simp
  | append_singleton before final _ =>
      have below : ∀ position ∈ before, position < final := fun position within =>
        (List.pairwise_append.mp sorted).2.2 position within final List.mem_cons_self
      rw [List.getLast?_concat, Option.some.injEq]
      constructor
      · rintro rfl
        refine ⟨by simp, fun position within => ?_⟩
        rcases List.mem_append.mp within with earlier | same
        · exact (below position earlier).le
        · exact (List.mem_singleton.mp same).le
      · rintro ⟨within, greatest⟩
        rcases List.mem_append.mp within with earlier | same
        · exact absurd (greatest final (by simp)) (below last earlier).not_ge
        · exact (List.mem_singleton.mp same).symm

/-- The last position that the scan of sorted positions reaches -/
theorem getLast?_takeWhile_eq_some_iff (sorted : positions.Pairwise (· < ·)) {last : α} :
    (positions.takeWhile passes).getLast? = some last ↔
      (last ∈ positions ∧ ∀ earlier ∈ positions, earlier ≤ last → passes earlier = true) ∧
        ∀ later ∈ positions, last < later →
          ∃ between ∈ positions, between ≤ later ∧ passes between = false := by
  rw [getLast?_eq_some_iff (sorted.sublist (List.takeWhile_sublist passes)),
    mem_takeWhile_iff sorted]
  refine and_congr_right fun reached => ⟨fun greatest later within above => ?_,
    fun stops position within => ?_⟩
  · by_contra none
    push Not at none
    have passed : later ∈ positions.takeWhile passes :=
      (mem_takeWhile_iff sorted).mpr ⟨within, fun earlier known below =>
        Bool.not_eq_false _ ▸ none earlier known below⟩
    exact absurd above (greatest later passed).not_gt
  · by_contra above
    obtain ⟨known, all⟩ := (mem_takeWhile_iff sorted).mp within
    obtain ⟨between, stands, below, fails⟩ := stops position known (not_le.mp above)
    exact absurd (all between stands below) (by rw [fails]; decide)

end PrefixScan
