import Mathlib.Data.Fintype.Card
import Mathlib.Data.List.FinRange
import Mathlib.Logic.Function.Basic

/-!
Owns fixed tables of slots: the keys a table presents through a view, the search
for a slot, and when replacing a slot keeps the keys distinct. A slot presents at
most one key, and one table may be seen through several views.

Nothing here names a particular table. A client supplies the slots, their views
and the replacements.
-/

namespace SlotTable

variable {α κ β : Type*} {n : ℕ} {view : α → Option κ} {table : Fin n → α}

/-- Some slot presents the key. -/
def Holds (view : α → Option κ) (table : Fin n → α) (key : κ) : Prop :=
  ∃ slot, view (table slot) = some key

/-- No two slots present one key. -/
def Distinct (view : α → Option κ) (table : Fin n → α) : Prop :=
  ∀ left right key, view (table left) = some key → view (table right) = some key → left = right

/-! ### Search -/

/-- The first slot that is accepted. -/
def first (accepts : α → Bool) (table : Fin n → α) : Option (Fin n) :=
  (List.finRange n).find? fun slot => accepts (table slot)

theorem accepts_of_first {accepts : α → Bool} {slot : Fin n}
    (found : first accepts table = some slot) : accepts (table slot) = true := by
  unfold first at found
  have accepted := List.find?_some found
  exact accepted

theorem first_eq_none {accepts : α → Bool} :
    first accepts table = none ↔ ∀ slot, accepts (table slot) = false := by
  unfold first
  rw [List.find?_eq_none]
  constructor
  · intro rejects slot
    exact Bool.eq_false_of_not_eq_true (rejects slot (List.mem_finRange slot))
  · intro rejects slot _
    rw [rejects slot]
    decide

/-- A search that can only accept one slot finds it. -/
theorem first_eq_some_of_unique {accepts : α → Bool} {slot : Fin n}
    (accepted : accepts (table slot) = true)
    (unique : ∀ other, accepts (table other) = true → other = slot) :
    first accepts table = some slot := by
  cases found : first accepts table with
  | none =>
      rw [first_eq_none.mp found slot] at accepted
      contradiction
  | some other => rw [unique other (accepts_of_first found)]

/-- Whether a slot is eligible and older than the candidate so far. -/
def older [LT β] [DecidableLT β] (eligible : α → Bool) (age : α → β) (table : Fin n → α)
    (candidate : Option (Fin n)) (slot : Fin n) : Bool :=
  eligible (table slot) &&
    candidate.all fun held => decide (age (table slot) < age (table held))

/-- The first of the eligible slots of least age. -/
def oldest [LT β] [DecidableLT β] (eligible : α → Bool) (age : α → β) (table : Fin n → α) :
    Option (Fin n) :=
  (List.finRange n).foldl
    (fun candidate slot => if older eligible age table candidate slot then some slot else candidate)
    none

section Oldest

variable [LT β] [DecidableLT β] {eligible : α → Bool} {age : α → β}

private theorem fold_eligible (slots : List (Fin n)) {candidate : Option (Fin n)}
    (start : ∀ slot, candidate = some slot → eligible (table slot) = true) {slot : Fin n}
    (found : slots.foldl (fun candidate slot =>
      if older eligible age table candidate slot then some slot else candidate) candidate =
        some slot) : eligible (table slot) = true := by
  induction slots generalizing candidate with
  | nil => exact start slot found
  | cons head rest inductionHypothesis =>
      rw [List.foldl_cons] at found
      refine inductionHypothesis ?_ found
      intro chosen same
      split at same
      · next isOlder =>
        obtain rfl : head = chosen := Option.some.inj same
        unfold older at isOlder
        rw [Bool.and_eq_true] at isOlder
        exact isOlder.1
      · exact start chosen same

private theorem fold_ne_none (slots : List (Fin n)) {candidate : Option (Fin n)}
    (exists_eligible : candidate ≠ none ∨ ∃ slot ∈ slots, eligible (table slot) = true) :
    slots.foldl (fun candidate slot =>
      if older eligible age table candidate slot then some slot else candidate) candidate ≠
        none := by
  induction slots generalizing candidate with
  | nil =>
      rcases exists_eligible with held | ⟨slot, member, -⟩
      · exact held
      · cases member
  | cons head rest inductionHypothesis =>
      rw [List.foldl_cons]
      apply inductionHypothesis
      by_cases isOlder : older eligible age table candidate head = true
      · left
        rw [if_pos isOlder]
        exact Option.some_ne_none head
      · rw [if_neg isOlder]
        rcases exists_eligible with held | ⟨slot, member, slotEligible⟩
        · exact Or.inl held
        · rcases List.mem_cons.mp member with rfl | later
          · left
            intro none
            apply isOlder
            unfold older
            rw [none, slotEligible]
            rfl
          · exact Or.inr ⟨slot, later, slotEligible⟩

theorem eligible_of_oldest {slot : Fin n} (found : oldest eligible age table = some slot) :
    eligible (table slot) = true := by
  have start : ∀ slot, (none : Option (Fin n)) = some slot → eligible (table slot) = true := by
    intro slot impossible
    cases impossible
  exact fold_eligible _ start found

/-- When some slot is eligible, one is chosen. -/
theorem oldest_ne_none {slot : Fin n} (slotEligible : eligible (table slot) = true) :
    oldest eligible age table ≠ none :=
  fold_ne_none _ (Or.inr ⟨slot, List.mem_finRange slot, slotEligible⟩)

private theorem fold_least {rank : β → ℕ}
    (agrees : ∀ left right : β, left < right ↔ rank left < rank right) (slots : List (Fin n))
    {candidate : Option (Fin n)} (seen : Fin n → Prop)
    (least : ∀ held, candidate = some held → ∀ slot, seen slot → eligible (table slot) = true →
      rank (age (table held)) ≤ rank (age (table slot)))
    (some_candidate : candidate = none → ∀ slot, seen slot → eligible (table slot) = false)
    {found : Fin n}
    (result : slots.foldl (fun candidate slot =>
      if older eligible age table candidate slot then some slot else candidate) candidate =
        some found) {slot : Fin n} (member : seen slot ∨ slot ∈ slots)
    (slotEligible : eligible (table slot) = true) :
    rank (age (table found)) ≤ rank (age (table slot)) := by
  induction slots generalizing candidate seen with
  | nil =>
      rcases member with earlier | later
      · exact least found result slot earlier slotEligible
      · exact absurd later List.not_mem_nil
  | cons head rest inductionHypothesis =>
      rw [List.foldl_cons] at result
      have seenOrHead : (seen slot ∨ slot = head) ∨ slot ∈ rest := by
        rcases member with earlier | inside
        · exact Or.inl (Or.inl earlier)
        · exact (List.mem_cons.mp inside).imp_left Or.inr
      refine inductionHypothesis (fun other => seen other ∨ other = head) ?_ ?_ result
        seenOrHead
      · intro held same other seenOther otherEligible
        by_cases isOlder : older eligible age table candidate head = true
        · rw [if_pos isOlder] at same
          obtain rfl : head = held := Option.some.inj same
          unfold older at isOlder
          rw [Bool.and_eq_true] at isOlder
          rcases seenOther with earlier | rfl
          · cases holds : candidate with
            | none =>
                rw [some_candidate holds other earlier] at otherEligible
                cases otherEligible
            | some previous =>
                have below := isOlder.2
                rw [holds] at below
                have less := (agrees _ _).mp (of_decide_eq_true below)
                exact less.le.trans (least previous holds other earlier otherEligible)
          · exact le_rfl
        · rw [if_neg isOlder] at same
          rcases seenOther with earlier | rfl
          · exact least held same other earlier otherEligible
          · by_contra less
            apply isOlder
            unfold older
            rw [same, otherEligible]
            exact decide_eq_true ((agrees _ _).mpr (not_le.mp less))
      · intro same other seenOther
        by_cases isOlder : older eligible age table candidate head = true
        · rw [if_pos isOlder] at same
          cases same
        · rw [if_neg isOlder] at same
          rcases seenOther with earlier | rfl
          · exact some_candidate same other earlier
          · by_contra otherEligible
            apply isOlder
            unfold older
            rw [same, Bool.eq_true_of_not_eq_false otherEligible]
            rfl

/-- No eligible slot is older than the chosen one, in any measure of age. -/
theorem rank_oldest_le {rank : β → ℕ}
    (agrees : ∀ left right : β, left < right ↔ rank left < rank right) {found slot : Fin n}
    (chosen : oldest eligible age table = some found)
    (slotEligible : eligible (table slot) = true) :
    rank (age (table found)) ≤ rank (age (table slot)) :=
  fold_least agrees (List.finRange n) (fun _ => False) (fun _ _ _ => False.elim)
    (fun _ _ => False.elim) chosen (Or.inr (List.mem_finRange slot)) slotEligible

end Oldest

/-! ### Replacing a slot -/

section Update

variable {slot : Fin n} {entry : α}

/-- Replacing a slot by an entry whose key no other slot holds keeps the keys distinct. -/
theorem Distinct.update (distinct : Distinct view table)
    (fresh : ∀ key, view entry = some key → ∀ other, other ≠ slot →
      view (table other) ≠ some key) :
    Distinct view (Function.update table slot entry) := by
  intro left right key leftPresents rightPresents
  by_cases leftSame : left = slot <;> by_cases rightSame : right = slot
  · rw [leftSame, rightSame]
  · subst leftSame
    rw [Function.update_self] at leftPresents
    rw [Function.update_of_ne rightSame] at rightPresents
    exact absurd rightPresents (fresh key leftPresents right rightSame)
  · subst rightSame
    rw [Function.update_self] at rightPresents
    rw [Function.update_of_ne leftSame] at leftPresents
    exact absurd leftPresents (fresh key rightPresents left leftSame)
  · rw [Function.update_of_ne leftSame] at leftPresents
    rw [Function.update_of_ne rightSame] at rightPresents
    exact distinct left right key leftPresents rightPresents

/-- A table whose every slot presents no more than before has distinct keys still. -/
theorem Distinct.of_le {later : Fin n → α} (distinct : Distinct view table)
    (fewer : ∀ slot key, view (later slot) = some key → view (table slot) = some key) :
    Distinct view later := by
  intro left right key leftPresents rightPresents
  exact distinct left right key (fewer left key leftPresents) (fewer right key rightPresents)

end Update

/-- A table with more slots than there are keys has a slot that presents none. -/
theorem exists_view_eq_none [Fintype κ] (distinct : Distinct view table)
    (roomy : Fintype.card κ < n) : ∃ slot, view (table slot) = none := by
  by_contra full
  simp only [not_exists] at full
  have presents : ∀ slot, ∃ key, view (table slot) = some key := by
    intro slot
    exact Option.ne_none_iff_exists'.mp (full slot)
  choose key keyOf using presents
  have injective : Function.Injective key := by
    intro left right same
    apply distinct left right (key left) (keyOf left)
    rw [same]
    exact keyOf right
  have bound := Fintype.card_le_of_injective key injective
  rw [Fintype.card_fin] at bound
  omega

end SlotTable
