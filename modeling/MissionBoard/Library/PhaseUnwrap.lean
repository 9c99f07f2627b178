import Mathlib.Data.Int.ModEq
import Mathlib.Data.List.Chain

/-!
Owns the unwrapping of a counter that is read modulo a number: the count goes on from the last count
by the difference of the two readings, the first reading is its own count.

The difference is a parameter. When it is congruent to the difference of the readings, so is each
count to its reading; when it is bounded, so is each move of the count.
-/

namespace MissionBoard.PhaseUnwrap

variable {α : Type*} (value : α → ℤ) (delta : α → α → ℤ)

/-- A reading, with its count -/
def advance (reference : Option (α × ℤ)) (reading : α) : α × ℤ :=
  match reference with
  | none => (reading, value reading)
  | some (last, count) => (reading, count + delta reading last)

/-- The readings, each with its count -/
def counts : Option (α × ℤ) → List α → List (α × ℤ)
  | _, [] => []
  | reference, reading :: rest =>
      advance value delta reference reading ::
        counts (some (advance value delta reference reading)) rest

/-- The reference after the readings -/
def last (reference : Option (α × ℤ)) (readings : List α) : Option (α × ℤ) :=
  readings.foldl (fun reference reading => some (advance value delta reference reading)) reference

variable {value delta}

@[simp] theorem advance_fst (reference : Option (α × ℤ)) (reading : α) :
    (advance value delta reference reading).1 = reading := by
  cases reference with
  | none => rfl
  | some reference => rfl

theorem last_append (reference : Option (α × ℤ)) (first second : List α) :
    last value delta reference (first ++ second) =
      last value delta (last value delta reference first) second :=
  List.foldl_append

theorem counts_readings (reference : Option (α × ℤ)) (readings : List α) :
    (counts value delta reference readings).map (·.1) = readings := by
  induction readings generalizing reference with
  | nil => rfl
  | cons reading rest inductionHypothesis =>
      rw [counts, List.map_cons, advance_fst, inductionHypothesis]

/-- The reference is the last count, or still the one from the begin. -/
theorem last_eq (reference : Option (α × ℤ)) (readings : List α) :
    last value delta reference readings =
      (reference.toList ++ counts value delta reference readings).getLast? := by
  induction readings generalizing reference with
  | nil =>
      rw [counts, List.append_nil]
      cases reference with
      | none => rfl
      | some reference => rfl
  | cons reading rest inductionHypothesis =>
      have more := inductionHypothesis (some (advance value delta reference reading))
      rw [counts, List.getLast?_append_of_ne_nil _ (List.cons_ne_nil _ _)]
      exact more

variable {modulus : ℤ}

theorem advance_congruent
    (differs : ∀ current previous,
      delta current previous ≡ value current - value previous [ZMOD modulus])
    {reference : Option (α × ℤ)}
    (congruent : ∀ pair ∈ reference, pair.2 ≡ value pair.1 [ZMOD modulus])
    (reading : α) :
    (advance value delta reference reading).2 ≡
      value (advance value delta reference reading).1 [ZMOD modulus] := by
  cases reference with
  | none => exact Int.ModEq.refl _
  | some reference =>
      obtain ⟨previous, count⟩ := reference
      have before : count ≡ value previous [ZMOD modulus] := congruent (previous, count) rfl
      have sum := before.add (differs reading previous)
      rw [add_sub_cancel] at sum
      exact sum

/-- Every count is congruent to its reading. -/
theorem counts_congruent
    (differs : ∀ current previous,
      delta current previous ≡ value current - value previous [ZMOD modulus])
    {reference : Option (α × ℤ)}
    (congruent : ∀ pair ∈ reference, pair.2 ≡ value pair.1 [ZMOD modulus])
    (readings : List α) :
    ∀ pair ∈ counts value delta reference readings, pair.2 ≡ value pair.1 [ZMOD modulus] := by
  induction readings generalizing reference with
  | nil => simp [counts]
  | cons reading rest inductionHypothesis =>
      have first := advance_congruent differs congruent reading
      intro pair within
      rw [counts, List.mem_cons] at within
      cases within with
      | inl same => rwa [same]
      | inr later =>
          apply inductionHypothesis _ pair later
          intro other same
          rwa [← Option.some.inj same]

/-- Every count is within the bound from the one before. -/
theorem counts_moves {bound : ℤ} {proper : α → Prop}
    (bounded : ∀ current previous, proper current → proper previous →
      |delta current previous| ≤ bound)
    {reference : Option (α × ℤ)} (referenceProper : ∀ pair ∈ reference, proper pair.1)
    {readings : List α} (readingsProper : ∀ reading ∈ readings, proper reading) :
    (reference.toList ++ counts value delta reference readings).IsChain
      fun earlier later => |later.2 - earlier.2| ≤ bound := by
  induction readings generalizing reference with
  | nil =>
      rw [counts, List.append_nil]
      cases reference with
      | none => exact List.isChain_nil
      | some reference => exact List.isChain_singleton _
  | cons reading rest inductionHypothesis =>
      have first : proper reading := readingsProper reading List.mem_cons_self
      have following := @inductionHypothesis (some (advance value delta reference reading))
        (by
          intro pair same
          rw [← Option.some.inj same, advance_fst]
          exact first)
        (fun later within => readingsProper later (List.mem_cons_of_mem _ within))
      rw [counts]
      cases reference with
      | none => exact following
      | some reference =>
          obtain ⟨previous, count⟩ := reference
          apply List.IsChain.cons_cons
          · have moved := bounded reading previous first (referenceProper (previous, count) rfl)
            unfold advance
            rwa [add_sub_cancel_left]
          · exact following

end MissionBoard.PhaseUnwrap
