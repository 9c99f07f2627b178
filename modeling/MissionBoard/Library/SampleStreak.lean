import Mathlib.Data.List.Basic

/-!
Owns detection by repetition: a ring of the latest samples, and the streak of windows
over it that have passed a test one after another.

The two keep the samples themselves, so that what a detection rests on can be named:
the samples of the windows in its streak. A client supplies the test.

What they compute is stated over a history with the latest sample first: the ring holds the latest samples,
and the streak fires when the latest windows have passed.
-/

variable {α : Type*}

/-- The latest samples, in the order of the slots that hold them. -/
structure SampleRing (capacity : ℕ) (α : Type*) where
  samples : List α := []
  head : ℕ := 0

namespace SampleRing

variable {capacity : ℕ}

/-- A new sample takes the slot at the head, which is the first free slot until the
ring is full. -/
def push (ring : SampleRing capacity α) (sample : α) : SampleRing capacity α where
  samples :=
    if ring.samples.length < capacity then ring.samples ++ [sample]
    else ring.samples.set ring.head sample
  head := (ring.head + 1) % capacity

/-- Every slot holds a sample. -/
def full (ring : SampleRing capacity α) : Bool := ring.samples.length == capacity

/-- Every sample in the ring has the property. -/
def All (property : α → Prop) (ring : SampleRing capacity α) : Prop :=
  ∀ sample ∈ ring.samples, property sample

variable {property : α → Prop}

theorem all_empty : All property ({} : SampleRing capacity α) := nofun

theorem All.push {ring : SampleRing capacity α} (all : ring.All property) {sample : α}
    (holds : property sample) : (ring.push sample).All property := by
  intro held within
  unfold SampleRing.push at within
  dsimp only at within
  split at within
  · rcases List.mem_append.mp within with earlier | latest
    · exact all held earlier
    · rw [List.mem_singleton.mp latest]
      exact holds
  · rcases List.mem_or_eq_of_mem_set within with earlier | latest
    · exact all held earlier
    · rw [latest]
      exact holds

/-- The samples in the order in which they came -/
def byAge (ring : SampleRing capacity α) : List α :=
  ring.samples.drop ring.head ++ ring.samples.take ring.head

/-- The ring holds the latest of the samples that were pushed. -/
structure Holds (ring : SampleRing capacity α) (pushed : List α) : Prop where
  head : ring.head = pushed.length % capacity
  length : ring.samples.length = min pushed.length capacity
  latest : ring.byAge.reverse = pushed.take capacity

theorem holds_empty : Holds ({} : SampleRing capacity α) [] :=
  ⟨(Nat.zero_mod capacity).symm, (Nat.zero_min capacity).symm, List.take_nil.symm⟩

/-- A ring that is not full has its samples in order, and its head behind them. -/
theorem byAge_of_end {ring : SampleRing capacity α} (ends : ring.head = ring.samples.length) :
    ring.byAge = ring.samples := by
  simp [byAge, ends]

/-- A push into a ring with room keeps the order. -/
theorem byAge_push_of_room {ring : SampleRing capacity α} (room : ring.samples.length < capacity)
    (ends : ring.head = ring.samples.length) (sample : α) :
    (ring.push sample).byAge = ring.byAge ++ [sample] := by
  have kept : (ring.push sample).samples = ring.samples ++ [sample] := if_pos room
  have head : (ring.push sample).head = (ring.samples.length + 1) % capacity := by
    rw [← ends]
    rfl
  rw [byAge_of_end ends]
  by_cases last : ring.samples.length + 1 = capacity
  · rw [last, Nat.mod_self] at head
    rw [byAge, head, kept, List.drop_zero, List.take_zero, List.append_nil]
  · rw [Nat.mod_eq_of_lt (by omega)] at head
    rw [byAge_of_end (by rw [head, kept, List.length_append, List.length_singleton]), kept]

/-- A push into a full ring replaces the oldest sample. -/
theorem byAge_push_of_full {ring : SampleRing capacity α} (full : ring.samples.length = capacity)
    (within : ring.head < capacity) (sample : α) :
    ∃ oldest rest, ring.byAge = oldest :: rest ∧ (ring.push sample).byAge = rest ++ [sample] := by
  have inside : ring.head < ring.samples.length := by omega
  have kept : (ring.push sample).samples = ring.samples.set ring.head sample :=
    if_neg (by omega)
  refine ⟨ring.samples[ring.head], ring.samples.drop (ring.head + 1) ++ ring.samples.take ring.head,
    ?_, ?_⟩
  · rw [byAge, List.drop_eq_getElem_cons inside, List.cons_append]
  · have split : ring.samples.set ring.head sample =
        ring.samples.take ring.head ++ sample :: ring.samples.drop (ring.head + 1) :=
      List.set_eq_take_append_cons_drop.trans (if_pos inside)
    have head : (ring.push sample).head = (ring.head + 1) % capacity := rfl
    by_cases last : ring.head + 1 = capacity
    · have none : ring.samples.drop (ring.head + 1) = [] := List.drop_eq_nil_of_le (by omega)
      rw [last, Nat.mod_self] at head
      rw [byAge, head, kept, split, none]
      simp
    · rw [Nat.mod_eq_of_lt (by omega)] at head
      rw [byAge, head, kept, split]
      have begins : (ring.samples.take ring.head).length = ring.head := by
        rw [List.length_take]
        omega
      rw [List.drop_append, List.take_append, begins, Nat.add_sub_cancel_left,
        List.drop_eq_nil_of_le (by omega), List.take_of_length_le (by omega)]
      simp

theorem Holds.push {ring : SampleRing capacity α} {pushed : List α} (holds : ring.Holds pushed)
    (positive : 0 < capacity) (sample : α) : (ring.push sample).Holds (sample :: pushed) := by
  obtain ⟨size, rfl⟩ : ∃ size, capacity = size + 1 := ⟨capacity - 1, by omega⟩
  have length := holds.length
  refine ⟨by simp [SampleRing.push, holds.head], ?_, ?_⟩
  · unfold SampleRing.push
    split <;> simp <;> omega
  · rw [List.take_succ_cons]
    by_cases room : ring.samples.length < size + 1
    · have ends : ring.head = ring.samples.length := by
        rw [holds.head, Nat.mod_eq_of_lt] <;> omega
      rw [byAge_push_of_room room ends, List.reverse_append, holds.latest,
        List.take_of_length_le (by omega : pushed.length ≤ size + 1),
        List.take_of_length_le (by omega : pushed.length ≤ size)]
      rfl
    · have within : ring.head < size + 1 := by
        rw [holds.head]
        exact Nat.mod_lt _ positive
      obtain ⟨oldest, rest, before, after⟩ :=
        byAge_push_of_full (by omega : ring.samples.length = size + 1) within sample
      have latest := holds.latest
      rw [before, List.reverse_cons] at latest
      have long : rest.reverse.length = size := by
        have total := congrArg List.length latest
        rw [List.length_append, List.length_singleton, List.length_take] at total
        omega
      have front : (rest.reverse ++ [oldest]).take size = rest.reverse := List.take_left' long
      rw [after, List.reverse_append, ← front, latest, List.take_take,
        Nat.min_eq_left (Nat.le_succ size)]
      rfl

/-- The slots hold the latest samples in some order. -/
theorem Holds.perm {ring : SampleRing capacity α} {pushed : List α} (holds : ring.Holds pushed) :
    ring.samples.Perm (pushed.take capacity) := by
  have turned : ring.byAge.Perm ring.samples := by
    have parts := @List.perm_append_comm _ (ring.samples.drop ring.head) (ring.samples.take ring.head)
    rwa [List.take_append_drop] at parts
  rw [← holds.latest]
  exact turned.symm.trans (List.reverse_perm _).symm

theorem Holds.full_iff {ring : SampleRing capacity α} {pushed : List α} (holds : ring.Holds pushed) :
    ring.full = true ↔ capacity ≤ pushed.length := by
  simp only [full, holds.length, beq_iff_eq]
  omega

end SampleRing

/-- The windows that have passed one after another, the latest first. Only the latest
`needed` are kept, so the number kept is the saturating counter of a detector. -/
structure Streak (needed : ℕ) (α : Type*) where
  windows : List (List α)
  bounded : windows.length ≤ needed

namespace Streak

variable {needed : ℕ}

def empty : Streak needed α := ⟨[], Nat.zero_le needed⟩

/-- One more window has passed. -/
def extend (streak : Streak needed α) (window : List α) : Streak needed α :=
  ⟨(window :: streak.windows).take needed, List.length_take_le _ _⟩

/-- The number of windows that have passed, up to `needed`. -/
def consecutive (streak : Streak needed α) : ℕ := streak.windows.length

/-- As many windows have passed as are needed. -/
def fires (streak : Streak needed α) : Bool := decide (needed ≤ streak.consecutive)

/-- The samples a detection rests on. -/
def evidence (streak : Streak needed α) : List α := streak.windows.flatten

/-- Every sample a detection rests on has the property. -/
def All (property : α → Prop) (streak : Streak needed α) : Prop :=
  ∀ sample ∈ streak.evidence, property sample

variable {property : α → Prop}

theorem all_empty : All property (empty : Streak needed α) := nofun

theorem All.extend {streak : Streak needed α} (all : streak.All property) {window : List α}
    (holds : ∀ sample ∈ window, property sample) : (streak.extend window).All property := by
  intro sample within
  obtain ⟨passed, kept, inside⟩ := List.mem_flatten.mp within
  rcases List.mem_cons.mp (List.mem_of_mem_take kept) with rfl | earlier
  · exact holds sample inside
  · exact all sample (List.mem_flatten.mpr ⟨passed, earlier, inside⟩)

/-! ### What the counter says -/

/-- The counter is the number of the latest windows that have passed one after another, up to `needed`;
`passed` tells of the window so many back whether it has. -/
def Counts (streak : Streak needed α) (passed : ℕ → Prop) : Prop :=
  ∀ count ≤ needed, count ≤ streak.consecutive ↔ ∀ back < count, passed back

variable {streak : Streak needed α} {passed next : ℕ → Prop}

theorem Counts.fires_iff (counts : streak.Counts passed) :
    streak.fires = true ↔ ∀ back < needed, passed back := by
  rw [fires, decide_eq_true_eq]
  exact counts needed (Nat.le_refl needed)

theorem counts_empty (fails : ¬ next 0) : (empty : Streak needed α).Counts next := by
  intro count bound
  cases count with
  | zero => simp
  | succ count =>
      constructor
      · exact fun positive => absurd positive (Nat.not_succ_le_zero count)
      · exact fun all => absurd (all 0 (Nat.succ_pos count)) fails

/-- A window that passes is counted. -/
theorem Counts.extend (counts : streak.Counts passed) (window : List α) (passes : next 0)
    (shifts : ∀ back, next (back + 1) ↔ passed back) : (streak.extend window).Counts next := by
  intro count bound
  have grown : (streak.extend window).consecutive = min needed (streak.consecutive + 1) := by
    simp [Streak.extend, consecutive]
  rw [grown]
  cases count with
  | zero => simp
  | succ count =>
      have before := counts count (by omega)
      constructor
      · intro enough back within
        cases back with
        | zero => exact passes
        | succ back => exact (shifts back).mpr (before.mp (by omega) back (by omega))
      · intro all
        have reached := before.mpr fun back within =>
          (shifts back).mp (all (back + 1) (by omega))
        omega

/-- The counter stays where no window was judged before or is now. -/
theorem Counts.unjudged (counts : streak.Counts passed) (unpassed : ¬ passed 0) (fails : ¬ next 0) :
    streak.Counts next := by
  intro count bound
  cases count with
  | zero => simp
  | succ count =>
      constructor
      · intro enough
        exact absurd ((counts (count + 1) bound).mp enough 0 (Nat.succ_pos count)) unpassed
      · exact fun all => absurd (all 0 (Nat.succ_pos count)) fails

end Streak
