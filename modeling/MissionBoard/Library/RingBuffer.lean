import Mathlib.Order.Interval.Finset.Nat

/-!
Owns slots that are used in a circle, under indices that only grow: an item with index
`index` lies in slot `index % capacity`, and the items from a read index on are still there.
-/

namespace RingBuffer

variable {α : Type*}

/-- The slots hold the items from the read index on. -/
def Holds (slots : ℕ → α) (capacity readIndex : ℕ) (items : List α) : Prop :=
  ∀ index (below : index < items.length), readIndex ≤ index →
    slots (index % capacity) = items[index]

variable {slots : ℕ → α} {capacity readIndex : ℕ} {items : List α}

theorem holds_nil : Holds slots capacity readIndex [] :=
  fun _ below => absurd below (Nat.not_lt_zero _)

/-- Two items of one circle lie in different slots. -/
theorem slot_ne {first second : ℕ} (before : first < second) (circle : second < first + capacity) :
    first % capacity ≠ second % capacity := by
  intro same
  have injective := Nat.mod_injOn_Ico first capacity
  have equal := injective
    (Finset.mem_coe.mpr (Finset.mem_Ico.mpr ⟨le_rfl, before.trans circle⟩))
    (Finset.mem_coe.mpr (Finset.mem_Ico.mpr ⟨before.le, circle⟩)) same
  omega

/-- So indices of one circle with the same slot are the same. -/
theorem eq_of_slot_eq {first second : ℕ} (before : first ≤ second)
    (circle : second < first + capacity) (same : first % capacity = second % capacity) :
    first = second := by
  by_contra apart
  exact slot_ne (by omega) circle same

/-- Filling the slot of the next index leaves the items of an unfilled circle alone. -/
theorem Holds.store (holds : Holds slots capacity readIndex items)
    (room : items.length < readIndex + capacity) (item : α) :
    Holds (Function.update slots (items.length % capacity) item) capacity readIndex items := by
  intro index below unread
  rw [Function.update_of_ne (slot_ne below (by omega))]
  exact holds index below unread

/-- An item whose slot was filled may be counted. -/
theorem Holds.publish (holds : Holds slots capacity readIndex items) {item : α}
    (filled : slots (items.length % capacity) = item) :
    Holds slots capacity readIndex (items ++ [item]) := by
  intro index below unread
  rw [List.length_append, List.length_singleton] at below
  by_cases last : index = items.length
  · subst last
    rw [filled, List.getElem_concat_length rfl]
  · rw [List.getElem_append_left (by omega)]
    exact holds index (by omega) unread

/-- Items may be given up. -/
theorem Holds.consume (holds : Holds slots capacity readIndex items) {next : ℕ}
    (later : readIndex ≤ next) : Holds slots capacity next items :=
  fun index below unread => holds index below (later.trans unread)

end RingBuffer
