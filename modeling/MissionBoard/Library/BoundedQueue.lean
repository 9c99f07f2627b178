import Mathlib.Algebra.BigOperators.Group.List.Basic
import Mathlib.Algebra.Order.Group.Multiset

/-!
Owns queues of bounded capacity whose operations never wait: a send to a full queue
fails and leaves it as it was, a receive from an empty queue finds nothing.

`total` adds up a weight over the queued items; each operation has one lemma saying
what it does to every such total.
-/

/-- A queue that holds at most `capacity` items. -/
structure BoundedQueue (α : Type*) (capacity : ℕ) where
  items : List α
  bounded : items.length ≤ capacity

namespace BoundedQueue

variable {α : Type*} {capacity : ℕ}

/-- The queue with nothing in it. -/
def empty : BoundedQueue α capacity := ⟨[], Nat.zero_le capacity⟩

/-- Send to the back, when there is room. -/
def send (queue : BoundedQueue α capacity) (item : α) : Option (BoundedQueue α capacity) :=
  if room : queue.items.length < capacity then
    some ⟨queue.items ++ [item], by rw [List.length_append]; exact room⟩
  else none

/-- Send to the front, when there is room. -/
def sendToFront (queue : BoundedQueue α capacity) (item : α) : Option (BoundedQueue α capacity) :=
  if room : queue.items.length < capacity then some ⟨item :: queue.items, room⟩ else none

/-- Send to the front and drop the item when the queue is full. -/
def offerFront (queue : BoundedQueue α capacity) (item : α) : BoundedQueue α capacity :=
  (queue.sendToFront item).getD queue

/-- Send to the back and drop the item when the queue is full. -/
def offer (queue : BoundedQueue α capacity) (item : α) : BoundedQueue α capacity :=
  (queue.send item).getD queue

/-- Receive the front item. -/
def receive (queue : BoundedQueue α capacity) : Option (α × BoundedQueue α capacity) :=
  match queue with
  | ⟨[], _⟩ => none
  | ⟨item :: rest, bounded⟩ => some (item, ⟨rest, Nat.le_of_succ_le bounded⟩)

/-! ### The items -/

theorem items_send {queue next : BoundedQueue α capacity} {item : α}
    (sent : queue.send item = some next) : next.items = queue.items ++ [item] := by
  unfold send at sent
  split at sent
  · cases sent
    rfl
  · cases sent

theorem items_sendToFront {queue next : BoundedQueue α capacity} {item : α}
    (sent : queue.sendToFront item = some next) : next.items = item :: queue.items := by
  unfold sendToFront at sent
  split at sent
  · cases sent
    rfl
  · cases sent

theorem items_receive {queue rest : BoundedQueue α capacity} {item : α}
    (received : queue.receive = some (item, rest)) : queue.items = item :: rest.items := by
  obtain ⟨items, bounded⟩ := queue
  cases items with
  | nil => cases received
  | cons head tail =>
      cases received
      rfl

theorem eq_of_items {first second : BoundedQueue α capacity} (same : first.items = second.items) :
    first = second := by
  cases first
  cases second
  cases same
  rfl

/-- A queue with one item more at the back is what a send makes. -/
theorem send_of_items {queue next : BoundedQueue α capacity} {item : α}
    (more : next.items = queue.items ++ [item]) : queue.send item = some next := by
  have room : queue.items.length < capacity := by
    have bounded := next.bounded
    rw [more, List.length_append, List.length_singleton] at bounded
    exact bounded
  rw [send, dif_pos room]
  exact congrArg some (eq_of_items more.symm)

/-- A queue with one item less at the front is what a receive leaves. -/
theorem receive_of_items {queue rest : BoundedQueue α capacity} {item : α}
    (less : queue.items = item :: rest.items) : queue.receive = some (item, rest) := by
  obtain ⟨items, bounded⟩ := queue
  obtain rfl : items = item :: rest.items := less
  rfl

/-- A queue with nothing to receive is empty. -/
theorem items_receive_none {queue : BoundedQueue α capacity} (nothing : queue.receive = none) :
    queue.items = [] := by
  obtain ⟨items, bounded⟩ := queue
  cases items with
  | nil => rfl
  | cons head tail => cases nothing

theorem items_offerFront_of_room {queue : BoundedQueue α capacity} {item : α}
    (room : queue.items.length < capacity) :
    (queue.offerFront item).items = item :: queue.items := by
  unfold offerFront sendToFront
  rw [dif_pos room]
  rfl

/-- An offer to the front leaves the queue alone or puts the item before its items. -/
theorem items_offerFront (queue : BoundedQueue α capacity) (item : α) :
    (queue.offerFront item).items = item :: queue.items ∨ queue.offerFront item = queue := by
  unfold offerFront sendToFront
  split
  · exact Or.inl rfl
  · exact Or.inr rfl

theorem items_offer (queue : BoundedQueue α capacity) (item : α) :
    (queue.offer item).items = queue.items ++ [item] ∨ queue.offer item = queue := by
  unfold offer send
  split
  · exact Or.inl rfl
  · exact Or.inr rfl

/-- An offer loses no item. -/
theorem mem_offerFront {queue : BoundedQueue α capacity} {item other : α}
    (queued : other ∈ queue.items) : other ∈ (queue.offerFront item).items := by
  rcases queue.items_offerFront item with front | same
  · rw [front]
    exact List.mem_cons_of_mem item queued
  · rw [same]
    exact queued

theorem mem_of_mem_offerFront {queue : BoundedQueue α capacity} {item other : α}
    (queued : other ∈ (queue.offerFront item).items) : other = item ∨ other ∈ queue.items := by
  rcases queue.items_offerFront item with front | same
  · rw [front] at queued
    exact List.mem_cons.mp queued
  · rw [same] at queued
    exact Or.inr queued

theorem mem_offer {queue : BoundedQueue α capacity} {item other : α}
    (queued : other ∈ queue.items) : other ∈ (queue.offer item).items := by
  rcases queue.items_offer item with back | same
  · rw [back]
    exact List.mem_append_left _ queued
  · rw [same]
    exact queued

/-! ### Totals -/

section Total

variable {M : Type*} [AddCommMonoid M]

/-- The weight of the queued items together. -/
def total (weight : α → M) (queue : BoundedQueue α capacity) : M := (queue.items.map weight).sum

@[simp] theorem total_empty (weight : α → M) :
    total weight (empty : BoundedQueue α capacity) = 0 := rfl

theorem total_send {weight : α → M} {queue next : BoundedQueue α capacity} {item : α}
    (sent : queue.send item = some next) : total weight next = weight item + total weight queue := by
  unfold total
  rw [items_send sent, List.map_append, List.sum_append, List.map_singleton, List.sum_singleton,
    add_comm]

theorem total_receive {weight : α → M} {queue rest : BoundedQueue α capacity} {item : α}
    (received : queue.receive = some (item, rest)) :
    total weight queue = weight item + total weight rest := by
  unfold total
  rw [items_receive received, List.map_cons, List.sum_cons]

/-- A received item that is offered back to the front restores the total or is lost. -/
theorem total_offerFront (weight : α → M) (queue : BoundedQueue α capacity) (item : α) :
    total weight (queue.offerFront item) = weight item + total weight queue ∨
      total weight (queue.offerFront item) = total weight queue := by
  rcases queue.items_offerFront item with front | same
  · left
    unfold total
    rw [front, List.map_cons, List.sum_cons]
  · right
    rw [same]

end Total

/-- What a total of multisets contains is contained in the weight of some item. -/
theorem mem_total {β : Type*} {weight : α → Multiset β} {queue : BoundedQueue α capacity} {held : β}
    (within : held ∈ queue.total weight) : ∃ item ∈ queue.items, held ∈ weight item := by
  unfold total at within
  generalize queue.items = items at within ⊢
  induction items with
  | nil => exact absurd within (Multiset.notMem_zero held)
  | cons item rest inductionHypothesis =>
      rw [List.map_cons, List.sum_cons, Multiset.mem_add] at within
      rcases within with here | later
      · exact ⟨item, List.mem_cons_self, here⟩
      · obtain ⟨other, queued, holds⟩ := inductionHypothesis later
        exact ⟨other, List.mem_cons_of_mem item queued, holds⟩

end BoundedQueue
