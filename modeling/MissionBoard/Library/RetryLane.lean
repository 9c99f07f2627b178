import MissionBoard.Library.BoundedQueue

/-!
Owns lanes of messages: a bounded queue before a retry slot, from which one message at a
time is served, and kept in the slot when serving fails. It also owns the order between
two lanes that are served in turn: when a message of the first lane is covered, no
message of the second lane that it must follow is served after it.
-/

/-- A bounded queue and the slot of the message that is being served -/
structure RetryLane (α : Type*) (capacity : ℕ) where
  slot : Option α := none
  queue : BoundedQueue α capacity := BoundedQueue.empty

namespace RetryLane

variable {α : Type*} {capacity : ℕ}

/-- The messages of a lane in the order in which they are served -/
def path (lane : RetryLane α capacity) : List α := lane.slot.toList ++ lane.queue.items

/-- A message is sent to the queue, when there is room. -/
def offer (lane : RetryLane α capacity) (message : α) : RetryLane α capacity :=
  { lane with queue := lane.queue.offer message }

/-- Whether the queue has room -/
def room (lane : RetryLane α capacity) : Bool := lane.queue.items.length < capacity

/-- The slot is filled from the queue when it is empty. -/
def refill (lane : RetryLane α capacity) : RetryLane α capacity :=
  match lane.slot with
  | some _ => lane
  | none =>
      match lane.queue.receive with
      | some (message, queue) => ⟨some message, queue⟩
      | none => lane

/-- The message in the slot is served, or kept there when that fails. -/
def serve (lane : RetryLane α capacity) (succeeds : Bool) : Option α × RetryLane α capacity :=
  let lane := lane.refill
  if succeeds then (lane.slot, { lane with slot := none }) else (none, lane)

@[simp] theorem path_refill (lane : RetryLane α capacity) : lane.refill.path = lane.path := by
  obtain ⟨slot, queue⟩ := lane
  cases slot with
  | some message => rfl
  | none =>
      cases received : queue.receive with
      | some front =>
          simp only [refill, path, received, BoundedQueue.items_receive received]
          rfl
      | none => simp only [refill, path, received]

theorem slot_refill (lane : RetryLane α capacity) : lane.refill.slot = lane.path.head? := by
  obtain ⟨slot, queue⟩ := lane
  cases slot with
  | some message => rfl
  | none =>
      cases received : queue.receive with
      | some front =>
          simp only [refill, path, received, BoundedQueue.items_receive received]
          rfl
      | none =>
          simp only [refill, path, received, BoundedQueue.items_receive_none received]
          rfl

/-- A successful service takes the first message. -/
theorem serve_true (lane : RetryLane α capacity) :
    (lane.serve true).1 = lane.path.head? ∧ (lane.serve true).2.path = lane.path.tail := by
  refine ⟨lane.slot_refill, ?_⟩
  have whole := lane.path_refill
  have first := lane.slot_refill
  show lane.refill.queue.items = lane.path.tail
  unfold path at whole first
  cases filled : lane.refill.slot with
  | none =>
      rw [filled] at whole first
      rw [List.head?_eq_none_iff.mp first.symm] at whole
      unfold path
      rw [List.head?_eq_none_iff.mp first.symm]
      exact whole
  | some message =>
      rw [filled] at whole
      unfold path
      rw [← whole]
      rfl

/-- A failed service takes nothing. -/
theorem serve_false (lane : RetryLane α capacity) :
    (lane.serve false).1 = none ∧ (lane.serve false).2.path = lane.path :=
  ⟨rfl, lane.path_refill⟩

/-- What is served was first, and the rest stays in order. -/
theorem path_serve (lane : RetryLane α capacity) (succeeds : Bool) :
    lane.path = (lane.serve succeeds).1.toList ++ (lane.serve succeeds).2.path := by
  cases succeeds with
  | false => rw [lane.serve_false.1, lane.serve_false.2]; rfl
  | true =>
      rw [lane.serve_true.1, lane.serve_true.2]
      cases lane.path <;> rfl

/-- A successful service of nothing finds nothing. -/
theorem path_of_serve_none {lane : RetryLane α capacity} (nothing : (lane.serve true).1 = none) :
    lane.path = [] := by
  rw [lane.serve_true.1] at nothing
  exact List.head?_eq_none_iff.mp nothing

theorem path_offer_of_room {lane : RetryLane α capacity} {message : α}
    (room : lane.room = true) : (lane.offer message).path = lane.path ++ [message] := by
  unfold offer path BoundedQueue.offer BoundedQueue.send
  rw [dif_pos (of_decide_eq_true room), List.append_assoc]
  rfl

theorem offer_of_full {lane : RetryLane α capacity} {message : α}
    (full : lane.room = false) : lane.offer message = lane := by
  unfold offer BoundedQueue.offer BoundedQueue.send
  rw [dif_neg (of_decide_eq_false full)]
  rfl

end RetryLane

/-! ### Two lanes in turn -/

namespace Lanes

variable {α β : Type*} {blocks : α → β → Prop}

/-- Of two lanes that are served in turn, with `owed` services of the second due before
the next of the first, no message of the first is reached before one of the second that
it must follow. -/
def Covered (blocks : α → β → Prop) (owed : ℕ) (first : List α) (second : List β) : Prop :=
  ∀ index message, first[index]? = some message →
    ∀ item ∈ second.drop (index + owed), ¬ blocks message item

theorem covered_nil (owed : ℕ) (second : List β) : Covered blocks owed [] second := by
  intro index message found
  cases found

variable {owed : ℕ} {first : List α} {second : List β}

/-- More services due cover no less. -/
theorem Covered.mono (covered : Covered blocks owed first second) {more : ℕ}
    (grows : owed ≤ more) : Covered blocks more first second := by
  intro index message found item within
  refine covered index message found item ?_
  have deeper : second.drop (index + more) = (second.drop (index + owed)).drop (more - owed) := by
    rw [List.drop_drop]
    congr 1
    omega
  rw [deeper] at within
  exact List.mem_of_mem_drop within

/-- A message put last on the first lane is covered when what it must follow is near. -/
theorem Covered.first_append (covered : Covered blocks owed first second) {message : α}
    (near : ∀ item ∈ second.drop (first.length + owed), ¬ blocks message item) :
    Covered blocks owed (first ++ [message]) second := by
  intro index other found
  rcases Nat.lt_or_ge index first.length with early | late
  · rw [List.getElem?_append_left early] at found
    exact covered index other found
  · have within := (List.getElem?_eq_some_iff.mp found).1
    rw [List.length_append, List.length_singleton] at within
    obtain rfl : index = first.length := by omega
    rw [List.getElem?_concat_length] at found
    obtain rfl := Option.some.inj found
    exact near

/-- A message that nothing waits for may be put last on the second lane. -/
theorem Covered.second_append (covered : Covered blocks owed first second) {item : β}
    (free : ∀ message ∈ first, ¬ blocks message item) :
    Covered blocks owed first (second ++ [item]) := by
  intro index message found other within
  rcases List.mem_append.mp (List.mem_of_mem_drop within) with _ | last
  · by_cases deep : index + owed ≤ second.length
    · rw [List.drop_append_of_le_length deep] at within
      rcases List.mem_append.mp within with old | new
      · exact covered index message found other old
      · rw [List.mem_singleton.mp new]
        exact free message (List.mem_of_getElem? found)
    · have nothing : (second ++ [item]).drop (index + owed) = [] := by
        rw [List.drop_eq_nil_iff, List.length_append, List.length_singleton]
        omega
      rw [nothing] at within
      cases within
  · rw [List.mem_singleton.mp last]
    exact free message (List.mem_of_getElem? found)

/-- Serving the first lane: what the message had to follow is gone from the second. -/
theorem Covered.serve_first {message : α}
    (covered : Covered blocks 0 (message :: first) second) :
    Covered blocks 1 first second ∧ ∀ item ∈ second, ¬ blocks message item := by
  refine ⟨fun index other found => ?_, covered 0 message rfl⟩
  exact covered (index + 1) other found

/-- Serving the second lane -/
theorem Covered.serve_second {item : β} (covered : Covered blocks 1 first (item :: second)) :
    Covered blocks 0 first second :=
  fun index message found => covered index message found

end Lanes
