import Mathlib.Logic.Function.Basic
import MissionBoard.Library.BoundedQueue
import MissionBoard.Library.RingBuffer
import MissionBoard.Library.Run

/-!
Owns the two queues with one producer and one consumer, `runtime::SpscBoundedQueue` and
`characterization::SpscRing`: every load of an index, access to a slot and store of an index is a
step, and the steps of the two sides come in any order.

The queues differ in their number of slots alone: the first has one more than its capacity, the
second holds one element less than it has slots. It does not own `reset`, which both sides call for
while they stand still.
-/

namespace MissionBoard.Runtime.Spsc

variable {α : Type*}

/-- The slots of a queue, one of which stays empty -/
structure Geometry where
  slots : ℕ
  two : 2 ≤ slots

/-- `SpscBoundedQueue` -/
def spscBoundedQueue (Capacity : ℕ) (positive : 0 < Capacity) : Geometry :=
  ⟨Capacity + 1, Nat.succ_le_succ positive⟩

/-- `SpscRing` -/
def spscRing (Capacity : ℕ) (two : 2 ≤ Capacity) : Geometry := ⟨Capacity, two⟩

namespace Geometry

/-- The elements that fit -/
def capacity (geometry : Geometry) : ℕ := geometry.slots - 1

/-- `increment` -/
def increment (geometry : Geometry) (value : ℕ) : ℕ := (value + 1) % geometry.slots

end Geometry

/-- Where a call of `push` is -/
inductive Producer (α : Type*) where
  | idle
  | loaded (value : α) (head : ℕ)
  | refused
  | admitted (value : α) (head : ℕ)
  | stored (value : α) (head : ℕ)

/-- Where a call of `pop` or `popUntil` is -/
inductive Consumer (α : Type*) where
  | idle
  | loaded (tail : ℕ)
  | admitted (tail : ℕ)
  | read (tail : ℕ) (value : α)

/-- A queue and its two sides. The cursor is the snapshot the consumer holds; `accepted` are the
values whose `push` gave true, `delivered` those that a `pop` gave. -/
structure State (α : Type*) where
  storage : ℕ → α
  head : ℕ := 0
  tail : ℕ := 0
  overflowCount : UInt32 := 0
  producer : Producer α := .idle
  consumer : Consumer α := .idle
  cursor : Option ℕ := none
  accepted : List α := []
  delivered : List α := []

/-- One step of a side: a call, or what comes next in it -/
inductive Label (α : Type*) where
  | push (value : α)
  | producer
  | pop
  | consumerHeadSnapshot
  | popUntil
  | consumer

variable (geometry : Geometry)

/-- `push`, to the load of the head -/
def push (state : State α) (value : α) : State α :=
  match state.producer with
  | .idle => { state with producer := .loaded value state.head }
  | _ => state

/-- The next step of `push`. `SpscRing` does not count what it refuses. -/
def producerStep (state : State α) : State α :=
  match state.producer with
  | .idle => state
  | .loaded value head =>
      if geometry.increment head = state.tail then { state with producer := .refused }
      else { state with producer := .admitted value head }
  | .refused => { state with overflowCount := state.overflowCount + 1, producer := .idle }
  | .admitted value head =>
      { state with
        storage := Function.update state.storage head value
        producer := .stored value head }
  | .stored value head =>
      { state with
        head := geometry.increment head
        producer := .idle
        accepted := state.accepted ++ [value] }

/-- `pop`, to the load of the tail. A cursor that is reached already is spent: `popUntil` would take
it for one that is a whole circle ahead. -/
def pop (state : State α) : State α :=
  match state.consumer with
  | .idle =>
      { state with
        consumer := .loaded state.tail
        cursor := if state.cursor = some state.tail then none else state.cursor }
  | _ => state

/-- `consumerHeadSnapshot` -/
def consumerHeadSnapshot (state : State α) : State α :=
  match state.consumer with
  | .idle => { state with cursor := some state.head }
  | _ => state

/-- `popUntil`, to the load of the tail and its comparison -/
def popUntil (state : State α) : State α :=
  match state.consumer, state.cursor with
  | .idle, some end_ =>
      if state.tail = end_ then state else { state with consumer := .admitted state.tail }
  | _, _ => state

/-- The next step of `pop` or `popUntil` -/
def consumerStep (state : State α) : State α :=
  match state.consumer with
  | .idle => state
  | .loaded tail =>
      if tail = state.head then { state with consumer := .idle }
      else { state with consumer := .admitted tail }
  | .admitted tail => { state with consumer := .read tail (state.storage tail) }
  | .read tail value =>
      { state with
        tail := geometry.increment tail
        consumer := .idle
        delivered := state.delivered ++ [value] }

def step (state : State α) : Label α → State α
  | .push value => push state value
  | .producer => producerStep geometry state
  | .pop => pop state
  | .consumerHeadSnapshot => consumerHeadSnapshot state
  | .popUntil => popUntil state
  | .consumer => consumerStep geometry state

/-- A new queue, whatever its slots hold -/
def start (storage : ℕ → α) : State α := { storage := storage }

/-! ### What the indices say -/

/-- The producer's own copy of the head is the head, and what it was admitted for stays free. -/
def ProducerHolds (state : State α) : Producer α → Prop
  | .idle | .refused => True
  | .loaded _ head => head = state.head
  | .admitted _ head => head = state.head ∧
      state.accepted.length + 1 < state.delivered.length + geometry.slots
  | .stored value head => head = state.head ∧
      state.accepted.length + 1 < state.delivered.length + geometry.slots ∧
      state.storage head = value

/-- The consumer's own copy of the tail is the tail, and what it was admitted to is published. -/
def ConsumerHolds (snapshot : Option ℕ) (state : State α) : Consumer α → Prop
  | .idle => True
  | .loaded tail => tail = state.tail ∧ ∀ count ∈ snapshot, state.delivered.length < count
  | .admitted tail => tail = state.tail ∧ state.delivered.length < state.accepted.length ∧
      ∀ count ∈ snapshot, state.delivered.length < count
  | .read tail value => tail = state.tail ∧ state.accepted[state.delivered.length]? = some value ∧
      ∀ count ∈ snapshot, state.delivered.length < count

/-- The indices are counts around the circle, and so is the cursor, of the elements published when
it was taken. -/
structure Consistent (snapshot : Option ℕ) (state : State α) : Prop where
  head : state.head = state.accepted.length % geometry.slots
  tail : state.tail = state.delivered.length % geometry.slots
  order : state.delivered <+: state.accepted
  room : state.accepted.length < state.delivered.length + geometry.slots
  holds : RingBuffer.Holds state.storage geometry.slots state.delivered.length state.accepted
  cursor : state.cursor = snapshot.map (· % geometry.slots)
  between : ∀ count ∈ snapshot, state.delivered.length ≤ count ∧ count ≤ state.accepted.length
  producer : ProducerHolds geometry state state.producer
  consumer : ConsumerHolds snapshot state state.consumer

variable {geometry} {snapshot : Option ℕ} {state : State α}

theorem consistent_start (storage : ℕ → α) : Consistent geometry none (start storage) where
  head := (Nat.zero_mod _).symm
  tail := (Nat.zero_mod _).symm
  order := List.nil_prefix
  room := by
    have two := geometry.two
    show 0 < 0 + geometry.slots
    omega
  holds := RingBuffer.holds_nil
  cursor := rfl
  between _ known := absurd known (Option.not_mem_none _)
  producer := trivial
  consumer := trivial

theorem Consistent.length_le (consistent : Consistent geometry snapshot state) :
    state.delivered.length ≤ state.accepted.length :=
  consistent.order.length_le

/-- The next head meets the tail in a full queue alone. -/
theorem Consistent.full_iff (consistent : Consistent geometry snapshot state) :
    geometry.increment state.head = state.tail ↔
      state.accepted.length + 1 = state.delivered.length + geometry.slots := by
  have le := consistent.length_le
  have room := consistent.room
  have next : geometry.increment state.head = (state.accepted.length + 1) % geometry.slots := by
    rw [Geometry.increment, consistent.head, Nat.mod_add_mod]
  rw [next, consistent.tail]
  constructor
  · intro same
    by_contra free
    have equal := RingBuffer.eq_of_slot_eq (by omega) (by omega) same.symm
    omega
  · intro full
    rw [full, Nat.add_mod_right]

/-- The tail meets the head in an empty queue alone. -/
theorem Consistent.empty_iff (consistent : Consistent geometry snapshot state) :
    state.tail = state.head ↔ state.delivered = state.accepted := by
  rw [consistent.tail, consistent.head]
  constructor
  · intro same
    have equal := RingBuffer.eq_of_slot_eq consistent.length_le consistent.room same
    exact consistent.order.eq_of_length equal
  · intro same
    rw [same]

/-! ### The steps of the producer -/

theorem Consistent.push (consistent : Consistent geometry snapshot state) (value : α) :
    Consistent geometry snapshot (push state value) := by
  unfold Spsc.push
  split
  · exact { consistent with producer := rfl }
  · exact consistent

/-- What the consumer knows stays true when an element is published. -/
theorem ConsumerHolds.publish {consumer : Consumer α}
    (holds : ConsumerHolds snapshot state consumer) (value : α) (head : ℕ) :
    ConsumerHolds snapshot
      { state with head := head, producer := .idle, accepted := state.accepted ++ [value] }
      consumer := by
  cases consumer with
  | idle => trivial
  | loaded tail => exact holds
  | admitted tail =>
      obtain ⟨own, published, within⟩ := holds
      exact ⟨own, by simp only [List.length_append]; omega, within⟩
  | read tail item =>
      obtain ⟨own, published, within⟩ := holds
      have before := (List.getElem?_eq_some_iff.mp published).1
      exact ⟨own, (List.getElem?_append_left before).trans published, within⟩

theorem Consistent.producerStep (consistent : Consistent geometry snapshot state) :
    Consistent geometry snapshot (producerStep geometry state) := by
  have producer := consistent.producer
  unfold Spsc.producerStep
  split
  case h_1 => exact consistent
  case h_2 value head loaded =>
    rw [loaded] at producer
    obtain rfl : head = state.head := producer
    split
    · exact { consistent with producer := trivial }
    · rename_i free
      have le := consistent.length_le
      have room := consistent.room
      rw [consistent.full_iff] at free
      have more : state.accepted.length + 1 < state.delivered.length + geometry.slots := by omega
      exact { consistent with producer := ⟨rfl, more⟩ }
  case h_3 => exact { consistent with producer := trivial }
  case h_4 value head admitted =>
    rw [admitted] at producer
    obtain ⟨rfl, free⟩ := producer
    have filled := consistent.holds.store consistent.room value
    rw [← consistent.head] at filled
    exact { consistent with
      holds := filled
      producer := ⟨rfl, free, Function.update_self _ _ _⟩
      consumer := by
        have consumer := consistent.consumer
        cases side : state.consumer <;> rw [side] at consumer <;> exact consumer }
  case h_5 value head stored =>
    rw [stored] at producer
    obtain ⟨rfl, free, filled⟩ := producer
    rw [consistent.head] at filled
    exact { consistent with
      head := by
        rw [List.length_append, List.length_singleton, Geometry.increment, consistent.head,
          Nat.mod_add_mod]
      order := consistent.order.trans (List.prefix_append _ _)
      room := by
        rw [List.length_append, List.length_singleton]
        exact free
      holds := consistent.holds.publish filled
      between := fun count known => ⟨(consistent.between count known).1, by
        rw [List.length_append]
        exact (consistent.between count known).2.trans (Nat.le_add_right _ _)⟩
      producer := trivial
      consumer := consistent.consumer.publish value _ }

/-! ### The steps of the consumer -/

/-- A cursor that is not reached has elements before it. -/
theorem Consistent.before_cursor (consistent : Consistent geometry snapshot state)
    (ahead : state.cursor ≠ some state.tail) : ∀ count ∈ snapshot, state.delivered.length < count := by
  rintro count ⟨⟩
  apply lt_of_le_of_ne (consistent.between count rfl).1
  intro same
  apply ahead
  rw [consistent.cursor, consistent.tail, same]
  rfl

/-- A cursor that is reached has none. -/
theorem Consistent.at_cursor {count : ℕ} (consistent : Consistent geometry (some count) state)
    (reached : state.cursor = some state.tail) : state.delivered.length = count := by
  obtain ⟨low, high⟩ := consistent.between count rfl
  have room := consistent.room
  rw [consistent.cursor, consistent.tail] at reached
  have same : count % geometry.slots = state.delivered.length % geometry.slots :=
    Option.some.inj reached
  exact RingBuffer.eq_of_slot_eq low (by omega) same.symm

theorem Consistent.pop (consistent : Consistent geometry snapshot state)
    (idle : state.consumer = .idle) :
    Consistent geometry (if state.cursor = some state.tail then none else snapshot)
      (pop state) := by
  unfold Spsc.pop
  rw [idle]
  dsimp only
  by_cases reached : state.cursor = some state.tail
  · rw [if_pos reached, if_pos reached]
    exact { consistent with
      cursor := rfl
      between := fun _ known => absurd known (Option.not_mem_none _)
      producer := consistent.producer
      consumer := ⟨rfl, fun _ known => absurd known (Option.not_mem_none _)⟩ }
  · rw [if_neg reached, if_neg reached]
    exact { consistent with
      producer := consistent.producer
      consumer := ⟨rfl, consistent.before_cursor reached⟩ }

theorem Consistent.consumerHeadSnapshot (consistent : Consistent geometry snapshot state)
    (idle : state.consumer = .idle) :
    Consistent geometry (some state.accepted.length) (consumerHeadSnapshot state) := by
  unfold Spsc.consumerHeadSnapshot
  rw [idle]
  exact { consistent with
    cursor := congrArg some consistent.head
    between := by
      rintro count ⟨⟩
      exact ⟨consistent.length_le, le_rfl⟩
    producer := consistent.producer
    consumer := trivial }

theorem Consistent.popUntil (consistent : Consistent geometry snapshot state) :
    Consistent geometry snapshot (popUntil state) := by
  unfold Spsc.popUntil
  split
  · rename_i end_ idle held
    split
    · exact consistent
    · rename_i unreached
      have less : ∀ count ∈ snapshot, state.delivered.length < count := by
        apply consistent.before_cursor
        rw [held]
        intro same
        exact unreached (Option.some.inj same).symm
      have cursor := consistent.cursor
      rw [held] at cursor
      cases snapshot with
      | none => cases cursor
      | some count =>
          have published := (less count rfl).trans_le (consistent.between count rfl).2
          exact { consistent with
            producer := consistent.producer
            consumer := ⟨rfl, published, less⟩ }
  · exact consistent

/-- What the producer was admitted for stays free when an element is delivered. -/
theorem ProducerHolds.deliver {producer : Producer α}
    (holds : ProducerHolds geometry state producer) (value : α) (tail : ℕ) :
    ProducerHolds geometry
      { state with tail := tail, consumer := .idle, delivered := state.delivered ++ [value] }
      producer := by
  have more : state.delivered.length ≤ (state.delivered ++ [value]).length := by
    rw [List.length_append]
    exact Nat.le_add_right _ _
  cases producer with
  | idle => trivial
  | refused => trivial
  | loaded item head => exact holds
  | admitted item head => exact ⟨holds.1, holds.2.trans_le (Nat.add_le_add_right more _)⟩
  | stored item head =>
      exact ⟨holds.1, holds.2.1.trans_le (Nat.add_le_add_right more _), holds.2.2⟩

/-- The element the consumer was admitted to lies in its slot. -/
theorem Consistent.oldest (consistent : Consistent geometry snapshot state)
    (published : state.delivered.length < state.accepted.length) :
    state.accepted[state.delivered.length]? = some (state.storage state.tail) := by
  rw [consistent.tail, consistent.holds _ published le_rfl]
  exact List.getElem?_eq_getElem published

theorem Consistent.consumerStep (consistent : Consistent geometry snapshot state) :
    Consistent geometry snapshot (consumerStep geometry state) := by
  have consumer := consistent.consumer
  unfold Spsc.consumerStep
  split
  case h_1 => exact consistent
  case h_2 tail loaded =>
    rw [loaded] at consumer
    obtain ⟨rfl, within⟩ := consumer
    split
    · exact { consistent with producer := consistent.producer, consumer := trivial }
    · rename_i some_
      rw [consistent.empty_iff] at some_
      have published : state.delivered.length < state.accepted.length := by
        apply lt_of_le_of_ne consistent.length_le
        intro same
        exact some_ (consistent.order.eq_of_length same)
      exact { consistent with
        producer := consistent.producer
        consumer := ⟨rfl, published, within⟩ }
  case h_3 tail admitted =>
    rw [admitted] at consumer
    obtain ⟨rfl, published, within⟩ := consumer
    exact { consistent with
      producer := consistent.producer
      consumer := ⟨rfl, consistent.oldest published, within⟩ }
  case h_4 tail value read =>
    rw [read] at consumer
    obtain ⟨rfl, oldest, within⟩ := consumer
    obtain ⟨published, same⟩ := List.getElem?_eq_some_iff.mp oldest
    have one : (state.delivered ++ [value]).length = state.delivered.length + 1 := by
      rw [List.length_append, List.length_singleton]
    exact { consistent with
      tail := by
        rw [one, Geometry.increment, consistent.tail, Nat.mod_add_mod]
      order := by
        have taken := List.prefix_iff_eq_take.mp consistent.order
        rw [List.prefix_iff_eq_take, one, List.take_add_one, ← taken, oldest]
        rfl
      room := by
        rw [one]
        exact consistent.room.trans (Nat.add_lt_add_right (Nat.lt_succ_self _) _)
      holds := consistent.holds.consume (one ▸ Nat.le_succ _)
      between := fun count known => by
        have later := within count known
        have high := (consistent.between count known).2
        rw [one]
        exact ⟨later, high⟩
      producer := consistent.producer.deliver value _
      consumer := trivial }

/-! ### Every order of steps -/

/-- The elements published when the cursor in hand was taken -/
def snapshotAfter (snapshot : Option ℕ) (state : State α) : Label α → Option ℕ
  | .pop => match state.consumer with
      | .idle => if state.cursor = some state.tail then none else snapshot
      | _ => snapshot
  | .consumerHeadSnapshot => match state.consumer with
      | .idle => some state.accepted.length
      | _ => snapshot
  | _ => snapshot

theorem Consistent.step (consistent : Consistent geometry snapshot state) (label : Label α) :
    Consistent geometry (snapshotAfter snapshot state label) (step geometry state label) := by
  cases label with
  | push value => exact consistent.push value
  | producer => exact consistent.producerStep
  | popUntil => exact consistent.popUntil
  | consumer => exact consistent.consumerStep
  | pop =>
      cases side : state.consumer with
      | idle =>
          simp only [snapshotAfter, side]
          exact consistent.pop side
      | loaded tail | admitted tail | read tail value =>
          simp only [snapshotAfter, Spsc.step, Spsc.pop, side]
          exact consistent
  | consumerHeadSnapshot =>
      cases side : state.consumer with
      | idle =>
          simp only [snapshotAfter, side]
          exact consistent.consumerHeadSnapshot side
      | loaded tail | admitted tail | read tail value =>
          simp only [snapshotAfter, Spsc.step, Spsc.consumerHeadSnapshot, side]
          exact consistent

theorem consistent_after (geometry : Geometry) (storage : ℕ → α) (labels : List (Label α)) :
    ∃ snapshot, Consistent geometry snapshot (Run.after (step geometry) (start storage) labels) := by
  induction labels using List.reverseRecOn with
  | nil => exact ⟨none, consistent_start storage⟩
  | append_singleton labels last inductionHypothesis =>
      obtain ⟨snapshot, consistent⟩ := inductionHypothesis
      rw [Run.after_concat]
      exact ⟨_, consistent.step last⟩

/-- A step accepts one element, delivers one, or neither. -/
theorem lists_step (geometry : Geometry) (state : State α) (label : Label α) :
    (∃ value, (step geometry state label).accepted = state.accepted ++ [value] ∧
        (step geometry state label).delivered = state.delivered) ∨
      (∃ value, (step geometry state label).accepted = state.accepted ∧
        (step geometry state label).delivered = state.delivered ++ [value]) ∨
      (step geometry state label).accepted = state.accepted ∧
        (step geometry state label).delivered = state.delivered := by
  cases label with
  | push value =>
      dsimp only [step]
      unfold push
      split <;> exact Or.inr (Or.inr ⟨rfl, rfl⟩)
  | producer =>
      dsimp only [step]
      unfold producerStep
      split
      case h_5 value head stored => exact Or.inl ⟨value, rfl, rfl⟩
      case h_2 value head loaded => split <;> exact Or.inr (Or.inr ⟨rfl, rfl⟩)
      all_goals exact Or.inr (Or.inr ⟨rfl, rfl⟩)
  | pop =>
      dsimp only [step]
      unfold pop
      split <;> exact Or.inr (Or.inr ⟨rfl, rfl⟩)
  | consumerHeadSnapshot =>
      dsimp only [step]
      unfold consumerHeadSnapshot
      split <;> exact Or.inr (Or.inr ⟨rfl, rfl⟩)
  | popUntil =>
      dsimp only [step]
      unfold popUntil
      split
      case h_1 end_ idle held => split <;> exact Or.inr (Or.inr ⟨rfl, rfl⟩)
      case h_2 => exact Or.inr (Or.inr ⟨rfl, rfl⟩)
  | consumer =>
      dsimp only [step]
      unfold consumerStep
      split
      case h_4 tail value read => exact Or.inr (Or.inl ⟨value, rfl, rfl⟩)
      case h_2 tail loaded => split <;> exact Or.inr (Or.inr ⟨rfl, rfl⟩)
      all_goals exact Or.inr (Or.inr ⟨rfl, rfl⟩)

/-- The elements that are published and not yet delivered -/
def Consistent.queue (consistent : Consistent geometry snapshot state) :
    BoundedQueue α geometry.capacity where
  items := state.accepted.drop state.delivered.length
  bounded := by
    have room := consistent.room
    rw [List.length_drop, Geometry.capacity]
    omega

/-- A step is a send to a bounded queue, a receive from it, or nothing to it. -/
theorem Consistent.queue_step (consistent : Consistent geometry snapshot state)
    (label : Label α) :
    (∃ value, consistent.queue.send value = some (consistent.step label).queue) ∨
      (∃ value, consistent.queue.receive = some (value, (consistent.step label).queue)) ∨
      (consistent.step label).queue = consistent.queue := by
  have next := consistent.step label
  rcases lists_step geometry state label with
    ⟨value, accepted, delivered⟩ | ⟨value, accepted, delivered⟩ | ⟨accepted, delivered⟩
  · refine Or.inl ⟨value, BoundedQueue.send_of_items ?_⟩
    show (Spsc.step geometry state label).accepted.drop _ = _
    rw [accepted, delivered, List.drop_append_of_le_length consistent.length_le]
    rfl
  · refine Or.inr (Or.inl ⟨value, BoundedQueue.receive_of_items ?_⟩)
    have order := next.order
    rw [accepted, delivered] at order
    show _ = value :: (Spsc.step geometry state label).accepted.drop _
    rw [accepted, delivered]
    obtain ⟨rest, parts⟩ := order
    show state.accepted.drop state.delivered.length = _
    rw [← parts, List.drop_left, List.append_assoc, List.drop_left]
    rfl
  · refine Or.inr (Or.inr (BoundedQueue.eq_of_items ?_))
    show (Spsc.step geometry state label).accepted.drop _ = _
    rw [accepted, delivered]
    rfl

/-! ### Up to a snapshot -/

/-- Without another snapshot, the cursor stands for what it stood for, or is spent. -/
theorem snapshotAfter_eq (snapshot : Option ℕ) (state : State α) {label : Label α}
    (kept : label ≠ .consumerHeadSnapshot) :
    snapshotAfter snapshot state label = snapshot ∨
      snapshotAfter snapshot state label = none := by
  cases label with
  | consumerHeadSnapshot => exact absurd rfl kept
  | push value | producer | popUntil | consumer => exact Or.inl rfl
  | pop =>
      cases side : state.consumer with
      | loaded tail | admitted tail | read tail value =>
          left
          simp only [snapshotAfter, side]
      | idle =>
          simp only [snapshotAfter, side]
          split
          · exact Or.inr rfl
          · exact Or.inl rfl

theorem Consistent.drain (consistent : Consistent geometry snapshot state)
    (calls : List (Label α)) (kept : ∀ label ∈ calls, label ≠ .consumerHeadSnapshot)
    (held : (Run.after (Spsc.step geometry) state calls).cursor ≠ none) :
    Consistent geometry snapshot (Run.after (Spsc.step geometry) state calls) := by
  suffices either : Consistent geometry snapshot (Run.after (Spsc.step geometry) state calls) ∨
      Consistent geometry none (Run.after (Spsc.step geometry) state calls) by
    rcases either with same | spent
    · exact same
    · exact absurd spent.cursor held
  clear held
  induction calls generalizing snapshot state with
  | nil => exact Or.inl consistent
  | cons label rest inductionHypothesis =>
      have later : ∀ other ∈ rest, other ≠ .consumerHeadSnapshot := fun other within =>
        kept other (List.mem_cons_of_mem _ within)
      have next := consistent.step label
      rcases snapshotAfter_eq snapshot state (kept label List.mem_cons_self) with same | spent
      · rw [same] at next
        exact inductionHypothesis next later
      · rw [spent] at next
        exact Or.inr ((inductionHypothesis next later).elim id id)

/-- Nothing but `pop` ends a cursor: a drain that calls `popUntil` alone, as `EncoderSampler::pop`
does, keeps its own. -/
theorem cursor_after (geometry : Geometry) (calls : List (Label α)) (held : state.cursor ≠ none)
    (drains : ∀ label ∈ calls, label ≠ .pop) :
    (Run.after (step geometry) state calls).cursor ≠ none := by
  induction calls generalizing state with
  | nil => exact held
  | cons label rest inductionHypothesis =>
      apply inductionHypothesis _ fun other within => drains other (List.mem_cons_of_mem _ within)
      cases label with
      | pop => exact absurd rfl (drains .pop List.mem_cons_self)
      | push value =>
          dsimp only [step]
          unfold push
          split <;> exact held
      | producer =>
          dsimp only [step]
          unfold producerStep
          split
          case h_2 => split <;> exact held
          all_goals exact held
      | consumerHeadSnapshot =>
          dsimp only [step]
          unfold consumerHeadSnapshot
          split
          · exact Option.some_ne_none _
          · exact held
      | popUntil =>
          dsimp only [step]
          unfold popUntil
          split
          · split <;> exact held
          · exact held
      | consumer =>
          dsimp only [step]
          unfold consumerStep
          split
          case h_2 => split <;> exact held
          all_goals exact held

/-- What was accepted is not taken back. -/
theorem accepted_prefix (geometry : Geometry) (state : State α) (calls : List (Label α)) :
    state.accepted <+: (Run.after (step geometry) state calls).accepted := by
  induction calls generalizing state with
  | nil => exact List.prefix_refl _
  | cons label rest inductionHypothesis =>
      have one : state.accepted <+: (step geometry state label).accepted := by
        rcases lists_step geometry state label with
          ⟨value, accepted, -⟩ | ⟨value, accepted, -⟩ | ⟨accepted, -⟩
        · rw [accepted]
          exact List.prefix_append _ _
        · rw [accepted]
        · rw [accepted]
      exact one.trans (inductionHypothesis _)

theorem accepted_consumerHeadSnapshot (state : State α) :
    (consumerHeadSnapshot state).accepted = state.accepted := by
  unfold consumerHeadSnapshot
  split <;> rfl

/-- `popUntil` finds nothing at its cursor alone. -/
theorem reached_of_popUntil (idle : state.consumer = .idle) (held : state.cursor ≠ none)
    (fails : (popUntil state).consumer = .idle) : state.cursor = some state.tail := by
  cases cursor : state.cursor with
  | none => exact absurd cursor held
  | some end_ =>
      unfold popUntil at fails
      rw [idle, cursor] at fails
      dsimp only at fails
      split at fails
      · rename_i same
        exact congrArg some same.symm
      · cases fails

/-! ### Queues -/

/-- `push` fails in a full queue alone. -/
theorem Consistent.full_of_refused (consistent : Consistent geometry snapshot state)
    (refused : (Spsc.producerStep geometry state).producer = .refused) :
    state.accepted.length = state.delivered.length + geometry.capacity := by
  have two := geometry.two
  have producer := consistent.producer
  unfold Spsc.producerStep at refused
  cases side : state.producer with
  | idle | refused | admitted value head | stored value head =>
      simp only [side] at refused
      cases refused
  | loaded value head =>
      rw [side] at producer
      obtain rfl : head = state.head := producer
      simp only [side] at refused
      split at refused
      · rename_i full
        rw [consistent.full_iff] at full
        rw [Geometry.capacity]
        omega
      · cases refused

/-- `pop` fails in an empty one alone. -/
theorem Consistent.empty_of_failed (consistent : Consistent geometry snapshot state) {tail : ℕ}
    (loaded : state.consumer = .loaded tail)
    (fails : (Spsc.consumerStep geometry state).consumer = .idle) :
    state.delivered = state.accepted := by
  have consumer := consistent.consumer
  rw [loaded] at consumer
  obtain rfl : tail = state.tail := consumer.1
  unfold Spsc.consumerStep at fails
  rw [loaded] at fails
  dsimp only at fails
  split at fails
  · rename_i empty
    exact consistent.empty_iff.mp empty
  · cases fails

/-- In every order of the steps of the two sides, what was accepted is delivered in order, once; no
slot is written while it is unread, and none is read before it holds what it is read for; `push`
fails in a full queue alone, `pop` in an empty one; and what is popped until a snapshot is what had
been accepted when it was taken. -/
theorem spsc_fifo (geometry : Geometry) (storage : ℕ → α) (labels : List (Label α)) :
    let state := Run.after (step geometry) (start storage) labels
    state.delivered <+: state.accepted ∧
      (∀ value slot, state.producer = .admitted value slot →
        ∀ index, state.delivered.length ≤ index → index < state.accepted.length →
          index % geometry.slots ≠ slot) ∧
      (∀ slot, state.consumer = .admitted slot →
        state.accepted[state.delivered.length]? = some (state.storage slot)) ∧
      ((producerStep geometry state).producer = .refused →
        state.accepted.length = state.delivered.length + geometry.capacity) ∧
      (∀ tail, state.consumer = .loaded tail → (consumerStep geometry state).consumer = .idle →
        state.delivered = state.accepted) ∧
      (state.consumer = .idle → ∀ calls : List (Label α),
        (∀ label ∈ calls, label ≠ .consumerHeadSnapshot) →
        let later := Run.after (step geometry) (consumerHeadSnapshot state) calls
        later.cursor ≠ none →
          later.delivered <+: state.accepted ∧
            (later.consumer = .idle → (popUntil later).consumer = .idle →
              later.delivered = state.accepted)) := by
  intro state
  obtain ⟨snapshot, consistent⟩ : ∃ snapshot, Consistent geometry snapshot state :=
    consistent_after geometry storage labels
  have producer := consistent.producer
  have consumer := consistent.consumer
  refine ⟨consistent.order, ?_, ?_, consistent.full_of_refused, ?_, ?_⟩
  · intro value slot admitted index unread published
    have room := consistent.room
    rw [admitted] at producer
    rw [producer.1, consistent.head]
    exact RingBuffer.slot_ne published (by omega)
  · intro slot admitted
    rw [admitted] at consumer
    rw [consumer.1]
    exact consistent.oldest consumer.2.1
  · intro tail loaded fails
    exact consistent.empty_of_failed loaded fails
  · intro idle calls kept later held
    have drain : Consistent geometry (some state.accepted.length) later :=
      (consistent.consumerHeadSnapshot idle).drain calls kept held
    have longer : state.accepted <+: later.accepted := by
      rw [← accepted_consumerHeadSnapshot state]
      exact accepted_prefix geometry _ calls
    have within : later.delivered <+: state.accepted :=
      List.prefix_of_prefix_length_le drain.order longer (drain.between _ rfl).1
    refine ⟨within, fun done fails => within.eq_of_length ?_⟩
    exact drain.at_cursor (reached_of_popUntil done held fails)

end MissionBoard.Runtime.Spsc
