import Mathlib.Data.Finset.Card
import Mathlib.Data.List.Infix

/-!
Owns caches of bounded size that evict the least recently used key which is not
pinned: the order in which keys were last used, what such a cache keeps, and when
it holds the most recently used keys.

A pinned key may stay while younger keys are evicted, so the cache holds its whole
capacity of recent keys exactly when every pinned key is a recent one itself.
-/

namespace RecencyCache

variable {κ : Type*} [DecidableEq κ]

/-! ### The order of last uses -/

/-- The keys in the order of their last use, the latest first, after one more use. -/
def touch (recency : List κ) (key : κ) : List κ := key :: recency.filter (· ≠ key)

/-- The keys of a log of uses in the order of their last use, the latest first. -/
def recency (log : List κ) : List κ := log.foldl touch []

theorem recency_concat (log : List κ) (key : κ) :
    recency (log ++ [key]) = touch (recency log) key := by
  unfold recency
  rw [List.foldl_append]
  rfl

theorem mem_touch {recency : List κ} {key other : κ} :
    other ∈ touch recency key ↔ other = key ∨ other ∈ recency := by
  unfold touch
  rw [List.mem_cons, List.mem_filter, decide_eq_true_eq]
  constructor
  · rintro (same | ⟨used, -⟩)
    · exact Or.inl same
    · exact Or.inr used
  · rintro (same | used)
    · exact Or.inl same
    · by_cases same : other = key
      · exact Or.inl same
      · exact Or.inr ⟨used, same⟩

theorem nodup_touch {recency : List κ} (distinct : recency.Nodup) (key : κ) :
    (touch recency key).Nodup := by
  unfold touch
  rw [List.nodup_cons]
  refine ⟨?_, distinct.filter _⟩
  rw [List.mem_filter, decide_eq_true_eq]
  exact fun member => member.2 rfl

/-- One key was last used after the other. -/
def Later (recency : List κ) (key other : κ) : Prop := [key, other].Sublist recency

theorem later_touch {recency : List κ} {key first second : κ} (later : Later recency first second)
    (firstDiffers : first ≠ key) (secondDiffers : second ≠ key) :
    Later (touch recency key) first second := by
  unfold Later touch
  apply List.Sublist.cons
  have kept := later.filter (· ≠ key)
  rwa [List.filter_cons_of_pos (by simpa using firstDiffers),
    List.filter_cons_of_pos (by simpa using secondDiffers), List.filter_nil] at kept

/-- The key just used comes after every other. -/
theorem later_touch_self {recency : List κ} {key other : κ} (used : other ∈ recency)
    (differs : other ≠ key) : Later (touch recency key) key other := by
  unfold Later touch
  apply List.Sublist.cons_cons
  rw [List.singleton_sublist, List.mem_filter, decide_eq_true_eq]
  exact ⟨used, differs⟩

omit [DecidableEq κ] in
/-- What was used later than a recent key is recent. -/
theorem mem_take_of_later {recency : List κ} (distinct : recency.Nodup) {key other : κ} {n : ℕ}
    (later : Later recency other key) (recent : key ∈ recency.take n) :
    other ∈ recency.take n := by
  have split := later
  unfold Later at split
  rw [← List.take_append_drop n recency, List.sublist_append_iff] at split
  obtain ⟨front, back, whole, inFront, inBack⟩ := split
  have apart : key ∉ recency.drop n := by
    rw [← List.take_append_drop n recency] at distinct
    exact fun old => List.disjoint_of_nodup_append distinct recent old
  cases front with
  | nil =>
      rw [List.nil_append] at whole
      rw [← whole] at inBack
      exact absurd (inBack.subset (List.mem_cons_of_mem other List.mem_cons_self)) apart
  | cons head rest =>
      obtain rfl : other = head := (List.cons.inj whole).1
      exact inFront.subset List.mem_cons_self

/-! ### What the cache keeps -/

/-- The invariant of a cache that evicts the least recently used unpinned key. -/
structure Keeps (capacity : ℕ) (recency : List κ) (cached pinned : Finset κ) : Prop where
  distinct : recency.Nodup
  used : ∀ key ∈ cached, key ∈ recency
  pinnedCached : pinned ⊆ cached
  bounded : cached.card ≤ capacity
  full : ∀ key ∈ recency, key ∉ cached → cached.card = capacity
  evictedOlder : ∀ key ∈ recency, key ∉ cached → ∀ other ∈ cached, other ∉ pinned →
    Later recency other key

omit [DecidableEq κ] in
theorem keeps_empty (capacity : ℕ) : Keeps capacity ([] : List κ) ∅ ∅ := by
  constructor
  · exact List.nodup_nil
  · intro key cached
    exact absurd cached (Finset.notMem_empty key)
  · exact Finset.Subset.refl ∅
  · exact Nat.zero_le capacity
  · intro key used
    exact absurd used List.not_mem_nil
  · intro key used
    exact absurd used List.not_mem_nil

section Keeps

variable {capacity : ℕ} {recency : List κ} {cached pinned : Finset κ}
  (keeps : Keeps capacity recency cached pinned)

include keeps

/-- The cache holds the recent keys exactly when every pinned key is recent. -/
theorem Keeps.recent_cached_iff :
    (∀ key ∈ recency.take capacity, key ∈ cached) ↔
      ∀ key ∈ pinned, key ∈ recency.take capacity := by
  have distinctTake : (recency.take capacity).Nodup :=
    keeps.distinct.sublist (List.take_sublist capacity recency)
  constructor
  · intro holds key isPinned
    have isCached := keeps.pinnedCached isPinned
    by_contra old
    -- A key outside the recent ones means that the recent ones fill the capacity.
    have long : capacity < recency.length := by
      by_contra short
      rw [List.take_of_length_le (not_lt.mp short)] at old
      exact old (keeps.used key isCached)
    have sub : insert key (recency.take capacity).toFinset ⊆ cached := by
      intro other member
      rcases Finset.mem_insert.mp member with rfl | recent
      · exact isCached
      · exact holds other (List.mem_toFinset.mp recent)
    have count := Finset.card_le_card sub
    rw [Finset.card_insert_of_notMem (fun recent => old (List.mem_toFinset.mp recent)),
      List.toFinset_card_of_nodup distinctTake, List.length_take, min_eq_left long.le] at count
    have bounded := keeps.bounded
    omega
  · intro recents key recent
    by_contra evicted
    have used := List.mem_of_mem_take recent
    have sub : cached ⊆ (recency.take capacity).toFinset := by
      intro other isCached
      rw [List.mem_toFinset]
      by_cases isPinned : other ∈ pinned
      · exact recents other isPinned
      · exact mem_take_of_later keeps.distinct
          (keeps.evictedOlder key used evicted other isCached isPinned) recent
    have whole : cached = (recency.take capacity).toFinset := by
      apply Finset.eq_of_subset_of_card_le sub
      rw [keeps.full key used evicted, List.toFinset_card_of_nodup distinctTake]
      exact List.length_take_le capacity recency
    rw [whole, List.mem_toFinset] at evicted
    exact evicted recent

/-- Using a cached key keeps the invariant; the key may lose its pin. -/
theorem Keeps.use {key : κ} (isCached : key ∈ cached) {later : Finset κ} (within : later ⊆ cached)
    (pins : ∀ other ∈ pinned, other = key ∨ other ∈ later) :
    Keeps capacity (touch recency key) cached later := by
  constructor
  · exact nodup_touch keeps.distinct key
  · intro other member
    exact mem_touch.mpr (Or.inr (keeps.used other member))
  · exact within
  · exact keeps.bounded
  · intro other used evicted
    rcases mem_touch.mp used with rfl | before
    · exact absurd isCached evicted
    · exact keeps.full other before evicted
  · intro other used evicted held isHeld unpinned
    have differs : other ≠ key := by
      rintro rfl
      exact evicted isCached
    have before := (mem_touch.mp used).resolve_left differs
    by_cases same : held = key
    · subst same
      exact later_touch_self before differs
    · refine later_touch ?_ same differs
      apply keeps.evictedOlder other before evicted held isHeld
      intro isPinned
      rcases pins held isPinned with isKey | stays
      · exact same isKey
      · exact unpinned stays

/-- A new key fits while there is room. -/
theorem Keeps.add {key : κ} (fresh : key ∉ cached) (room : cached.card < capacity)
    {later : Finset κ} (within : later ⊆ insert key cached) :
    Keeps capacity (touch recency key) (insert key cached) later := by
  have nothing : ∀ other ∈ touch recency key, other ∈ insert key cached := by
    intro other used
    rw [Finset.mem_insert]
    rcases mem_touch.mp used with same | before
    · exact Or.inl same
    · right
      by_contra evicted
      have full := keeps.full other before evicted
      omega
  constructor
  · exact nodup_touch keeps.distinct key
  · intro other member
    rw [mem_touch]
    exact (Finset.mem_insert.mp member).imp_right (keeps.used other)
  · exact within
  · rw [Finset.card_insert_of_notMem fresh]
    exact room
  · intro other used evicted
    exact absurd (nothing other used) evicted
  · intro other used evicted
    exact absurd (nothing other used) evicted

/-- A new key takes the place of the least recently used unpinned one. -/
theorem Keeps.replace {key victim : κ} (fresh : key ∉ cached) (isCached : victim ∈ cached)
    (full : cached.card = capacity)
    (oldest : ∀ other ∈ cached, other ∉ pinned → other ≠ victim → Later recency other victim)
    {later : Finset κ} (within : later ⊆ insert key (cached.erase victim))
    (pins : ∀ other ∈ pinned, other ∈ later) :
    Keeps capacity (touch recency key) (insert key (cached.erase victim)) later := by
  have size : (insert key (cached.erase victim)).card = capacity := by
    have positive : 0 < cached.card := Finset.card_pos.mpr ⟨victim, isCached⟩
    rw [Finset.card_insert_of_notMem (fun member => fresh (Finset.mem_of_mem_erase member)),
      Finset.card_erase_of_mem isCached]
    omega
  constructor
  · exact nodup_touch keeps.distinct key
  · intro other member
    rw [mem_touch]
    exact (Finset.mem_insert.mp member).imp_right fun kept =>
      keeps.used other (Finset.mem_of_mem_erase kept)
  · exact within
  · exact size.le
  · exact fun _ _ _ => size
  · intro other used evicted held isHeld unpinned
    have differs : other ≠ key := by
      rintro rfl
      exact evicted (Finset.mem_insert_self _ _)
    have before := (mem_touch.mp used).resolve_left differs
    by_cases same : held = key
    · subst same
      exact later_touch_self before differs
    · have kept := (Finset.mem_insert.mp isHeld).resolve_left same
      have heldCached := Finset.mem_of_mem_erase kept
      have free : held ∉ pinned := fun isPinned => unpinned (pins held isPinned)
      refine later_touch ?_ same differs
      by_cases isVictim : other = victim
      · subst isVictim
        exact oldest held heldCached free (Finset.ne_of_mem_erase kept)
      · apply keeps.evictedOlder other before _ held heldCached free
        intro still
        exact evicted (Finset.mem_insert_of_mem (Finset.mem_erase.mpr ⟨isVictim, still⟩))

end Keeps

end RecencyCache
