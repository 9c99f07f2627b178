import Mathlib.Data.List.Infix
import Mathlib.Data.List.Pairwise

/-!
Owns the resynchronising scan for frames in a sequence: the front of the sequence is a frame, or its
first element begins none and is passed over, or more is needed. The scan is independent of the pieces
in which the sequence arrives, the frames it takes are disjoint, and it misses a frame only to one that
it has taken over its beginning.

Nothing here names a particular format. A client supplies the judgement of a front and proves that it
is not revised when more arrives.
-/

/-- What the front of a sequence is judged to be -/
inductive Front (κ φ : Type*) where
  /-- It may begin a frame of which there is more to come. -/
  | unfinished
  /-- The first element begins no frame. -/
  | noise (cause : κ)
  | frame (size : ℕ) (value : φ)
deriving DecidableEq

/-- A format whose frames can be told at the front of a sequence -/
structure FrameFormat (β κ φ : Type*) where
  front : List β → Front κ φ
  front_nil : front [] = .unfinished
  size_pos : ∀ {elements size value}, front elements = .frame size value → 0 < size
  size_le : ∀ {elements size value}, front elements = .frame size value → size ≤ elements.length
  /-- A judgement stands whatever comes after. -/
  stable : ∀ {elements}, front elements ≠ .unfinished → ∀ more,
    front (elements ++ more) = front elements

/-- What the scan has come by -/
inductive Scanned (κ φ : Type*) where
  | noise (cause : κ)
  | frame (size : ℕ) (value : φ)

/-- A frame that the scan has taken, with the place where it begins -/
structure Placed (φ : Type*) where
  offset : ℕ
  size : ℕ
  value : φ

variable {β κ φ : Type*}

namespace Scanned

def size : Scanned κ φ → ℕ
  | .noise _ => 1
  | .frame size _ => size

/-- The number of elements that were passed over or taken -/
def extent : List (Scanned κ φ) → ℕ
  | [] => 0
  | event :: events => event.size + extent events

/-- The frames among the events of a scan that began here -/
def placed : ℕ → List (Scanned κ φ) → List (Placed φ)
  | _, [] => []
  | offset, .noise _ :: events => placed (offset + 1) events
  | offset, .frame size value :: events => ⟨offset, size, value⟩ :: placed (offset + size) events

/-- The number of elements passed over that are of this kind -/
def passed (kind : κ → Bool) (events : List (Scanned κ φ)) : ℕ :=
  events.countP fun event => match event with
    | .noise cause => kind cause
    | .frame _ _ => false

@[simp] theorem extent_nil : extent ([] : List (Scanned κ φ)) = 0 := rfl

@[simp] theorem extent_noise (cause : κ) (events : List (Scanned κ φ)) :
    extent (.noise cause :: events) = 1 + extent events := rfl

@[simp] theorem extent_frame (size : ℕ) (value : φ) (events : List (Scanned κ φ)) :
    extent (.frame size value :: events) = size + extent events := rfl

@[simp] theorem extent_append (first second : List (Scanned κ φ)) :
    extent (first ++ second) = extent first + extent second := by
  induction first with
  | nil => exact (Nat.zero_add _).symm
  | cons event rest inductionHypothesis =>
      simp only [List.cons_append, extent, inductionHypothesis, Nat.add_assoc]

@[simp] theorem placed_nil (offset : ℕ) : placed offset ([] : List (Scanned κ φ)) = [] := rfl

@[simp] theorem placed_noise (offset : ℕ) (cause : κ) (events : List (Scanned κ φ)) :
    placed offset (.noise cause :: events) = placed (offset + 1) events := rfl

@[simp] theorem placed_frame (offset size : ℕ) (value : φ) (events : List (Scanned κ φ)) :
    placed offset (.frame size value :: events) =
      ⟨offset, size, value⟩ :: placed (offset + size) events := rfl

theorem placed_append (offset : ℕ) (first second : List (Scanned κ φ)) :
    placed offset (first ++ second) =
      placed offset first ++ placed (offset + extent first) second := by
  induction first generalizing offset with
  | nil => simp
  | cons event rest inductionHypothesis =>
      cases event with
      | noise cause => simp [inductionHypothesis, Nat.add_assoc]
      | frame size value => simp [inductionHypothesis, Nat.add_assoc]

@[simp] theorem passed_nil (kind : κ → Bool) : passed kind ([] : List (Scanned κ φ)) = 0 := rfl

@[simp] theorem passed_noise (kind : κ → Bool) (cause : κ) (events : List (Scanned κ φ)) :
    passed kind (.noise cause :: events) = passed kind events + (kind cause).toNat := by
  cases told : kind cause <;> simp [passed, told]

@[simp] theorem passed_frame (kind : κ → Bool) (size : ℕ) (value : φ)
    (events : List (Scanned κ φ)) : passed kind (.frame size value :: events) = passed kind events := by
  simp [passed]

@[simp] theorem passed_append (kind : κ → Bool) (first second : List (Scanned κ φ)) :
    passed kind (first ++ second) = passed kind first + passed kind second :=
  List.countP_append

end Scanned

namespace FrameFormat

open Scanned

variable (format : FrameFormat β κ φ)

/-- The scan, for at most so many events -/
def scanFor : ℕ → List β → List (Scanned κ φ) × List β
  | 0, elements => ([], elements)
  | fuel + 1, elements =>
      match format.front elements with
      | .unfinished => ([], elements)
      | .noise cause =>
          let (events, rest) := scanFor fuel elements.tail
          (.noise cause :: events, rest)
      | .frame size value =>
          let (events, rest) := scanFor fuel (elements.drop size)
          (.frame size value :: events, rest)

/-- The scan goes on until more is needed; what it has not passed over or taken is left. -/
def scan (elements : List β) : List (Scanned κ φ) × List β :=
  format.scanFor elements.length elements

variable {format} {elements : List β}

theorem length_pos_of_front (judged : format.front elements ≠ .unfinished) :
    0 < elements.length := by
  apply List.length_pos_of_ne_nil
  rintro rfl
  exact judged format.front_nil

/-- With an event for every element nothing is cut off. -/
theorem scanFor_eq_scan (fuel : ℕ) : elements.length ≤ fuel →
    format.scanFor fuel elements = format.scan elements := by
  have enough : ∀ (first second : ℕ) (elements : List β), elements.length ≤ first →
      elements.length ≤ second → format.scanFor first elements = format.scanFor second elements := by
    intro first
    induction first with
    | zero =>
        intro second elements short _
        have empty : elements = [] := List.eq_nil_of_length_eq_zero (by omega)
        subst empty
        cases second with
        | zero => rfl
        | succ second => simp [scanFor, format.front_nil]
    | succ first inductionHypothesis =>
        intro second elements fits fitsToo
        cases second with
        | zero =>
            have empty : elements = [] := List.eq_nil_of_length_eq_zero (by omega)
            subst empty
            simp [scanFor, format.front_nil]
        | succ second =>
            simp only [scanFor]
            cases judged : format.front elements with
            | unfinished => rfl
            | noise cause =>
                have some := @length_pos_of_front _ _ _ format elements (by simp [judged])
                have shorter : elements.tail.length = elements.length - 1 := List.length_tail
                dsimp only
                rw [inductionHypothesis second elements.tail (by omega) (by omega)]
            | frame size value =>
                have positive := format.size_pos judged
                have shorter : (elements.drop size).length = elements.length - size :=
                  List.length_drop
                dsimp only
                rw [inductionHypothesis second (elements.drop size) (by omega) (by omega)]
  intro fits
  exact enough fuel elements.length elements fits (Nat.le_refl _)

theorem scan_unfinished (judged : format.front elements = .unfinished) :
    format.scan elements = ([], elements) := by
  unfold scan
  cases elements with
  | nil => rfl
  | cons head rest => simp [scanFor, judged]

theorem scan_noise {cause : κ} (judged : format.front elements = .noise cause) :
    format.scan elements =
      (.noise cause :: (format.scan elements.tail).1, (format.scan elements.tail).2) := by
  cases elements with
  | nil => simp [format.front_nil] at judged
  | cons head rest => simp [scan, scanFor, judged]

theorem scan_frame {size : ℕ} {value : φ} (judged : format.front elements = .frame size value) :
    format.scan elements =
      (.frame size value :: (format.scan (elements.drop size)).1,
        (format.scan (elements.drop size)).2) := by
  have positive := format.size_pos judged
  cases elements with
  | nil => simp [format.front_nil] at judged
  | cons head rest =>
      have fits : ((head :: rest).drop size).length ≤ rest.length := by
        rw [List.length_drop, List.length_cons]
        omega
      rw [← scanFor_eq_scan rest.length fits]
      simp [scan, scanFor, judged]

variable (format) in
/-- The induction along a scan -/
theorem scan_induction {property : List β → Prop}
    (unfinished : ∀ elements, format.front elements = .unfinished → property elements)
    (noise : ∀ elements cause, format.front elements = .noise cause → property elements.tail →
      property elements)
    (frame : ∀ elements size value, format.front elements = .frame size value →
      property (elements.drop size) → property elements)
    (elements : List β) : property elements := by
  induction size : elements.length using Nat.strongRecOn generalizing elements with
  | ind length inductionHypothesis =>
      cases judged : format.front elements with
      | unfinished => exact unfinished elements judged
      | noise cause =>
          have some := @length_pos_of_front _ _ _ format elements (by simp [judged])
          have shorter : elements.tail.length = elements.length - 1 := List.length_tail
          exact noise elements cause judged
            (inductionHypothesis elements.tail.length (by omega) elements.tail rfl)
      | frame extent value =>
          have positive := format.size_pos judged
          have within := format.size_le judged
          have shorter : (elements.drop extent).length = elements.length - extent :=
            List.length_drop
          exact frame elements extent value judged
            (inductionHypothesis (elements.drop extent).length (by omega) _ rfl)

/-! ### Pieces -/

theorem front_append (more : List β) (judged : format.front elements ≠ .unfinished) :
    format.front (elements ++ more) = format.front elements :=
  format.stable judged more

/-- What arrives later goes on where the scan has stopped. -/
theorem scan_append (elements more : List β) :
    format.scan (elements ++ more) =
      ((format.scan elements).1 ++ (format.scan ((format.scan elements).2 ++ more)).1,
        (format.scan ((format.scan elements).2 ++ more)).2) := by
  induction elements using format.scan_induction with
  | unfinished elements judged => simp [scan_unfinished judged]
  | noise elements cause judged inductionHypothesis =>
      have longer : format.front (elements ++ more) = .noise cause :=
        (front_append more (by simp [judged])).trans judged
      have some := @length_pos_of_front _ _ _ format elements (by simp [judged])
      have tail : (elements ++ more).tail = elements.tail ++ more :=
        List.tail_append_of_ne_nil (List.ne_nil_of_length_pos some)
      rw [scan_noise longer, scan_noise judged, tail, inductionHypothesis]
      rfl
  | frame elements size value judged inductionHypothesis =>
      have longer : format.front (elements ++ more) = .frame size value :=
        (front_append more (by simp [judged])).trans judged
      rw [scan_frame longer, scan_frame judged,
        List.drop_append_of_le_length (format.size_le judged), inductionHypothesis]
      rfl

/-- The events and the rest make up what was scanned. -/
theorem extent_scan (elements : List β) :
    extent (format.scan elements).1 + (format.scan elements).2.length = elements.length := by
  induction elements using format.scan_induction with
  | unfinished elements judged => simp [scan_unfinished judged]
  | noise elements cause judged inductionHypothesis =>
      have some := @length_pos_of_front _ _ _ format elements (by simp [judged])
      have shorter : elements.tail.length = elements.length - 1 := List.length_tail
      rw [scan_noise judged]
      simp only [extent_noise]
      omega
  | frame elements size value judged inductionHypothesis =>
      have within := format.size_le judged
      have shorter : (elements.drop size).length = elements.length - size := List.length_drop
      rw [scan_frame judged]
      simp only [extent_frame]
      omega

/-- The scan stops only before what may still become a frame. -/
theorem front_rest (elements : List β) : format.front (format.scan elements).2 = .unfinished := by
  induction elements using format.scan_induction with
  | unfinished elements judged => simp [scan_unfinished judged, judged]
  | noise elements cause judged inductionHypothesis =>
      rw [scan_noise judged]
      exact inductionHypothesis
  | frame elements size value judged inductionHypothesis =>
      rw [scan_frame judged]
      exact inductionHypothesis

/-! ### Frames -/

theorem le_of_mem_placed {events : List (Scanned κ φ)} {offset : ℕ} {taken : Placed φ}
    (within : taken ∈ placed offset events) :
    offset ≤ taken.offset ∧ taken.offset + taken.size ≤ offset + extent events := by
  induction events generalizing offset with
  | nil => simp at within
  | cons event rest inductionHypothesis =>
      cases event with
      | noise cause =>
          have later := inductionHypothesis within
          simp only [extent_noise]
          omega
      | frame size value =>
          simp only [extent_frame]
          rcases List.mem_cons.mp within with rfl | further
          · dsimp only
            omega
          · have later := inductionHypothesis further
            omega

/-- The frames follow each other without overlapping. -/
theorem disjoint_placed (offset : ℕ) (events : List (Scanned κ φ)) :
    (placed offset events).Pairwise fun earlier later =>
      earlier.offset + earlier.size ≤ later.offset := by
  induction events generalizing offset with
  | nil => simp
  | cons event rest inductionHypothesis =>
      cases event with
      | noise cause => exact inductionHypothesis (offset + 1)
      | frame size value =>
          refine List.pairwise_cons.mpr ⟨?_, inductionHypothesis (offset + size)⟩
          intro later within
          exact (le_of_mem_placed within).1

/-- What the scan takes for a frame is one, at the place that is given. -/
theorem front_of_placed {taken : Placed φ} {offset : ℕ}
    (within : taken ∈ placed offset (format.scan elements).1) :
    format.front (elements.drop (taken.offset - offset)) = .frame taken.size taken.value := by
  induction elements using format.scan_induction generalizing offset with
  | unfinished elements judged => simp [scan_unfinished judged] at within
  | noise elements cause judged inductionHypothesis =>
      rw [scan_noise judged] at within
      have inside : taken ∈ placed (offset + 1) (format.scan elements.tail).1 := within
      have later := (le_of_mem_placed inside).1
      have next := inductionHypothesis inside
      have same : taken.offset - offset = taken.offset - (offset + 1) + 1 := by omega
      rw [List.drop_tail] at next
      rw [same]
      exact next
  | frame elements size value judged inductionHypothesis =>
      rw [scan_frame judged] at within
      rcases List.mem_cons.mp within with rfl | further
      · simpa using judged
      · have later := (le_of_mem_placed further).1
        have next := inductionHypothesis further
        have same : taken.offset - offset = size + (taken.offset - (offset + size)) := by omega
        rw [List.drop_drop] at next
        rw [same]
        exact next

/-- A frame that the scan has come past was taken, or one that covers its beginning was. -/
theorem covered_of_front {start size : ℕ} {value : φ}
    (there : format.front (elements.drop start) = .frame size value)
    (past : start < extent (format.scan elements).1) (offset : ℕ) :
    ∃ taken ∈ placed offset (format.scan elements).1,
      taken = ⟨offset + start, size, value⟩ ∨
        taken.offset < offset + start ∧ offset + start < taken.offset + taken.size := by
  induction elements using format.scan_induction generalizing start offset with
  | unfinished elements judged => simp [scan_unfinished judged] at past
  | noise elements cause judged inductionHypothesis =>
      rw [scan_noise judged] at past ⊢
      simp only [extent_noise, placed_noise] at past ⊢
      cases start with
      | zero =>
          rw [List.drop_zero, judged] at there
          cases there
      | succ start =>
          obtain ⟨taken, within, covers⟩ := @inductionHypothesis start
            (by simpa [List.drop_tail] using there) (by omega) (offset + 1)
          refine ⟨taken, within, covers.imp (fun same => ?_) fun covered => ?_⟩
          · rw [same, Nat.add_assoc, Nat.add_comm 1 start]
          · omega
  | frame elements first taken judged inductionHypothesis =>
      rw [scan_frame judged] at past ⊢
      simp only [extent_frame, placed_frame] at past ⊢
      rcases Nat.lt_or_ge start first with inside | beyond
      · refine ⟨_, List.mem_cons_self, ?_⟩
        rcases Nat.eq_zero_or_pos start with rfl | positive
        · rw [List.drop_zero, judged] at there
          cases there
          exact Or.inl rfl
        · refine Or.inr ⟨?_, ?_⟩
          · dsimp only
            omega
          · dsimp only
            omega
      · obtain ⟨other, within, covers⟩ := @inductionHypothesis (start - first)
          (by simpa [List.drop_drop, Nat.add_sub_cancel' beyond] using there) (by omega)
          (offset + first)
        refine ⟨other, List.mem_cons_of_mem _ within, covers.imp (fun same => ?_) fun covered => ?_⟩
        · rw [same, Nat.add_assoc, Nat.add_sub_cancel' beyond]
        · omega

/-- An element that begins no frame is passed over, or a frame that was taken covers it. -/
theorem passed_of_front {start : ℕ} {cause : κ} {kind : κ → Bool}
    (there : format.front (elements.drop start) = .noise cause) (told : kind cause = true)
    (past : start < extent (format.scan elements).1) (offset : ℕ) :
    0 < passed kind (format.scan elements).1 ∨
      ∃ taken ∈ placed offset (format.scan elements).1,
        taken.offset < offset + start ∧ offset + start < taken.offset + taken.size := by
  induction elements using format.scan_induction generalizing start offset with
  | unfinished elements judged => simp [scan_unfinished judged] at past
  | noise elements other judged inductionHypothesis =>
      rw [scan_noise judged] at past ⊢
      simp only [extent_noise, placed_noise, passed_noise] at past ⊢
      cases start with
      | zero =>
          rw [List.drop_zero, judged] at there
          cases there
          left
          simp [told]
      | succ start =>
          rcases @inductionHypothesis start (by simpa [List.drop_tail] using there) (by omega)
            (offset + 1) with some | ⟨taken, within, covers⟩
          · left
            omega
          · exact Or.inr ⟨taken, within, by omega⟩
  | frame elements first value judged inductionHypothesis =>
      rw [scan_frame judged] at past ⊢
      simp only [extent_frame, placed_frame, passed_frame] at past ⊢
      rcases Nat.lt_or_ge start first with inside | beyond
      · right
        refine ⟨_, List.mem_cons_self, ?_⟩
        rcases Nat.eq_zero_or_pos start with rfl | positive
        · rw [List.drop_zero, judged] at there
          cases there
        · dsimp only
          omega
      · rcases @inductionHypothesis (start - first)
          (by simpa [List.drop_drop, Nat.add_sub_cancel' beyond] using there) (by omega)
          (offset + first) with some | ⟨other, within, covers⟩
        · exact Or.inl some
        · exact Or.inr ⟨other, List.mem_cons_of_mem _ within, by omega⟩

end FrameFormat
