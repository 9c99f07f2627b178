import MissionBoard.Library.Run

/-!
Owns keys that a system may fire once each until they are renewed. A trace spends a
key when it fires it, and may spend it in other ways; a spent key stays spent until
an event renews it.

A client says which events fire, spend and renew which keys, and keeps its trace by
firing only keys that are not spent.
-/

open Trace

/-- Which events fire, spend and renew a key. What fires a key spends it. -/
structure OneShot (ε κ : Type*) where
  fires : ε → κ → Bool
  spends : ε → κ → Bool
  renews : ε → κ → Bool
  spends_of_fires : ∀ event key, fires event key = true → spends event key = true

namespace OneShot

variable {ε κ : Type*} (shot : OneShot ε κ)

/-- The key was spent and not renewed since. -/
def spent (trace : List ε) (key : κ) : Bool :=
  trace.foldl (fun spent event => shot.spends event key || (spent && !shot.renews event key)) false

/-- No event fires a key that is spent. -/
def FiresOnce (trace : List ε) : Prop :=
  Throughout (fun first event => ∀ key, shot.fires event key = true → shot.spent first key = false)
    trace

variable {shot}

theorem spent_concat (trace : List ε) (event : ε) (key : κ) :
    shot.spent (trace ++ [event]) key =
      (shot.spends event key || (shot.spent trace key && !shot.renews event key)) := by
  unfold spent
  rw [List.foldl_append]
  rfl

/-- A spent key stays spent until it is renewed. -/
theorem spent_append {trace : List ε} {key : κ} (spent : shot.spent trace key = true)
    {rest : List ε} (kept : ∀ event ∈ rest, shot.renews event key = false) :
    shot.spent (trace ++ rest) key = true := by
  induction rest using List.reverseRecOn with
  | nil =>
      rw [List.append_nil]
      exact spent
  | append_singleton rest last inductionHypothesis =>
      have earlier :=
        inductionHypothesis fun event within => kept event (List.mem_append_left _ within)
      have same := kept last (List.mem_append_right _ (List.mem_singleton_self last))
      rw [← List.append_assoc, spent_concat, earlier, same]
      simp

theorem firesOnce_nil : shot.FiresOnce [] := throughout_nil _

theorem firesOnce_concat {trace : List ε} {event : ε} :
    shot.FiresOnce (trace ++ [event]) ↔
      shot.FiresOnce trace ∧ ∀ key, shot.fires event key = true → shot.spent trace key = false :=
  throughout_concat_iff

/-- An event that fires nothing keeps the trace. -/
theorem FiresOnce.concat {trace : List ε} (once : shot.FiresOnce trace) {event : ε}
    (idle : ∀ key, shot.fires event key = false) : shot.FiresOnce (trace ++ [event]) :=
  firesOnce_concat.mpr ⟨once, fun key fires => absurd fires (by simp [idle key])⟩

/-- The event neither spends nor renews any key. -/
def Idle (shot : OneShot ε κ) (event : ε) : Prop :=
  ∀ key, shot.spends event key = false ∧ shot.renews event key = false

/-- Dropping idle events leaves the same keys spent. -/
theorem spent_filter {relevant : ε → Bool}
    (idle : ∀ event, relevant event = false → shot.Idle event) (trace : List ε) (key : κ) :
    shot.spent (trace.filter relevant) key = shot.spent trace key := by
  induction trace using List.reverseRecOn with
  | nil => rfl
  | append_singleton trace last inductionHypothesis =>
      rw [List.filter_append, spent_concat]
      cases keeps : relevant last with
      | true =>
          rw [List.filter_singleton, keeps, cond_true, spent_concat, inductionHypothesis]
      | false =>
          obtain ⟨spends, renews⟩ := idle last keeps key
          rw [List.filter_singleton, keeps, cond_false, List.append_nil, inductionHypothesis,
            spends, renews]
          simp

/-- Dropping idle events leaves the trace firing once or not. -/
theorem firesOnce_filter {relevant : ε → Bool}
    (idle : ∀ event, relevant event = false → shot.Idle event) (trace : List ε) :
    shot.FiresOnce (trace.filter relevant) ↔ shot.FiresOnce trace := by
  induction trace using List.reverseRecOn with
  | nil => rfl
  | append_singleton trace last inductionHypothesis =>
      rw [List.filter_append, firesOnce_concat]
      cases keeps : relevant last with
      | true =>
          rw [List.filter_singleton, keeps, cond_true, firesOnce_concat, inductionHypothesis]
          simp only [spent_filter idle]
      | false =>
          have silent : ∀ key, shot.fires last key = true → shot.spent trace key = false := by
            intro key fires
            have spends := shot.spends_of_fires last key fires
            rw [(idle last keeps key).1] at spends
            cases spends
          rw [List.filter_singleton, keeps, cond_false, List.append_nil, inductionHypothesis]
          exact ⟨fun once => ⟨once, silent⟩, fun both => both.1⟩

/-- Between an event that spends a key and one that fires it, the key is renewed. -/
theorem FiresOnce.renewed_between {first between rest : List ε} {spending firing : ε} {key : κ}
    (once : shot.FiresOnce (first ++ spending :: (between ++ firing :: rest)))
    (spends : shot.spends spending key = true) (fires : shot.fires firing key = true) :
    ∃ event ∈ between, shot.renews event key = true := by
  by_contra none
  have kept : ∀ event ∈ between, shot.renews event key = false := by
    intro event within
    exact eq_false_of_ne_true fun renews => none ⟨event, within, renews⟩
  have spent : shot.spent (first ++ [spending] ++ between) key = true := by
    apply spent_append _ kept
    rw [spent_concat, spends]
    rfl
  have unspent := once (first ++ [spending] ++ between) firing rest (by simp) key fires
  rw [spent] at unspent
  cases unspent

end OneShot
