import Mathlib.Algebra.Order.Group.Multiset
import Mathlib.Data.Multiset.UnionInter
import MissionBoard.Library.Run

/-!
Owns the books of a transaction table whose transactions are carried by other
parties: which keys are live, who is bound to answer for them, who holds one that
it answers only while it is live, which of those it may still act for, and which were
interrupted but not yet reported.

A trace records acceptances, terminal answers, reported interruptions and effects.
The moves keep every transaction to one terminal answer and keep an interrupted
one from acting after its interruption is reported. A system refines the ledger
by showing that each of its steps is a run of moves.
-/

namespace TransactionLedger

open Trace

/-- What a trace records. A terminal answer goes to one key; a reported interruption
is the terminal answer to every key it names. -/
inductive Event (κ : Type*) where
  | accepted (key : κ)
  | terminal (key : κ)
  | interrupted (keys : List κ)
  | effect (key : κ)
deriving DecidableEq

/-! ### Traces -/

section Trace

variable {κ : Type*}

variable [DecidableEq κ]

/-- The event accepts the key. -/
def Event.accepts (key : κ) : Event κ → Bool
  | .accepted other => decide (other = key)
  | _ => false

/-- The event reports the key interrupted. -/
def Event.interrupts (key : κ) : Event κ → Bool
  | .interrupted keys => decide (key ∈ keys)
  | _ => false

/-- The event is a terminal answer to the key. -/
def Event.answers (key : κ) : Event κ → Bool
  | .terminal other => decide (other = key)
  | .interrupted keys => decide (key ∈ keys)
  | _ => false

theorem Event.answers_of_interrupts {event : Event κ} {key : κ}
    (interrupts : event.interrupts key = true) : event.answers key = true := by
  cases event with
  | interrupted keys => exact interrupts
  | accepted other => cases interrupts
  | terminal other => cases interrupts
  | effect other => cases interrupts

/-- The events since the key was last accepted. -/
def since (trace : List (Event κ)) (key : κ) : List (Event κ) :=
  trace.foldl (fun seen event => if event.accepts key then [] else seen ++ [event]) []

theorem since_concat (trace : List (Event κ)) (event : Event κ) (key : κ) :
    since (trace ++ [event]) key =
      if event.accepts key then [] else since trace key ++ [event] := by
  unfold since
  rw [List.foldl_append]
  rfl

/-- The key got a terminal answer since it was last accepted. -/
def Answered (trace : List (Event κ)) (key : κ) : Prop :=
  ∃ event ∈ since trace key, event.answers key = true

/-- An interruption of the key was reported since it was last accepted. -/
def Interrupted (trace : List (Event κ)) (key : κ) : Prop :=
  ∃ event ∈ since trace key, event.interrupts key = true

instance (trace : List (Event κ)) (key : κ) : Decidable (Answered trace key) :=
  inferInstanceAs (Decidable (∃ event ∈ since trace key, event.answers key = true))

instance (trace : List (Event κ)) (key : κ) : Decidable (Interrupted trace key) :=
  inferInstanceAs (Decidable (∃ event ∈ since trace key, event.interrupts key = true))

/-- What was seen since the last acceptance, after one more event. -/
private theorem seen_concat {trace : List (Event κ)} {event : Event κ} {key : κ}
    (kind : Event κ → Bool) :
    (∃ seen ∈ since (trace ++ [event]) key, kind seen = true) ↔
      event.accepts key = false ∧
        ((∃ seen ∈ since trace key, kind seen = true) ∨ kind event = true) := by
  rw [since_concat]
  cases accepts : event.accepts key with
  | true => simp
  | false =>
      simp only [Bool.false_eq_true, if_false, List.mem_append, List.mem_singleton, true_and]
      constructor
      · rintro ⟨seen, earlier | rfl, ofKind⟩
        · exact Or.inl ⟨seen, earlier, ofKind⟩
        · exact Or.inr ofKind
      · rintro (⟨seen, earlier, ofKind⟩ | ofKind)
        · exact ⟨seen, Or.inl earlier, ofKind⟩
        · exact ⟨event, Or.inr rfl, ofKind⟩

theorem answered_concat {trace : List (Event κ)} {event : Event κ} {key : κ} :
    Answered (trace ++ [event]) key ↔
      event.accepts key = false ∧ (Answered trace key ∨ event.answers key = true) :=
  seen_concat (Event.answers key)

/-- An interrupted key was answered. -/
theorem Interrupted.answered {trace : List (Event κ)} {key : κ}
    (interrupted : Interrupted trace key) : Answered trace key := by
  obtain ⟨event, seen, interrupts⟩ := interrupted
  exact ⟨event, seen, Event.answers_of_interrupts interrupts⟩

/-- An event answers only keys not answered since they were accepted, and none twice. -/
def Event.AnswersOnce (first : List (Event κ)) (event : Event κ) : Prop :=
  (∀ key, event.answers key = true → ¬ Answered first key) ∧
    ∀ keys, event = .interrupted keys → keys.Nodup

/-- An event is no effect of a key interrupted since it was accepted. -/
def Event.ActsInTime (first : List (Event κ)) (event : Event κ) : Prop :=
  ∀ key, event = .effect key → ¬ Interrupted first key

/-- Between two terminal answers to one key, the key is accepted anew. -/
def OneTerminal (trace : List (Event κ)) : Prop := Throughout Event.AnswersOnce trace

/-- After a reported interruption of a key, the key has no effect until it is
accepted anew. -/
def NoLateEffect (trace : List (Event κ)) : Prop := Throughout Event.ActsInTime trace

end Trace

/-! ### The ledger -/

/-- The books: the live keys with their domains, the keys some party is bound to
answer for, the keys lent to a party that answers only for live ones, the lent keys it
is about to act for, and the interrupted keys not reported yet. -/
structure Ledger (κ δ : Type*) where
  live : κ → Option δ
  owed : Multiset (κ × δ)
  lent : Multiset κ
  armed : Set κ
  reporting : List κ
  trace : List (Event κ)

namespace Ledger

variable {κ δ : Type*}

/-- The books before any transaction. -/
def empty : Ledger κ δ := ⟨fun _ => none, 0, 0, ∅, [], []⟩

/-- The books with one more event. -/
def record (ledger : Ledger κ δ) (event : Event κ) : Ledger κ δ :=
  { ledger with trace := ledger.trace ++ [event] }

variable [DecidableEq κ]

/-- What the parties may do. -/
inductive Move : Ledger κ δ → Ledger κ δ → Prop where
  | shrink {ledger next : Ledger κ δ} (live : next.live = ledger.live)
      (owed : next.owed ≤ ledger.owed) (lent : next.lent ≤ ledger.lent)
      (armed : ∀ key ∈ next.armed, key ∈ ledger.armed ∧ key ∈ next.lent)
      (reporting : next.reporting = ledger.reporting) (trace : next.trace = ledger.trace) :
      Move ledger next
  | accept {ledger next : Ledger κ δ} (key : κ) (domain : δ) (fresh : ledger.live key = none)
      (unlent : key ∉ ledger.lent) (unreported : key ∉ ledger.reporting)
      (live : next.live = Function.update ledger.live key (some domain))
      (owed : next.owed = (key, domain) ::ₘ ledger.owed) (lent : next.lent = ledger.lent)
      (armed : next.armed = ledger.armed) (reporting : next.reporting = ledger.reporting)
      (trace : next.trace = ledger.trace ++ [.accepted key]) : Move ledger next
  | lend {ledger next : Ledger κ δ} (key : κ) (domain : δ) (live : next.live = ledger.live)
      (owed : ledger.owed = (key, domain) ::ₘ next.owed)
      (lent : next.lent = key ::ₘ ledger.lent)
      (armed : ∀ other ∈ next.armed, other = key ∨ other ∈ ledger.armed)
      (reporting : next.reporting = ledger.reporting) (trace : next.trace = ledger.trace) :
      Move ledger next
  | act {ledger : Ledger κ δ} (key : κ)
      (entitled : key ∈ ledger.armed ∨ ∃ domain, (key, domain) ∈ ledger.owed) :
      Move ledger (ledger.record (.effect key))
  | settle {ledger next : Ledger κ δ} (key : κ) (domain : δ)
      (live : next.live = Function.update ledger.live key none)
      (owed : ledger.owed = (key, domain) ::ₘ next.owed) (lent : next.lent = ledger.lent)
      (armed : next.armed = ledger.armed) (reporting : next.reporting = ledger.reporting)
      (trace : next.trace = ledger.trace ++ [.terminal key]) : Move ledger next
  | repay {ledger next : Ledger κ δ} (key : κ) (stands : ledger.live key ≠ none)
      (live : next.live = Function.update ledger.live key none)
      (owed : next.owed = ledger.owed) (lent : ledger.lent = key ::ₘ next.lent)
      (armed : ∀ other ∈ next.armed, other ∈ ledger.armed ∧ other ∈ next.lent)
      (reporting : next.reporting = ledger.reporting)
      (trace : next.trace = ledger.trace ++ [.terminal key]) : Move ledger next
  | interrupt {ledger next : Ledger κ δ} (key : κ) (stands : ledger.live key ≠ none)
      (unowed : ∀ domain, (key, domain) ∉ ledger.owed)
      (live : next.live = Function.update ledger.live key none)
      (owed : next.owed = ledger.owed) (lent : next.lent = ledger.lent)
      (armed : next.armed = ledger.armed) (reporting : next.reporting = ledger.reporting ++ [key])
      (trace : next.trace = ledger.trace) : Move ledger next
  | report {ledger next : Ledger κ δ} (live : next.live = ledger.live)
      (owed : next.owed = ledger.owed) (lent : next.lent = ledger.lent)
      (armed : ∀ key ∈ next.armed, key ∈ ledger.armed ∧ key ∉ ledger.reporting)
      (reporting : next.reporting = [])
      (trace : next.trace = ledger.trace ++ [.interrupted ledger.reporting]) : Move ledger next

/-- The invariant of the books. -/
structure Sound (ledger : Ledger κ δ) : Prop where
  distinct : (ledger.owed.map Prod.fst + ledger.lent).Nodup
  backed : ∀ key domain, (key, domain) ∈ ledger.owed → ledger.live key = some domain
  entitled : ∀ key ∈ ledger.armed,
    key ∈ ledger.lent ∧ (ledger.live key ≠ none ∨ key ∈ ledger.reporting)
  reportedOnce : ledger.reporting.Nodup
  reported : ∀ key ∈ ledger.reporting, ledger.live key = none ∧ ¬ Answered ledger.trace key
  fresh : ∀ key, ledger.live key ≠ none → ¬ Answered ledger.trace key
  once : OneTerminal ledger.trace
  quiet : NoLateEffect ledger.trace

theorem sound_empty : (empty : Ledger κ δ).Sound := by
  refine ⟨Multiset.nodup_zero, ?_, nofun, List.nodup_nil, ?_, ?_, throughout_nil _,
    throughout_nil _⟩
  · intro key domain owed
    exact absurd owed (Multiset.notMem_zero _)
  · intro key reporting
    exact absurd reporting List.not_mem_nil
  · intro key live
    exact absurd rfl live

section Moves

variable {ledger next : Ledger κ δ} (sound : ledger.Sound)

include sound

/-- A key that is owed is live. -/
theorem Sound.live_of_owed {key : κ} {domain : δ} (owed : (key, domain) ∈ ledger.owed) :
    ledger.live key ≠ none := by
  rw [sound.backed key domain owed]
  exact Option.some_ne_none domain

/-- A key lent out is owed by no one. -/
theorem Sound.not_owed_of_lent {key : κ} (lent : key ∈ ledger.lent) (domain : δ) :
    (key, domain) ∉ ledger.owed := by
  intro owed
  have apart := (Multiset.nodup_add.mp sound.distinct).2.2
  exact Multiset.disjoint_left.mp apart (Multiset.mem_map_of_mem Prod.fst owed) lent

/-- A key owed once is owed by no one else and not lent. -/
theorem Sound.ne_of_owed {key : κ} {domain : δ} {rest : Multiset (κ × δ)}
    (owed : ledger.owed = (key, domain) ::ₘ rest) :
    (∀ other, (key, other) ∉ rest) ∧ key ∉ ledger.lent := by
  have distinct := sound.distinct
  rw [owed, Multiset.map_cons, Multiset.cons_add, Multiset.nodup_cons, Multiset.mem_add,
    not_or] at distinct
  refine ⟨?_, distinct.1.2⟩
  intro other member
  have mapped : key ∈ rest.map Prod.fst := Multiset.mem_map_of_mem Prod.fst member
  exact distinct.1.1 mapped

/-- A terminal answer to a live key ends the key and keeps the books sound. -/
theorem Sound.with_terminal {key : κ} (stands : ledger.live key ≠ none)
    (live : next.live = Function.update ledger.live key none)
    (distinct : (next.owed.map Prod.fst + next.lent).Nodup)
    (owed : ∀ other domain, (other, domain) ∈ next.owed →
      other ≠ key ∧ (other, domain) ∈ ledger.owed)
    (armed : ∀ other ∈ next.armed, other ≠ key ∧ other ∈ ledger.armed ∧ other ∈ next.lent)
    (reporting : next.reporting = ledger.reporting)
    (trace : next.trace = ledger.trace ++ [.terminal key]) : next.Sound := by
  have unanswered := sound.fresh key stands
  have answers : ∀ other, other ≠ key →
      (Answered next.trace other ↔ Answered ledger.trace other) := by
    intro other differs
    have silent : (Event.terminal key).answers other = false := decide_eq_false (Ne.symm differs)
    rw [trace, answered_concat, silent]
    simp [Event.accepts]
  constructor
  · exact distinct
  · intro other domain member
    obtain ⟨differs, before⟩ := owed other domain member
    rw [live, Function.update_of_ne differs]
    exact sound.backed other domain before
  · intro other member
    obtain ⟨differs, before, held⟩ := armed other member
    rw [live, Function.update_of_ne differs, reporting]
    exact ⟨held, (sound.entitled other before).2⟩
  · rw [reporting]
    exact sound.reportedOnce
  · intro other member
    rw [reporting] at member
    obtain ⟨stopped, unreported⟩ := sound.reported other member
    have differs : other ≠ key := by
      rintro rfl
      exact stands stopped
    rw [live, Function.update_of_ne differs, answers other differs]
    exact ⟨stopped, unreported⟩
  · intro other remains
    by_cases same : other = key
    · rw [live, same, Function.update_self] at remains
      exact absurd rfl remains
    · rw [live, Function.update_of_ne same] at remains
      rw [answers other same]
      exact sound.fresh other remains
  · rw [trace]
    refine throughout_concat sound.once ⟨?_, nofun⟩
    intro other named
    obtain rfl : key = other := of_decide_eq_true named
    exact unanswered
  · rw [trace]
    exact throughout_concat sound.quiet nofun

theorem Sound.accept {key : κ} {domain : δ} (stopped : ledger.live key = none)
    (unlent : key ∉ ledger.lent) (unreported : key ∉ ledger.reporting)
    (live : next.live = Function.update ledger.live key (some domain))
    (owed : next.owed = (key, domain) ::ₘ ledger.owed) (lent : next.lent = ledger.lent)
    (armed : next.armed = ledger.armed) (reporting : next.reporting = ledger.reporting)
    (trace : next.trace = ledger.trace ++ [.accepted key]) : next.Sound := by
  have unowed : ∀ other, (key, other) ∉ ledger.owed := fun other member =>
    sound.live_of_owed member stopped
  have elsewhere : ∀ other, other ≠ key → next.live other = ledger.live other := by
    intro other differs
    rw [live, Function.update_of_ne differs]
  have answers : ∀ other, other ≠ key →
      (Answered next.trace other ↔ Answered ledger.trace other) := by
    intro other differs
    have silent : (Event.accepted key).accepts other = false := decide_eq_false (Ne.symm differs)
    rw [trace, answered_concat, silent]
    simp [Event.answers]
  constructor
  · rw [owed, lent, Multiset.map_cons, Multiset.cons_add, Multiset.nodup_cons, Multiset.mem_add,
      not_or]
    refine ⟨⟨?_, unlent⟩, sound.distinct⟩
    intro member
    obtain ⟨⟨other, domain⟩, within, same⟩ := Multiset.mem_map.mp member
    obtain rfl : other = key := same
    exact unowed domain within
  · intro other otherDomain member
    rw [owed, Multiset.mem_cons] at member
    rcases member with same | before
    · obtain ⟨rfl, rfl⟩ := Prod.mk.inj same
      rw [live, Function.update_self]
    · have differs : other ≠ key := by
        rintro rfl
        exact unowed otherDomain before
      rw [elsewhere other differs]
      exact sound.backed other otherDomain before
  · intro other member
    rw [armed] at member
    obtain ⟨held, either⟩ := sound.entitled other member
    have differs : other ≠ key := by
      rintro rfl
      exact unlent held
    rw [lent, elsewhere other differs, reporting]
    exact ⟨held, either⟩
  · rw [reporting]
    exact sound.reportedOnce
  · intro other member
    rw [reporting] at member
    have differs : other ≠ key := by
      rintro rfl
      exact unreported member
    rw [elsewhere other differs, answers other differs]
    exact sound.reported other member
  · intro other stands
    by_cases same : other = key
    · subst same
      rw [trace, answered_concat]
      simp [Event.accepts]
    · rw [elsewhere other same] at stands
      rw [answers other same]
      exact sound.fresh other stands
  · rw [trace]
    exact throughout_concat sound.once ⟨nofun, nofun⟩
  · rw [trace]
    exact throughout_concat sound.quiet nofun

/-- A key interrupted while no one owes it waits for its report. -/
theorem Sound.interrupt {key : κ} (stands : ledger.live key ≠ none)
    (unowed : ∀ domain, (key, domain) ∉ ledger.owed)
    (live : next.live = Function.update ledger.live key none)
    (owed : next.owed = ledger.owed) (lent : next.lent = ledger.lent)
    (armed : next.armed = ledger.armed) (reporting : next.reporting = ledger.reporting ++ [key])
    (trace : next.trace = ledger.trace) : next.Sound := by
  have unreported : key ∉ ledger.reporting := fun member =>
    stands (sound.reported key member).1
  constructor
  · rw [owed, lent]
    exact sound.distinct
  · intro other domain member
    rw [owed] at member
    have differs : other ≠ key := by
      rintro rfl
      exact unowed domain member
    rw [live, Function.update_of_ne differs]
    exact sound.backed other domain member
  · intro other member
    rw [armed] at member
    obtain ⟨held, either⟩ := sound.entitled other member
    rw [lent, live, reporting]
    refine ⟨held, ?_⟩
    by_cases same : other = key
    · exact Or.inr (List.mem_append_right _ (List.mem_singleton.mpr same))
    · rw [Function.update_of_ne same]
      exact either.imp_right (List.mem_append_left _)
  · rw [reporting, List.nodup_append]
    refine ⟨sound.reportedOnce, List.nodup_singleton key, ?_⟩
    intro other member last isKey
    rw [List.mem_singleton.mp isKey]
    rintro rfl
    exact unreported member
  · intro other member
    rw [reporting, List.mem_append, List.mem_singleton] at member
    rw [live, trace]
    rcases member with before | rfl
    · have differs : other ≠ key := by
        rintro rfl
        exact unreported before
      rw [Function.update_of_ne differs]
      exact sound.reported other before
    · rw [Function.update_self]
      exact ⟨rfl, sound.fresh other stands⟩
  · intro other remains
    rw [trace]
    by_cases same : other = key
    · rw [live, same, Function.update_self] at remains
      exact absurd rfl remains
    · rw [live, Function.update_of_ne same] at remains
      exact sound.fresh other remains
  · rw [trace]
    exact sound.once
  · rw [trace]
    exact sound.quiet

/-- Reporting the interrupted keys answers each of them once. -/
theorem Sound.report (live : next.live = ledger.live) (owed : next.owed = ledger.owed)
    (lent : next.lent = ledger.lent)
    (armed : ∀ key ∈ next.armed, key ∈ ledger.armed ∧ key ∉ ledger.reporting)
    (reporting : next.reporting = [])
    (trace : next.trace = ledger.trace ++ [.interrupted ledger.reporting]) : next.Sound := by
  constructor
  · rw [owed, lent]
    exact sound.distinct
  · rw [owed, live]
    exact sound.backed
  · intro key member
    obtain ⟨before, unreported⟩ := armed key member
    obtain ⟨held, either⟩ := sound.entitled key before
    rw [lent, live]
    exact ⟨held, Or.inl (either.resolve_right unreported)⟩
  · rw [reporting]
    exact List.nodup_nil
  · intro key member
    rw [reporting] at member
    exact absurd member List.not_mem_nil
  · intro key stands
    rw [live] at stands
    have silent : (Event.interrupted ledger.reporting).answers key = false :=
      decide_eq_false fun member => stands (sound.reported key member).1
    rw [trace, answered_concat, silent]
    rintro ⟨-, earlier | answers⟩
    · exact sound.fresh key stands earlier
    · cases answers
  · rw [trace]
    refine throughout_concat sound.once ⟨?_, ?_⟩
    · intro key named
      exact (sound.reported key (of_decide_eq_true named)).2
    · rintro keys ⟨⟩
      exact sound.reportedOnce
  · rw [trace]
    exact throughout_concat sound.quiet nofun

/-- A party that owes a key, or is armed for it, may act: the key has no terminal answer. -/
theorem Sound.unanswered {key : κ}
    (entitled : key ∈ ledger.armed ∨ ∃ domain, (key, domain) ∈ ledger.owed) :
    ¬ Answered ledger.trace key := by
  rcases entitled with armed | ⟨domain, owed⟩
  · rcases (sound.entitled key armed).2 with stands | unreported
    · exact sound.fresh key stands
    · exact (sound.reported key unreported).2
  · exact sound.fresh key (sound.live_of_owed owed)

/-- An effect of a key without a terminal answer keeps the books sound. -/
theorem Sound.act {key : κ}
    (entitled : key ∈ ledger.armed ∨ ∃ domain, (key, domain) ∈ ledger.owed) :
    (ledger.record (.effect key)).Sound := by
  have unanswered := sound.unanswered entitled
  obtain ⟨distinct, backed, armed, reportedOnce, reported, fresh, once, quiet⟩ := sound
  have answers : ∀ other, Answered (ledger.record (.effect key)).trace other ↔
      Answered ledger.trace other := by
    intro other
    unfold record
    rw [answered_concat]
    simp [Event.answers, Event.accepts]
  refine ⟨distinct, backed, armed, reportedOnce, ?_, ?_, ?_, ?_⟩
  · intro other member
    rw [answers]
    exact reported other member
  · intro other stands
    rw [answers]
    exact fresh other stands
  · exact throughout_concat once ⟨nofun, nofun⟩
  · apply throughout_concat quiet
    rintro other ⟨⟩ interrupted
    exact unanswered interrupted.answered

/-- Every move keeps the books sound. -/
theorem Sound.move (move : Move ledger next) : next.Sound := by
  cases move with
  | shrink live owed lent armed reporting trace =>
      obtain ⟨distinct, backed, entitled, reportedOnce, reported, fresh, once, quiet⟩ := sound
      refine ⟨?_, ?_, ?_, reporting ▸ reportedOnce, ?_, ?_, trace ▸ once, trace ▸ quiet⟩
      · exact Multiset.nodup_of_le (add_le_add (Multiset.map_le_map owed) lent) distinct
      · intro key domain member
        rw [live]
        exact backed key domain (Multiset.mem_of_le owed member)
      · intro key member
        obtain ⟨before, held⟩ := armed key member
        rw [live, reporting]
        exact ⟨held, (entitled key before).2⟩
      · rw [reporting, live, trace]
        exact reported
      · rw [live, trace]
        exact fresh
  | accept key domain fresh unlent unreported live owed lent armed reporting trace =>
      exact sound.accept fresh unlent unreported live owed lent armed reporting trace
  | lend key domain live owed lent armed reporting trace =>
      have stands : ledger.live key ≠ none :=
        sound.live_of_owed (owed ▸ Multiset.mem_cons_self _ _)
      obtain ⟨distinct, backed, entitled, reportedOnce, reported, fresh, once, quiet⟩ := sound
      refine ⟨?_, ?_, ?_, reporting ▸ reportedOnce, ?_, ?_, trace ▸ once, trace ▸ quiet⟩
      · rw [owed, Multiset.map_cons, Multiset.cons_add] at distinct
        rw [lent, Multiset.add_cons]
        exact distinct
      · intro other otherDomain member
        rw [live]
        exact backed other otherDomain (owed ▸ Multiset.mem_cons_of_mem member)
      · intro other member
        rw [lent, live, reporting]
        rcases armed other member with rfl | before
        · exact ⟨Multiset.mem_cons_self _ _, Or.inl stands⟩
        · exact ⟨Multiset.mem_cons_of_mem (entitled other before).1, (entitled other before).2⟩
      · rw [reporting, live, trace]
        exact reported
      · rw [live, trace]
        exact fresh
  | act key entitled => exact sound.act entitled
  | settle key domain live owed lent armed reporting trace =>
      obtain ⟨alone, unlent⟩ := sound.ne_of_owed owed
      have member : (key, domain) ∈ ledger.owed := owed ▸ Multiset.mem_cons_self _ _
      refine sound.with_terminal (sound.live_of_owed member) live ?_ ?_ ?_ reporting trace
      · have distinct := sound.distinct
        rw [owed, Multiset.map_cons, Multiset.cons_add, Multiset.nodup_cons] at distinct
        rw [lent]
        exact distinct.2
      · intro other otherDomain within
        refine ⟨?_, owed ▸ Multiset.mem_cons_of_mem within⟩
        rintro rfl
        exact alone otherDomain within
      · intro other within
        rw [armed] at within
        have held := (sound.entitled other within).1
        rw [lent]
        refine ⟨?_, within, held⟩
        rintro rfl
        exact unlent held
  | repay key stands live owed lent armed reporting trace =>
      have member : key ∈ ledger.lent := lent ▸ Multiset.mem_cons_self _ _
      have distinct := sound.distinct
      rw [lent, Multiset.add_cons, Multiset.nodup_cons, Multiset.mem_add, not_or] at distinct
      refine sound.with_terminal stands live ?_ ?_ ?_ reporting trace
      · rw [owed]
        exact distinct.2
      · intro other otherDomain within
        rw [owed] at within
        refine ⟨?_, within⟩
        rintro rfl
        exact sound.not_owed_of_lent member otherDomain within
      · intro other within
        obtain ⟨before, held⟩ := armed other within
        refine ⟨?_, before, held⟩
        rintro rfl
        exact distinct.1.2 held
  | interrupt key stands unowed live owed lent armed reporting trace =>
      exact sound.interrupt stands unowed live owed lent armed reporting trace
  | report live owed lent armed reporting trace =>
      exact sound.report live owed lent armed reporting trace

end Moves

/-- The next books have no more on them: nothing is newly owed, lent or armed. -/
structure Relaxes (ledger next : Ledger κ δ) : Prop where
  live : next.live = ledger.live
  owed : next.owed ≤ ledger.owed
  lent : next.lent = ledger.lent
  armed : next.armed ⊆ ledger.armed
  reporting : next.reporting = ledger.reporting
  trace : next.trace = ledger.trace

/-- Relaxed books are sound. -/
theorem Sound.relaxed {ledger next : Ledger κ δ} (sound : ledger.Sound)
    (relaxes : Relaxes ledger next) : next.Sound := by
  refine sound.move (.shrink relaxes.live relaxes.owed relaxes.lent.le ?_ relaxes.reporting
    relaxes.trace)
  intro key member
  have before := relaxes.armed member
  rw [relaxes.lent]
  exact ⟨before, (sound.entitled key before).1⟩

/-- The books after an interruption of several keys. -/
def interrupted (ledger : Ledger κ δ) (keys : List κ) : Ledger κ δ :=
  { ledger with
    live := fun key => if key ∈ keys then none else ledger.live key
    reporting := ledger.reporting ++ keys }

/-- Distinct live keys that no one owes may be interrupted together. -/
theorem Sound.interrupted {ledger : Ledger κ δ} (sound : ledger.Sound) {keys : List κ}
    (distinct : keys.Nodup) (stand : ∀ key ∈ keys, ledger.live key ≠ none)
    (unowed : ∀ key ∈ keys, ∀ domain, (key, domain) ∉ ledger.owed) :
    (ledger.interrupted keys).Sound := by
  induction keys generalizing ledger with
  | nil =>
      have same : ledger.interrupted [] = ledger := by simp [Ledger.interrupted]
      rw [same]
      exact sound
  | cons key rest inductionHypothesis =>
      obtain ⟨keyNew, restDistinct⟩ := List.nodup_cons.mp distinct
      have elsewhere : ∀ other ∈ rest, other ≠ key := by
        rintro other member rfl
        exact keyNew member
      have first : ({ ledger with
          live := Function.update ledger.live key none
          reporting := ledger.reporting ++ [key] } : Ledger κ δ).Sound :=
        sound.interrupt (stand key List.mem_cons_self) (unowed key List.mem_cons_self) rfl rfl rfl
          rfl rfl rfl
      have others := inductionHypothesis first restDistinct
        (fun other member => by
          dsimp only
          rw [Function.update_of_ne (elsewhere other member)]
          exact stand other (List.mem_cons_of_mem key member))
        (fun other member => unowed other (List.mem_cons_of_mem key member))
      have together : ({ ledger with
            live := Function.update ledger.live key none
            reporting := ledger.reporting ++ [key] } : Ledger κ δ).interrupted rest =
          ledger.interrupted (key :: rest) := by
        unfold Ledger.interrupted
        dsimp only
        rw [List.append_assoc, List.singleton_append]
        congr 1
        funext other
        by_cases same : other = key
        · subst same
          simp
        · simp [same]
      rw [together] at others
      exact others

end Ledger

end TransactionLedger
