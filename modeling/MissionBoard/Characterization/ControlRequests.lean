import MissionBoard.Characterization.ControlProgress
import MissionBoard.Characterization.RecordRoundTrip
import MissionBoard.Library.FairSchedule

/-!
Owns that `drainAndSync` and `close` come back: while every task has its turns, the request goes
from the caller to the stage task, which first empties its ring, from there to the SD task and
back, unless the ring cannot be emptied.
-/

namespace MissionBoard.Characterization

open Storage (IoAnswer OpenFile)

namespace LogWriter

variable {writer : LogWriter} {request : ControlRequest}

/-! ### The request comes back -/

theorem place_draining_caller (caller : writer.caller = .draining request) :
    writer.place = (.caller, toLex (10, toLex (0, 0))) := by
  simp only [place, caller]

theorem place_sending_caller (caller : writer.caller = .sending request) :
    writer.place = (.caller, toLex (9, toLex (0, 0))) := by
  simp only [place, caller]

theorem place_idle (caller : writer.caller = .idle) :
    writer.place = (.caller, toLex (0, toLex (0, 0))) := by
  simp only [place, caller]

theorem place_unsubmitted {next : LogWriter} (free : writer.caller.awaits = false)
    (same : next.caller = writer.caller) :
    next.place = writer.place ∧ writer.place.1 = .caller := by
  cases pc : writer.caller with
  | awaiting =>
      rw [pc] at free
      cases free
  | _ =>
      simp only [place, same, pc]
      exact ⟨trivial, trivial⟩

/-- Whoever waits for an answer waits for one of the other two tasks. -/
theorem place_task_ne_caller (caller : writer.caller = .awaiting request)
    (ack : writer.controlAck = false) : writer.place.1 ≠ .caller := by
  simp only [place, caller, ack, Bool.false_eq_true, if_false]
  repeat' split
  all_goals
    intro same
    cases same

theorem advances_callerStep (steady : writer.Steady) (asks : writer.caller.requesting = true) :
    Advances writer writer.callerStep .caller := by
  have handed := steady.sound.handed
  cases pc : writer.caller with
  | draining request =>
      obtain ⟨-, -, ack, -⟩ := free_of_handed handed (by rw [pc]; rfl)
      have next : writer.callerStep.caller = .sending request := by
        simp only [callerStep, pc, ack, Bool.false_eq_true, if_false]
      exact advances_of_phase (place_draining_caller pc) (place_sending_caller next) (by decide)
  | sending request =>
      obtain ⟨apart, queue, ack, -⟩ := free_of_handed handed (by rw [pc]; rfl)
      have stepped : writer.callerStep =
          { writer with controlQueue := some request, caller := .awaiting request } := by
        simp only [callerStep, pc, queue, Option.isSome_none, Bool.false_eq_true, if_false]
      rw [stepped]
      have here := place_sending_caller pc
      cases inRing : writer.stager.inRing with
      | false =>
          have receiving : writer.stager = .receiving := by
            cases place : writer.stager <;> rw [place] at inRing apart <;>
              first | rfl | (cases apart; done) | cases inRing
          exact advances_of_phase here (place_receiving rfl ack receiving) (by decide)
      | true =>
          by_cases blocked :
              Blocked { writer with controlQueue := some request, caller := .awaiting request }
          · exact advances_of_phase here (place_blocked rfl ack inRing blocked) (by decide)
          · exact advances_of_phase here (place_inRing rfl ack inRing blocked) (by decide)
  | awaiting request =>
      cases ack : writer.controlAck with
      | true =>
          have next : writer.callerStep.caller = .idle := by
            simp only [callerStep, pc, ack, if_true]
            cases request <;> rfl
          exact advances_of_phase (place_of_ack pc ack) (place_idle next) (by decide)
      | false =>
          have stepped : writer.callerStep = writer := by
            simp only [callerStep, pc, ack, Bool.false_eq_true, if_false]
          rw [stepped]
          refine Or.inr ⟨rfl, ?_⟩
          have other := place_task_ne_caller pc ack
          revert other
          cases writer.place.1 <;> simp [WriterTask.turn]
  | _ =>
      rw [pc] at asks
      cases asks

theorem advances_step {label : WriterStep} (steady : writer.Steady)
    (asks : writer.caller.requesting = true) (flows : ¬ writer.Jammed)
    (flows' : ¬ (writer.step label).Jammed) : Advances writer (writer.step label) label := by
  have unsubmitted : ∀ {next : LogWriter}, writer.caller.awaits = false →
      next.caller = writer.caller → label ≠ .caller → Advances writer next label := by
    intro next free same other
    obtain ⟨place, its⟩ := place_unsubmitted free same
    refine Or.inr ⟨place, ?_⟩
    rw [its]
    cases label <;> first | exact id | exact absurd rfl other
  cases label with
  | caller => exact advances_callerStep steady asks
  | stager =>
      have only := stagerStep_only writer
      cases pc : writer.caller with
      | awaiting request =>
          cases ack : writer.controlAck with
          | true =>
              have stays : writer.stagerStep.controlAck = true := by
                unfold stagerStep refuseRecord
                dsimp only
                repeat' split
                all_goals first
                  | exact ack
                  | rfl
              exact advances_of_same (place_of_ack pc ack)
                (place_of_ack (only.caller.trans pc) stays) id
          | false => exact advances_stagerStep steady pc ack flows
      | _ => exact unsubmitted (by rw [pc]; rfl) only.caller nofun
  | sd answer =>
      have only := sdStep_only writer answer
      cases pc : writer.caller with
      | awaiting request =>
          cases ack : writer.controlAck with
          | true =>
              exact advances_of_same (place_of_ack pc ack)
                (place_of_ack (only.caller.trans pc) (only.controlAck.trans ack)) id
          | false => exact advances_sdStep steady pc ack answer flows flows'
      | _ => exact unsubmitted (by rw [pc]; rfl) only.caller nofun
  | _ =>
      have busy : writer.caller ≠ .idle := by
        intro idle
        rw [idle] at asks
        cases asks
      simp only [step, if_neg busy]
      refine Or.inr ⟨rfl, ?_⟩
      cases writer.place.1 <;> exact id

/-- A task that has submitted a request goes on waiting or returns. -/
theorem requesting_step {label : WriterStep} (asks : writer.caller.requesting = true) :
    (writer.step label).caller.requesting = true ∨ (writer.step label).caller = .idle := by
  cases label with
  | caller =>
      simp only [step]
      cases pc : writer.caller with
      | draining | sending =>
          simp only [callerStep, pc]
          split
          all_goals first
            | exact Or.inl rfl
            | exact Or.inl (congrArg Caller.requesting pc)
      | awaiting request =>
          simp only [callerStep, pc]
          split
          · cases request <;> exact Or.inr rfl
          · exact Or.inl (congrArg Caller.requesting pc)
      | _ =>
          rw [pc] at asks
          cases asks
  | stager => exact Or.inl ((congrArg Caller.requesting (stagerStep_only writer).caller).trans asks)
  | sd answer =>
      exact Or.inl ((congrArg Caller.requesting (sdStep_only writer answer).caller).trans asks)
  | _ =>
      have busy : writer.caller ≠ .idle := by
        intro idle
        rw [idle] at asks
        cases asks
      simp only [step, if_neg busy]
      exact Or.inl asks

theorem steady_initialized (ingressRing : ℕ → LogRecord) (psramStage : ℕ → StagedRecord)
    (closingFooter : LogFooter) : (initialized ingressRing psramStage closingFooter).Steady :=
  ⟨sound_initialized ingressRing psramStage closingFooter, nofun, nofun⟩

/-- The steady states are kept by every run in which the tasks rest while `open` resets. -/
theorem steady_after {labels : List WriterStep} (steady : writer.Steady)
    (along : Run.Along step calm writer labels) : (Run.after step writer labels).Steady :=
  Run.invariant_after (fun _ _ steady calm => steady_step steady (Or.inl calm)) steady along

open FairSchedule (stateAt Often)

/-- While the call has not returned, the writer stays steady. -/
theorem steady_stateAt {schedule : ℕ → WriterStep} (steady : writer.Steady)
    (asks : writer.caller.requesting = true) (moment : ℕ)
    (waits : ∀ earlier ≤ moment, (stateAt step writer schedule earlier).caller ≠ .idle) :
    (stateAt step writer schedule moment).Steady ∧
      (stateAt step writer schedule moment).caller.requesting = true := by
  induction moment with
  | zero => exact ⟨steady, asks⟩
  | succ moment inductionHypothesis =>
      obtain ⟨before, asked⟩ := inductionHypothesis fun earlier sooner =>
        waits earlier (sooner.trans (Nat.le_succ _))
      exact ⟨steady_step before (Or.inr asked),
        (requesting_step asked).resolve_right (waits (moment + 1) le_rfl)⟩

/-- From a ring that cannot be emptied on, the caller waits for ever. -/
theorem waits_of_jammed {schedule : ℕ → WriterStep} {moment : ℕ}
    (steady : (stateAt step writer schedule moment).Steady)
    (asks : (stateAt step writer schedule moment).caller.requesting = true)
    (jammed : (stateAt step writer schedule moment).Jammed) (later : ℕ) (after : moment ≤ later) :
    (stateAt step writer schedule later).Steady ∧ (stateAt step writer schedule later).Jammed ∧
      (stateAt step writer schedule later).caller.requesting = true := by
  induction later, after using Nat.le_induction with
  | base => exact ⟨steady, jammed, asks⟩
  | succ later after inductionHypothesis =>
      obtain ⟨steady, jammed, asked⟩ := inductionHypothesis
      obtain ⟨jammed', asked'⟩ := @jammed_step _ (schedule later) steady asked jammed
      exact ⟨steady_step steady (Or.inr asked), jammed', asked'⟩

/-- The three tasks in turn, with a card that writes all it is given -/
def inTurn (moment : ℕ) : WriterStep :=
  if moment % 3 = 0 then .caller else if moment % 3 = 1 then .stager else .sd (.succeeds 20480)

theorem fair_inTurn : ∀ task : WriterTask, Often task.turn inTurn := by
  have phase : ∀ moment, (3 * moment) % 3 = 0 ∧ (3 * moment + 1) % 3 = 1 ∧
      (3 * moment + 2) % 3 = 2 := by
    intro moment
    omega
  intro task moment
  obtain ⟨first, second, third⟩ := phase moment
  cases task with
  | caller =>
      refine ⟨3 * moment, by omega, ?_⟩
      simp [inTurn, first, WriterTask.turn]
  | stager =>
      refine ⟨3 * moment + 1, by omega, ?_⟩
      simp [inTurn, second, WriterTask.turn]
  | sd =>
      refine ⟨3 * moment + 2, by omega, ?_⟩
      simp [inTurn, third, WriterTask.turn]

/-- A run whose only record is invalid, up to the call of `drainAndSync` -/
def invalidRun : List WriterStep :=
  [.prepare (.reserved []), .open rateCheckHeader (.succeeds 256), .caller, .caller, .caller,
    .caller, .caller, .enqueue {}, .caller, .caller, .caller, .drainAndSync]

end LogWriter

end MissionBoard.Characterization
