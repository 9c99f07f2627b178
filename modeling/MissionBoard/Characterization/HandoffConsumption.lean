import MissionBoard.Characterization.HandoffStore

/-!
Owns that a handoff serves once: over every sequence of requests, boots and answers of NVS, what
stands in NVS is the handoff of a `prepareM0` whose M0 stage has not been completed yet.
-/

namespace MissionBoard.Characterization

namespace CampaignStateMachine

/-! ### What a request does to the campaign -/

/-- A machine in a stage has one, and one that waits for the confirmation of M0 is in M0. -/
structure Known (machine : CampaignStateMachine) : Prop where
  inStage : machine.state.inStage = true → machine.stage ≠ .none
  awaiting : machine.state = .awaitingM0Confirmation → machine.stage = .m0

theorem known_of_outside {machine : CampaignStateMachine} {state : CampaignState}
    (found : machine.state = state)
    (outside : ¬ (state.inStage = true ∨ state = .awaitingM0Confirmation)) : machine.Known where
  inStage within := absurd (Or.inl (found ▸ within)) outside
  awaiting waits := absurd (Or.inr (found ▸ waits)) outside

/-- What a call does to the stage M0 and to a completed campaign when it neither resumes a handoff
nor faults: M0 is not entered, and is completed by `completeStage` alone. -/
structure Goes (machine : CampaignStateMachine) (call : CampaignCall)
    (next : CampaignStateMachine) : Prop where
  known : next.Known
  entered : next.stage = .m0 → machine.stage = .m0 ∧ next.sessionId = machine.sessionId
  finished : machine.state = .completed → next = machine
  completes : next.state = .completed →
    machine.state = .completed ∨ call = .completeStage ∧ machine.stage = .m0
  idle : machine.state = .idle → next = machine ∨ ∃ sessionId value,
    call = .startNewSession sessionId value

variable {machine next : CampaignStateMachine} {call : CampaignCall}

theorem goes_same (known : machine.Known) : machine.Goes call machine where
  known := known
  entered m0 := ⟨m0, rfl⟩
  finished _ := rfl
  completes := Or.inl
  idle _ := Or.inl rfl

/-- A machine that was neither idle nor completed stays in its stage. -/
theorem goes_on {state : CampaignState} (found : machine.state = state)
    (active : state ≠ .idle ∧ state ≠ .completed) (known : next.Known)
    (sessionId : next.sessionId = machine.sessionId) (stage : next.stage = machine.stage)
    (unfinished : next.state ≠ .completed) : machine.Goes call next where
  known := known
  entered m0 := ⟨stage ▸ m0, sessionId⟩
  finished completed := absurd (found.symm.trans completed) active.2
  completes completed := absurd completed unfinished
  idle idle := absurd (found.symm.trans idle) active.1

theorem goes_of_transition {status : CampaignStatus} (known : machine.Known)
    (transition : machine.Transition call status next)
    (resumes : ∀ handoff resetKind survived, call ≠ .resumeM0 handoff resetKind survived)
    (faults : call ≠ .fault) : machine.Goes call next := by
  have within {state : CampaignState} (found : machine.state = state)
      (inStage : state.inStage = true) : machine.stage ≠ .none :=
    known.inStage (by rwa [found])
  cases transition with
  | rejected refused => exact goes_same known
  | notCounted reason state _ _ | counted state _ | unsupported state _ | finished state _
  | ended state =>
      exact goes_on state (by decide) ⟨fun _ => within state rfl, nofun⟩ rfl rfl nofun
  | started state valid seeded =>
      refine ⟨⟨fun _ => nofun, nofun⟩, nofun, fun completed => ?_, nofun, fun _ => Or.inr ⟨_, _, rfl⟩⟩
      exact absurd (state.symm.trans completed) nofun
  | confirmed state finned | begun state _ =>
      exact goes_on state (by decide) ⟨fun _ => within state rfl, nofun⟩ rfl rfl nofun
  | removed state =>
      have m0 := known.awaiting state
      exact goes_on state (by decide) ⟨fun _ none => absurd (m0.symm.trans none) nofun, nofun⟩
        rfl rfl nofun
  | @passed entered state full order =>
      have reached : entered ≠ .none ∧ entered ≠ .m0 := by
        rcases order with ⟨-, rfl⟩ | ⟨-, rfl⟩ <;> decide
      exact ⟨⟨fun _ => reached.1, nofun⟩, fun m0 => absurd m0 reached.2,
        fun completed => absurd (state.symm.trans completed) nofun, nofun,
        fun idle => absurd (state.symm.trans idle) nofun⟩
  | @left left state full order =>
      have unknown : ¬ (left.inStage = true ∨ left = .awaitingM0Confirmation) := by
        rcases order with ⟨-, rfl⟩ | ⟨-, rfl⟩ <;> decide
      refine ⟨known_of_outside rfl unknown, fun m0 => ⟨m0, rfl⟩,
        fun completed => absurd (state.symm.trans completed) nofun, fun completed => ?_,
        fun idle => absurd (state.symm.trans idle) nofun⟩
      rcases order with ⟨-, rfl⟩ | ⟨stage, -⟩
      · cases completed
      · exact Or.inr ⟨rfl, stage⟩
  | prepared state stage =>
      exact goes_on state (by decide) (@known_of_outside _ .powerCycleRequired rfl (by decide))
        rfl rfl nofun
  | resumed state valid => exact absurd rfl (resumes _ _ _)
  | faulted => exact absurd rfl faults

theorem goes_call (known : machine.Known)
    (resumes : ∀ handoff resetKind survived, call ≠ .resumeM0 handoff resetKind survived)
    (faults : call ≠ .fault) : machine.Goes call (machine.call call).2 :=
  goes_of_transition known
    (transition_call (fun ready => known.inStage (by rw [ready]; rfl)) call) resumes faults

/-- A machine goes on without M0 being entered or completed. -/
structure Ran (machine next : CampaignStateMachine) : Prop where
  known : next.Known
  entered : next.stage = .m0 → machine.stage = .m0 ∧ next.sessionId = machine.sessionId
  finished : machine.state = .completed → next = machine
  completes : next.state = .completed → machine.state = .completed

theorem Goes.ran (goes : machine.Goes call next)
    (completes : call = .completeStage → machine.stage ≠ .m0) : machine.Ran next where
  known := goes.known
  entered := goes.entered
  finished := goes.finished
  completes completed := by
    rcases goes.completes completed with before | ⟨completing, m0⟩
    · exact before
    · exact absurd m0 (completes completing)

theorem Ran.trans {last : CampaignStateMachine} (first : machine.Ran next) (second : next.Ran last) :
    machine.Ran last where
  known := second.known
  entered m0 := by
    obtain ⟨entered, same⟩ := second.entered m0
    obtain ⟨before, sessionId⟩ := first.entered entered
    exact ⟨before, same.trans sessionId⟩
  finished completed := by
    have same := first.finished completed
    rw [same] at second
    exact second.finished completed
  completes completed := first.completes (second.completes completed)

theorem goes_runnerCall (known : machine.Known) (call : RunnerCall) :
    machine.Goes call.toCall (machine.call call.toCall).2 :=
  goes_call known (by cases call <;> exact nofun) (by cases call <;> exact nofun)

theorem ran_afterRunner (known : machine.Known) (calls : List RunnerCall) :
    machine.Ran (machine.afterRunner calls) := by
  induction calls generalizing machine with
  | nil => exact ⟨known, fun m0 => ⟨m0, rfl⟩, fun _ => rfl, id⟩
  | cons call rest inductionHypothesis =>
      have goes := goes_runnerCall known call
      have first := goes.ran (by cases call <;> exact nofun)
      exact first.trans (inductionHypothesis goes.known)

/-- The runner starts nothing in a machine that is idle. -/
theorem afterRunner_of_idle (known : machine.Known) (idle : machine.state = .idle)
    (calls : List RunnerCall) : machine.afterRunner calls = machine := by
  induction calls with
  | nil => rfl
  | cons call rest inductionHypothesis =>
      have same : (machine.call call.toCall).2 = machine := by
        rcases (goes_runnerCall known call).idle idle with same | ⟨sessionId, value, starts⟩
        · exact same
        · cases call <;> cases starts
      show (machine.call call.toCall).2.afterRunner rest = machine
      rw [same]
      exact inductionHypothesis

end CampaignStateMachine

namespace Board

/-! ### The invariant -/

/-- What stands in NVS is the handoff of a `prepareM0` that has not served yet. -/
structure Kept (board : Board) : Prop where
  once : board.completed.Nodup
  counted : ∀ number ∈ board.completed, number < board.prepared.length
  stored : ∀ bytes, board.nvs.handoff = some bytes →
    board.nvs.namespaced = true ∧ board.origin ∉ board.completed ∧
      ∃ handoff, board.prepared[board.origin]? = some handoff ∧
        validateHandoff handoff = true ∧ bytes = encodeHandoff handoff

/-- The campaign after a `prepareM0` that returned `Ok` -/
def Leaves (campaign : CampaignStateMachine) : Prop :=
  campaign.state = .powerCycleRequired ∧ campaign.stage = .fhNegative

/-- The campaign for which the handoff is erased: its stage M0 can be completed, or it is
completed. -/
def Closes (campaign : CampaignStateMachine) : Bool → Prop
  | true =>
      campaign.state = .ready ∧ campaign.stage = .m0 ∧ campaign.fullCompleted .hz1000 = true ∧
        campaign.rateResults .hz1000 ≠ .pending
  | false => campaign.state = .completed

/-- The handoff noted last, which is yet to serve -/
structure Persists (board : Board) (handoff : M0Handoff) : Prop where
  last : board.prepared.getLast? = some handoff
  valid : validateHandoff handoff = true
  fresh : ∀ number ∈ board.completed, number + 1 < board.prepared.length

/-- What holds where the worker stands -/
def Stands (board : Board) (runtime : CharacterizationRuntime) : Worker → Prop
  | .idle => board.nvs.handoff ≠ none → runtime.handoffPresent = true ∨ runtime.handoffResult ≠ .ok
  | .persistOpening handoff => Leaves runtime.campaign ∧ board.Persists handoff
  | .persistSetting handoff =>
      Leaves runtime.campaign ∧ board.Persists handoff ∧ board.nvs.namespaced = true
  | .persistCommitting => Leaves runtime.campaign
  | .eraseOpening completes | .eraseErasing completes => Closes runtime.campaign completes
  | .eraseCommitting completes => Closes runtime.campaign completes ∧ board.nvs.handoff = none

/-- The runtime is in the stage M0 of the handoff it was resumed with, which has not served until
the campaign is completed; it starts no campaign when the handoff could not be loaded. -/
structure Serves (board : Board) (runtime : CharacterizationRuntime) : Prop where
  known : runtime.campaign.Known
  resumed : runtime.campaign.stage = .m0 → ∃ handoff,
    board.prepared[runtime.resumed]? = some handoff ∧
      handoff.sessionId = runtime.campaign.sessionId
  unserved : runtime.campaign.stage = .m0 → runtime.campaign.state ≠ .completed →
    runtime.handoffPresent = true ∧ runtime.resumed ∉ board.completed
  served : runtime.campaign.state = .completed → runtime.resumed ∈ board.completed
  refused : runtime.loadResult ≠ .ok →
    runtime.handoffResult ≠ .ok ∧ runtime.campaign.state = .idle
  stands : board.Stands runtime runtime.worker

/-- What holds of the board in every run -/
structure Sound (board : Board) : Prop where
  kept : board.Kept
  serves : ∀ runtime, board.runtime = some runtime → board.Serves runtime

variable {board : Board} {runtime : CharacterizationRuntime}

theorem Sound.of_runtime {next : Board} {runtime : CharacterizationRuntime} (kept : next.Kept)
    (on : next.runtime = some runtime) (serves : next.Serves runtime) : next.Sound where
  kept := kept
  serves other same := by
    obtain rfl := Option.some.inj (on.symm.trans same)
    exact serves

/-- The campaign stays, and so does what it needs of the handoff. -/
theorem Serves.turn {next : Board} {turned : CharacterizationRuntime}
    (serves : board.Serves runtime) (prepared : next.prepared = board.prepared)
    (completed : next.completed = board.completed) (campaign : turned.campaign = runtime.campaign)
    (resumed : turned.resumed = runtime.resumed)
    (present : runtime.campaign.state ≠ .completed →
      runtime.handoffPresent = true → turned.handoffPresent = true)
    (load : turned.loadResult = runtime.loadResult)
    (result : runtime.campaign.state = .idle →
      runtime.handoffResult ≠ .ok → turned.handoffResult ≠ .ok)
    (stands : next.Stands turned turned.worker) : next.Serves turned where
  known := campaign ▸ serves.known
  resumed m0 := by
    rw [prepared, resumed, campaign]
    exact serves.resumed (campaign ▸ m0)
  unserved m0 unfinished := by
    rw [campaign] at m0 unfinished
    obtain ⟨stored, fresh⟩ := serves.unserved m0 unfinished
    rw [resumed, completed]
    exact ⟨present unfinished stored, fresh⟩
  served finished := by
    rw [resumed, completed]
    exact serves.served (campaign ▸ finished)
  refused failed := by
    rw [load] at failed
    obtain ⟨refused, idle⟩ := serves.refused failed
    rw [campaign]
    exact ⟨result idle refused, idle⟩
  stands := stands

/-- What has been noted stays, and what stands in NVS stays or is erased. -/
theorem Kept.turn {next : Board} (kept : board.Kept) (prepared : next.prepared = board.prepared)
    (completed : next.completed = board.completed)
    (stored : next.nvs.handoff = none ∨ next.nvs.handoff = board.nvs.handoff ∧
      next.origin = board.origin ∧ (board.nvs.namespaced = true → next.nvs.namespaced = true)) :
    next.Kept where
  once := completed ▸ kept.once
  counted := by
    rw [prepared, completed]
    exact kept.counted
  stored bytes stands := by
    rcases stored with erased | ⟨same, origin, namespaced⟩
    · exact absurd (erased.symm.trans stands) nofun
    · rw [same] at stands
      obtain ⟨opened, fresh⟩ := kept.stored bytes stands
      rw [prepared, completed, origin]
      exact ⟨namespaced opened, fresh⟩

/-- A campaign goes on only after the handoff was loaded. -/
theorem loaded_of_active (serves : board.Serves runtime) (active : runtime.campaign.state ≠ .idle) :
    runtime.loadResult = .ok := by
  by_contra failed
  exact active (serves.refused failed).2

/-! ### Requests -/

theorem sound_proceed (kept : board.Kept) (serves : board.Serves runtime)
    {next : CampaignStateMachine} (ran : runtime.campaign.Ran next)
    (idle : runtime.loadResult ≠ .ok → next = runtime.campaign) (rests : runtime.worker = .idle)
    (error : WorkError) (status : CampaignStatus) :
    (board.proceed (runtime.done error status) next).Sound := by
  have noted : (board.proceed (runtime.done error status) next).completed = board.completed := by
    apply if_neg
    rintro ⟨finished, unfinished⟩
    exact unfinished (ran.completes finished)
  have stands := serves.stands
  rw [rests] at stands
  refine .of_runtime ⟨?_, ?_, ?_⟩ rfl ⟨ran.known, fun m0 => ?_, fun m0 unfinished => ?_,
    fun finished => ?_, fun failed => ?_, stands⟩
  · rw [noted]
    exact kept.once
  · rw [noted]
    exact kept.counted
  · rw [noted]
    exact kept.stored
  · obtain ⟨before, session⟩ := ran.entered m0
    obtain ⟨handoff, written, same⟩ := serves.resumed before
    exact ⟨handoff, written, same.trans session.symm⟩
  · obtain ⟨before, -⟩ := ran.entered m0
    rw [noted]
    refine serves.unserved before fun finished => unfinished ?_
    show next.state = .completed
    rw [ran.finished finished]
    exact finished
  · rw [noted]
    exact serves.served (ran.completes finished)
  · obtain ⟨refused, still⟩ := serves.refused failed
    refine ⟨refused, ?_⟩
    show next.state = .idle
    rw [idle failed]
    exact still

/-- A request that changes the results alone -/
theorem sound_done (kept : board.Kept) (serves : board.Serves runtime)
    (rests : runtime.worker = .idle) (error : WorkError) (status : CampaignStatus) :
    ({ board with runtime := some (runtime.done error status) } : Board).Sound := by
  have stands := serves.stands
  rw [rests] at stands
  exact .of_runtime (kept.turn rfl rfl (Or.inr ⟨rfl, rfl, id⟩)) rfl
    (serves.turn rfl rfl rfl rfl (fun _ => id) rfl (fun _ => id) stands)

theorem sound_campaignCall (kept : board.Kept) (serves : board.Serves runtime)
    (rests : runtime.worker = .idle) {call : CampaignCall}
    (resumes : ∀ handoff resetKind survived, call ≠ .resumeM0 handoff resetKind survived)
    (faults : call ≠ .fault)
    (starts : ∀ sessionId value, call = .startNewSession sessionId value →
      runtime.handoffResult = .ok)
    (completes : call = .completeStage → runtime.campaign.stage ≠ .m0) :
    (board.campaignCall runtime call).Sound := by
  have goes := CampaignStateMachine.goes_call serves.known resumes faults
  refine sound_proceed kept serves (goes.ran completes) (fun failed => ?_) rests _ _
  obtain ⟨refused, idle⟩ := serves.refused failed
  rcases goes.idle idle with same | ⟨sessionId, value, starting⟩
  · exact same
  · exact absurd (starts sessionId value starting) refused

/-- `prepareM0` writes the handoff of a campaign that has not reached M0. -/
theorem prepareM0_eq {machine : CampaignStateMachine} (accepted : machine.prepareM0.1 = .ok) :
    machine.state = .awaitingM0Handoff ∧ machine.stage = .fhNegative ∧
      machine.prepareM0.2 = { machine with state := .powerCycleRequired } := by
  unfold CampaignStateMachine.prepareM0 at accepted ⊢
  split_ifs at accepted ⊢ with waits
  rw [not_or, Decidable.not_not, Decidable.not_not] at waits
  exact ⟨waits.1, waits.2, rfl⟩

/-- A runtime that has left its stages with fin waits for a boot. -/
theorem serves_of_left {state : CampaignState} (found : runtime.campaign.state = state)
    (left : state = .powerCycleRequired ∨ state = .faulted)
    (stage : runtime.campaign.stage = .fhNegative) (loaded : runtime.loadResult = .ok)
    (stands : board.Stands runtime runtime.worker) : board.Serves runtime where
  known := by
    apply CampaignStateMachine.known_of_outside found
    rcases left with rfl | rfl <;> decide
  resumed m0 := absurd (stage.symm.trans m0) (by decide)
  unserved m0 := absurd (stage.symm.trans m0) (by decide)
  served finished := by
    rw [found] at finished
    rcases left with rfl | rfl <;> cases finished
  refused failed := absurd loaded failed
  stands := stands

/-- The handoff that `prepareM0` has written is noted. -/
theorem Kept.append {next : Board} (kept : board.Kept) {handoff : M0Handoff}
    (prepared : next.prepared = board.prepared ++ [handoff])
    (completed : next.completed = board.completed) (nvs : next.nvs = board.nvs)
    (origin : next.origin = board.origin) : next.Kept where
  once := completed ▸ kept.once
  counted number within := by
    rw [completed] at within
    have before := kept.counted number within
    rw [prepared, List.length_append]
    omega
  stored bytes stands := by
    rw [nvs] at stands
    obtain ⟨opened, fresh, written, there, rest⟩ := kept.stored bytes stands
    rw [nvs, origin, completed, prepared,
      List.getElem?_append_left (List.getElem?_eq_some_iff.mp there).1]
    exact ⟨opened, fresh, written, there, rest⟩

theorem sound_prepareM0 (kept : board.Kept) (serves : board.Serves runtime)
    (rests : runtime.worker = .idle) (disarms : Bool) :
    (board.execute runtime (.prepareM0 disarms)).Sound := by
  simp only [execute]
  split
  · exact sound_done kept serves rests _ _
  · split
    · exact sound_done kept serves rests _ _
    · rename_i accepted
      obtain ⟨state, stage, next⟩ := prepareM0_eq (Decidable.not_not.mp accepted)
      have loaded := loaded_of_active serves (by rw [state]; decide)
      rw [next]
      split
      · refine .of_runtime (kept.append rfl rfl rfl rfl) rfl
          (serves_of_left rfl (Or.inr rfl) stage loaded fun _ => Or.inr nofun)
      · rename_i valid
        rw [Bool.not_eq_true', Bool.not_eq_false] at valid
        refine .of_runtime (kept.append rfl rfl rfl rfl) rfl
          (serves_of_left rfl (Or.inl rfl) stage loaded
            ⟨⟨rfl, stage⟩, List.getLast?_concat, valid, fun number within => ?_⟩)
        have before := kept.counted number within
        show number + 1 < (board.prepared ++ [_]).length
        rw [List.length_append]
        exact Nat.add_lt_add_right before 1

theorem sound_completeStage (kept : board.Kept) (serves : board.Serves runtime)
    (rests : runtime.worker = .idle) (disarms : Bool) :
    (board.execute runtime (.completeStage disarms)).Sound := by
  have calls (finned : runtime.campaign.stage ≠ .m0) :
      (board.campaignCall runtime .completeStage).Sound :=
    sound_campaignCall kept serves rests nofun nofun nofun fun _ => finned
  have erases (completes : Bool) (closes : Closes runtime.campaign completes) :
      ({ board with
        runtime := some { runtime with worker := .eraseOpening completes } } : Board).Sound :=
    .of_runtime (kept.turn rfl rfl (Or.inr ⟨rfl, rfl, id⟩)) rfl
      (serves.turn rfl rfl rfl rfl (fun _ => id) rfl (fun _ => id) closes)
  simp only [execute]
  split
  · exact sound_done kept serves rests _ _
  · split
    · rename_i finished
      split
      · exact erases false finished
      · exact sound_done kept serves rests _ _
    · rename_i unfinished
      split
      · rename_i m0
        split
        · exact sound_done kept serves rests _ _
        · rename_i closes
          simp only [not_or, Decidable.not_not, Bool.not_eq_true', Bool.not_eq_false] at closes
          have stored := (serves.unserved m0 unfinished).1
          rw [if_pos stored]
          exact erases true ⟨closes.1, m0, closes.2.1, closes.2.2.1⟩
      · rename_i finned
        exact calls finned

theorem sound_execute (kept : board.Kept) (serves : board.Serves runtime)
    (rests : runtime.worker = .idle) (request : WorkRequest) :
    (board.execute runtime request).Sound := by
  cases request with
  | none => exact sound_done kept serves rests _ _
  | newSession sessionId value =>
      simp only [execute]
      split
      · exact sound_done kept serves rests _ _
      · rename_i free
        rw [not_or, Decidable.not_not] at free
        exact sound_campaignCall kept serves rests nofun nofun (fun _ _ _ => free.2) nofun
  | confirmStage stage => exact sound_campaignCall kept serves rests nofun nofun nofun nofun
  | runner calls =>
      apply sound_proceed kept serves (CampaignStateMachine.ran_afterRunner serves.known calls) _ rests
      intro failed
      exact CampaignStateMachine.afterRunner_of_idle serves.known (serves.refused failed).2 calls
  | completeStage disarms => exact sound_completeStage kept serves rests disarms
  | prepareM0 disarms => exact sound_prepareM0 kept serves rests disarms
  | resumeM0 sessionId literal => exact sound_campaignCall kept serves rests nofun nofun nofun nofun

/-! ### Answers of NVS -/

theorem sound_persistFails (kept : board.Kept) (serves : board.Serves runtime)
    (leaves : Leaves runtime.campaign) : (board.persistFails runtime).Sound := by
  have loaded := loaded_of_active serves (by rw [leaves.1]; decide)
  exact .of_runtime (kept.turn rfl rfl (Or.inr ⟨rfl, rfl, id⟩)) rfl
    (serves_of_left rfl (Or.inr rfl) leaves.2 loaded fun _ => Or.inr nofun)

theorem sound_eraseFails (kept : board.Kept) (serves : board.Serves runtime) :
    (board.eraseFails runtime).Sound :=
  .of_runtime (kept.turn rfl rfl (Or.inr ⟨rfl, rfl, id⟩)) rfl
    (serves.turn rfl rfl rfl rfl (fun _ => id) rfl (fun _ _ => nofun) fun _ => Or.inr nofun)

/-- The handoff that is written is the one noted last. -/
theorem Kept.persist {next : Board} (kept : board.Kept) {handoff : M0Handoff}
    (persists : board.Persists handoff) (opened : board.nvs.namespaced = true)
    (prepared : next.prepared = board.prepared) (completed : next.completed = board.completed)
    (stored : next.nvs = { board.nvs with handoff := some (encodeHandoff handoff) })
    (origin : next.origin = board.prepared.length - 1) : next.Kept where
  once := completed ▸ kept.once
  counted := by
    rw [prepared, completed]
    exact kept.counted
  stored bytes stands := by
    rw [stored] at stands
    obtain rfl := Option.some.inj stands
    rw [stored, prepared, completed, origin]
    refine ⟨opened, fun served => ?_, handoff, ?_, persists.valid, rfl⟩
    · have before := persists.fresh _ served
      omega
    · rw [← List.getLast?_eq_getElem?]
      exact persists.last

/-- When the handoff has been erased, the stage M0 is completed. -/
theorem completeStage_of_closes {machine : CampaignStateMachine} (closes : Closes machine true) :
    machine.completeStage.2 =
      { machine with
        completedStageMask := machine.completedStageMask ||| stageBit machine.stage
        state := .completed } := by
  obtain ⟨ready, m0, full, resolved⟩ := closes
  unfold CampaignStateMachine.completeStage
  rw [if_neg (by simp [ready, full, resolved, CampaignStateMachine.allRateChecksResolved])]
  dsimp only
  rw [m0]

theorem sound_closes (kept : board.Kept) (serves : board.Serves runtime)
    (closes : Closes runtime.campaign true) (erased : board.nvs.handoff = none) :
    (board.campaignCall { runtime with handoffPresent := false, handoffResult := .ok }
      .completeStage).Sound := by
  have next := completeStage_of_closes closes
  obtain ⟨ready, m0, -⟩ := closes
  have unfinished : runtime.campaign.state ≠ .completed := by
    rw [ready]
    decide
  obtain ⟨-, fresh⟩ := serves.unserved m0 unfinished
  obtain ⟨handoff, written, same⟩ := serves.resumed m0
  simp only [campaignCall, CampaignStateMachine.call, next, proceed]
  rw [if_pos ⟨trivial, unfinished⟩]
  refine .of_runtime ⟨?_, fun number within => ?_, fun _ stands => ?_⟩ rfl
    ⟨@CampaignStateMachine.known_of_outside _ .completed rfl (by decide),
      fun _ => ⟨handoff, written, same⟩, fun _ still => absurd rfl still,
      fun _ => List.mem_append_right _ List.mem_cons_self, fun failed => ?_, fun stored => ?_⟩
  · exact List.nodup_append.mpr ⟨kept.once, List.nodup_singleton _, fun _ before _ last => by
      rw [List.mem_singleton] at last
      rintro rfl
      exact fresh (last ▸ before)⟩
  · rcases List.mem_append.mp within with before | last
    · exact kept.counted number before
    · rw [List.mem_singleton] at last
      rw [last]
      exact (List.getElem?_eq_some_iff.mp written).1
  · cases erased.symm.trans stands
  · cases ready.symm.trans (serves.refused failed).2
  · exact absurd erased stored

theorem sound_nvsStep (kept : board.Kept) (serves : board.Serves runtime) (succeeds : Bool)
    (on : board.runtime = some runtime) : (board.nvsStep runtime succeeds).Sound := by
  have stands := serves.stands
  unfold nvsStep
  cases worker : runtime.worker with
  | idle => exact .of_runtime kept on serves
  | persistOpening handoff =>
      rw [worker] at stands
      obtain ⟨leaves, persists⟩ := stands
      dsimp only
      split
      · exact sound_persistFails kept serves leaves
      · exact .of_runtime (kept.turn rfl rfl (Or.inr ⟨rfl, rfl, fun _ => rfl⟩)) rfl
          (serves.turn rfl rfl rfl rfl (fun _ => id) rfl (fun _ => id)
            ⟨leaves, ⟨persists.last, persists.valid, persists.fresh⟩, rfl⟩)
  | persistSetting handoff =>
      rw [worker] at stands
      obtain ⟨leaves, persists, opened⟩ := stands
      dsimp only
      split
      · exact sound_persistFails kept serves leaves
      · exact .of_runtime (kept.persist persists opened rfl rfl rfl rfl) rfl
          (serves.turn rfl rfl rfl rfl (fun _ => id) rfl (fun _ => id) leaves)
  | persistCommitting =>
      rw [worker] at stands
      dsimp only
      split
      · exact sound_persistFails kept serves stands
      · have loaded := loaded_of_active serves (stands.1 ▸ by decide)
        exact .of_runtime (kept.turn rfl rfl (Or.inr ⟨rfl, rfl, id⟩)) rfl
          (serves_of_left stands.1 (Or.inl rfl) stands.2 loaded fun _ => Or.inl rfl)
  | eraseOpening completes =>
      rw [worker] at stands
      dsimp only
      split
      · exact sound_eraseFails kept serves
      · exact .of_runtime (kept.turn rfl rfl (Or.inr ⟨rfl, rfl, fun _ => rfl⟩)) rfl
          (serves.turn rfl rfl rfl rfl (fun _ => id) rfl (fun _ => id) stands)
  | eraseErasing completes =>
      rw [worker] at stands
      dsimp only
      split
      · exact sound_eraseFails kept serves
      · exact .of_runtime (kept.turn rfl rfl (Or.inl rfl)) rfl
          (serves.turn rfl rfl rfl rfl (fun _ => id) rfl (fun _ => id) ⟨stands, rfl⟩)
  | eraseCommitting completes =>
      rw [worker] at stands
      obtain ⟨closes, erased⟩ := stands
      dsimp only
      split
      · exact sound_eraseFails kept serves
      · cases completes with
        | true => exact sound_closes kept serves closes erased
        | false =>
            have finished : runtime.campaign.state = .completed := closes
            exact .of_runtime (kept.turn rfl rfl (Or.inl erased)) rfl
              (serves.turn rfl rfl rfl rfl (fun unfinished => absurd finished unfinished) rfl
                (fun idle => absurd (finished.symm.trans idle) nofun)
                fun stored => absurd erased stored)

/-! ### A boot -/

/-- What `loadHandoff` finds: the handoff that stands in NVS, or an error, or nothing when nothing
stands there. -/
theorem loadHandoff_cases (kept : board.Kept) (answers : LoadAnswers) :
    (loadHandoff board.nvs answers).1 ≠ .ok ∨
      loadHandoff board.nvs answers = (.ok, false, none) ∧ board.nvs.handoff = none ∨
      ∃ handoff, loadHandoff board.nvs answers = (.ok, true, some handoff) ∧
        board.prepared[board.origin]? = some handoff ∧ board.origin ∉ board.completed := by
  unfold loadHandoff
  split
  · exact Or.inl nofun
  · split
    · rename_i unopened
      refine Or.inr (Or.inl ⟨rfl, ?_⟩)
      cases stored : board.nvs.handoff with
      | none => rfl
      | some bytes =>
          rw [(kept.stored bytes stored).1] at unopened
          cases unopened
    · split
      · exact Or.inl nofun
      · cases stored : board.nvs.handoff with
        | none => exact Or.inr (Or.inl ⟨rfl, rfl⟩)
        | some bytes =>
            obtain ⟨-, fresh, handoff, written, valid, same⟩ := kept.stored bytes stored
            have long : bytes.length = kPersistedHandoffBytes := same ▸ length_encodeHandoff handoff
            have decoded : decodeHandoff bytes = some handoff := same ▸ decodeHandoff_encodeHandoff valid
            simp only [long, decoded, ne_eq, not_true_eq_false, if_false]
            split
            · exact Or.inl nofun
            · exact Or.inr (Or.inr ⟨handoff, rfl, written, fresh⟩)

/-- A machine that has just booted stays idle, or waits for the confirmation of M0. -/
theorem resumeM0_fresh (handoff : M0Handoff) (resetKind : ResetKind) (rtcCookieSurvived : Bool) :
    (({} : CampaignStateMachine).resumeM0 handoff resetKind rtcCookieSurvived).2 = {} ∨
      ∃ next : CampaignStateMachine,
        (({} : CampaignStateMachine).resumeM0 handoff resetKind rtcCookieSurvived).2 = next ∧
          next.state = .awaitingM0Confirmation ∧ next.stage = .m0 ∧
          next.sessionId = handoff.sessionId := by
  unfold CampaignStateMachine.resumeM0
  split_ifs
  · exact Or.inl rfl
  · exact Or.inl rfl
  · exact Or.inl rfl
  · exact Or.inl rfl
  · exact Or.inr ⟨_, rfl, rfl, rfl, rfl⟩

/-- A runtime whose campaign is still idle -/
theorem serves_of_idle (idle : runtime.campaign = {})
    (refused : runtime.loadResult ≠ .ok → runtime.handoffResult ≠ .ok)
    (stands : board.Stands runtime runtime.worker) : board.Serves runtime where
  known := @CampaignStateMachine.known_of_outside _ .idle (by rw [idle]) (by decide)
  resumed m0 := by
    rw [idle] at m0
    cases m0
  unserved m0 := by
    rw [idle] at m0
    cases m0
  served finished := by
    rw [idle] at finished
    cases finished
  refused failed := ⟨refused failed, by rw [idle]⟩
  stands := stands

theorem sound_configureBoot (kept : board.Kept) (answers : LoadAnswers) (resetKind : ResetKind)
    (rtcCookieSurvived : Bool) :
    ({ board with
      runtime := some (.configureBoot (loadHandoff board.nvs answers) resetKind rtcCookieSurvived
        board.origin) } : Board).Sound := by
  refine .of_runtime ⟨kept.once, kept.counted, kept.stored⟩ rfl ?_
  rcases loadHandoff_cases kept answers with
    failed | ⟨found, erased⟩ | ⟨handoff, found, written, fresh⟩
  · unfold CharacterizationRuntime.configureBoot
    split
    · rename_i loaded
      rw [loaded] at failed
      exact absurd rfl failed
    · exact serves_of_idle rfl id fun _ => Or.inr failed
  · rw [found]
    exact serves_of_idle rfl id fun stored => absurd erased stored
  · rw [found]
    simp only [CharacterizationRuntime.configureBoot]
    rcases resumeM0_fresh handoff resetKind rtcCookieSurvived with
      same | ⟨next, same, awaiting, m0, session⟩
    · exact serves_of_idle same id fun _ => Or.inl rfl
    · rw [same]
      exact ⟨⟨fun _ => by rw [m0]; decide, fun _ => m0⟩, fun _ => ⟨handoff, written, session.symm⟩,
        fun _ _ => ⟨rfl, fresh⟩, fun finished => absurd (awaiting.symm.trans finished) nofun,
        fun failed => absurd rfl failed, fun _ => Or.inl rfl⟩

theorem sound_step (sound : board.Sound) (label : BoardStep) : (board.step label).Sound := by
  cases label with
  | boot resetKind rtcCookieSurvived initFails answers =>
      simp only [step]
      split
      · exact ⟨⟨sound.kept.once, sound.kept.counted, sound.kept.stored⟩, fun _ on => absurd on (Option.some_ne_none _).symm⟩
      · exact sound_configureBoot sound.kept answers resetKind rtcCookieSurvived
  | request request =>
      simp only [step]
      cases on : board.runtime with
      | none => exact sound
      | some runtime =>
          dsimp only
          split
          · rename_i rests
            exact sound_execute sound.kept (sound.serves runtime on) rests request
          · exact sound
  | nvs succeeds =>
      simp only [step]
      cases on : board.runtime with
      | none => exact sound
      | some runtime => exact sound_nvsStep sound.kept (sound.serves runtime on) succeeds on

/-- What NVS holds is read back as it was written, a handoff serves once, and no session is started
while one is stored or could not be loaded. -/
structure ConsumedOnce (board : Board) : Prop where
  /-- The bytes in NVS are those of a handoff that `prepareM0` has written, and give it back. -/
  readBack : ∀ bytes, board.nvs.handoff = some bytes → ∃ handoff,
    board.prepared[board.origin]? = some handoff ∧ bytes = encodeHandoff handoff ∧
      decodeHandoff bytes = some handoff
  /-- Each `Completed` of a stage M0 belongs to another `prepareM0`. -/
  once : board.completed.Nodup ∧ ∀ number ∈ board.completed, number < board.prepared.length
  /-- A runtime in the stage M0 has the session of the handoff it was resumed with. -/
  resumed : ∀ runtime, board.runtime = some runtime → runtime.campaign.stage = .m0 →
    ∃ handoff, board.prepared[runtime.resumed]? = some handoff ∧
      handoff.sessionId = runtime.campaign.sessionId
  /-- The handoff of a completed stage M0 is noted, and none that is noted is resumed. -/
  noted : ∀ runtime, board.runtime = some runtime →
    (runtime.campaign.state = .completed → runtime.resumed ∈ board.completed) ∧
      (runtime.campaign.state = .awaitingM0Confirmation → runtime.resumed ∉ board.completed)
  refused : ∀ runtime, board.runtime = some runtime →
    board.nvs.handoff ≠ none ∨ runtime.loadResult ≠ .ok → ∀ sessionId value,
      board.step (.request (.newSession sessionId value)) =
        if runtime.worker = .idle then board.fail runtime .invalidState else board

theorem Sound.consumedOnce (sound : board.Sound) : board.ConsumedOnce where
  readBack bytes stored := by
    obtain ⟨-, -, handoff, written, valid, same⟩ := sound.kept.stored bytes stored
    exact ⟨handoff, written, same, same ▸ decodeHandoff_encodeHandoff valid⟩
  once := ⟨sound.kept.once, sound.kept.counted⟩
  resumed runtime on := (sound.serves runtime on).resumed
  noted runtime on := by
    have serves := sound.serves runtime on
    refine ⟨serves.served, fun awaiting => ?_⟩
    exact (serves.unserved (serves.known.awaiting awaiting) (by rw [awaiting]; decide)).2
  refused runtime on held sessionId value := by
    have serves := sound.serves runtime on
    have stands := serves.stands
    simp only [step, on]
    split
    · rename_i rests
      rw [rests] at stands
      apply if_pos
      rcases held with stored | failed
      · exact stands stored
      · exact Or.inr (serves.refused failed).1
    · rfl

theorem sound_initial : ({} : Board).Sound :=
  ⟨⟨List.nodup_nil, fun _ within => absurd within List.not_mem_nil,
    fun _ stored => absurd stored (Option.some_ne_none _).symm⟩,
    fun _ on => absurd on (Option.some_ne_none _).symm⟩

theorem completed_proceed (board : Board) (runtime : CharacterizationRuntime)
    (campaign : CampaignStateMachine) :
    board.completed <+: (board.proceed runtime campaign).completed := by
  simp only [proceed]
  split
  · exact List.prefix_append _ _
  · exact List.prefix_rfl

theorem completed_execute (board : Board) (runtime : CharacterizationRuntime)
    (request : WorkRequest) : board.completed <+: (board.execute runtime request).completed := by
  cases request with
  | none => exact List.prefix_rfl
  | newSession sessionId value =>
      simp only [execute]
      split
      · exact List.prefix_rfl
      · exact completed_proceed ..
  | confirmStage stage => exact completed_proceed ..
  | runner calls => exact completed_proceed ..
  | completeStage disarms =>
      simp only [execute]
      split_ifs <;> first | exact List.prefix_rfl | exact completed_proceed ..
  | prepareM0 disarms =>
      simp only [execute]
      split_ifs <;> exact List.prefix_rfl
  | resumeM0 sessionId literal => exact completed_proceed ..

theorem completed_nvsStep (board : Board) (runtime : CharacterizationRuntime) (succeeds : Bool) :
    board.completed <+: (board.nvsStep runtime succeeds).completed := by
  unfold nvsStep
  cases runtime.worker with
  | idle => exact List.prefix_rfl
  | eraseCommitting completes =>
      dsimp only
      split
      · exact List.prefix_rfl
      · split
        · exact completed_proceed ..
        · exact List.prefix_rfl
  | _ => dsimp only; split <;> exact List.prefix_rfl

/-- What has been noted as completed stays noted. -/
theorem completed_step (board : Board) (label : BoardStep) :
    board.completed <+: (board.step label).completed := by
  cases label with
  | boot resetKind rtcCookieSurvived initFails answers => exact List.prefix_rfl
  | request request =>
      simp only [step]
      cases board.runtime with
      | none => exact List.prefix_rfl
      | some runtime =>
          dsimp only
          split
          · exact completed_execute board runtime request
          · exact List.prefix_rfl
  | nvs succeeds =>
      simp only [step]
      cases board.runtime with
      | none => exact List.prefix_rfl
      | some runtime => exact completed_nvsStep board runtime succeeds

theorem completed_after (board : Board) (labels : List BoardStep) :
    board.completed <+: (Run.after step board labels).completed := by
  induction labels generalizing board with
  | nil => exact List.prefix_rfl
  | cons label rest inductionHypothesis =>
      exact (completed_step board label).trans (inductionHypothesis (board.step label))

theorem sound_after {board : Board} (sound : board.Sound) (labels : List BoardStep) :
    (Run.after step board labels).Sound := by
  induction labels generalizing board with
  | nil => exact sound
  | cons label rest inductionHypothesis => exact inductionHypothesis (sound_step sound label)

/-- Over every sequence of requests, boots and answers of NVS a handoff is read back as it was
written, serves for one `Completed` and for no later boot, and keeps a new session from starting. -/
theorem handoff_consumed_once (first second : List BoardStep) :
    (Run.after step {} (first ++ second)).ConsumedOnce ∧
      (Run.after step {} first).completed <+: (Run.after step {} (first ++ second)).completed := by
  refine ⟨(sound_after sound_initial (first ++ second)).consumedOnce, ?_⟩
  rw [Run.after_append]
  exact completed_after _ second

end Board

end MissionBoard.Characterization
