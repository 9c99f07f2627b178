import MissionBoard.Characterization.CampaignStateMachine
import MissionBoard.Library.Run

/-!
Owns the order in which a campaign passes through its stages: a run is a sequence of calls and
reboots, its trace is what each call found and returned, and what a session has done is read off
the trace alone.
-/

namespace MissionBoard.Characterization

/-- A call of the machine -/
inductive CampaignCall where
  | startNewSession (sessionId : SessionId) (profileSeed : UInt32)
  | confirmStage (stage : AssemblyStage)
  | beginRun (rate : EncoderRate) (kind : RunKind)
  | finishRun (outcome : RunOutcome) (reason : UnsupportedReason)
  | completeStage
  | prepareM0
  | resumeM0 (handoff : M0Handoff) (resetKind : ResetKind) (rtcCookieSurvived : Bool)
  | confirmM0 (sessionId : SessionId) (literalFinRemoved : Option String)
  | fault
deriving DecidableEq

/-- What a call returns, and the machine after it; `fault` returns nothing. -/
def CampaignStateMachine.call (machine : CampaignStateMachine) :
    CampaignCall → CampaignStatus × CampaignStateMachine
  | .startNewSession sessionId profileSeed => machine.startNewSession sessionId profileSeed
  | .confirmStage stage => machine.confirmStage stage
  | .beginRun rate kind => machine.beginRun rate kind
  | .finishRun outcome reason => machine.finishRun outcome reason
  | .completeStage => machine.completeStage
  | .prepareM0 => machine.prepareM0
  | .resumeM0 handoff resetKind rtcCookieSurvived =>
      machine.resumeM0 handoff resetKind rtcCookieSurvived
  | .confirmM0 sessionId literalFinRemoved => machine.confirmM0 sessionId literalFinRemoved
  | .fault => (.ok, machine.fault)

/-- A reboot, or a call with the machine that it found and the status that it returned -/
inductive CampaignEvent where
  | reboot
  | returned (found : CampaignStateMachine) (call : CampaignCall) (status : CampaignStatus)

/-- What happens next in a run -/
inductive CampaignStep where
  | reboot
  | call (call : CampaignCall)
deriving DecidableEq

/-- The machine, and all that has happened to it -/
structure Campaign where
  machine : CampaignStateMachine := {}
  trace : List CampaignEvent := []

namespace Campaign

def step (campaign : Campaign) : CampaignStep → Campaign
  | .reboot => { machine := {}, trace := campaign.trace ++ [.reboot] }
  | .call call =>
      { machine := (campaign.machine.call call).2
        trace := campaign.trace ++
          [.returned campaign.machine call (campaign.machine.call call).1] }

/-- `prepareM0` has written this handoff. -/
def Prepares (handoff : M0Handoff) : CampaignEvent → Prop
  | .returned found .prepareM0 .ok => found.handoff = handoff
  | _ => False

instance decidablePrepares (handoff : M0Handoff) (event : CampaignEvent) :
    Decidable (Prepares handoff event) := by
  unfold Prepares
  split <;> infer_instance

/-- The only handoffs presented are those that an earlier `prepareM0` wrote. -/
def permitted (campaign : Campaign) : CampaignStep → Prop
  | .call (.resumeM0 handoff _ _) => ∃ event ∈ campaign.trace, Prepares handoff event
  | _ => True

instance decidablePermitted (campaign : Campaign) (label : CampaignStep) :
    Decidable (campaign.permitted label) := by
  unfold permitted
  split <;> infer_instance

end Campaign

/-! ### What a session has done -/

/-- What is known of the session that is under way -/
structure Session where
  /-- The identity and the seed it was started or resumed with -/
  identity : Option (SessionId × UInt32) := none
  /-- The stages that were completed since it was started or resumed, in their order -/
  completed : List AssemblyStage := []
  /-- What has happened since its stage was entered -/
  runs : List CampaignEvent := []

namespace Session

/-- The session after one more event -/
def after (session : Session) (event : CampaignEvent) : Session :=
  match event with
  | .reboot => {}
  | .returned _ (.startNewSession sessionId profileSeed) .ok =>
      { identity := some (sessionId, profileSeed) }
  | .returned _ (.resumeM0 handoff _ _) .ok =>
      { identity := some (handoff.sessionId, handoff.profileSeed) }
  | .returned found .completeStage .ok =>
      { session with completed := session.completed ++ [found.stage], runs := [] }
  | event => { session with runs := session.runs ++ [event] }

/-- The session at the end of a trace -/
def of (trace : List CampaignEvent) : Session := trace.foldl after {}

theorem of_concat (trace : List CampaignEvent) (event : CampaignEvent) :
    of (trace ++ [event]) = (of trace).after event :=
  List.foldl_concat ..

end Session

/-- A 1 kHz run of this kind was accepted. -/
def Accepts (kind : RunKind) : CampaignEvent → Prop
  | .returned found (.finishRun .accepted _) .ok =>
      found.activeRate = .hz1000 ∧ found.activeRunKind = kind
  | _ => False

/-- A 1 kHz rate check was accepted. -/
def Checked (runs : List CampaignEvent) : Prop :=
  ∃ first check second, runs = first ++ check :: second ∧ Accepts .rateCheck check

/-- A 1 kHz rate check was accepted, and later a 1 kHz full run. -/
def Qualified (runs : List CampaignEvent) : Prop :=
  ∃ first check second full third, runs = first ++ check :: second ++ full :: third ∧
    Accepts .rateCheck check ∧ Accepts .full full

/-- A session with this identity has completed its three stages with fin in one boot, and
`prepareM0` has written its handoff. -/
def Carried (trace : List CampaignEvent) (handoff : M0Handoff) : Prop :=
  ∃ first event second, trace = first ++ event :: second ∧ Campaign.Prepares handoff event ∧
    (Session.of first).identity = some (handoff.sessionId, handoff.profileSeed) ∧
    (Session.of first).completed = [.fv, .fhPositive, .fhNegative]

/-- A handoff was resumed after a cold power cycle, and no reboot has followed. -/
def Resumed (trace : List CampaignEvent) (sessionId : SessionId) : Prop :=
  ∃ first found handoff second,
    trace = first ++ .returned found (.resumeM0 handoff .powerOn false) .ok :: second ∧
      .reboot ∉ second ∧ handoff.sessionId = sessionId ∧ Carried first handoff

/-- After that the operator has confirmed the session and the removal of the fin. -/
def Confirmed (trace : List CampaignEvent) (sessionId : SessionId) : Prop :=
  ∃ first found second,
    trace = first ++ .returned found (.confirmM0 sessionId (some "FIN_REMOVED")) .ok :: second ∧
      .reboot ∉ second ∧ Resumed first sessionId

namespace CampaignStateMachine

/-! ### What a call can do -/

/-- Everything that a call of a machine can return and do; a machine that is ready has a stage. -/
inductive Transition (machine : CampaignStateMachine) :
    CampaignCall → CampaignStatus → CampaignStateMachine → Prop where
  | rejected {call : CampaignCall} {status : CampaignStatus} (refused : status ≠ .ok) :
      Transition machine call status machine
  | notCounted (reason : UnsupportedReason) (state : machine.state = .running)
      (kind : machine.activeRunKind = .rateCheck) (rate : machine.activeRate = .hz1000) :
      Transition machine (.finishRun .unsupported reason) .mandatoryRateUnsupported machine.endRun
  | started {sessionId : SessionId} {profileSeed : UInt32} (state : machine.state = .idle)
      (valid : validSessionId sessionId = true) (seeded : profileSeed ≠ 0) :
      Transition machine (.startNewSession sessionId profileSeed) .ok
        { { machine with
            sessionId, profileSeed
            completedStageMask := 0
            stage := .fv }.resetStageRuns with
          state := .awaitingStageConfirmation }
  | confirmed (state : machine.state = .awaitingStageConfirmation) (finned : machine.stage ≠ .m0) :
      Transition machine (.confirmStage machine.stage) .ok { machine with state := .ready }
  | begun {rate : EncoderRate} {kind : RunKind} (state : machine.state = .ready)
      (qualified : kind = .full → rate = .hz1000 ∧ machine.rateResults .hz1000 = .accepted) :
      Transition machine (.beginRun rate kind) .ok
        { machine with activeRate := rate, activeRunKind := kind, state := .running }
  | counted {reason : UnsupportedReason} (state : machine.state = .running)
      (kind : machine.activeRunKind = .rateCheck) :
      Transition machine (.finishRun .accepted reason) .ok
        { machine with
          rateResults := Function.update machine.rateResults machine.activeRate .accepted }.endRun
  | unsupported {reason : UnsupportedReason} (state : machine.state = .running)
      (rate : machine.activeRate ≠ .hz1000) :
      Transition machine (.finishRun .unsupported reason) .ok
        { machine with
          rateResults := Function.update machine.rateResults machine.activeRate .unsupported }.endRun
  | finished {reason : UnsupportedReason} (state : machine.state = .running)
      (kind : machine.activeRunKind = .full) :
      Transition machine (.finishRun .accepted reason) .ok
        { machine with
          fullCompleted := Function.update machine.fullCompleted machine.activeRate true }.endRun
  | ended {outcome : RunOutcome} {reason : UnsupportedReason} (state : machine.state = .running) :
      Transition machine (.finishRun outcome reason) .ok machine.endRun
  | passed {next : AssemblyStage} (state : machine.state = .ready)
      (full : machine.fullCompleted .hz1000 = true)
      (order : (machine.stage = .fv ∧ next = .fhPositive) ∨
        (machine.stage = .fhPositive ∧ next = .fhNegative)) :
      Transition machine .completeStage .ok
        { { machine with
            completedStageMask := machine.completedStageMask ||| stageBit machine.stage
            stage := next }.resetStageRuns with
          state := .awaitingStageConfirmation }
  | left {next : CampaignState} (state : machine.state = .ready)
      (full : machine.fullCompleted .hz1000 = true)
      (order : (machine.stage = .fhNegative ∧ next = .awaitingM0Handoff) ∨
        (machine.stage = .m0 ∧ next = .completed)) :
      Transition machine .completeStage .ok
        { machine with
          completedStageMask := machine.completedStageMask ||| stageBit machine.stage
          state := next }
  | prepared (state : machine.state = .awaitingM0Handoff) (stage : machine.stage = .fhNegative) :
      Transition machine .prepareM0 .ok { machine with state := .powerCycleRequired }
  | resumed {handoff : M0Handoff} (state : machine.state = .idle)
      (valid : validateHandoff handoff = true) :
      Transition machine (.resumeM0 handoff .powerOn false) .ok
        { { machine with
            sessionId := handoff.sessionId
            profileSeed := handoff.profileSeed
            completedStageMask := handoff.completedStageMask
            stage := .m0 }.resetStageRuns with
          state := .awaitingM0Confirmation }
  | removed (state : machine.state = .awaitingM0Confirmation) :
      Transition machine (.confirmM0 machine.sessionId (some "FIN_REMOVED")) .ok
        { machine with state := .ready }
  | faulted : Transition machine .fault .ok machine.fault

theorem transition_finishRun (machine : CampaignStateMachine) (outcome : RunOutcome)
    (reason : UnsupportedReason) :
    Transition machine (.finishRun outcome reason) (machine.finishRun outcome reason).1
      (machine.finishRun outcome reason).2 := by
  unfold finishRun
  dsimp only
  split
  · exact .rejected nofun
  · rename_i state
    have running : machine.state = .running := Decidable.not_not.mp state
    split
    · rename_i kind
      exact .counted running kind
    · rename_i kind
      split
      · rename_i rate
        exact .notCounted reason running kind rate
      · rename_i rate
        split
        · exact .rejected nofun
        · exact .unsupported running rate
    · rename_i kind
      exact .finished running kind
    · exact .ended running

theorem transition_beginRun (machine : CampaignStateMachine) (rate : EncoderRate) (kind : RunKind) :
    Transition machine (.beginRun rate kind) (machine.beginRun rate kind).1
      (machine.beginRun rate kind).2 := by
  unfold beginRun
  dsimp only
  split
  · exact .rejected nofun
  · rename_i state
    have ready : machine.state = .ready := Decidable.not_not.mp state
    split
    · exact .rejected nofun
    · split
      · split
        · exact .rejected nofun
        · rename_i notFull
          exact .begun ready fun full => absurd full notFull
      · rename_i rate
        obtain rfl : _ = EncoderRate.hz1000 := Decidable.not_not.mp rate
        split
        · exact .rejected nofun
        · split
          · exact .rejected nofun
          · rename_i qualified
            refine .begun ready fun full => ⟨rfl, ?_⟩
            by_contra pending
            exact qualified ⟨full, pending⟩

theorem transition_completeStage {machine : CampaignStateMachine}
    (known : machine.state = .ready → machine.stage ≠ .none) :
    Transition machine .completeStage machine.completeStage.1 machine.completeStage.2 := by
  unfold completeStage
  split
  · exact .rejected nofun
  · rename_i complete
    have ready : machine.state = .ready := by
      by_contra other
      exact complete (Or.inl other)
    have full : machine.fullCompleted .hz1000 = true := by
      by_contra missing
      rw [Bool.not_eq_true] at missing
      exact complete (Or.inr (Or.inr (by rw [missing]; rfl)))
    dsimp only
    split
    · rename_i stage
      exact .passed ready full (Or.inl ⟨stage, rfl⟩)
    · rename_i stage
      exact .passed ready full (Or.inr ⟨stage, rfl⟩)
    · rename_i stage
      exact .left ready full (Or.inl ⟨stage, rfl⟩)
    · rename_i stage
      exact .left ready full (Or.inr ⟨stage, rfl⟩)
    · rename_i stage
      exact absurd stage (known ready)

theorem transition_call {machine : CampaignStateMachine}
    (known : machine.state = .ready → machine.stage ≠ .none) (call : CampaignCall) :
    Transition machine call (machine.call call).1 (machine.call call).2 := by
  cases call with
  | startNewSession sessionId profileSeed =>
      simp only [call, startNewSession]
      split
      · exact .rejected nofun
      · rename_i state
        split
        · exact .rejected nofun
        · rename_i valid
          rw [not_or, Bool.not_eq_true, Bool.not_eq_false'] at valid
          exact .started (Decidable.not_not.mp state) valid.1 valid.2
  | confirmStage stage =>
      simp only [call, confirmStage]
      split
      · exact .rejected nofun
      · rename_i state
        split
        · exact .rejected (by split <;> exact nofun)
        · rename_i same
          rw [not_or, Decidable.not_not] at same
          obtain ⟨rfl, finned⟩ := same
          exact .confirmed (Decidable.not_not.mp state) finned
  | beginRun rate kind => exact transition_beginRun machine rate kind
  | finishRun outcome reason => exact transition_finishRun machine outcome reason
  | completeStage => exact transition_completeStage known
  | prepareM0 =>
      simp only [call, prepareM0]
      split
      · exact .rejected nofun
      · rename_i waits
        rw [not_or, Decidable.not_not, Decidable.not_not] at waits
        exact .prepared waits.1 waits.2
  | resumeM0 handoff resetKind rtcCookieSurvived =>
      simp only [call, resumeM0]
      split
      · exact .rejected nofun
      · rename_i state
        split
        · exact .rejected nofun
        · rename_i valid
          split
          · exact .rejected nofun
          · rename_i kind
            obtain rfl : resetKind = .powerOn := Decidable.not_not.mp kind
            split
            · exact .rejected nofun
            · rename_i cookie
              obtain rfl : rtcCookieSurvived = false := by simpa using cookie
              exact .resumed (Decidable.not_not.mp state) (by simpa using valid)
  | confirmM0 sessionId literal =>
      simp only [call, confirmM0]
      split
      · exact .rejected nofun
      · rename_i state
        split
        · exact .rejected nofun
        · rename_i same
          obtain rfl := Decidable.not_not.mp same
          split
          · exact .rejected nofun
          · rename_i literal
            obtain rfl := Decidable.not_not.mp literal
            exact .removed (Decidable.not_not.mp state)
  | fault => exact .faulted

end CampaignStateMachine

/-! ### The machine follows the trace -/

/-- The stages that precede a stage with fin -/
def AssemblyStage.before : AssemblyStage → List AssemblyStage
  | .fhPositive => [.fv]
  | .fhNegative => [.fv, .fhPositive]
  | .none | .fv | .m0 => []

/-- The runs of a stage are under way, or about to begin. -/
def CampaignState.inStage : CampaignState → Bool
  | .awaitingStageConfirmation | .ready | .running => true
  | _ => false

/-- The results of the stage are those of its runs. -/
structure RunsHold (machine : CampaignStateMachine) (runs : List CampaignEvent) : Prop where
  checked : machine.rateResults .hz1000 = .accepted → Checked runs
  full : machine.fullCompleted .hz1000 = true → Qualified runs
  running : machine.state = .running → machine.activeRunKind = .full →
    machine.activeRate = .hz1000 ∧ machine.rateResults .hz1000 = .accepted

structure Tracks (machine : CampaignStateMachine) (trace : List CampaignEvent) : Prop where
  idle : machine.state = .idle → machine.stage = .none
  known : machine.state.inStage = true → machine.stage ≠ .none
  awaiting : machine.state = .awaitingM0Confirmation → machine.stage = .m0
  finned : machine.state.inStage = true → machine.stage ≠ .m0 →
    (Session.of trace).identity = some (machine.sessionId, machine.profileSeed) ∧
      (Session.of trace).completed = machine.stage.before
  handed : machine.state = .awaitingM0Handoff →
    (Session.of trace).identity = some (machine.sessionId, machine.profileSeed) ∧
      (Session.of trace).completed = [.fv, .fhPositive, .fhNegative]
  resumed : machine.stage = .m0 → Resumed trace machine.sessionId
  confirmed : machine.state = .ready ∨ machine.state = .running → machine.stage = .m0 →
    Confirmed trace machine.sessionId
  runs : machine.state.inStage = true ∨ machine.state = .awaitingM0Confirmation →
    RunsHold machine (Session.of trace).runs

theorem Resumed.concat {trace : List CampaignEvent} {sessionId : SessionId}
    (resumed : Resumed trace sessionId) {event : CampaignEvent} (boot : event ≠ .reboot) :
    Resumed (trace ++ [event]) sessionId := by
  obtain ⟨first, found, handoff, second, rfl, running, same, carried⟩ := resumed
  refine ⟨first, found, handoff, second ++ [event], by simp, ?_, same, carried⟩
  rw [List.mem_append, List.mem_singleton, not_or]
  exact ⟨running, boot.symm⟩

theorem Confirmed.concat {trace : List CampaignEvent} {sessionId : SessionId}
    (confirmed : Confirmed trace sessionId) {event : CampaignEvent} (boot : event ≠ .reboot) :
    Confirmed (trace ++ [event]) sessionId := by
  obtain ⟨first, found, second, rfl, running, resumed⟩ := confirmed
  refine ⟨first, found, second ++ [event], by simp, ?_, resumed⟩
  rw [List.mem_append, List.mem_singleton, not_or]
  exact ⟨running, boot.symm⟩

theorem Carried.concat {trace : List CampaignEvent} {handoff : M0Handoff}
    (carried : Carried trace handoff) (event : CampaignEvent) :
    Carried (trace ++ [event]) handoff := by
  obtain ⟨first, prepared, second, rfl, prepares, session⟩ := carried
  exact ⟨first, prepared, second ++ [event], by simp, prepares, session⟩

theorem Checked.concat {runs : List CampaignEvent} (checked : Checked runs) (event : CampaignEvent) :
    Checked (runs ++ [event]) := by
  obtain ⟨first, check, second, rfl, accepts⟩ := checked
  exact ⟨first, check, second ++ [event], by simp, accepts⟩

theorem Qualified.concat {runs : List CampaignEvent} (qualified : Qualified runs)
    (event : CampaignEvent) : Qualified (runs ++ [event]) := by
  obtain ⟨first, check, second, full, third, rfl, accepts⟩ := qualified
  exact ⟨first, check, second, full, third ++ [event], by simp, accepts⟩

/-- One more event that leaves the results and the active run alone. -/
theorem RunsHold.concat {machine next : CampaignStateMachine} {runs : List CampaignEvent}
    (holds : RunsHold machine runs) (event : CampaignEvent)
    (results : next.rateResults .hz1000 = machine.rateResults .hz1000)
    (full : next.fullCompleted = machine.fullCompleted)
    (running : next.state = .running → next.activeRunKind = .full →
      next.activeRate = .hz1000 ∧ next.rateResults .hz1000 = .accepted) :
    RunsHold next (runs ++ [event]) := by
  refine ⟨fun accepted => ?_, fun completed => ?_, running⟩
  · rw [results] at accepted
    exact (holds.checked accepted).concat event
  · rw [full] at completed
    exact (holds.full completed).concat event

theorem runsHold_fresh {machine : CampaignStateMachine} (fresh : machine.resetStageRuns = machine)
    (waits : machine.state ≠ .running) : RunsHold machine [] := by
  rw [← fresh]
  exact ⟨nofun, nofun, fun running => absurd running waits⟩

namespace Session

/-- A call that is rejected, and every call but the three that enter a stage, is one of its runs. -/
theorem after_of_refused (session : Session) (found : CampaignStateMachine) (call : CampaignCall)
    {status : CampaignStatus} (refused : status ≠ .ok) :
    session.after (.returned found call status) =
      { session with runs := session.runs ++ [.returned found call status] } := by
  cases status with
  | ok => exact absurd rfl refused
  | _ => cases call <;> rfl

end Session

/-- A call that keeps the machine in its stage. -/
theorem Tracks.stay {machine next : CampaignStateMachine} {trace : List CampaignEvent}
    {event : CampaignEvent} (tracks : Tracks machine trace)
    (recorded : (Session.of trace).after event =
      { Session.of trace with runs := (Session.of trace).runs ++ [event] })
    (boot : event ≠ .reboot) (stage : next.stage = machine.stage)
    (sessionId : next.sessionId = machine.sessionId)
    (profileSeed : next.profileSeed = machine.profileSeed)
    (within : machine.state.inStage = true) (still : next.state.inStage = true)
    (armed : next.state = .ready ∨ next.state = .running → next.stage = .m0 →
      Confirmed (trace ++ [event]) next.sessionId)
    (runs : RunsHold next ((Session.of trace).runs ++ [event])) :
    Tracks next (trace ++ [event]) := by
  have other : ∀ state : CampaignState, state.inStage = false → next.state ≠ state := by
    intro state outside same
    rw [same, outside] at still
    cases still
  refine ⟨fun idle => absurd idle (other _ rfl), fun _ => ?_,
    fun awaiting => absurd awaiting (other _ rfl), fun _ finned => ?_,
    fun handed => absurd handed (other _ rfl), fun m0 => ?_, armed, fun _ => ?_⟩
  · rw [stage]
    exact tracks.known within
  · rw [Session.of_concat, recorded, sessionId, profileSeed, stage]
    exact tracks.finned within (stage ▸ finned)
  · rw [sessionId]
    exact (tracks.resumed (stage ▸ m0)).concat boot
  · rw [Session.of_concat, recorded]
    exact runs

theorem Tracks.rejected {machine : CampaignStateMachine} {trace : List CampaignEvent}
    (tracks : Tracks machine trace) (call : CampaignCall) {status : CampaignStatus}
    (refused : status ≠ .ok) : Tracks machine (trace ++ [.returned machine call status]) := by
  have boot : CampaignEvent.returned machine call status ≠ .reboot := nofun
  have recorded := (Session.of_concat trace (.returned machine call status)).trans
    ((Session.of trace).after_of_refused machine call refused)
  refine ⟨tracks.idle, tracks.known, tracks.awaiting, ?_, ?_, fun m0 => (tracks.resumed m0).concat boot,
    fun armed m0 => (tracks.confirmed armed m0).concat boot, fun active => ?_⟩
  · rw [recorded]
    exact tracks.finned
  · rw [recorded]
    exact tracks.handed
  · rw [recorded]
    have holds := tracks.runs active
    exact holds.concat _ rfl rfl holds.running

/-- A run ends, and the machine is ready again. -/
theorem Tracks.endRun {machine next : CampaignStateMachine} {trace : List CampaignEvent}
    {event : CampaignEvent} (tracks : Tracks machine trace) (state : machine.state = .running)
    (recorded : (Session.of trace).after event =
      { Session.of trace with runs := (Session.of trace).runs ++ [event] })
    (boot : event ≠ .reboot) (stage : next.stage = machine.stage)
    (sessionId : next.sessionId = machine.sessionId)
    (profileSeed : next.profileSeed = machine.profileSeed) (ready : next.state = .ready)
    (runs : RunsHold next ((Session.of trace).runs ++ [event])) :
    Tracks next (trace ++ [event]) := by
  refine tracks.stay recorded boot stage sessionId profileSeed (by rw [state]; rfl)
    (by rw [ready]; rfl) (fun _ m0 => ?_) runs
  rw [sessionId]
  exact (tracks.confirmed (Or.inr state) (stage ▸ m0)).concat boot

theorem tracks_finishRun {machine next : CampaignStateMachine} {trace : List CampaignEvent}
    {outcome : RunOutcome} {reason : UnsupportedReason} {status : CampaignStatus}
    (tracks : Tracks machine trace)
    (transition : machine.Transition (.finishRun outcome reason) status next) :
    Tracks next (trace ++ [.returned machine (.finishRun outcome reason) status]) := by
  cases transition with
  | rejected refused => exact tracks.rejected _ refused
  | notCounted reason state kind rate =>
      have holds := tracks.runs (Or.inl (by rw [state]; rfl))
      exact tracks.endRun state rfl nofun rfl rfl rfl rfl (holds.concat _ rfl rfl nofun)
  | counted state kind =>
      have holds := tracks.runs (Or.inl (by rw [state]; rfl))
      refine tracks.endRun state rfl nofun rfl rfl rfl rfl ⟨fun accepted => ?_, fun full => ?_, nofun⟩
      · by_cases rate : machine.activeRate = .hz1000
        · exact ⟨(Session.of trace).runs, _, [], rfl, rate, kind⟩
        · have same : machine.rateResults .hz1000 = .accepted := by
            rw [← accepted]
            exact (Function.update_of_ne (Ne.symm rate) _ _).symm
          exact (holds.checked same).concat _
      · exact (holds.full full).concat _
  | unsupported state rate =>
      have holds := tracks.runs (Or.inl (by rw [state]; rfl))
      have same : Function.update machine.rateResults machine.activeRate .unsupported .hz1000 =
          machine.rateResults .hz1000 := Function.update_of_ne (Ne.symm rate) _ _
      exact tracks.endRun state rfl nofun rfl rfl rfl rfl (holds.concat _ same rfl nofun)
  | finished state kind =>
      have holds := tracks.runs (Or.inl (by rw [state]; rfl))
      obtain ⟨rate, accepted⟩ := holds.running state kind
      have checked := holds.checked accepted
      refine tracks.endRun state rfl nofun rfl rfl rfl rfl
        ⟨fun _ => checked.concat _, fun _ => ?_, nofun⟩
      obtain ⟨first, check, second, runs, accepts⟩ := checked
      rw [runs]
      exact ⟨first, check, second, _, [], rfl, accepts, rate, kind⟩
  | ended state =>
      have holds := tracks.runs (Or.inl (by rw [state]; rfl))
      exact tracks.endRun state rfl nofun rfl rfl rfl rfl (holds.concat _ rfl rfl nofun)

theorem tracks_completeStage {machine next : CampaignStateMachine} {trace : List CampaignEvent}
    {status : CampaignStatus} (tracks : Tracks machine trace)
    (transition : machine.Transition .completeStage status next) :
    Tracks next (trace ++ [.returned machine .completeStage status]) := by
  have recorded := Session.of_concat trace (.returned machine .completeStage .ok)
  cases transition with
  | rejected refused => exact tracks.rejected _ refused
  | @passed entered state full order =>
      have finned : machine.stage ≠ .m0 := by
        rcases order with ⟨stage, -⟩ | ⟨stage, -⟩ <;> rw [stage] <;> decide
      have reached : entered ≠ .none ∧ entered ≠ .m0 ∧
          machine.stage.before ++ [machine.stage] = entered.before := by
        rcases order with ⟨stage, rfl⟩ | ⟨stage, rfl⟩ <;> rw [stage] <;> decide
      obtain ⟨identity, completed⟩ := tracks.finned (by rw [state]; rfl) finned
      refine ⟨nofun, fun _ => reached.1, nofun, fun _ _ => ?_, nofun,
        fun m0 => absurd m0 reached.2.1, fun armed => ?_, fun _ => ?_⟩
      · rw [recorded]
        refine ⟨identity, ?_⟩
        show (Session.of trace).completed ++ [machine.stage] = entered.before
        rw [completed, reached.2.2]
      · rcases armed with armed | armed <;> cases armed
      · rw [recorded]
        exact runsHold_fresh rfl nofun
  | @left left state full order =>
      have outside : left.inStage = false ∧ left ≠ .idle ∧ left ≠ .awaitingM0Confirmation := by
        rcases order with ⟨-, rfl⟩ | ⟨-, rfl⟩ <;> decide
      have armed : ¬ (left = .ready ∨ left = .running) := by
        rcases order with ⟨-, rfl⟩ | ⟨-, rfl⟩ <;> decide
      refine ⟨fun idle => absurd idle outside.2.1,
        fun within => absurd (outside.1.symm.trans within) Bool.false_ne_true,
        fun awaiting => absurd awaiting outside.2.2,
        fun within => absurd (outside.1.symm.trans within) Bool.false_ne_true, fun handed => ?_,
        fun m0 => (tracks.resumed m0).concat nofun, fun still => absurd still armed, fun active => ?_⟩
      · rcases order with ⟨stage, -⟩ | ⟨-, rfl⟩
        · obtain ⟨identity, completed⟩ := tracks.finned (by rw [state]; rfl) (by rw [stage]; decide)
          rw [recorded]
          refine ⟨identity, ?_⟩
          show (Session.of trace).completed ++ [machine.stage] = _
          rw [completed, stage]
          rfl
        · cases handed
      · rcases active with within | awaiting
        · exact absurd (outside.1.symm.trans within) Bool.false_ne_true
        · exact absurd awaiting outside.2.2

/-- What the machine knows is what the trace says, after every call. -/
theorem tracks_transition {machine next : CampaignStateMachine} {trace : List CampaignEvent}
    {call : CampaignCall} {status : CampaignStatus} (tracks : Tracks machine trace)
    (carried : ∀ handoff resetKind survived, call = .resumeM0 handoff resetKind survived →
      Carried trace handoff)
    (transition : machine.Transition call status next) :
    Tracks next (trace ++ [.returned machine call status]) := by
  have recorded := Session.of_concat trace (.returned machine call status)
  cases transition with
  | rejected refused => exact tracks.rejected _ refused
  | notCounted reason state kind rate =>
      exact tracks_finishRun tracks (.notCounted reason state kind rate)
  | counted state kind => exact tracks_finishRun tracks (.counted state kind)
  | unsupported state rate => exact tracks_finishRun tracks (.unsupported state rate)
  | finished state kind => exact tracks_finishRun tracks (.finished state kind)
  | ended state => exact tracks_finishRun tracks (.ended state)
  | passed state full order => exact tracks_completeStage tracks (.passed state full order)
  | left state full order => exact tracks_completeStage tracks (.left state full order)
  | started state valid seeded =>
      refine ⟨nofun, fun _ => nofun, nofun, fun _ _ => ?_, nofun, nofun, fun _ => nofun, fun _ => ?_⟩
      · rw [recorded]
        exact ⟨rfl, rfl⟩
      · rw [recorded]
        exact runsHold_fresh rfl nofun
  | confirmed state finned =>
      have holds := tracks.runs (Or.inl (by rw [state]; rfl))
      exact tracks.stay rfl nofun rfl rfl rfl (by rw [state]; rfl) rfl
        (fun _ m0 => absurd m0 finned) (holds.concat _ rfl rfl nofun)
  | begun state qualified =>
      have holds := tracks.runs (Or.inl (by rw [state]; rfl))
      exact tracks.stay rfl nofun rfl rfl rfl (by rw [state]; rfl) rfl
        (fun _ m0 => (tracks.confirmed (Or.inl state) m0).concat nofun)
        (holds.concat _ rfl rfl fun _ full => qualified full)
  | prepared state stage =>
      refine ⟨nofun, nofun, nofun, nofun, nofun, fun m0 => ?_, fun still => ?_, fun active => ?_⟩
      · exact (tracks.resumed m0).concat nofun
      · rcases still with still | still <;> cases still
      · rcases active with active | active <;> cases active
  | @resumed handoff state valid =>
      have carries := carried handoff .powerOn false rfl
      refine ⟨nofun, nofun, fun _ => rfl, nofun, nofun, fun _ => ?_, fun still => ?_, fun _ => ?_⟩
      · exact ⟨trace, machine, handoff, [], rfl, List.not_mem_nil, rfl, carries⟩
      · rcases still with still | still <;> cases still
      · rw [recorded]
        exact runsHold_fresh rfl nofun
  | removed state =>
      have m0 := tracks.awaiting state
      have resumed := tracks.resumed m0
      have holds := tracks.runs (Or.inr state)
      refine ⟨nofun, fun _ => ?_, nofun, fun _ finned => absurd m0 finned, nofun,
        fun _ => resumed.concat nofun, fun _ _ => ?_, fun _ => ?_⟩
      · show machine.stage ≠ .none
        rw [m0]
        decide
      · exact ⟨trace, machine, [], rfl, List.not_mem_nil, resumed⟩
      · rw [recorded]
        exact holds.concat _ rfl rfl nofun
  | faulted =>
      refine ⟨nofun, nofun, nofun, nofun, nofun, fun m0 => ?_, fun still => ?_, fun active => ?_⟩
      · exact (tracks.resumed m0).concat nofun
      · rcases still with still | still <;> cases still
      · rcases active with active | active <;> cases active

theorem tracks_reboot (trace : List CampaignEvent) : Tracks {} (trace ++ [.reboot]) := by
  refine ⟨fun _ => rfl, nofun, nofun, nofun, nofun, nofun, fun still => ?_, fun active => ?_⟩
  · rcases still with still | still <;> cases still
  · rcases active with active | active <;> cases active

/-- A stage is completed only after its runs, and a call that is rejected changes nothing, but for
the 1 kHz rate check that ends as unsupported: the machine is ready again and nothing is counted. -/
def Ordered (first : List CampaignEvent) : CampaignEvent → Prop
  | .reboot => True
  | .returned found call status =>
      (call = .completeStage → status = .ok → Qualified (Session.of first).runs) ∧
        (status ≠ .ok → (found.call call).2 = found ∨
          ∃ reason, call = .finishRun .unsupported reason ∧ found.activeRunKind = .rateCheck ∧
            found.activeRate = .hz1000 ∧ (found.call call).2 = found.endRun)

theorem ordered_transition {machine next : CampaignStateMachine} {trace : List CampaignEvent}
    {call : CampaignCall} {status : CampaignStatus} (tracks : Tracks machine trace)
    (transition : machine.Transition call status next) :
    (call = .completeStage → status = .ok → Qualified (Session.of trace).runs) ∧
      (status ≠ .ok → next = machine ∨
        ∃ reason, call = .finishRun .unsupported reason ∧ machine.activeRunKind = .rateCheck ∧
          machine.activeRate = .hz1000 ∧ next = machine.endRun) := by
  cases transition with
  | rejected refused => exact ⟨fun _ ok => absurd ok refused, fun _ => Or.inl rfl⟩
  | notCounted reason state kind rate =>
      exact ⟨fun _ => nofun, fun _ => Or.inr ⟨reason, rfl, kind, rate, rfl⟩⟩
  | passed state full order | left state full order =>
      refine ⟨fun _ _ => ?_, fun refused => absurd rfl refused⟩
      exact (tracks.runs (Or.inl (by rw [state]; rfl))).full full
  | _ => exact ⟨nofun, fun refused => absurd rfl refused⟩

theorem carried_transition {machine next : CampaignStateMachine} {trace : List CampaignEvent}
    {call : CampaignCall} {status : CampaignStatus} {handoff : M0Handoff}
    (tracks : Tracks machine trace) (transition : machine.Transition call status next)
    (prepares : Campaign.Prepares handoff (.returned machine call status)) :
    Carried (trace ++ [.returned machine call status]) handoff := by
  cases transition with
  | rejected refused =>
      unfold Campaign.Prepares at prepares
      split at prepares
      · rename_i same
        exact absurd (CampaignEvent.returned.inj same).2.2 refused
      · exact prepares.elim
  | prepared state stage =>
      obtain ⟨identity, completed⟩ := tracks.handed state
      obtain rfl : machine.handoff = handoff := prepares
      exact ⟨trace, _, [], rfl, rfl, identity, completed⟩
  | _ => exact prepares.elim

/-- What holds in every state of a campaign -/
structure Campaign.Sound (campaign : Campaign) : Prop where
  tracks : Tracks campaign.machine campaign.trace
  carried : ∀ handoff, ∀ event ∈ campaign.trace, Campaign.Prepares handoff event →
    Carried campaign.trace handoff
  ordered : Trace.Throughout Ordered campaign.trace

theorem Campaign.sound_step {campaign : Campaign} {label : CampaignStep} (sound : campaign.Sound)
    (permitted : campaign.permitted label) : (campaign.step label).Sound := by
  obtain ⟨tracks, carried, ordered⟩ := sound
  cases label with
  | reboot =>
      refine ⟨tracks_reboot _, fun handoff event within prepares => ?_,
        Trace.throughout_concat ordered trivial⟩
      rcases List.mem_append.mp within with before | last
      · exact (carried handoff event before prepares).concat _
      · obtain rfl := List.mem_singleton.mp last
        exact prepares.elim
  | call call =>
      have known : campaign.machine.state = .ready → campaign.machine.stage ≠ .none :=
        fun ready => tracks.known (by rw [ready]; rfl)
      have transition := CampaignStateMachine.transition_call known call
      refine ⟨tracks_transition tracks ?_ transition, fun handoff event within prepares => ?_,
        Trace.throughout_concat ordered (ordered_transition tracks transition)⟩
      · rintro handoff resetKind survived rfl
        obtain ⟨event, within, prepares⟩ := permitted
        exact carried handoff event within prepares
      · rcases List.mem_append.mp within with before | last
        · exact (carried handoff event before prepares).concat _
        · obtain rfl := List.mem_singleton.mp last
          exact carried_transition tracks transition prepares

theorem Campaign.sound_initial : ({} : Campaign).Sound := by
  refine ⟨⟨fun _ => rfl, nofun, nofun, nofun, nofun, nofun, fun still => ?_, fun active => ?_⟩,
    fun _ _ within => absurd within List.not_mem_nil, Trace.throughout_nil _⟩
  · rcases still with still | still <;> cases still
  · rcases active with active | active <;> cases active

/-- In every campaign the stages come in their order, each completed only after its runs; M0 is
reached only with a handoff that a session wrote after its three stages, and armed only after a cold
power cycle and the confirmation of the operator. -/
theorem Campaign.stages_in_order {labels : List CampaignStep} {campaign : Campaign}
    (reached : campaign = Run.after Campaign.step {} labels)
    (along : Run.Along Campaign.step Campaign.permitted {} labels) :
    Trace.Throughout Ordered campaign.trace ∧
      (campaign.machine.stage = .m0 → Resumed campaign.trace campaign.machine.sessionId) ∧
      (campaign.machine.stage = .m0 → campaign.machine.canArmMotor = true →
        Confirmed campaign.trace campaign.machine.sessionId) ∧
      (campaign.machine.state ≠ .ready → campaign.machine.canArmMotor = false) := by
  subst reached
  obtain ⟨tracks, -, ordered⟩ :=
    Run.invariant_after (fun _ _ => Campaign.sound_step) Campaign.sound_initial along
  refine ⟨ordered, tracks.resumed, fun m0 arms => ?_, fun notReady => ?_⟩
  · rw [CampaignStateMachine.canArmMotor, Bool.and_eq_true, decide_eq_true_eq] at arms
    exact tracks.confirmed (Or.inl arms.1) m0
  · rw [CampaignStateMachine.canArmMotor, decide_eq_false notReady, Bool.false_and]

/-- The runs of one stage -/
def stageRuns : List CampaignStep :=
  [.call (.beginRun .hz1000 .rateCheck), .call (.finishRun .accepted .none),
    .call (.beginRun .hz1000 .full), .call (.finishRun .accepted .none), .call .completeStage]

/-- A session up to the reboot before its last stage, and its handoff -/
def finnedStages : List CampaignStep :=
  [.call (.startNewSession (Vector.ofFn fun place => if place.val = 0 then 0x41 else 0) 1),
      .call (.confirmStage .fv)] ++
    stageRuns ++ [.call (.confirmStage .fhPositive)] ++ stageRuns ++
    [.call (.confirmStage .fhNegative)] ++ stageRuns ++ [.call .prepareM0]

def writtenHandoff : M0Handoff := (Run.after Campaign.step {} finnedStages).machine.handoff

/-- The whole campaign, up to the confirmation -/
def coldSteps : List CampaignStep :=
  finnedStages ++ [.reboot, .call (.resumeM0 writtenHandoff .powerOn false),
    .call (.confirmM0 writtenHandoff.sessionId (some "FIN_REMOVED"))]

def coldCampaign : Campaign := Run.after Campaign.step {} coldSteps

theorem Campaign.stages_in_order_m0 :
    coldCampaign.machine.canArmMotor = true ∧
      Confirmed coldCampaign.trace coldCampaign.machine.sessionId := by
  have arms : coldCampaign.machine.canArmMotor = true := by decide +kernel
  have m0 : coldCampaign.machine.stage = .m0 := by decide +kernel
  have along : Run.Along Campaign.step Campaign.permitted {} coldSteps := by decide +kernel
  have ordered := @Campaign.stages_in_order coldSteps coldCampaign rfl along
  exact ⟨arms, ordered.2.2.1 m0 arms⟩

end MissionBoard.Characterization
