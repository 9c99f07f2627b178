import MissionBoard.Flight.Epoch
import MissionBoard.Flight.ResetControl
import MissionBoard.Mission.CommandTable

/-!
Owns the discipline of the overtravel latch over the three components that share
it: the guard fed by fin samples, the command executor, and the mission state
machine. A run interleaves their calls in any order; the command context, the
finished results and the restored checkpoints are arbitrary.
-/

namespace MissionBoard.Flight

open Protocol Mission Control MissionBoard.Runtime

/-- The components that share the overtravel latch. -/
structure OvertravelSystem where
  guard : FinOvertravelGuard := {}
  executor : CommandExecutor := {}
  machine : MissionStateMachine := {}

/-- One call of a component. -/
inductive OvertravelCall where
  | observe (angleRad : Double) (validSample : Bool)
  | begin (request : GenericCommandRequest) (context : CommandContext)
  | finish (transactionId : UInt8) (phase : CommandPhase) (reason : CommandReason)
      (detail : UInt32)
  | actuatorEmergency (transactionId : UInt8) (state : MissionState)
  | operate (operation : Operation)

namespace OvertravelCall

/-- The sample a call observes. -/
def sample : OvertravelCall → Option (Double × Bool)
  | .observe angleRad validSample => some (angleRad, validSample)
  | _ => none

end OvertravelCall

/-- The last sample a history observed. -/
def latestSample : List OvertravelCall → Option (Double × Bool)
  | [] => none
  | call :: rest => (latestSample rest).or call.sample

theorem latestSample_concat (history : List OvertravelCall) (call : OvertravelCall) :
    latestSample (history ++ [call]) = call.sample.or (latestSample history) := by
  induction history with
  | nil => simp [latestSample]
  | cons first rest inductionHypothesis =>
      rw [List.cons_append, latestSample, inductionHypothesis, latestSample, Option.or_assoc]

namespace OvertravelSystem

/-- The system a call leaves. -/
def step (system : OvertravelSystem) : OvertravelCall → OvertravelSystem
  | .observe angleRad validSample =>
      { system with guard := system.guard.observe angleRad validSample }
  | .begin request context =>
      let next := (system.executor.begin system.guard request context).2
      { system with executor := next.1, guard := next.2 }
  | .finish transactionId phase reason detail =>
      let next := (system.executor.finish system.guard transactionId phase reason detail).2
      { system with executor := next.1, guard := next.2 }
  | .actuatorEmergency transactionId state =>
      { system with executor := (system.executor.actuatorEmergency transactionId state).2 }
  | .operate operation =>
      let transition := system.machine.perform ⟨system.guard, operation⟩
      { system with machine := transition.machine, guard := transition.guard }

/-- The call runs in command receive and may recover the latch there. -/
def RecoversIn (system : OvertravelSystem) : OvertravelCall → Prop
  | .begin _ context => context.state = .commandReceive
  | .operate (.startSequence _ _) | .operate (.tick _ _) =>
      system.machine.snapshot.state = .commandReceive
  | _ => False

/-- The call completes a pending fin-zero transaction with no reason. -/
def CompletesFinZero (system : OvertravelSystem) : OvertravelCall → Prop
  | .finish transactionId phase reason _ =>
      phase = .completed ∧ reason = .none ∧
        ∃ slot, system.executor.find transactionId = some slot ∧
          (system.executor.entries slot).pending = true ∧
          codeOf (system.executor.entries slot).request = .setFinZero
  | _ => False

end OvertravelSystem

open OvertravelSystem

/-! ### What one call does to the guard -/

/-- The guard reports a sample: whether it was usable and inside the limit. -/
def Reports (guard : FinOvertravelGuard) (sample : Option (Double × Bool)) : Prop :=
  guard.sampleValid = sample.elim false (fun latest => usableSample latest.1 latest.2) ∧
    guard.insideFaultLimit = sample.elim false (fun latest => insideLimit latest.1 latest.2)

theorem reports_recovered {guard : FinOvertravelGuard} {sample : Option (Double × Bool)}
    (reports : Reports guard sample) : Reports guard.recovered sample := by
  unfold Reports
  rw [FinOvertravelGuard.recovered_sampleValid, FinOvertravelGuard.recovered_insideFaultLimit]
  exact reports

/-- An operation leaves the guard alone, or recovers it in command receive. -/
theorem guard_perform (machine : MissionStateMachine) (guard : FinOvertravelGuard)
    (operation : Operation) :
    (machine.perform ⟨guard, operation⟩).guard = guard ∨
      ((∀ executor, RecoversIn ⟨guard, executor, machine⟩ (.operate operation)) ∧
        (machine.perform ⟨guard, operation⟩).guard = guard.recovered) := by
  cases operation with
  | startSequence readiness mode =>
      show (machine.startSequence guard readiness mode).guard = guard ∨ _ ∧
        (machine.startSequence guard readiness mode).guard = guard.recovered
      rw [MissionStateMachine.startSequence_guard]
      by_cases receiving : machine.snapshot.state = .commandReceive
      · rw [if_pos receiving]
        exact Or.inr ⟨fun _ => receiving, rfl⟩
      · rw [if_neg receiving]
        exact Or.inl rfl
  | tick input safety =>
      show (machine.tick guard input safety).2 = guard ∨ _ ∧
        (machine.tick guard input safety).2 = guard.recovered
      rw [MissionStateMachine.guard_tick]
      by_cases receiving : machine.snapshot.state = .commandReceive
      · rw [if_pos receiving]
        exact Or.inr ⟨fun _ => receiving, rfl⟩
      · rw [if_neg receiving]
        exact Or.inl rfl
  | cancelSequence => exact Or.inl rfl
  | disableFinControl => exact Or.inl rfl
  | liftoffDetectionEmergencyStop => exact Or.inl rfl
  | restoreAfterReset nowUs checkpoint => exact Or.inl rfl

/-- What a call does to the guard: observe, leave it, recover it in command
receive, or clear it for a completed fin zero. -/
inductive GuardOutcome (system : OvertravelSystem) (call : OvertravelCall) :
    FinOvertravelGuard → Prop where
  | observed (angleRad : Double) (validSample : Bool)
      (observes : call = .observe angleRad validSample) :
      GuardOutcome system call (system.guard.observe angleRad validSample)
  | kept (silent : call.sample = none) : GuardOutcome system call system.guard
  | recovered (silent : call.sample = none) (recovers : RecoversIn system call) :
      GuardOutcome system call system.guard.recovered
  | zeroed (silent : call.sample = none) (completes : CompletesFinZero system call) :
      GuardOutcome system call system.guard.clearFault

theorem guardOutcome (system : OvertravelSystem) (call : OvertravelCall) :
    GuardOutcome system call (system.step call).guard := by
  cases call with
  | observe angleRad validSample => exact .observed angleRad validSample rfl
  | begin request context =>
      have recovers : GuardOutcome system (.begin request context)
          (CommandExecutor.guardAtBegin system.guard context) := by
        unfold CommandExecutor.guardAtBegin
        by_cases receiving : context.state = .commandReceive
        · rw [if_pos receiving]
          exact .recovered rfl receiving
        · rw [if_neg receiving]
          exact .kept rfl
      show GuardOutcome system _ (system.executor.begin system.guard request context).2.2
      have outcome := system.executor.beginOutcome system.guard request context
      generalize system.executor.begin system.guard request context = next at outcome ⊢
      cases outcome with
      | answered => exact .kept rfl
      | rejected => exact recovers
      | accepted => exact recovers
  | finish transactionId phase reason detail =>
      show GuardOutcome system _
        (system.executor.finish system.guard transactionId phase reason detail).2.2
      have outcome := system.executor.finishOutcome system.guard transactionId phase reason detail
      generalize system.executor.finish system.guard transactionId phase reason detail = next
        at outcome ⊢
      cases outcome with
      | refused => exact .kept rfl
      | finished slot found pending =>
          show GuardOutcome system _
            (CommandExecutor.guardAtFinish system.guard (system.executor.entries slot) phase reason)
          unfold CommandExecutor.guardAtFinish
          split
          · next zeroes =>
            exact .zeroed rfl ⟨zeroes.1, zeroes.2.1, slot, found, pending, zeroes.2.2⟩
          · exact .kept rfl
  | actuatorEmergency transactionId state => exact .kept rfl
  | operate operation =>
      show GuardOutcome system _ (system.machine.perform ⟨system.guard, operation⟩).guard
      rcases guard_perform system.machine system.guard operation with kept | ⟨recovers, recovered⟩
      · rw [kept]
        exact .kept rfl
      · rw [recovered]
        exact .recovered rfl (recovers system.executor)

/-- The guard reports the last observed sample, whoever was called since. -/
theorem reports_latestSample (history : List OvertravelCall) :
    Reports (Run.after step {} history).guard (latestSample history) := by
  induction history using List.reverseRecOn with
  | nil => exact ⟨rfl, rfl⟩
  | append_singleton history call inductionHypothesis =>
      rw [Run.after_concat, latestSample_concat]
      have outcome := guardOutcome (Run.after step {} history) call
      generalize ((Run.after step {} history).step call).guard = next at outcome ⊢
      cases outcome with
      | observed angleRad validSample observes =>
          rw [observes]
          exact ⟨rfl, rfl⟩
      | kept silent =>
          rw [silent]
          exact inductionHypothesis
      | recovered silent =>
          rw [silent]
          exact reports_recovered inductionHypothesis
      | zeroed silent =>
          rw [silent]
          exact inductionHypothesis

/-- A report of a usable sample inside the limit is about such a sample. -/
theorem sample_of_reports {guard : FinOvertravelGuard} {sample : Option (Double × Bool)}
    (reports : Reports guard sample) (inside : guard.insideFaultLimit = true) :
    ∃ angleRad, sample = some (angleRad, true) ∧ angleRad.isFinite = true ∧
      angleRad.absLe kFinOvertravelFaultLimitRad = true := by
  obtain ⟨-, limit⟩ := reports
  rw [inside] at limit
  cases sample with
  | none => cases limit
  | some latest =>
      obtain ⟨angleRad, validSample⟩ := latest
      have within : insideLimit angleRad validSample = true := limit.symm
      unfold insideLimit usableSample at within
      simp only [Bool.and_eq_true] at within
      obtain ⟨⟨valid, finite⟩, absolute⟩ := within
      exact ⟨angleRad, by rw [valid], finite, absolute⟩

/-- A call clears the latch by recovering it over a sample inside the limit, or by
completing a fin zero. -/
theorem latch_cleared {system : OvertravelSystem} {call : OvertravelCall}
    (latched : system.guard.faultLatched = true)
    (cleared : (system.step call).guard.faultLatched = false) :
    (RecoversIn system call ∧ system.guard.insideFaultLimit = true) ∨
      CompletesFinZero system call := by
  have outcome := guardOutcome system call
  generalize (system.step call).guard = next at outcome cleared
  cases outcome with
  | observed angleRad validSample =>
      unfold FinOvertravelGuard.observe at cleared
      simp [latched] at cleared
  | kept =>
      rw [latched] at cleared
      contradiction
  | recovered silent recovers =>
      exact Or.inl ⟨recovers, (FinOvertravelGuard.sample_of_recovered latched cleared).2⟩
  | zeroed silent completes => exact Or.inr completes

/-! ### What the latch blocks -/

/-- An accepted command that overtravel blocks was decided over a clear latch. -/
theorem clear_of_accepted {system : OvertravelSystem} {request : GenericCommandRequest}
    {context : CommandContext} (blocked : blockedByFinOvertravel (codeOf request) = true)
    (accepts : (system.executor.begin system.guard request context).1.execute = true) :
    (system.step (.begin request context)).guard.faultLatched = false := by
  show (system.executor.begin system.guard request context).2.2.faultLatched = false
  have outcome := system.executor.beginOutcome system.guard request context
  generalize system.executor.begin system.guard request context = next at outcome accepts ⊢
  cases outcome with
  | answered refuses =>
      rw [refuses] at accepts
      contradiction
  | rejected => contradiction
  | accepted nonzero fresh admits =>
      have check := CommandExecutor.admitted_iff.mp admits
        ((CommandExecutor.guardAtBegin system.guard context).faultLatched &&
          blockedByFinOvertravel (codeOf request), .safetyInterlock)
        (by simp [CommandExecutor.rejectionChecks])
      simpa [blocked] using check

/-- A start sequence that completes found the latch clear. -/
theorem clear_of_started {system : OvertravelSystem} {readiness : PreflightReadinessSnapshot}
    {mode : StartMode}
    (completes : (system.machine.startSequence system.guard readiness mode).result = .completed) :
    (system.step (.operate (.startSequence readiness mode))).guard.faultLatched = false := by
  show (system.machine.startSequence system.guard readiness mode).guard.faultLatched = false
  rcases MissionStateMachine.startSequence_cases system.machine system.guard readiness mode with
    ⟨-, receiving, clear, -⟩ | ⟨refuses, -⟩
  · rw [MissionStateMachine.startSequence_guard, if_pos receiving]
    exact clear
  · exact absurd completes refuses

/-- A tick outside command receive that finds the latch bars control. -/
theorem controlBarred_of_latched {machine : MissionStateMachine} {guard : FinOvertravelGuard}
    (latched : guard.faultLatched = true) (outside : machine.snapshot.state ≠ .commandReceive)
    (input : MissionTickInput) (safety : SafetyRequest) :
    ControlBarred (machine.tick guard input safety).1 := by
  constructor
  · exact MissionStateMachine.not_control_tick_of_latched machine guard input safety latched
  · have before :=
      machine.inhibited_beforeGate_of_latched guard input safety latched outside
    exact Or.inr (Or.inl (machine.inhibited_of_beforeGate guard input safety before))

/-! ### The rest of the flight epoch -/

/-- The call is a start or a rollback that brings the machine to the epoch from
another one. -/
def BeginsEpochAgain (epoch : UInt32) (system : OvertravelSystem) : OvertravelCall → Prop
  | .operate operation =>
      beginsEpoch operation = true ∧ system.machine.snapshot.flightEpoch ≠ epoch ∧
        (system.step (.operate operation)).machine.snapshot.flightEpoch = epoch
  | _ => False

instance (epoch : UInt32) (system : OvertravelSystem) (call : OvertravelCall) :
    Decidable (BeginsEpochAgain epoch system call) := by
  cases call <;> unfold BeginsEpochAgain <;> infer_instance

/-- A call that stays in the epoch neither starts nor rolls back, so it keeps
control barred. -/
private theorem barred_within {machine : MissionStateMachine} {call : Call}
    (barred : ControlBarred machine)
    (same : (machine.step call).snapshot.flightEpoch = machine.snapshot.flightEpoch) :
    ControlBarred (machine.step call) := by
  have incomplete : beginsEpoch call.operation = true →
      (machine.perform call).result ≠ .completed := by
    intro begins completes
    exact flightEpoch_ne_of_beginsEpoch begins completes same
  apply barred.step
  · rintro ⟨isStart, completes⟩
    refine incomplete ?_ completes
    unfold Operation.isStart at isStart
    split at isStart
    · next starts =>
      rw [starts]
      rfl
    · contradiction
  · intro rollsBack burning
    obtain ⟨guard, operation⟩ := call
    obtain rfl : operation = .liftoffDetectionEmergencyStop := rollsBack
    refine absurd ?_ (incomplete rfl)
    show machine.liftoffDetectionEmergencyStop.1 = .completed
    rcases machine.liftoffDetectionEmergencyStop_cases with ⟨-, completes⟩ | ⟨other, -⟩
    · rw [completes]
    · exact absurd burning other

/-- A machine that comes to an epoch without beginning it was restored into it, and
every restore bars control. -/
private theorem barred_on_return {machine : MissionStateMachine} {call : Call}
    (returns : beginsEpoch call.operation = false)
    (moves : (machine.step call).snapshot.flightEpoch ≠ machine.snapshot.flightEpoch) :
    ControlBarred (machine.step call) := by
  have outcome := machine.outcome call
  generalize stepped : machine.step call = next,
    (machine.perform call).result = result at outcome moves
  cases outcome with
  | refused => exact absurd rfl moves
  | started => contradiction
  | rolledBack => contradiction
  | cancelled => exact absurd rfl moves
  | controlDisabled =>
      refine absurd ?_ moves
      unfold MissionStateMachine.controlDisabled
      dsimp only
      split <;> rfl
  | restoredArmed => exact ⟨nofun, Or.inr (Or.inl rfl)⟩
  | restoredFlying guard nowUs checkpoint =>
      refine ⟨?_, Or.inr (Or.inl rfl)⟩
      show (if checkpoint.deploymentStarted = true ∨ checkpoint.state = .descent then
        MissionState.descent else .engineBurn) ≠ .control
      split <;> decide
  | ticked guard input safety =>
      exact absurd (MissionStateMachine.flightEpoch_of_attempt
        (machine.tick_attempt guard input safety)) moves

/-- Control is barred whenever the machine is in the epoch. -/
def BarredIn (epoch : UInt32) (system : OvertravelSystem) : Prop :=
  system.machine.snapshot.flightEpoch = epoch → ControlBarred system.machine

/-- Short of beginning the epoch again, every call keeps control barred in it. -/
theorem barredIn_step {epoch : UInt32} {system : OvertravelSystem} {call : OvertravelCall}
    (barred : BarredIn epoch system) (goesOn : ¬ BeginsEpochAgain epoch system call) :
    BarredIn epoch (system.step call) := by
  cases call with
  | observe | begin | finish | actuatorEmergency => exact barred
  | operate operation =>
      intro within
      have moved : (system.step (.operate operation)).machine =
          system.machine.step ⟨system.guard, operation⟩ := rfl
      by_cases before : system.machine.snapshot.flightEpoch = epoch
      · rw [moved] at within ⊢
        exact barred_within (barred before) (within.trans before.symm)
      · have returns : beginsEpoch operation = false := by
          by_contra begins
          exact goesOn ⟨Bool.eq_true_of_not_eq_false begins, before, within⟩
        rw [moved] at within ⊢
        exact barred_on_return returns fun same => before (same.symm.trans within)

/-! ### The discipline -/

/-- The discipline of the overtravel latch, after any interleaving of the
components' calls:

* a call that clears the latch recovers it in command receive, over a latest sample
  that is usable and inside the limit, or completes a fin zero with no reason;
* a start, force-start or fin-hold command is accepted only over a latch that is
  clear once its own recovery was tried, and a start sequence completes only so;
* a tick that finds the latch set does not leave the state in control;
* once a tick outside command receive found it set, the state is never control in
  that flight epoch again, whatever clears the latch and whatever is restored. -/
theorem overtravel_discipline {history : List OvertravelCall} {system : OvertravelSystem}
    (reached : Run.after step {} history = system) :
    (∀ call, system.guard.faultLatched = true → (system.step call).guard.faultLatched = false →
      (RecoversIn system call ∧
        ∃ angleRad, latestSample history = some (angleRad, true) ∧ angleRad.isFinite = true ∧
          angleRad.absLe kFinOvertravelFaultLimitRad = true) ∨
      CompletesFinZero system call) ∧
    (∀ request context,
      codeOf request ∈ [CommandCode.startSequence, .forceStartSequence, .startFinZeroHold,
        .finMoveRelative] →
      (system.executor.begin system.guard request context).1.execute = true →
      (system.step (.begin request context)).guard.faultLatched = false) ∧
    (∀ readiness mode,
      (system.machine.startSequence system.guard readiness mode).result = .completed →
      (system.step (.operate (.startSequence readiness mode))).guard.faultLatched = false) ∧
    ∀ input safety, system.guard.faultLatched = true →
      (system.step (.operate (.tick input safety))).machine.snapshot.state ≠ .control ∧
      (system.machine.snapshot.state ≠ .commandReceive → ∀ later,
        Run.Along step
          (fun other call => ¬ BeginsEpochAgain system.machine.snapshot.flightEpoch other call)
          (system.step (.operate (.tick input safety))) later →
        (Run.after step system (.operate (.tick input safety) :: later)
          ).machine.snapshot.flightEpoch = system.machine.snapshot.flightEpoch →
        (Run.after step system (.operate (.tick input safety) :: later)
          ).machine.snapshot.state ≠ .control) := by
  have reports := reports_latestSample history
  rw [reached] at reports
  refine ⟨?_, ?_, fun _ _ completes => clear_of_started completes, ?_⟩
  · intro call latched cleared
    rcases latch_cleared latched cleared with ⟨recovers, inside⟩ | completes
    · exact Or.inl ⟨recovers, sample_of_reports reports inside⟩
    · exact Or.inr completes
  · intro request context commands accepts
    refine clear_of_accepted ?_ accepts
    simp only [List.mem_cons, List.not_mem_nil, or_false] at commands
    rcases commands with code | code | code | code <;> rw [code] <;> decide
  · intro input safety latched
    refine ⟨MissionStateMachine.not_control_tick_of_latched _ _ _ _ latched, ?_⟩
    intro outside later goesOn within
    have seen : BarredIn system.machine.snapshot.flightEpoch
        (system.step (.operate (.tick input safety))) := by
      intro _
      exact controlBarred_of_latched latched outside input safety
    have preserved : ∀ other call, BarredIn system.machine.snapshot.flightEpoch other →
        ¬ BeginsEpochAgain system.machine.snapshot.flightEpoch other call →
        BarredIn system.machine.snapshot.flightEpoch (other.step call) := by
      intro other call barred permitted
      exact barredIn_step barred permitted
    exact (Run.invariant_after preserved seen goesOn within).outside

/-- A fin-zero command accepted before the start, a flight, and a sample outside
the limit. -/
def flightWithOvertravel : List OvertravelCall :=
  [.begin (CommandExecutor.plainRequest 1 .setFinZero) CommandExecutor.readyContext,
    .operate (.startSequence fullReadiness .normal), .operate (readyTick 2000000 true).operation,
    .observe (.finite 1) true]

/-- A tick that found the latch keeps the flight out of control at the gate, after
the fin zero completed and cleared the latch. -/
theorem overtravel_discipline_cleared :
    let cleared := Run.after step {} (flightWithOvertravel ++
      [.operate (.tick { monotonicUs := 3000000 } {}), .finish 1 .completed .none 0])
    cleared.guard.faultLatched = false ∧
      (cleared.step (.operate (readyTick 9500000 false).operation)).machine.snapshot.state ≠
        .control := by
  have discipline := (@overtravel_discipline flightWithOvertravel _ rfl).2.2.2
    { monotonicUs := 3000000 } {} (by decide +kernel)
  refine ⟨by decide +kernel, ?_⟩
  exact discipline.2 (by decide +kernel)
    [.finish 1 .completed .none 0, .operate (readyTick 9500000 false).operation]
    (by decide +kernel) (by decide +kernel)

end MissionBoard.Flight
