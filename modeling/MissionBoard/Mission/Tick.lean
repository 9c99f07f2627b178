import MissionBoard.Mission.TickBlocks

/-!
Owns what one whole tick can do: the data and the clock it leaves alone, the
states it can leave from a given one, the one way it has into control, and what a
latched overtravel fault does to it.
-/

namespace MissionBoard.Mission

open Protocol Control

namespace MissionStateMachine

section Tick

variable (machine : MissionStateMachine) (guard : FinOvertravelGuard) (input : MissionTickInput)
  (safety : SafetyRequest)

@[simp] theorem lifted_attempt :
    (machine.lifted input safety).snapshot.attempt = machine.snapshot.attempt := by
  simp [lifted]

@[simp] theorem beforeGate_attempt :
    (machine.beforeGate guard input safety).snapshot.attempt = machine.snapshot.attempt := by
  simp [beforeGate]

/-- A tick keeps the flight epoch, the disable command and the preflight data. -/
theorem tick_attempt :
    (machine.tick guard input safety).1.snapshot.attempt = machine.snapshot.attempt := by
  simp [tick_machine]

/-- After its own liftoff transition a tick leaves the flight clock alone. -/
theorem tick_flightClock :
    (machine.tick guard input safety).1.flightClock = (machine.lifted input safety).flightClock := by
  simp [tick_machine, beforeGate]

/-- Liftoff starts the clock one second back, and only from liftoff detection. -/
theorem flightClock_lifted :
    (machine.lifted input safety).flightClock =
      if machine.snapshot.state = .liftoffDetection ∧ input.liftoffDetected = true then
        { running := true
          origin := if kOneSecondUs ≤ input.monotonicUs then input.monotonicUs - kOneSecondUs else 0
          offset := 0 }
      else machine.flightClock := by
  unfold lifted detectLiftoff
  rw [latchSafetyCutoff_state]
  split
  · rfl
  · exact latchSafetyCutoff_flightClock machine safety

/-- The elapsed time a tick records is the flight clock's reading at its own time. -/
theorem tick_elapsedUs :
    (machine.tick guard input safety).1.snapshot.elapsedUs =
      (machine.lifted input safety).elapsedAt input.monotonicUs := by
  simp [tick_machine, beforeGate, recordElapsed]

/-- The power cutoff a tick leaves: latched before, by the safety request, or by
the flight clock. -/
theorem tick_cutoff :
    (machine.tick guard input safety).1.snapshot.deploymentPowerCutoffLatched =
      if (machine.lifted input safety).snapshot.liftoffTimeValid = true ∧
          kPowerCutoffUs ≤ (machine.lifted input safety).elapsedAt input.monotonicUs then true
      else if machine.currentSafety safety = true ∧ machine.snapshot.liftoffTimeValid = true ∧
          safety.absolutePowerCutoff = true then true
      else machine.snapshot.deploymentPowerCutoffLatched := by
  have clock : (((machine.beforeGate guard input safety).evaluateControlGate input
      ((machine.lifted input safety).elapsedAt input.monotonicUs)).leaveControlUnlessReady
        input).flightClock = (machine.lifted input safety).flightClock := by
    simp [beforeGate]
  have earlier : (((machine.beforeGate guard input safety).evaluateControlGate input
      ((machine.lifted input safety).elapsedAt input.monotonicUs)).leaveControlUnlessReady
        input).snapshot.deploymentPowerCutoffLatched =
      (machine.latchSafetyCutoff safety).snapshot.deploymentPowerCutoffLatched := by
    simp [beforeGate, lifted]
  rw [tick_machine, updateDirectives_cutoff, latchPowerCutoff_cutoff, earlier,
    latchSafetyCutoff_cutoff, liftoffTimeValid_of_clock clock]

/-- No tick unlatches the power cutoff. -/
theorem cutoff_tick (latched : machine.snapshot.deploymentPowerCutoffLatched = true) :
    (machine.tick guard input safety).1.snapshot.deploymentPowerCutoffLatched = true := by
  rw [tick_cutoff]
  split
  · rfl
  · split
    · rfl
    · exact latched

/-! ### Where the state can go -/

/-- A tick that reaches the gate in control was in control from the start. -/
theorem control_of_beforeGate
    (controlling : (machine.beforeGate guard input safety).snapshot.state = .control) :
    machine.snapshot.state = .control := by
  unfold beforeGate at controlling
  dsimp only at controlling
  rcases decideDeployment_state (((machine.lifted input safety).recordElapsed input
      ((machine.lifted input safety).elapsedAt input.monotonicUs)).blockOnOvertravel guard) input
      safety (machine.currentSafety safety)
      ((machine.lifted input safety).elapsedAt input.monotonicUs) with kept | deployed
  · rw [kept, blockOnOvertravel_state] at controlling
    split at controlling
    · contradiction
    · unfold lifted at controlling
      rw [recordElapsed_state, detectLiftoff_state, latchSafetyCutoff_state] at controlling
      split at controlling
      · contradiction
      · exact controlling
  · rw [deployed] at controlling
    contradiction

/-- Without a liftoff transition the blocks before the gate leave command receive alone. -/
theorem commandReceive_beforeGate (receiving : machine.snapshot.state = .commandReceive) :
    (machine.beforeGate guard input safety).snapshot.state = .commandReceive := by
  have lifts : (machine.lifted input safety).snapshot.state = .commandReceive := by
    unfold lifted
    rw [detectLiftoff_state, latchSafetyCutoff_state, receiving]
    rfl
  have blocked : (((machine.lifted input safety).recordElapsed input
      ((machine.lifted input safety).elapsedAt input.monotonicUs)).blockOnOvertravel
        guard).snapshot.state = .commandReceive := by
    rw [blockOnOvertravel_state, recordElapsed_state, lifts]
    simp
  unfold beforeGate
  dsimp only
  unfold decideDeployment
  rw [blocked]
  simpa using blocked

/-- A tick that ends armed began armed and saw no liftoff. -/
theorem armed_of_tick
    (armed : (machine.tick guard input safety).1.snapshot.state = .liftoffDetection) :
    machine.snapshot.state = .liftoffDetection ∧ input.liftoffDetected = false := by
  rw [tick_machine, updateDirectives_state, latchPowerCutoff_state,
    leaveControlUnlessReady_state] at armed
  have gate := evaluateControlGate_state (machine.beforeGate guard input safety) input
    ((machine.lifted input safety).elapsedAt input.monotonicUs)
  have decision := decideDeployment_state (((machine.lifted input safety).recordElapsed input
    ((machine.lifted input safety).elapsedAt input.monotonicUs)).blockOnOvertravel guard) input
    safety (machine.currentSafety safety)
    ((machine.lifted input safety).elapsedAt input.monotonicUs)
  have before : (machine.beforeGate guard input safety).snapshot.state = .liftoffDetection := by
    split at armed
    · exact absurd armed (by decide)
    · rcases gate with kept | ⟨-, entered⟩
      · exact kept.symm.trans armed
      · rw [entered] at armed
        exact absurd armed (by decide)
  have blocked : (((machine.lifted input safety).recordElapsed input
      ((machine.lifted input safety).elapsedAt input.monotonicUs)).blockOnOvertravel
        guard).snapshot.state = .liftoffDetection := by
    rcases decision with kept | deployed
    · exact kept.symm.trans before
    · rw [show (machine.beforeGate guard input safety).snapshot.state = .descent from deployed]
        at before
      exact absurd before (by decide)
  rw [blockOnOvertravel_state, recordElapsed_state] at blocked
  split at blocked
  · exact absurd blocked (by decide)
  · unfold lifted at blocked
    rw [detectLiftoff_state, latchSafetyCutoff_state] at blocked
    split at blocked
    · exact absurd blocked (by decide)
    · next silent =>
      refine ⟨blocked, Bool.eq_false_of_not_eq_true fun detected => ?_⟩
      exact silent ⟨blocked, detected⟩

/-- Without a detection the blocks before the gate leave an armed machine alone. -/
theorem armed_beforeGate (armed : machine.snapshot.state = .liftoffDetection)
    (silent : input.liftoffDetected = false) :
    (machine.beforeGate guard input safety).snapshot.state = .liftoffDetection := by
  have waits : (machine.lifted input safety).snapshot.state = .liftoffDetection := by
    unfold lifted
    rw [detectLiftoff_state, latchSafetyCutoff_state, armed, silent]
    rfl
  have blocked : (((machine.lifted input safety).recordElapsed input
      ((machine.lifted input safety).elapsedAt input.monotonicUs)).blockOnOvertravel
        guard).snapshot.state = .liftoffDetection := by
    rw [blockOnOvertravel_state, recordElapsed_state, waits]
    simp
  unfold beforeGate
  dsimp only
  unfold decideDeployment
  rw [blocked]
  simpa using blocked

/-- Without a detection a tick leaves an armed machine armed. -/
theorem armed_tick (armed : machine.snapshot.state = .liftoffDetection)
    (silent : input.liftoffDetected = false) :
    (machine.tick guard input safety).1.snapshot.state = .liftoffDetection := by
  have before : (machine.beforeGate guard input safety).snapshot.state = .liftoffDetection :=
    machine.armed_beforeGate guard input safety armed silent
  rw [tick_machine, updateDirectives_state, latchPowerCutoff_state, leaveControlUnlessReady_state]
  rcases evaluateControlGate_state (machine.beforeGate guard input safety) input
    ((machine.lifted input safety).elapsedAt input.monotonicUs) with kept | ⟨burning, -⟩
  · rw [kept, before]
    simp
  · rw [before] at burning
    contradiction

/-- A tick never leaves command receive. -/
theorem commandReceive_tick (receiving : machine.snapshot.state = .commandReceive) :
    (machine.tick guard input safety).1.snapshot.state = .commandReceive := by
  have before := commandReceive_beforeGate machine guard input safety receiving
  rw [tick_machine, updateDirectives_state, latchPowerCutoff_state, leaveControlUnlessReady_state]
  rcases evaluateControlGate_state (machine.beforeGate guard input safety) input
      ((machine.lifted input safety).elapsedAt input.monotonicUs) with kept | ⟨burning, -⟩
  · rw [kept, before]
    rfl
  · rw [before] at burning
    contradiction

/-- No tick before the gate lifts the inhibition. -/
theorem inhibited_beforeGate
    (inhibited : machine.snapshot.controlReentryInhibited = true) :
    (machine.beforeGate guard input safety).snapshot.controlReentryInhibited = true := by
  have lifts : (machine.lifted input safety).snapshot.controlReentryInhibited = true := by
    unfold lifted detectLiftoff latchSafetyCutoff
    split <;> split <;> exact inhibited
  unfold beforeGate
  dsimp only
  rw [decideDeployment_inhibited, blockOnOvertravel_inhibited]
  split
  · rfl
  · exact lifts

/-- From the gate on no tick lifts the inhibition. -/
theorem inhibited_of_beforeGate
    (before : (machine.beforeGate guard input safety).snapshot.controlReentryInhibited = true) :
    (machine.tick guard input safety).1.snapshot.controlReentryInhibited = true := by
  have gated : ((machine.beforeGate guard input safety).evaluateControlGate input
      ((machine.lifted input safety).elapsedAt
        input.monotonicUs)).snapshot.controlReentryInhibited = true := by
    have outcome := (machine.beforeGate guard input safety).gateOutcome input
      ((machine.lifted input safety).elapsedAt input.monotonicUs)
    generalize (machine.beforeGate guard input safety).evaluateControlGate input
      ((machine.lifted input safety).elapsedAt input.monotonicUs) = next at outcome ⊢
    cases outcome with
    | kept => exact before
    | refused => rfl
    | reentered due admits =>
        rw [admits.permitted] at before
        exact absurd before Bool.false_ne_true
    | opened due admits =>
        rw [admits.permitted] at before
        exact absurd before Bool.false_ne_true
  rw [tick_machine]
  generalize (machine.beforeGate guard input safety).evaluateControlGate input
    ((machine.lifted input safety).elapsedAt input.monotonicUs) = gate at gated ⊢
  have left : (gate.leaveControlUnlessReady input).snapshot.controlReentryInhibited = true := by
    unfold leaveControlUnlessReady
    split
    · rfl
    · exact gated
  show ((gate.leaveControlUnlessReady input).latchPowerCutoff
    _).snapshot.controlReentryInhibited = true
  unfold latchPowerCutoff
  split <;> exact left

/-- No tick lifts the inhibition. -/
theorem inhibited_tick (inhibited : machine.snapshot.controlReentryInhibited = true) :
    (machine.tick guard input safety).1.snapshot.controlReentryInhibited = true :=
  inhibited_of_beforeGate machine guard input safety
    (inhibited_beforeGate machine guard input safety inhibited)

/-- A tick that ends in control reached the gate in control or passed it. -/
theorem control_of_tick
    (controlling : (machine.tick guard input safety).1.snapshot.state = .control) :
    (machine.beforeGate guard input safety).snapshot.state = .control ∨
      (machine.beforeGate guard input safety).GateDue
          ((machine.lifted input safety).elapsedAt input.monotonicUs) ∧
        (machine.beforeGate guard input safety).GateAdmits input := by
  rw [tick_machine, updateDirectives_state, latchPowerCutoff_state,
    leaveControlUnlessReady_state] at controlling
  have outcome := (machine.beforeGate guard input safety).gateOutcome input
    ((machine.lifted input safety).elapsedAt input.monotonicUs)
  generalize (machine.beforeGate guard input safety).evaluateControlGate input
    ((machine.lifted input safety).elapsedAt input.monotonicUs) = next at outcome controlling
  split at controlling
  · contradiction
  · cases outcome with
    | kept => exact Or.inl controlling
    | refused due =>
        rw [gateRefused_state, due.burning] at controlling
        contradiction
    | reentered due admits => exact Or.inr ⟨due, admits⟩
    | opened due admits => exact Or.inr ⟨due, admits⟩

/-- A tick enters control only through the gate. -/
theorem gate_of_control (outside : machine.snapshot.state ≠ .control)
    (controlling : (machine.tick guard input safety).1.snapshot.state = .control) :
    (machine.beforeGate guard input safety).GateDue
        ((machine.lifted input safety).elapsedAt input.monotonicUs) ∧
      (machine.beforeGate guard input safety).GateAdmits input :=
  (control_of_tick machine guard input safety controlling).resolve_left fun before =>
    outside (control_of_beforeGate machine guard input safety before)

/-! ### A latched overtravel fault -/

/-- A latch outside command receive inhibits control before the gate. -/
theorem inhibited_beforeGate_of_latched (latched : guard.faultLatched = true)
    (outside : machine.snapshot.state ≠ .commandReceive) :
    (machine.beforeGate guard input safety).snapshot.controlReentryInhibited = true := by
  have lifts : (machine.lifted input safety).snapshot.state ≠ .commandReceive := by
    unfold lifted
    rw [detectLiftoff_state, latchSafetyCutoff_state]
    split
    · decide
    · exact outside
  unfold beforeGate
  dsimp only
  rw [decideDeployment_inhibited, blockOnOvertravel_inhibited, recordElapsed_state]
  exact if_pos ⟨lifts, latched⟩

/-- A latch keeps the blocks before the gate from ending in control. -/
theorem not_control_beforeGate_of_latched (latched : guard.faultLatched = true) :
    (machine.beforeGate guard input safety).snapshot.state ≠ .control := by
  intro controlling
  unfold beforeGate at controlling
  dsimp only at controlling
  rcases decideDeployment_state (((machine.lifted input safety).recordElapsed input
      ((machine.lifted input safety).elapsedAt input.monotonicUs)).blockOnOvertravel guard) input
      safety (machine.currentSafety safety)
      ((machine.lifted input safety).elapsedAt input.monotonicUs) with kept | deployed
  · rw [kept, blockOnOvertravel_state] at controlling
    split at controlling
    · contradiction
    · next other => exact other ⟨latched, controlling⟩
  · rw [deployed] at controlling
    contradiction

/-- No tick that finds the latch set leaves the state in control. -/
theorem not_control_tick_of_latched (latched : guard.faultLatched = true) :
    (machine.tick guard input safety).1.snapshot.state ≠ .control := by
  by_cases receiving : machine.snapshot.state = .commandReceive
  · rw [commandReceive_tick machine guard input safety receiving]
    decide
  · intro controlling
    rcases control_of_tick machine guard input safety controlling with before | ⟨-, admits⟩
    · exact not_control_beforeGate_of_latched machine guard input safety latched before
    · have inhibited :=
        inhibited_beforeGate_of_latched machine guard input safety latched receiving
      rw [admits.permitted] at inhibited
      contradiction

/-- A tick tries to recover the latch in command receive and nowhere else. -/
theorem guard_tick :
    (machine.tick guard input safety).2 =
      if machine.snapshot.state = .commandReceive then guard.recovered else guard := by
  have lifts : (machine.lifted input safety).snapshot.state = .commandReceive ↔
      machine.snapshot.state = .commandReceive := by
    unfold lifted
    rw [detectLiftoff_state, latchSafetyCutoff_state]
    split
    · next armed =>
      rw [armed.1]
      decide
    · exact Iff.rfl
  rw [tick_guard]
  unfold guardAfterTick
  simp only [lifts]

end Tick

end MissionStateMachine

end MissionBoard.Mission
