import MissionBoard.Actuators.MotorExclusion

/-!
Owns the truth of `coast`: when it returns `ESP_OK` the inputs are low, except that in the characterization
build, which does not stop again what it knows to coast, a `brake` that breaks off leaves the first input
high and `coast` does not notice.
-/

namespace MissionBoard.Actuators

open Characterization (espOk)

/-! ### When the motor coasts -/

namespace Motor

variable {build : Build} {answers : ℕ → Int32} {motor : Motor}

open Outputs

/-- A channel that is not low has been configured. -/
structure Wired (motor : Motor) : Prop where
  in1 : motor.outputs.in1.level ≠ 0 →
    motor.driver.timerConfigured = true ∧ motor.driver.in1Configured = true
  in2 : motor.outputs.in2.level ≠ 0 →
    motor.driver.timerConfigured = true ∧ motor.driver.in2Configured = true
  whole : motor.driver.initialized = true → motor.driver.timerConfigured = true ∧
    motor.driver.in1Configured = true ∧ motor.driver.in2Configured = true

/-- The driver knows of a motor that coasts only when it does. -/
structure Truthful (motor : Motor) : Prop extends Wired motor where
  known : motor.driver.coastKnown = true → motor.outputs.levels = (0, 0)

theorem Wired.eased (wired : Wired motor) {outputs : Outputs} (eased : Eased motor.outputs outputs) :
    Wired { motor with outputs } where
  in1 high := wired.in1 fun low => high (eased.low1 low)
  in2 high := wired.in2 fun low => high (eased.low2 low)
  whole := wired.whole

theorem Truthful.eased (truthful : Truthful motor) {outputs : Outputs}
    (eased : Eased motor.outputs outputs) : Truthful { motor with outputs } where
  toWired := truthful.toWired.eased eased
  known := by
    intro known
    have low := truthful.known known
    have first : motor.outputs.in1.level = 0 := congrArg Prod.fst low
    have second : motor.outputs.in2.level = 0 := congrArg Prod.snd low
    exact Prod.ext (eased.low1 first) (eased.low2 second)

/-- When `coast` has stopped the channels and says so, they are low. -/
theorem coast_low (wired : Wired motor) (does : ¬motor.Skips build)
    (ok : (motor.coast build answers).1 = espOk) :
    (motor.coast build answers).2.outputs.levels = (0, 0) := by
  rw [coast_done does] at ok ⊢
  have eased : Eased motor.outputs (motor.outputs.all answers motor.coastCalls).2 :=
    eased_all calm_coastCalls
  have first : (motor.outputs.all answers motor.coastCalls).2.in1.level = 0 := by
    by_cases low : motor.outputs.in1.level = 0
    · exact eased.low1 low
    · obtain ⟨timer, configured⟩ := wired.in1 low
      have stopped : PinCall.stop .in1 ∈ motor.coastCalls := by
        unfold coastCalls
        simp [timer, configured]
      exact low_of_all calm_coastCalls stopped ok
  have second : (motor.outputs.all answers motor.coastCalls).2.in2.level = 0 := by
    by_cases low : motor.outputs.in2.level = 0
    · exact eased.low2 low
    · obtain ⟨timer, configured⟩ := wired.in2 low
      have stopped : PinCall.stop .in2 ∈ motor.coastCalls := by
        unfold coastCalls
        simp [timer, configured]
      exact low_of_all calm_coastCalls stopped ok
  exact Prod.ext first second

theorem truthful_coast (wired : Wired motor)
    (known : motor.Skips build → motor.outputs.levels = (0, 0)) :
    Truthful (motor.coast build answers).2 := by
  by_cases skips : motor.Skips build
  · rw [coast_skipped skips]
    exact ⟨wired, fun _ => known skips⟩
  · have low := @coast_low build answers motor wired skips
    have eased := @eased_coast build answers motor
    rw [coast_done skips] at low eased ⊢
    have kept := wired.eased eased
    exact ⟨⟨kept.in1, kept.in2, kept.whole⟩, fun known => low (of_decide_eq_true known)⟩

theorem Truthful.coast (truthful : Truthful motor) : Truthful (motor.coast build answers).2 :=
  truthful_coast truthful.toWired fun skips => truthful.known skips.2.2

/-- A call that succeeds or raises what belongs to a driver that is ready -/
theorem truthful_settle (wired : Wired motor) {result : Int32}
    (known : result ≠ espOk → motor.Skips build → motor.outputs.levels = (0, 0)) :
    Truthful (motor.settle build answers result).2 := by
  unfold settle
  split_ifs with ok
  · exact ⟨⟨wired.in1, wired.in2, wired.whole⟩, fun known => absurd known Bool.false_ne_true⟩
  · exact truthful_coast wired (known ok)

theorem wired_ready (wired : Wired motor) (ready : motor.driver.initialized = true)
    (outputs : Outputs) : Wired { motor with outputs } where
  in1 _ := ⟨(wired.whole ready).1, (wired.whole ready).2.1⟩
  in2 _ := ⟨(wired.whole ready).1, (wired.whole ready).2.2⟩
  whole := wired.whole

theorem Truthful.apply (truthful : Truthful motor) (command : MotorCommand) :
    Truthful (motor.apply build answers command).2 := by
  unfold Motor.apply
  split_ifs with refused
  · exact truthful.coast
  · have ready : motor.driver.initialized = true := by
      simp only [not_or, not_not] at refused
      exact refused.1
    have settled : ∀ active inactive : Channel, active ≠ inactive → ∀ count,
        Truthful (settle build answers { motor with
          outputs := (motor.outputs.whileOk answers (driveCalls active inactive count)).2 }
          (motor.outputs.whileOk answers (driveCalls active inactive count)).1).2 := by
      intro active inactive apart count
      have comes := @driven answers motor.outputs active inactive apart count
      apply truthful_settle
      · exact wired_ready truthful.toWired ready _
      · intro failed skips
        exact (truthful.eased (comes.failed failed)).known skips.2.2
    unfold setChannelDuty
    cases command.positiveIn1
    · exact settled .in2 .in1 (by decide) _
    · exact settled .in1 .in2 (by decide) _

/-- The first input is high and the second not when `brake` fails. -/
def BreaksOff (build : Build) (answers : ℕ → Int32) (motor : Motor) : Prop :=
  motor.Skips build ∧ answers motor.outputs.calls = espOk ∧
    answers (motor.outputs.calls + 1) = espOk ∧
    ¬(answers (motor.outputs.calls + 2) = espOk ∧ answers (motor.outputs.calls + 3) = espOk)

/-- What comes of giving one channel a count: both calls succeed, or no level changes. -/
theorem raise_cases (answers : ℕ → Int32) (outputs : Outputs) (channel : Channel) (count : ℕ) :
    ((outputs.whileOk answers [.setDuty channel count, .updateDuty channel]).1 = espOk ∧
      (answers outputs.calls = espOk ∧ answers (outputs.calls + 1) = espOk) ∧
      (outputs.whileOk answers [.setDuty channel count, .updateDuty channel]).2.calls =
        outputs.calls + 2 ∧
      ((outputs.whileOk answers [.setDuty channel count, .updateDuty channel]).2.channel
        channel).level = count ∧
      ∀ other, other ≠ channel →
        ((outputs.whileOk answers [.setDuty channel count, .updateDuty channel]).2.channel
          other).level = (outputs.channel other).level) ∨
    ((outputs.whileOk answers [.setDuty channel count, .updateDuty channel]).1 ≠ espOk ∧
      ¬(answers outputs.calls = espOk ∧ answers (outputs.calls + 1) = espOk) ∧
      ∀ other, ((outputs.whileOk answers [.setDuty channel count, .updateDuty channel]).2.channel
        other).level = (outputs.channel other).level) := by
  by_cases ok1 : (outputs.call answers (.setDuty channel count)).1 = espOk
  swap
  · rw [whileOk_failed _ ok1]
    exact Or.inr ⟨ok1, fun both => ok1 both.1, fun other =>
      congrArg LedcChannel.level (call_failed ok1 other)⟩
  rw [whileOk_ok _ ok1]
  have duty : ((outputs.call answers (.setDuty channel count)).2.channel channel).duty = count := by
    rw [call_ok ok1 channel, Outputs.perform, channel_withChannel]
  -- a duty that is only set does not yet go out
  have still : ∀ other, ((outputs.call answers (.setDuty channel count)).2.channel other).level =
      (outputs.channel other).level := by
    intro other
    rw [call_ok ok1 other, Outputs.perform]
    by_cases here : other = channel
    · subst here
      rw [channel_withChannel]
    · rw [channel_withChannel_of_ne here]
  have calls : (outputs.call answers (.setDuty channel count)).2.calls = outputs.calls + 1 := rfl
  have answer1 : answers outputs.calls = espOk := ok1
  generalize (outputs.call answers (.setDuty channel count)).2 = first at *
  by_cases ok2 : (first.call answers (.updateDuty channel)).1 = espOk
  · rw [whileOk_ok _ ok2]
    have answer2 : answers (outputs.calls + 1) = espOk := by
      rw [← calls]
      exact ok2
    refine Or.inl ⟨rfl, ⟨answer1, answer2⟩, congrArg (· + 1) calls, ?_, ?_⟩
    · show ((first.call answers (.updateDuty channel)).2.channel channel).level = count
      rw [call_ok ok2 channel, Outputs.perform, channel_withChannel]
      exact duty
    · intro other apart
      show ((first.call answers (.updateDuty channel)).2.channel other).level = _
      rw [call_ok ok2 other, Outputs.perform, channel_withChannel_of_ne apart]
      exact still other
  · rw [whileOk_failed _ ok2]
    have unanswered : answers (outputs.calls + 1) ≠ espOk := by
      rw [← calls]
      exact ok2
    exact Or.inr ⟨ok2, fun both => unanswered both.2, fun other =>
      (congrArg LedcChannel.level (call_failed ok2 other)).trans (still other)⟩

theorem whileOk_append (first second : List PinCall) {outputs : Outputs} :
    outputs.whileOk answers (first ++ second) =
      if (outputs.whileOk answers first).1 = espOk then
        (outputs.whileOk answers first).2.whileOk answers second
      else outputs.whileOk answers first := by
  induction first generalizing outputs with
  | nil => exact (if_pos rfl).symm
  | cons pinCall rest inductionHypothesis =>
      rw [List.cons_append]
      by_cases ok : (outputs.call answers pinCall).1 = espOk
      · rw [whileOk_ok _ ok, whileOk_ok _ ok]
        exact inductionHypothesis
      · rw [whileOk_failed _ ok, whileOk_failed _ ok, if_neg ok]

/-- What comes of the calls of `brake`: all succeed, or nothing is raised, or the first input alone is. -/
theorem brake_cases (answers : ℕ → Int32) (outputs : Outputs) :
    ((outputs.whileOk answers brakeCalls).1 = espOk ∧
      answers (outputs.calls + 2) = espOk ∧ answers (outputs.calls + 3) = espOk) ∨
    ((outputs.whileOk answers brakeCalls).1 ≠ espOk ∧
      ¬(answers outputs.calls = espOk ∧ answers (outputs.calls + 1) = espOk) ∧
      Eased outputs (outputs.whileOk answers brakeCalls).2) ∨
    ((outputs.whileOk answers brakeCalls).1 ≠ espOk ∧
      (answers outputs.calls = espOk ∧ answers (outputs.calls + 1) = espOk) ∧
      ¬(answers (outputs.calls + 2) = espOk ∧ answers (outputs.calls + 3) = espOk) ∧
      (outputs.whileOk answers brakeCalls).2.in1.level = kMaximumDutyCount ∧
      (outputs.whileOk answers brakeCalls).2.in2.level = outputs.in2.level) := by
  have halves : brakeCalls = [.setDuty .in1 kMaximumDutyCount, .updateDuty .in1] ++
      [.setDuty .in2 kMaximumDutyCount, .updateDuty .in2] := rfl
  rw [halves, whileOk_append]
  rcases raise_cases answers outputs .in1 kMaximumDutyCount with
    ⟨ok, answered, calls, high, others⟩ | ⟨failed, unanswered, same⟩
  · rw [if_pos ok]
    generalize (outputs.whileOk answers
      [.setDuty .in1 kMaximumDutyCount, .updateDuty .in1]).2 = raised at *
    rcases raise_cases answers raised .in2 kMaximumDutyCount with
      ⟨ok2, answered2, -⟩ | ⟨failed2, unanswered2, same2⟩
    · rw [calls] at answered2
      exact Or.inl ⟨ok2, answered2⟩
    · rw [calls] at unanswered2
      exact Or.inr (Or.inr ⟨failed2, answered, unanswered2, (same2 .in1).trans high,
        (same2 .in2).trans (others .in2 (by decide))⟩)
  · rw [if_neg failed]
    exact Or.inr (Or.inl ⟨failed, unanswered, fun channel => Or.inl (same channel)⟩)

theorem Truthful.brake (truthful : Truthful motor) (whole : ¬motor.BreaksOff build answers) :
    Truthful (motor.brake build answers).2 := by
  unfold Motor.brake
  split_ifs with ready
  · apply truthful_settle
    · exact wired_ready truthful.toWired ready _
    · intro failed skips
      rcases brake_cases answers motor.outputs with ⟨ok, -⟩ | ⟨-, -, eased⟩ |
        ⟨-, raised, stopped, -⟩
      · exact absurd ok failed
      · exact (truthful.eased eased).known skips.2.2
      · exact absurd ⟨skips, raised.1, raised.2, stopped⟩ whole
  · exact truthful

theorem Wired.grown (wired : Wired motor) {driver : ProductionMotorDriver} {outputs : Outputs}
    (eased : Eased motor.outputs outputs)
    (timer : motor.driver.timerConfigured = true → driver.timerConfigured = true)
    (in1 : motor.driver.in1Configured = true → driver.in1Configured = true)
    (in2 : motor.driver.in2Configured = true → driver.in2Configured = true)
    (whole : driver.initialized = true → driver.timerConfigured = true ∧
      driver.in1Configured = true ∧ driver.in2Configured = true) : Wired ⟨driver, outputs⟩ where
  in1 high := (wired.in1 fun low => high (eased.low1 low)).imp timer in1
  in2 high := (wired.in2 fun low => high (eased.low2 low)).imp timer in2
  whole := whole

theorem Truthful.initializeDriver (truthful : Truthful motor) (safeOutputs : Bool) :
    Truthful (motor.initializeDriver build answers safeOutputs).2 := by
  have first := @eased_call_calm answers motor.outputs .timerConfig rfl
  have second := first.trans (@eased_call_calm answers _ (.channelConfig .in1) rfl)
  have third := second.trans (@eased_call_calm answers _ (.channelConfig .in2) rfl)
  have coasts : ∀ {driver : ProductionMotorDriver} {outputs : Outputs}, Wired ⟨driver, outputs⟩ →
      driver.coastKnown = false → Truthful (Motor.coast build answers ⟨driver, outputs⟩).2 := by
    intro driver outputs wired unknown
    apply truthful_coast wired
    intro skips
    have known : driver.coastKnown = true := skips.2.2
    rw [unknown] at known
    cases known
  have always : ∀ flag : Bool, flag = true → true = true := fun _ _ => rfl
  unfold Motor.initializeDriver
  by_cases ready : motor.driver.initialized = true
  · rw [if_pos ready]
    exact truthful
  · have unready : ∀ {conclusion : Prop}, motor.driver.initialized = true → conclusion :=
      fun isReady => absurd isReady ready
    rw [if_neg ready]
    dsimp only
    split_ifs
    · exact coasts (truthful.grown first id id id unready) rfl
    · exact coasts (truthful.grown second (always _) id id unready) rfl
    · exact coasts (truthful.grown third (always _) (always _) id unready) rfl
    · have coasted := @coasts ⟨true, true, true, true, false⟩ _
        (truthful.grown third (always _) (always _) (always _) fun _ => ⟨rfl, rfl, rfl⟩) rfl
      exact ⟨⟨coasted.in1, coasted.in2, fun isReady => absurd isReady Bool.false_ne_true⟩,
        coasted.known⟩
    · exact coasts (truthful.grown third (always _) (always _) (always _)
        fun _ => ⟨rfl, rfl, rfl⟩) rfl
    · exact truthful

theorem Truthful.step (truthful : Truthful motor) {call : MotorCall}
    (whole : call = .brake → ¬motor.BreaksOff build answers) :
    Truthful (motor.step build answers call) := by
  cases call with
  | initializeDriver safeOutputs => exact truthful.initializeDriver safeOutputs
  | apply command => exact truthful.apply command
  | brake => exact truthful.brake (whole rfl)
  | coast => exact truthful.coast

/-- When `coast` returns `ESP_OK`, both inputs are low, whatever was asked of the driver before and whatever
the peripheral answered, unless in the characterization build a `brake` from rest has broken off. -/
theorem coast_rests {build : Build} {answers : ℕ → Int32} {calls : List MotorCall}
    (whole : Run.Along (step build answers)
      (fun motor call => call = .brake → ¬motor.BreaksOff build answers) {} calls)
    (ok : ((Run.after (step build answers) {} calls).coast build answers).1 = espOk) :
    ((Run.after (step build answers) {} calls).coast build answers).2.outputs.levels = (0, 0) := by
  have preserved : ∀ (motor : Motor) (call : MotorCall), Truthful motor →
      (call = .brake → ¬motor.BreaksOff build answers) → Truthful (motor.step build answers call) :=
    fun _ _ truthful whole => truthful.step whole
  have start : Truthful {} :=
    ⟨⟨fun high => absurd rfl high, fun high => absurd rfl high,
      fun ready => absurd ready Bool.false_ne_true⟩, fun known => absurd known Bool.false_ne_true⟩
  have truthful := Run.invariant_after preserved start whole
  generalize Run.after (step build answers) {} calls = motor at *
  by_cases skips : motor.Skips build
  · rw [coast_skipped skips]
    exact truthful.known skips.2.2
  · exact coast_low truthful.toWired skips ok

theorem coast_rests_braked : ((Run.after (step .characterization fun _ => 0) {}
    [.initializeDriver true, .brake]).coast .characterization fun _ => 0).2.outputs.levels =
      (0, 0) := by
  have whole : Run.Along (step .characterization fun _ => 0)
      (fun motor call => call = .brake → ¬motor.BreaksOff .characterization fun _ => 0) {}
      [.initializeDriver true, .brake] := by
    refine ⟨fun other => absurd other (by simp), fun _ breaks => ?_, trivial⟩
    exact breaks.2.2.2 ⟨rfl, rfl⟩
  exact coast_rests whole rfl

/-- When it has, the first input stays at its highest, while `coast` returns `ESP_OK` and makes no call,
however often it is asked. -/
theorem coast_deceives {build : Build} {answers : ℕ → Int32} {motor : Motor}
    (breaks : motor.BreaksOff build answers) (coasts : ℕ) :
    (motor.brake build answers).1 ≠ espOk ∧
      Run.after (step build answers) (motor.brake build answers).2 (List.replicate coasts .coast) =
        (motor.brake build answers).2 ∧
      ((motor.brake build answers).2.coast build answers).1 = espOk ∧
      (motor.brake build answers).2.outputs.levels =
        (kMaximumDutyCount, motor.outputs.in2.level) := by
  obtain ⟨skips, first, second, stopped⟩ := breaks
  have comes : (motor.outputs.whileOk answers brakeCalls).1 ≠ espOk ∧
      (motor.outputs.whileOk answers brakeCalls).2.in1.level = kMaximumDutyCount ∧
      (motor.outputs.whileOk answers brakeCalls).2.in2.level = motor.outputs.in2.level := by
    rcases brake_cases answers motor.outputs with ⟨-, done⟩ | ⟨-, unraised, -⟩ |
      ⟨failed, -, -, high, same⟩
    · exact absurd done stopped
    · exact absurd ⟨first, second⟩ unraised
    · exact ⟨failed, high, same⟩
  obtain ⟨failed, high, same⟩ := comes
  have braked : motor.brake build answers = ((motor.outputs.whileOk answers brakeCalls).1,
      { motor with outputs := (motor.outputs.whileOk answers brakeCalls).2 }) := by
    have ready : ¬¬motor.driver.initialized = true := not_not.mpr skips.2.1
    have stillSkips : Skips build
        { motor with outputs := (motor.outputs.whileOk answers brakeCalls).2 } := skips
    unfold Motor.brake
    rw [if_neg ready]
    dsimp only
    unfold settle
    rw [if_neg failed, coast_skipped stillSkips]
    exact Prod.ext (if_neg fun error => failed error.1) rfl
  have skipsToo : Skips build
      { motor with outputs := (motor.outputs.whileOk answers brakeCalls).2 } := skips
  rw [braked]
  refine ⟨failed, ?_, ?_, Prod.ext high same⟩
  · induction coasts with
    | zero => rfl
    | succ coasts inductionHypothesis =>
        have still : step build answers
            { motor with outputs := (motor.outputs.whileOk answers brakeCalls).2 } .coast =
              { motor with outputs := (motor.outputs.whileOk answers brakeCalls).2 } :=
          congrArg Prod.snd (coast_skipped skipsToo)
        rw [List.replicate_succ, Run.after_cons, still]
        exact inductionHypothesis
  · rw [coast_skipped skipsToo]

/-- A driver that is ready, with two calls to go until one fails -/
def coasting : Motor :=
  Run.after (step .characterization tenthFails) {} [.initializeDriver true]

theorem coast_deceives_coasting :
    (coasting.brake .characterization tenthFails).1 ≠ espOk ∧
      Run.after (step .characterization tenthFails)
          (coasting.brake .characterization tenthFails).2 (List.replicate 1000 .coast) =
        (coasting.brake .characterization tenthFails).2 ∧
      ((coasting.brake .characterization tenthFails).2.coast .characterization tenthFails).1 =
        espOk ∧
      (coasting.brake .characterization tenthFails).2.outputs.levels = (1023, 0) := by
  have breaks : coasting.BreaksOff .characterization tenthFails :=
    ⟨⟨rfl, rfl, rfl⟩, rfl, rfl, by decide⟩
  exact coast_deceives breaks 1000

end Motor

end MissionBoard.Actuators
