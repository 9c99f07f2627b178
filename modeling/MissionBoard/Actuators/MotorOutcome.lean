import MissionBoard.Actuators.MotorCoast

/-!
Owns what a call of the driver that returns `ESP_OK` leaves at the inputs of the bridge: `coast` both low,
`brake` both high, `apply` the one that it names at its count and the other low.
-/

namespace MissionBoard.Actuators

open Characterization (espOk espErrInvalidArg espErrInvalidState)

namespace Outputs

variable {answers : ℕ → Int32} {outputs : Outputs}

theorem withChannel_congr {reached : Outputs}
    (same : ∀ channel, outputs.channel channel = reached.channel channel) (value : LedcChannel)
    (changed channel : Channel) :
    (outputs.withChannel value changed).channel channel =
      (reached.withChannel value changed).channel channel := by
  by_cases here : channel = changed
  · subst here
    simp
  · rw [channel_withChannel_of_ne here, channel_withChannel_of_ne here]
    exact same channel

theorem perform_congr {reached : Outputs}
    (same : ∀ channel, outputs.channel channel = reached.channel channel) (pinCall : PinCall)
    (channel : Channel) :
    (outputs.perform pinCall).channel channel = (reached.perform pinCall).channel channel := by
  cases pinCall with
  | timerConfig => exact same channel
  | setLevel other => exact same channel
  | channelConfig other => exact withChannel_congr same _ other channel
  | setDuty other count =>
      simp only [perform, same other]
      exact withChannel_congr same _ other channel
  | updateDuty other =>
      simp only [perform, same other]
      exact withChannel_congr same _ other channel
  | stop other =>
      simp only [perform, same other]
      exact withChannel_congr same _ other channel

/-- When all calls have succeeded, each has done what it is for. -/
theorem whileOk_performed {pinCalls : List PinCall} {reached : Outputs}
    (same : ∀ channel, outputs.channel channel = reached.channel channel)
    (ok : (outputs.whileOk answers pinCalls).1 = espOk) (channel : Channel) :
    (outputs.whileOk answers pinCalls).2.channel channel =
      (pinCalls.foldl perform reached).channel channel := by
  induction pinCalls generalizing outputs reached with
  | nil => exact same channel
  | cons pinCall rest inductionHypothesis =>
      by_cases first : (outputs.call answers pinCall).1 = espOk
      · rw [whileOk_ok rest first] at ok ⊢
        apply inductionHypothesis _ ok
        intro other
        rw [call_ok first]
        exact perform_congr same pinCall other
      · rw [whileOk_failed rest first] at ok
        exact absurd ok first

end Outputs

namespace Motor

variable {build : Build} {answers : ℕ → Int32} {motor : Motor}

open Outputs

theorem settle_ok {result : Int32} (ok : (motor.settle build answers result).1 = espOk) :
    result = espOk ∧ (motor.settle build answers result).2.outputs = motor.outputs := by
  by_cases succeeded : result = espOk
  · refine ⟨succeeded, ?_⟩
    unfold settle
    rw [if_pos succeeded]
  · have answered : (motor.settle build answers result).1 = result := by
      unfold settle
      rw [if_neg succeeded]
      exact if_neg fun both => succeeded both.1
    exact absurd (answered.symm.trans ok) succeeded

theorem brake_high (ok : (motor.brake build answers).1 = espOk) :
    (motor.brake build answers).2.outputs.levels = (kMaximumDutyCount, kMaximumDutyCount) := by
  unfold Motor.brake at ok ⊢
  split_ifs at ok ⊢ with ready
  · dsimp only at ok ⊢
    obtain ⟨succeeded, kept⟩ := settle_ok ok
    rw [kept]
    have performed := @whileOk_performed answers motor.outputs brakeCalls _ (fun _ => rfl) succeeded
    have first := congrArg LedcChannel.level (performed .in1)
    have second := congrArg LedcChannel.level (performed .in2)
    exact Prod.ext first second
  · exact absurd ok (by decide : espErrInvalidState ≠ espOk)

/-- What goes out when a command has been applied -/
def turned (command : MotorCommand) : ℕ × ℕ :=
  if command.positiveIn1 then (dutyCount command.pwmDuty, 0) else (0, dutyCount command.pwmDuty)

theorem apply_turned {command : MotorCommand}
    (ok : (motor.apply .flight answers command).1 = espOk) :
    (motor.apply .flight answers command).2.outputs.levels = turned command := by
  unfold Motor.apply at ok ⊢
  split_ifs at ok ⊢ with refused
  · dsimp only at ok
    split_ifs at ok with fallback
    · exact absurd ok (by decide : espErrInvalidArg ≠ espOk)
    · exact absurd ok fallback
  · have small : (kProductionMotorMaximumDuty .flight).lt command.pwmDuty = false := by
      simp only [not_or, Bool.not_eq_true] at refused
      exact refused.2.2.2.2.2
    have whole : (if (kProductionMotorMaximumDuty .flight).lt command.pwmDuty then
        kProductionMotorMaximumDuty .flight else command.pwmDuty) = command.pwmDuty := by
      rw [small]
      rfl
    dsimp only at ok ⊢
    rw [whole] at ok ⊢
    unfold setChannelDuty at ok ⊢
    dsimp only at ok ⊢
    obtain ⟨succeeded, kept⟩ := settle_ok ok
    rw [kept]
    have comes := @driven answers motor.outputs
    unfold turned
    clear ok kept
    revert succeeded
    cases command.positiveIn1 <;> intro succeeded
    · obtain ⟨high, low⟩ := (comes .in2 .in1 (by decide) (dutyCount command.pwmDuty)).ok succeeded
      exact Prod.ext low high
    · obtain ⟨high, low⟩ := (comes .in1 .in2 (by decide) (dutyCount command.pwmDuty)).ok succeeded
      exact Prod.ext high low

/-! ### In flight -/

theorem flight_stops : ¬motor.Skips .flight := fun skips => Build.noConfusion skips.1

theorem Truthful.flies (truthful : Truthful motor) (call : MotorCall) :
    Truthful (motor.step .flight answers call) :=
  truthful.step fun _ breaks => absurd breaks.1 flight_stops

theorem truthful_off : Truthful {} :=
  ⟨⟨fun high => absurd rfl high, fun high => absurd rfl high,
    fun ready => absurd ready Bool.false_ne_true⟩, fun known => absurd known Bool.false_ne_true⟩

/-- `coast` time and again -/
theorem eased_coasts (stops : ℕ) : Eased motor.outputs
    (Run.after (step build answers) motor (List.replicate stops .coast)).outputs := by
  induction stops generalizing motor with
  | zero => exact Eased.refl _
  | succ stops inductionHypothesis => exact eased_coast.trans inductionHypothesis

end Motor

end MissionBoard.Actuators
