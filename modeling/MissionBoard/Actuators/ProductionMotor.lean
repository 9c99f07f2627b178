import MissionBoard.Characterization.CommandJournal
import MissionBoard.Library.Run
import MissionBoard.Numeric.DoubleArithmetic

/-!
Owns `ProductionMotorDriver` of `actuators/production_motor.cpp` above the two PWM channels that feed the
inputs of the bridge, and what one call of the peripheral can do to a channel.

A call of the peripheral that fails leaves its channel as it was. `gpio_set_level` reaches a pin only before
its channel is configured, when the pin is low already.
-/

namespace MissionBoard.Actuators

open Characterization (espOk espErrInvalidArg espErrInvalidState)

/-! ### The channels -/

inductive Channel where
  | in1
  | in2
deriving DecidableEq

/-- `duty` is what `ledc_set_duty` has stored, `level` the count that goes out. -/
structure LedcChannel where
  duty : ℕ := 0
  level : ℕ := 0

/-- A call of the peripheral -/
inductive PinCall where
  | timerConfig
  | channelConfig (channel : Channel)
  | setDuty (channel : Channel) (count : ℕ)
  | updateDuty (channel : Channel)
  | stop (channel : Channel)
  | setLevel (channel : Channel)

structure Outputs where
  in1 : LedcChannel := {}
  in2 : LedcChannel := {}
  /-- The number of calls so far -/
  calls : ℕ := 0
  /-- What went out of the two channels after each of them -/
  moments : List (ℕ × ℕ) := []

namespace Outputs

variable (answers : ℕ → Int32) (outputs : Outputs)

def channel : Channel → LedcChannel
  | .in1 => outputs.in1
  | .in2 => outputs.in2

def withChannel (value : LedcChannel) : Channel → Outputs
  | .in1 => { outputs with in1 := value }
  | .in2 => { outputs with in2 := value }

/-- What a call that succeeds does -/
def perform : PinCall → Outputs
  | .timerConfig | .setLevel _ => outputs
  | .channelConfig channel => outputs.withChannel {} channel
  | .setDuty channel count =>
      outputs.withChannel { outputs.channel channel with duty := count } channel
  | .updateDuty channel =>
      outputs.withChannel { outputs.channel channel with level := (outputs.channel channel).duty }
        channel
  | .stop channel => outputs.withChannel { outputs.channel channel with level := 0 } channel

def call (pinCall : PinCall) : Int32 × Outputs :=
  let next := if answers outputs.calls = espOk then outputs.perform pinCall else outputs
  (answers outputs.calls,
    { next with
      calls := outputs.calls + 1
      moments := outputs.moments ++ [(next.in1.level, next.in2.level)] })

/-- Each of the calls when the one before it has succeeded -/
def whileOk (outputs : Outputs) : List PinCall → Int32 × Outputs
  | [] => (espOk, outputs)
  | pinCall :: rest =>
      if (outputs.call answers pinCall).1 = espOk then
        (outputs.call answers pinCall).2.whileOk rest
      else outputs.call answers pinCall

/-- All of the calls, with the first error -/
def all (outputs : Outputs) : List PinCall → Int32 × Outputs
  | [] => (espOk, outputs)
  | pinCall :: rest =>
      let (result, next) := outputs.call answers pinCall
      let (later, last) := next.all rest
      (if result = espOk then later else result, last)

end Outputs

/-! ### The driver -/

/-- The build that is made with `AVI_99L_CHARACTERIZATION` and the one that is not -/
inductive Build where
  | flight
  | characterization
deriving DecidableEq

/-- `kProductionMotorMaximumDuty` -/
def kProductionMotorMaximumDuty : Build → Double
  | .flight => .finite 1
  | .characterization => .rounded (35 / 100)

/-- `kMaximumDutyCount` -/
def kMaximumDutyCount : ℕ := 1023

/-- What `apply` reads of a `MotorCommand` -/
structure MotorCommand where
  pwmDuty : Double
  positiveIn1 : Bool
  brake : Bool
  valid : Bool

structure ProductionMotorDriver where
  initialized : Bool := false
  timerConfigured : Bool := false
  in1Configured : Bool := false
  in2Configured : Bool := false
  coastKnown : Bool := false

/-- The driver and its channels -/
structure Motor where
  driver : ProductionMotorDriver := {}
  outputs : Outputs := {}

/-- `rememberFirst` -/
def rememberFirst (next first : Int32) : Int32 :=
  if first = espOk ∧ next ≠ espOk then next else first

/-- `lround(clamp(duty, 0, 1) * kMaximumDutyCount)` -/
def dutyCount (duty : Double) : ℕ :=
  let clamped := if duty.lt .zero then .zero else if Double.lt (.finite 1) duty then .finite 1 else duty
  (Double.lround (fun _ => 0) (clamped.mul (.finite kMaximumDutyCount))).toNat

namespace Motor

variable (build : Build) (answers : ℕ → Int32) (motor : Motor)

/-- The calls of `coast`, those of `motorCoast` among them -/
def coastCalls : List PinCall :=
  (if motor.driver.timerConfigured && motor.driver.in1Configured then [.stop .in1] else []) ++
    (if motor.driver.timerConfigured && motor.driver.in2Configured then [.stop .in2] else []) ++
    [.setLevel .in1, .setLevel .in2]

/-- `coast` -/
def coast : Int32 × Motor :=
  if build = .characterization ∧ motor.driver.initialized ∧ motor.driver.coastKnown then
    (espOk, motor)
  else
    let (result, outputs) := motor.outputs.all answers motor.coastCalls
    (result, { driver := { motor.driver with coastKnown := decide (result = espOk) }, outputs })

/-- The end of `setChannelDuty` and `brake` -/
def settle (result : Int32) : Int32 × Motor :=
  if result = espOk then (result, { motor with driver := { motor.driver with coastKnown := false } })
  else
    let (coasted, next) := motor.coast build answers
    (rememberFirst coasted result, next)

/-- The calls of `setChannelDuty` -/
def driveCalls (active inactive : Channel) (count : ℕ) : List PinCall :=
  [.setDuty inactive 0, .updateDuty inactive, .setDuty active count, .updateDuty active]

/-- The calls of `brake` -/
def brakeCalls : List PinCall :=
  [.setDuty .in1 kMaximumDutyCount, .updateDuty .in1, .setDuty .in2 kMaximumDutyCount,
    .updateDuty .in2]

/-- `setChannelDuty` -/
def setChannelDuty (positiveIn1 : Bool) (duty : Double) : Int32 × Motor :=
  let active := if positiveIn1 then Channel.in1 else .in2
  let inactive := if positiveIn1 then Channel.in2 else .in1
  let (result, outputs) := motor.outputs.whileOk answers
    (driveCalls active inactive (dutyCount duty))
  settle build answers { motor with outputs } result

/-- `apply` -/
def apply (command : MotorCommand) : Int32 × Motor :=
  if ¬motor.driver.initialized ∨ ¬command.valid ∨ command.brake ∨ ¬command.pwmDuty.isFinite ∨
      command.pwmDuty.lt .zero ∨ Double.lt (.finite 1) command.pwmDuty then
    let (fallback, next) := motor.coast build answers
    (if fallback = espOk then espErrInvalidArg else fallback, next)
  else
    let maximum := kProductionMotorMaximumDuty build
    motor.setChannelDuty build answers command.positiveIn1
      (if maximum.lt command.pwmDuty then maximum else command.pwmDuty)

/-- `brake` -/
def brake : Int32 × Motor :=
  if ¬motor.driver.initialized then (espErrInvalidState, motor)
  else
    let (result, outputs) := motor.outputs.whileOk answers brakeCalls
    settle build answers { motor with outputs } result

/-- `initialize` -/
def initializeDriver (safeOutputs : Bool) : Int32 × Motor :=
  if motor.driver.initialized then (espOk, motor)
  else if ¬safeOutputs then (espErrInvalidState, motor)
  else
    let motor := { motor with driver := { motor.driver with coastKnown := false } }
    let (result, outputs) := motor.outputs.call answers .timerConfig
    let motor := { motor with outputs }
    if result ≠ espOk then (result, (motor.coast build answers).2)
    else
      let motor := { motor with driver := { motor.driver with timerConfigured := true } }
      let (result, outputs) := motor.outputs.call answers (.channelConfig .in1)
      let motor := { motor with outputs }
      if result ≠ espOk then (result, (motor.coast build answers).2)
      else
        let motor := { motor with driver := { motor.driver with in1Configured := true } }
        let (result, outputs) := motor.outputs.call answers (.channelConfig .in2)
        let motor := { motor with outputs }
        if result ≠ espOk then (result, (motor.coast build answers).2)
        else
          let motor :=
            { motor with driver := { motor.driver with in2Configured := true, initialized := true } }
          let (result, motor) := motor.coast build answers
          if result ≠ espOk then
            (result, { motor with driver := { motor.driver with initialized := false } })
          else (result, motor)

end Motor

/-- A call of the driver -/
inductive MotorCall where
  | initializeDriver (safeOutputs : Bool)
  | apply (command : MotorCommand)
  | brake
  | coast

/-- A call with what it returns -/
def Motor.perform (build : Build) (answers : ℕ → Int32) (motor : Motor) : MotorCall → Int32 × Motor
  | .initializeDriver safeOutputs => motor.initializeDriver build answers safeOutputs
  | .apply command => motor.apply build answers command
  | .brake => motor.brake build answers
  | .coast => motor.coast build answers

/-- What a call leaves -/
def Motor.step (build : Build) (answers : ℕ → Int32) (motor : Motor) (call : MotorCall) : Motor :=
  (motor.perform build answers call).2

/-! ### What a call of the peripheral can do -/

namespace Outputs

variable {answers : ℕ → Int32} {outputs : Outputs}

/-- What goes out of the two channels -/
def levels (outputs : Outputs) : ℕ × ℕ := (outputs.in1.level, outputs.in2.level)

@[simp] theorem channel_withChannel (value : LedcChannel) (channel : Channel) :
    (outputs.withChannel value channel).channel channel = value := by
  cases channel <;> rfl

theorem channel_withChannel_of_ne {channel other : Channel} (apart : other ≠ channel)
    (value : LedcChannel) :
    (outputs.withChannel value channel).channel other = outputs.channel other := by
  cases channel <;> cases other <;> first | rfl | exact absurd rfl apart

theorem call_ok {pinCall : PinCall} (ok : (outputs.call answers pinCall).1 = espOk)
    (channel : Channel) :
    (outputs.call answers pinCall).2.channel channel = (outputs.perform pinCall).channel channel := by
  have answered : answers outputs.calls = espOk := ok
  unfold call
  rw [if_pos answered]
  cases channel <;> rfl

theorem call_failed {pinCall : PinCall} (failed : (outputs.call answers pinCall).1 ≠ espOk)
    (channel : Channel) :
    (outputs.call answers pinCall).2.channel channel = outputs.channel channel := by
  have answered : answers outputs.calls ≠ espOk := failed
  unfold call
  rw [if_neg answered]
  cases channel <;> rfl

theorem whileOk_ok {pinCall : PinCall} (rest : List PinCall)
    (ok : (outputs.call answers pinCall).1 = espOk) :
    outputs.whileOk answers (pinCall :: rest) =
      (outputs.call answers pinCall).2.whileOk answers rest := if_pos ok

theorem whileOk_failed {pinCall : PinCall} (rest : List PinCall)
    (failed : (outputs.call answers pinCall).1 ≠ espOk) :
    outputs.whileOk answers (pinCall :: rest) = outputs.call answers pinCall := if_neg failed

/-- Each level is what it was, or low. -/
def Eased (before after : Outputs) : Prop :=
  ∀ channel, (after.channel channel).level = (before.channel channel).level ∨
    (after.channel channel).level = 0

theorem Eased.refl (outputs : Outputs) : Eased outputs outputs := fun _ => Or.inl rfl

theorem Eased.trans {first second third : Outputs} (early : Eased first second)
    (late : Eased second third) : Eased first third := by
  intro channel
  rcases late channel with same | low
  · rw [same]
    exact early channel
  · exact Or.inr low

theorem Eased.low {before after : Outputs} (eased : Eased before after) {channel : Channel}
    (low : (before.channel channel).level = 0) : (after.channel channel).level = 0 := by
  rcases eased channel with same | lowered
  · rw [same, low]
  · exact lowered

theorem Eased.low1 {before after : Outputs} (eased : Eased before after)
    (low : before.in1.level = 0) : after.in1.level = 0 := @Eased.low before after eased .in1 low

theorem Eased.low2 {before after : Outputs} (eased : Eased before after)
    (low : before.in2.level = 0) : after.in2.level = 0 := @Eased.low before after eased .in2 low

end Outputs

/-- The calls after which no level is higher -/
def PinCall.calm : PinCall → Bool
  | .updateDuty _ => false
  | _ => true

namespace Outputs

variable {answers : ℕ → Int32} {outputs : Outputs}

/-- Which level a call may raise -/
theorem level_perform (pinCall : PinCall) (channel : Channel) :
    ((outputs.perform pinCall).channel channel).level = (outputs.channel channel).level ∨
      ((outputs.perform pinCall).channel channel).level = 0 ∨
      pinCall = .updateDuty channel ∧
        ((outputs.perform pinCall).channel channel).level = (outputs.channel channel).duty := by
  cases pinCall with
  | timerConfig => exact Or.inl rfl
  | setLevel other => exact Or.inl rfl
  | channelConfig other =>
      by_cases same : channel = other
      · subst same
        right; left
        simp [perform]
      · left
        simp [perform, channel_withChannel_of_ne same]
  | setDuty other count =>
      by_cases same : channel = other
      · subst same
        left
        simp [perform]
      · left
        simp [perform, channel_withChannel_of_ne same]
  | updateDuty other =>
      by_cases same : channel = other
      · subst same
        right; right
        simp [perform]
      · left
        simp [perform, channel_withChannel_of_ne same]
  | stop other =>
      by_cases same : channel = other
      · subst same
        right; left
        simp [perform]
      · left
        simp [perform, channel_withChannel_of_ne same]

theorem eased_call {pinCall : PinCall}
    (low : ∀ channel, pinCall = .updateDuty channel → (outputs.channel channel).duty = 0) :
    Eased outputs (outputs.call answers pinCall).2 := by
  intro channel
  by_cases ok : (outputs.call answers pinCall).1 = espOk
  · rw [call_ok ok]
    rcases level_perform pinCall channel with same | lowered | ⟨updates, raised⟩
    · exact Or.inl same
    · exact Or.inr lowered
    · exact Or.inr (raised.trans (low channel updates))
  · exact Or.inl (congrArg LedcChannel.level (call_failed ok channel))

theorem eased_call_calm {pinCall : PinCall} (calm : pinCall.calm = true) :
    Eased outputs (outputs.call answers pinCall).2 := by
  apply eased_call
  rintro channel rfl
  cases calm

theorem eased_all {pinCalls : List PinCall} (calm : ∀ pinCall ∈ pinCalls, pinCall.calm = true) :
    Eased outputs (outputs.all answers pinCalls).2 := by
  induction pinCalls generalizing outputs with
  | nil => exact Eased.refl outputs
  | cons pinCall rest inductionHypothesis =>
      have first := @eased_call_calm answers outputs pinCall (calm pinCall List.mem_cons_self)
      exact first.trans (inductionHypothesis fun other within =>
        calm other (List.mem_cons_of_mem _ within))

/-- When all calls have succeeded, the channels that were stopped are low. -/
theorem low_of_all {pinCalls : List PinCall} {channel : Channel}
    (calm : ∀ pinCall ∈ pinCalls, pinCall.calm = true) (stopped : .stop channel ∈ pinCalls)
    (ok : (outputs.all answers pinCalls).1 = espOk) :
    ((outputs.all answers pinCalls).2.channel channel).level = 0 := by
  induction pinCalls generalizing outputs with
  | nil => cases stopped
  | cons pinCall rest inductionHypothesis =>
      have calmRest : ∀ other ∈ rest, other.calm = true := fun other within =>
        calm other (List.mem_cons_of_mem _ within)
      have whole : (if (outputs.call answers pinCall).1 = espOk then
          ((outputs.call answers pinCall).2.all answers rest).1
        else (outputs.call answers pinCall).1) = espOk := ok
      have first : (outputs.call answers pinCall).1 = espOk := by
        by_contra failed
        rw [if_neg failed] at whole
        exact failed whole
      rw [if_pos first] at whole
      show (((outputs.call answers pinCall).2.all answers rest).2.channel channel).level = 0
      rcases List.mem_cons.mp stopped with here | later
      · apply (eased_all calmRest).low
        rw [call_ok first, ← here]
        simp [perform]
      · exact inductionHypothesis calmRest later whole

end Outputs

end MissionBoard.Actuators
