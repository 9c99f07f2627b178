import MissionBoard.Actuators.MotorOutcome
import MissionBoard.Runtime.RuntimeStatus

/-!
Owns what `missionRealtimeTask` asks of the motor driver in each of its iterations: whether the motor coasts,
brakes or turns, what becomes of a call that fails, and the fin mode that it reports of it.

The torque requests of the two controllers and what `torque_mapper` makes of them are inputs.
-/

namespace MissionBoard.Runtime

open Actuators Protocol Mission
open Characterization (espOk)

/-! ### The output of an iteration -/

/-- What an iteration reads for the output, its status included -/
structure OutputInput where
  /-- The calls of `coast` that recovery and the emergencies make before the output -/
  stops : ℕ := 0
  recoveryRequested : Bool := false
  actuatorOutputInhibited : Bool := false
  status : StatusInput := {}
  commandFinTargetIsUnwrapped : Bool := false
  finObservationValid : Bool := false
  attitudeEpoch : UInt32 := 0
  attitudeFresh : Bool := false
  airspeedAvailable : Bool := false
  /-- `request.valid` of the controller that is asked -/
  requestValid : Bool := false
  /-- What `torque_mapper.map` makes of the request -/
  motorCommand : MotorCommand

/-- A call of the driver with `motor_output_coasting` and `motor_output_braking` -/
structure OutputChoice where
  call : MotorCall
  coasting : Bool
  braking : Bool

namespace OutputInput

def coasts : OutputChoice := ⟨.coast, true, false⟩

def brakes : OutputChoice := ⟨.brake, false, true⟩

variable (input : OutputInput)

/-- `applyTorque` -/
def applyTorque : OutputChoice where
  call :=
    if ¬input.requestValid ∨ ¬input.motorCommand.valid ∨ input.motorCommand.brake then .brake
    else .apply input.motorCommand
  coasting := false
  braking := !input.requestValid || !input.motorCommand.valid

/-- `output_inhibited` -/
def outputInhibited : Bool :=
  input.recoveryRequested || input.actuatorOutputInhibited ||
    input.status.missionSnapshot.resetInvalidated

/-- `command_sample_valid` -/
def commandSampleValid : Bool :=
  if input.status.commandFinMode = .positionHold ∧ input.commandFinTargetIsUnwrapped then
    input.finObservationValid
  else input.status.finSampleValid

/-- `roll_deviation_rad` -/
def rollDeviationRad : Double :=
  input.status.attitude.rollEstimateLiftoffRelativeUnwrappedRad.sub
    input.status.missionSnapshot.controlRollReferenceUnwrappedRad

/-- `inputs_valid` -/
def inputsValid : Bool :=
  input.status.finSampleValid && input.status.missionSnapshot.controlRollReferenceValid &&
    input.status.attitude.valid && input.attitudeFresh && input.rollDeviationRad.isFinite &&
    input.attitudeEpoch == input.status.missionSnapshot.flightEpoch && input.airspeedAvailable

/-- What is asked of the driver -/
def choose (motorReady initialized : Bool) : OutputChoice :=
  if input.outputInhibited then coasts
  else if input.status.missionSnapshot.state = .commandReceive then
    if input.status.commandFinMode = .free then coasts
    else if !motorReady || !initialized || !input.commandSampleValid then brakes
    else input.applyTorque
  else if !motorReady || !initialized then coasts
  else if !input.status.motorProfileValid then brakes
  else
    match input.status.missionSnapshot.fin with
    | .zeroHold => if input.status.finSampleValid then input.applyTorque else brakes
    | .rollControl => if input.inputsValid then input.applyTorque else brakes
    | .free | .brake => brakes

end OutputInput

/-- The driver, `motor_ready`, and what the last iteration left -/
structure FinOutput where
  motor : Motor
  motorReady : Bool
  /-- The answer to the last call of the driver -/
  result : Int32 := espOk
  coasting : Bool := false
  braking : Bool := false

namespace FinOutput

variable (answers : ℕ → Int32)

/-- The start of the task -/
def start (safeOutputs : Bool) : FinOutput :=
  let (result, motor) := Motor.initializeDriver .flight answers {} safeOutputs
  { motor, motorReady := result = espOk, result }

/-- The driver when the output is chosen -/
def stopped (output : FinOutput) (input : OutputInput) : Motor :=
  Run.after (Motor.step .flight answers) output.motor (List.replicate input.stops .coast)

/-- What an iteration asks of the driver -/
def choice (output : FinOutput) (input : OutputInput) : OutputChoice :=
  input.choose output.motorReady (output.stopped answers input).driver.initialized

/-- The output of an iteration, with the `coast` that follows on an error -/
def iterate (output : FinOutput) (input : OutputInput) : FinOutput :=
  let choice := output.choice answers input
  let (result, motor) := (output.stopped answers input).perform .flight answers choice.call
  if result = espOk then
    { motor, motorReady := output.motorReady, result,
      coasting := choice.coasting, braking := choice.braking }
  else
    let (result, motor) := motor.coast .flight answers
    { motor, motorReady := false, result, coasting := true, braking := false }

/-- What comes of these iterations after the start of the task -/
def reached (safeOutputs : Bool) (inputs : List OutputInput) : FinOutput :=
  Run.after (iterate answers) (start answers safeOutputs) inputs

/-- `status.fin_mode` after an iteration -/
def reportedMode (output : FinOutput) (input : OutputInput) : FinMode :=
  StatusInput.finMode
    { input.status with
      motorOutputCoasting := output.coasting
      motorOutputBraking := output.braking }

end FinOutput

/-! ### What is chosen -/

namespace OutputInput

variable {input : OutputInput} {ready initialized : Bool}

/-- The motor may turn. -/
def Authorised (input : OutputInput) : Prop :=
  input.outputInhibited = false ∧
    if input.status.missionSnapshot.state = .commandReceive then
      input.status.commandFinMode ≠ .free ∧ input.commandSampleValid = true
    else
      input.status.motorProfileValid = true ∧
        (input.status.missionSnapshot.fin = .zeroHold ∧ input.status.finSampleValid = true ∨
          input.status.missionSnapshot.fin = .rollControl ∧ input.inputsValid = true)

theorem choose_inhibited (inhibited : input.outputInhibited = true) :
    input.choose ready initialized = coasts := if_pos inhibited

/-- All that an iteration can ask of the driver -/
theorem choose_cases (input : OutputInput) (ready initialized : Bool) :
    input.choose ready initialized = coasts ∨
      (input.choose ready initialized = brakes ∧
        (ready = true ∨ input.status.missionSnapshot.state = .commandReceive)) ∨
      (input.choose ready initialized = input.applyTorque ∧ ready = true ∧ input.Authorised) := by
  unfold choose Authorised
  cases inhibited : input.outputInhibited
  swap
  · exact Or.inl rfl
  by_cases ground : input.status.missionSnapshot.state = .commandReceive
  · simp only [ground, if_true, Bool.false_eq_true, if_false]
    by_cases free : input.status.commandFinMode = .free
    · exact Or.inl (if_pos free)
    · rw [if_neg free]
      cases ready <;> cases initialized <;> cases valid : input.commandSampleValid <;> simp [free]
  · simp only [ground, if_false, Bool.false_eq_true]
    cases ready
    · exact Or.inl rfl
    cases initialized
    · exact Or.inl rfl
    cases profile : input.status.motorProfileValid
    · exact Or.inr (Or.inl ⟨rfl, Or.inl rfl⟩)
    cases input.status.missionSnapshot.fin with
    | zeroHold => cases valid : input.status.finSampleValid <;> simp
    | rollControl => cases valid : input.inputsValid <;> simp
    | free => simp
    | brake => simp

/-- A torque without a valid request and a valid command brakes. -/
theorem applyTorque_cases (input : OutputInput) :
    (input.applyTorque.call = .brake ∧ input.applyTorque.braking = true) ∨
      (input.requestValid = true ∧ input.motorCommand.valid = true ∧
        input.applyTorque.braking = false ∧
        input.applyTorque.call =
          if input.motorCommand.brake then .brake else .apply input.motorCommand) := by
  unfold applyTorque
  cases input.requestValid
  · exact Or.inl ⟨rfl, rfl⟩
  cases input.motorCommand.valid
  · exact Or.inl ⟨rfl, rfl⟩
  cases brake : input.motorCommand.brake <;> simp

end OutputInput

/-! ### What is reported -/

namespace FinOutput

open OutputInput

variable {output : FinOutput} {input : OutputInput}

theorem reportedMode_coasting (coasting : output.coasting = true) :
    output.reportedMode input = .free := if_pos coasting

theorem reportedMode_braking (coasting : output.coasting = false) (braking : output.braking = true) :
    output.reportedMode input = .brake := by
  unfold reportedMode StatusInput.finMode
  simp [coasting, braking]

/-- A motor that neither coasts nor brakes is reported in the mode that had it turn. -/
theorem reportedMode_turning (authorised : input.Authorised) (coasting : output.coasting = false)
    (braking : output.braking = false) :
    output.reportedMode input ≠ .free ∧ output.reportedMode input ≠ .brake := by
  obtain ⟨-, permits⟩ := authorised
  unfold reportedMode StatusInput.finMode StatusInput.finMode.commanded
  simp only [coasting, braking, Bool.false_eq_true, if_false]
  by_cases ground : input.status.missionSnapshot.state = .commandReceive
  · rw [if_pos ground] at permits
    obtain ⟨turns, -⟩ := permits
    cases mode : input.status.commandFinMode with
    | free => exact absurd mode turns
    | zeroHold => cases input.status.missionSnapshot.fin <;> simp [ground]
    | positionHold => cases input.status.missionSnapshot.fin <;> simp [ground]
    | relativeMove => cases input.status.missionSnapshot.fin <;> simp [ground]
  · rw [if_neg ground] at permits
    rcases permits.2 with ⟨hold, -⟩ | ⟨roll, -⟩
    · simp [hold, ground]
    · simp [roll, ground]

/-- What the mode that is reported says of the inputs of the bridge -/
structure Shows (ready : Bool) (input : OutputInput) (mode : FinMode) (levels : ℕ × ℕ) : Prop where
  free : mode = .free → levels = (0, 0)
  brake : mode = .brake → levels = (kMaximumDutyCount, kMaximumDutyCount)
  turning : mode ≠ .free → mode ≠ .brake → ready = true ∧ input.Authorised ∧
    input.requestValid = true ∧ input.motorCommand.valid = true ∧
    levels = if input.motorCommand.brake then (kMaximumDutyCount, kMaximumDutyCount)
      else Motor.turned input.motorCommand

/-! ### One iteration -/

/-- What the call for the output answers and leaves -/
def performed (answers : ℕ → Int32) (output : FinOutput) (input : OutputInput) : Int32 × Motor :=
  (output.stopped answers input).perform .flight answers (output.choice answers input).call

variable {answers : ℕ → Int32}

theorem performed_of_choice {choice : OutputChoice} (chosen : output.choice answers input = choice) :
    output.performed answers input =
      (output.stopped answers input).perform .flight answers choice.call := by
  rw [← chosen]
  rfl

theorem iterate_done (done : (output.performed answers input).1 = espOk) :
    output.iterate answers input =
      { motor := (output.performed answers input).2
        motorReady := output.motorReady
        result := (output.performed answers input).1
        coasting := (output.choice answers input).coasting
        braking := (output.choice answers input).braking } := if_pos done

/-- After an error the motor is told to coast and no longer ready. -/
theorem iterate_failed (failed : (output.performed answers input).1 ≠ espOk) :
    output.iterate answers input =
      { motor := ((output.performed answers input).2.coast .flight answers).2
        motorReady := false
        result := ((output.performed answers input).2.coast .flight answers).1
        coasting := true
        braking := false } := if_neg failed

theorem truthful_stopped (truthful : output.motor.Truthful) :
    (output.stopped answers input).Truthful := by
  have coasted : ∀ (stops : ℕ) (motor : Motor), motor.Truthful →
      (Run.after (Motor.step .flight answers) motor (List.replicate stops .coast)).Truthful := by
    intro stops
    induction stops with
    | zero => exact fun _ truthful => truthful
    | succ stops inductionHypothesis =>
        intro motor truthful
        exact inductionHypothesis _ (truthful.flies .coast)
  exact coasted input.stops output.motor truthful

theorem truthful_performed (truthful : output.motor.Truthful) :
    (output.performed answers input).2.Truthful :=
  (truthful_stopped truthful).flies (output.choice answers input).call

theorem truthful_iterate (truthful : output.motor.Truthful) :
    (output.iterate answers input).motor.Truthful := by
  have called : (output.performed answers input).2.Truthful := truthful_performed truthful
  by_cases done : (output.performed answers input).1 = espOk
  · rw [iterate_done done]
    exact called
  · rw [iterate_failed done]
    exact called.coast

theorem motorReady_iterate (unready : output.motorReady = false) :
    (output.iterate answers input).motorReady = false := by
  by_cases done : (output.performed answers input).1 = espOk
  · rw [iterate_done done]
    exact unready
  · rw [iterate_failed done]

theorem shows_coasting {ready : Bool} (coasting : output.coasting = true)
    (low : output.motor.outputs.levels = (0, 0)) :
    Shows ready input (output.reportedMode input) output.motor.outputs.levels := by
  have reported : output.reportedMode input = .free := reportedMode_coasting coasting
  rw [reported]
  exact ⟨fun _ => low, fun brake => FinMode.noConfusion brake, fun turns => absurd rfl turns⟩

theorem shows_braking {ready : Bool} (coasting : output.coasting = false)
    (braking : output.braking = true)
    (high : output.motor.outputs.levels = (kMaximumDutyCount, kMaximumDutyCount)) :
    Shows ready input (output.reportedMode input) output.motor.outputs.levels := by
  have reported : output.reportedMode input = .brake := reportedMode_braking coasting braking
  rw [reported]
  exact ⟨fun free => FinMode.noConfusion free, fun _ => high, fun _ turns => absurd rfl turns⟩

theorem shows_turning {ready : Bool} (coasting : output.coasting = false)
    (braking : output.braking = false) (isReady : ready = true) (authorised : input.Authorised)
    (requested : input.requestValid = true) (valid : input.motorCommand.valid = true)
    (levels : output.motor.outputs.levels = if input.motorCommand.brake then
      (kMaximumDutyCount, kMaximumDutyCount) else Motor.turned input.motorCommand) :
    Shows ready input (output.reportedMode input) output.motor.outputs.levels := by
  obtain ⟨notFree, notBrake⟩ := reportedMode_turning authorised coasting braking
  exact ⟨fun free => absurd free notFree, fun brake => absurd brake notBrake, fun _ _ =>
    ⟨isReady, authorised, requested, valid, levels⟩⟩

/-- After an iteration whose last call has succeeded the reported mode is true of the bridge. -/
theorem shows_iterate (truthful : output.motor.Truthful)
    (ok : (output.iterate answers input).result = espOk) :
    Shows output.motorReady input ((output.iterate answers input).reportedMode input)
      (output.iterate answers input).motor.outputs.levels := by
  have calm : (output.stopped answers input).Truthful := truthful_stopped truthful
  by_cases done : (output.performed answers input).1 = espOk
  swap
  · rw [iterate_failed done] at ok ⊢
    have called : (output.performed answers input).2.Truthful := truthful_performed truthful
    exact shows_coasting rfl (Motor.coast_low called.toWired Motor.flight_stops ok)
  rcases choose_cases input output.motorReady (output.stopped answers input).driver.initialized with
    coasts | ⟨brakes, -⟩ | ⟨turns, ready, authorised⟩
  · have chosen : output.choice answers input = OutputInput.coasts := coasts
    rw [iterate_done done, performed_of_choice chosen, chosen]
    rw [performed_of_choice chosen] at done
    exact shows_coasting rfl (Motor.coast_low calm.toWired Motor.flight_stops done)
  · have chosen : output.choice answers input = OutputInput.brakes := brakes
    rw [iterate_done done, performed_of_choice chosen, chosen]
    rw [performed_of_choice chosen] at done
    exact shows_braking rfl rfl (Motor.brake_high done)
  · have chosen : output.choice answers input = input.applyTorque := turns
    rw [iterate_done done, performed_of_choice chosen, chosen]
    rw [performed_of_choice chosen] at done
    rcases applyTorque_cases input with ⟨called, braking⟩ | ⟨requested, valid, braking, called⟩
    · rw [called] at done ⊢
      exact shows_braking rfl braking (Motor.brake_high done)
    · apply shows_turning rfl braking ready authorised requested valid
      rw [called] at done ⊢
      by_cases brake : input.motorCommand.brake = true
      · rw [if_pos brake] at done ⊢
        rw [if_pos brake]
        exact Motor.brake_high done
      · rw [if_neg brake] at done ⊢
        rw [if_neg brake]
        exact Motor.apply_turned done

/-- A motor that is not ready coasts, or brakes on the ground. -/
theorem rests_iterate (truthful : output.motor.Truthful) (unready : output.motorReady = false)
    (ok : (output.iterate answers input).result = espOk) :
    (output.iterate answers input).motor.outputs.levels = (0, 0) ∨
      (input.status.missionSnapshot.state = .commandReceive ∧
        (output.iterate answers input).motor.outputs.levels =
          (kMaximumDutyCount, kMaximumDutyCount)) := by
  have calm : (output.stopped answers input).Truthful := truthful_stopped truthful
  by_cases done : (output.performed answers input).1 = espOk
  swap
  · rw [iterate_failed done] at ok ⊢
    have called : (output.performed answers input).2.Truthful := truthful_performed truthful
    exact Or.inl (Motor.coast_low called.toWired Motor.flight_stops ok)
  have isReady : ¬output.motorReady = true := by
    rw [unready]
    exact Bool.false_ne_true
  rcases choose_cases input output.motorReady (output.stopped answers input).driver.initialized with
    coasts | ⟨brakes, ready | ground⟩ | ⟨-, ready, -⟩
  · have chosen : output.choice answers input = OutputInput.coasts := coasts
    rw [iterate_done done, performed_of_choice chosen, chosen]
    rw [performed_of_choice chosen] at done
    exact Or.inl (Motor.coast_low calm.toWired Motor.flight_stops done)
  · exact absurd ready isReady
  · have chosen : output.choice answers input = OutputInput.brakes := brakes
    rw [iterate_done done, performed_of_choice chosen, chosen]
    rw [performed_of_choice chosen] at done
    exact Or.inr ⟨ground, Motor.brake_high done⟩
  · exact absurd ready isReady

/-- As long as the output is inhibited no input of the bridge is raised. -/
theorem eased_iterate (inhibited : input.outputInhibited = true) :
    Outputs.Eased output.motor.outputs (output.iterate answers input).motor.outputs := by
  have chosen : output.choice answers input = OutputInput.coasts := choose_inhibited inhibited
  have stopped : Outputs.Eased output.motor.outputs (output.stopped answers input).outputs :=
    Motor.eased_coasts input.stops
  have called : Outputs.Eased output.motor.outputs (output.performed answers input).2.outputs := by
    rw [performed_of_choice chosen]
    exact stopped.trans Motor.eased_coast
  by_cases done : (output.performed answers input).1 = espOk
  · rw [iterate_done done]
    exact called
  · rw [iterate_failed done]
    exact called.trans Motor.eased_coast

/-! ### Every iteration of a run -/

variable {safeOutputs : Bool}

theorem truthful_after {start : FinOutput} (truthful : start.motor.Truthful)
    (inputs : List OutputInput) : (Run.after (iterate answers) start inputs).motor.Truthful := by
  induction inputs generalizing start with
  | nil => exact truthful
  | cons input rest inductionHypothesis => exact inductionHypothesis (truthful_iterate truthful)

theorem truthful_reached (inputs : List OutputInput) :
    (reached answers safeOutputs inputs).motor.Truthful := by
  apply truthful_after
  exact Motor.truthful_off.initializeDriver safeOutputs

theorem motorReady_after {start : FinOutput} (unready : start.motorReady = false)
    (inputs : List OutputInput) : (Run.after (iterate answers) start inputs).motorReady = false := by
  induction inputs generalizing start with
  | nil => exact unready
  | cons input rest inductionHypothesis => exact inductionHypothesis (motorReady_iterate unready)

theorem eased_after {start : FinOutput} {inputs : List OutputInput}
    (inhibited : ∀ input ∈ inputs, input.outputInhibited = true) :
    Outputs.Eased start.motor.outputs (Run.after (iterate answers) start inputs).motor.outputs := by
  induction inputs generalizing start with
  | nil => exact Outputs.Eased.refl _
  | cons input rest inductionHypothesis =>
      have first : Outputs.Eased start.motor.outputs (start.iterate answers input).motor.outputs :=
        eased_iterate (inhibited input List.mem_cons_self)
      exact first.trans (inductionHypothesis fun other within =>
        inhibited other (List.mem_cons_of_mem _ within))

/-- Zero hold on command, at a quarter of the duty -/
def heldInput : OutputInput where
  status := { commandFinMode := .zeroHold, finSampleValid := true }
  requestValid := true
  motorCommand := ⟨.finite (1 / 4), true, false, true⟩

/-- Once a call for the output has failed, the motor is never turned again: after every later iteration whose
last call has succeeded both inputs are low, or, on the ground, both high. -/
theorem failed_output_rests {earlier later : List OutputInput} {input : OutputInput}
    (failed : (reached answers safeOutputs earlier).motorReady = false)
    (ok : ((reached answers safeOutputs (earlier ++ later)).iterate answers input).result = espOk) :
    ((reached answers safeOutputs (earlier ++ later)).iterate answers input).motor.outputs.levels =
        (0, 0) ∨
      (input.status.missionSnapshot.state = .commandReceive ∧
        ((reached answers safeOutputs (earlier ++ later)).iterate answers
          input).motor.outputs.levels = (kMaximumDutyCount, kMaximumDutyCount)) := by
  have unready : (reached answers safeOutputs (earlier ++ later)).motorReady = false := by
    unfold reached at failed ⊢
    rw [Run.after_append]
    exact motorReady_after failed later
  exact rests_iterate (truthful_reached _) unready ok

/-- The call that would turn the motor fails. -/
def turningFails (call : ℕ) : Int32 := if call = 9 then -1 else 0

theorem failed_output_rests_turning :
    ((reached turningFails true ([heldInput] ++ [heldInput])).iterate turningFails
        heldInput).motor.outputs.levels = (0, 0) ∨
      (heldInput.status.missionSnapshot.state = .commandReceive ∧
        ((reached turningFails true ([heldInput] ++ [heldInput])).iterate turningFails
          heldInput).motor.outputs.levels = (1023, 1023)) :=
  failed_output_rests (by decide +kernel) (by decide +kernel)

/-- A stop holds: once an inhibited iteration has had the motor coast, both inputs stay low as long as the
output is inhibited, whatever becomes of the later calls. -/
theorem stop_holds {earlier later : List OutputInput} {stop : OutputInput}
    (inhibited : ∀ input ∈ stop :: later, input.outputInhibited = true)
    (ok : ((reached answers safeOutputs earlier).iterate answers stop).result = espOk) :
    (reached answers safeOutputs (earlier ++ stop :: later)).motor.outputs.levels = (0, 0) := by
  have stopped := shows_iterate (truthful_reached earlier) ok
  have coasting : ((reached answers safeOutputs earlier).iterate answers stop).coasting = true := by
    have chosen : (reached answers safeOutputs earlier).choice answers stop = OutputInput.coasts :=
      choose_inhibited (inhibited stop List.mem_cons_self)
    by_cases done : ((reached answers safeOutputs earlier).performed answers stop).1 = espOk
    · rw [iterate_done done, chosen]
      rfl
    · rw [iterate_failed done]
  have low := stopped.free (reportedMode_coasting coasting)
  have eased : Outputs.Eased ((reached answers safeOutputs earlier).iterate answers stop).motor.outputs
      (Run.after (iterate answers) ((reached answers safeOutputs earlier).iterate answers stop)
        later).motor.outputs :=
    eased_after fun other within => inhibited other (List.mem_cons_of_mem _ within)
  have whole : reached answers safeOutputs (earlier ++ stop :: later) =
      Run.after (iterate answers) ((reached answers safeOutputs earlier).iterate answers stop)
        later := by
    unfold reached
    rw [Run.after_append, Run.after_cons]
  rw [whole]
  exact Prod.ext (eased.low1 (congrArg Prod.fst low)) (eased.low2 (congrArg Prod.snd low))

/-- An actuator emergency stop after the motor has turned -/
def stoppedInput : OutputInput :=
  { heldInput with stops := 2, actuatorOutputInhibited := true }

/-- From the thirtieth call on every call fails. -/
def laterFails (call : ℕ) : Int32 := if 30 ≤ call then -1 else 0

theorem stop_holds_later :
    (reached laterFails true ([heldInput] ++ stoppedInput :: [stoppedInput])).motor.outputs.levels =
      (0, 0) := by
  have inhibited : ∀ input ∈ stoppedInput :: [stoppedInput], input.outputInhibited = true := by
    simp [stoppedInput, outputInhibited]
  exact stop_holds inhibited (by decide +kernel)

end FinOutput

end MissionBoard.Runtime
