import Mathlib.Algebra.Order.Field.Basic
import Mathlib.Algebra.Order.Group.Abs
import Mathlib.Tactic.Linarith
import Mathlib.Tactic.NormNum
import MissionBoard.Numeric.Double

/-!
Owns the torque mapping of `control/control_pipeline.cpp` in exact arithmetic: `TorqueMapper::map`,
from the torque asked for at the fin to what the motor driver is told.

The parameters of a motor are finite values here; the inputs of a call are doubles.
-/

namespace MissionBoard.Control

/-! ### Clamping -/

/-- `std::copysign` -/
def copysign (magnitude sign : ℚ) : ℚ := if sign < 0 then -|magnitude| else |magnitude|

/-- `clampMagnitude`, and `saturated` after it -/
def clampMagnitude (value limit : ℚ) (saturated : Bool) : ℚ × Bool :=
  if |value| ≤ limit then (value, saturated) else (copysign limit value, true)

section

variable {value limit : ℚ} {saturated : Bool}

theorem clampMagnitude_of_le (within : |value| ≤ limit) :
    clampMagnitude value limit saturated = (value, saturated) := if_pos within

theorem clampMagnitude_of_lt (beyond : limit < |value|) :
    clampMagnitude value limit saturated = (copysign limit value, true) :=
  if_neg (not_le.mpr beyond)

theorem abs_copysign (magnitude sign : ℚ) : |copysign magnitude sign| = |magnitude| := by
  unfold copysign
  split
  · rw [abs_neg, abs_abs]
  · exact abs_abs magnitude

/-- It is the nearest value within the limit. -/
theorem clampMagnitude_eq (positive : 0 < limit) :
    (clampMagnitude value limit saturated).1 = max (-limit) (min limit value) := by
  by_cases within : |value| ≤ limit
  · rw [clampMagnitude_of_le within, min_eq_right (abs_le.mp within).2,
      max_eq_right (abs_le.mp within).1]
  · have beyond := not_le.mp within
    rw [clampMagnitude_of_lt beyond]
    show (if value < 0 then -|limit| else |limit|) = _
    rw [abs_of_pos positive]
    split
    · rename_i negative
      rw [abs_of_neg negative] at beyond
      rw [min_eq_right (by linarith), max_eq_left (by linarith)]
    · rename_i nonnegative
      rw [abs_of_nonneg (not_lt.mp nonnegative)] at beyond
      rw [min_eq_left beyond.le, max_eq_right (by linarith)]

/-- A clamped value is within the limit. -/
theorem abs_clampMagnitude_le (positive : 0 < limit) :
    |(clampMagnitude value limit saturated).1| ≤ limit := by
  by_cases within : |value| ≤ limit
  · rw [clampMagnitude_of_le within]
    exact within
  · rw [clampMagnitude_of_lt (not_le.mp within)]
    exact ((abs_copysign limit value).trans (abs_of_pos positive)).le

/-- And has the sign that the value had. -/
theorem clampMagnitude_neg_iff (positive : 0 < limit) :
    (clampMagnitude value limit saturated).1 < 0 ↔ value < 0 := by
  by_cases within : |value| ≤ limit
  · rw [clampMagnitude_of_le within]
  · rw [clampMagnitude_of_lt (not_le.mp within)]
    unfold copysign
    rw [abs_of_pos positive]
    split
    · rename_i negative
      exact iff_of_true (neg_lt_zero.mpr positive) negative
    · rename_i nonnegative
      exact iff_of_false positive.not_gt nonnegative

theorem clampMagnitude_pos_iff (positive : 0 < limit) :
    0 < (clampMagnitude value limit saturated).1 ↔ 0 < value := by
  by_cases within : |value| ≤ limit
  · rw [clampMagnitude_of_le within]
  · have beyond := not_le.mp within
    rw [clampMagnitude_of_lt beyond]
    unfold copysign
    rw [abs_of_pos positive]
    split
    · rename_i negative
      exact iff_of_false (neg_lt_zero.mpr positive).not_gt negative.not_gt
    · rename_i nonnegative
      rw [abs_of_nonneg (not_lt.mp nonnegative)] at beyond
      exact iff_of_true positive (positive.trans beyond)

/-- It is marked as saturated when it was before, or when the clamp changed it. -/
theorem saturated_clampMagnitude_iff (positive : 0 < limit) :
    (clampMagnitude value limit saturated).2 = true ↔
      saturated = true ∨ (clampMagnitude value limit saturated).1 ≠ value := by
  by_cases within : |value| ≤ limit
  · rw [clampMagnitude_of_le within]
    exact (or_iff_left fun changed => changed rfl).symm
  · have beyond := not_le.mp within
    rw [clampMagnitude_of_lt beyond]
    refine iff_of_true rfl (Or.inr fun same => ?_)
    have size := abs_copysign limit value
    rw [abs_of_pos positive, show copysign limit value = value from same] at size
    exact beyond.ne size.symm

end

/-! ### The mapping -/

/-- `MotorPolarity` -/
inductive MotorPolarity where
  | unconfigured
  | positiveIn1
  | positiveIn2
deriving DecidableEq

/-- `MotorProfile` -/
structure MotorProfile where
  polarity : MotorPolarity
  parametersValid : Bool
  resistanceOhm : ℚ
  torqueConstantNmPerA : ℚ
  speedConstantRpmPerV : ℚ
  drivetrainEfficiency : ℚ
  maxMotorCurrentA : ℚ
  maxOutputTorqueNm : ℚ
deriving DecidableEq

/-- `FinSoftwareLimits` -/
structure FinSoftwareLimits where
  configured : Bool
  minimumRad : ℚ
  maximumRad : ℚ
deriving DecidableEq

/-- `MotorCommand` -/
structure MotorCommand where
  requestedOutputTorqueNm : ℚ := 0
  motorCurrentA : ℚ := 0
  motorVoltageV : ℚ := 0
  pwmDuty : ℚ := 0
  positiveIn1 : Bool := false
  saturated : Bool := false
  brake : Bool := true
  valid : Bool := false
deriving DecidableEq

/-- `kPi` -/
def kPi : ℚ := 3.14159265358979323846

/-- `kRadiansPerRpm` -/
def kRadiansPerRpm : ℚ := 2 * kPi / 60

/-- `kTotalGearRatio` -/
def kTotalGearRatio : ℚ := 176.175

/-- `TorqueMapper` -/
structure TorqueMapper where
  profile : MotorProfile
  limits : FinSoftwareLimits
deriving DecidableEq

namespace TorqueMapper

/-- What `map` refuses before it looks at its inputs -/
def refuses (mapper : TorqueMapper) : Bool :=
  !mapper.profile.parametersValid || mapper.profile.polarity == .unconfigured ||
    !mapper.limits.configured || mapper.profile.resistanceOhm ≤ 0 ||
    mapper.profile.torqueConstantNmPerA ≤ 0 || mapper.profile.speedConstantRpmPerV ≤ 0 ||
    mapper.profile.drivetrainEfficiency ≤ 0 || mapper.profile.maxMotorCurrentA ≤ 0 ||
    mapper.profile.maxOutputTorqueNm ≤ 0 || mapper.limits.minimumRad ≥ mapper.limits.maximumRad

/-- The current for a torque at the fin, before it is limited -/
def currentFor (mapper : TorqueMapper) (torque : ℚ) : ℚ :=
  let motorTorque := torque / (kTotalGearRatio * mapper.profile.drivetrainEfficiency)
  motorTorque / mapper.profile.torqueConstantNmPerA

/-- `back_emf_v` -/
def backEmfV (mapper : TorqueMapper) (finRateRadS : ℚ) : ℚ :=
  let motorSpeedRadS := finRateRadS * kTotalGearRatio
  let motorSpeedRpm := motorSpeedRadS / kRadiansPerRpm
  motorSpeedRpm / mapper.profile.speedConstantRpmPerV

/-- The end of `map`, for a torque that no position limit holds back -/
def drive (mapper : TorqueMapper) (torque : ℚ) (saturated : Bool) (finRateRadS motorBusVoltageV : ℚ) :
    MotorCommand :=
  let clamped :=
    clampMagnitude (mapper.currentFor torque) mapper.profile.maxMotorCurrentA saturated
  let current := clamped.1
  let voltage := current * mapper.profile.resistanceOhm + mapper.backEmfV finRateRadS
  let duty := max 0 (min 1 (|voltage| / motorBusVoltageV))
  let saturated := if |voltage| > motorBusVoltageV then true else clamped.2
  let positiveVoltage := decide (voltage ≥ 0)
  let positiveIn1 :=
    if mapper.profile.polarity = .positiveIn1 then positiveVoltage else !positiveVoltage
  { requestedOutputTorqueNm := torque
    motorCurrentA := current
    motorVoltageV := voltage
    pwmDuty := duty
    positiveIn1 := positiveIn1
    saturated := saturated
    brake := false
    valid := true }

/-- `map` -/
def map (mapper : TorqueMapper) (requestedOutputTorqueNm finAngleRad finRateRadS
    motorBusVoltageV : Double) : MotorCommand :=
  match requestedOutputTorqueNm, finAngleRad, finRateRadS, motorBusVoltageV with
  | .finite requested, .finite angle, .finite rate, .finite bus =>
      if mapper.refuses || bus ≤ 0 then {}
      else
        let clamped := clampMagnitude requested mapper.profile.maxOutputTorqueNm false
        let torque := clamped.1
        let upperLimitBrake := decide (angle ≥ mapper.limits.maximumRad ∧ torque ≥ 0)
        let lowerLimitBrake := decide (angle ≤ mapper.limits.minimumRad ∧ torque ≤ 0)
        if upperLimitBrake || lowerLimitBrake then
          { requestedOutputTorqueNm := 0
            motorCurrentA := 0
            motorVoltageV := 0
            pwmDuty := 0
            positiveIn1 := true
            saturated := true
            brake := true
            valid := true }
        else mapper.drive torque clamped.2 rate bus
  | _, _, _, _ => {}

/-- A mapper that can be used -/
structure Configured (mapper : TorqueMapper) : Prop where
  parametersValid : mapper.profile.parametersValid = true
  polarity : mapper.profile.polarity ≠ .unconfigured
  limits : mapper.limits.configured = true
  resistance : 0 < mapper.profile.resistanceOhm
  torqueConstant : 0 < mapper.profile.torqueConstantNmPerA
  speedConstant : 0 < mapper.profile.speedConstantRpmPerV
  efficiency : 0 < mapper.profile.drivetrainEfficiency
  maxCurrent : 0 < mapper.profile.maxMotorCurrentA
  maxTorque : 0 < mapper.profile.maxOutputTorqueNm
  ordered : mapper.limits.minimumRad < mapper.limits.maximumRad

variable {mapper : TorqueMapper}

theorem refuses_eq_false_iff : mapper.refuses = false ↔ mapper.Configured := by
  simp only [refuses, Bool.or_eq_false_iff, Bool.not_eq_false', beq_eq_false_iff_ne,
    decide_eq_false_iff_not, not_le]
  constructor
  · rintro ⟨⟨⟨⟨⟨⟨⟨⟨⟨valid, polarity⟩, limits⟩, resistance⟩, torque⟩, speed⟩, efficiency⟩, current⟩,
      output⟩, ordered⟩
    exact ⟨valid, polarity, limits, resistance, torque, speed, efficiency, current, output, ordered⟩
  · rintro ⟨valid, polarity, limits, resistance, torque, speed, efficiency, current, output, ordered⟩
    exact ⟨⟨⟨⟨⟨⟨⟨⟨⟨valid, polarity⟩, limits⟩, resistance⟩, torque⟩, speed⟩, efficiency⟩, current⟩,
      output⟩, ordered⟩

/-- The command at a position limit -/
def brakeCommand : MotorCommand := { positiveIn1 := true, saturated := true, valid := true }

/-- The torque asked for at the fin, limited -/
def limitedTorque (mapper : TorqueMapper) (requested : ℚ) : ℚ :=
  (clampMagnitude requested mapper.profile.maxOutputTorqueNm false).1

/-- At or beyond a position limit, with no torque back to the centre -/
def Outward (mapper : TorqueMapper) (torque angle : ℚ) : Prop :=
  (mapper.limits.maximumRad ≤ angle ∧ 0 ≤ torque) ∨ (angle ≤ mapper.limits.minimumRad ∧ torque ≤ 0)

theorem outward_limitedTorque (configured : mapper.Configured) {requested angle : ℚ} :
    mapper.Outward (mapper.limitedTorque requested) angle ↔ mapper.Outward requested angle := by
  have nonnegative : 0 ≤ mapper.limitedTorque requested ↔ 0 ≤ requested := by
    rw [← not_lt, limitedTorque, clampMagnitude_neg_iff configured.maxTorque, not_lt]
  have nonpositive : mapper.limitedTorque requested ≤ 0 ↔ requested ≤ 0 := by
    rw [← not_lt, limitedTorque, clampMagnitude_pos_iff configured.maxTorque, not_lt]
  rw [Outward, Outward, nonnegative, nonpositive]

/-- What `map` makes of the inputs it accepts -/
theorem map_of_configured (configured : mapper.Configured) {requested angle rate bus : ℚ}
    (powered : 0 < bus) :
    (mapper.Outward requested angle ∧
        mapper.map (.finite requested) (.finite angle) (.finite rate) (.finite bus) =
          brakeCommand) ∨
      (¬ mapper.Outward requested angle ∧
        mapper.map (.finite requested) (.finite angle) (.finite rate) (.finite bus) =
          mapper.drive (mapper.limitedTorque requested)
            (clampMagnitude requested mapper.profile.maxOutputTorqueNm false).2 rate bus) := by
  have taken : ¬ (mapper.refuses || decide (bus ≤ 0)) = true := by
    rw [refuses_eq_false_iff.mpr configured, decide_eq_false (not_le.mpr powered)]
    exact Bool.false_ne_true
  have brakes : (decide (angle ≥ mapper.limits.maximumRad ∧ mapper.limitedTorque requested ≥ 0) ||
      decide (angle ≤ mapper.limits.minimumRad ∧ mapper.limitedTorque requested ≤ 0)) = true ↔
        mapper.Outward requested angle := by
    rw [Bool.or_eq_true, decide_eq_true_eq, decide_eq_true_eq]
    exact outward_limitedTorque configured
  unfold map
  dsimp only
  rw [if_neg taken]
  by_cases outward : mapper.Outward requested angle
  · exact Or.inl ⟨outward, if_pos (brakes.mpr outward)⟩
  · exact Or.inr ⟨outward, if_neg fun brake => outward (brakes.mp brake)⟩

/-- The inputs that `map` accepts -/
theorem map_valid_iff {requested angle rate bus : Double} :
    (mapper.map requested angle rate bus).valid = true ↔
      mapper.Configured ∧ ∃ requested' angle' rate' bus' : ℚ, requested = .finite requested' ∧
        angle = .finite angle' ∧ rate = .finite rate' ∧ bus = .finite bus' ∧ 0 < bus' := by
  constructor
  · intro valid
    unfold map at valid
    split at valid
    · rename_i requested' angle' rate' bus'
      split at valid
      · cases valid
      · rename_i taken
        rw [Bool.not_eq_true, Bool.or_eq_false_iff, refuses_eq_false_iff, decide_eq_false_iff_not,
          not_le] at taken
        exact ⟨taken.1, requested', angle', rate', bus', rfl, rfl, rfl, rfl, taken.2⟩
    · cases valid
  · rintro ⟨configured, requested', angle', rate', bus', rfl, rfl, rfl, rfl, powered⟩
    rcases @map_of_configured mapper configured requested' angle' rate' bus' powered with
      ⟨-, same⟩ | ⟨-, same⟩
    · rw [same]
      rfl
    · rw [same]
      rfl

/-! ### What a driven motor does -/

section

variable (configured : mapper.Configured)

include configured

theorem currentFor_neg {torque : ℚ} (negative : torque < 0) : mapper.currentFor torque < 0 := by
  have geared : 0 < kTotalGearRatio * mapper.profile.drivetrainEfficiency :=
    mul_pos (by norm_num [kTotalGearRatio]) configured.efficiency
  exact div_neg_of_neg_of_pos (div_neg_of_neg_of_pos negative geared) configured.torqueConstant

theorem currentFor_pos {torque : ℚ} (positive : 0 < torque) : 0 < mapper.currentFor torque := by
  have geared : 0 < kTotalGearRatio * mapper.profile.drivetrainEfficiency :=
    mul_pos (by norm_num [kTotalGearRatio]) configured.efficiency
  exact div_pos (div_pos positive geared) configured.torqueConstant

/-- A driven motor is saturated when the current or the voltage was limited, or the torque before.
-/
theorem saturated_drive_iff {torque rate bus : ℚ} {saturated : Bool} :
    (mapper.drive torque saturated rate bus).saturated = true ↔
      saturated = true ∨
        (mapper.drive torque saturated rate bus).motorCurrentA ≠ mapper.currentFor torque ∨
        bus < |(mapper.drive torque saturated rate bus).motorVoltageV| := by
  have clamped := @saturated_clampMagnitude_iff (mapper.currentFor torque) _ saturated
    configured.maxCurrent
  show (if |(mapper.drive torque saturated rate bus).motorVoltageV| > bus then true
    else (clampMagnitude (mapper.currentFor torque) mapper.profile.maxMotorCurrentA saturated).2) =
      true ↔ _
  split
  · rename_i over_
    exact iff_of_true rfl (Or.inr (Or.inr over_))
  · rename_i within
    rw [clamped, or_iff_left (a := (mapper.drive torque saturated rate bus).motorCurrentA ≠
      mapper.currentFor torque) within]
    rfl

end

/-- The direction is that of the voltage, turned round by the other polarity. -/
theorem positiveIn1_drive_iff {torque rate bus : ℚ} {saturated : Bool} :
    (mapper.drive torque saturated rate bus).positiveIn1 = true ↔
      (0 ≤ (mapper.drive torque saturated rate bus).motorVoltageV ↔
        mapper.profile.polarity = .positiveIn1) := by
  show (if mapper.profile.polarity = .positiveIn1 then
      decide ((mapper.drive torque saturated rate bus).motorVoltageV ≥ 0)
    else !decide ((mapper.drive torque saturated rate bus).motorVoltageV ≥ 0)) = true ↔ _
  split
  · rename_i first
    rw [decide_eq_true_eq, iff_true_right first]
  · rename_i second
    rw [Bool.not_eq_true', decide_eq_false_iff_not, iff_false_right second]

theorem duty_drive {torque rate bus : ℚ} {saturated : Bool} :
    0 ≤ (mapper.drive torque saturated rate bus).pwmDuty ∧
      (mapper.drive torque saturated rate bus).pwmDuty ≤ 1 :=
  ⟨le_max_left _ _, max_le zero_le_one (min_le_left _ _)⟩

/-- Every command that is valid keeps the limits of the motor; at a position limit it brakes, or
drives towards the centre; and a driven motor says truly whether it is limited, and which way it
turns. -/
theorem map_respects_limits {requested angle rate bus : Double}
    (accepts : (mapper.map requested angle rate bus).valid = true) :
    let command := mapper.map requested angle rate bus
    ∃ torque fin turning supply : ℚ, requested = .finite torque ∧ angle = .finite fin ∧
      rate = .finite turning ∧ bus = .finite supply ∧
      (0 ≤ command.pwmDuty ∧ command.pwmDuty ≤ 1) ∧
      |command.requestedOutputTorqueNm| ≤ mapper.profile.maxOutputTorqueNm ∧
      |command.motorCurrentA| ≤ mapper.profile.maxMotorCurrentA ∧
      (command.brake = true ↔ mapper.Outward torque fin) ∧
      (command.brake = true →
        command.pwmDuty = 0 ∧ command.motorCurrentA = 0 ∧ command.motorVoltageV = 0) ∧
      (command.brake = false →
        (mapper.limits.maximumRad ≤ fin →
          command.requestedOutputTorqueNm < 0 ∧ command.motorCurrentA < 0) ∧
        (fin ≤ mapper.limits.minimumRad →
          0 < command.requestedOutputTorqueNm ∧ 0 < command.motorCurrentA) ∧
        (command.saturated = true ↔ command.requestedOutputTorqueNm ≠ torque ∨
          command.motorCurrentA ≠ mapper.currentFor command.requestedOutputTorqueNm ∨
          supply < |command.motorVoltageV|) ∧
        command.motorVoltageV =
          command.motorCurrentA * mapper.profile.resistanceOhm + mapper.backEmfV turning ∧
        (command.positiveIn1 = true ↔
          (0 ≤ command.motorVoltageV ↔ mapper.profile.polarity = .positiveIn1))) := by
  intro command
  obtain ⟨configured, torque, fin, turning, supply, rfl, rfl, rfl, rfl, powered⟩ :=
    map_valid_iff.mp accepts
  refine ⟨torque, fin, turning, supply, rfl, rfl, rfl, rfl, ?_⟩
  rcases @map_of_configured mapper configured torque fin turning supply powered with
    ⟨outward, same⟩ | ⟨inward, same⟩
  · have brakes : command = brakeCommand := same
    rw [brakes]
    refine ⟨⟨le_rfl, zero_le_one⟩, ?_, ?_, iff_of_true rfl outward, fun _ => ⟨rfl, rfl, rfl⟩,
      fun driven => absurd driven.symm Bool.false_ne_true⟩
    · exact (abs_zero.trans_le configured.maxTorque.le)
    · exact (abs_zero.trans_le configured.maxCurrent.le)
  · have drives : command = mapper.drive (mapper.limitedTorque torque)
        (clampMagnitude torque mapper.profile.maxOutputTorqueNm false).2 turning supply := same
    rw [drives]
    have torques := @saturated_clampMagnitude_iff torque _ false configured.maxTorque
    refine ⟨duty_drive, abs_clampMagnitude_le configured.maxTorque,
      abs_clampMagnitude_le configured.maxCurrent,
      iff_of_false Bool.false_ne_true inward, fun brakes => absurd brakes Bool.false_ne_true,
      fun _ => ⟨fun beyond => ?_, fun beyond => ?_, ?_, rfl, positiveIn1_drive_iff⟩⟩
    · have inwards : torque < 0 := not_le.mp fun out => inward (Or.inl ⟨beyond, out⟩)
      have limited := (@clampMagnitude_neg_iff torque _ false configured.maxTorque).mpr inwards
      exact ⟨limited, (clampMagnitude_neg_iff configured.maxCurrent).mpr
        (currentFor_neg configured limited)⟩
    · have inwards : 0 < torque := not_le.mp fun out => inward (Or.inr ⟨beyond, out⟩)
      have limited := (@clampMagnitude_pos_iff torque _ false configured.maxTorque).mpr inwards
      exact ⟨limited, (clampMagnitude_pos_iff configured.maxCurrent).mpr
        (currentFor_pos configured limited)⟩
    · rw [saturated_drive_iff configured, torques, or_iff_right Bool.false_ne_true]
      rfl

/-- The motor of the bench, and a fin that may turn by 0.2 rad -/
def benchMapper : TorqueMapper where
  profile :=
    { polarity := .positiveIn1
      parametersValid := true
      resistanceOhm := 3.48
      torqueConstantNmPerA := 0.00855
      speedConstantRpmPerV := 1120
      drivetrainEfficiency := 0.6
      maxMotorCurrentA := 2
      maxOutputTorqueNm := 1.21208 }
  limits := { configured := true, minimumRad := -0.2, maximumRad := 0.2 }

theorem map_respects_limits_bench :
    (benchMapper.map (.finite (-0.5)) (.finite 0.21) (.finite 0) (.finite 9)).motorCurrentA < 0 := by
  have accepts : (benchMapper.map (.finite (-0.5)) (.finite 0.21) (.finite 0) (.finite 9)).valid =
      true := by decide +kernel
  obtain ⟨torque, fin, turning, supply, -, angle, -, -, -, -, -, -, -, driven⟩ :=
    map_respects_limits accepts
  obtain rfl := Double.finite.inj angle
  exact ((driven (by decide +kernel)).1 (by decide +kernel)).2

end TorqueMapper

end MissionBoard.Control
