import MissionBoard.Characterization.CommandJournal
import MissionBoard.Numeric.DoubleArithmetic

/-!
Owns the angle of the fin, `characterization/fin_angle.cpp`, and `PositionGuard` of
`characterization/position_guard.cpp`: whether a request may be handed to the motor at this angle.

On the target a `long double` is a `double`.
-/

namespace MissionBoard.Characterization

/-! ### The angle of the fin -/

/-- `kTotalReduction`, the `float` nearest to 176.175 -/
def kTotalReduction : Double := .finite (11545805 / 65536)

/-- `angle`, before it is rounded -/
def finAngle (meanUnwrappedCountsQ16 : Int64) (zeroRaw : UInt16) : Double :=
  let unwrappedCounts := (Double.ofInt meanUnwrappedCountsQ16.toInt).div (.finite 65536)
  let deltaCounts := unwrappedCounts.sub (.ofInt zeroRaw.toNat)
  (deltaCounts.mul (.finite 360000)).div ((Double.finite 16384).mul kTotalReduction)

/-- `finAngleMilliDegreesFromUnwrappedQ16`, with nothing where it returns false -/
def finAngleMilliDegreesFromUnwrappedQ16 (meanUnwrappedCountsQ16 : Int64) (zeroRaw : UInt16) :
    Option Int32 :=
  match finAngle meanUnwrappedCountsQ16 zeroRaw with
  | .finite angle =>
      if -2 ^ 31 ≤ Double.nearestAway angle ∧ Double.nearestAway angle ≤ 2 ^ 31 - 1 then
        some (Int32.ofInt (Double.nearestAway angle))
      else none
  | .infinite _ | .nan => none

/-! ### The guard -/

/-- `kFinMechanicalLimitMilliDeg` -/
def kFinMechanicalLimitMilliDeg : ℤ := 15000

/-- `kRoutineEnvelopeMilliDeg` -/
def kRoutineEnvelopeMilliDeg : ℤ := 8000

/-- `kHardAbortMilliDeg` -/
def kHardAbortMilliDeg : ℤ := 10000

/-- `PositionGuardReason` -/
inductive PositionGuardReason where
  | none
  | softLimitOutward
  | hardLimit
  | predictedStopExceedsLimit
  | encoderInvalid
  | consumerDeadlineMiss
  | commandModeMismatch
  | polarityUnconfigured
  | configurationInvalid
deriving DecidableEq

/-- `PositionGuardConfig` -/
structure PositionGuardConfig where
  normalEnvelopeMillideg : ℤ := kRoutineEnvelopeMilliDeg
  hardAbortMillideg : ℤ := kHardAbortMilliDeg
  commandToFinSign : ℤ := 0

/-- `PositionGuardInput`; `fin_rate_millideg_s` is read by none. -/
structure PositionGuardInput where
  finAngleMillideg : Int32 := 0
  predictedStoppingDeltaMillideg : Int32 := 0
  requested : MotorCommandRequest := {}
  encoderValid : Bool := false
  consumerDeadlineMet : Bool := false

/-- `PositionGuardDecision` -/
structure PositionGuardDecision where
  action : GuardState := .abort
  reason : PositionGuardReason := .polarityUnconfigured
  permitted : MotorCommandRequest := {}

/-- `abortDecision` -/
def abortDecision (reason : PositionGuardReason) : PositionGuardDecision :=
  ⟨.abort, reason, .toCoast⟩

/-- `coastDecision` -/
def coastDecision (reason : PositionGuardReason) : PositionGuardDecision :=
  ⟨.coast, reason, .toCoast⟩

namespace PositionGuard

/-- `saturatingAdd` -/
def saturatingAdd (lhs rhs : Int32) : ℤ := max (-2 ^ 31) (min (2 ^ 31 - 1) (lhs.toInt + rhs.toInt))

variable (config : PositionGuardConfig)

/-- The first test of `evaluate`, passed -/
def configured : Bool :=
  0 < config.normalEnvelopeMillideg && config.normalEnvelopeMillideg < config.hardAbortMillideg &&
    config.hardAbortMillideg < kFinMechanicalLimitMilliDeg

/-- `command_is_outward` -/
def outward (finAngle : Int32) (commandPermille : Int16) : Bool :=
  let commandDirection := commandPermille.toInt.sign * config.commandToFinSign
  (finAngle.toInt ≥ config.normalEnvelopeMillideg && commandDirection > 0) ||
    (finAngle.toInt ≤ -config.normalEnvelopeMillideg && commandDirection < 0)

/-- `evaluate` -/
def evaluate (input : PositionGuardInput) : PositionGuardDecision :=
  let predictedAngle := saturatingAdd input.finAngleMillideg input.predictedStoppingDeltaMillideg
  if !configured config then abortDecision .configurationInvalid
  else if config.commandToFinSign ≠ 1 ∧ config.commandToFinSign ≠ -1 then
    abortDecision .polarityUnconfigured
  else if !input.encoderValid then abortDecision .encoderInvalid
  else if !input.consumerDeadlineMet then abortDecision .consumerDeadlineMiss
  else if !motorModeMatchesCommand input.requested.commandPermille input.requested.mode then
    abortDecision .commandModeMismatch
  else if |input.finAngleMillideg.toInt| ≥ config.hardAbortMillideg then abortDecision .hardLimit
  else if |predictedAngle| ≥ config.hardAbortMillideg then abortDecision .predictedStopExceedsLimit
  else if outward config input.finAngleMillideg input.requested.commandPermille then
    coastDecision .softLimitOutward
  else ⟨.allow, .none, input.requested⟩

/-! ### What is permitted -/

/-- The fin is within the limit, it is still there when it has stopped, in exact arithmetic, and the
request does not move it outward. -/
structure Permits (finAngle stoppingDelta : Int32) (commandPermille : Int16) : Prop where
  within : |finAngle.toInt| < config.hardAbortMillideg
  stops : |finAngle.toInt + stoppingDelta.toInt| < config.hardAbortMillideg
  inward : outward config finAngle commandPermille = false

variable {config}

/-- A sum that saturates is beyond every limit that is configured. -/
theorem abs_saturatingAdd_lt_iff (valid : configured config = true) (lhs rhs : Int32) :
    |saturatingAdd lhs rhs| < config.hardAbortMillideg ↔
      |lhs.toInt + rhs.toInt| < config.hardAbortMillideg := by
  unfold configured kFinMechanicalLimitMilliDeg at valid
  simp only [Bool.and_eq_true, decide_eq_true_eq] at valid
  obtain ⟨-, limit⟩ := valid
  unfold saturatingAdd
  rw [abs_lt, abs_lt]
  omega

/-- The guard allows a request when its inputs are sound and the request is permitted. -/
theorem evaluate_eq_allow_iff (input : PositionGuardInput) :
    (evaluate config input).action = .allow ↔
      configured config = true ∧ (config.commandToFinSign = 1 ∨ config.commandToFinSign = -1) ∧
        input.encoderValid = true ∧ input.consumerDeadlineMet = true ∧
        motorModeMatchesCommand input.requested.commandPermille input.requested.mode = true ∧
        Permits config input.finAngleMillideg input.predictedStoppingDeltaMillideg
          input.requested.commandPermille := by
  unfold evaluate abortDecision coastDecision
  dsimp only
  constructor
  · intro allowed
    split_ifs at allowed with invalid polarity encoder deadline mode limit stop outside
    rw [Bool.not_eq_true', Bool.not_eq_false] at invalid encoder deadline mode
    rw [ge_iff_le, not_le] at limit stop
    refine ⟨invalid, ?_, encoder, deadline, mode, limit, ?_, Bool.eq_false_iff.mpr outside⟩
    · omega
    · exact (abs_saturatingAdd_lt_iff invalid _ _).mp stop
  · rintro ⟨valid, polarity, encoder, deadline, mode, permits⟩
    have stop := (abs_saturatingAdd_lt_iff valid _ _).mpr permits.stops
    rw [if_neg (by simp [valid]), if_neg (by omega), if_neg (by simp [encoder]),
      if_neg (by simp [deadline]), if_neg (by simp [mode]), if_neg (not_le.mpr permits.within),
      if_neg (not_le.mpr stop), if_neg (by simp [permits.inward])]

/-- What is permitted is the request, when it is allowed, and Coast otherwise. -/
theorem permitted_eq (input : PositionGuardInput) :
    (evaluate config input).permitted =
      if (evaluate config input).action = .allow then input.requested else .toCoast := by
  unfold evaluate abortDecision coastDecision
  dsimp only
  split_ifs <;> first | rfl | contradiction

end PositionGuard

end MissionBoard.Characterization
