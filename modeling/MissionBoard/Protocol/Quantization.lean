import MissionBoard.Numeric.DoubleArithmetic
import MissionBoard.Protocol.CanCodec

/-!
Owns the quantizers of `protocol/quantization.cpp` that the telemetry of the mission board uses, with
the codes that stand for an error.

What `std::lround` gives of a value that no `long` holds is a parameter, since the language leaves
it open.
-/

namespace MissionBoard.Protocol.Quantization

/-! ### Error codes

The members of each enumeration are numbered without a gap. -/

/-- `RollError` -/
inductive RollError where
  | unavailable
  | notInitialized
  | spiTimeout
  | spiError
  | stale
  | fifoFull
  | fifoLostPacket
  | fifoFormatFault
  | sampleInvalid
  | odrChanged
  | outOfRange
  | timestampInvalid
  | estimatorInvalid
  | resetInvalidated
  | internalError
  | unknown
deriving DecidableEq

def RollError.toWord (error : RollError) : UInt16 := 0x8000 + .ofNat error.ctorIdx

/-- `FinRateError` -/
inductive FinRateError where
  | unavailable
  | sourceAngleError
  | stale
  | notEnoughSamples
  | unwrapAmbiguous
  | timestampInvalid
  | estimatorNotReady
  | estimatorNumericError
  | outOfRange
  | resetInvalidated
deriving DecidableEq

def FinRateError.toWord (error : FinRateError) : UInt16 := 0x8000 + .ofNat error.ctorIdx

/-- `FinAngleError` -/
inductive FinAngleError where
  | notInitialized
  | spiTimeout
  | spiError
  | responseParityError
  | sensorParityError
  | invalidCommand
  | framingError
  | pipelineStateError
  | stale
  | unwrapAmbiguous
  | zeroNotConfigured
  | resetInvalidated
  | outputAngleInvalid
  | outOfMechanicalRange
  | internalOrUnknown
deriving DecidableEq

def FinAngleError.toByte (error : FinAngleError) : UInt8 := 241 + .ofNat error.ctorIdx

/-- `TorqueError` -/
inductive TorqueError where
  | unavailable
  | controllerInputInvalid
  | controllerNumericError
  | resetInvalidated
  | limitConfigInvalid
  | internalError
  | unknown
deriving DecidableEq

def TorqueError.toWord (error : TorqueError) : UInt16 := 0x800 + .ofNat error.ctorIdx

/-- `LpsPressureError` -/
inductive LpsPressureError where
  | notInitialized
  | i2cTimeout
  | i2cBusError
  | dataNotReady
  | whoAmIMismatch
  | resetTimeout
  | pressureOverrun
  | stale
  | poweredOff
  | belowRange
  | aboveRange
  | configurationError
  | invalidSample
  | internalError
  | unknown
  | unavailable
deriving DecidableEq

def LpsPressureError.toWord (error : LpsPressureError) : UInt16 := 2032 + .ofNat error.ctorIdx

/-- `LpsTemperatureError` -/
inductive LpsTemperatureError where
  | notInitialized
  | i2cTimeout
  | i2cBusError
  | dataNotReady
  | whoAmIMismatch
  | resetTimeout
  | temperatureOverrun
  | stale
  | poweredOff
  | belowRange
  | aboveRange
  | configurationError
  | invalidSample
  | internalError
  | unknown
  | unavailable
deriving DecidableEq

def LpsTemperatureError.toByte (error : LpsTemperatureError) : UInt8 :=
  240 + .ofNat error.ctorIdx

/-- `AirspeedError` -/
inductive AirspeedError where
  | negativeDifferentialPressure
  | aboveRange
  | staticPressureInvalid
  | sscNotInitialized
  | sscI2cTimeout
  | sscI2cError
  | sscStale
  | sscCommandMode
  | sscDiagnosticFault
  | internalInvalid
deriving DecidableEq

def AirspeedError.toByte (error : AirspeedError) : UInt8 := 246 + .ofNat error.ctorIdx

/-- `TimeError` -/
inductive TimeError where
  | preLiftoff
  | unavailable
  | recoveryInProgress
  | rtcRecoveryFailed
  | checkpointMissing
  | checkpointInvalid
  | gnssTimeUnavailable
  | groundTimeUnavailable
  | absoluteTimeUnavailable
  | timeInconsistent
  | stale
  | overflow
  | persistenceError
  | powerOnResetUnrecoverable
  | internalError
  | unknown
deriving DecidableEq

def TimeError.toByte (error : TimeError) : UInt8 := .ofNat error.ctorIdx

/-! ### Quantizers -/

/-- `signedRaw` -/
def signedRaw (value : ℤ) (width : ℕ) : UInt16 := .ofNat (value % 2 ^ width).toNat

section

variable (unspecified : Double → ℤ)

/-- What the encoders of a signed count do -/
def encodeSigned (bit : ℚ) (least greatest : ℤ) (width : ℕ) (outOfRange : UInt16)
    (value : Double) (invalid : UInt16) : UInt16 :=
  if !value.isFinite then invalid
  else
    let count := (value.div (.rounded bit)).lround unspecified
    if count < least ∨ greatest < count then outOfRange else signedRaw count width

/-- `encodeRoll` -/
def encodeRoll (degrees : Double) (invalid : RollError) : UInt16 :=
  encodeSigned unspecified (1 / 2) (-32752) 32767 16 RollError.outOfRange.toWord degrees
    invalid.toWord

/-- `encodeRollRate` -/
def encodeRollRate (value : Double) (invalid : RollError) : UInt16 :=
  encodeSigned unspecified (1 / 10) (-32752) 32767 16 RollError.outOfRange.toWord value
    invalid.toWord

/-- `encodeFinRate` -/
def encodeFinRate (value : Double) (invalid : FinRateError) : UInt16 :=
  encodeSigned unspecified (1 / 50) (-32752) 32767 16 FinRateError.outOfRange.toWord value
    invalid.toWord

/-- `encodeRequestedTorque` -/
def encodeRequestedTorque (value : Double) (invalid : TorqueError) : UInt16 :=
  encodeSigned unspecified (1 / 500) (-2032) 2047 12 TorqueError.limitConfigInvalid.toWord value
    invalid.toWord

/-- `encodeFinAngle` -/
def encodeFinAngle (degrees : Double) (invalid : FinAngleError) : UInt8 :=
  if !degrees.isFinite || degrees.lt (.finite (-15)) || Double.lt (.finite 15) degrees then
    invalid.toByte
  else .ofInt (((degrees.add (.finite 15)).div (.rounded (1 / 8))).lround unspecified)

/-- `encodeLpsPressure` -/
def encodeLpsPressure (value : Double) (invalid : LpsPressureError) : UInt16 :=
  if !value.isFinite then invalid.toWord
  else if value.lt (.finite 800) then LpsPressureError.belowRange.toWord
  else if (Double.rounded (12062 / 10)).lt value then LpsPressureError.aboveRange.toWord
  else .ofInt (((value.sub (.finite 800)).div (.rounded (1 / 5))).lround unspecified)

/-- `encodeLpsTemperature` -/
def encodeLpsTemperature (value : Double) (invalid : LpsTemperatureError) : UInt8 :=
  if !value.isFinite then invalid.toByte
  else if value.lt (.finite (-50)) then LpsTemperatureError.belowRange.toByte
  else if Double.lt (.finite 150) value then LpsTemperatureError.aboveRange.toByte
  else .ofInt ((value.add (.finite 50)).lround unspecified)

/-- `encodeAirspeed` -/
def encodeAirspeed (value : Double) (invalid : AirspeedError) : UInt8 :=
  if !value.isFinite then invalid.toByte
  else if value.lt .zero then AirspeedError.negativeDifferentialPressure.toByte
  else if Double.lt (.finite 245) value then AirspeedError.aboveRange.toByte
  else .ofInt (value.lround unspecified)

end

/-- `encodeFlightElapsed` -/
def encodeFlightElapsed (seconds : Double) (invalid : TimeError) : UInt8 :=
  if !seconds.isFinite || seconds.lt .zero then 0xF0 ||| invalid.toByte
  else if !seconds.lt (.finite 24) then 0xFB
  else .ofInt (seconds.mul (.finite 10)).floor

/-- `encodeDescentElapsed` -/
def encodeDescentElapsed (seconds : Double) (invalid : TimeError) : UInt16 :=
  if !seconds.isFinite || seconds.lt .zero then 0xFFF0 ||| invalid.toByte.toUInt16
  else if !seconds.lt (.finite 6552) then 0xFFFB
  else .ofInt (seconds.mul (.finite 10)).floor

/-- `encodeRecoveryElapsed` -/
def encodeRecoveryElapsed (seconds : Double) (invalid : TimeError) : UInt16 :=
  if !seconds.isFinite || seconds.lt .zero then 0xFFF0 ||| invalid.toByte.toUInt16
  else
    let count := (seconds.div (.finite 10)).floor
    if 0xFFEF < count then 0xFFFB else .ofInt count

/-! ### Ranges -/

theorem TorqueError.toWord_lt (error : TorqueError) : error.toWord.toNat < 2 ^ 12 := by
  cases error <;> decide

theorem LpsPressureError.toWord_lt (error : LpsPressureError) : error.toWord.toNat < 2 ^ 11 := by
  cases error <;> decide

theorem signedRaw_lt {width : ℕ} (value : ℤ) (narrow : width ≤ 16) :
    (signedRaw value width).toNat < 2 ^ width := by
  have positive : (0 : ℤ) < 2 ^ width := by positivity
  have low := Int.emod_nonneg value positive.ne'
  have high := Int.emod_lt_of_pos value positive
  have fits : (value % 2 ^ width).toNat < 2 ^ width := by
    zify
    rw [Int.toNat_of_nonneg low]
    exact high
  have word : 2 ^ width ≤ 2 ^ 16 := Nat.pow_le_pow_right two_pos narrow
  unfold signedRaw
  rw [UInt16.toNat_ofNat', Nat.mod_eq_of_lt (by omega)]
  exact fits

variable {unspecified : Double → ℤ}

/-- A torque fits its 12 bits. -/
theorem encodeRequestedTorque_lt (value : Double) (invalid : TorqueError) :
    (encodeRequestedTorque unspecified value invalid).toNat < 2 ^ 12 := by
  unfold encodeRequestedTorque encodeSigned
  dsimp only
  split_ifs
  · exact invalid.toWord_lt
  · exact TorqueError.limitConfigInvalid.toWord_lt
  · exact signedRaw_lt _ (by decide)

theorem nearestAway_mem {value : ℚ} {greatest : ℕ} (low : -1 / 2 < value)
    (high : value < greatest + 1 / 2) :
    0 ≤ Double.nearestAway value ∧ Double.nearestAway value ≤ greatest := by
  unfold Double.nearestAway
  split
  · rename_i positive
    constructor
    · apply Int.floor_nonneg.mpr
      linarith
    · apply Int.le_of_lt_add_one
      rw [Int.floor_lt]
      push_cast
      linarith
  · rename_i negative
    rw [not_le] at negative
    constructor
    · apply Int.le_of_sub_one_lt
      rw [Int.lt_ceil]
      push_cast
      linarith
    · apply Int.ceil_le.mpr
      push_cast
      linarith [(Nat.cast_nonneg greatest : (0 : ℚ) ≤ greatest)]

/-- A pressure in the range of the sensor is at most 2031 counts above the least. -/
theorem pressure_count {value greatest : ℚ} (low : 800 ≤ value) (high : value ≤ greatest)
    (limit : Double.rounded (12062 / 10) = .finite greatest) :
    ∃ count, ((Double.finite value).sub (.finite 800)).div (.rounded (1 / 5)) = .finite count ∧
      -1 / 2 < count ∧ count < (2031 : ℕ) + 1 / 2 := by
  obtain ⟨bound, same, close⟩ := Double.rounded_near (12062 / 10) 11
    (by norm_num [abs_of_pos]) (by decide) (by decide)
  obtain rfl := Double.finite.inj (limit.symm.trans same)
  rw [abs_le] at close
  norm_num at close
  obtain ⟨above, subtracted, near⟩ := Double.rounded_near (value - 800) 9
    (by rw [abs_lt]; constructor <;> linarith) (by decide) (by decide)
  rw [abs_le] at near
  norm_num at near
  obtain ⟨bit, fifth, apart⟩ := Double.rounded_near (1 / 5) 1
    (by norm_num [abs_of_pos]) (by decide) (by decide)
  rw [abs_le] at apart
  norm_num at apart
  have positive : 0 < bit := by linarith
  have least : -1 / 4 < above / bit := by
    rw [lt_div_iff₀ positive]
    linarith
  have most : above / bit < 2031 + 1 / 4 := by
    rw [div_lt_iff₀ positive]
    linarith
  obtain ⟨count, divided, rounding⟩ := Double.rounded_near (above / bit) 11
    (by rw [abs_lt]; constructor <;> linarith) (by decide) (by decide)
  rw [abs_le] at rounding
  norm_num at rounding
  refine ⟨count, ?_, by linarith, by push_cast; linarith⟩
  unfold Double.sub Double.neg Double.add
  dsimp only
  rw [← sub_eq_add_neg, subtracted, fifth]
  unfold Double.div
  dsimp only
  rw [if_neg positive.ne', divided]

/-- A pressure fits its 11 bits. -/
theorem encodeLpsPressure_lt (value : Double) (invalid : LpsPressureError) :
    (encodeLpsPressure unspecified value invalid).toNat < 2 ^ 11 := by
  unfold encodeLpsPressure
  split_ifs with infinite below above
  · exact invalid.toWord_lt
  · exact LpsPressureError.belowRange.toWord_lt
  · exact LpsPressureError.aboveRange.toWord_lt
  · cases value with
    | infinite negative | nan => exact absurd rfl infinite
    | finite value =>
        obtain ⟨greatest, limit, -⟩ := Double.rounded_near (12062 / 10) 11
          (by norm_num [abs_of_pos]) (by decide) (by decide)
        rw [limit] at above
        simp only [Double.lt, decide_eq_true_eq, not_lt] at below above
        obtain ⟨count, quotient, low, high⟩ := pressure_count below above limit
        obtain ⟨least, most⟩ := nearestAway_mem low high
        have long : Double.IsLong (Double.nearestAway count) := by
          constructor <;> omega
        rw [quotient]
        unfold Double.lround
        dsimp only
        rw [if_pos long]
        unfold UInt16.ofInt
        rw [UInt16.toNat_ofNat']
        omega

end MissionBoard.Protocol.Quantization
