import Mathlib.Data.Rat.Floor
import MissionBoard.Protocol.Quantization

/-!
Owns the encoders and decoders of `protocol/quantization.cpp` in exact arithmetic: a literal is the
number it is written as, no operation rounds, and a `long` holds what `std::lround` gives.

It does not own what rounding to a `double` does to the encoders.
-/

namespace MissionBoard.Protocol.ExactQuantization

open Quantization (RollError FinRateError FinAngleError TorqueError LpsPressureError
  LpsTemperatureError AirspeedError TimeError signedRaw)

/-! ### Error codes -/

/-- `GnssError` -/
inductive GnssError where
  | unavailable
  | noFix
  | stale
  | outOfRange
  | invalidSample
  | receiverError
  | referenceInvalid
  | internalError
  | unknown
deriving DecidableEq

def GnssError.toWord (error : GnssError) : UInt16 := 0x8000 + .ofNat error.ctorIdx

/-- `GnssHeightError` -/
inductive GnssHeightError where
  | unavailable
  | noFix
  | stale
  | outOfRange
  | invalidSample
  | receiverError
  | internalError
  | unknown
deriving DecidableEq

def GnssHeightError.toWord (error : GnssHeightError) : UInt16 := 496 + .ofNat error.ctorIdx

/-- `ParachuteAngleError` -/
inductive ParachuteAngleError where
  | notInitialized
  | uartTimeout
  | uartProtocolError
  | deviceErrorResponse
  | configurationInvalid
  | wrongOperatingMode
  | stale
  | positionOutOfRange
  | poweredOff
  | openCommandFailed
  | retryExhausted
  | positionInvalid
  | internalError
  | unknown
  | unavailable
deriving DecidableEq

def ParachuteAngleError.toByte (error : ParachuteAngleError) : UInt8 :=
  241 + .ofNat error.ctorIdx

/-- `BatteryError` -/
inductive BatteryError where
  | stale
  | adcError
  | unavailable
deriving DecidableEq

def BatteryError.toByte (error : BatteryError) : UInt8 := 253 + .ofNat error.ctorIdx

/-- The codes of the tilt magnitude, which have no enumeration in the source -/
def IsTiltError (raw : UInt8) : Prop := 121 ≤ raw ∧ raw ≤ 127

/-! ### Results -/

/-- `Semantic` -/
inductive Semantic where
  | numeric
  | error
  | reserved
deriving DecidableEq

/-- `Decoded` -/
structure Decoded (Raw : Type) where
  semantic : Semantic
  value : ℚ
  raw : Raw

namespace Decoded

variable {Raw : Type}

/-- `numeric` -/
def numeric (raw : Raw) (value : ℚ) : Decoded Raw := ⟨.numeric, value, raw⟩

/-- `error` -/
def error (raw : Raw) : Decoded Raw := ⟨.error, 0, raw⟩

/-- `reserved` -/
def reserved (raw : Raw) : Decoded Raw := ⟨.reserved, 0, raw⟩

end Decoded

open Decoded (numeric error reserved)

/-! ### Arithmetic -/

/-- `std::lround` -/
def lround (value : ℚ) : ℤ := Double.nearestAway value

/-- `std::fmod`: the quotient is cut off toward zero. -/
def fmod (left right : ℚ) : ℚ :=
  left - (if 0 ≤ left / right then ⌊left / right⌋ else ⌈left / right⌉ : ℤ) * right

/-- `signedValue` -/
def signedValue (raw : UInt16) (width : ℕ) : ℤ :=
  let sign := 2 ^ (width - 1)
  let value := raw.toNat % 2 ^ width
  ((value ^^^ sign : ℕ) : ℤ) - sign

/-- What is not finite has a code of its own. -/
def ifFinite {Raw : Type} (value : Double) (invalid : Raw) (encode : ℚ → Raw) : Raw :=
  match value with
  | .finite value => encode value
  | .infinite _ | .nan => invalid

/-! ### Signed counts -/

/-- What the encoders of a signed count do -/
def encodeCount (bit : ℚ) (least greatest : ℤ) (width : ℕ) (outOfRange : UInt16)
    (value : Double) (invalid : UInt16) : UInt16 :=
  ifFinite value invalid fun value =>
    let count := lround (value / bit)
    if count < least ∨ greatest < count then outOfRange else signedRaw count width

/-- What the decoders of a signed count of 16 bits do -/
def decodeCount (bit : ℚ) (lastError : UInt16) (raw : UInt16) : Decoded UInt16 :=
  if 0x8000 ≤ raw ∧ raw ≤ lastError then error raw
  else if lastError < raw ∧ raw ≤ 0x800F then reserved raw
  else numeric raw (raw.toInt16.toInt * bit)

/-- `encodeRoll` -/
def encodeRoll (degrees : Double) (invalid : RollError) : UInt16 :=
  encodeCount (1 / 2) (-32752) 32767 16 RollError.outOfRange.toWord degrees invalid.toWord

/-- `decodeRoll` -/
def decodeRoll (raw : UInt16) : Decoded UInt16 := decodeCount (1 / 2) 0x800F raw

/-- `encodeRollRate` -/
def encodeRollRate (value : Double) (invalid : RollError) : UInt16 :=
  encodeCount (1 / 10) (-32752) 32767 16 RollError.outOfRange.toWord value invalid.toWord

/-- `decodeRollRate` -/
def decodeRollRate (raw : UInt16) : Decoded UInt16 := decodeCount (1 / 10) 0x800F raw

/-- `encodeFinRate` -/
def encodeFinRate (value : Double) (invalid : FinRateError) : UInt16 :=
  encodeCount (1 / 50) (-32752) 32767 16 FinRateError.outOfRange.toWord value invalid.toWord

/-- `decodeFinRate` -/
def decodeFinRate (raw : UInt16) : Decoded UInt16 := decodeCount (1 / 50) 0x8009 raw

/-- `encodeGnssOffset` -/
def encodeGnssOffset (metres : Double) (invalid : GnssError) : UInt16 :=
  encodeCount 1 (-32752) 32767 16 GnssError.outOfRange.toWord metres invalid.toWord

/-- `decodeGnssOffset` -/
def decodeGnssOffset (raw : UInt16) : Decoded UInt16 := decodeCount 1 0x8008 raw

/-- `encodeRequestedTorque` -/
def encodeRequestedTorque (value : Double) (invalid : TorqueError) : UInt16 :=
  encodeCount (1 / 500) (-2032) 2047 12 TorqueError.limitConfigInvalid.toWord value
    invalid.toWord

/-- `decodeRequestedTorque` -/
def decodeRequestedTorque (raw : UInt16) : Decoded UInt16 :=
  if 0x0FFF < raw then reserved raw
  else
    let raw := raw &&& 0x0FFF
    if 0x800 ≤ raw ∧ raw ≤ 0x806 then error raw
    else if 0x807 ≤ raw ∧ raw ≤ 0x80F then reserved raw
    else numeric raw (signedValue raw 12 * (1 / 500))

/-! ### Counts from the least value -/

/-- What the encoders of a range do -/
def encodeRange {Raw : Type} (ofCount : ℤ → Raw) (least greatest bit : ℚ) (below above : Raw)
    (value : Double) (invalid : Raw) : Raw :=
  ifFinite value invalid fun value =>
    if value < least then below
    else if greatest < value then above
    else ofCount (lround ((value - least) / bit))

/-- `encodeTiltMagnitude` -/
def encodeTiltMagnitude (degrees : Double) (errorRaw : UInt8) : UInt8 :=
  encodeRange .ofInt 0 90 (3 / 4) errorRaw errorRaw degrees errorRaw

/-- `decodeTiltMagnitude` -/
def decodeTiltMagnitude (raw : UInt8) : Decoded UInt8 :=
  if raw ≤ 120 then numeric raw (raw.toNat * (3 / 4))
  else if raw ≤ 127 then error raw
  else reserved raw

/-- `encodeTiltDirection` -/
def encodeTiltDirection (degrees : Double) : UInt16 :=
  ifFinite degrees 511 fun degrees =>
    let normalized := fmod degrees 360
    let normalized := if normalized < 0 then normalized + 360 else normalized
    UInt16.ofInt (lround normalized) % 360

/-- `decodeTiltDirection` -/
def decodeTiltDirection (raw : UInt16) : Decoded UInt16 :=
  if raw ≤ 359 then numeric raw raw.toNat else reserved raw

/-- `encodeFinAngle` -/
def encodeFinAngle (degrees : Double) (invalid : FinAngleError) : UInt8 :=
  encodeRange .ofInt (-15) 15 (1 / 8) invalid.toByte invalid.toByte degrees invalid.toByte

/-- `decodeFinAngle` -/
def decodeFinAngle (raw : UInt8) : Decoded UInt8 :=
  if raw ≤ 240 then numeric raw (-15 + raw.toNat * (1 / 8)) else error raw

/-- `encodeLpsPressure` -/
def encodeLpsPressure (value : Double) (invalid : LpsPressureError) : UInt16 :=
  encodeRange .ofInt 800 (12062 / 10) (1 / 5) LpsPressureError.belowRange.toWord
    LpsPressureError.aboveRange.toWord value invalid.toWord

/-- `decodeLpsPressure` -/
def decodeLpsPressure (raw : UInt16) : Decoded UInt16 :=
  if raw ≤ 2031 then numeric raw (800 + raw.toNat * (1 / 5))
  else if raw ≤ 2047 then error raw
  else reserved raw

/-- `encodeLpsTemperature` -/
def encodeLpsTemperature (value : Double) (invalid : LpsTemperatureError) : UInt8 :=
  encodeRange .ofInt (-50) 150 1 LpsTemperatureError.belowRange.toByte
    LpsTemperatureError.aboveRange.toByte value invalid.toByte

/-- `decodeLpsTemperature` -/
def decodeLpsTemperature (raw : UInt8) : Decoded UInt8 :=
  if raw ≤ 200 then numeric raw (-50 + raw.toNat)
  else if raw ≤ 239 then reserved raw
  else error raw

/-- `encodeAirspeed` -/
def encodeAirspeed (value : Double) (invalid : AirspeedError) : UInt8 :=
  encodeRange .ofInt 0 245 1 AirspeedError.negativeDifferentialPressure.toByte
    AirspeedError.aboveRange.toByte value invalid.toByte

/-- `decodeAirspeed` -/
def decodeAirspeed (raw : UInt8) : Decoded UInt8 :=
  if raw ≤ 245 then numeric raw raw.toNat else error raw

/-- `encodeGnssHeight` -/
def encodeGnssHeight (metres : Double) (invalid : GnssHeightError) : UInt16 :=
  encodeRange .ofInt (-100) 2375 5 GnssHeightError.outOfRange.toWord
    GnssHeightError.outOfRange.toWord metres invalid.toWord

/-- `decodeGnssHeight` -/
def decodeGnssHeight (raw : UInt16) : Decoded UInt16 :=
  if 0x01FF < raw then reserved raw
  else
    let raw := raw &&& 0x01FF
    if raw ≤ 495 then numeric raw (-100 + raw.toNat * 5)
    else if raw ≤ 503 then error raw
    else reserved raw

/-- `encodeParachuteAngle` -/
def encodeParachuteAngle (degrees : Double) (invalid : ParachuteAngleError) : UInt8 :=
  encodeRange .ofInt 0 360 (3 / 2) invalid.toByte invalid.toByte degrees invalid.toByte

/-- `decodeParachuteAngle` -/
def decodeParachuteAngle (raw : UInt8) : Decoded UInt8 :=
  if raw ≤ 240 then numeric raw (raw.toNat * (3 / 2)) else error raw

/-- `encodeBatteryVoltage` -/
def encodeBatteryVoltage (volts : Double) (invalid : BatteryError) : UInt8 :=
  encodeRange .ofInt 0 12 (1 / 20) BatteryError.adcError.toByte BatteryError.adcError.toByte
    volts invalid.toByte

/-- `decodeBatteryVoltage` -/
def decodeBatteryVoltage (raw : UInt8) : Decoded UInt8 :=
  if raw ≤ 240 then numeric raw (raw.toNat * (1 / 20))
  else if raw ≤ 252 then reserved raw
  else error raw

/-! ### Elapsed times -/

/-- What the encoders of tenths of a second do -/
def encodeTenths {Raw : Type} (ofCount : ℤ → Raw) (limit : ℚ) (tooLong : Raw)
    (seconds : Double) (invalid : Raw) : Raw :=
  ifFinite seconds invalid fun seconds =>
    if seconds < 0 then invalid
    else if limit ≤ seconds then tooLong
    else ofCount ⌊seconds * 10⌋

/-- `encodeFlightElapsed` -/
def encodeFlightElapsed (seconds : Double) (invalid : TimeError) : UInt8 :=
  encodeTenths .ofInt 24 0xFB seconds (0xF0 ||| invalid.toByte)

/-- `decodeFlightElapsed` -/
def decodeFlightElapsed (raw : UInt8) : Decoded UInt8 :=
  if raw ≤ 0xEF then numeric raw (raw.toNat * (1 / 10)) else error raw

/-- `encodeDescentElapsed` -/
def encodeDescentElapsed (seconds : Double) (invalid : TimeError) : UInt16 :=
  encodeTenths .ofInt 6552 0xFFFB seconds (0xFFF0 ||| invalid.toByte.toUInt16)

/-- `decodeDescentElapsed` -/
def decodeDescentElapsed (raw : UInt16) : Decoded UInt16 :=
  if raw ≤ 0xFFEF then numeric raw (raw.toNat * (1 / 10)) else error raw

/-- `encodeRecoveryElapsed` -/
def encodeRecoveryElapsed (seconds : Double) (invalid : TimeError) : UInt16 :=
  let invalid := 0xFFF0 ||| invalid.toByte.toUInt16
  ifFinite seconds invalid fun seconds =>
    if seconds < 0 then invalid
    else
      let count := ⌊seconds / 10⌋
      if 0xFFEF < count then 0xFFFB else .ofInt count

/-- `decodeRecoveryElapsed` -/
def decodeRecoveryElapsed (raw : UInt16) : Decoded UInt16 :=
  if raw ≤ 0xFFEF then numeric raw (raw.toNat * 10) else error raw

end MissionBoard.Protocol.ExactQuantization
