import MissionBoard.Library.UniformQuantizer
import MissionBoard.Protocol.ExactQuantization

/-!
Owns what the quantizers promise together with their decoders: how far a decoded value is from the
one that was encoded, that the order is kept, that every numeric code is given back, and that what
is out of range decodes as an error.
-/

namespace MissionBoard.Protocol.ExactQuantization

open Quantization (RollError FinRateError FinAngleError TorqueError LpsPressureError
  LpsTemperatureError AirspeedError TimeError signedRaw)
open UniformQuantizer (Rounding Nearest value count)

/-- An encoder and its decoder keep the values they can express, each `close` to what it was, in
their order, give back every numeric code, and make an error of everything else. -/
structure Codec {Raw : Type} (encode : Double → Raw) (decode : Raw → Decoded Raw)
    (encodable : ℚ → Prop) (close : ℚ → ℚ → Prop) : Prop where
  numeric : ∀ input, encodable input → (decode (encode (.finite input))).semantic = .numeric
  close : ∀ input, encodable input → close input (decode (encode (.finite input))).value
  monotone : ∀ lower upper, encodable lower → encodable upper → lower ≤ upper →
    (decode (encode (.finite lower))).value ≤ (decode (encode (.finite upper))).value
  returns : ∀ raw, (decode raw).semantic = .numeric → encode (.finite (decode raw).value) = raw
  refuses : ∀ input, (∀ value, input = .finite value → ¬ encodable value) →
    (decode (encode input)).semantic = .error

/-- Within half a bit of the input -/
def WithinHalf (bit input decoded : ℚ) : Prop := |decoded - input| ≤ bit / 2

/-- Not above the input, and less than one bit below -/
def JustBelow (bit input decoded : ℚ) : Prop := decoded ≤ input ∧ input < decoded + bit

/-- Nearer to one of the counts than to the next one outside -/
def CountRange (bit : ℚ) (least greatest : ℤ) (input : ℚ) : Prop :=
  (least - 1 / 2) * bit < input ∧ input < (greatest + 1 / 2) * bit

/-! ### Rounding -/

theorem nearest_lround : Nearest lround where
  monotone := by
    intro lower upper le
    unfold lround Double.nearestAway
    by_cases low : 0 ≤ lower
    · rw [if_pos low, if_pos (low.trans le)]
      exact Int.floor_mono (add_le_add_left le _)
    · rw [if_neg low]
      by_cases high : 0 ≤ upper
      · rw [if_pos high]
        have below : ⌈lower - 1 / 2⌉ ≤ 0 := Int.ceil_le.mpr (by push_cast; linarith)
        have above : 0 ≤ ⌊upper + 1 / 2⌋ := Int.floor_nonneg.mpr (by linarith)
        exact below.trans above
      · rw [if_neg high]
        exact Int.ceil_mono (sub_le_sub_right le _)
  keeps count := by
    unfold lround Double.nearestAway
    split
    · rw [Int.floor_eq_iff]
      constructor <;> linarith
    · rw [Int.ceil_eq_iff]
      constructor <;> linarith
  near input := by
    unfold lround Double.nearestAway
    rw [abs_le]
    split
    · have low := Int.floor_le (input + 1 / 2)
      have high := Int.lt_floor_add_one (input + 1 / 2)
      constructor <;> linarith
    · have low := Int.le_ceil (input - 1 / 2)
      have high := Int.ceil_lt_add_one (input - 1 / 2)
      constructor <;> linarith

/-- The counts below zero reach half a step down. -/
theorem le_lround_iff {least : ℤ} (negative : least < 0) (input : ℚ) :
    least ≤ lround input ↔ (least : ℚ) - 1 / 2 < input := by
  have small : (least : ℚ) ≤ -1 := by exact_mod_cast Int.le_sub_one_of_lt negative
  unfold lround Double.nearestAway
  split
  · rename_i positive
    have floor : 0 ≤ ⌊input + 1 / 2⌋ := Int.floor_nonneg.mpr (by linarith)
    constructor
    · intro
      linarith
    · intro
      omega
  · rw [Int.le_ceil_iff]
    constructor <;> intro lt <;> linarith

theorem lround_le_iff {greatest : ℤ} (positive : 0 ≤ greatest) (input : ℚ) :
    lround input ≤ greatest ↔ input < (greatest : ℚ) + 1 / 2 := by
  have large : (0 : ℚ) ≤ greatest := by exact_mod_cast positive
  unfold lround Double.nearestAway
  split
  · rw [← Int.lt_add_one_iff, Int.floor_lt]
    push_cast
    constructor <;> intro lt <;> linarith
  · rename_i negative
    have ceil : ⌈input - 1 / 2⌉ ≤ 0 := Int.ceil_le.mpr (by push_cast; linarith)
    constructor
    · intro
      linarith
    · intro
      omega

/-! ### Codes of counts -/

section

variable {Raw : Type} {encode : Double → Raw} {decode : Raw → Decoded Raw}

/-- The codes of a range of counts make a codec. -/
theorem Codec.of_counts {encodable : ℚ → Prop} {close : ℚ → ℚ → Prop} (round : ℚ → ℤ)
    (offset bit : ℚ) (least greatest : ℤ) (code : ℤ → Raw)
    (rounding : Rounding round) (positive : 0 < bit)
    (inside : ∀ input, encodable input → least ≤ count round offset bit input ∧
      count round offset bit input ≤ greatest)
    (near : ∀ input, encodable input →
      close input (value offset bit (count round offset bit input)))
    (encodes : ∀ input, encodable input →
      encode (.finite input) = code (count round offset bit input))
    (decodes : ∀ steps, least ≤ steps → steps ≤ greatest →
      decode (code steps) = .numeric (code steps) (value offset bit steps))
    (known : ∀ raw, (decode raw).semantic = .numeric →
      ∃ steps, least ≤ steps ∧ steps ≤ greatest ∧ code steps = raw)
    (back : ∀ steps, least ≤ steps → steps ≤ greatest → encodable (value offset bit steps))
    (refuses : ∀ input, (∀ value, input = .finite value → ¬ encodable value) →
      (decode (encode input)).semantic = .error) :
    Codec encode decode encodable close := by
  have found : ∀ input, encodable input → decode (encode (.finite input)) =
      .numeric (code (count round offset bit input))
        (value offset bit (count round offset bit input)) := by
    intro input can
    obtain ⟨low, high⟩ := inside input can
    rw [encodes input can, decodes _ low high]
  constructor
  case numeric =>
    intro input can
    rw [found input can]
    rfl
  case close =>
    intro input can
    rw [found input can]
    exact near input can
  case monotone =>
    intro lower upper low high le
    rw [found lower low, found upper high]
    exact UniformQuantizer.value_monotone positive
      (UniformQuantizer.count_monotone rounding positive le)
  case returns =>
    intro raw numeric
    obtain ⟨steps, low, high, rfl⟩ := known raw numeric
    rw [decodes steps low high]
    show encode (.finite (value offset bit steps)) = code steps
    rw [encodes _ (back steps low high), UniformQuantizer.count_value rounding positive]
  case refuses => exact refuses

/-- The integers that fit a word are its own. -/
structure Word (ofCount : ℤ → Raw) (toNat : Raw → ℕ) (size : ℕ) : Prop where
  toNat_ofCount : ∀ steps : ℕ, steps < size → toNat (ofCount steps) = steps
  ofCount_toNat : ∀ raw, ofCount (toNat raw) = raw

theorem word_uint8 : Word UInt8.ofInt UInt8.toNat (2 ^ 8) where
  toNat_ofCount steps small := by
    show (UInt8.ofNat ((steps : ℤ) % 2 ^ 8).toNat).toNat = steps
    rw [UInt8.toNat_ofNat']
    omega
  ofCount_toNat raw := by
    apply UInt8.toNat_inj.mp
    show (UInt8.ofNat ((raw.toNat : ℤ) % 2 ^ 8).toNat).toNat = raw.toNat
    have small := raw.toNat_lt
    rw [UInt8.toNat_ofNat']
    omega

theorem word_uint16 : Word UInt16.ofInt UInt16.toNat (2 ^ 16) where
  toNat_ofCount steps small := by
    show (UInt16.ofNat ((steps : ℤ) % 2 ^ 16).toNat).toNat = steps
    rw [UInt16.toNat_ofNat']
    omega
  ofCount_toNat raw := by
    apply UInt16.toNat_inj.mp
    show (UInt16.ofNat ((raw.toNat : ℤ) % 2 ^ 16).toNat).toNat = raw.toNat
    have small := raw.toNat_lt
    rw [UInt16.toNat_ofNat']
    omega

/-- What is not encodable is not finite, or a number out of range. -/
theorem error_of_refused {encodable : ℚ → Prop} {invalid : Raw} {code : ℚ → Raw}
    (unknown : (decode invalid).semantic = .error)
    (outside : ∀ value, ¬ encodable value → (decode (code value)).semantic = .error)
    (input : Double) (refused : ∀ value, input = .finite value → ¬ encodable value) :
    (decode (ifFinite input invalid code)).semantic = .error := by
  cases input with
  | finite value => exact outside value (refused value rfl)
  | infinite negative => exact unknown
  | nan => exact unknown

/-- The numbers from one bound to the other -/
def InRange (least greatest input : ℚ) : Prop := least ≤ input ∧ input ≤ greatest

/-- The encoders of a range, with a decoder that has its numbers in the codes up to the last -/
theorem codec_range (last : ℕ) {ofCount : ℤ → Raw} {toNat : Raw → ℕ} {size : ℕ}
    {least greatest bit : ℚ} {below above invalid : Raw} (word : Word ofCount toNat size)
    (fits : last < size) (positive : 0 < bit) (top : greatest = least + last * bit)
    (decodes : ∀ raw, toNat raw ≤ last → decode raw = .numeric raw (least + toNat raw * bit))
    (known : ∀ raw, (decode raw).semantic = .numeric → toNat raw ≤ last)
    (errors : (decode below).semantic = .error ∧ (decode above).semantic = .error ∧
      (decode invalid).semantic = .error) :
    Codec (encodeRange ofCount least greatest bit below above · invalid) decode
      (InRange least greatest) (WithinHalf bit) := by
  have bottom : value least bit 0 = least := by simp [value]
  have end_ : value least bit last = greatest := by simp [value, top]
  apply Codec.of_counts lround least bit 0 last ofCount nearest_lround.toRounding positive
  case inside =>
    rintro input ⟨low, high⟩
    exact UniformQuantizer.count_mem nearest_lround.toRounding positive (bottom.trans_le low)
      (high.trans_eq end_.symm)
  case near =>
    intro input can
    exact UniformQuantizer.abs_value_count_sub_le nearest_lround positive input
  case encodes =>
    rintro input ⟨low, high⟩
    show (if input < least then below else if greatest < input then above else _) = _
    rw [if_neg (not_lt.mpr low), if_neg (not_lt.mpr high)]
    rfl
  case decodes =>
    intro steps low high
    lift steps to ℕ using low
    have own := word.toNat_ofCount steps (by omega)
    rw [decodes _ (by omega), own]
    rfl
  case known =>
    intro raw numeric
    exact ⟨toNat raw, Int.natCast_nonneg _, by exact_mod_cast known raw numeric,
      word.ofCount_toNat raw⟩
  case back =>
    intro steps low high
    have lower : value least bit 0 ≤ value least bit steps :=
      UniformQuantizer.value_monotone positive low
    have upper : value least bit steps ≤ value least bit last :=
      UniformQuantizer.value_monotone positive high
    exact ⟨bottom.symm.trans_le lower, upper.trans_eq end_⟩
  case refuses =>
    apply error_of_refused errors.2.2
    intro value outside
    by_cases low : value < least
    · rw [if_pos low]
      exact errors.1
    · rw [if_neg low, if_pos (by
        by_contra high
        exact outside ⟨not_lt.mp low, not_lt.mp high⟩)]
      exact errors.2.1

/-- The times from the start to before the limit -/
def InSpan (limit input : ℚ) : Prop := 0 ≤ input ∧ input < limit

/-- The encoders of an elapsed time -/
theorem codec_elapsed (last : ℕ) {ofCount : ℤ → Raw} {toNat : Raw → ℕ} {size : ℕ} {bit limit : ℚ}
    (word : Word ofCount toNat size) (fits : last < size) (positive : 0 < bit)
    (top : limit = (last + 1) * bit)
    (encodes : ∀ input, InSpan limit input → encode (.finite input) = ofCount ⌊input / bit⌋)
    (decodes : ∀ raw, toNat raw ≤ last → decode raw = .numeric raw (toNat raw * bit))
    (known : ∀ raw, (decode raw).semantic = .numeric → toNat raw ≤ last)
    (refuses : ∀ input, (∀ value, input = .finite value → ¬ InSpan limit value) →
      (decode (encode input)).semantic = .error) :
    Codec encode decode (InSpan limit) (JustBelow bit) := by
  apply Codec.of_counts Int.floor 0 bit 0 last ofCount UniformQuantizer.rounding_floor positive
  case inside =>
    rintro input ⟨low, high⟩
    rw [count, sub_zero]
    constructor
    · exact Int.floor_nonneg.mpr (div_nonneg low positive.le)
    · apply Int.le_of_lt_add_one
      rw [Int.floor_lt, div_lt_iff₀ positive]
      push_cast
      linarith
  case near =>
    intro input can
    exact UniformQuantizer.value_floor_le positive input
  case encodes =>
    intro input can
    rw [encodes input can, count, sub_zero]
  case decodes =>
    intro steps low high
    lift steps to ℕ using low
    have own := word.toNat_ofCount steps (by omega)
    rw [decodes _ (by omega), own]
    simp [value]
  case known =>
    intro raw numeric
    exact ⟨toNat raw, Int.natCast_nonneg _, by exact_mod_cast known raw numeric,
      word.ofCount_toNat raw⟩
  case back =>
    intro steps low high
    have first : (0 : ℚ) ≤ steps := by exact_mod_cast low
    have final : (steps : ℚ) ≤ last := by exact_mod_cast high
    have scaled := mul_le_mul_of_nonneg_right final positive.le
    rw [value, zero_add]
    constructor
    · exact mul_nonneg first positive.le
    · rw [top, add_mul, one_mul]
      linarith
  case refuses => exact refuses

/-- The encoders of a signed count -/
theorem codec_count {bit : ℚ} {least greatest : ℤ} {width : ℕ} {outOfRange invalid : UInt16}
    {decode : UInt16 → Decoded UInt16} (positive : 0 < bit) (negative : least < 0)
    (nonnegative : 0 ≤ greatest)
    (decodes : ∀ steps, least ≤ steps → steps ≤ greatest →
      decode (signedRaw steps width) = .numeric (signedRaw steps width) (steps * bit))
    (known : ∀ raw, (decode raw).semantic = .numeric →
      ∃ steps, least ≤ steps ∧ steps ≤ greatest ∧ signedRaw steps width = raw)
    (errors : (decode outOfRange).semantic = .error ∧ (decode invalid).semantic = .error) :
    Codec (encodeCount bit least greatest width outOfRange · invalid) decode
      (CountRange bit least greatest) (WithinHalf bit) := by
  have range : ∀ input, CountRange bit least greatest input ↔
      least ≤ lround (input / bit) ∧ lround (input / bit) ≤ greatest := by
    intro input
    rw [le_lround_iff negative, lround_le_iff nonnegative, lt_div_iff₀ positive,
      div_lt_iff₀ positive, CountRange]
  apply Codec.of_counts lround 0 bit least greatest (signedRaw · width)
    nearest_lround.toRounding positive
  case inside =>
    intro input can
    rw [count, sub_zero]
    exact (range input).mp can
  case near =>
    intro input can
    exact UniformQuantizer.abs_value_count_sub_le nearest_lround positive input
  case encodes =>
    intro input can
    obtain ⟨low, high⟩ := (range input).mp can
    rw [count, sub_zero]
    exact if_neg (by omega)
  case decodes =>
    intro steps low high
    rw [value, zero_add]
    exact decodes steps low high
  case known => exact known
  case back =>
    intro steps low high
    rw [range, ← sub_zero (value 0 bit steps)]
    show least ≤ count lround 0 bit (value 0 bit steps) ∧
      count lround 0 bit (value 0 bit steps) ≤ greatest
    rw [UniformQuantizer.count_value nearest_lround.toRounding positive]
    exact ⟨low, high⟩
  case refuses =>
    apply error_of_refused errors.2
    intro value outside
    rw [range] at outside
    rw [if_pos (by omega)]
    exact errors.1

end

/-! ### The pairs of a range -/

theorem codec_tiltMagnitude {errorRaw : UInt8} (declared : IsTiltError errorRaw) :
    Codec (encodeTiltMagnitude · errorRaw) decodeTiltMagnitude (InRange 0 90)
      (WithinHalf (3 / 4)) := by
  have refused : (decodeTiltMagnitude errorRaw).semantic = .error := by
    have above : ¬ errorRaw ≤ 120 := by
      have least := UInt8.le_iff_toNat_le.mp declared.1
      rw [UInt8.le_iff_toNat_le]
      exact Nat.not_le.mpr least
    unfold decodeTiltMagnitude
    rw [if_neg above, if_pos declared.2]
    rfl
  apply codec_range 120 word_uint8 (by decide) (by norm_num) (by norm_num)
  case decodes =>
    intro raw low
    rw [decodeTiltMagnitude, if_pos (UInt8.le_iff_toNat_le.mpr low), zero_add]
  case known =>
    intro raw numeric
    unfold decodeTiltMagnitude at numeric
    split_ifs at numeric with low
    · exact low
    all_goals cases numeric
  case errors => exact ⟨refused, refused, refused⟩

theorem codec_finAngle (invalid : FinAngleError) :
    Codec (encodeFinAngle · invalid) decodeFinAngle (InRange (-15) 15) (WithinHalf (1 / 8)) := by
  have refused : (decodeFinAngle invalid.toByte).semantic = .error := by cases invalid <;> decide
  apply codec_range 240 word_uint8 (by decide) (by norm_num) (by norm_num)
  case decodes =>
    intro raw low
    exact if_pos (UInt8.le_iff_toNat_le.mpr low)
  case known =>
    intro raw numeric
    unfold decodeFinAngle at numeric
    split_ifs at numeric with low
    · exact low
    · cases numeric
  case errors => exact ⟨refused, refused, refused⟩

theorem codec_lpsPressure (invalid : LpsPressureError) :
    Codec (encodeLpsPressure · invalid) decodeLpsPressure (InRange 800 (12062 / 10))
      (WithinHalf (1 / 5)) := by
  apply codec_range 2031 word_uint16 (by decide) (by norm_num) (by norm_num)
  case decodes =>
    intro raw low
    exact if_pos (UInt16.le_iff_toNat_le.mpr low)
  case known =>
    intro raw numeric
    unfold decodeLpsPressure at numeric
    split_ifs at numeric with low
    · exact low
    all_goals cases numeric
  case errors => exact ⟨by decide, by decide, by cases invalid <;> decide⟩

theorem codec_lpsTemperature (invalid : LpsTemperatureError) :
    Codec (encodeLpsTemperature · invalid) decodeLpsTemperature (InRange (-50) 150)
      (WithinHalf 1) := by
  apply codec_range 200 word_uint8 (by decide) one_pos (by norm_num)
  case decodes =>
    intro raw low
    rw [decodeLpsTemperature, if_pos (UInt8.le_iff_toNat_le.mpr low), mul_one]
  case known =>
    intro raw numeric
    unfold decodeLpsTemperature at numeric
    split_ifs at numeric with low
    · exact low
    all_goals cases numeric
  case errors => exact ⟨by decide, by decide, by cases invalid <;> decide⟩

theorem codec_airspeed (invalid : AirspeedError) :
    Codec (encodeAirspeed · invalid) decodeAirspeed (InRange 0 245) (WithinHalf 1) := by
  apply codec_range 245 word_uint8 (by decide) one_pos (by norm_num)
  case decodes =>
    intro raw low
    rw [decodeAirspeed, if_pos (UInt8.le_iff_toNat_le.mpr low), zero_add, mul_one]
  case known =>
    intro raw numeric
    unfold decodeAirspeed at numeric
    split_ifs at numeric with low
    · exact low
    · cases numeric
  case errors => exact ⟨by decide, by decide, by cases invalid <;> decide⟩

/-- A mask of the low bits keeps what has no others. -/
theorem and_mask {raw : UInt16} (width : ℕ) (mask : UInt16) (low : mask.toNat = 2 ^ width - 1)
    (fits : raw.toNat ≤ mask.toNat) : raw &&& mask = raw := by
  have positive : 0 < 2 ^ width := Nat.two_pow_pos width
  apply UInt16.toNat_inj.mp
  rw [UInt16.toNat_and, low, Nat.and_two_pow_sub_one_eq_mod, Nat.mod_eq_of_lt (by omega)]

theorem codec_gnssHeight (invalid : GnssHeightError) :
    Codec (encodeGnssHeight · invalid) decodeGnssHeight (InRange (-100) 2375)
      (WithinHalf 5) := by
  have masked : ∀ raw : UInt16, raw ≤ 0x01FF → raw &&& 0x01FF = raw := fun raw low =>
    and_mask 9 0x01FF rfl (UInt16.le_iff_toNat_le.mp low)
  apply codec_range 495 word_uint16 (by decide) (by norm_num) (by norm_num)
  case decodes =>
    intro raw low
    have fits : raw ≤ 0x01FF := UInt16.le_iff_toNat_le.mpr (low.trans (by decide))
    unfold decodeGnssHeight
    rw [if_neg (UInt16.not_lt.mpr fits), masked raw fits]
    exact if_pos (UInt16.le_iff_toNat_le.mpr low)
  case known =>
    intro raw numeric
    unfold decodeGnssHeight at numeric
    dsimp only at numeric
    split_ifs at numeric with high low
    · cases numeric
    · rw [masked raw (UInt16.not_lt.mp high)] at low
      exact low
    all_goals cases numeric
  case errors => exact ⟨by decide, by decide, by cases invalid <;> decide⟩

theorem codec_parachuteAngle (invalid : ParachuteAngleError) :
    Codec (encodeParachuteAngle · invalid) decodeParachuteAngle (InRange 0 360)
      (WithinHalf (3 / 2)) := by
  have refused : (decodeParachuteAngle invalid.toByte).semantic = .error := by
    cases invalid <;> decide
  apply codec_range 240 word_uint8 (by decide) (by norm_num) (by norm_num)
  case decodes =>
    intro raw low
    rw [decodeParachuteAngle, if_pos (UInt8.le_iff_toNat_le.mpr low), zero_add]
  case known =>
    intro raw numeric
    unfold decodeParachuteAngle at numeric
    split_ifs at numeric with low
    · exact low
    · cases numeric
  case errors => exact ⟨refused, refused, refused⟩

theorem codec_batteryVoltage (invalid : BatteryError) :
    Codec (encodeBatteryVoltage · invalid) decodeBatteryVoltage (InRange 0 12)
      (WithinHalf (1 / 20)) := by
  apply codec_range 240 word_uint8 (by decide) (by norm_num) (by norm_num)
  case decodes =>
    intro raw low
    rw [decodeBatteryVoltage, if_pos (UInt8.le_iff_toNat_le.mpr low), zero_add]
  case known =>
    intro raw numeric
    unfold decodeBatteryVoltage at numeric
    split_ifs at numeric with low
    · exact low
    all_goals cases numeric
  case errors => exact ⟨by decide, by decide, by cases invalid <;> decide⟩

/-! ### The elapsed times -/

/-- Outside the span, a time is either negative or too long. -/
theorem tenths_refuses {Raw : Type} {decode : Raw → Decoded Raw} {ofCount : ℤ → Raw}
    {limit : ℚ} {tooLong invalid : Raw} (errors : (decode tooLong).semantic = .error ∧
      (decode invalid).semantic = .error) (input : Double)
    (refused : ∀ value, input = .finite value → ¬ InSpan limit value) :
    (decode (encodeTenths ofCount limit tooLong input invalid)).semantic = .error := by
  apply error_of_refused errors.2 _ input refused
  intro value outside
  by_cases low : value < 0
  · rw [if_pos low]
    exact errors.2
  · rw [if_neg low, if_pos (by
      by_contra high
      exact outside ⟨not_lt.mp low, not_le.mp high⟩)]
    exact errors.1

theorem tenths_finite {Raw : Type} (ofCount : ℤ → Raw) {limit : ℚ} (tooLong invalid : Raw)
    {input : ℚ} (inside : InSpan limit input) :
    encodeTenths ofCount limit tooLong (.finite input) invalid = ofCount ⌊input / (1 / 10)⌋ := by
  show (if input < 0 then invalid else if limit ≤ input then tooLong else _) = _
  rw [if_neg (not_lt.mpr inside.1), if_neg (not_le.mpr inside.2), one_div, div_inv_eq_mul]

theorem codec_flightElapsed (invalid : TimeError) :
    Codec (encodeFlightElapsed · invalid) decodeFlightElapsed (InSpan 24)
      (JustBelow (1 / 10)) := by
  apply codec_elapsed 0xEF word_uint8 (by decide) (by norm_num) (by norm_num)
  case encodes =>
    intro input inside
    exact tenths_finite _ _ _ inside
  case decodes =>
    intro raw low
    exact if_pos (UInt8.le_iff_toNat_le.mpr low)
  case known =>
    intro raw numeric
    unfold decodeFlightElapsed at numeric
    split_ifs at numeric with low
    · exact low
    · cases numeric
  case refuses => exact tenths_refuses ⟨by decide, by cases invalid <;> decide⟩

theorem codec_descentElapsed (invalid : TimeError) :
    Codec (encodeDescentElapsed · invalid) decodeDescentElapsed (InSpan 6552)
      (JustBelow (1 / 10)) := by
  apply codec_elapsed 0xFFEF word_uint16 (by decide) (by norm_num) (by norm_num)
  case encodes =>
    intro input inside
    exact tenths_finite _ _ _ inside
  case decodes =>
    intro raw low
    exact if_pos (UInt16.le_iff_toNat_le.mpr low)
  case known =>
    intro raw numeric
    unfold decodeDescentElapsed at numeric
    split_ifs at numeric with low
    · exact low
    · cases numeric
  case refuses => exact tenths_refuses ⟨by decide, by cases invalid <;> decide⟩

theorem codec_recoveryElapsed (invalid : TimeError) :
    Codec (encodeRecoveryElapsed · invalid) decodeRecoveryElapsed (InSpan 655200)
      (JustBelow 10) := by
  have span : ∀ input : ℚ, ⌊input / 10⌋ ≤ 0xFFEF ↔ input < 655200 := by
    intro input
    rw [← Int.lt_add_one_iff, Int.floor_lt, div_lt_iff₀ (by norm_num)]
    norm_num
  have unknown : (decodeRecoveryElapsed (0xFFF0 ||| invalid.toByte.toUInt16)).semantic = .error := by
    cases invalid <;> decide
  apply codec_elapsed 0xFFEF word_uint16 (by decide) (by norm_num) (by norm_num)
  case encodes =>
    intro input inside
    show (if input < 0 then _ else if 0xFFEF < ⌊input / 10⌋ then _ else _) = _
    rw [if_neg (not_lt.mpr inside.1), if_neg (not_lt.mpr ((span input).mpr inside.2))]
  case decodes =>
    intro raw low
    exact if_pos (UInt16.le_iff_toNat_le.mpr low)
  case known =>
    intro raw numeric
    unfold decodeRecoveryElapsed at numeric
    split_ifs at numeric with low
    · exact low
    · cases numeric
  case refuses =>
    apply error_of_refused unknown
    intro value outside
    by_cases low : value < 0
    · rw [if_pos low]
      exact unknown
    · have high : 0xFFEF < ⌊value / 10⌋ := by
        rw [← not_le, span]
        exact fun below => outside ⟨not_lt.mp low, below⟩
      rw [if_neg low]
      dsimp only
      rw [if_pos high]
      decide

/-! ### The signed counts -/

theorem toNat_signedRaw {width : ℕ} (narrow : width ≤ 16) (steps : ℤ) :
    ((signedRaw steps width).toNat : ℤ) = steps % 2 ^ width := by
  have positive : (0 : ℤ) < 2 ^ width := by positivity
  have low := Int.emod_nonneg steps positive.ne'
  have small := Quantization.signedRaw_lt steps narrow
  have word : 2 ^ width ≤ 2 ^ 16 := Nat.pow_le_pow_right two_pos narrow
  have high := Int.emod_lt_of_pos steps positive
  have wide : (2 : ℤ) ^ width ≤ 2 ^ 16 := by exact_mod_cast word
  unfold signedRaw
  rw [UInt16.toNat_ofNat', Nat.mod_eq_of_lt (by omega), Int.toNat_of_nonneg low]

theorem toInt_toInt16 (raw : UInt16) :
    raw.toInt16.toInt = if raw.toNat < 0x8000 then (raw.toNat : ℤ) else raw.toNat - 0x10000 := by
  show raw.toBitVec.toInt = _
  rw [BitVec.toInt_eq_toNat_cond]
  show (if 2 * raw.toNat < 2 ^ 16 then (raw.toNat : ℤ) else raw.toNat - (2 ^ 16 : ℕ)) = _
  split <;> split <;> omega

/-- The pairs of a signed count of 16 bits -/
theorem codec_count16 {bit : ℚ} (lastError : UInt16) {outOfRange invalid : UInt16}
    (positive : 0 < bit) (window : 0x8000 ≤ lastError ∧ lastError ≤ 0x800F)
    (errors : (decodeCount bit lastError outOfRange).semantic = .error ∧
      (decodeCount bit lastError invalid).semantic = .error) :
    Codec (encodeCount bit (-32752) 32767 16 outOfRange · invalid) (decodeCount bit lastError)
      (CountRange bit (-32752) 32767) (WithinHalf bit) := by
  have first := UInt16.le_iff_toNat_le.mp window.1
  have last := UInt16.le_iff_toNat_le.mp window.2
  apply codec_count positive (by decide) (by decide) _ _ errors
  · intro steps low high
    have code := toNat_signedRaw (le_refl 16) steps
    have notError : ¬ (0x8000 ≤ signedRaw steps 16 ∧ signedRaw steps 16 ≤ lastError) := by
      rw [UInt16.le_iff_toNat_le, UInt16.le_iff_toNat_le]
      show ¬ (0x8000 ≤ _ ∧ _)
      change lastError.toNat ≤ 0x800F at last
      omega
    have notReserved : ¬ (lastError < signedRaw steps 16 ∧ signedRaw steps 16 ≤ 0x800F) := by
      rw [UInt16.lt_iff_toNat_lt, UInt16.le_iff_toNat_le]
      show ¬ (_ ∧ _ ≤ 0x800F)
      change 0x8000 ≤ lastError.toNat at first
      omega
    have own : (signedRaw steps 16).toInt16.toInt = steps := by
      rw [toInt_toInt16]
      split <;> omega
    rw [decodeCount, if_neg notError, if_neg notReserved, own]
  · intro raw numeric
    have small := raw.toNat_lt
    unfold decodeCount at numeric
    split_ifs at numeric with error reserved
    · cases numeric
    · cases numeric
    · rw [UInt16.le_iff_toNat_le, UInt16.le_iff_toNat_le] at error
      rw [UInt16.lt_iff_toNat_lt, UInt16.le_iff_toNat_le] at reserved
      change ¬ (0x8000 ≤ raw.toNat ∧ _) at error
      change ¬ (_ ∧ raw.toNat ≤ 0x800F) at reserved
      have sign := toInt_toInt16 raw
      refine ⟨raw.toInt16.toInt, ?_, ?_, ?_⟩
      · rw [sign]
        split <;> omega
      · rw [sign]
        split <;> omega
      · apply UInt16.toNat_inj.mp
        have code := toNat_signedRaw (le_refl 16) raw.toInt16.toInt
        split at sign <;> omega

theorem codec_roll (invalid : RollError) :
    Codec (encodeRoll · invalid) decodeRoll (CountRange (1 / 2) (-32752) 32767)
      (WithinHalf (1 / 2)) :=
  codec_count16 0x800F (by norm_num) (by decide) ⟨by decide, by cases invalid <;> decide⟩

theorem codec_rollRate (invalid : RollError) :
    Codec (encodeRollRate · invalid) decodeRollRate (CountRange (1 / 10) (-32752) 32767)
      (WithinHalf (1 / 10)) :=
  codec_count16 0x800F (by norm_num) (by decide) ⟨by decide, by cases invalid <;> decide⟩

theorem codec_finRate (invalid : FinRateError) :
    Codec (encodeFinRate · invalid) decodeFinRate (CountRange (1 / 50) (-32752) 32767)
      (WithinHalf (1 / 50)) :=
  codec_count16 0x8009 (by norm_num) (by decide) ⟨by decide, by cases invalid <;> decide⟩

theorem codec_gnssOffset (invalid : GnssError) :
    Codec (encodeGnssOffset · invalid) decodeGnssOffset (CountRange 1 (-32752) 32767)
      (WithinHalf 1) :=
  codec_count16 0x8008 one_pos (by decide) ⟨by decide, by cases invalid <;> decide⟩

/-- The exclusive or with the sign bit moves the two halves past each other. -/
theorem signedValue_eq (raw : UInt16) (fits : raw.toNat < 0x1000) :
    signedValue raw 12 =
      if raw.toNat < 0x800 then (raw.toNat : ℤ) else raw.toNat - 0x1000 := by
  have quotient := Nat.xor_div_two_pow (a := raw.toNat) (b := 2 ^ 11) (n := 11)
  have remainder := Nat.xor_mod_two_pow (a := raw.toNat) (b := 2 ^ 11) (n := 11)
  have sign : raw.toNat / 2 ^ 11 = 0 ∨ raw.toNat / 2 ^ 11 = 1 := by omega
  rw [Nat.mod_self, Nat.xor_zero] at remainder
  rw [Nat.div_self (Nat.two_pow_pos 11)] at quotient
  show ((raw.toNat % 0x1000 ^^^ 2 ^ 11 : ℕ) : ℤ) - (2 ^ 11 : ℕ) = _
  rw [Nat.mod_eq_of_lt fits]
  rcases sign with low | high
  · rw [low] at quotient
    change _ = 1 at quotient
    rw [if_pos (by omega)]
    omega
  · rw [high] at quotient
    change _ = 0 at quotient
    rw [if_neg (by omega)]
    omega

theorem codec_requestedTorque (invalid : TorqueError) :
    Codec (encodeRequestedTorque · invalid) decodeRequestedTorque
      (CountRange (1 / 500) (-2032) 2047) (WithinHalf (1 / 500)) := by
  have masked : ∀ raw : UInt16, raw.toNat ≤ 0x0FFF → raw &&& 0x0FFF = raw := fun raw low =>
    and_mask 12 0x0FFF rfl low
  have twelve : 12 ≤ 16 := by decide
  apply codec_count (by norm_num) (by decide) (by decide)
  case decodes =>
    intro steps low high
    have code := toNat_signedRaw twelve steps
    have own : signedValue (signedRaw steps 12) 12 = steps := by
      rw [signedValue_eq _ (by omega)]
      split <;> omega
    unfold decodeRequestedTorque
    rw [masked _ (by omega), if_neg, if_neg, if_neg, own]
    · rw [UInt16.le_iff_toNat_le, UInt16.le_iff_toNat_le]
      show ¬ (0x807 ≤ _ ∧ _ ≤ 0x80F)
      omega
    · rw [UInt16.le_iff_toNat_le, UInt16.le_iff_toNat_le]
      show ¬ (0x800 ≤ _ ∧ _ ≤ 0x806)
      omega
    · rw [UInt16.lt_iff_toNat_lt]
      show ¬ 0x0FFF < _
      omega
  case known =>
    intro raw numeric
    unfold decodeRequestedTorque at numeric
    dsimp only at numeric
    split_ifs at numeric with high error reserved
    · cases numeric
    · cases numeric
    · cases numeric
    · rw [UInt16.lt_iff_toNat_lt] at high
      change ¬ 0x0FFF < raw.toNat at high
      rw [masked raw (by omega), UInt16.le_iff_toNat_le, UInt16.le_iff_toNat_le] at error reserved
      change ¬ (0x800 ≤ raw.toNat ∧ raw.toNat ≤ 0x806) at error
      change ¬ (0x807 ≤ raw.toNat ∧ raw.toNat ≤ 0x80F) at reserved
      have sign := signedValue_eq raw (by omega)
      refine ⟨signedValue raw 12, ?_, ?_, ?_⟩
      · rw [sign]
        split <;> omega
      · rw [sign]
        split <;> omega
      · apply UInt16.toNat_inj.mp
        have code := toNat_signedRaw twelve (signedValue raw 12)
        split at sign <;> omega
  case errors => exact ⟨by decide, by cases invalid <;> decide⟩

/-! ### The direction of the tilt -/

/-- The remainder is less than one turn, on the side of the input. -/
theorem fmod_turn (input : ℚ) : ∃ turns : ℤ, fmod input 360 = input - turns * 360 ∧
    -360 < fmod input 360 ∧ fmod input 360 < 360 := by
  have floor := Int.floor_le (input / 360)
  have nextFloor := Int.lt_floor_add_one (input / 360)
  have ceil := Int.le_ceil (input / 360)
  have nextCeil := Int.ceil_lt_add_one (input / 360)
  rw [div_lt_iff₀ (by norm_num)] at nextFloor
  rw [le_div_iff₀ (by norm_num)] at floor
  rw [div_le_iff₀ (by norm_num)] at ceil
  have scaled : (⌈input / 360⌉ : ℚ) * 360 < input + 360 := by
    have strict := mul_lt_mul_of_pos_right nextCeil (by norm_num : (0 : ℚ) < 360)
    rwa [add_mul, div_mul_cancel₀ _ (by norm_num), one_mul] at strict
  unfold fmod
  split
  · exact ⟨_, rfl, by linarith, by linarith⟩
  · exact ⟨_, rfl, by linarith, by linarith⟩

/-- `normalized` -/
theorem normalized_turn (input : ℚ) : ∃ (normalized : ℚ) (turns : ℤ),
    encodeTiltDirection (.finite input) = UInt16.ofInt (lround normalized) % 360 ∧
    normalized = input - turns * 360 ∧ 0 ≤ normalized ∧ normalized < 360 := by
  obtain ⟨turns, same, low, high⟩ := fmod_turn input
  by_cases negative : fmod input 360 < 0
  · refine ⟨fmod input 360 + 360, turns - 1, ?_, ?_, by linarith, by linarith⟩
    · show UInt16.ofInt (lround (if fmod input 360 < 0 then _ else _)) % 360 = _
      rw [if_pos negative]
    · push_cast
      linarith
  · refine ⟨fmod input 360, turns, ?_, same, not_lt.mp negative, high⟩
    show UInt16.ofInt (lround (if fmod input 360 < 0 then _ else _)) % 360 = _
    rw [if_neg negative]

theorem toNat_direction (steps : ℕ) (small : steps ≤ 360) :
    (UInt16.ofInt steps % 360).toNat = steps % 360 := by
  rw [UInt16.toNat_mod, word_uint16.toNat_ofCount steps (by omega)]
  rfl

/-- A direction comes back within half a degree, up to whole turns. -/
theorem tiltDirection_close (input : ℚ) :
    (decodeTiltDirection (encodeTiltDirection (.finite input))).semantic = .numeric ∧
      ∃ turns : ℤ, WithinHalf 1 input
        ((decodeTiltDirection (encodeTiltDirection (.finite input))).value + turns * 360) := by
  obtain ⟨normalized, turns, encoded, same, low, high⟩ := normalized_turn input
  have least := nearest_lround.monotone low
  have greatest := nearest_lround.monotone high.le
  have bottom := nearest_lround.keeps 0
  have top := nearest_lround.keeps 360
  push_cast at bottom top
  rw [bottom] at least
  rw [top] at greatest
  have near := nearest_lround.near normalized
  obtain ⟨steps, counted⟩ := Int.eq_ofNat_of_zero_le least
  rw [counted] at near greatest encoded
  have code := toNat_direction steps (by omega)
  rw [← encoded] at code
  have numeric : encodeTiltDirection (.finite input) ≤ 359 := by
    rw [UInt16.le_iff_toNat_le, code]
    exact Nat.le_of_lt_succ (Nat.mod_lt steps (by decide))
  rw [decodeTiltDirection, if_pos numeric]
  refine ⟨rfl, turns + (steps / 360 : ℕ), ?_⟩
  have whole : (steps : ℚ) = (steps % 360 : ℕ) + (steps / 360 : ℕ) * 360 := by
    exact_mod_cast (Nat.mod_add_div' steps 360).symm
  show |((encodeTiltDirection (.finite input)).toNat : ℚ) + _ - input| ≤ 1 / 2
  have moved : ((encodeTiltDirection (.finite input)).toNat : ℚ) +
      ((turns + (steps / 360 : ℕ) : ℤ) : ℚ) * 360 - input = ((steps : ℤ) : ℚ) - normalized := by
    rw [code, same, Int.cast_add, Int.cast_natCast, Int.cast_natCast, whole]
    ring
  rw [moved]
  exact near

theorem tiltDirection_returns (raw : UInt16)
    (numeric : (decodeTiltDirection raw).semantic = .numeric) :
    encodeTiltDirection (.finite (decodeTiltDirection raw).value) = raw := by
  unfold decodeTiltDirection at numeric ⊢
  split_ifs at numeric with low
  · rw [if_pos low]
    have small : raw.toNat ≤ 359 := UInt16.le_iff_toNat_le.mp low
    have bound : (raw.toNat : ℚ) ≤ 359 := by exact_mod_cast small
    have positive : (0 : ℚ) ≤ raw.toNat := Nat.cast_nonneg _
    have remainder : fmod raw.toNat 360 = raw.toNat := by
      have quotient : ⌊(raw.toNat : ℚ) / 360⌋ = 0 := by
        rw [Int.floor_eq_iff]
        constructor
        · push_cast
          positivity
        · rw [div_lt_iff₀ (by norm_num)]
          push_cast
          linarith
      rw [fmod, if_pos (by positivity), quotient]
      simp
    show UInt16.ofInt (lround (if fmod raw.toNat 360 < 0 then fmod raw.toNat 360 + 360
      else fmod raw.toNat 360)) % 360 = raw
    rw [remainder, if_neg (not_lt.mpr positive)]
    have count : lround (raw.toNat : ℚ) = raw.toNat := nearest_lround.keeps raw.toNat
    apply UInt16.toNat_inj.mp
    rw [count, toNat_direction _ (by omega), Nat.mod_eq_of_lt (by omega)]
  · cases numeric

/-- A direction that is not finite has a code that stands for nothing. -/
theorem tiltDirection_infinite (input : Double) (infinite : input.isFinite = false) :
    (decodeTiltDirection (encodeTiltDirection input)).semantic = .reserved := by
  cases input with
  | finite value => cases infinite
  | infinite negative => rfl
  | nan => rfl

/-! ### Every pair -/

/-- Each pair keeps what it can express and makes an error of the rest. The direction of the tilt,
which goes round and has no error codes, keeps every number up to whole turns, and makes a reserved
code of the rest. -/
theorem quantization_codecs :
    (∀ invalid, Codec (encodeRoll · invalid) decodeRoll (CountRange (1 / 2) (-32752) 32767)
      (WithinHalf (1 / 2))) ∧
    (∀ invalid, Codec (encodeRollRate · invalid) decodeRollRate
      (CountRange (1 / 10) (-32752) 32767) (WithinHalf (1 / 10))) ∧
    (∀ errorRaw, IsTiltError errorRaw → Codec (encodeTiltMagnitude · errorRaw)
      decodeTiltMagnitude (InRange 0 90) (WithinHalf (3 / 4))) ∧
    ((∀ input, (decodeTiltDirection (encodeTiltDirection (.finite input))).semantic = .numeric ∧
        ∃ turns : ℤ, WithinHalf 1 input
          ((decodeTiltDirection (encodeTiltDirection (.finite input))).value + turns * 360)) ∧
      (∀ raw, (decodeTiltDirection raw).semantic = .numeric →
        encodeTiltDirection (.finite (decodeTiltDirection raw).value) = raw) ∧
      (∀ input : Double, input.isFinite = false →
        (decodeTiltDirection (encodeTiltDirection input)).semantic = .reserved)) ∧
    (∀ invalid, Codec (encodeFinAngle · invalid) decodeFinAngle (InRange (-15) 15)
      (WithinHalf (1 / 8))) ∧
    (∀ invalid, Codec (encodeFinRate · invalid) decodeFinRate
      (CountRange (1 / 50) (-32752) 32767) (WithinHalf (1 / 50))) ∧
    (∀ invalid, Codec (encodeRequestedTorque · invalid) decodeRequestedTorque
      (CountRange (1 / 500) (-2032) 2047) (WithinHalf (1 / 500))) ∧
    (∀ invalid, Codec (encodeLpsPressure · invalid) decodeLpsPressure
      (InRange 800 (12062 / 10)) (WithinHalf (1 / 5))) ∧
    (∀ invalid, Codec (encodeLpsTemperature · invalid) decodeLpsTemperature (InRange (-50) 150)
      (WithinHalf 1)) ∧
    (∀ invalid, Codec (encodeAirspeed · invalid) decodeAirspeed (InRange 0 245)
      (WithinHalf 1)) ∧
    (∀ invalid, Codec (encodeFlightElapsed · invalid) decodeFlightElapsed (InSpan 24)
      (JustBelow (1 / 10))) ∧
    (∀ invalid, Codec (encodeDescentElapsed · invalid) decodeDescentElapsed (InSpan 6552)
      (JustBelow (1 / 10))) ∧
    (∀ invalid, Codec (encodeRecoveryElapsed · invalid) decodeRecoveryElapsed (InSpan 655200)
      (JustBelow 10)) ∧
    (∀ invalid, Codec (encodeGnssOffset · invalid) decodeGnssOffset
      (CountRange 1 (-32752) 32767) (WithinHalf 1)) ∧
    (∀ invalid, Codec (encodeGnssHeight · invalid) decodeGnssHeight (InRange (-100) 2375)
      (WithinHalf 5)) ∧
    (∀ invalid, Codec (encodeParachuteAngle · invalid) decodeParachuteAngle (InRange 0 360)
      (WithinHalf (3 / 2))) ∧
    (∀ invalid, Codec (encodeBatteryVoltage · invalid) decodeBatteryVoltage (InRange 0 12)
      (WithinHalf (1 / 20))) :=
  ⟨codec_roll, codec_rollRate, fun _ declared => codec_tiltMagnitude declared,
    ⟨tiltDirection_close, tiltDirection_returns, tiltDirection_infinite⟩, codec_finAngle,
    codec_finRate, codec_requestedTorque, codec_lpsPressure, codec_lpsTemperature,
    codec_airspeed, codec_flightElapsed, codec_descentElapsed, codec_recoveryElapsed,
    codec_gnssOffset, codec_gnssHeight, codec_parachuteAngle, codec_batteryVoltage⟩

/-- A direction that is not a number does not decode as an error. -/
theorem tiltDirection_nan_reserved :
    ¬ ∀ input : Double, input.isFinite = false →
      (decodeTiltDirection (encodeTiltDirection input)).semantic = .error :=
  fun errors => absurd (errors .nan rfl) (by decide)

end MissionBoard.Protocol.ExactQuantization
