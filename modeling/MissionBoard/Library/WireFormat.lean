import Mathlib.Data.Nat.Bitwise
import Mathlib.Data.UInt
import Mathlib.Tactic.Ring

/-!
Owns what byte formats are made of. Little-endian words: joining two, three or four
bytes with shifts, taking the bytes of a word by shift and truncation, and that the
two undo each other. Enumerations carried in one byte: the bytes that are members,
and that casting to the enumeration and back undo each other on them.

The words are read as natural numbers first, so that their round trips are arithmetic.
-/

namespace LittleEndian

/-- The word with the given low and high byte. -/
def join16 (low high : UInt8) : UInt16 := low.toUInt16 ||| high.toUInt16 <<< 8

/-- The word with the given three low bytes. -/
def join24 (first second third : UInt8) : UInt32 :=
  first.toUInt32 ||| second.toUInt32 <<< 8 ||| third.toUInt32 <<< 16

/-- The word with the given four bytes. -/
def join32 (first second third fourth : UInt8) : UInt32 :=
  first.toUInt32 ||| second.toUInt32 <<< 8 ||| third.toUInt32 <<< 16 ||| fourth.toUInt32 <<< 24

/-- A disjunction with a part shifted above the other is a sum. -/
theorem lor_shiftLeft {low high width : ℕ} (below : low < 2 ^ width) :
    low ||| high <<< width = low + 2 ^ width * high := by
  rw [Nat.lor_comm, ← Nat.shiftLeft_add_eq_or_of_lt below, Nat.shiftLeft_eq]
  ring

theorem toNat_join16 (low high : UInt8) :
    (join16 low high).toNat = low.toNat + 256 * high.toNat := by
  have lowBound := low.toNat_lt
  have highBound := high.toNat_lt
  unfold join16
  rw [UInt16.toNat_or, UInt16.toNat_shiftLeft, UInt8.toNat_toUInt16, UInt8.toNat_toUInt16]
  have shifted : high.toNat <<< ((8 : UInt16).toNat % 16) % 2 ^ 16 = high.toNat <<< 8 := by
    rw [show (8 : UInt16).toNat % 16 = 8 from rfl, Nat.shiftLeft_eq]
    omega
  rw [shifted, lor_shiftLeft lowBound]
  omega

theorem toNat_join24 (first second third : UInt8) :
    (join24 first second third).toNat =
      first.toNat + 256 * second.toNat + 65536 * third.toNat := by
  have firstBound := first.toNat_lt
  have secondBound := second.toNat_lt
  have thirdBound := third.toNat_lt
  unfold join24
  simp only [UInt32.toNat_or, UInt32.toNat_shiftLeft, UInt8.toNat_toUInt32]
  have secondShifted : second.toNat <<< ((8 : UInt32).toNat % 32) % 2 ^ 32 =
      second.toNat <<< 8 := by
    rw [show (8 : UInt32).toNat % 32 = 8 from rfl, Nat.shiftLeft_eq]
    omega
  have thirdShifted : third.toNat <<< ((16 : UInt32).toNat % 32) % 2 ^ 32 =
      third.toNat <<< 16 := by
    rw [show (16 : UInt32).toNat % 32 = 16 from rfl, Nat.shiftLeft_eq]
    omega
  rw [secondShifted, thirdShifted, lor_shiftLeft firstBound, lor_shiftLeft (by omega)]
  omega

theorem toNat_join32 (first second third fourth : UInt8) :
    (join32 first second third fourth).toNat =
      first.toNat + 256 * second.toNat + 65536 * third.toNat + 16777216 * fourth.toNat := by
  have lowBits := toNat_join24 first second third
  have firstBound := first.toNat_lt
  have secondBound := second.toNat_lt
  have thirdBound := third.toNat_lt
  have fourthBound := fourth.toNat_lt
  have shifted : fourth.toNat <<< ((24 : UInt32).toNat % 32) % 2 ^ 32 =
      fourth.toNat <<< 24 := by
    rw [show (24 : UInt32).toNat % 32 = 24 from rfl, Nat.shiftLeft_eq]
    omega
  show (join24 first second third ||| fourth.toUInt32 <<< 24).toNat = _
  rw [UInt32.toNat_or, UInt32.toNat_shiftLeft, UInt8.toNat_toUInt32, shifted,
    lor_shiftLeft (by omega), lowBits]
  omega

/-! ### The bytes of a word -/

theorem toNat_byte16 (word : UInt16) : (word >>> 8).toUInt8.toNat = word.toNat / 256 := by
  have bound := word.toNat_lt
  rw [UInt16.toNat_toUInt8, UInt16.toNat_shiftRight, show (8 : UInt16).toNat % 16 = 8 from rfl,
    Nat.shiftRight_eq_div_pow]
  omega

theorem toNat_byte32_second (word : UInt32) :
    (word >>> 8).toUInt8.toNat = word.toNat / 256 % 256 := by
  rw [UInt32.toNat_toUInt8, UInt32.toNat_shiftRight, show (8 : UInt32).toNat % 32 = 8 from rfl,
    Nat.shiftRight_eq_div_pow]

theorem toNat_byte32_third (word : UInt32) :
    (word >>> 16).toUInt8.toNat = word.toNat / 65536 % 256 := by
  rw [UInt32.toNat_toUInt8, UInt32.toNat_shiftRight, show (16 : UInt32).toNat % 32 = 16 from rfl,
    Nat.shiftRight_eq_div_pow]

theorem toNat_byte32_fourth (word : UInt32) :
    (word >>> 24).toUInt8.toNat = word.toNat / 16777216 % 256 := by
  rw [UInt32.toNat_toUInt8, UInt32.toNat_shiftRight, show (24 : UInt32).toNat % 32 = 24 from rfl,
    Nat.shiftRight_eq_div_pow]

/-! ### Splitting what was joined -/

@[simp] theorem first_join16 (low high : UInt8) : (join16 low high).toUInt8 = low := by
  have bound := low.toNat_lt
  rw [← UInt8.toNat_inj, UInt16.toNat_toUInt8, toNat_join16]
  omega

@[simp] theorem second_join16 (low high : UInt8) : (join16 low high >>> 8).toUInt8 = high := by
  have bound := low.toNat_lt
  rw [← UInt8.toNat_inj, toNat_byte16, toNat_join16]
  omega

@[simp] theorem first_join24 (first second third : UInt8) :
    (join24 first second third).toUInt8 = first := by
  have bound := first.toNat_lt
  rw [← UInt8.toNat_inj, UInt32.toNat_toUInt8, toNat_join24]
  omega

@[simp] theorem second_join24 (first second third : UInt8) :
    (join24 first second third >>> 8).toUInt8 = second := by
  have firstBound := first.toNat_lt
  have secondBound := second.toNat_lt
  rw [← UInt8.toNat_inj, toNat_byte32_second, toNat_join24]
  omega

@[simp] theorem third_join24 (first second third : UInt8) :
    (join24 first second third >>> 16).toUInt8 = third := by
  have firstBound := first.toNat_lt
  have secondBound := second.toNat_lt
  have thirdBound := third.toNat_lt
  rw [← UInt8.toNat_inj, toNat_byte32_third, toNat_join24]
  omega

@[simp] theorem first_join32 (first second third fourth : UInt8) :
    (join32 first second third fourth).toUInt8 = first := by
  have bound := first.toNat_lt
  rw [← UInt8.toNat_inj, UInt32.toNat_toUInt8, toNat_join32]
  omega

@[simp] theorem second_join32 (first second third fourth : UInt8) :
    (join32 first second third fourth >>> 8).toUInt8 = second := by
  have firstBound := first.toNat_lt
  have secondBound := second.toNat_lt
  rw [← UInt8.toNat_inj, toNat_byte32_second, toNat_join32]
  omega

@[simp] theorem third_join32 (first second third fourth : UInt8) :
    (join32 first second third fourth >>> 16).toUInt8 = third := by
  have firstBound := first.toNat_lt
  have secondBound := second.toNat_lt
  have thirdBound := third.toNat_lt
  rw [← UInt8.toNat_inj, toNat_byte32_third, toNat_join32]
  omega

@[simp] theorem fourth_join32 (first second third fourth : UInt8) :
    (join32 first second third fourth >>> 24).toUInt8 = fourth := by
  have firstBound := first.toNat_lt
  have secondBound := second.toNat_lt
  have thirdBound := third.toNat_lt
  have fourthBound := fourth.toNat_lt
  rw [← UInt8.toNat_inj, toNat_byte32_fourth, toNat_join32]
  omega

/-! ### Joining what was split -/

@[simp] theorem join16_split (word : UInt16) : join16 word.toUInt8 (word >>> 8).toUInt8 = word := by
  rw [← UInt16.toNat_inj, toNat_join16, UInt16.toNat_toUInt8, toNat_byte16]
  omega

/-- A word of three bytes is joined again from them. -/
theorem join24_split {word : UInt32} (narrow : word.toNat < 2 ^ 24) :
    join24 word.toUInt8 (word >>> 8).toUInt8 (word >>> 16).toUInt8 = word := by
  rw [← UInt32.toNat_inj, toNat_join24, UInt32.toNat_toUInt8, toNat_byte32_second,
    toNat_byte32_third]
  omega

@[simp] theorem join32_split (word : UInt32) :
    join32 word.toUInt8 (word >>> 8).toUInt8 (word >>> 16).toUInt8 (word >>> 24).toUInt8 =
      word := by
  have bound := word.toNat_lt
  rw [← UInt32.toNat_inj, toNat_join32, UInt32.toNat_toUInt8, toNat_byte32_second,
    toNat_byte32_third, toNat_byte32_fourth]
  omega

/-- A field narrower than its word: the low bits that an encoder keeps, and the bits
above them that a decoder wants clear. -/
structure PackedField (kept reserved : UInt16) (width : ℕ) : Prop where
  low : kept.toNat = 2 ^ width - 1
  apart : kept &&& reserved = 0
  cover : kept ||| reserved = -1

namespace PackedField

variable {kept reserved word : UInt16} {width : ℕ}

theorem masked (field : PackedField kept reserved width) (narrow : word.toNat < 2 ^ width) :
    word &&& kept = word := by
  rw [← UInt16.toNat_inj, UInt16.toNat_and, field.low, Nat.and_two_pow_sub_one_eq_mod,
    Nat.mod_eq_of_lt narrow]

theorem clear (field : PackedField kept reserved width) (narrow : word.toNat < 2 ^ width) :
    word &&& reserved = 0 := by
  calc word &&& reserved = word &&& kept &&& reserved := by rw [field.masked narrow]
    _ = word &&& (kept &&& reserved) := UInt16.and_assoc word kept reserved
    _ = 0 := by rw [field.apart, UInt16.and_zero]

/-- A word with no reserved bit set is its masked part. -/
theorem masked_of_clear (field : PackedField kept reserved width)
    (unreserved : word &&& reserved = 0) : word &&& kept = word := by
  have parts : word &&& (kept ||| reserved) = word &&& kept ||| word &&& reserved := by
    rw [← UInt16.toNat_inj]
    simp only [UInt16.toNat_and, UInt16.toNat_or, Nat.and_or_distrib_left]
  rwa [field.cover, UInt16.and_neg_one, unreserved, UInt16.or_zero, eq_comm] at parts

end PackedField

end LittleEndian

/-- An enumeration that travels in one byte. `ofByte` casts any byte; only the bytes
that are `valid` are members. -/
class ByteEnum (α : Type*) where
  toByte : α → UInt8
  ofByte : UInt8 → α
  valid : UInt8 → Bool
  ofByte_toByte : ∀ member, ofByte (toByte member) = member
  valid_toByte : ∀ member, valid (toByte member) = true
  toByte_ofByte : ∀ byte, valid byte = true → toByte (ofByte byte) = byte

namespace ByteEnum

attribute [simp] ofByte_toByte valid_toByte

/-- What holds of each of the 256 bytes holds of every byte. -/
theorem forall_byte {property : UInt8 → Prop}
    (each : ∀ value < 256, property (UInt8.ofNat value)) (byte : UInt8) : property byte := by
  have holds := each byte.toNat byte.toNat_lt
  rwa [UInt8.ofNat_toNat] at holds

end ByteEnum
