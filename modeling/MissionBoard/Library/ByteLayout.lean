import Mathlib.Data.List.GetD
import Mathlib.Data.List.Pairwise
import MissionBoard.Library.WireFormat

/-!
Owns records of fixed layout: fields written at their offsets into an image of zeros, and
reading them back. Fields that lie apart are read back as they were written, and an image
with nothing outside the fields is written again from what is read.

An image gives the byte of each address. How long a record is, its client says.
-/

namespace LittleEndian

/-- The word with the given eight bytes -/
def join64 (b0 b1 b2 b3 b4 b5 b6 b7 : UInt8) : UInt64 :=
  b0.toUInt64 ||| b1.toUInt64 <<< 8 ||| b2.toUInt64 <<< 16 ||| b3.toUInt64 <<< 24 |||
    b4.toUInt64 <<< 32 ||| b5.toUInt64 <<< 40 ||| b6.toUInt64 <<< 48 ||| b7.toUInt64 <<< 56

theorem toNat_shifted64 (byte : UInt8) (shift : UInt64) (below : shift.toNat ≤ 56) :
    (byte.toUInt64 <<< shift).toNat = byte.toNat <<< shift.toNat := by
  have bound := byte.toNat_lt
  have narrow : shift.toNat % 64 = shift.toNat := Nat.mod_eq_of_lt (by omega)
  rw [UInt64.toNat_shiftLeft, UInt8.toNat_toUInt64, narrow]
  refine Nat.mod_eq_of_lt ?_
  rw [Nat.shiftLeft_eq]
  calc byte.toNat * 2 ^ shift.toNat < 2 ^ 8 * 2 ^ shift.toNat :=
        Nat.mul_lt_mul_of_pos_right bound (Nat.two_pow_pos _)
    _ = 2 ^ (8 + shift.toNat) := (Nat.pow_add 2 8 _).symm
    _ ≤ 2 ^ 64 := Nat.pow_le_pow_right (by decide) (by omega)

theorem toNat_join64 (b0 b1 b2 b3 b4 b5 b6 b7 : UInt8) :
    (join64 b0 b1 b2 b3 b4 b5 b6 b7).toNat =
      b0.toNat + 2 ^ 8 * b1.toNat + 2 ^ 16 * b2.toNat + 2 ^ 24 * b3.toNat + 2 ^ 32 * b4.toNat +
        2 ^ 40 * b5.toNat + 2 ^ 48 * b6.toNat + 2 ^ 56 * b7.toNat := by
  have bound0 := b0.toNat_lt
  have bound1 := b1.toNat_lt
  have bound2 := b2.toNat_lt
  have bound3 := b3.toNat_lt
  have bound4 := b4.toNat_lt
  have bound5 := b5.toNat_lt
  have bound6 := b6.toNat_lt
  have shift8 : (8 : UInt64).toNat = 8 := rfl
  have shift16 : (16 : UInt64).toNat = 16 := rfl
  have shift24 : (24 : UInt64).toNat = 24 := rfl
  have shift32 : (32 : UInt64).toNat = 32 := rfl
  have shift40 : (40 : UInt64).toNat = 40 := rfl
  have shift48 : (48 : UInt64).toNat = 48 := rfl
  have shift56 : (56 : UInt64).toNat = 56 := rfl
  unfold join64
  simp only [UInt64.toNat_or]
  rw [toNat_shifted64 b1 8 (by decide), toNat_shifted64 b2 16 (by decide),
    toNat_shifted64 b3 24 (by decide), toNat_shifted64 b4 32 (by decide),
    toNat_shifted64 b5 40 (by decide), toNat_shifted64 b6 48 (by decide),
    toNat_shifted64 b7 56 (by decide), UInt8.toNat_toUInt64, shift8, shift16, shift24, shift32,
    shift40, shift48, shift56]
  rw [@lor_shiftLeft _ b1.toNat 8 (by omega), @lor_shiftLeft _ b2.toNat 16 (by omega),
    @lor_shiftLeft _ b3.toNat 24 (by omega), @lor_shiftLeft _ b4.toNat 32 (by omega),
    @lor_shiftLeft _ b5.toNat 40 (by omega), @lor_shiftLeft _ b6.toNat 48 (by omega),
    @lor_shiftLeft _ b7.toNat 56 (by omega)]

theorem toNat_byte64 (word shift : UInt64) (below : shift.toNat ≤ 56) :
    (word >>> shift).toUInt8.toNat = word.toNat / 2 ^ shift.toNat % 256 := by
  have narrow : shift.toNat % 64 = shift.toNat := Nat.mod_eq_of_lt (by omega)
  rw [UInt64.toNat_toUInt8, UInt64.toNat_shiftRight, narrow, Nat.shiftRight_eq_div_pow]

/-! ### The bytes of a word as a list -/

def bytes16 (word : UInt16) : List UInt8 := [word.toUInt8, (word >>> 8).toUInt8]

def bytes32 (word : UInt32) : List UInt8 :=
  [word.toUInt8, (word >>> 8).toUInt8, (word >>> 16).toUInt8, (word >>> 24).toUInt8]

def bytes64 (word : UInt64) : List UInt8 :=
  [word.toUInt8, (word >>> 8).toUInt8, (word >>> 16).toUInt8, (word >>> 24).toUInt8,
    (word >>> 32).toUInt8, (word >>> 40).toUInt8, (word >>> 48).toUInt8, (word >>> 56).toUInt8]

theorem join64_split (word : UInt64) :
    join64 word.toUInt8 (word >>> 8).toUInt8 (word >>> 16).toUInt8 (word >>> 24).toUInt8
      (word >>> 32).toUInt8 (word >>> 40).toUInt8 (word >>> 48).toUInt8 (word >>> 56).toUInt8 =
      word := by
  have bound := word.toNat_lt
  rw [← UInt64.toNat_inj, toNat_join64, UInt64.toNat_toUInt8, toNat_byte64 _ 8 (by decide),
    toNat_byte64 _ 16 (by decide), toNat_byte64 _ 24 (by decide), toNat_byte64 _ 32 (by decide),
    toNat_byte64 _ 40 (by decide), toNat_byte64 _ 48 (by decide), toNat_byte64 _ 56 (by decide)]
  show word.toNat % 256 + 2 ^ 8 * (word.toNat / 2 ^ 8 % 256) +
      2 ^ 16 * (word.toNat / 2 ^ 16 % 256) + 2 ^ 24 * (word.toNat / 2 ^ 24 % 256) +
      2 ^ 32 * (word.toNat / 2 ^ 32 % 256) + 2 ^ 40 * (word.toNat / 2 ^ 40 % 256) +
      2 ^ 48 * (word.toNat / 2 ^ 48 % 256) + 2 ^ 56 * (word.toNat / 2 ^ 56 % 256) = word.toNat
  omega

theorem bytes64_join (b0 b1 b2 b3 b4 b5 b6 b7 : UInt8) :
    bytes64 (join64 b0 b1 b2 b3 b4 b5 b6 b7) = [b0, b1, b2, b3, b4, b5, b6, b7] := by
  have bound0 := b0.toNat_lt
  have bound1 := b1.toNat_lt
  have bound2 := b2.toNat_lt
  have bound3 := b3.toNat_lt
  have bound4 := b4.toNat_lt
  have bound5 := b5.toNat_lt
  have bound6 := b6.toNat_lt
  have bound7 := b7.toNat_lt
  have total := toNat_join64 b0 b1 b2 b3 b4 b5 b6 b7
  unfold bytes64
  simp only [List.cons.injEq, and_true, ← UInt8.toNat_inj]
  refine ⟨?_, ?_, ?_, ?_, ?_, ?_, ?_, ?_⟩
  · rw [UInt64.toNat_toUInt8, total]
    omega
  · rw [toNat_byte64 _ 8 (by decide), total, show (8 : UInt64).toNat = 8 from rfl]
    omega
  · rw [toNat_byte64 _ 16 (by decide), total, show (16 : UInt64).toNat = 16 from rfl]
    omega
  · rw [toNat_byte64 _ 24 (by decide), total, show (24 : UInt64).toNat = 24 from rfl]
    omega
  · rw [toNat_byte64 _ 32 (by decide), total, show (32 : UInt64).toNat = 32 from rfl]
    omega
  · rw [toNat_byte64 _ 40 (by decide), total, show (40 : UInt64).toNat = 40 from rfl]
    omega
  · rw [toNat_byte64 _ 48 (by decide), total, show (48 : UInt64).toNat = 48 from rfl]
    omega
  · rw [toNat_byte64 _ 56 (by decide), total, show (56 : UInt64).toNat = 56 from rfl]
    omega

end LittleEndian

namespace ByteLayout

open LittleEndian

/-- The byte of each address -/
abbrev Image := ℕ → UInt8

/-- What a field holds: a byte, a little-endian word, or a text of its own length -/
inductive Value where
  | byte (value : UInt8)
  | word16 (value : UInt16)
  | word32 (value : UInt32)
  | word64 (value : UInt64)
  | text (bytes : List UInt8)
deriving DecidableEq

def Value.bytes : Value → List UInt8
  | .byte value => [value]
  | .word16 value => bytes16 value
  | .word32 value => bytes32 value
  | .word64 value => bytes64 value
  | .text bytes => bytes

/-- A value at its offset -/
structure Field where
  offset : ℕ
  value : Value

/-- The first address behind the field -/
def Field.stop (field : Field) : ℕ := field.offset + field.value.bytes.length

namespace Image

/-- The image in which nothing has been written -/
def zeros : Image := fun _ => 0

/-- The image with one field written -/
def put (image : Image) (field : Field) : Image := fun address =>
  if field.offset ≤ address ∧ address < field.stop then
    field.value.bytes.getD (address - field.offset) 0
  else image address

/-- The image of the fields, written in this order -/
def ofFields (fields : List Field) : Image := fields.foldl put zeros

/-- The bytes from an offset on -/
def slice (image : Image) (offset count : ℕ) : List UInt8 :=
  (List.range count).map fun index => image (offset + index)

def getU16 (image : Image) (offset : ℕ) : UInt16 := join16 (image offset) (image (offset + 1))

def getU32 (image : Image) (offset : ℕ) : UInt32 :=
  join32 (image offset) (image (offset + 1)) (image (offset + 2)) (image (offset + 3))

def getU64 (image : Image) (offset : ℕ) : UInt64 :=
  join64 (image offset) (image (offset + 1)) (image (offset + 2)) (image (offset + 3))
    (image (offset + 4)) (image (offset + 5)) (image (offset + 6)) (image (offset + 7))

/-- The bytes from an offset on, with their number in the type -/
def getVector (image : Image) (offset size : ℕ) : Vector UInt8 size :=
  Vector.ofFn fun index => image (offset + index.val)

@[simp] theorem length_slice (image : Image) (offset count : ℕ) :
    (image.slice offset count).length = count := by
  simp [slice]

/-- Two ranges, one behind the other -/
theorem slice_add (image : Image) (offset first second : ℕ) :
    image.slice offset (first + second) =
      image.slice offset first ++ image.slice (offset + first) second := by
  unfold slice
  rw [List.range_add, List.map_append, List.map_map]
  congr 1
  apply List.map_congr_left
  intro index _
  rw [Function.comp_apply, Nat.add_assoc]

/-- The value of the same kind that stands at the offset -/
def readLike (image : Image) (offset : ℕ) : Value → Value
  | .byte _ => .byte (image offset)
  | .word16 _ => .word16 (image.getU16 offset)
  | .word32 _ => .word32 (image.getU32 offset)
  | .word64 _ => .word64 (image.getU64 offset)
  | .text bytes => .text (image.slice offset bytes.length)

/-! ### The bytes of a word in an image -/

theorem toList_getVector (image : Image) (offset size : ℕ) :
    (image.getVector offset size).toList = image.slice offset size := by
  apply List.ext_getElem
  · simp
  · intro index _ _
    simp [getVector, slice]

/-- Where the bytes of a vector stand, the vector is read. -/
theorem getVector_eq {image : Image} {offset size : ℕ} {bytes : Vector UInt8 size}
    (stands : image.slice offset bytes.toList.length = bytes.toList) :
    image.getVector offset size = bytes := by
  rw [Vector.length_toList] at stands
  rw [← Vector.toList_inj, toList_getVector, stands]

theorem bytes16_getU16 (image : Image) (offset : ℕ) :
    bytes16 (image.getU16 offset) = image.slice offset 2 := by
  simp [bytes16, getU16, slice, List.range_succ]

theorem bytes32_getU32 (image : Image) (offset : ℕ) :
    bytes32 (image.getU32 offset) = image.slice offset 4 := by
  simp [bytes32, getU32, slice, List.range_succ]

theorem bytes64_getU64 (image : Image) (offset : ℕ) :
    bytes64 (image.getU64 offset) = image.slice offset 8 := by
  simp [getU64, bytes64_join, slice, List.range_succ]

/-- What is read has the bytes that stand there. -/
theorem bytes_readLike (image : Image) (offset : ℕ) (value : Value) :
    (image.readLike offset value).bytes = image.slice offset value.bytes.length := by
  cases value with
  | byte value => simp [readLike, Value.bytes, slice, List.range_succ]
  | word16 value => exact image.bytes16_getU16 offset
  | word32 value => exact image.bytes32_getU32 offset
  | word64 value => exact image.bytes64_getU64 offset
  | text bytes => rfl

theorem bytes16_injective : Function.Injective bytes16 := by
  intro first second same
  rw [← join16_split first, ← join16_split second]
  simp only [bytes16, List.cons.injEq, and_true] at same
  rw [same.1, same.2]

theorem bytes32_injective : Function.Injective bytes32 := by
  intro first second same
  rw [← join32_split first, ← join32_split second]
  simp only [bytes32, List.cons.injEq, and_true] at same
  obtain ⟨b0, b1, b2, b3⟩ := same
  rw [b0, b1, b2, b3]

theorem bytes64_injective : Function.Injective bytes64 := by
  intro first second same
  rw [← join64_split first, ← join64_split second]
  simp only [bytes64, List.cons.injEq, and_true] at same
  obtain ⟨b0, b1, b2, b3, b4, b5, b6, b7⟩ := same
  rw [b0, b1, b2, b3, b4, b5, b6, b7]

/-- Where the bytes of a value stand, the value is read. -/
theorem readLike_of_slice {image : Image} {offset : ℕ} {value : Value}
    (stands : image.slice offset value.bytes.length = value.bytes) :
    image.readLike offset value = value := by
  have same := (image.bytes_readLike offset value).trans stands
  cases value with
  | byte value => exact congrArg Value.byte (List.cons.inj same).1
  | word16 value => exact congrArg Value.word16 (bytes16_injective same)
  | word32 value => exact congrArg Value.word32 (bytes32_injective same)
  | word64 value => exact congrArg Value.word64 (bytes64_injective same)
  | text bytes => exact congrArg Value.text same

/-! ### Fields that lie apart -/

/-- One of the two ends before the other begins. -/
def Apart (first second : Field) : Prop :=
  first.stop ≤ second.offset ∨ second.stop ≤ first.offset

instance (first second : Field) : Decidable (Apart first second) := by
  unfold Apart
  infer_instance

theorem Apart.symm {first second : Field} (apart : Apart first second) : Apart second first :=
  Or.symm apart

/-- Whether fields lie apart shows in where they begin and end. -/
theorem pairwise_apart_of_extents {fields : List Field} (extents : List (ℕ × ℕ))
    (same : fields.map (fun field => (field.offset, field.stop)) = extents)
    (apart : extents.Pairwise fun first second => first.2 ≤ second.1 ∨ second.2 ≤ first.1) :
    fields.Pairwise Apart := by
  rw [← same, List.pairwise_map] at apart
  exact apart

/-- Nothing is written at the address. -/
def Untouched (fields : List Field) (address : ℕ) : Prop :=
  ∀ field ∈ fields, address < field.offset ∨ field.stop ≤ address

theorem foldl_put_of_untouched {fields : List Field} {address : ℕ} (image : Image)
    (untouched : Untouched fields address) : fields.foldl put image address = image address := by
  induction fields generalizing image with
  | nil => rfl
  | cons field rest inductionHypothesis =>
      have outside := untouched field List.mem_cons_self
      rw [List.foldl_cons, inductionHypothesis _ fun later within =>
        untouched later (List.mem_cons_of_mem _ within), put, if_neg (by omega)]

theorem ofFields_of_untouched {fields : List Field} {address : ℕ}
    (untouched : Untouched fields address) : ofFields fields address = 0 :=
  foldl_put_of_untouched zeros untouched

/-- Where a field was written, and nothing after it, its bytes stand. -/
theorem ofFields_of_mem {fields : List Field} (apart : fields.Pairwise Apart) {field : Field}
    (written : field ∈ fields) {index : ℕ} (within : index < field.value.bytes.length) :
    ofFields fields (field.offset + index) = field.value.bytes[index] := by
  obtain ⟨before, after, rfl⟩ := List.append_of_mem written
  have later : Untouched after (field.offset + index) := by
    intro other behind
    have disjoint := (List.pairwise_cons.mp (List.pairwise_append.mp apart).2.1).1 other behind
    unfold Apart Field.stop at disjoint
    unfold Field.stop
    omega
  unfold ofFields
  rw [List.foldl_append, List.foldl_cons, foldl_put_of_untouched _ later, put,
    if_pos (by unfold Field.stop; omega), Nat.add_sub_cancel_left, List.getD_eq_getElem _ _ within]

theorem slice_ofFields {fields : List Field} (apart : fields.Pairwise Apart) {field : Field}
    (written : field ∈ fields) :
    (ofFields fields).slice field.offset field.value.bytes.length = field.value.bytes := by
  apply List.ext_getElem
  · simp
  · intro index _ within
    simp only [slice, List.getElem_map, List.getElem_range]
    exact ofFields_of_mem apart written within

/-- An image with zeros outside the fields is written again from what stands in them. -/
theorem ofFields_eq {image : Image} {fields : List Field} (apart : fields.Pairwise Apart)
    (stands : ∀ field ∈ fields, image.slice field.offset field.value.bytes.length =
      field.value.bytes)
    {address : ℕ} (clear : Untouched fields address → image address = 0) :
    ofFields fields address = image address := by
  by_cases untouched : Untouched fields address
  · rw [ofFields_of_untouched untouched, clear untouched]
  · unfold Untouched at untouched
    push Not at untouched
    obtain ⟨field, written, begun, before⟩ := untouched
    obtain ⟨index, rfl⟩ := Nat.exists_eq_add_of_le begun
    have within : index < field.value.bytes.length := by
      unfold Field.stop at before
      omega
    rw [ofFields_of_mem apart written within]
    have there := congrArg (fun bytes => bytes[index]?) (stands field written)
    simp only [slice, List.getElem?_map, List.getElem?_range within, Option.map_some,
      List.getElem?_eq_getElem within, Option.some.injEq] at there
    exact there.symm

/-! ### Records as bytes -/

/-- The bytes of a list by their addresses -/
def ofBytes (bytes : List UInt8) : Image := fun address => bytes.getD address 0

/-- A range of a list of bytes -/
theorem slice_ofBytes {bytes : List UInt8} {offset count : ℕ}
    (within : offset + count ≤ bytes.length) :
    (ofBytes bytes).slice offset count = (bytes.drop offset).take count := by
  apply List.ext_getElem
  · simp
    omega
  · intro index inside _
    rw [length_slice] at inside
    have there : offset + index < bytes.length := by omega
    simp [slice, ofBytes, there]

/-- The first bytes of an image -/
def toVector (image : Image) (size : ℕ) : Vector UInt8 size :=
  Vector.ofFn fun index => image index.val

theorem ofBytes_toVector (image : Image) {size address : ℕ} (within : address < size) :
    ofBytes (image.toVector size).toList address = image address := by
  simp [ofBytes, toVector, within]

theorem slice_ofBytes_toVector (image : Image) {size offset count : ℕ}
    (within : offset + count ≤ size) :
    (ofBytes (image.toVector size).toList).slice offset count = image.slice offset count := by
  unfold slice
  apply List.map_congr_left
  intro index inside
  rw [List.mem_range] at inside
  exact image.ofBytes_toVector (by omega)

theorem toVector_eq_of_bytes {image : Image} {bytes : List UInt8} {size : ℕ}
    (long : bytes.length = size) (same : ∀ address < size, image address = ofBytes bytes address) :
    (image.toVector size).toList = bytes := by
  apply List.ext_getElem
  · simp [long]
  · intro address inside within
    rw [Vector.length_toList] at inside
    simp [toVector, same address inside, ofBytes, within]

/-- What is written behind a range leaves it alone. -/
theorem slice_ofFields_append {fields behind : List Field} {offset count : ℕ}
    (apart : ∀ field ∈ behind, offset + count ≤ field.offset) :
    (ofFields (fields ++ behind)).slice offset count = (ofFields fields).slice offset count := by
  unfold slice
  apply List.map_congr_left
  intro index inside
  rw [List.mem_range] at inside
  unfold ofFields
  rw [List.foldl_append]
  apply foldl_put_of_untouched
  intro field written
  have bound := apart field written
  omega

/-- The fields with a checksum of what stands before it -/
def sealFields (checksum : List UInt8 → UInt32) (fields : List Field) (stop : ℕ) : List Field :=
  fields ++ [⟨stop, .word32 (checksum ((ofFields fields).slice 0 stop))⟩]

section Seal

variable {checksum : List UInt8 → UInt32} {fields : List Field} {stop : ℕ}

/-- The bytes of a sealed record -/
def sealBytes (checksum : List UInt8 → UInt32) (fields : List Field) (stop : ℕ) :
    Vector UInt8 (stop + 4) :=
  (ofFields (sealFields checksum fields stop)).toVector (stop + 4)

theorem stop_le_of_mem_sealFields (within : ∀ field ∈ fields, field.stop ≤ stop) {field : Field}
    (written : field ∈ sealFields checksum fields stop) : field.stop ≤ stop + 4 := by
  rcases List.mem_append.mp written with before | checked
  · exact (within field before).trans (by omega)
  · rw [List.mem_singleton.mp checked]
    exact le_refl (stop + 4)

theorem pairwise_apart_sealFields (apart : fields.Pairwise Apart)
    (within : ∀ field ∈ fields, field.stop ≤ stop) :
    (sealFields checksum fields stop).Pairwise Apart := by
  refine List.pairwise_append.mpr ⟨apart, List.pairwise_singleton _ _, ?_⟩
  intro field written checked last
  rw [List.mem_singleton.mp last]
  exact Or.inl (within field written)

/-- Each field of a sealed record is read back as it was written. -/
theorem readLike_sealBytes (apart : fields.Pairwise Apart)
    (within : ∀ field ∈ fields, field.stop ≤ stop) {field : Field} (written : field ∈ fields) :
    (ofBytes (sealBytes checksum fields stop).toList).readLike field.offset field.value =
      field.value := by
  have sealed : field ∈ sealFields checksum fields stop := List.mem_append_left _ written
  apply readLike_of_slice
  unfold sealBytes
  rw [slice_ofBytes_toVector _ (stop_le_of_mem_sealFields within sealed)]
  exact slice_ofFields (pairwise_apart_sealFields apart within) sealed

/-- An address of a sealed record where no field stands -/
theorem ofBytes_sealBytes_of_untouched {address : ℕ} (before : address < stop)
    (untouched : Untouched fields address) :
    ofBytes (sealBytes checksum fields stop).toList address = 0 := by
  unfold sealBytes
  rw [ofBytes_toVector _ (by omega)]
  apply ofFields_of_untouched
  intro field written
  rcases List.mem_append.mp written with unsealed | checked
  · exact untouched field unsealed
  · rw [List.mem_singleton.mp checked]
    exact Or.inl before

theorem getU32_sealBytes (apart : fields.Pairwise Apart)
    (within : ∀ field ∈ fields, field.stop ≤ stop) :
    (ofBytes (sealBytes checksum fields stop).toList).getU32 stop =
      checksum ((ofBytes (sealBytes checksum fields stop).toList).slice 0 stop) := by
  have written : (⟨stop, .word32 (checksum ((ofFields fields).slice 0 stop))⟩ : Field) ∈
      sealFields checksum fields stop :=
    List.mem_append_right _ (List.mem_singleton_self _)
  have covered : (ofBytes (sealBytes checksum fields stop).toList).slice 0 stop =
      (ofFields fields).slice 0 stop := by
    unfold sealBytes
    rw [slice_ofBytes_toVector _ (by omega)]
    apply slice_ofFields_append
    intro field checked
    rw [List.mem_singleton.mp checked]
    exact (Nat.zero_add stop).le
  have stands : (ofBytes (sealBytes checksum fields stop).toList).readLike stop
      (.word32 (checksum ((ofFields fields).slice 0 stop))) =
      .word32 (checksum ((ofFields fields).slice 0 stop)) := by
    apply readLike_of_slice
    unfold sealBytes
    rw [slice_ofBytes_toVector _ (stop_le_of_mem_sealFields within written)]
    exact slice_ofFields (pairwise_apart_sealFields apart within) written
  rw [covered]
  exact Value.word32.inj stands

/-- A sealed record is written again from what stands in its fields. -/
theorem sealBytes_eq {bytes : List UInt8} (apart : fields.Pairwise Apart)
    (within : ∀ field ∈ fields, field.stop ≤ stop) (long : bytes.length = stop + 4)
    (stands : ∀ field ∈ fields, (ofBytes bytes).readLike field.offset field.value = field.value)
    (clear : ∀ address < stop, Untouched fields address → ofBytes bytes address = 0)
    (checked : (ofBytes bytes).getU32 stop = checksum ((ofBytes bytes).slice 0 stop)) :
    (sealBytes checksum fields stop).toList = bytes := by
  have bytesStand : ∀ field ∈ fields,
      (ofBytes bytes).slice field.offset field.value.bytes.length = field.value.bytes := by
    intro field written
    rw [← bytes_readLike, stands field written]
  have before : ∀ address < stop, ofFields fields address = ofBytes bytes address := by
    intro address inside
    exact ofFields_eq apart bytesStand (clear address inside)
  have covered : (ofFields fields).slice 0 stop = (ofBytes bytes).slice 0 stop := by
    unfold slice
    apply List.map_congr_left
    intro index inside
    rw [List.mem_range] at inside
    exact before _ (by omega)
  apply toVector_eq_of_bytes long
  intro address inside
  apply ofFields_eq (pairwise_apart_sealFields apart within)
  · intro field written
    rcases List.mem_append.mp written with unsealed | last
    · exact bytesStand field unsealed
    · rw [List.mem_singleton.mp last, covered, ← checked]
      exact (bytes32_getU32 _ _).symm
  · intro untouched
    have outside := untouched _ (List.mem_append_right _ (List.mem_singleton_self _))
    have last : address < stop ∨ stop + 4 ≤ address := outside
    exact clear address (by omega) fun field written =>
      untouched field (List.mem_append_left _ written)

end Seal

end Image

end ByteLayout
