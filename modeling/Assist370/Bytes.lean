/-!
# Bytes of storage

Storage holds bytes, and halfwords, words and doublewords lie in it with the most significant byte
first. Each width has a decoder and an encoder here, and decoding an encoded value gives it back.
-/

namespace Assist370

/-- A string of bytes of known length. -/
abbrev Bytes (length : Nat) :=
  Vector UInt8 length

namespace Bytes

/-- The first bytes of a list; bytes that the list lacks are zero. -/
def ofList (length : Nat) (bytes : List UInt8) : Bytes length :=
  Vector.ofFn fun index => bytes.getD index 0

/-- The byte at an index. Behind the last byte there are zeros. -/
def byte {length : Nat} (bytes : Bytes length) (index : Nat) : UInt8 :=
  bytes[index]?.getD 0

theorem byte_eq_getElem {length : Nat} (bytes : Bytes length) (index : Nat)
    (index_lt : index < length) : bytes.byte index = bytes[index] := by
  simp [byte, index_lt]

@[simp]
theorem ofList_toList {length : Nat} (bytes : Bytes length) :
    ofList length bytes.toList = bytes := by
  apply Vector.ext
  intro index index_lt
  simp [ofList]

/-- The halfword in two bytes. -/
def halfword (bytes : Bytes 2) : UInt16 :=
  bytes[0].toUInt16 <<< 8 ||| bytes[1].toUInt16

/-- The word in four bytes. -/
def word (bytes : Bytes 4) : UInt32 :=
  bytes[0].toUInt32 <<< 24 ||| bytes[1].toUInt32 <<< 16 ||| bytes[2].toUInt32 <<< 8 |||
    bytes[3].toUInt32

/-- The doubleword in eight bytes. -/
def doubleword (bytes : Bytes 8) : UInt64 :=
  bytes[0].toUInt64 <<< 56 ||| bytes[1].toUInt64 <<< 48 ||| bytes[2].toUInt64 <<< 40 |||
    bytes[3].toUInt64 <<< 32 ||| bytes[4].toUInt64 <<< 24 ||| bytes[5].toUInt64 <<< 16 |||
    bytes[6].toUInt64 <<< 8 ||| bytes[7].toUInt64

/-- The halfword at an offset. -/
def halfwordAt {length : Nat} (bytes : Bytes length) (offset : Nat) : UInt16 :=
  halfword #v[bytes.byte offset, bytes.byte (offset + 1)]

/-- The word at an offset. -/
def wordAt {length : Nat} (bytes : Bytes length) (offset : Nat) : UInt32 :=
  word #v[bytes.byte offset, bytes.byte (offset + 1), bytes.byte (offset + 2),
    bytes.byte (offset + 3)]

/-- The two bytes of a halfword. -/
def ofHalfword (value : UInt16) : Bytes 2 :=
  #v[(value >>> 8).toUInt8, value.toUInt8]

/-- The four bytes of a word. -/
def ofWord (value : UInt32) : Bytes 4 :=
  #v[(value >>> 24).toUInt8, (value >>> 16).toUInt8, (value >>> 8).toUInt8, value.toUInt8]

/-- The eight bytes of a doubleword. -/
def ofDoubleword (value : UInt64) : Bytes 8 :=
  #v[(value >>> 56).toUInt8, (value >>> 48).toUInt8, (value >>> 40).toUInt8,
    (value >>> 32).toUInt8, (value >>> 24).toUInt8, (value >>> 16).toUInt8,
    (value >>> 8).toUInt8, value.toUInt8]

@[simp]
theorem halfword_ofHalfword (value : UInt16) : halfword (ofHalfword value) = value := by
  apply UInt16.toBitVec_inj.mp
  apply BitVec.eq_of_getLsbD_eq
  intro index index_lt
  simp [halfword, ofHalfword, -UInt16.toUInt16_toUInt8]
  grind

@[simp]
theorem word_ofWord (value : UInt32) : word (ofWord value) = value := by
  apply UInt32.toBitVec_inj.mp
  apply BitVec.eq_of_getLsbD_eq
  intro index index_lt
  simp [word, ofWord, -UInt32.toUInt32_toUInt8]
  grind

@[simp]
theorem doubleword_ofDoubleword (value : UInt64) :
    doubleword (ofDoubleword value) = value := by
  apply UInt64.toBitVec_inj.mp
  apply BitVec.eq_of_getLsbD_eq
  intro index index_lt
  simp [doubleword, ofDoubleword, -UInt64.toUInt64_toUInt8]
  grind

end Bytes

end Assist370
