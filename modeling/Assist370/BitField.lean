/-!
# Bit fields

The format of a register or table entry names groups of adjacent bits of a word. A `BitField` is
one such group. Reading a field after replacing it gives the new bits (`get_set`), and the other
bits of the word stay as they were (`getLsbD_set_of_not_mem`).
-/

namespace Assist370

/-- A group of `width` adjacent bits of a word, the least significant of them at bit `offset`. -/
structure BitField where
  offset : Nat
  width : Nat
  deriving DecidableEq, Repr

namespace BitField

variable {size : Nat}

/-- The single bit at an offset. -/
def bit (offset : Nat) : BitField :=
  ⟨offset, 1⟩

/-- The bits of the field, as a number of the field's width. -/
def get (field : BitField) (word : BitVec size) : BitVec field.width :=
  word.extractLsb' field.offset field.width

/-- Whether any bit of the field is on. -/
def isOn (field : BitField) (word : BitVec size) : Bool :=
  field.get word != 0

/-- The word that has exactly the bits of the field on. -/
def mask (field : BitField) (size : Nat) : BitVec size :=
  (BitVec.allOnes field.width).setWidth size <<< field.offset

/-- Replaces the bits of the field and keeps all others. -/
def set (field : BitField) (word : BitVec size) (value : BitVec field.width) : BitVec size :=
  (word &&& ~~~field.mask size) ||| (value.setWidth size <<< field.offset)

theorem get_set (field : BitField) (word : BitVec size) (value : BitVec field.width)
    (fits : field.offset + field.width ≤ size) :
    field.get (field.set word value) = value := by
  apply BitVec.eq_of_getLsbD_eq
  intro index index_lt
  have inWord : field.offset + index < size := by omega
  have notBelow : ¬field.offset + index < field.offset := by omega
  simp [get, set, mask, index_lt, inWord, notBelow]

theorem getLsbD_set_of_not_mem (field : BitField) (word : BitVec size)
    (value : BitVec field.width) {index : Nat}
    (outside : index < field.offset ∨ field.offset + field.width ≤ index) :
    (field.set word value).getLsbD index = word.getLsbD index := by
  by_cases index_lt : index < size
  · rcases outside with below | above
    · simp [set, mask, index_lt, below]
    · have notBelow : ¬index < field.offset := by omega
      have beyond : ¬index - field.offset < field.width := by omega
      have zero : value.getLsbD (index - field.offset) = false :=
        BitVec.getLsbD_of_ge value _ (by omega)
      simp [set, mask, index_lt, notBelow, beyond, zero]
  · simp [BitVec.getLsbD_of_ge, Nat.le_of_not_lt index_lt]

end BitField

end Assist370
