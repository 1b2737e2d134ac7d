/-!
# Registers

A processor has sixteen general and sixteen control registers of a word each. They are numbered
from 0, and register 0 comes after register 15. Reading a register after a load gives the loaded
value for the loaded register, and the old one for any other (`read_load`).
-/

namespace Assist370

/-- The number of a general or control register. -/
abbrev RegisterNumber :=
  Fin 16

/-- There are registers, so that numerals can stand for their numbers. The zero is the one that
numerals are read with. -/
instance RegisterNumber.neZero : @NeZero Nat Zero.ofOfNat0 16 :=
  ⟨by decide⟩

namespace RegisterNumber

/-- The register number in the low four bits of a number. -/
def ofNat (number : Nat) : RegisterNumber :=
  Fin.ofNat 16 number

/-- How many registers a range from `first` to `last` covers. -/
def rangeLength (first last : RegisterNumber) : Nat :=
  (last.val + 16 - first.val) % 16 + 1

/-- The registers from `first` to `last`, with register 0 after register 15. -/
def range (first last : RegisterNumber) : List RegisterNumber :=
  (List.range (rangeLength first last)).map fun index => ofNat (first.val + index)

@[simp]
theorem length_range (first last : RegisterNumber) :
    (range first last).length = rangeLength first last := by
  simp [range]

end RegisterNumber

/-- Sixteen registers of a word each. -/
abbrev RegisterFile :=
  Vector UInt32 16

namespace RegisterFile

/-- Registers that are all zero. -/
def zero : RegisterFile :=
  Vector.replicate 16 0

/-- The value of a register. -/
def read (registers : RegisterFile) (register : RegisterNumber) : UInt32 :=
  registers[register]

/-- Loads a register. -/
def load (registers : RegisterFile) (register : RegisterNumber) (value : UInt32) :
    RegisterFile :=
  registers.set register value

@[simp]
theorem read_zero (register : RegisterNumber) : zero.read register = 0 := by
  simp [read, zero]

@[simp]
theorem read_load (registers : RegisterFile) (loaded register : RegisterNumber)
    (value : UInt32) :
    (registers.load loaded value).read register =
      if loaded = register then value else registers.read register := by
  simp [read, load, Vector.getElem_set, Fin.ext_iff]

end RegisterFile

end Assist370
