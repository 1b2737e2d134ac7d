import Assist370.BitField

/-!
# Dynamic address translation

The formats of the translation tables for 64K segments of 4K pages, and the architected ways in
which a translation fails.
-/

namespace Assist370

/-- Why a virtual address has no real address. -/
inductive TranslationFault where
  /-- The segment is invalid or lies beyond the segment table. -/
  | segment
  /-- The page is invalid. -/
  | page
  /-- The page lies beyond the page table. -/
  | length
  deriving DecidableEq, Repr

namespace TranslationFault

/-- The condition code that the instruction LOAD REAL ADDRESS sets. -/
def conditionCode : TranslationFault → UInt8
  | segment => 1
  | page => 2
  | length => 3

end TranslationFault

namespace SegmentTableEntry

/-- The segment cannot be used for translation. -/
def invalidField : BitField := .bit 0

/-- The page table origin, counted in doublewords. -/
def pageTableField : BitField := ⟨3, 21⟩

/-- The length of the page table, in units of a sixteenth of a full one, less one. -/
def pageTableLengthField : BitField := ⟨28, 4⟩

end SegmentTableEntry

namespace PageTableEntry

/-- The page cannot be used for translation. -/
def invalidField : BitField := .bit 3

/-- The number of the page frame. -/
def frameField : BitField := ⟨4, 12⟩

end PageTableEntry

namespace SegmentTableDesignation

/-- The segment table origin, counted in blocks of 64 bytes. -/
def originField : BitField := ⟨6, 18⟩

/-- The length of the segment table, in units of 16 entries, less one. -/
def lengthField : BitField := ⟨24, 8⟩

/-- The real address of the segment table that control register 1 designates. -/
def origin (word : UInt32) : UInt32 :=
  UInt32.ofBitVec ((originField.get word.toBitVec).setWidth 32) <<< 6

end SegmentTableDesignation

end Assist370
