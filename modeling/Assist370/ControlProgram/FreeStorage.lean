import Assist370.Layout
import Assist370.Microcode.Logical
import Assist370.VirtualMachine.Context

/-!
# The level of the facility, and free storage

One assist stores the level of the facility for the control program, and two give out and take back
its free storage. Free blocks of storage are kept in subpools by size. A size table starts with the
largest size, in doublewords, that subpools serve; the heads of the subpools follow. A table of
index bytes gives for each size the offset of its subpool's head. The blocks of a subpool are
chained through their first words, so that a subpool is a stack.
-/

namespace Assist370

open Microcode

/-- Stores the level that the facility reports. -/
def storeLevel (level address : UInt32) : Microcode Completion := do
  store address Field.first level
  return .completed

namespace FreeStorage

/-- The largest size that the subpools serve. -/
def largestSize : Field UInt32 := ⟨0⟩

/-- The heads of the subpools. -/
def heads : Field UInt32 := ⟨4⟩

/-- The core table, in the list that a release works by. -/
def coreTable : Field UInt32 := ⟨0⟩

/-- The core table descriptor of frames of free storage, in the list that a release works by. -/
def freeDescriptor : Field UInt32 := ⟨4⟩

/-- The index byte for each size, in the list that a release works by. -/
def sizeIndex : Field UInt8 := ⟨11⟩

/-- The head of the subpool with an index byte. -/
def head (index : UInt8) : Field UInt32 :=
  ⟨heads.offset + index.toUInt32⟩

/-- Returns a block of a number of doublewords to its subpool. Declines before it stores anything
if the block cannot be returned here. -/
def release (block : UInt32) (count : UInt16) (sizeTable releaseList : UInt32) :
    Microcode Unit := do
  require (count != 0) .zeroLength
  let largest ← fetch sizeTable largestSize
  require (count.toUInt32 ≤ largest) .largerThanSubpools
  let entry := CoreTable.entry (← fetchAddress releaseList coreTable) block
  let descriptor ← fetch entry CoreTable.descriptor
  let expected ← fetch releaseList freeDescriptor
  require (descriptor == expected) .notFreeStorage
  let flags ← fetch entry CoreTable.flags
  require (flags == CoreTable.freeStorage) .pageNotFlagged
  let index ← fetch releaseList (sizeIndex.item count.toNat)
  let top ← fetch sizeTable (head index)
  require (top != block) .alreadyHead
  store sizeTable (head index) block
  store block Field.first top

/-- Takes a block of as many doublewords as general register 0 says from its subpool and returns
with its address in general register 1. -/
def obtain (sizeTable indexTable : UInt32) : Microcode Completion := do
  let count ← general 0
  require (count != 0) .zeroLength
  let largest ← fetch sizeTable largestSize
  require (count ≤ largest) .largerThanSubpools
  let index : UInt8 ← fetch (indexTable + count) Field.first
  let block ← fetch sizeTable (head index)
  require (block != 0) .subpoolEmpty
  let next : UInt32 ← fetch block Field.first
  store sizeTable (head index) next
  setGeneral 1 block
  setConditionCode 0
  returnToCaller
  return .completed

/-- Returns the block at general register 1, of as many doublewords as the low half of general
register 0 says, to its subpool. -/
def giveBack (sizeTable releaseList : UInt32) : Microcode Completion := do
  let count ← general 0
  let block ← general 1
  release (Address.wrap block) count.toUInt16 sizeTable releaseList
  returnToCaller
  return .completed

end FreeStorage

end Assist370
