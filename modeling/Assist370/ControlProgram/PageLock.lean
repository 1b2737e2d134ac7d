import Assist370.Layout
import Assist370.Microcode.Logical
import Assist370.VirtualMachine.Context

/-!
# Locked pages

A page is kept in its frame of real storage while somebody has it locked. The frame's entry in the
core table counts the locks, and a flag says that there is one.
-/

namespace Assist370.PageLock

open Microcode

/-- The core table, among the parameters of an unlock. -/
def coreTable : Field UInt32 := ⟨4⟩

/-- The size of real storage, among the parameters of an unlock. -/
def storageSize : Field UInt32 := ⟨0⟩

/-- The address of the entry in a core table that a parameter word points to. -/
def entryThrough (pointer address : UInt32) : Microcode UInt32 := do
  let table ← fetchAddress pointer Field.first
  return CoreTable.entry table address

/-- Locks the frame that holds an address once more. -/
def lockFrame (pointer address : UInt32) : Microcode Unit := do
  let entry ← entryThrough pointer address
  let flags ← fetch entry CoreTable.flags
  if flags &&& CoreTable.locked != 0 then
    let count ← fetch entry CoreTable.lockCount
    store entry CoreTable.lockCount (count + 1)
  else
    store entry CoreTable.flags (flags ||| CoreTable.locked)
    store entry CoreTable.lockCount 1

/-- The addresses of the key blocks of a frame. -/
def keyBlocks (policy : Policy) (frame : UInt32) : List UInt32 :=
  (List.range (Address.pageSize.toNat / policy.keyBlock)).map fun index =>
    frame + UInt32.ofNat (policy.keyBlock * index)

/-- Declines if one of some blocks of storage has been stored into. -/
def requireUnchanged : List UInt32 → Microcode Unit
  | [] => pure ()
  | block :: blocks => do
      let key ← perform (.storageKey block)
      require (!key.change) .sharedPageChanged
      requireUnchanged blocks

/-- Translates the virtual address in general register 1. A shared page that has been changed is
left to the control program. -/
def translateUnchanged (policy : Policy) (pointer : UInt32) : Microcode UInt32 := do
  match ← loadRealAddress (← general 1) with
  | .error _ => decline .translationException
  | .ok real =>
      let entry ← entryThrough pointer real
      if ← testBits entry CoreTable.flags CoreTable.shared then
        requireUnchanged (keyBlocks policy (Address.frame real))
      return real

/-- Returns with a real address in general register 2 by branching to a given place. -/
def returnTranslated (real target : UInt32) : Microcode Completion := do
  setGeneral 2 real
  setConditionCode 0
  branch target
  return .completed

/-- Locks a page. -/
def lock (pointer page : UInt32) : Microcode Completion := do
  lockFrame pointer page
  setConditionCode 0
  returnToCaller
  return .completed

/-- Takes one lock off a page. With the last lock the page's frame is no longer kept. -/
def unlock (parameters page : UInt32) : Microcode Completion := do
  let size ← fetch parameters storageSize
  let table ← fetchAddress parameters coreTable
  require (page + (Address.pageSize - 1) ≤ size) .pageBeyondStorage
  let entry := CoreTable.entry table page
  let flags ← fetch entry CoreTable.flags
  require (flags &&& CoreTable.locked != 0) .pageNotLocked
  let count := (← fetch entry CoreTable.lockCount) - 1
  if count == 0 then
    store entry CoreTable.flags
      (flags &&& ~~~(CoreTable.locked ||| CoreTable.freeStorage))
  store entry CoreTable.lockCount count
  returnToCaller
  return .completed

/-- Translates the virtual address in general register 1 and branches to a given place. -/
def translate (policy : Policy) (pointer target : UInt32) : Microcode Completion := do
  let real ← translateUnchanged policy pointer
  returnTranslated real target

/-- Translates the virtual address in general register 1, locks its page and branches to a given
place. -/
def translateAndLock (policy : Policy) (pointer target : UInt32) : Microcode Completion := do
  let real ← translateUnchanged policy pointer
  lockFrame pointer real
  returnTranslated real target

end Assist370.PageLock
