import Assist370.Layout
import Assist370.Microcode.Logical
import Assist370.VirtualMachine.Context

/-!
# Looking up a device

Channels, control units and devices have blocks, which are found by a device number through tables
of index halfwords. An index halfword with its high bit on marks a block that does not exist. A
look-up that does not get to a device declines.
-/

namespace Assist370.DeviceLookup

open Microcode

/-- The bit of an index halfword that marks a missing block. -/
def missingFlag : UInt16 := 0x8000

/-- The blocks on the path to a device. -/
structure Path where
  channel : UInt32
  unit : UInt32
  device : UInt32
  deriving DecidableEq, Repr

/-- The channel index table of the real tables. -/
def channelIndex : Field UInt32 := ⟨0⟩

/-- The real channel blocks. -/
def channelBase : Field UInt32 := ⟨4⟩

/-- The real control unit blocks. -/
def unitBase : Field UInt32 := ⟨8⟩

/-- The real device blocks. -/
def deviceBase : Field UInt32 := ⟨12⟩

/-- The virtual channel blocks. -/
def virtualChannelBase : Field UInt32 := ⟨0⟩

/-- The virtual control unit blocks. -/
def virtualUnitBase : Field UInt32 := ⟨4⟩

/-- The virtual device blocks. -/
def virtualDeviceBase : Field UInt32 := ⟨8⟩

/-- The index halfwords of the control units in a virtual channel block, and of the devices in a
virtual control unit block. -/
def virtualIndex : Field UInt16 := ⟨8⟩

/-- The index halfwords of the control units in a real channel block. -/
def unitIndex : Field UInt16 := ⟨0x20⟩

/-- The type of a real control unit. -/
def unitType : Field UInt8 := ⟨0x05⟩

/-- The block of the unit that a subordinate unit shares devices with. -/
def primaryUnit : Field UInt32 := ⟨0x10⟩

/-- The index halfwords of the devices in a real control unit block. -/
def deviceIndex : Field UInt16 := ⟨0x28⟩

/-- Unit type: the unit is subordinate to a primary one. -/
def subordinate : UInt8 := 0x40

/-- The channel in a device number. -/
def channelOf (device : UInt32) : Nat :=
  ((device &&& 0xf00) >>> 8).toNat

/-- The control unit in a device number. -/
def unitOf (device : UInt32) : Nat :=
  ((device &&& 0xf0) >>> 4).toNat

/-- The device in a device number. -/
def deviceOf (device : UInt32) : Nat :=
  (device &&& 0xf).toNat

/-- The index in a halfword, or none for a missing block. -/
def index? (halfword : UInt16) : Option UInt32 :=
  if halfword &&& missingFlag == 0 then some halfword.toUInt32 else none

/-- Declines for a missing block. -/
def found (side : DeviceSide) (kind : DeviceBlockKind) : Option UInt32 → Microcode UInt32
  | some index => pure index
  | none => decline (.missingBlock side kind)

/-- Finds the blocks of a virtual device by its channel index table and the bases of its
blocks. -/
def virtualPath (device indexTable bases : UInt32) : Microcode Path := do
  let index ← fetch indexTable (Field.first.item (channelOf device))
  let index ← found .virtual .channel (index? index)
  let channel := (← fetch bases virtualChannelBase) + index
  let index ← fetch channel (virtualIndex.item (unitOf device))
  let index ← found .virtual .controlUnit (index? index)
  let unit := (← fetch bases virtualUnitBase) + index
  let index ← fetch unit (virtualIndex.item (deviceOf device))
  let index ← found .virtual .device (index? index)
  let block := (← fetch bases virtualDeviceBase) + index
  return ⟨channel, unit, block⟩

/-- The index of a real control unit. A unit has eight or sixteen devices: the index of the group
of eight that the device belongs to counts if it exists, else that of its group of sixteen. -/
def realUnitIndex (device channel : UInt32) : Microcode UInt32 := do
  let ofEight ← fetch channel (unitIndex.item ((device &&& 0xf8) >>> 3).toNat)
  match index? ofEight with
  | some index => pure index
  | none =>
      let ofSixteen ← fetch channel (unitIndex.item (2 * unitOf device))
      found .real .controlUnit (index? ofSixteen)

/-- Finds the blocks of a real device by the tables of the real configuration. The path names the
primary unit in place of a subordinate one. -/
def realPath (device tables : UInt32) : Microcode Path := do
  let indexTable ← fetch tables channelIndex
  let index ← fetch indexTable (Field.first.item (channelOf device))
  let index ← found .real .channel (index? index)
  let channel := (← fetch tables channelBase) + index
  let index ← realUnitIndex device channel
  let unit := (← fetch tables unitBase) + index
  let index ← fetch unit (deviceIndex.item (deviceOf device))
  let isSubordinate ← testBits unit unitType subordinate
  let named ← if isSubordinate then fetch unit primaryUnit else pure unit
  let index ← found .real .device (index? index)
  let block := (← fetch tables deviceBase) + index <<< 3
  return ⟨channel, named, block⟩

/-- Returns with the path in general registers 6 to 8. -/
def returnPath (path : Path) : Microcode Unit := do
  setGeneral 6 path.channel
  setGeneral 7 path.unit
  setGeneral 8 path.device
  setConditionCode 0
  returnToCaller

/-- Looks up the virtual device whose number is in general register 1. -/
def scanVirtual (indexTable bases : UInt32) : Microcode Completion := do
  let device ← general 1
  returnPath (← virtualPath device indexTable bases)
  return .completed

/-- Looks up a real device by its number. -/
def scanReal (device tables : UInt32) : Microcode Completion := do
  returnPath (← realPath device tables)
  setGeneral 15 0
  return .completed

end Assist370.DeviceLookup
