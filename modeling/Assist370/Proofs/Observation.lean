import Assist370.Dispatcher.Entry
import Assist370.Proofs.Memory

/-!
# Observation of storage

A program that only fetches can be followed on memory alone (`Microcode.look`). So the tests that
the dispatcher makes of a user have a meaning for storage as it is found, whether the dispatcher is
entered or not.
-/

namespace Assist370

namespace Microcode

variable {α β : Type} (memory : Memory)

/-- What a program that only fetches finds in memory. -/
def look : Microcode α → Option α
  | done value => some value
  | decline _ => none
  | act (.fetch address length) next => (next (memory.bytes address length)).look
  | act _ _ => none

@[simp]
theorem look_pure (value : α) : (pure value : Microcode α).look memory = some value :=
  rfl

@[simp]
theorem look_bind (program : Microcode α) (next : α → Microcode β) :
    (program >>= next).look memory = (program.look memory).bind fun value =>
      (next value).look memory := by
  rw [bind_eq_bind]
  induction program with
  | done value => rfl
  | decline reason => rfl
  | act action answer ih =>
      cases action with
      | fetch address length => exact ih _
      | store _ _ | storageKey _ | translate _ | registers | modify _ | setTimer _ | purgeTlb
      | handOff _ _ | log _ => rfl

@[simp]
theorem look_map (change : α → β) (program : Microcode α) :
    (change <$> program).look memory = (program.look memory).map change := by
  rw [← bind_pure_comp, look_bind]
  cases program.look memory <;> rfl

@[simp]
theorem look_ite (condition : Prop) [Decidable condition] (yes no : Microcode α) :
    (if condition then yes else no).look memory =
      if condition then yes.look memory else no.look memory := by
  split <;> rfl

variable [Stored α]

@[simp]
theorem look_fetch (block : UInt32) (field : Field α) :
    (fetch block field).look memory = some (memory.get block field) :=
  rfl

@[simp]
theorem look_fetchAddress (block : UInt32) (field : Field UInt32) :
    (fetchAddress block field).look memory = some (memory.getAddress block field) :=
  rfl

@[simp]
theorem look_testBits (block : UInt32) (field : Field UInt8) (bits : UInt8) :
    (testBits block field bits).look memory = some (memory.get block field &&& bits != 0) :=
  rfl

end Microcode

namespace Memory

variable (memory : Memory) (user : UInt32)

/-- Whether a user has an extended virtual machine. -/
def isExtended : Bool :=
  memory.get user Vmblok.processorStatus &&& Vmblok.extendedMachine != 0

/-- Whether a user is noted to be in extended-control mode. -/
def inExtendedMode : Bool :=
  memory.get user Vmblok.extendedStatus &&& Vmblok.extendedMode != 0

/-- The ECBLOK of a user with an extended virtual machine. -/
def ecblokRegion : Region :=
  ⟨memory.getAddress user Vmblok.extension, 64⟩

/-- Virtual control register 0 of a user. -/
def virtualControl0 : UInt32 :=
  if memory.isExtended user then
    memory.get (memory.getAddress user Vmblok.extension) Ecblok.control
  else
    memory.get user Vmblok.extension

/-- Virtual control register 2 of a user with an extended virtual machine. -/
def virtualControl2 : UInt32 :=
  memory.get (memory.getAddress user Vmblok.extension) (Ecblok.control.item 2)

end Memory

namespace Dispatcher

/-- The channels that a system mask enables by a bit of its own each. -/
def directChannels (systemMask : UInt8) (extendedMode : Bool) : UInt32 :=
  if extendedMode then 0 else (systemMask &&& Psw.lowChannelsMask).toUInt32 <<< 24

/-- The channels that a system mask and virtual control register 2 enable. -/
def channelsOf (systemMask : UInt8) (extended extendedMode : Bool) (control2 : UInt32) : UInt32 :=
  if (extendedMode || extended) && systemMask &&& Psw.ioMask != 0 then
    directChannels systemMask extendedMode ||| control2
  else
    directChannels systemMask extendedMode

variable (memory : Memory) (user : UInt32)

theorem look_virtualControl0 :
    (virtualControl0 user (memory.get user Vmblok.processorStatus)).look memory =
      some (memory.virtualControl0 user) := by
  cases extended : memory.isExtended user <;>
    simp only [Memory.virtualControl0, extended] <;>
    simp only [Memory.isExtended] at extended <;>
    simp [virtualControl0, extended, Memory.getAddress]

theorem look_enabledChannels (psw : Psw) :
    (enabledChannels user psw (memory.get user Vmblok.processorStatus)).look memory =
      some (channelsOf psw.systemMask (memory.isExtended user) (memory.inExtendedMode user)
        (memory.virtualControl2 user)) := by
  have sameBit : Psw.highChannelsMask = Psw.ioMask := rfl
  have isExtended : (memory.get user Vmblok.processorStatus &&& Vmblok.extendedMachine != 0) =
      memory.isExtended user := rfl
  have inExtendedMode : (memory.get user Vmblok.extendedStatus &&& Vmblok.extendedMode != 0) =
      memory.inExtendedMode user := rfl
  simp only [enabledChannels, channelsOf, Psw.masks, sameBit, isExtended, inExtendedMode,
    Microcode.look_bind, Microcode.look_testBits, Option.bind_some]
  cases memory.inExtendedMode user <;> cases memory.isExtended user <;>
    cases psw.systemMask &&& Psw.ioMask != 0 <;> simp [directChannels, Memory.virtualControl2]

end Dispatcher

end Assist370
