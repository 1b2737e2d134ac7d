import Assist370.Microcode.Logical
import Assist370.Micblok

/-!
# The running virtual machine

Before a virtual machine assist does its work it looks up the virtual machine's MICBLOK and virtual
PSW.
-/

namespace Assist370

/-- How the program of an assist completes. -/
inductive Completion where
  /-- The processor goes on where the assist has set its PSW to. -/
  | completed
  /-- A virtual machine has been dispatched, and pending interruptions have to be looked for. -/
  | dispatched
  deriving DecidableEq, Repr

/-- What an assist knows of the running virtual machine. -/
structure GuestContext where
  /-- Control register 6. -/
  control : AssistControl
  micblok : Micblok
  /-- The real address of the virtual PSW. -/
  pswAddress : UInt32
  /-- The virtual PSW. -/
  psw : Psw
  deriving DecidableEq, Repr

namespace GuestContext

/-- The MICBLOK's byte of pending-interruption flags. -/
def pending (context : GuestContext) : UInt8 :=
  context.micblok.pending

/-- Whether a MICBLOK at an address lies within a block of 2K. -/
def liesWithinBlock (address : UInt32) : Bool :=
  address &&& 0x7ff ≤ 0x7e0

/-- Looks up the running virtual machine. The address of its interval timer is noted as soon as the
MICBLOK is known. -/
def lookUp : Microcode GuestContext := do
  let control := (← Microcode.registers).assistControl
  Microcode.require (liesWithinBlock control.micblok) .micblokCrossesBlock
  let micblok := Micblok.ofBytes (← Microcode.perform (.fetch control.micblok Micblok.size))
  let pswAddress := Address.wrap micblok.virtualPsw
  if control.virtualTimer then
    Microcode.modify fun cpu =>
      { cpu with virtualTimerAddress := some (Address.wrap micblok.virtualTimer) }
  let psw ← Microcode.fetch pswAddress Field.first
  return { control, micblok, pswAddress, psw }

end GuestContext

end Assist370
