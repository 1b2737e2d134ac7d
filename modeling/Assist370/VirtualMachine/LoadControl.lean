import Assist370.Layout
import Assist370.VirtualMachine.Context

/-!
# LOAD CONTROL for a virtual machine

The virtual control registers of an extended virtual machine lie in its ECBLOK; any other virtual
machine has control register 0 alone, in its VMBLOK. The VMBLOK is found by the virtual PSW that
lies in it.
-/

namespace Assist370.GuestContext

open Microcode

/-- The address of the VMBLOK that the virtual PSW lies in. -/
def vmblok (context : GuestContext) : UInt32 :=
  Address.wrap (context.pswAddress - Vmblok.psw.offset)

/-- Fetches the operand words of registers, in their order from an address on. -/
def fetchOperands (policy : Policy) :
    UInt32 → List RegisterNumber → RegisterFile → Microcode RegisterFile
  | _, [], operands => pure operands
  | address, register :: rest, operands => do
      let operand ← fetchLogical policy address (← registers).psw.key
      fetchOperands policy (address + 4) rest (operands.load register operand)

/-- Fetches the shadow registers. A virtual machine that is not extended has the first one. -/
def fetchShadow (extended : Bool) (address : UInt32) : Microcode RegisterFile := do
  if extended then
    fetchRow address Field.first 16
  else
    let control0 ← fetch address Field.first
    return RegisterFile.zero.load 0 control0

/-- Stores shadow registers. -/
def storeShadow (address : UInt32) (shadow : RegisterFile) :
    List RegisterNumber → Microcode Unit
  | [] => pure ()
  | register :: rest => do
      store address (Field.first.item register) (shadow.read register)
      storeShadow address shadow rest

/-- Loads virtual control registers from a logical address. -/
def loadControl (policy : Policy) (first last : RegisterNumber) (address : UInt32)
    (context : GuestContext) : Microcode Completion := do
  require (address &&& 3 == 0) .operandNotAligned
  let extended ← testBits context.vmblok Vmblok.processorStatus Vmblok.extendedMachine
  require (extended || (first == 0 && last == 0)) .basicModeRange
  let range := RegisterNumber.range first last
  let new ← fetchOperands policy address range RegisterFile.zero
  let shadowAddress ←
    if extended then
      fetchAddress context.vmblok Vmblok.extension
    else
      pure (context.vmblok + Vmblok.extension.offset)
  let shadow ← fetchShadow extended shadowAddress
  let real := (← registers).control
  match ControlRegisters.load { shadow, real } range new context.psw context.pending with
  | .ok loaded =>
      modify fun cpu => { cpu with control := loaded.real }
      storeShadow shadowAddress loaded.shadow range
      return .completed
  | .error reject =>
      log (.loadRejected reject)
      decline (.loadRejected reject)

end Assist370.GuestContext
