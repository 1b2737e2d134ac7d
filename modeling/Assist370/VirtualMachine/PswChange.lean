import Assist370.Layout
import Assist370.VirtualMachine.Context

/-!
# Changes of the virtual PSW

SET SYSTEM MASK, SUPERVISOR CALL and LOAD PSW for a virtual machine. The instruction address,
condition code, key and program mask of a running virtual machine are those of the real PSW; the
rest of its PSW lies in the virtual PSW. Every change passes `Psw.checkTransition` before it is
stored.
-/

namespace Assist370.GuestContext

open Microcode

/-- The bit of virtual control register 0 that suppresses SET SYSTEM MASK. -/
def maskSuppression : UInt32 := 0x40000000

/-- The supervisor call that always goes to the control program. -/
def reservedCall : UInt8 := 76

/-- Declines unless the virtual PSW may move from `old` to `new`. -/
def validate (old new : Psw) (pending : UInt8) : Microcode Unit :=
  match old.checkTransition new pending with
  | .ok () => pure ()
  | .error reject => do
      log (.transitionRejected reject)
      decline (.transitionRejected reject)

/-- Takes the parts of a virtual PSW that the real PSW holds into it. -/
def loadUserFields (new : Psw) : Microcode Unit := do
  branch new.instructionAddress
  modify fun cpu =>
    { cpu with
      psw := { cpu.psw with
        conditionCode := new.conditionCode
        states := { cpu.psw.states with key := new.key }
        programMask := new.programMask } }

/-- The virtual PSW with those parts that the real PSW holds. -/
def current (context : GuestContext) (real : Psw) : Psw :=
  { context.psw with
    instructionAddress := real.instructionAddress
    conditionCode := real.conditionCode
    states := { context.psw.states with key := real.key }
    programMask := real.programMask }

/-- Sets the virtual system mask from the byte at a logical address. -/
def setSystemMask (policy : Policy) (address : UInt32) (context : GuestContext) :
    Microcode Completion := do
  require (!context.control.virtualProblem) .virtualProblemState
  let control0 : UInt32 ← fetch context.micblok.controlRegisters Field.first
  require (control0 &&& maskSuppression == 0) .maskSuppressed
  let real := (← registers).psw
  let systemMask ← fetchLogical policy address real.key
  let new := { context.psw with systemMask }
  validate context.psw new context.pending
  store context.pswAddress Field.first
    { new with instructionAddress := real.instructionAddress }
  return .completed

/-- Presents a supervisor-call interruption to the virtual machine. Its prefixed storage area is
accessed with key zero. -/
def supervisorCall (policy : Policy) (code : UInt8) (context : GuestContext) :
    Microcode Completion := do
  require (code != reservedCall) .reservedCall
  require (!context.control.svcInhibit) .svcInhibited
  let new : Psw ← fetchLogical policy PrefixArea.callNewPsw 0
  let old := { context.current (← registers).psw with interruptionCode := code.toUInt16 }
  validate old new context.pending
  storeLogical policy PrefixArea.callOldPsw old 0
  if old.isExtended then
    storeLogical policy PrefixArea.callCode (0x00020000 ||| code.toUInt32) 0
  loadUserFields new
  store context.pswAddress Field.first new
  return .completed

/-- Loads the virtual PSW from the doubleword at a logical address. -/
def loadPsw (policy : Policy) (address : UInt32) (context : GuestContext) :
    Microcode Completion := do
  require (!context.control.virtualProblem) .virtualProblemState
  require context.micblok.assistsLoadPsw .loadPswOff
  require (address &&& 3 == 0) .operandNotAligned
  let new : Psw ← fetchLogical policy address (← registers).psw.key
  validate context.psw new context.pending
  loadUserFields new
  store context.pswAddress Field.first new
  return .completed

end Assist370.GuestContext
