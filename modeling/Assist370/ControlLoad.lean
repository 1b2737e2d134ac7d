import Assist370.Micblok
import Assist370.Psw
import Assist370.Register

/-!
# Loading virtual control registers

LOAD CONTROL loads a run of control registers, numbered from the first to the last with register 0
after register 15. For a virtual machine the new values go to the shadow registers that its control
program keeps, and for two of them to the real registers as well. Registers that govern translation,
monitoring and event recording are left to the control program, and so is a load that would enable
an interruption while one is pending.
-/

namespace Assist370

/-- Why a control register load has to be left to the control program. -/
inductive LoadReject where
  /-- The high half of control register 0 would change. -/
  | modeBits
  /-- The register would enable an interruption while one is pending. -/
  | enablesPending (register : RegisterNumber)
  /-- Control register 1 designates the segment table. -/
  | segmentTable
  /-- The register belongs to the dual-address-space facility. -/
  | dualAddressSpace (register : RegisterNumber)
  /-- Control register 8 is the monitor mask. -/
  | monitorMask
  /-- The register belongs to program event recording. -/
  | eventRecording (register : RegisterNumber)
  deriving DecidableEq, Repr

namespace LoadReject

/-- The reason in words. -/
def message : LoadReject → String
  | modeBits => "CR0 high half changed"
  | enablesPending register =>
      s!"CR{register.val} enables an interruption while one is pending"
  | segmentTable => "CR1 designates the segment table"
  | dualAddressSpace register => s!"CR{register.val} is a DAS control register"
  | monitorMask => "CR8 is the monitor mask"
  | eventRecording register => s!"CR{register.val} is a PER control register"

end LoadReject

/-- The two sets of control registers of a running virtual machine. -/
structure ControlRegisters where
  /-- The registers that the virtual machine believes it has. -/
  shadow : RegisterFile
  /-- The registers of the real processor. -/
  real : RegisterFile
  deriving DecidableEq

namespace ControlRegisters

/-- The half of control register 0 that selects modes. -/
def modeMask : UInt32 := 0xffff0000

/-- The half of control register 0 that holds interruption subclass masks. -/
def subclassMask : UInt32 := 0x0000ffff

/-- Loads one register. `psw` is the virtual PSW and `pending` says whether an interruption is
pending for the virtual machine. -/
def loadOne (registers : ControlRegisters) (psw : Psw) (pending : Bool)
    (register : RegisterNumber) (value : UInt32) : Except LoadReject ControlRegisters :=
  let old := registers.shadow.read register
  let shadowed := { registers with shadow := registers.shadow.load register value }
  match register with
  | 0 =>
      if old &&& modeMask != value &&& modeMask then
        throw .modeBits
      else if psw.masks Psw.externalMask && pending &&
          ~~~(old &&& subclassMask) &&& (value &&& subclassMask) != 0 then
        throw (.enablesPending 0)
      else
        pure shadowed
  | 1 => throw .segmentTable
  | 2 =>
      if psw.masks Psw.ioMask && pending && ~~~old &&& value != 0 then
        throw (.enablesPending 2)
      else
        pure shadowed
  | 3 | 4 | 5 | 7 => throw (.dualAddressSpace register)
  | 8 => throw .monitorMask
  | 9 | 10 | 11 => throw (.eventRecording register)
  | 12 | 13 => pure { shadowed with real := registers.real.load register value }
  -- Registers 6, 14 and 15 have a meaning for the virtual machine alone.
  | _ => pure shadowed

/-- Loads the registers of a list in order with their new values, where `pending` is the MICBLOK's
byte of pending-interruption flags. The first register that cannot be loaded refuses the load. -/
def load (registers : ControlRegisters) (range : List RegisterNumber) (new : RegisterFile)
    (psw : Psw) (pending : UInt8) : Except LoadReject ControlRegisters :=
  range.foldlM
    (fun loaded register =>
      loaded.loadOne psw (pending &&& Micblok.pendingFlag != 0) register (new.read register))
    registers

end ControlRegisters

end Assist370
