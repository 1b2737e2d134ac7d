import Assist370.Cpu
import Assist370.Registry

/-!
# Gates

Every assist stands behind the gate of its class, which looks at the processor and at the registry.
An assist that passes its gate is counted as called.
-/

namespace Assist370

/-- What the gate of the control program's assists decides. -/
inductive CpGate where
  | passed
  | declined (reason : Decline)
  /-- The facility is not installed, so that the instruction does not exist. -/
  | operationException
  deriving DecidableEq, Repr

namespace Registry

/-- The gate of the control program's assists. -/
def cpGate (registry : Registry) (assist : Assist) (cpu : Cpu) : CpGate :=
  if cpu.sieActive then
    .declined .sieActive
  else if cpu.psw.isProblemState then
    .declined .problemState
  else if !registry.available then
    .operationException
  else if !registry.isEnabled assist then
    .declined .disabledByCommand
  else if !cpu.assistControl.cpAssist then
    .declined .cpAssistOff
  else
    .passed

/-- Why the first part of the gate of the virtual machine's assists is closed: no virtual machine
runs that the assist may serve. -/
def guestRefusal? (registry : Registry) (assist : Assist) (cpu : Cpu) : Option Decline :=
  if cpu.sieActive then
    some .sieActive
  else if !cpu.psw.isProblemState then
    some .noVirtualMachine
  else if !registry.available then
    some .notInstalled
  else if !registry.isEnabled assist then
    some .disabledByCommand
  else
    none

end Registry

/-- Why the second part of the gate of the virtual machine's assists is closed: control register 6
does not admit them. -/
def AssistControl.guestRefusal? (control : AssistControl) : Option Decline :=
  if !control.vmAssist then
    some .vmAssistOff
  else if control.virtualProblem then
    some .virtualProblemState
  else
    none

end Assist370
