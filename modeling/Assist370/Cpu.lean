import Assist370.AssistControl
import Assist370.ControlLoad

/-!
# The processor

The registers of the real processor, as far as the assists see and change them.
-/

namespace Assist370

/-- The registers of the real processor. -/
structure Cpu where
  /-- General registers 0 to 15. -/
  general : RegisterFile
  /-- Floating-point registers 0, 2, 4 and 6. -/
  floating : Vector UInt64 4
  /-- Control registers 0 to 15. -/
  control : RegisterFile
  psw : Psw
  /-- The CPU timer, which counts down and interrupts while it is negative. -/
  cpuTimer : Int64
  /-- A CPU timer interruption is pending. -/
  timerPending : Bool
  /-- The processor interprets a guest by hardware. -/
  sieActive : Bool
  /-- A virtual interval timer interruption is pending for the running virtual machine. -/
  virtualTimerPending : Bool
  /-- The real address of the running virtual machine's interval timer while the assist keeps
  it. -/
  virtualTimerAddress : Option UInt32
  deriving DecidableEq

namespace Cpu

/-- The processor with all registers zero. -/
def initial : Cpu where
  general := RegisterFile.zero
  floating := Vector.replicate 4 0
  control := RegisterFile.zero
  psw := {}
  cpuTimer := 0
  timerPending := false
  sieActive := false
  virtualTimerPending := false
  virtualTimerAddress := none

/-- Control register 6, which controls the assists. -/
def assistControl (cpu : Cpu) : AssistControl :=
  .ofWord (cpu.control.read 6)

/-- Loads a general register. -/
def setGeneral (cpu : Cpu) (register : RegisterNumber) (value : UInt32) : Cpu :=
  { cpu with general := cpu.general.load register value }

/-- Loads a control register. -/
def setControl (cpu : Cpu) (register : RegisterNumber) (value : UInt32) : Cpu :=
  { cpu with control := cpu.control.load register value }

end Cpu

end Assist370
