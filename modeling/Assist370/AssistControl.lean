import Assist370.BitField

/-!
# The assist control register

Control register 6 turns the assists on and off and addresses the micro-assist control block
(MICBLOK) of the running virtual machine. The control program keeps a copy of its high byte, the
assist flags, in the virtual machine's block.
-/

namespace Assist370

/-- The contents of control register 6. -/
structure AssistControl where
  bits : BitVec 32
  deriving DecidableEq, Repr, Inhabited

namespace AssistControl

/-- The address of the MICBLOK, counted in doublewords. -/
def micblokField : BitField := ⟨3, 21⟩

/-- The virtual interval timer is kept by the assist. -/
def virtualTimerField : BitField := .bit 24

/-- Assists for the control program are on. -/
def cpAssistField : BitField := .bit 25

/-- Shadow tables are bypassed. -/
def shadowTablesField : BitField := .bit 26

/-- Supervisor calls are left to the control program. -/
def svcInhibitField : BitField := .bit 27

/-- The virtual machine is a System/360 one. -/
def basicOnlyField : BitField := .bit 28

/-- Storage key inspection is left to the control program. -/
def iskInhibitField : BitField := .bit 29

/-- The virtual machine is in virtual problem state. -/
def virtualProblemField : BitField := .bit 30

/-- Assists for the virtual machine are on. -/
def vmAssistField : BitField := .bit 31

/-- Reads control register 6 as assist controls. -/
def ofWord (word : UInt32) : AssistControl :=
  ⟨word.toBitVec⟩

/-- The real address of the MICBLOK. -/
def micblok (control : AssistControl) : UInt32 :=
  UInt32.ofBitVec ((micblokField.get control.bits).setWidth 32) <<< 3

/-- The flag byte. -/
def flags (control : AssistControl) : UInt8 :=
  UInt8.ofBitVec (control.bits.extractLsb' 24 8)

/-- Whether the virtual interval timer is kept by the assist. -/
def virtualTimer (control : AssistControl) : Bool :=
  virtualTimerField.isOn control.bits

/-- Whether the assists for the control program are on. -/
def cpAssist (control : AssistControl) : Bool :=
  cpAssistField.isOn control.bits

/-- Whether supervisor calls are left to the control program. -/
def svcInhibit (control : AssistControl) : Bool :=
  svcInhibitField.isOn control.bits

/-- Whether the virtual machine is in virtual problem state. -/
def virtualProblem (control : AssistControl) : Bool :=
  virtualProblemField.isOn control.bits

/-- Whether the assists for the virtual machine are on. -/
def vmAssist (control : AssistControl) : Bool :=
  vmAssistField.isOn control.bits

/-- Flag byte bit: assists for the virtual machine. -/
def vmAssistFlag : UInt8 := 0x80

/-- Flag byte bit: virtual problem state. -/
def virtualProblemFlag : UInt8 := 0x40

/-- Flag byte bit: storage key inspection left to the control program. -/
def iskInhibitFlag : UInt8 := 0x20

/-- Flag byte bit: shadow table bypass. -/
def shadowTablesFlag : UInt8 := 0x04

/-- Flag byte bit: virtual interval timer. -/
def virtualTimerFlag : UInt8 := 0x01

end AssistControl

end Assist370
