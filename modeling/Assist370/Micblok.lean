import Assist370.BitField
import Assist370.Bytes

/-!
# The micro-assist control block

Control register 6 addresses the MICBLOK, six words through which the control program tells the
virtual machine assists where the running virtual machine keeps its state.
-/

namespace Assist370

/-! Fields of the byte that enables assists for single instructions. -/
namespace AssistEnables

/-- DIAGNOSE. -/
def diagField : BitField := .bit 0

/-- TEST CHANNEL. -/
def tchField : BitField := .bit 1

/-- SET CPU TIMER. -/
def stptField : BitField := .bit 2

/-- SET SYSTEM MASK. -/
def ssmField : BitField := .bit 3

/-- START I/O. -/
def sioField : BitField := .bit 4

/-- SET CLOCK COMPARATOR and SET PREFIX. -/
def scspField : BitField := .bit 5

/-- PURGE TLB. -/
def ptlbField : BitField := .bit 6

/-- LOAD PSW. -/
def lpswField : BitField := .bit 7

end AssistEnables

/-- A micro-assist control block. -/
structure Micblok where
  /-- The real segment table. -/
  segmentTable : UInt32
  /-- The address of the virtual control registers. -/
  controlRegisters : UInt32
  /-- The address of the virtual PSW, with the pending-interruption flags in the high byte. -/
  virtualPsw : UInt32
  /-- The address of a work area. -/
  workArea : UInt32
  /-- The address of the virtual interval timer. -/
  virtualTimer : UInt32
  /-- Enables for single instructions. -/
  enables : Bytes 4
  deriving DecidableEq, Repr

namespace Micblok

/-- The size of the block in bytes. -/
def size : Nat := 24

/-- The offset of the byte that holds the pending-interruption flag. -/
def pendingOffset : UInt32 := 8

/-- The flag of the pending byte that is on while an interruption is pending. -/
def pendingFlag : UInt8 := 0x80

/-- Reads the block off its bytes. -/
def ofBytes (bytes : Bytes size) : Micblok where
  segmentTable := bytes.wordAt 0
  controlRegisters := bytes.wordAt 4
  virtualPsw := bytes.wordAt 8
  workArea := bytes.wordAt 12
  virtualTimer := bytes.wordAt 16
  enables := #v[bytes.byte 20, bytes.byte 21, bytes.byte 22, bytes.byte 23]

/-- The byte of pending-interruption flags. -/
def pending (micblok : Micblok) : UInt8 :=
  (micblok.virtualPsw >>> 24).toUInt8

/-- The byte that enables assists for single instructions. -/
def instructionEnables (micblok : Micblok) : UInt8 :=
  micblok.enables.byte 0

/-- Whether LOAD PSW may be assisted. -/
def assistsLoadPsw (micblok : Micblok) : Bool :=
  AssistEnables.lpswField.isOn micblok.instructionEnables.toBitVec

end Micblok

end Assist370
