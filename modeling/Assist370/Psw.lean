import Assist370.BitField
import Assist370.Bytes

/-!
# The program status word

A PSW has two formats. Extended-control (EC) mode keeps the condition code and program mask in the
third byte and has no interruption code; basic-control (BC) mode keeps the interruption code in the
third and fourth bytes and the condition code and program mask behind it. One bit of the second
byte, the same in both formats, tells them apart.
-/

namespace Assist370

/-- The second byte of a PSW: the protection key and the machine states. -/
structure MachineStates where
  problemState : Bool := false
  wait : Bool := false
  machineCheck : Bool := false
  extendedControl : Bool := false
  key : BitVec 4 := 0
  deriving DecidableEq, Repr, Inhabited

namespace MachineStates

/-- The field of the problem state. -/
def problemStateField : BitField := .bit 0

/-- The field of the wait state. -/
def waitField : BitField := .bit 1

/-- The field that admits machine-check interruptions. -/
def machineCheckField : BitField := .bit 2

/-- The field that selects extended-control mode. -/
def extendedControlField : BitField := .bit 3

/-- The field of the protection key. -/
def keyField : BitField := ⟨4, 4⟩

/-- Reads the states off a byte. -/
def ofByte (byte : UInt8) : MachineStates where
  problemState := problemStateField.isOn byte.toBitVec
  wait := waitField.isOn byte.toBitVec
  machineCheck := machineCheckField.isOn byte.toBitVec
  extendedControl := extendedControlField.isOn byte.toBitVec
  key := keyField.get byte.toBitVec

/-- The byte that holds the states. -/
def toByte (states : MachineStates) : UInt8 :=
  UInt8.ofBitVec (states.key ++ (BitVec.ofBool states.extendedControl ++
    (BitVec.ofBool states.machineCheck ++
      (BitVec.ofBool states.wait ++ BitVec.ofBool states.problemState))))

@[simp]
theorem ofByte_toByte (states : MachineStates) : ofByte states.toByte = states := by
  obtain ⟨problemState, wait, machineCheck, extendedControl, key⟩ := states
  revert problemState wait machineCheck extendedControl key
  decide

@[simp]
theorem toByte_ofByte (byte : UInt8) : (ofByte byte).toByte = byte := by
  obtain ⟨bits⟩ := byte
  revert bits
  decide +kernel

end MachineStates

/-- A decoded program status word. The interruption code and the instruction length code exist in
the BC format only. -/
structure Psw where
  systemMask : UInt8 := 0
  states : MachineStates := {}
  interruptionCode : UInt16 := 0
  instructionLength : UInt8 := 0
  conditionCode : UInt8 := 0
  programMask : UInt8 := 0
  instructionAddress : UInt32 := 0
  deriving DecidableEq, Repr, Inhabited

namespace Psw

/-- System mask bit of either mode: external interruptions. -/
def externalMask : UInt8 := 0x01

/-- EC system mask bit: I/O interruptions. -/
def ioMask : UInt8 := 0x02

/-- EC system mask bit: dynamic address translation. -/
def translationMask : UInt8 := 0x04

/-- EC system mask bit: program event recording. -/
def eventRecordingMask : UInt8 := 0x40

/-- EC system mask bits that have to be zero. -/
def reservedMask : UInt8 := 0xb8

/-- BC system mask bits: channels 0 to 5, a bit each. -/
def lowChannelsMask : UInt8 := 0xfc

/-- BC system mask bit: channels 6 and up. -/
def highChannelsMask : UInt8 := 0x02

/-- Whether the PSW is in EC mode. -/
def isExtended (psw : Psw) : Bool :=
  psw.states.extendedControl

/-- Whether the PSW is a wait PSW. -/
def isWait (psw : Psw) : Bool :=
  psw.states.wait

/-- Whether the PSW is in problem state. -/
def isProblemState (psw : Psw) : Bool :=
  psw.states.problemState

/-- The protection key. -/
def key (psw : Psw) : BitVec 4 :=
  psw.states.key

/-- Whether some of the given system mask bits are on. -/
def masks (psw : Psw) (bits : UInt8) : Bool :=
  psw.systemMask &&& bits != 0

/-- Whether dynamic address translation applies to logical addresses. -/
def translates (psw : Psw) : Bool :=
  psw.isExtended && psw.masks translationMask

/-- Whether external interruptions are enabled. -/
def externalEnabled (psw : Psw) : Bool :=
  psw.masks externalMask

/-- The instruction address in the last three bytes of a PSW. -/
def addressOfBytes (bytes : Bytes 8) : UInt32 :=
  Bytes.word #v[0, bytes.byte 5, bytes.byte 6, bytes.byte 7]

/-- Decodes a PSW in the format that its mode bit selects. -/
def ofBytes (bytes : Bytes 8) : Psw :=
  let states := MachineStates.ofByte (bytes.byte 1)
  if states.extendedControl then
    { systemMask := bytes.byte 0
      states
      interruptionCode := 0
      instructionLength := 0
      conditionCode := (bytes.byte 2 >>> 4) &&& 3
      programMask := bytes.byte 2 &&& 0xf
      instructionAddress := addressOfBytes bytes }
  else
    { systemMask := bytes.byte 0
      states
      interruptionCode := bytes.halfwordAt 2
      instructionLength := bytes.byte 4 >>> 6
      conditionCode := (bytes.byte 4 >>> 4) &&& 3
      programMask := bytes.byte 4 &&& 0xf
      instructionAddress := addressOfBytes bytes }

/-- Encodes a PSW in the format that its mode bit selects. Each field keeps the bits that the
format has room for. -/
def toBytes (psw : Psw) : Bytes 8 :=
  let address := Bytes.ofWord psw.instructionAddress
  let codeAndMask := ((psw.conditionCode &&& 3) <<< 4) ||| (psw.programMask &&& 0xf)
  if psw.isExtended then
    #v[psw.systemMask, psw.states.toByte, codeAndMask, 0, 0, address.byte 1, address.byte 2,
      address.byte 3]
  else
    let code := Bytes.ofHalfword psw.interruptionCode
    #v[psw.systemMask, psw.states.toByte, code.byte 0, code.byte 1,
      ((psw.instructionLength &&& 3) <<< 6) ||| codeAndMask, address.byte 1, address.byte 2,
      address.byte 3]

end Psw

end Assist370
