import Assist370.Micblok
import Assist370.Psw

/-!
# Virtual PSW transitions

A virtual machine changes its own PSW by privileged instructions and by interruptions. An assist
may make such a change in the control program's place only if the control program would have had
nothing else to do: the mode and the kind of translation stay, no pending interruption becomes
enabled, and the new PSW is neither a wait PSW nor an invalid one.
-/

namespace Assist370

/-- Why a virtual PSW change has to be left to the control program. -/
inductive TransitionReject where
  /-- The change leaves or enters extended-control mode. -/
  | modeChange
  /-- The change turns translation or event recording on or off. -/
  | translationOrPer
  /-- The change enables an interruption class while an interruption is pending. -/
  | enablesPending
  /-- The new PSW is a wait PSW. -/
  | wait
  /-- The new PSW has system mask bits on that have to be off. -/
  | reservedMask
  /-- The new instruction address is odd. -/
  | oddAddress
  deriving DecidableEq, Repr

namespace TransitionReject

/-- The reason in words. -/
def message : TransitionReject → String
  | modeChange => "EC/BC mode change"
  | translationOrPer => "DAT or PER change"
  | enablesPending => "interruption enabled while one is pending"
  | wait => "wait state"
  | reservedMask => "reserved system mask bits"
  | oddAddress => "odd instruction address"

end TransitionReject

namespace Psw

/-- The system mask bits that enable interruptions in the mode of a PSW. -/
def interruptionMask (psw : Psw) : UInt8 :=
  if psw.isExtended then ioMask ||| externalMask else 0xff

/-- The system mask bits of a PSW that select its kind of translation. -/
def translationBits (psw : Psw) : UInt8 :=
  psw.systemMask &&& (translationMask ||| eventRecordingMask)

/-- Checks whether the virtual PSW may move from `old` to `new` without the control program, where
`pending` is the MICBLOK's byte of pending-interruption flags. The first objection counts. -/
def checkTransition (old new : Psw) (pending : UInt8) : Except TransitionReject Unit := do
  if old.isExtended != new.isExtended then
    throw .modeChange
  if new.isExtended && new.translationBits != old.translationBits then
    throw .translationOrPer
  if pending &&& Micblok.pendingFlag != 0 &&
      (~~~old.systemMask &&& new.systemMask) &&& new.interruptionMask != 0 then
    throw .enablesPending
  if new.isWait then
    throw .wait
  if new.isExtended && new.masks reservedMask then
    throw .reservedMask
  if new.instructionAddress &&& 1 != 0 then
    throw .oddAddress

end Psw

end Assist370
