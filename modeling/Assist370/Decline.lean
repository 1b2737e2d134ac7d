import Assist370.ControlLoad
import Assist370.Transition

/-!
# Reasons to decline

An assist that cannot do the whole of its work leaves the instruction to software and says why.
-/

namespace Assist370

/-- The side of the control program's device tables that a block belongs to. -/
inductive DeviceSide where
  | virtual
  | real
  deriving DecidableEq, Repr

/-- The kinds of blocks on the path to a device. -/
inductive DeviceBlockKind where
  | channel
  | controlUnit
  | device
  deriving DecidableEq, Repr

namespace DeviceSide

/-- The side in words. -/
def name : DeviceSide → String
  | virtual => "virtual"
  | real => "real"

end DeviceSide

namespace DeviceBlockKind

/-- The kind in words. -/
def name : DeviceBlockKind → String
  | channel => "channel"
  | controlUnit => "control unit"
  | device => "device"

end DeviceBlockKind

/-- Why an assist leaves an instruction to software. -/
inductive Decline where
  /-- The processor interprets a guest by hardware. -/
  | sieActive
  /-- A control program assist was issued in problem state. -/
  | problemState
  /-- A virtual machine assist was issued in supervisor state. -/
  | noVirtualMachine
  /-- The facility is not installed. -/
  | notInstalled
  /-- The assist is switched off in the registry. -/
  | disabledByCommand
  /-- Control register 6 has the control program assists off. -/
  | cpAssistOff
  /-- Control register 6 has the virtual machine assists off. -/
  | vmAssistOff
  /-- The virtual machine is in virtual problem state. -/
  | virtualProblemState
  /-- The MICBLOK does not lie within a block of 2K. -/
  | micblokCrossesBlock
  /-- The facility does not perform the assist. -/
  | notSupported
  /-- A logical address has no real address. -/
  | translationException
  /-- A storage key does not admit an access. -/
  | protectionException
  /-- The virtual PSW may not change in this way. -/
  | transitionRejected (reject : TransitionReject)
  /-- Virtual control register 0 suppresses SET SYSTEM MASK. -/
  | maskSuppressed
  /-- SVC 76 always goes to the control program. -/
  | reservedCall
  /-- Control register 6 leaves supervisor calls to the control program. -/
  | svcInhibited
  /-- The MICBLOK leaves LOAD PSW to the control program. -/
  | loadPswOff
  /-- The operand is not on a word boundary. -/
  | operandNotAligned
  /-- A basic-mode virtual machine has control register 0 only. -/
  | basicModeRange
  /-- A control register may not be loaded in this way. -/
  | loadRejected (reject : LoadReject)
  /-- A storage request for nothing. -/
  | zeroLength
  /-- A storage request beyond the largest subpool. -/
  | largerThanSubpools
  /-- The subpool has no block to give. -/
  | subpoolEmpty
  /-- The block lies in no page of the free storage area. -/
  | notFreeStorage
  /-- The page of the block is in some other use as well. -/
  | pageNotFlagged
  /-- The block is the first of its subpool already. -/
  | alreadyHead
  /-- The path to a device lacks a block. -/
  | missingBlock (side : DeviceSide) (kind : DeviceBlockKind)
  /-- A shared page has been stored into. -/
  | sharedPageChanged
  /-- The page lies beyond the end of real storage. -/
  | pageBeyondStorage
  /-- The page is not locked. -/
  | pageNotLocked
  /-- The system is being extended. -/
  | systemExtend
  /-- The system recovers from a machine check. -/
  | machineCheckRecovery
  /-- The in-queue does not lead back to its anchor. -/
  | inQueueEndless
  /-- The chain of pending external interruptions does not end. -/
  | interruptionChainEndless
  /-- The user takes no part in dispatching by assist. -/
  | userNotAssistable
  /-- The user before this one ran a shared system, whose pages have to be checked. -/
  | lastUserShared
  /-- The user's shadow page tables are out of date. -/
  | shadowTablesStale
  deriving DecidableEq, Repr

namespace Decline

/-- The reason in words. -/
def message : Decline → String
  | sieActive => "SIE active"
  | problemState => "problem state"
  | noVirtualMachine => "no virtual machine running"
  | notInstalled => "ECPS:VM not installed"
  | disabledByCommand => "disabled by command"
  | cpAssistOff => "CP assist off in CR6"
  | vmAssistOff => "VM assist off in CR6"
  | virtualProblemState => "virtual problem state"
  | micblokCrossesBlock => "MICBLOK crosses a 2K boundary"
  | notSupported => "assist not supported"
  | translationException => "translation exception"
  | protectionException => "protection exception"
  | transitionRejected _ => "PSW transition rejected"
  | maskSuppressed => "SSM suppressed by virtual CR0"
  | reservedCall => "SVC 76"
  | svcInhibited => "SVC assist inhibited"
  | loadPswOff => "LPSW off in MICEVMA"
  | operandNotAligned => "operand not aligned"
  | basicModeRange => "basic mode VM loads other than CR0"
  | loadRejected _ => "control register not loadable"
  | zeroLength => "zero length"
  | largerThanSubpools => "larger than the subpools"
  | subpoolEmpty => "subpool empty"
  | notFreeStorage => "not in the free storage area"
  | pageNotFlagged => "page not flagged as free storage"
  | alreadyHead => "block already heads its subpool"
  | missingBlock side kind => s!"no {side.name} {kind.name} block"
  | sharedPageChanged => "shared page changed"
  | pageBeyondStorage => "page beyond real storage"
  | pageNotLocked => "page not locked"
  | systemExtend => "system extend in progress"
  | machineCheckRecovery => "machine check recovery in progress"
  | inQueueEndless => "in-queue does not end"
  | interruptionChainEndless => "XINTBLOK chain does not end"
  | userNotAssistable => "user not assistable"
  | lastUserShared => "last user ran a shared system"
  | shadowTablesStale => "shadow page tables need invalidation"

end Decline

/-- Why a virtual interval timer interruption has to wait. -/
inductive TimerRefusal where
  /-- One is pending already. -/
  | alreadyPending
  /-- The processor is in supervisor state. -/
  | noVirtualMachine
  /-- The PSW masks external interruptions off. -/
  | externalDisabled
  /-- The virtual interval timer is not kept by the assist. -/
  | timerAssistOff
  deriving DecidableEq, Repr

namespace TimerRefusal

/-- The reason in words. -/
def message : TimerRefusal → String
  | alreadyPending => "already pending"
  | noVirtualMachine => "no virtual machine running"
  | externalDisabled => "external interruptions disabled"
  | timerAssistOff => "virtual timer assist off"

end TimerRefusal

end Assist370
