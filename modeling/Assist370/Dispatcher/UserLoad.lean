import Assist370.Dispatcher.Basic
import Assist370.Micblok

/-!
# Dispatching a user

The registers of a virtual machine are loaded into the real processor, which then runs it in
problem state. The user's status is looked at once and stored back at the end, and the MICBLOK
learns whether an interruption is pending that the assists must not enable.
-/

namespace Assist370.Dispatcher

open Microcode

/-- The status of a user while it is being dispatched. -/
structure UserStatus where
  dispatch : UInt8
  run : UInt8
  processor : UInt8
  extended : UInt8
  operating : UInt8
  pending : UInt8
  /-- The assist flags for control register 6. -/
  assists : UInt8
  deriving DecidableEq, Repr

namespace UserStatus

/-- Looks at the status of a user. -/
def fetch (user : UInt32) : Microcode UserStatus := do
  let dispatch ← Microcode.fetch user Vmblok.dispatchStatus
  let run ← Microcode.fetch user Vmblok.runStatus
  let processor ← Microcode.fetch user Vmblok.processorStatus
  let extended ← Microcode.fetch user Vmblok.extendedStatus
  let operating ← Microcode.fetch user Vmblok.operatingStatus
  let pending ← Microcode.fetch user Vmblok.pending
  let assists ← Microcode.fetch user Vmblok.assistFlags
  return { dispatch, run, processor, extended, operating, pending, assists }

/-- Stores back the status of a user. -/
def store (status : UserStatus) (user : UInt32) : Microcode Unit := do
  Microcode.store user Vmblok.dispatchStatus status.dispatch
  Microcode.store user Vmblok.runStatus status.run
  Microcode.store user Vmblok.extendedStatus status.extended
  Microcode.store user Vmblok.processorStatus status.processor
  Microcode.store user Vmblok.operatingStatus status.operating

/-- Whether the user has an extended virtual machine. -/
def isExtended (status : UserStatus) : Bool :=
  status.processor &&& Vmblok.extendedMachine != 0

/-- Whether the user's virtual PSW is in extended-control mode. -/
def inExtendedMode (status : UserStatus) : Bool :=
  status.extended &&& Vmblok.extendedMode != 0

/-- Whether all the given bits of the extended status are on. -/
def hasExtended (status : UserStatus) (bits : UInt8) : Bool :=
  status.extended &&& bits == bits

/-- Turns on assist flags. -/
def withAssists (status : UserStatus) (flags : UInt8) : UserStatus :=
  { status with assists := status.assists ||| flags }

/-- The status with the assist flags off that a dispatch decides anew. -/
def withoutDecidedAssists (status : UserStatus) : UserStatus :=
  { status with
    assists := status.assists &&& ~~~(AssistControl.shadowTablesFlag |||
      AssistControl.virtualProblemFlag ||| AssistControl.iskInhibitFlag |||
      AssistControl.vmAssistFlag) }

/-- The status of a user that is being dispatched, with valid shadow page tables. -/
def asDispatched (status : UserStatus) : UserStatus :=
  { status with
    extended := status.extended &&& ~~~Vmblok.pagesInvalid
    dispatch := status.dispatch ||| Vmblok.dispatched }

end UserStatus

/-- The PSW under which the real processor runs a virtual machine: extended-control mode, problem
state, translation and all interruptions on. -/
def realPsw (virtual : Psw) : Psw where
  systemMask := Psw.translationMask ||| Psw.ioMask ||| Psw.externalMask
  states :=
    { problemState := true
      wait := false
      machineCheck := true
      extendedControl := true
      key := virtual.key }
  interruptionCode := 0
  instructionLength := 0
  conditionCode := virtual.conditionCode
  programMask := virtual.programMask
  instructionAddress := virtual.instructionAddress

/-- Control registers 0 and 1 of the real processor for a user. -/
structure TranslationControls where
  control0 : UInt32
  control1 : UInt32
  deriving DecidableEq, Repr

/-- Takes the processor from the user that had it. Declines if the pages of a shared system have to
be checked first. -/
def takeFrom (runUser user systemUser : UInt32) : Microcode Unit := do
  clearBits runUser Vmblok.dispatchStatus Vmblok.dispatched
  let lastUser ← fetchAddress PrefixArea.base PrefixArea.lastUser
  if lastUser != systemUser && lastUser != user then
    if ← testBits lastUser Vmblok.operatingStatus Vmblok.runsShared then
      handOff 10 user
      handOff 11 lastUser
      decline .lastUserShared

/-- The time slice of a user: the rest of the last one for the running user, if there is a rest,
and a new one otherwise, four times as long for a user that computes. -/
def timeSlice (list user : UInt32) (running : Bool) (rest : UInt32) : Microcode UInt32 := do
  if !running || rest &&& signBit != 0 then
    let slice ← fetch list DispatchList.slice
    if ← testBits user Vmblok.queueLevel Vmblok.computing then
      return slice <<< 2
    else
      return slice
  else
    return rest

/-- Gives the processor to a user, with its time slice in the interval timer. -/
def giveTo (user slice : UInt32) : Microcode Unit := do
  store PrefixArea.base PrefixArea.intervalTimer slice
  startCharging user
  store PrefixArea.base PrefixArea.lastUser user
  store PrefixArea.base PrefixArea.runUser user

/-- The translation controls of a user that has none of its own. -/
def ownControls (user : UInt32) : Microcode TranslationControls := do
  let control0 ← fetch PrefixArea.base PrefixArea.cpControl0
  let control1 ← fetch user Vmblok.segmentTable
  return { control0, control1 }

/-- The translation controls of a user that translates by itself: those of its shadow tables. -/
def shadowControls (block : UInt32) : Microcode TranslationControls := do
  let control0 ← fetch block Ecblok.shadowControl0
  let control1 ← fetch block Ecblok.shadowControl1
  return { control0, control1 }

/-- Whether an interruption is pending for a user that a change of its virtual PSW by an assist must
not enable. `extension` is the word that holds the address of the ECBLOK of an extended virtual
machine and virtual control register 0 of any other. -/
def interruptionPending (user extension : UInt32) (status : UserStatus) : Microcode Bool := do
  let waiting ← fetch user Vmblok.ioPending
  let io ←
    if waiting == 0 then
      pure false
    else if status.inExtendedMode then do
      let control0 ← fetch (Address.wrap extension) Ecblok.control
      pure ((waiting.toUInt32 <<< 16) &&& control0 != 0)
    else
      pure true
  if io || (status.inExtendedMode && status.pending &&& Vmblok.pagePending != 0) then
    return true
  else
    let control0 ←
      if status.isExtended then
        fetch (Address.wrap extension) Ecblok.control
      else
        pure extension
    let block ← fetchAddress user Vmblok.externalPending
    return (← findEnabled control0 chainLimit (user + Vmblok.externalPending.offset) block).isSome

/-- Decides the assist flags of a user that has a MICBLOK, and tells the MICBLOK of pending
interruptions. A user whose instructions are traced gets no assists. -/
def enableAssists (user micblok extension : UInt32) (virtual : Psw) (status : UserStatus) :
    Microcode UserStatus := do
  if ← testBits user Vmblok.traceControl Vmblok.tracesInstructions then
    store micblok ⟨Micblok.pendingOffset⟩ (0 : UInt8)
    return status
  else
    let shared :=
      if status.operating &&& Vmblok.runsShared != 0 then AssistControl.iskInhibitFlag else 0
    let problem := if virtual.isProblemState then AssistControl.virtualProblemFlag else 0
    let status := status.withAssists (AssistControl.vmAssistFlag ||| shared ||| problem)
    let pending ← interruptionPending user extension status
    store micblok ⟨Micblok.pendingOffset⟩ (if pending then Micblok.pendingFlag else 0)
    return status

/-- Loads a row of control registers from consecutive words. -/
def loadControls (block : UInt32) (field : Field UInt32) :
    List RegisterNumber → Microcode Unit
  | [] => pure ()
  | register :: registers => do
      let value ← fetch block field
      modify fun cpu => cpu.setControl register value
      loadControls block (field.item 1) registers

/-- The event recording registers in a trace extension block. -/
def tracedEvents : Field UInt32 := ⟨0x1c⟩

/-- Loads the event recording registers of a user whose events are traced, and turns on event
recording in its real PSW. -/
def loadTracing (user : UInt32) (real : Psw) : Microcode Psw := do
  if ← testBits user Vmblok.traceControl Vmblok.tracesEvents then
    let block ← fetchAddress user Vmblok.traceExtension
    loadControls block tracedEvents [9, 10, 11]
    return { real with systemMask := real.systemMask ||| Psw.eventRecordingMask }
  else
    return real

/-- Empties the translation lookaside buffer if that has been required, and notes that it was
done. -/
def honourPurge : Microcode Unit := do
  let status ← fetch PrefixArea.base PrefixArea.processorStatus
  if status &&& PrefixArea.purgeRequired != 0 then
    store PrefixArea.base PrefixArea.processorStatus (status &&& ~~~PrefixArea.purgeRequired)
    purgeTlb

/-- Sets the clocks of a user that is about to run: no stacked work is under way, and the problem
time and the time slice at its dispatch are noted. -/
def startClocks (user : UInt32) : Microcode Unit := do
  store PrefixArea.base PrefixArea.stackUser 0
  let problemTime ← fetch user Vmblok.problemTime
  store PrefixArea.base PrefixArea.problemStart problemTime
  let slice ← fetch PrefixArea.base PrefixArea.intervalTimer
  store PrefixArea.base PrefixArea.quantum slice

/-- Loads the registers of a user and starts it. -/
def start (user extension : UInt32) (status : UserStatus) (virtual : Psw)
    (controls : TranslationControls) : Microcode Completion := do
  if status.isExtended then
    loadControls (Address.wrap extension) (Ecblok.control.item 4)
      [4, 5, 6, 7, 8, 9, 10, 11, 12, 13]
  store user Vmblok.assistFlags status.assists
  let real ← loadTracing user (realPsw virtual)
  let assistControl ← fetch user Vmblok.assistControl
  modify fun cpu => cpu.setControl 6 assistControl
  startClocks user
  modify fun cpu => (cpu.setControl 0 controls.control0).setControl 1 controls.control1
  store PrefixArea.base PrefixArea.cpStatus PrefixArea.cpRuns
  let general ← fetchRow user Vmblok.generalRegisters 16
  modify fun cpu => { cpu with general }
  store PrefixArea.base PrefixArea.ioOldMask 0
  honourPurge
  status.store user
  store user Vmblok.psw virtual
  stopCharging user
  setTimerFrom user Vmblok.problemTime
  store PrefixArea.base PrefixArea.runControl0 controls.control0
  store PrefixArea.base PrefixArea.runControl1 controls.control1
  store PrefixArea.base PrefixArea.runPsw real
  modify fun cpu => { cpu with psw := real }
  purgeTlb
  return .dispatched

/-- Loads a user whose translation controls are known. Declines if the user's shadow page tables
have to be brought up to date first. -/
def load (user micblok extension : UInt32) (status : UserStatus) (virtual : Psw)
    (controls : TranslationControls) : Microcode Completion := do
  require (!status.hasExtended (Vmblok.pagesInvalid ||| Vmblok.hasShadowTables))
    .shadowTablesStale
  let status := status.asDispatched
  let status ←
    if micblok == 0 then
      pure status
    else
      enableAssists user micblok extension virtual status
  start user extension status virtual controls

/-- Chooses the translation controls of a user and loads it. The segment tables of a user in
extended-control mode must not be invalid while virtual control register 0 is new. -/
def loadUser (user exits : UInt32) : Microcode Completion := do
  let status ← UserStatus.fetch user
  let micblok ← fetchAddress user Vmblok.assistControl
  let floating ← fetchRow user Vmblok.floatingRegisters 4
  modify fun cpu => { cpu with floating }
  let virtual ← fetch user Vmblok.psw
  let controls ← ownControls user
  let status := status.withoutDecidedAssists
  let extension ← fetch user Vmblok.extension
  if status.isExtended && status.inExtendedMode then
    if status.hasExtended (Vmblok.segmentsInvalid ||| Vmblok.newControl) then
      log .segmentTablesInvalid
      takeExit exits DispatchExit.abend.place
    else if virtual.masks Psw.translationMask then
      let controls ← shadowControls (Address.wrap extension)
      load user micblok extension (status.withAssists AssistControl.shadowTablesFlag) virtual
        controls
    else
      load user micblok extension status virtual controls
  else
    load user micblok extension status virtual controls

/-- Dispatches a user. -/
def dispatchUser (list exits user systemUser : UInt32) : Microcode Completion := do
  if (← fetch user Vmblok.notAssistable) != 0 then
    handOff 1 user
    handOff 11 systemUser
    decline .userNotAssistable
  else
    let runUser ← fetchAddress PrefixArea.base PrefixArea.runUser
    let rest ← fetch PrefixArea.base PrefixArea.quantum
    if user != runUser then
      takeFrom runUser user systemUser
    let slice ← timeSlice list user (user == runUser) rest
    giveTo user slice
    loadUser user exits

end Assist370.Dispatcher
