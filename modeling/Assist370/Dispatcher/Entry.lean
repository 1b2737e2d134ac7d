import Assist370.Dispatcher.Accounting

/-!
# Entry of the dispatcher

The dispatcher is entered for the user in general register 11. After the running user's time has
been charged, the first thing that keeps the user from being dispatched decides the exit.
-/

namespace Assist370.Dispatcher

open Microcode

/-- Takes an exit for a user. -/
def exitFor (user exits : UInt32) (exit : EntryExit) : Microcode Completion := do
  setGeneral 11 user
  takeExit exits exit.place

/-- Virtual control register 0 of a user. -/
def virtualControl0 (user : UInt32) (processorStatus : UInt8) : Microcode UInt32 := do
  let word ← fetch user Vmblok.extension
  if processorStatus &&& Vmblok.extendedMachine != 0 then
    fetch (Address.wrap word) Ecblok.control
  else
    pure word

/-- The first external interruption that can be presented to a user. -/
def externalInterruption (user : UInt32) (psw : Psw) (processorStatus : UInt8) :
    Microcode (Option EnabledInterruption) := do
  let block ← fetchAddress user Vmblok.externalPending
  if block != 0 && psw.externalEnabled then
    let control0 ← virtualControl0 user processorStatus
    findEnabled control0 chainLimit (user + Vmblok.externalPending.offset) block
  else
    pure none

/-- The channels whose I/O interruptions a user has enabled, a bit each from the left. In
basic-control mode the system mask has a bit for each of channels 0 to 5 and one for all others,
which virtual control register 2 tells apart. -/
def enabledChannels (user : UInt32) (psw : Psw) (processorStatus : UInt8) :
    Microcode UInt32 := do
  let extendedMode ← testBits user Vmblok.extendedStatus Vmblok.extendedMode
  let direct : UInt32 :=
    if extendedMode then
      0
    else
      (psw.systemMask &&& Psw.lowChannelsMask).toUInt32 <<< 24
  let byRegister :=
    if extendedMode then
      psw.masks Psw.ioMask
    else
      processorStatus &&& Vmblok.extendedMachine != 0 && psw.masks Psw.highChannelsMask
  if byRegister then
    let block ← fetchAddress user Vmblok.extension
    return direct ||| (← fetch block (Ecblok.control.item 2))
  else
    return direct

/-- The channels with an I/O interruption that can be presented to a user. -/
def ioInterruptions (user : UInt32) (psw : Psw) (processorStatus : UInt8) :
    Microcode UInt32 := do
  let waiting ← fetch user Vmblok.ioPending
  if waiting == 0 then
    return 0
  else
    let channels ← enabledChannels user psw processorStatus
    return (waiting.toUInt32 <<< 16) &&& channels &&& 0xffff0000

/-- Takes the exit for a user that nothing but its own wait state keeps from being dispatched. -/
def exitByPsw (user exits : UInt32) (psw : Psw) : Microcode Completion := do
  let status := (← fetch user Vmblok.runStatus) &&& ~~~(Vmblok.waitsByPsw ||| Vmblok.idle)
  if psw.isWait then
    store user Vmblok.runStatus (status ||| Vmblok.waitsByPsw)
    exitFor user exits .virtualWait
  else
    store user Vmblok.runStatus status
    exitFor user exits .dispatch

/-- Takes the exit for a user whose time has been charged. -/
def reflect (user exits : UInt32) : Microcode Completion := do
  if ← testBits user Vmblok.runStatus Vmblok.waitsForCp then
    exitFor user exits .waitsForCp
  else if ← testBits user Vmblok.pending (Vmblok.eventPending ||| Vmblok.pagePending) then
    exitFor user exits .eventOrPage
  else
    let psw ← fetch user Vmblok.psw
    let processorStatus ← fetch user Vmblok.processorStatus
    match ← externalInterruption user psw processorStatus with
    | some interruption =>
        setGeneral 4 interruption.subclasses.toUInt32
        setGeneral 5 interruption.link
        setGeneral 6 interruption.block
        exitFor user exits .external
    | none =>
        let channels ← ioInterruptions user psw processorStatus
        if channels != 0 then
          setGeneral 7 channels
          exitFor user exits .io
        else
          exitByPsw user exits psw

/-- Takes the exit for the user that was running. An I/O interruption of a user whose dispatch is
still in force leaves nothing to reconsider. -/
def exitRunning (user exits : UInt32) : Microcode Completion := do
  let status ← fetch user Vmblok.dispatchStatus
  let ioOld ← fetch PrefixArea.base PrefixArea.ioOldMask
  if ioOld &&& Psw.translationMask != 0 && status &&& Vmblok.dispatched != 0 then
    exitFor user exits .clean
  else
    reflect user exits

/-- Charges the running user and takes the exit for the user that the dispatcher is entered for. -/
def selectExit (list exits : UInt32) : Microcode Completion := do
  let user ← currentUser
  let status ← fetch PrefixArea.base PrefixArea.cpStatus
  if status &&& PrefixArea.cpRuns != 0 then
    match ← chargeRunTime user list exits with
    | .left completion => pure completion
    | .goesOn user => exitRunning user exits
  else if status &&& PrefixArea.cpWaits != 0 then
    takeExit exits EntryExit.cpWait.place
  else
    reflect user exits

/-- Enters the dispatcher and counts the entry. -/
def enter (list exits : UInt32) : Microcode Completion := do
  let entries ← fetch list EntryList.entries
  let completion ← selectExit list exits
  store list EntryList.entries (entries + 1)
  return completion

end Assist370.Dispatcher
