import Assist370.Dispatcher.Basic

/-!
# Charging run time

When the dispatcher is entered while a user runs, the time since that user was dispatched is
charged: to the user's total time, to the problem time of the system, to the time slice, and to the
user's virtual interval timer unless an assist keeps it.
-/

namespace Assist370.Dispatcher

open Microcode

/-- What is left to do after run time has been charged. -/
inductive Charged where
  /-- The dispatcher goes on with the user that was running. -/
  | goesOn (user : UInt32)
  /-- An exit has been taken. -/
  | left (completion : Completion)
  deriving DecidableEq, Repr

/-- The bits of a time that count for the end of a user's slice. -/
def sliceUnits : UInt64 := ~~~0xffffff

/-- General register 4 for a virtual interval timer interruption: the external interruption code and
the subclass. -/
def timerInterruptionCode : UInt32 := 0x00800080

/-- Notes in a user's dispatch status that a stretch of time has ended. -/
def noteEnd (user : UInt32) (flag : UInt8) : Microcode Unit := do
  let status ← fetch user Vmblok.dispatchStatus
  store user Vmblok.dispatchStatus ((status &&& ~~~Vmblok.dispatched) ||| flag)

/-- Takes the problem time not yet accounted for out of the problem time of the system. -/
def chargeProblemTime (user : UInt32) : Microcode Unit := do
  let now ← fetch user Vmblok.problemTime
  let start ← fetch PrefixArea.base PrefixArea.problemStart
  if now == start then
    pure ()
  else
    let total ← fetch PrefixArea.base PrefixArea.problemTime
    store PrefixArea.base PrefixArea.problemTime (total - (start - now))

/-- The address of a user's virtual interval timer: that in its storage, or that in its VMBLOK while
its page is not resident. -/
def intervalTimerAddress (user : UInt32) : Microcode UInt32 := do
  let control1 := (← registers).control.read 1
  let segmentTable ← fetch user Vmblok.segmentTable
  modify fun cpu => cpu.setControl 1 segmentTable
  let translated ← loadRealAddress PrefixArea.intervalTimer.offset
  modify fun cpu => cpu.setControl 1 control1
  match translated with
  | .ok real => pure real
  | .error _ => pure (user + Vmblok.intervalTimer.offset)

/-- Counts down a user's virtual interval timer. If its sign changes, the timer interruption's exit
is taken. -/
def countDown (user elapsed list exits : UInt32) : Microcode Charged := do
  let timer ← intervalTimerAddress user
  let old ← fetch timer Field.first
  let new := old - elapsed
  store timer Field.first new
  if (old ^^^ new) &&& signBit != 0 then
    let register9 ← fetch list EntryList.timerRegister9
    setGeneral 3 0
    setGeneral 4 timerInterruptionCode
    setGeneral 9 register9
    setGeneral 11 user
    clearBits user Vmblok.dispatchStatus Vmblok.dispatched
    return .left (← takeExit exits EntryExit.timerInterruption.place)
  else
    return .goesOn user

/-- Charges the virtual interval timer of a user, unless an assist keeps it or none runs. `previous`
is the rest of the time slice at the user's dispatch. -/
def chargeIntervalTimer (user previous list exits : UInt32) : Microcode Charged := do
  if ← testBits user Vmblok.assistFlags AssistControl.virtualTimerFlag then
    return .goesOn user
  else if !(← testBits user Vmblok.timerLevel Vmblok.timerRuns) then
    return .goesOn user
  else
    let elapsed := previous - (← fetch PrefixArea.base PrefixArea.quantumLeft)
    if elapsed &&& signBit != 0 then
      log .timerBackwards
      return .left (← takeExit exits EntryExit.badTimer.place)
    else
      countDown user elapsed list exits

/-- Charges the time since the last dispatch, when the dispatcher is entered for a user that need
not be the running one. -/
def chargeRunTime (user list exits : UInt32) : Microcode Charged := do
  let runUser ← fetchAddress PrefixArea.base PrefixArea.runUser
  store PrefixArea.base PrefixArea.cpStatus PrefixArea.cpExecutes
  stopCharging user
  let interval ←
    if user != runUser then do
      startCharging runUser
      fetch PrefixArea.base PrefixArea.quantumLeft
    else
      fetch PrefixArea.base PrefixArea.intervalTimer
  if interval &&& signBit != 0 then
    noteEnd runUser Vmblok.sliceEnded
  let total ← fetch runUser Vmblok.totalTime
  let sliceEnd ← fetch runUser Vmblok.sliceEnd
  if total &&& sliceUnits ≤ sliceEnd &&& sliceUnits then
    noteEnd runUser Vmblok.queueEnded
  chargeProblemTime runUser
  let previous ← fetch PrefixArea.base PrefixArea.quantum
  store PrefixArea.base PrefixArea.quantum interval
  chargeIntervalTimer runUser previous list exits

end Assist370.Dispatcher
