import Assist370.Dispatcher.Departure
import Assist370.Dispatcher.StackedWork
import Assist370.Dispatcher.UserLoad

/-!
# Selection of what runs next

Stacked work of the control program comes first, then the first user in the queue that can run.
-/

namespace Assist370.Dispatcher

open Microcode

/-- Whether a user can run: its virtual PSW is no wait PSW, the scheduler lets it run, and it waits
for nothing. -/
def isRunnable (user : UInt32) : Microcode Bool := do
  if (← fetch user Vmblok.psw).isWait then
    return false
  else if !(← testBits user Vmblok.dispatchStatus Vmblok.mayRun) then
    return false
  else
    return !(← testBits user Vmblok.runStatus Vmblok.waitsForCp)

/-- The first user that can run in a queue that leads back to its anchor. -/
def firstRunnable (anchor : UInt32) : Nat → UInt32 → Microcode (Option UInt32)
  | 0, user => if user == anchor then pure none else decline .inQueueEndless
  | limit + 1, user =>
      if user == anchor then
        pure none
      else do
        if ← isRunnable user then
          return some user
        else
          firstRunnable anchor limit (← fetchAddress user Vmblok.nextInQueue)

/-- Dispatches the first user that can run, or takes the idle exit. -/
def dispatchFirst (list exits systemUser : UInt32) : Microcode Completion := do
  let anchor ← fetchAddress list DispatchList.inQueue
  let first ← fetchAddress anchor Field.first
  match ← firstRunnable anchor chainLimit first with
  | some user => dispatchUser list exits user systemUser
  | none => takeExit exits DispatchExit.idle.place

/-- Runs stacked work, or else dispatches a user. Declines while the system is not in its normal
state. -/
def select (list exits : UInt32) : Microcode Completion := do
  stopCharging (← currentUser)
  let extendLock ← fetch PrefixArea.base PrefixArea.extendLock
  require (extendLock != PrefixArea.lockHeld) .systemExtend
  let recovering ←
    testBits PrefixArea.base PrefixArea.processorStatus PrefixArea.machineCheckRecovery
  require (!recovering) .machineCheckRecovery
  let systemUser ← fetchAddress PrefixArea.base PrefixArea.systemUser
  let request ← fetchAddress list DispatchList.requestQueue
  if request != list then
    runRequest request
  else
    let execution ← fetchAddress list DispatchList.executionQueue
    if execution != list then
      runExecution list exits execution
    else if ← testBits PrefixArea.base PrefixArea.cpStatus2 PrefixArea.sharedLock then
      takeExit exits DispatchExit.idle.place
    else
      dispatchFirst list exits systemUser

/-- Takes a user off the processor and, unless an exit is taken, selects what runs next. -/
def departAndSelect (list exits : UInt32) : Microcode Completion := do
  match ← depart list exits with
  | .left completion => pure completion
  | .dispatchNext => select list exits

end Assist370.Dispatcher
