import Assist370.Dispatcher.Basic

/-!
# Departure of a user

The user in general register 11 leaves the processor. The scheduler has to look at the user, unless
nothing has changed for it or the user is being logged off already.
-/

namespace Assist370.Dispatcher

open Microcode

/-- What follows the departure of a user. -/
inductive Departure where
  /-- An exit has been taken. -/
  | left (completion : Completion)
  /-- The next user is dispatched at once. -/
  | dispatchNext
  deriving DecidableEq, Repr

/-- Whether a user's status is such that the scheduler has nothing to do. -/
def skipsScheduler (user list : UInt32) : Microcode Bool := do
  let status ← fetch user Vmblok.statusWord
  let mask ← fetch list DispatchList.statusMask
  let expected ← fetch list DispatchList.statusMatch
  if status &&& mask == expected then
    return true
  else
    return user == (← fetchAddress PrefixArea.base PrefixArea.systemUser)

/-- Sees to a user that is to be logged off: the order is taken note of, and the first time the
logoff exit is taken. -/
def logOff (user exits : UInt32) (operating queue : UInt8) : Microcode Departure := do
  store user Vmblok.queueStatus (queue &&& ~~~Vmblok.consoleRead)
  store user Vmblok.operatingStatus (operating &&& ~~~Vmblok.killed)
  let run ← fetch user Vmblok.runStatus
  if run &&& Vmblok.loggingOff != 0 then
    return .dispatchNext
  else
    store user Vmblok.runStatus (run ||| Vmblok.loggingOff)
    return .left (← takeExit exits DispatchExit.logoff.place)

/-- Takes a user off the processor. -/
def depart (list exits : UInt32) : Microcode Departure := do
  let user ← currentUser
  if ← skipsScheduler user list then
    return .dispatchNext
  else
    let operating ← fetch user Vmblok.operatingStatus
    if operating &&& Vmblok.killed == 0 then
      return .left (← takeExit exits DispatchExit.schedule.place)
    else
      let queue ← fetch user Vmblok.queueStatus
      if queue &&& Vmblok.consoleRead == 0 && operating &&& Vmblok.consoleFunction != 0 then
        return .left (← takeExit exits DispatchExit.schedule.place)
      else
        logOff user exits operating queue

end Assist370.Dispatcher
