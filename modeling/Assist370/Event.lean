import Assist370.Decline

/-!
# The log

What the facility reports of its work beyond the outcome of each assist: why an assist declined,
which check refused a change, and what it found amiss. Each event has one line in the log.
-/

namespace Assist370

/-- The importance of an event. -/
inductive Severity where
  | trace
  | debug
  | warning
  deriving DecidableEq, Repr

namespace Severity

/-- The word that opens the line of an event. -/
def name : Severity → String
  | trace => "TRACE"
  | debug => "DEBUG"
  | warning => "WARN"

end Severity

/-- Something worth a line in the log. -/
inductive Event where
  /-- An assist declined; `debugging` says whether its debug switch was on. -/
  | declined (reason : Decline) (debugging : Bool)
  /-- A virtual PSW change was refused. -/
  | transitionRejected (reject : TransitionReject)
  /-- A control register load was refused. -/
  | loadRejected (reject : LoadReject)
  /-- A block of stacked work could not be returned to free storage by the assist. -/
  | releaseLeft (reason : Decline)
  /-- A virtual interval timer interruption was held back. -/
  | timerHeldBack (refusal : TimerRefusal)
  /-- The interval timer ran backwards. -/
  | timerBackwards
  /-- The user's segment tables are invalid although virtual control register 0 is new. -/
  | segmentTablesInvalid
  /-- The facility reports a level other than the one it supports. -/
  | unsupportedLevel
  deriving DecidableEq, Repr

namespace Event

/-- The importance of the event. -/
def severity : Event → Severity
  | declined _ debugging => if debugging then .debug else .trace
  | transitionRejected _ | loadRejected _ | releaseLeft _ => .trace
  | timerHeldBack _ => .debug
  | timerBackwards | segmentTablesInvalid | unsupportedLevel => .warning

/-- The event in words. -/
def message : Event → String
  | declined reason _ => "assist declined: " ++ reason.message
  | transitionRejected reject => "virtual PSW transition rejected: " ++ reject.message
  | loadRejected reject => "LCTL rejected: " ++ reject.message
  | releaseLeft reason => "CPEXBLOK release left to software: " ++ reason.message
  | timerHeldBack refusal => "virtual timer interruption check: " ++ refusal.message
  | timerBackwards => "interval timer went backwards"
  | segmentTablesInvalid => "segment tables invalid with new CR0"
  | unsupportedLevel => "reported ECPS:VM level is not the supported level"

/-- The line of the event in the log. -/
def line (event : Event) : String :=
  event.severity.name ++ " " ++ event.message

end Event

end Assist370
