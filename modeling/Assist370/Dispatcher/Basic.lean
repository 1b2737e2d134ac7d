import Assist370.Layout
import Assist370.Microcode.Logical
import Assist370.VirtualMachine.Context

/-!
# The control program's dispatcher

The dispatcher runs stacked work of the control program and virtual machines, each in turn. Its
assists leave through lists of exits, charge the CPU timer to users, and walk chains of blocks,
which they give up after a limit.
-/

namespace Assist370.Dispatcher

open Microcode

/-- The exits of the dispatcher's entry, where the user in general register 11 is looked at. -/
inductive EntryExit where
  /-- The user can be dispatched. -/
  | dispatch
  /-- The control program was waiting. -/
  | cpWait
  /-- The virtual interval timer has run out. -/
  | timerInterruption
  /-- The user waits for the control program. -/
  | waitsForCp
  /-- An event recording interruption or page fault is pending. -/
  | eventOrPage
  /-- An external interruption can be presented to the user. -/
  | external
  /-- An I/O interruption can be presented to the user. -/
  | io
  /-- The user's virtual PSW is a wait PSW. -/
  | virtualWait
  /-- The interval timer ran backwards. -/
  | badTimer
  /-- The user was interrupted with its status clean. -/
  | clean
  deriving DecidableEq, Repr

namespace EntryExit

/-- The place of the exit in the list. -/
def place : EntryExit → Field UInt32
  | dispatch => ⟨0⟩
  | cpWait => ⟨4⟩
  | timerInterruption => ⟨8⟩
  | waitsForCp => ⟨12⟩
  | eventOrPage => ⟨16⟩
  | external => ⟨20⟩
  | io => ⟨24⟩
  | virtualWait => ⟨28⟩
  | badTimer => ⟨32⟩
  | clean => ⟨36⟩

end EntryExit

/-- The exits of the dispatcher's departure and selection phases. -/
inductive DispatchExit where
  /-- The user is to be logged off. -/
  | logoff
  /-- The scheduler has to look at the user. -/
  | schedule
  /-- The block of stacked work has to be returned by software. -/
  | releaseLeft
  /-- There is nothing to run. -/
  | idle
  /-- The system is in error. -/
  | abend
  deriving DecidableEq, Repr

namespace DispatchExit

/-- The place of the exit in the list. -/
def place : DispatchExit → Field UInt32
  | logoff => ⟨0⟩
  | schedule => ⟨4⟩
  | releaseLeft => ⟨12⟩
  | idle => ⟨24⟩
  | abend => ⟨28⟩

end DispatchExit

namespace EntryList

/-- How often the dispatcher was entered. -/
def entries : Field UInt32 := ⟨0⟩

/-- General register 9 for a virtual interval timer interruption. -/
def timerRegister9 : Field UInt32 := ⟨4⟩

end EntryList

namespace DispatchList

/-- The first of the execution requests, in a ring that starts at the list itself. -/
def executionQueue : Field UInt32 := ⟨0⟩

/-- The first of the timer and I/O requests, in a ring that starts at the list itself. -/
def requestQueue : Field UInt32 := ⟨8⟩

/-- The length of a time slice. -/
def slice : Field UInt32 := ⟨16⟩

/-- The anchor of the queue of users that may run. -/
def inQueue : Field UInt32 := ⟨24⟩

/-- The size table of free storage. -/
def sizeTable : Field UInt32 := ⟨28⟩

/-- The list that a release of free storage works by. -/
def releaseList : Field UInt32 := ⟨32⟩

/-- Where general registers 12 to 1 are saved while software releases a block. -/
def saveArea : Field UInt32 := ⟨40⟩

/-- The status bits that are compared to skip the scheduler. -/
def statusMask : Field UInt32 := ⟨64⟩

/-- What the compared status bits have to be for the scheduler to be skipped. -/
def statusMatch : Field UInt32 := ⟨68⟩

end DispatchList

/-- How many blocks of a chain are looked at before it is given up. -/
def chainLimit : Nat := 0x10000

/-- The sign bit of a word. -/
def signBit : UInt32 := 0x80000000

/-- Sets the CPU timer from a doubleword. -/
def setTimerFrom (block : UInt32) (field : Field UInt64) : Microcode Unit := do
  setTimer (← fetch block field).toInt64

/-- Stops charging a user: the CPU timer goes to the user's total time. -/
def stopCharging (user : UInt32) : Microcode Unit := do
  store user Vmblok.totalTime (← registers).cpuTimer.toUInt64

/-- Starts charging a user: the user's total time goes to the CPU timer. -/
def startCharging (user : UInt32) : Microcode Unit :=
  setTimerFrom user Vmblok.totalTime

/-- Goes on at the address in an entry of a list of exits. -/
def takeExit (exits : UInt32) (place : Field UInt32) : Microcode Completion := do
  branch (← fetch exits place)
  return .completed

/-- The address in general register 11, where the dispatcher keeps its user. -/
def currentUser : Microcode UInt32 := do
  return Address.wrap (← general 11)

/-- A pending external interruption that is enabled. -/
structure EnabledInterruption where
  /-- The address of the word that points to the block. -/
  link : UInt32
  /-- The block. -/
  block : UInt32
  /-- The enabled subclasses. -/
  subclasses : UInt16
  deriving DecidableEq, Repr

/-- Finds the first block of a chain of pending external interruptions that has a subclass enabled
in virtual control register 0. `link` is the address of the word that points to `block`. -/
def findEnabled (control0 : UInt32) :
    Nat → UInt32 → UInt32 → Microcode (Option EnabledInterruption)
  | 0, _, block =>
      if block == 0 then pure none else decline .interruptionChainEndless
  | limit + 1, link, block =>
      if block == 0 then
        pure none
      else do
        let subclasses := (← fetch block Xintblok.subclasses) &&& control0.toUInt16
        if subclasses != 0 then
          return some { link, block, subclasses }
        else
          let next ← fetchAddress block Xintblok.next
          findEnabled control0 limit block next

end Assist370.Dispatcher
