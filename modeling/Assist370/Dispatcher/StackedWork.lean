import Assist370.ControlProgram.FreeStorage
import Assist370.Dispatcher.Basic

/-!
# Stacked work

Routines of the control program stack work for the dispatcher on two rings: timer and I/O requests,
and execution requests with a full set of registers. The first block is taken off its ring, its
user is charged, and its routine is branched to. The block of an execution request goes back to
free storage at once, or is left to software to return.
-/

namespace Assist370.Dispatcher

open Microcode

/-- Takes a block off its ring. -/
def unlink (block : UInt32) (next previous : Field UInt32) : Microcode Unit := do
  let forward ← fetchAddress block next
  let backward ← fetchAddress block previous
  store backward next forward
  store forward previous backward

/-- Takes a block off the count of a user's stacked work and starts charging the user. -/
def unstack (user : UInt32) : Microcode Unit := do
  let count ← fetch user Vmblok.stackCount
  store user Vmblok.stackCount (count - 1)
  startCharging user

/-- Runs the routine of a timer or I/O request. -/
def runRequest (block : UInt32) : Microcode Completion := do
  unlink block Trqblok.next Trqblok.previous
  let user ← fetchAddress block Trqblok.user
  unstack user
  store PrefixArea.base PrefixArea.stackUser user
  let routine ← fetch block Trqblok.routine
  setGeneral 10 block
  setGeneral 11 user
  setGeneral 12 routine
  branch routine
  return .completed

/-- Loads the registers of an execution request and branches to its routine. -/
def enterRoutine (saved : Vector UInt32 15) (routine : UInt32) : Microcode Completion := do
  modify fun cpu => { cpu with general := saved.push routine }
  branch routine
  return .completed

/-- Leaves the return of an execution request's block to software. General registers 12 to 1 of the
routine go to a save area, and registers 0 and 1 say what to return. -/
def leaveRelease (list exits block routine : UInt32) (saved : Vector UInt32 15) :
    Microcode Completion := do
  modify fun cpu =>
    { cpu with
      general := #v[Cpexblok.doublewords.toUInt32, block, saved[2], saved[3], saved[4], saved[5],
        saved[6], saved[7], saved[8], saved[9], saved[10], saved[11],
        cpu.general.read 12, cpu.general.read 13, cpu.general.read 14, cpu.general.read 15] }
  storeRow list DispatchList.saveArea
    [saved[12], saved[13], saved[14], routine, saved[0], saved[1]]
  takeExit exits DispatchExit.releaseLeft.place

/-- Runs the routine of an execution request. -/
def runExecution (list exits block : UInt32) : Microcode Completion := do
  unlink block Cpexblok.next Cpexblok.previous
  let saved ← fetchRow block Cpexblok.registers 15
  unstack (Address.wrap saved[11])
  let routine ← fetch block Cpexblok.routine
  let sizeTable ← fetchAddress list DispatchList.sizeTable
  let releaseList ← fetchAddress list DispatchList.releaseList
  match ← (FreeStorage.release block Cpexblok.doublewords sizeTable releaseList).attempt with
  | .ok () => enterRoutine saved routine
  | .error reason =>
      log (.releaseLeft reason)
      leaveRelease list exits block routine saved

end Assist370.Dispatcher
