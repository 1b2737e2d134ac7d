import Assist370.Commit
import Assist370.ControlProgram.DeviceLookup
import Assist370.ControlProgram.FreeStorage
import Assist370.ControlProgram.PageLock
import Assist370.Dispatcher.Entry
import Assist370.Dispatcher.Selection
import Assist370.Gate
import Assist370.VirtualMachine.LoadControl
import Assist370.VirtualMachine.PswChange

/-!
# The assist facility

A processor model calls the facility for each instruction that an assist may perform. The assist
passes the gate of its class, works on a staging area, and then either completes, with all its
effects at once, or leaves the instruction to software.
-/

namespace Assist370

/-- An instruction for an assist, with its operands. -/
inductive Request where
  /-- SET SYSTEM MASK from the byte at a logical address. -/
  | ssm (address : UInt32)
  /-- SUPERVISOR CALL with a code. -/
  | svc (code : UInt8)
  /-- LOAD PSW from the doubleword at a logical address. -/
  | lpsw (address : UInt32)
  /-- LOAD CONTROL from the words at a logical address. -/
  | lctl (first last : RegisterNumber) (address : UInt32)
  /-- Store the level of the facility. -/
  | stevl (address : UInt32)
  /-- Obtain free storage by a size table and an index table. -/
  | freex (sizeTable indexTable : UInt32)
  /-- Return free storage by a size table and a release list. -/
  | fretx (sizeTable releaseList : UInt32)
  /-- Lock a page, given where the address of the core table lies. -/
  | lckpg (pointer page : UInt32)
  /-- Unlock a page, given the parameters of unlocking. -/
  | ulkpg (parameters page : UInt32)
  /-- Translate an address and branch. -/
  | trbrg (pointer target : UInt32)
  /-- Translate an address, lock its page and branch. -/
  | trlok (pointer target : UInt32)
  /-- Look up a virtual device by the channel index table and the bases of the blocks. -/
  | scnvu (indexTable bases : UInt32)
  /-- Look up a real device by its number and the tables of the configuration. -/
  | scnru (device tables : UInt32)
  /-- Enter the dispatcher. -/
  | disp0 (list exits : UInt32)
  /-- Take a user off the processor and select what runs next. -/
  | disp1 (list exits : UInt32)
  /-- Select what runs next. -/
  | disp2 (list exits : UInt32)
  /-- An assist that is declared without being performed. -/
  | unassisted (assist : Assist)
  deriving DecidableEq, Repr

/-- The program of an assist, by the gate that it stands behind. -/
inductive AssistProgram where
  | controlProgram (body : Microcode Completion)
  | virtualMachine (body : GuestContext → Microcode Completion)

namespace Request

/-- The assist that an instruction is for. -/
def assist : Request → Assist
  | ssm _ => .ssm
  | svc _ => .svc
  | lpsw _ => .lpsw
  | lctl .. => .lctl
  | stevl _ => .stevl
  | freex .. => .freex
  | fretx .. => .fretx
  | lckpg .. => .lckpg
  | ulkpg .. => .ulkpg
  | trbrg .. => .trbrg
  | trlok .. => .trlok
  | scnvu .. => .scnvu
  | scnru .. => .scnru
  | disp0 .. => .disp0
  | disp1 .. => .disp1
  | disp2 .. => .disp2
  | unassisted assist => assist

/-- The program of an assist that is declared without being performed. -/
def decliningProgram : AssistClass → AssistProgram
  | .cp => .controlProgram (.decline .notSupported)
  | .vm => .virtualMachine fun _ => .decline .notSupported

/-- The program for an instruction, where `level` is the level that the facility reports. Operand
addresses of the control program's assists count by their low 24 bits. -/
def program (policy : Policy) (level : UInt32) : Request → AssistProgram
  | ssm address => .virtualMachine (GuestContext.setSystemMask policy address)
  | svc code => .virtualMachine (GuestContext.supervisorCall policy code)
  | lpsw address => .virtualMachine (GuestContext.loadPsw policy address)
  | lctl first last address =>
      .virtualMachine (GuestContext.loadControl policy first last address)
  | stevl address => .controlProgram (storeLevel level address)
  | freex sizeTable indexTable =>
      .controlProgram (FreeStorage.obtain (Address.wrap sizeTable) (Address.wrap indexTable))
  | fretx sizeTable releaseList =>
      .controlProgram (FreeStorage.giveBack (Address.wrap sizeTable) (Address.wrap releaseList))
  | lckpg pointer page =>
      .controlProgram (PageLock.lock (Address.wrap pointer) (Address.wrap page))
  | ulkpg parameters page =>
      .controlProgram (PageLock.unlock (Address.wrap parameters) (Address.wrap page))
  | trbrg pointer target =>
      .controlProgram (PageLock.translate policy (Address.wrap pointer) (Address.wrap target))
  | trlok pointer target =>
      .controlProgram
        (PageLock.translateAndLock policy (Address.wrap pointer) (Address.wrap target))
  | scnvu indexTable bases =>
      .controlProgram (DeviceLookup.scanVirtual (Address.wrap indexTable) (Address.wrap bases))
  | scnru device tables =>
      .controlProgram (DeviceLookup.scanReal (device &&& 0xfff) (Address.wrap tables))
  | disp0 list exits =>
      .controlProgram (Dispatcher.enter (Address.wrap list) (Address.wrap exits))
  | disp1 list exits =>
      .controlProgram (Dispatcher.departAndSelect (Address.wrap list) (Address.wrap exits))
  | disp2 list exits =>
      .controlProgram (Dispatcher.select (Address.wrap list) (Address.wrap exits))
  | unassisted assist => decliningProgram assist.family

end Request

/-- The outcome of an instruction for an assist. -/
inductive Outcome where
  /-- The assist completed. -/
  | completed
  /-- The assist completed and a virtual machine has been dispatched. -/
  | dispatched
  /-- The assist left the instruction to software. -/
  | declined
  /-- The facility is not installed, and the instruction does not exist. -/
  | operationException
  deriving DecidableEq, Repr

namespace Completion

/-- The outcome of an assist that completes in a way. -/
def outcome : Completion → Outcome
  | completed => .completed
  | dispatched => .dispatched

end Completion

/-- The facility with a processor and the machine that it belongs to. -/
structure System (Machine : Type) where
  registry : Registry
  cpu : Cpu
  machine : Machine

/-- What an instruction for an assist comes to. -/
structure Response (Machine Refusal : Type) where
  result : Except (AccessError Refusal) Outcome
  log : List Event
  system : System Machine

namespace System

variable {Machine Refusal : Type}

/-- Leaves an instruction to software. -/
def decline (system : System Machine) (assist : Assist) (reason : Decline)
    (log : List Event) : Response Machine Refusal where
  result := .ok .declined
  log := log ++ [.declined reason (system.registry.isDebug assist)]
  system

/-- Settles an assist whose program has run on a staging area. The processor and the registry of
`system` are those before the program. -/
def settle (callouts : Callouts Machine Refusal) (system : System Machine) (assist : Assist) :
    Ending Refusal Completion × Staging Machine → Response Machine Refusal
  | (.failed error, staging) =>
      { result := .error error
        log := staging.log
        system := { system with machine := staging.machine } }
  | (.declined reason, staging) =>
      let cpu := staging.handOffs.foldl
        (fun cpu handOff => cpu.setGeneral handOff.1 handOff.2) system.cpu
      { system with cpu, machine := staging.machine }.decline assist reason staging.log
  | (.done completion, staging) =>
      match staging.commit callouts with
      | (.error error, machine) =>
          { result := .error error
            log := staging.log
            system := { system with machine } }
      | (.ok cpu, machine) =>
          { result := .ok completion.outcome
            log := staging.log
            system := { registry := system.registry.recordHit assist, cpu, machine } }

/-- Performs an assist of the control program. -/
def performControlProgram (callouts : Callouts Machine Refusal) (system : System Machine)
    (assist : Assist) (body : Microcode Completion) : Response Machine Refusal :=
  match system.registry.cpGate assist system.cpu with
  | .declined reason => system.decline assist reason []
  | .operationException => { result := .ok .operationException, log := [], system }
  | .passed =>
      let system := { system with registry := system.registry.recordCall assist }
      system.settle callouts assist
        (body.run callouts { machine := system.machine, cpu := system.cpu })

/-- Performs an assist of a virtual machine whose gate has been passed. The address of the virtual
interval timer, once looked up, holds whether the assist completes or not. -/
def performForGuest (callouts : Callouts Machine Refusal) (system : System Machine)
    (assist : Assist) (body : GuestContext → Microcode Completion) :
    Response Machine Refusal :=
  let (ending, staging) := GuestContext.lookUp.run callouts
    { machine := system.machine, cpu := system.cpu }
  let cpu := { system.cpu with virtualTimerAddress := staging.cpu.virtualTimerAddress }
  let system := { system with cpu }
  match ending with
  | .done context => system.settle callouts assist ((body context).run callouts staging)
  | .declined reason => system.settle callouts assist (.declined reason, staging)
  | .failed error => system.settle callouts assist (.failed error, staging)

/-- Performs an assist of a virtual machine. From the first part of its gate on, the virtual
interval timer has no address until it is looked up again. -/
def performVirtualMachine (callouts : Callouts Machine Refusal) (system : System Machine)
    (assist : Assist) (body : GuestContext → Microcode Completion) :
    Response Machine Refusal :=
  match system.registry.guestRefusal? assist system.cpu with
  | some reason => system.decline assist reason []
  | none =>
      let system := { system with cpu := { system.cpu with virtualTimerAddress := none } }
      match system.cpu.assistControl.guestRefusal? with
      | some reason => system.decline assist reason []
      | none =>
          let system := { system with registry := system.registry.recordCall assist }
          system.performForGuest callouts assist body

/-- Performs an instruction for an assist. -/
def perform (policy : Policy) (callouts : Callouts Machine Refusal) (system : System Machine)
    (request : Request) : Response Machine Refusal :=
  match request.program policy system.registry.level with
  | .controlProgram body => system.performControlProgram callouts request.assist body
  | .virtualMachine body => system.performVirtualMachine callouts request.assist body

end System

namespace Cpu

/-- Why a virtual interval timer interruption cannot be presented to the running virtual machine
without the control program. -/
def timerRefusal? (cpu : Cpu) : Option TimerRefusal :=
  if cpu.virtualTimerPending then
    some .alreadyPending
  else if !cpu.psw.isProblemState then
    some .noVirtualMachine
  else if !cpu.psw.externalEnabled then
    some .externalDisabled
  else if !cpu.assistControl.virtualTimer then
    some .timerAssistOff
  else
    none

/-- Whether a virtual interval timer interruption can be presented to the running virtual machine
without the control program. -/
def timerInterruptionAllowed (cpu : Cpu) : Bool :=
  cpu.timerRefusal?.isNone

end Cpu

/-- What is logged when the virtual interval timer interruption is asked about: the refusal, while
the timer's assist is being debugged. -/
def Registry.timerEvents (registry : Registry) (cpu : Cpu) : List Event :=
  if registry.isDebug .vtimer then
    (cpu.timerRefusal?.map Event.timerHeldBack).toList
  else
    []

end Assist370
