import Assist370.Callouts
import Assist370.Journal
import Assist370.Microcode

/-!
# Execution of microcode

An assist works on a copy of the registers and stores into a journal, while the machine is only
read. `Microcode.run` says what a program does to this staging area, and `run_bind` that a program
in two parts does first the one and then the other.
-/

namespace Assist370

/-- What an assist has done so far. -/
structure Staging (Machine : Type) where
  machine : Machine
  /-- The registers as the assist has changed them. -/
  cpu : Cpu
  /-- The bytes that the assist has stored. -/
  journal : Journal := Journal.empty
  /-- The translation lookaside buffer is to be emptied. -/
  purge : Bool := false
  /-- The CPU timer has been set. -/
  timerSet : Bool := false
  /-- Registers for the software path in case the assist declines. -/
  handOffs : List (RegisterNumber × UInt32) := []
  /-- The events of the assist in their order. -/
  log : List Event := []

/-- How the program of an assist ends. -/
inductive Ending (Refusal α : Type) where
  | done (value : α)
  | declined (reason : Decline)
  | failed (error : AccessError Refusal)
  deriving DecidableEq

section

variable {Machine Refusal : Type} (callouts : Callouts Machine Refusal)

/-- Fetches bytes that lie within the address space. -/
def Journal.fetchRun (journal : Journal) (address : UInt32) (length : Nat) (machine : Machine) :
    Except (AccessError Refusal) (Bytes length) × Machine :=
  match callouts.readReal address length machine with
  | (.ok bytes, machine) => (.ok (journal.overlay address bytes), machine)
  | (.error refusal, machine) => (.error (.storage address .read refusal), machine)

/-- Fetches bytes from an address on, where the byte behind the last address is that at address
zero. -/
def Journal.fetch (journal : Journal) (address : UInt32) (length : Nat) (machine : Machine) :
    Except (AccessError Refusal) (Bytes length) × Machine :=
  let start := Address.wrap address
  let room := Address.space - start.toNat
  if fits : length ≤ room then
    journal.fetchRun callouts start length machine
  else
    have inSpace : start.toNat < Address.space := Address.wrap_lt address
    have shorter : length - room < length := by omega
    match journal.fetchRun callouts start room machine with
    | (.error error, machine) => (.error error, machine)
    | (.ok low, machine) =>
        match journal.fetch 0 (length - room) machine with
        | (.error error, machine) => (.error error, machine)
        | (.ok high, machine) => (.ok ((low ++ high).cast (by omega)), machine)
termination_by length
decreasing_by exact shorter

/-- What an action answers and does to the staging area. -/
def Action.run (action : Action) (staging : Staging Machine) :
    Except (AccessError Refusal) action.Answer × Staging Machine :=
  match action with
  | .fetch address length =>
      let (answer, machine) := staging.journal.fetch callouts address length staging.machine
      (answer, { staging with machine })
  | .store address bytes =>
      (.ok (), { staging with journal := staging.journal.store address bytes })
  | .storageKey address =>
      let real := Address.wrap address
      match callouts.storageKey real staging.machine with
      | (.ok key, machine) => (.ok key, { staging with machine })
      | (.error refusal, machine) =>
          (.error (.storageKey real refusal), { staging with machine })
  | .translate address =>
      let virtual := Address.wrap address
      let control := staging.cpu.control
      match callouts.translate (control.read 0) (control.read 1) virtual staging.machine with
      | (.ok real, machine) => (.ok (real.map Address.wrap), { staging with machine })
      | (.error refusal, machine) =>
          (.error (.translation virtual refusal), { staging with machine })
  | .registers => (.ok staging.cpu, staging)
  | .modify change => (.ok (), { staging with cpu := change staging.cpu })
  | .setTimer value =>
      (.ok (), { staging with cpu := { staging.cpu with cpuTimer := value }, timerSet := true })
  | .purgeTlb => (.ok (), { staging with purge := true })
  | .handOff register value =>
      (.ok (), { staging with handOffs := staging.handOffs ++ [(register, value)] })
  | .log event => (.ok (), { staging with log := staging.log ++ [event] })

/-- Runs a program on a staging area. -/
def Microcode.run {α : Type} :
    Microcode α → Staging Machine → Ending Refusal α × Staging Machine
  | .done value, staging => (.done value, staging)
  | .decline reason, staging => (.declined reason, staging)
  | .act action next, staging =>
      match action.run callouts staging with
      | (.ok answer, staging) => (next answer).run staging
      | (.error error, staging) => (.failed error, staging)

theorem Microcode.run_bind {α β : Type} (program : Microcode α) (next : α → Microcode β)
    (staging : Staging Machine) :
    (program.bind next).run callouts staging =
      match program.run callouts staging with
      | (.done value, staging) => (next value).run callouts staging
      | (.declined reason, staging) => (.declined reason, staging)
      | (.failed error, staging) => (.failed error, staging) := by
  induction program generalizing staging with
  | done value => rfl
  | decline reason => rfl
  | act action answer ih =>
      simp only [Microcode.bind, Microcode.run]
      split
      · exact ih _ _
      · rfl

end

end Assist370
