import Assist370.Execution

/-!
# Completion of an assist

When an assist completes, its journal goes to storage and its registers become those of the
processor. Every run of the journal is fetched once before any of them is stored, so that an
inaccessible one is found while nothing has changed.
-/

namespace Assist370

section

variable {Machine Refusal : Type} (callouts : Callouts Machine Refusal)

namespace Journal.Run

/-- Fetches each run, as a test of its accessibility. -/
def probeAll : List Run → Machine → Except (AccessError Refusal) Unit × Machine
  | [], machine => (.ok (), machine)
  | run :: runs, machine =>
      match callouts.readReal run.start run.bytes.length machine with
      | (.ok _, machine) => probeAll runs machine
      | (.error refusal, machine) => (.error (.storage run.start .write refusal), machine)

/-- Stores each run. -/
def writeAll : List Run → Machine → Except (AccessError Refusal) Unit × Machine
  | [], machine => (.ok (), machine)
  | run :: runs, machine =>
      match callouts.writeReal run.start run.bytes machine with
      | (.ok _, machine) => writeAll runs machine
      | (.error refusal, machine) => (.error (.storage run.start .write refusal), machine)

end Journal.Run

namespace Staging

/-- The registers that a completed assist leaves. Setting the CPU timer decides anew whether its
interruption is pending. -/
def committedCpu (staging : Staging Machine) : Cpu :=
  if staging.timerSet then
    { staging.cpu with timerPending := staging.cpu.cpuTimer < 0 }
  else
    staging.cpu

/-- Completes an assist: the registers that it leaves, and the machine. -/
def commit (staging : Staging Machine) : Except (AccessError Refusal) Cpu × Machine :=
  let runs := staging.journal.runs
  match Journal.Run.probeAll callouts runs staging.machine with
  | (.error error, machine) => (.error error, machine)
  | (.ok (), machine) =>
      match Journal.Run.writeAll callouts runs machine with
      | (.error error, machine) => (.error error, machine)
      | (.ok (), machine) =>
          (.ok staging.committedCpu,
            if staging.purge then callouts.purgeTlb machine else machine)

end Staging

end

end Assist370
