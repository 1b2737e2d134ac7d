import Assist370.Proofs.ProgramFootprint

/-!
# Programs and the timers

Programs change the CPU timer by loading it and in no other way, they leave it to the completion
of the assist whether the timer's interruption is pending, and but for the look-up of the running
virtual machine they leave alone where its interval timer is noted to lie
(`Microcode.KeepsTimers`). Of the control program's assists only those for the dispatcher load the
CPU timer.
-/

namespace Assist370

/-- The action changes the CPU timer only by loading it, where it may do so, and leaves the flag of
the timer's interruption and the address of the virtual interval timer alone. -/
@[simp]
def Action.KeepsTimers (mayLoad : Bool) : Action → Prop
  | setTimer _ => mayLoad = true
  | modify change => ∀ cpu,
      (change cpu).cpuTimer = cpu.cpuTimer ∧ (change cpu).timerPending = cpu.timerPending ∧
        (change cpu).virtualTimerAddress = cpu.virtualTimerAddress
  | _ => True

/-- Whatever it is answered, the program changes the CPU timer only by loading it, where it may do
so, and leaves the flag of the timer's interruption and the address of the virtual interval timer
alone. -/
abbrev Microcode.KeepsTimers {α : Type} (mayLoad : Bool) (program : Microcode α) : Prop :=
  program.Takes (Action.KeepsTimers mayLoad)

open Microcode

variable {mayLoad : Bool}

@[simp]
theorem Action.keepsTimers_allowsLooks : AllowsLooks (KeepsTimers mayLoad) :=
  ⟨fun _ _ => trivial, fun _ => trivial, fun _ => trivial, trivial⟩

@[simp]
theorem Action.keepsTimers_allowsStores : AllowsStores (KeepsTimers mayLoad) :=
  fun _ _ => trivial

@[simp]
theorem Action.keepsTimers_allowsControls : AllowsControls (KeepsTimers mayLoad) :=
  fun _ same cpu => ⟨(same cpu).cpuTimer, (same cpu).timerPending, (same cpu).virtualTimerAddress⟩

@[simp]
theorem Action.keepsTimers_allowsRoutine : AllowsRoutine (KeepsTimers mayLoad) where
  fetch _ _ := trivial
  log _ := trivial
  modify change same := keepsTimers_allowsControls change fun cpu => (same cpu).toSameTimers

theorem Action.keepsTimers_allowsCharging : AllowsCharging (KeepsTimers true) where
  toAllowsRoutine := keepsTimers_allowsRoutine
  store := keepsTimers_allowsStores
  setTimer _ := rfl

namespace Request

/-- The instruction is one for the dispatcher. -/
def isDispatcher : Request → Bool
  | disp0 .. | disp1 .. | disp2 .. => true
  | _ => false

variable {policy : Policy} {level : UInt32} {request : Request}

theorem virtualMachine_keepsTimers {body : GuestContext → Microcode Completion}
    (isProgram : request.program policy level = .virtualMachine body) (context : GuestContext) :
    (body context).KeepsTimers false :=
  takes_virtualMachine Action.keepsTimers_allowsLooks Action.keepsTimers_allowsStores
    Action.keepsTimers_allowsRoutine Action.keepsTimers_allowsControls isProgram context

theorem controlProgram_keepsTimers {body : Microcode Completion}
    (isProgram : request.program policy level = .controlProgram body) :
    body.KeepsTimers request.isDispatcher := by
  have dispatches : AllowsCharging (Action.KeepsTimers true) := Action.keepsTimers_allowsCharging
  cases request with
  | disp0 list exits =>
      cases isProgram
      exact Dispatcher.takes_enter dispatches Action.keepsTimers_allowsControls trivial
        (fun _ => trivial) _ _
  | disp1 list exits =>
      cases isProgram
      exact Dispatcher.takes_departAndSelect dispatches Action.keepsTimers_allowsControls trivial
        trivial (fun _ _ => trivial) _ _
  | disp2 list exits =>
      cases isProgram
      exact Dispatcher.takes_select dispatches Action.keepsTimers_allowsControls trivial trivial
        (fun _ _ => trivial) _ _
  | _ =>
      exact takes_controlProgram Action.keepsTimers_allowsLooks Action.keepsTimers_allowsStores
        Action.keepsTimers_allowsRoutine isProgram nofun nofun nofun

end Request

end Assist370
