import Mathlib.Logic.Relation
import Assist370.Proofs.Confinement
import Assist370.Proofs.TimerUse
import Assist370.Proofs.Unperformed

/-!
# The CPU timer and its interruption

The interruption of the CPU timer is to be pending exactly while the timer is negative
(`Cpu.Armed`). A program changes the timer by loading it, which leaves the flag of the interruption
to the completion of the assist. So an instruction leaves the timer and the flag alone, or it is one
for the dispatcher that has loaded the timer and completed, and then the flag goes by the timer
(`System.perform_timer`). What is said of one instruction carries over to runs, with other code
between the instructions.
-/

namespace Assist370

/-- The CPU timer interruption is pending exactly while the CPU timer is negative. -/
def Cpu.Armed (cpu : Cpu) : Prop :=
  cpu.timerPending = decide (cpu.cpuTimer < 0)

instance (cpu : Cpu) : Decidable cpu.Armed :=
  inferInstanceAs (Decidable (_ = _))

/-- As a doubleword, a negative timer has its first bit on. -/
theorem Cpu.armed_iff_msb (cpu : Cpu) :
    cpu.Armed ↔ cpu.timerPending = cpu.cpuTimer.toUInt64.toBitVec.msb := by
  have sign : decide (cpu.cpuTimer < 0) = cpu.cpuTimer.toBitVec.msb := by
    rw [BitVec.msb_eq_toInt]
    exact decide_eq_decide.mpr Int64.lt_iff_toInt_lt
  rw [Armed, sign]
  rfl

namespace Microcode

variable {α : Type} {Machine Refusal : Type} (callouts : Callouts Machine Refusal)

/-- In its run on a staging area the program loads the CPU timer. -/
def LoadsTimer : Microcode α → Staging Machine → Prop
  | done _, _ => False
  | decline _, _ => False
  | act action next, staging =>
      (∃ value, action = .setTimer value) ∨
        match action.run callouts staging with
        | (.ok answer, staging) => (next answer).LoadsTimer staging
        | (.error _, _) => False

/-- A run notes that it loads the CPU timer. -/
theorem timerSet_run (program : Microcode α) (staging : Staging Machine) :
    (program.run callouts staging).2.timerSet = true ↔
      staging.timerSet = true ∨ program.LoadsTimer callouts staging := by
  induction program generalizing staging with
  | done value => simp [run, LoadsTimer]
  | decline reason => simp [run, LoadsTimer]
  | act action next ih =>
      have noted : (action.run callouts staging).2.timerSet = true ↔
          staging.timerSet = true ∨ ∃ value, action = .setTimer value := by
        cases action with
        | storageKey _ | translate _ =>
            simp only [Action.run]
            split <;> simp
        | fetch _ _ | store _ _ | registers | modify _ | setTimer _ | purgeTlb | handOff _ _
        | log _ => simp [Action.run]
      simp only [run, LoadsTimer]
      generalize action.run callouts staging = answered at noted
      rcases answered with ⟨error | answer, after⟩
      · simpa using noted
      · exact (ih _ _).trans (by rw [noted, or_assoc])

end Microcode

/-- The timer is that of a processor unless it has been loaded, and so is, in any case, the flag of
its interruption. -/
structure Scene.KeepsTimer (cpu : Cpu) (mayLoad : Bool) (scene : Scene) : Prop where
  pending : scene.cpu.timerPending = cpu.timerPending
  timer : scene.timerSet = false → scene.cpu.cpuTimer = cpu.cpuTimer
  loads : scene.timerSet = true → mayLoad = true

theorem Microcode.KeepsTimers.achieves {α : Type} {program : Microcode α} {mayLoad : Bool}
    (keeps : program.KeepsTimers mayLoad) {known : Knowledge} {scene : Scene} {cpu : Cpu}
    (holds : scene.KeepsTimer cpu mayLoad) :
    program.Achieves known (fun _ after => after.KeepsTimer cpu mayLoad) scene := by
  refine (Takes.ensures keeps (fun action before allowed kept => ?_) holds).mono
    (fun _ _ => id) fun _ _ _ => trivial
  cases action with
  | modify change =>
      obtain ⟨sameTimer, samePending, -⟩ := allowed before.cpu
      exact ⟨samePending.trans kept.pending, fun unset => sameTimer.trans (kept.timer unset),
        kept.loads⟩
  | setTimer value => exact ⟨kept.pending, nofun, fun _ => allowed⟩
  | fetch _ _ => exact fun _ _ => kept
  | storageKey _ => exact fun _ => kept
  | translate _ => exact fun _ _ => kept
  | store _ _ => exact fun _ => ⟨kept.pending, kept.timer, kept.loads⟩
  | registers => exact kept
  | purgeTlb | handOff _ _ | log _ => exact ⟨kept.pending, kept.timer, kept.loads⟩

variable {Machine Refusal : Type}

namespace System

variable {policy : Policy} {callouts : Callouts Machine Refusal} {system : System Machine}
  {request : Request}

/-- The run of the program of an instruction loads the CPU timer. -/
def LoadsTimer (system : System Machine) (policy : Policy) (callouts : Callouts Machine Refusal)
    (request : Request) : Prop :=
  (request.program policy system.registry.level).microcode.LoadsTimer callouts
    (system.staging policy request)

theorem timerSet_ran :
    (system.ran policy callouts request).2.timerSet = true ↔
      system.LoadsTimer policy callouts request :=
  (Microcode.timerSet_run callouts _ _).trans (by simp [staging, LoadsTimer])

theorem keepsTimer_of_ran {completion : Completion} {after : Staging Machine}
    (ran : system.ran policy callouts request = (.done completion, after)) :
    (after.scene fun _ => Memory.zero).KeepsTimer system.cpu request.isDispatcher := by
  cases family : request.assist.family with
  | vm =>
      obtain ⟨-, notSet, -, confines⟩ := confines_of_ran family ran
      refine ⟨confines.timerPending, fun _ => confines.cpuTimer, fun isSet => ?_⟩
      exact absurd (notSet.symm.trans isSet) Bool.false_ne_true
  | cp =>
      cases isProgram : request.program policy system.registry.level with
      | virtualMachine body =>
          rw [Request.family_eq_vm isProgram] at family
          contradiction
      | controlProgram body =>
          have keeps : ∀ known,
              (request.program policy system.registry.level).microcode.Achieves known
                (fun _ after => after.KeepsTimer system.cpu request.isDispatcher)
                (.before Memory.zero (request.program policy system.registry.level)
                  system.cpu) := by
            intro known
            rw [isProgram]
            exact (Request.controlProgram_keepsTimers isProgram).achieves
              ⟨rfl, fun _ => rfl, nofun⟩
          exact ensures_of_ran (callouts.shows_constant Memory.zero system.machine)
            (fun _ _ => trivial) (keeps _) ran

theorem LeavesRegisters.keepsTimer {cpu : Cpu}
    (leaves : LeavesRegisters callouts system request cpu) :
    cpu.cpuTimer = system.cpu.cpuTimer ∧ cpu.timerPending = system.cpu.timerPending := by
  cases leaves <;> exact ⟨rfl, rfl⟩

/-- What an instruction does to the CPU timer. -/
inductive TimerConduct (policy : Policy) (callouts : Callouts Machine Refusal)
    (system : System Machine) (request : Request) (response : Response Machine Refusal) : Prop where
  /-- The timer and the flag of its interruption are left alone. -/
  | kept (unloaded : response.Performed → ¬system.LoadsTimer policy callouts request)
      (timer : response.system.cpu.cpuTimer = system.cpu.cpuTimer)
      (pending : response.system.cpu.timerPending = system.cpu.timerPending)
  /-- The dispatcher has loaded the timer. -/
  | loaded (forDispatcher : request.isDispatcher = true) (performed : response.Performed)
      (armed : response.system.cpu.Armed)

theorem perform_timer (policy : Policy) (callouts : Callouts Machine Refusal)
    (system : System Machine) (request : Request) :
    TimerConduct policy callouts system request (system.perform policy callouts request) := by
  have conduct := perform_conduct policy callouts system request
  have unperformed := perform_unperformed policy callouts system request
  generalize system.perform policy callouts request = response at conduct unperformed
  generalize system.calloutsMade policy callouts request = made at conduct unperformed
  cases conduct with
  | left _ isLeft =>
      obtain ⟨-, -, leaves⟩ := unperformed isLeft
      have unloaded : response.Performed → ¬system.LoadsTimer policy callouts request := by
        intro performed
        obtain ⟨completion, result⟩ := Response.performed_iff.mp performed
        cases completion <;> simp [result, Completion.outcome] at isLeft
      exact .kept unloaded leaves.keepsTimer.1 leaves.keepsTimer.2
  | failed _ result _ cpu _ _ _ =>
      obtain ⟨timer, cpu, -⟩ := cpu
      refine .kept (fun performed => ?_) (by rw [cpu]) (by rw [cpu])
      obtain ⟨completion, completed⟩ := Response.performed_iff.mp performed
      simp [result] at completed
  | completed _ result isDone cpu =>
      have keeps := keepsTimer_of_ran (Prod.ext isDone rfl)
      have noted := @timerSet_ran _ _ policy callouts system request
      rw [Staging.committedCpu] at cpu
      split at cpu
      · rename_i isSet
        refine .loaded (keeps.loads isSet) (Response.performed_iff.mpr ⟨_, result⟩) ?_
        rw [cpu, Cpu.Armed]
      · rename_i unset
        refine .kept (fun _ loads => unset (noted.mpr loads)) ?_ ?_
        · rw [cpu]
          exact keeps.timer (eq_false_of_ne_true unset)
        · rw [cpu]
          exact keeps.pending

theorem TimerConduct.armed {response : Response Machine Refusal}
    (conduct : TimerConduct policy callouts system request response) (armed : system.cpu.Armed) :
    response.system.cpu.Armed := by
  cases conduct with
  | kept _ timer pending => rw [Cpu.Armed, pending, timer, armed]
  | loaded _ _ armed => exact armed

/-- What a system comes to next: it performs an instruction, under any callouts, or other code runs
that keeps the flag of the CPU timer interruption right. -/
inductive Next (Refusal : Type) : System Machine → System Machine → Prop where
  | performs (policy : Policy) (callouts : Callouts Machine Refusal) (system : System Machine)
      (request : Request) :
      Next Refusal system (system.perform policy callouts request).system
  | runsOther (system next : System Machine) (keeps : system.cpu.Armed → next.cpu.Armed) :
      Next Refusal system next

theorem armed_of_run {last : System Machine}
    (run : Relation.ReflTransGen (Next Refusal) system last) (armed : system.cpu.Armed) :
    last.cpu.Armed := by
  induction run with
  | refl => exact armed
  | tail _ next ih =>
      cases next with
      | performs policy callouts _ request =>
          exact (perform_timer policy callouts _ request).armed ih
      | runsOther _ _ keeps => exact keeps ih

/-- If the flag of the CPU timer interruption is right it stays so, whatever becomes of an
instruction, and over any run. Only an instruction for the dispatcher that is performed changes the
timer, and if it has loaded the timer, the flag is right whatever was before: it is the first bit of
the doubleword that has been loaded last. -/
theorem timer_armed (policy : Policy) (callouts : Callouts Machine Refusal)
    (system : System Machine) (request : Request) :
    let response := system.perform policy callouts request
    (system.cpu.Armed → response.system.cpu.Armed) ∧
      (∀ last, Relation.ReflTransGen (Next Refusal) system last →
        system.cpu.Armed → last.cpu.Armed) ∧
      (response.system.cpu.cpuTimer ≠ system.cpu.cpuTimer →
        request.isDispatcher = true ∧ response.Performed) ∧
      (response.Performed → system.LoadsTimer policy callouts request →
        request.isDispatcher = true ∧ response.system.cpu.Armed ∧
          response.system.cpu.timerPending =
            response.system.cpu.cpuTimer.toUInt64.toBitVec.msb) := by
  intro response
  have conduct := perform_timer policy callouts system request
  refine ⟨conduct.armed, fun last run => armed_of_run run, ?_, ?_⟩
  · intro changed
    cases conduct with
    | kept _ timer _ => exact absurd timer changed
    | loaded forDispatcher performed _ => exact ⟨forDispatcher, performed⟩
  · intro performed loads
    cases conduct with
    | kept unloaded _ _ => exact absurd loads (unloaded performed)
    | loaded forDispatcher _ armed =>
        exact ⟨forDispatcher, armed, (Cpu.armed_iff_msb _).mp armed⟩

open Dispatcher in
/-- A system with a timer request for the user at 7000, whose time has its first bit on. Before,
the flag of the timer interruption is off while the timer is negative. -/
def unarmedSystem : System Memory where
  registry := Registry.initial true false
  cpu :=
    { Cpu.initial with
      control := RegisterFile.zero.load 6 0x02000000
      cpuTimer := -1 }
  machine :=
    ((((Memory.zero.put 0x6000 DispatchList.requestQueue 0xa000).put
      0xa000 Trqblok.next 0x6000).put
      0xa000 Trqblok.previous 0x6000).put
      0xa000 Trqblok.user 0x7000).put
      0x7000 Vmblok.totalTime 0x8000000000000005

theorem unarmedSystem_armed :
    let after := (unarmedSystem.perform .splitKeys Memory.callouts (.disp2 0x6000 0x6800)).system
    ¬unarmedSystem.cpu.Armed ∧ after.cpu.Armed ∧ after.cpu.timerPending = true := by
  have performed : (unarmedSystem.perform .splitKeys Memory.callouts
      (.disp2 0x6000 0x6800)).result = .ok .completed :=
    Response.result_eq_ok (by decide +kernel)
  have loads : unarmedSystem.LoadsTimer .splitKeys Memory.callouts (.disp2 0x6000 0x6800) :=
    timerSet_ran.mp (by decide +kernel)
  exact ⟨by decide, ((timer_armed _ _ _ _).2.2.2 (.inl performed) loads).2.1, by decide +kernel⟩

end System

end Assist370
