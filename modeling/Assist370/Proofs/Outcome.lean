import Assist370.Proofs.ProgramLogic

/-!
# Outcomes of instructions

What the program of an instruction ensures carries over to the registers and the storage that the
instruction leaves when it completes (`System.performed`). When it fails, a byte of storage is as
it was or as the program would have left it.
-/

namespace Assist370

variable {Machine Refusal : Type}

namespace AssistProgram

/-- The whole program, with the look-up of the virtual machine that it may need. -/
def microcode : AssistProgram → Microcode Completion
  | controlProgram body => body
  | virtualMachine body => GuestContext.lookUp.bind body

/-- The registers that the program starts with. -/
def registers : AssistProgram → Cpu → Cpu
  | controlProgram _, cpu => cpu
  | virtualMachine _, cpu => { cpu with virtualTimerAddress := none }

end AssistProgram

/-- The registers that a program leaves which completes. -/
def Scene.committedCpu (scene : Scene) : Cpu :=
  if scene.timerSet then
    { scene.cpu with timerPending := scene.cpu.cpuTimer < 0 }
  else
    scene.cpu

@[simp]
theorem Scene.committedCpu_general (scene : Scene) :
    scene.committedCpu.general = scene.cpu.general := by
  rw [committedCpu]
  split <;> rfl

@[simp]
theorem Scene.committedCpu_psw (scene : Scene) : scene.committedCpu.psw = scene.cpu.psw := by
  rw [committedCpu]
  split <;> rfl

@[simp]
theorem Scene.committedCpu_cpuTimer (scene : Scene) :
    scene.committedCpu.cpuTimer = scene.cpu.cpuTimer := by
  rw [committedCpu]
  split <;> rfl

/-- The scene before the program of an instruction. -/
def Scene.before (memory : Memory) (program : AssistProgram) (cpu : Cpu) : Scene where
  memory
  cpu := program.registers cpu

/-- The response concludes a program that is done: it completes, or its completion is refused. -/
def Response.Concludes (response : Response Machine Refusal) (completion : Completion) : Prop :=
  response.result = .ok completion.outcome ∨ ∃ error, response.result = .error error

theorem Response.Concludes.performed {response : Response Machine Refusal}
    {completion : Completion} (concludes : response.Concludes completion) :
    response.result ≠ .ok .declined := by
  rcases concludes with completed | ⟨error, failed⟩
  · rw [completed]
    cases completion <;> simp [Completion.outcome]
  · simp [failed]

/-- The assist has been performed to its end. -/
def Response.Performed (response : Response Machine Refusal) : Prop :=
  response.result = .ok .completed ∨ response.result = .ok .dispatched

instance (response : Response Machine Refusal) : Decidable response.Performed :=
  decidable_of_iff
    (response.result.toOption = some .completed ∨ response.result.toOption = some .dispatched) (by
      rw [Response.Performed]
      cases response.result <;> simp [Except.toOption])

theorem Response.performed_iff {response : Response Machine Refusal} :
    response.Performed ↔ ∃ completion : Completion, response.result = .ok completion.outcome := by
  constructor
  · rintro (result | result)
    · exact ⟨.completed, result⟩
    · exact ⟨.dispatched, result⟩
  · rintro ⟨_ | _, result⟩
    · exact .inl result
    · exact .inr result

namespace System

variable {callouts : Callouts Machine Refusal} {policy : Policy} {system : System Machine}
  {request : Request}

/-- The staging area that the program of an instruction starts with. -/
def staging (system : System Machine) (policy : Policy) (request : Request) : Staging Machine where
  machine := system.machine
  cpu := (request.program policy system.registry.level).registers system.cpu

/-- The run of the program of an instruction, if the instruction gets to it. -/
def ran (system : System Machine) (policy : Policy) (callouts : Callouts Machine Refusal)
    (request : Request) : Ending Refusal Completion × Staging Machine :=
  (request.program policy system.registry.level).microcode.run callouts
    (system.staging policy request)

theorem scene_staging (memory : Machine → Memory) :
    (system.staging policy request).scene memory =
      .before (memory system.machine) (request.program policy system.registry.level)
        system.cpu := by
  simp [staging, Staging.scene, Scene.before]

theorem outcome_injective {completion other : Completion}
    (same : completion.outcome = other.outcome) : completion = other := by
  cases completion <;> cases other <;> simp_all [Completion.outcome]

/-- An assist completes when its program is done and its journal can be stored. -/
theorem settle_completed (view : StorageView callouts) (assist : Assist)
    {ran : Ending Refusal Completion × Staging Machine} (inSpace : ran.2.journal.InSpace)
    {completion : Completion}
    (completed : (system.settle callouts assist ran).result = .ok completion.outcome) :
    ∃ after, ran = (.done completion, after) ∧
      (system.settle callouts assist ran).system.cpu = after.committedCpu ∧
      view.memory (system.settle callouts assist ran).system.machine = view.seen after := by
  rcases ran with ⟨done | reason | error, after⟩
  · have committed : ∀ cpu, (after.commit callouts).1 = .ok cpu →
        cpu = after.committedCpu ∧ view.memory (after.commit callouts).2 = view.seen after :=
      fun cpu => view.commit_ok inSpace
    simp only [settle] at completed ⊢
    generalize after.commit callouts = answered at committed completed
    rcases answered with ⟨error | cpu, machine⟩
    · simp at completed
    · simp only [Except.ok.injEq] at completed
      obtain ⟨sameCpu, seen⟩ := committed cpu rfl
      rw [outcome_injective completed]
      exact ⟨after, rfl, sameCpu, seen⟩
  · cases completion <;> simp [settle, decline, Completion.outcome] at completed
  · simp [settle] at completed

/-- Whatever becomes of an assist, a byte of storage is as it was or as a program that is done has
seen it. -/
theorem settle_byte (view : StorageView callouts) (assist : Assist) (before : Staging Machine)
    (program : Microcode Completion) (inSpace : before.journal.InSpace) (place : UInt32) :
    (view.memory (system.settle callouts assist
        (program.run callouts before)).system.machine).byte place =
        (view.memory before.machine).byte place ∨
      ∃ completion after, program.run callouts before = (.done completion, after) ∧
        (system.settle callouts assist (program.run callouts before)).Concludes completion ∧
        (view.memory (system.settle callouts assist
          (program.run callouts before)).system.machine).byte place =
          (view.seen after).byte place := by
  have looked := view.memory_of_looks (program.run_looks callouts before)
  have staged := program.run_inSpace callouts inSpace
  generalize program.run callouts before = ran at looked staged
  rcases ran with ⟨done | reason | error, after⟩
  · have committed := view.commit_byte staged place
    rw [looked] at committed
    simp only [settle]
    generalize after.commit callouts = answered at committed
    rcases answered with ⟨error | cpu, machine⟩
    · exact committed.imp id fun seen => ⟨done, after, rfl, .inr ⟨error, rfl⟩, seen⟩
    · exact committed.imp id fun seen => ⟨done, after, rfl, .inl rfl, seen⟩
  · exact .inl (congrArg (Memory.byte · place) looked)
  · exact .inl (congrArg (Memory.byte · place) looked)

/-- An instruction completes when its program is done and its journal can be stored. -/
theorem ran_of_completed (view : StorageView callouts) {completion : Completion}
    (completed : (system.perform policy callouts request).result = .ok completion.outcome) :
    ∃ after, system.ran policy callouts request = (.done completion, after) ∧
      (system.perform policy callouts request).system.cpu = after.committedCpu ∧
      view.memory (system.perform policy callouts request).system.machine =
        view.seen after := by
  have course := system.perform_course policy callouts request
  generalize system.perform policy callouts request = response at course completed
  cases course with
  | refused _ _ _ => cases completion <;> simp [decline, Completion.outcome] at completed
  | missing => cases completion <;> simp [Completion.outcome] at completed
  | controlProgram body isProgram =>
      simp only [ran, staging, isProgram]
      refine settle_completed view request.assist (Microcode.run_inSpace callouts _ ?_) completed
      exact Journal.inSpace_empty
  | virtualMachine body timer isProgram _ =>
      simp only [ran, staging, isProgram]
      refine settle_completed view request.assist (Microcode.run_inSpace callouts _ ?_) completed
      exact Journal.inSpace_empty

/-- Whatever becomes of an instruction, a byte of storage is as it was or as a program that is done
has seen it. -/
theorem byte_perform (view : StorageView callouts) (system : System Machine) (policy : Policy)
    (request : Request) (place : UInt32) :
    (view.memory (system.perform policy callouts request).system.machine).byte place =
        (view.memory system.machine).byte place ∨
      ∃ completion after, system.ran policy callouts request = (.done completion, after) ∧
        (system.perform policy callouts request).Concludes completion ∧
        (view.memory (system.perform policy callouts request).system.machine).byte place =
          (view.seen after).byte place := by
  have course := system.perform_course policy callouts request
  generalize system.perform policy callouts request = response at course
  cases course with
  | refused _ _ _ => exact .inl rfl
  | missing => exact .inl rfl
  | controlProgram body isProgram =>
      simp only [ran, staging, isProgram]
      exact settle_byte view request.assist { machine := system.machine, cpu := system.cpu } body
        Journal.inSpace_empty place
  | virtualMachine body timer isProgram _ =>
      simp only [ran, staging, isProgram]
      exact settle_byte view request.assist
        { machine := system.machine, cpu := { system.cpu with virtualTimerAddress := none } }
        (GuestContext.lookUp.bind body) Journal.inSpace_empty place

/-- Registers handed to software leave everything else of the registers alone. -/
theorem read_handedOff {α : Type} (read : Cpu → α)
    (keeps : ∀ (cpu : Cpu) (register : RegisterNumber) (value : UInt32),
      read (cpu.setGeneral register value) = read cpu)
    (handOffs : List (RegisterNumber × UInt32)) (cpu : Cpu) :
    read (handOffs.foldl (fun cpu handOff => cpu.setGeneral handOff.1 handOff.2) cpu) =
      read cpu := by
  induction handOffs generalizing cpu with
  | nil => rfl
  | cons handOff rest ih => exact (ih _).trans (keeps cpu handOff.1 handOff.2)

/-- An instruction that does not complete leaves the control registers alone. -/
theorem control_of_not_completed
    (uncompleted : ∀ completion : Completion,
      (system.perform policy callouts request).result ≠ .ok completion.outcome) :
    (system.perform policy callouts request).system.cpu.control = system.cpu.control := by
  have settled : ∀ (before : System Machine) (ran : Ending Refusal Completion × Staging Machine),
      (∀ completion : Completion, (before.settle callouts request.assist ran).result ≠
        .ok completion.outcome) →
      (before.settle callouts request.assist ran).system.cpu.control = before.cpu.control := by
    rintro before ⟨done | reason | error, after⟩ uncompleted
    · simp only [settle] at uncompleted ⊢
      generalize after.commit callouts = answered at uncompleted
      rcases answered with ⟨error | cpu, machine⟩
      · rfl
      · exact absurd rfl (uncompleted done)
    · exact read_handedOff (·.control) (fun _ _ _ => rfl) after.handOffs before.cpu
    · rfl
  have course := system.perform_course policy callouts request
  generalize system.perform policy callouts request = response at course uncompleted
  cases course with
  | refused _ _ _ => rfl
  | missing => rfl
  | controlProgram body _ => exact settled _ _ uncompleted
  | virtualMachine body timer _ _ => exact settled _ _ uncompleted

/-- An assist of a virtual machine that is not left to software has been admitted by control
register 6. -/
theorem admitted_of_performed {body : GuestContext → Microcode Completion}
    (isProgram : request.program policy system.registry.level = .virtualMachine body)
    (performed : (system.perform policy callouts request).result ≠ .ok .declined) :
    system.cpu.assistControl.guestRefusal? = none := by
  cases admitted : system.cpu.assistControl.guestRefusal? with
  | none => rfl
  | some reason =>
      refine absurd ?_ performed
      simp only [perform, isProgram, performVirtualMachine]
      split
      · rfl
      · rw [show ({ system.cpu with virtualTimerAddress := none } : Cpu).assistControl =
          system.cpu.assistControl from rfl, admitted]
        rfl

/-- What the program of an instruction ensures holds when it is done. -/
theorem ensures_of_ran {memory : Machine → Memory} {known : Knowledge}
    (shows : callouts.Shows known memory system.machine)
    (stores : ∀ region, (system.ran policy callouts request).2.journal.Covers region →
      known.stores region)
    {declined : Decline → Scene → Prop} {post : Completion → Scene → Prop}
    (ensures : (request.program policy system.registry.level).microcode.Ensures known declined
      post (.before (memory system.machine) (request.program policy system.registry.level)
        system.cpu))
    {completion : Completion} {after : Staging Machine}
    (ran : system.ran policy callouts request = (.done completion, after)) :
    post completion (after.scene memory) := by
  rw [← scene_staging] at ensures
  have ends := ensures.run shows .refl stores
  rw [System.ran] at ran
  rw [ran] at ends
  exact ends

/-- What the program of an instruction ensures holds of what the instruction leaves when it
completes. -/
theorem ensures_of_completed (view : StorageView callouts) {known : Knowledge}
    (shows : callouts.Shows known view.memory system.machine)
    (stores : ∀ region, (system.ran policy callouts request).2.journal.Covers region →
      known.stores region)
    {declined : Decline → Scene → Prop} {post : Completion → Scene → Prop}
    (ensures : (request.program policy system.registry.level).microcode.Ensures known declined
      post (.before (view.memory system.machine)
        (request.program policy system.registry.level) system.cpu))
    {completion : Completion}
    (completed : (system.perform policy callouts request).result = .ok completion.outcome) :
    ∃ final : Scene, post completion final ∧
      (system.perform policy callouts request).system.cpu = final.committedCpu ∧
      view.memory (system.perform policy callouts request).system.machine = final.memory := by
  obtain ⟨after, ran, cpu, memory⟩ := ran_of_completed view completed
  exact ⟨after.scene view.memory, ensures_of_ran shows stores ensures ran, cpu, memory⟩

end System

end Assist370
