import Assist370.Proofs.GuestAssist

/-!
# Runs of a virtual machine

SET SYSTEM MASK, SUPERVISOR CALL, LOAD PSW and LOAD CONTROL are the instructions by which a running
virtual machine changes its own state. When one of them completes it has changed the virtual PSW by
a checked transition, or has loaded virtual control registers (`GuestContext.Effect`), and it leaves
the assist controls of the processor as they were. A run is a list of instructions that are
performed one after the other.
-/

namespace Assist370

namespace ControlRegisters

variable {registers loaded : ControlRegisters} {psw : Psw}

/-- The registers that may be loaded for a virtual machine. -/
def loadable : List RegisterNumber :=
  [0, 2, 6, 12, 13, 14, 15]

/-- What a load of one register has checked and done when it is not refused. -/
structure LoadsOne (registers : ControlRegisters) (psw : Psw) (pending : Bool)
    (register : RegisterNumber) (value : UInt32) (loaded : ControlRegisters) : Prop where
  isLoadable : register ∈ loadable
  modes : register = 0 → registers.shadow.read 0 &&& modeMask = value &&& modeMask
  external : register = 0 → psw.masks Psw.externalMask = true → pending = true →
    ~~~(registers.shadow.read 0 &&& subclassMask) &&& (value &&& subclassMask) = 0
  io : register = 2 → psw.masks Psw.ioMask = true → pending = true →
    ~~~registers.shadow.read 2 &&& value = 0
  shadow : loaded.shadow = registers.shadow.load register value
  real : loaded.real =
    if register = 12 ∨ register = 13 then registers.real.load register value else registers.real

theorem loadOne_loads {pending : Bool} {register : RegisterNumber} {value : UInt32}
    (isLoaded : registers.loadOne psw pending register value = .ok loaded) :
    LoadsOne registers psw pending register value loaded := by
  simp only [loadOne] at isLoaded
  split at isLoaded
  all_goals try split at isLoaded
  all_goals try split at isLoaded
  all_goals simp only [pure, Except.pure, throw, throwThe, MonadExceptOf.throw, Except.ok.injEq,
    reduceCtorEq] at isLoaded
  all_goals subst isLoaded
  all_goals constructor
  all_goals simp_all [loadable]
  -- What is left is that no register but these is loaded without a case of its own.
  grind

theorem LoadsOne.real_kept {pending : Bool} {register : RegisterNumber} {value : UInt32}
    (loads : LoadsOne registers psw pending register value loaded) :
    ∀ other, (other = register → other ≠ 12 ∧ other ≠ 13) →
      loaded.real.read other = registers.real.read other := by
  intro other spared
  rw [loads.real]
  split
  · rename_i forwarded
    rw [RegisterFile.read_load, if_neg]
    rintro rfl
    exact forwarded.elim (spared rfl).1 (spared rfl).2
  · rfl

/-- What holds before a load, and is kept by the load of each register, holds after it. -/
theorem load_induction {motive : ControlRegisters → Prop} {range : List RegisterNumber}
    {new : RegisterFile} {pending : UInt8}
    (kept : ∀ register ∈ range, ∀ before after, motive before →
      before.loadOne psw (pending &&& Micblok.pendingFlag != 0) register (new.read register) =
        .ok after → motive after)
    (first : motive registers) (isLoaded : registers.load range new psw pending = .ok loaded) :
    motive loaded := by
  simp only [load] at isLoaded
  induction range generalizing registers with
  | nil =>
      simp only [List.foldlM_nil, pure, Except.pure, Except.ok.injEq] at isLoaded
      exact isLoaded ▸ first
  | cons register rest ih =>
      rw [List.foldlM_cons] at isLoaded
      cases one : registers.loadOne psw (pending &&& Micblok.pendingFlag != 0) register
        (new.read register) with
      | error reject => simp [one, bind, Except.bind] at isLoaded
      | ok middle =>
          rw [one] at isLoaded
          refine ih (fun other other_mem => kept other (by simp [other_mem])) ?_ isLoaded
          exact kept register (by simp) registers middle first one

/-- Of the registers of the range, only 12 and 13 are loaded into the real processor. -/
theorem load_real {range : List RegisterNumber} {new : RegisterFile} {pending : UInt8}
    (isLoaded : registers.load range new psw pending = .ok loaded) :
    ∀ register, (register ∈ range → register ≠ 12 ∧ register ≠ 13) →
      loaded.real.read register = registers.real.read register := by
  refine load_induction (motive := fun after => ∀ register,
    (register ∈ range → register ≠ 12 ∧ register ≠ 13) →
      after.real.read register = registers.real.read register) ?_ (fun _ _ => rfl) isLoaded
  intro one inRange before after holds isLoaded register spared
  rw [(loadOne_loads isLoaded).real_kept register fun same => spared (same ▸ inRange),
    holds register spared]

end ControlRegisters

namespace Cpu.SameControls

variable {cpu other : Cpu}

theorem refl (cpu : Cpu) : cpu.SameControls cpu :=
  ⟨fun _ _ _ => rfl, rfl⟩

theorem assistControl (same : cpu.SameControls other) :
    other.assistControl = cpu.assistControl := by
  rw [Cpu.assistControl, same.control 6 (by decide) (by decide), Cpu.assistControl]

end Cpu.SameControls

/-- What an assist of a virtual machine has done to memory and registers when it completes. -/
inductive GuestContext.Effect (known : Knowledge) (context : GuestContext) (memory : Memory)
    (cpu : Cpu) : Memory → Cpu → Prop where
  /-- A checked change of the virtual PSW, and before it a change of the prefixed storage area. -/
  | changePsw {old checked new : Psw} {image : Memory} {after : Cpu}
      (imageKept : ∀ region, known.CallApart cpu region → image.AgreesOn memory region)
      (passed : old.checkTransition checked context.pending = .ok ())
      (oldMask : old.systemMask = context.psw.systemMask)
      (oldMode : old.isExtended = context.psw.isExtended)
      (newMask : new.systemMask = checked.systemMask)
      (same : cpu.SameControls after) :
      Effect known context memory cpu (image.put context.pswAddress Field.first new) after
  /-- A load of virtual control registers. -/
  | loadControls {first last : RegisterNumber} {new : RegisterFile} {loaded : ControlRegisters}
      {after : Cpu}
      (basic : memory.isExtended context.vmblok = false → first = 0 ∧ last = 0)
      (isLoaded : ControlRegisters.load
        { shadow := memory.shadowRegisters (memory.isExtended context.vmblok)
            (context.shadowAddress memory)
          real := cpu.control }
        (RegisterNumber.range first last) new context.psw context.pending = .ok loaded)
      (same : cpu.SameControls after) :
      Effect known context memory cpu
        (Memory.putShadow (context.shadowAddress memory) loaded.shadow
          (RegisterNumber.range first last) memory) after

theorem GuestContext.Effect.sameControls {known : Knowledge} {context : GuestContext}
    {memory changed : Memory} {cpu after : Cpu}
    (effect : context.Effect known memory cpu changed after) : cpu.SameControls after := by
  cases effect with
  | changePsw _ _ _ _ _ same => exact same
  | loadControls _ _ same => exact same

/-- The instruction changes the state of the running virtual machine. -/
def Request.IsVirtual : Request → Prop
  | ssm _ | svc _ | lpsw _ | lctl _ _ _ => True
  | _ => False

open Microcode GuestContext in
/-- An instruction that changes the state of the running virtual machine has one of the effects
when its program is done. -/
theorem Request.IsVirtual.achieves {known : Knowledge} (isFaithful : known.faithful)
    {request : Request} (isVirtual : request.IsVirtual) (policy : Policy) (level : UInt32)
    (memory : Memory) (cpu : Cpu) :
    (request.program policy level).microcode.Achieves known
      (fun completion after => completion = .completed ∧ after.timerSet = false ∧
        (memory.guestContext cpu.assistControl).Effect known memory cpu after.memory after.cpu)
      (.before memory (request.program policy level) cpu) := by
  cases request with
  | ssm address =>
      simp only [Request.program, AssistProgram.microcode, ← bind_eq_bind, Achieves, ensures_bind]
      refine lookUp_achieves isFaithful fun timer => ?_
      refine setSystemMask_achieves _ _ _ fun systemMask passed => ⟨rfl, rfl, ?_⟩
      exact .changePsw (fun _ _ _ _ => rfl) passed rfl rfl rfl ⟨fun _ _ _ => rfl, rfl⟩
  | svc code =>
      simp only [Request.program, AssistProgram.microcode, ← bind_eq_bind, Achieves, ensures_bind]
      refine lookUp_achieves isFaithful fun timer => ?_
      simp only [supervisorCall_eq, ensures_bind, ensures_require]
      refine ⟨fun _ => ⟨fun _ => ?_, fun _ => trivial⟩, fun _ => trivial⟩
      refine fetchLogical_achieves _ _ _ fun new => ?_
      refine presentCall_achieves _ _ _ _ fun after image same kept passed => ⟨rfl, rfl, ?_⟩
      refine .changePsw (fun region apart => ?_) passed rfl rfl rfl
        ⟨same.control, same.translates⟩
      exact kept region apart.oldPsw fun _ => apart.code
  | lpsw address =>
      simp only [Request.program, AssistProgram.microcode, ← bind_eq_bind, Achieves, ensures_bind]
      refine lookUp_achieves isFaithful fun timer => ?_
      simp only [loadPsw_eq, fetchOperandPsw, ensures_bind, ensures_require, ensures_registers]
      refine ⟨fun _ => ⟨fun _ => ⟨fun _ => ?_, fun _ => trivial⟩, fun _ => trivial⟩,
        fun _ => trivial⟩
      refine fetchLogical_achieves _ _ _ fun new => ?_
      refine adopt_achieves _ _ fun after same passed => ⟨rfl, rfl, ?_⟩
      exact .changePsw (fun _ _ _ _ => rfl) passed rfl rfl rfl ⟨same.control, same.translates⟩
  | lctl first last address =>
      simp only [Request.program, AssistProgram.microcode, ← bind_eq_bind, Achieves, ensures_bind]
      refine lookUp_achieves isFaithful fun timer => ?_
      refine loadControl_achieves isFaithful _ _ _ _ _ fun new loaded basic isLoaded =>
        ⟨rfl, rfl, ?_⟩
      have realKept := ControlRegisters.load_real isLoaded
      exact .loadControls basic isLoaded
        ⟨fun register not12 not13 => realKept register fun _ => ⟨not12, not13⟩, rfl⟩
  | stevl _ | freex _ _ | fretx _ _ | lckpg _ _ | ulkpg _ _ | trbrg _ _ | trlok _ _ | scnvu _ _
  | scnru _ _ | disp0 _ _ | disp1 _ _ | disp2 _ _ | unassisted _ => exact isVirtual.elim

theorem Request.IsVirtual.program_eq {request : Request} (isVirtual : request.IsVirtual)
    (policy : Policy) (level : UInt32) :
    ∃ body, request.program policy level = .virtualMachine body := by
  cases request with
  | ssm _ | svc _ | lpsw _ | lctl _ _ _ => exact ⟨_, rfl⟩
  | stevl _ | freex _ _ | fretx _ _ | lckpg _ _ | ulkpg _ _ | trbrg _ _ | trlok _ _ | scnvu _ _
  | scnru _ _ | disp0 _ _ | disp1 _ _ | disp2 _ _ | unassisted _ => exact isVirtual.elim

namespace System

section

variable {Machine Refusal : Type} (policy : Policy) (callouts : Callouts Machine Refusal)

/-- The running virtual machine. -/
def virtualMachine {callouts : Callouts Machine Refusal} (view : StorageView callouts)
    (system : System Machine) : GuestContext :=
  (view.memory system.machine).guestContext system.cpu.assistControl

/-- What is left after instructions have been performed one after the other. -/
def performAll (system : System Machine) : List Request → System Machine
  | [] => system
  | request :: rest =>
      (system.perform policy callouts request).system.performAll rest

/-- A property of a system and the instruction that is performed next holds along a run. -/
def Along (property : System Machine → Request → Prop) (system : System Machine) :
    List Request → Prop
  | [] => True
  | request :: rest =>
      property system request ∧
        (system.perform policy callouts request).system.Along property rest

instance Along.decidable (property : System Machine → Request → Prop)
    [∀ system request, Decidable (property system request)] (system : System Machine) :
    (requests : List Request) → Decidable (system.Along policy callouts property requests)
  | [] => inferInstanceAs (Decidable True)
  | request :: rest =>
      have := Along.decidable property (system.perform policy callouts request).system rest
      inferInstanceAs (Decidable (_ ∧ _))

end

variable {Machine Refusal : Type} {policy : Policy} {callouts : Callouts Machine Refusal}
  {system : System Machine} {request : Request}

theorem Along.mono {property weaker : System Machine → Request → Prop} {requests : List Request}
    (along : system.Along policy callouts property requests)
    (implies : ∀ system request, property system request → weaker system request) :
    system.Along policy callouts weaker requests := by
  induction requests generalizing system with
  | nil => trivial
  | cons request rest ih => exact ⟨implies system request along.1, ih along.2⟩

/-- What an instruction that changes the state of the running virtual machine has done when it
completes. -/
theorem effect_of_completed (view : StorageView callouts) {known : Knowledge}
    (isFaithful : known.faithful)
    (shows : callouts.Shows known view.memory system.machine)
    (stores : ∀ region, known.stores region) (isVirtual : request.IsVirtual)
    {completion : Completion}
    (completed : (system.perform policy callouts request).result = .ok completion.outcome) :
    (system.virtualMachine view).Effect known (view.memory system.machine) system.cpu
      (view.memory (system.perform policy callouts request).system.machine)
      (system.perform policy callouts request).system.cpu := by
  obtain ⟨final, ⟨-, notSet, effect⟩, cpu, memory⟩ :=
    ensures_of_completed view shows (fun region _ => stores region)
      (isVirtual.achieves isFaithful policy system.registry.level _ system.cpu) completed
  rw [cpu, memory, Scene.committedCpu, notSet]
  exact effect

/-- An instruction of a virtual machine never changes the assist controls, nor any other control
register but 12 and 13. -/
theorem control_perform (view : StorageView callouts) (isVirtual : request.IsVirtual)
    {register : RegisterNumber} (not12 : register ≠ 12) (not13 : register ≠ 13) :
    (system.perform policy callouts request).system.cpu.control.read register =
      system.cpu.control.read register := by
  by_cases completed : ∃ completion : Completion,
      (system.perform policy callouts request).result = .ok completion.outcome
  · obtain ⟨completion, completed⟩ := completed
    have effect := effect_of_completed view trivial (view.shows system.machine) (fun _ => trivial)
      isVirtual completed
    exact effect.sameControls.control register not12 not13
  · rw [control_of_not_completed fun completion result => completed ⟨completion, result⟩]

theorem assistControl_perform (view : StorageView callouts) (isVirtual : request.IsVirtual) :
    (system.perform policy callouts request).system.cpu.assistControl =
      system.cpu.assistControl := by
  rw [Cpu.assistControl, control_perform view isVirtual (by decide) (by decide),
    Cpu.assistControl]

end System

end Assist370
