import Assist370.Proofs.GuestRun
import Assist370.Proofs.PlainMachine

/-!
# Isolation of the virtual problem state

Control register 6 tells the gate whether the running virtual machine is in virtual problem state.
It agrees with the virtual PSW as long as no SUPERVISOR CALL and no LOAD PSW loads a problem-state
PSW, because no assist of a virtual machine turns its bit on. From then on the gate lets privileged
instructions of a problem program pass.
-/

namespace Assist370

variable {Machine Refusal : Type}

section Runs

variable {callouts : Callouts Machine Refusal} {α β : Type}

theorem Microcode.run_bind_done {program : Microcode α} {next : α → Microcode β}
    {before after : Staging Machine} {value : β}
    (ran : (program >>= next).run callouts before = (.done value, after)) :
    ∃ first middle, program.run callouts before = (.done first, middle) ∧
      (next first).run callouts middle = (.done value, after) := by
  rw [bind_eq_bind, run_bind] at ran
  generalize program.run callouts before = firstRan at ran
  rcases firstRan with ⟨first | reason | error, middle⟩
  · exact ⟨first, middle, rfl, ran⟩
  · simp at ran
  · simp at ran

theorem Microcode.run_require_done {check : Bool} {reason : Decline} {next : Unit → Microcode β}
    {before after : Staging Machine} {value : β}
    (ran : (require check reason >>= next).run callouts before = (.done value, after)) :
    (next ()).run callouts before = (.done value, after) := by
  cases check with
  | true => exact ran
  | false => simp [require, bind_eq_bind, bind, run] at ran

end Runs

theorem Memory.isProblemState_get (memory : Memory) (slot : UInt32) :
    (memory.get slot Field.first : Psw).isProblemState =
      MachineStates.problemStateField.isOn (memory.byte (slot + 1)).toBitVec := by
  have second : (memory.bytes (slot + (Field.first : Field Psw).offset) (Stored.size Psw)).byte 1 =
      memory.byte (slot + 1) := by
    rw [Bytes.byte_eq_getElem _ _ (by decide)]
    simp [bytes, Field.first]
  simp only [get, Stored.decode, Psw.isProblemState, Psw.ofBytes]
  split <;> simp only [MachineStates.ofByte, second]

theorem Memory.isProblemState_put (memory : Memory) (slot : UInt32) (psw : Psw) :
    MachineStates.problemStateField.isOn
      ((memory.put slot Field.first psw).byte (slot + 1)).toBitVec = psw.isProblemState := by
  rw [← isProblemState_get, Psw.isProblemState, (get_put_psw memory slot Field.first psw).2,
    Psw.isProblemState]

namespace Request

/-- How the instruction fetches its new PSW, if it has one. -/
def fetchPsw? (policy : Policy) : Request → Option (Microcode Psw)
  | svc _ => some (Microcode.fetchLogical policy PrefixArea.callNewPsw 0)
  | lpsw address => some (GuestContext.fetchOperandPsw policy address)
  | _ => none

end Request

namespace System

/-- Control register 6 and the virtual PSW agree on the virtual problem state. -/
def Isolated {callouts : Callouts Machine Refusal} (view : StorageView callouts)
    (system : System Machine) : Prop :=
  system.cpu.assistControl.virtualProblem = (system.virtualMachine view).psw.isProblemState

instance {callouts : Callouts Machine Refusal} (view : StorageView callouts)
    (system : System Machine) : Decidable (system.Isolated view) :=
  inferInstanceAs (Decidable (_ = _))

section

variable (policy : Policy) (callouts : Callouts Machine Refusal) (system : System Machine)
  (request : Request)

/-- The instruction stores nothing into the MICBLOK. -/
def SparesMicblok : Prop :=
  system.Spares policy callouts request
    ⟨system.cpu.assistControl.micblok, Micblok.size⟩

instance : Decidable (system.SparesMicblok policy callouts request) :=
  inferInstanceAs (Decidable (system.Spares _ _ _ _))

/-- The PSW that the instruction loads, if it loads one. -/
def loadedPsw? : Option Psw :=
  match request.fetchPsw? policy with
  | none => none
  | some fetchPsw =>
      match (GuestContext.lookUp.bind fun _ => fetchPsw).run callouts
          (system.staging policy request) with
      | (.done new, _) => some new
      | _ => none

end

/-- The instruction breaks the isolation of the virtual problem state. -/
inductive Breaks {callouts : Callouts Machine Refusal} (view : StorageView callouts)
    (policy : Policy) (system : System Machine) (request : Request) : Prop where
  /-- SUPERVISOR CALL or LOAD PSW loads a problem-state PSW, and completes. -/
  | loads {new : Psw} (loaded : system.loadedPsw? policy callouts request = some new)
      (problem : new.isProblemState = true)
      (completed : (system.perform policy callouts request).result = .ok .completed)
  /-- SUPERVISOR CALL or LOAD PSW loads a problem-state PSW, and its completion is refused with the
  PSW stored all the same. -/
  | loadsInPart {new : Psw} (loaded : system.loadedPsw? policy callouts request = some new)
      (problem : new.isProblemState = true) {error : AccessError Refusal}
      (refused : (system.perform policy callouts request).result = .error error)
      (stored : ((system.perform policy callouts request).system.virtualMachine
        view).psw.isProblemState = true)
  /-- LOAD CONTROL stores a shadow register over the virtual PSW, and changes its state. -/
  | overwrites {first last : RegisterNumber} {address : UInt32}
      (isLoad : request = .lctl first last address)
      (covers : ¬system.Spares policy callouts request
        ⟨(system.virtualMachine view).pswAddress + 1, 1⟩)
      (changed : ((system.perform policy callouts request).system.virtualMachine
        view).psw.isProblemState ≠ (system.virtualMachine view).psw.isProblemState)

section

variable {callouts : Callouts Machine Refusal} {policy : Policy} {system : System Machine}
  {request : Request}

open Microcode GuestContext

theorem virtualMachine_of_lookUp (view : StorageView callouts) {context : GuestContext}
    {body : GuestContext → Microcode Completion}
    (isProgram : request.program policy system.registry.level = .virtualMachine body)
    {middle : Staging Machine}
    (lookedUp : lookUp.run callouts (system.staging policy request) = (.done context, middle)) :
    context = system.virtualMachine view := by
  have looks : lookUp.Achieves .ofStorage (fun found _ => found = system.virtualMachine view)
      ((system.staging policy request).scene view.memory) := by
    refine lookUp_achieves trivial fun _ => ?_
    simp [staging, Staging.scene, isProgram, AssistProgram.registers, virtualMachine,
      Cpu.assistControl]
  have ends := looks.run (view.shows system.machine) .refl fun _ _ => trivial
  rw [lookedUp] at ends
  exact ends

/-- SUPERVISOR CALL and LOAD PSW, once done, have stored the PSW that they load. -/
theorem loaded_of_ran (view : StorageView callouts) {fetchPsw : Microcode Psw}
    (fetches : request.fetchPsw? policy = some fetchPsw) {completion : Completion}
    {after : Staging Machine}
    (ran : system.ran policy callouts request = (.done completion, after)) :
    ∃ new, system.loadedPsw? policy callouts request = some new ∧
      ∃ memory : Memory, view.seen after =
        memory.put (system.virtualMachine view).pswAddress Field.first new := by
  cases request with
  | svc code =>
      obtain ⟨context, middle, lookedUp, rest⟩ := run_bind_done ran
      obtain rfl := virtualMachine_of_lookUp view rfl lookedUp
      rw [supervisorCall_eq] at rest
      obtain ⟨new, fetched, isFetched, finished⟩ :=
        run_bind_done (run_require_done (run_require_done rest))
      refine ⟨new, by simp only [loadedPsw?, Request.fetchPsw?, run_bind, lookedUp, isFetched], ?_⟩
      have presents : ((system.virtualMachine view).presentCall policy code new).Achieves
          .ofStorage (fun _ final => ∃ memory : Memory, final.memory =
            memory.put (system.virtualMachine view).pswAddress Field.first new)
          (fetched.scene view.memory) :=
        presentCall_achieves _ _ _ _ fun _ memory _ _ _ => ⟨memory, rfl⟩
      have ends := presents.run (view.shows fetched.machine) .refl fun _ _ => trivial
      rw [finished] at ends
      exact ends
  | lpsw address =>
      obtain ⟨context, middle, lookedUp, rest⟩ := run_bind_done ran
      obtain rfl := virtualMachine_of_lookUp view rfl lookedUp
      rw [loadPsw_eq] at rest
      obtain ⟨new, fetched, isFetched, finished⟩ :=
        run_bind_done (run_require_done (run_require_done (run_require_done rest)))
      refine ⟨new, by simp only [loadedPsw?, Request.fetchPsw?, run_bind, lookedUp, isFetched], ?_⟩
      have adopts : ((system.virtualMachine view).adopt new).Achieves .ofStorage
          (fun _ final => ∃ memory : Memory, final.memory =
            memory.put (system.virtualMachine view).pswAddress Field.first new)
          (fetched.scene view.memory) :=
        adopt_achieves _ _ fun _ _ _ => ⟨_, rfl⟩
      have ends := adopts.run (view.shows fetched.machine) .refl fun _ _ => trivial
      rw [finished] at ends
      exact ends
  | ssm _ | lctl _ _ _ | stevl _ | freex _ _ | fretx _ _ | lckpg _ _ | ulkpg _ _ | trbrg _ _
  | trlok _ _ | scnvu _ _ | scnru _ _ | disp0 _ _ | disp1 _ _ | disp2 _ _ | unassisted _ =>
      simp [Request.fetchPsw?] at fetches

/-- SET SYSTEM MASK, once done, has stored a PSW in the state of the virtual one. -/
theorem masked_of_ran (view : StorageView callouts) {address : UInt32} {completion : Completion}
    {after : Staging Machine}
    (ran : system.ran policy callouts (.ssm address) = (.done completion, after)) :
    ∃ (psw : Psw) (memory : Memory),
      view.seen after = memory.put (system.virtualMachine view).pswAddress Field.first psw ∧
        psw.isProblemState = (system.virtualMachine view).psw.isProblemState := by
  obtain ⟨context, middle, lookedUp, rest⟩ := run_bind_done ran
  obtain rfl := virtualMachine_of_lookUp view rfl lookedUp
  have masks : ((system.virtualMachine view).setSystemMask policy address).Achieves .ofStorage
      (fun _ final => ∃ (psw : Psw) (memory : Memory),
        final.memory = memory.put (system.virtualMachine view).pswAddress Field.first psw ∧
          psw.isProblemState = (system.virtualMachine view).psw.isProblemState)
      (middle.scene view.memory) :=
    setSystemMask_achieves _ _ _ fun _ _ => ⟨_, _, rfl, rfl⟩
  have ends := masks.run (view.shows middle.machine) .refl fun _ _ => trivial
  rw [rest] at ends
  exact ends

/-- The virtual PSW stays where it is. -/
theorem pswAddress_perform (view : StorageView callouts) (isVirtual : request.IsVirtual)
    (spares : system.SparesMicblok policy callouts request) :
    ((system.perform policy callouts request).system.virtualMachine view).pswAddress =
      (system.virtualMachine view).pswAddress := by
  have agrees := view.agreesOn_perform spares
  simp only [virtualMachine, Memory.guestContext, assistControl_perform view isVirtual,
    agrees.bytes_eq]

theorem completion_of_ran (view : StorageView callouts) (isVirtual : request.IsVirtual)
    {completion : Completion} {after : Staging Machine}
    (ran : system.ran policy callouts request = (.done completion, after)) :
    completion = .completed := by
  have faithful : Knowledge.ofStorage.faithful := trivial
  have achieves := isVirtual.achieves faithful policy system.registry.level
    (view.memory system.machine) system.cpu
  exact (ensures_of_ran (view.shows system.machine) (fun _ _ => trivial) achieves ran).1

theorem isProblemState_virtualMachine (view : StorageView callouts) (system : System Machine) :
    (system.virtualMachine view).psw.isProblemState =
      MachineStates.problemStateField.isOn ((view.memory system.machine).byte
        ((system.virtualMachine view).pswAddress + 1)).toBitVec :=
  Memory.isProblemState_get _ _

/-- What may become of the state of the virtual PSW: it stays, it is that of the PSW that has been
loaded, or a control register has been stored over it. -/
theorem isProblemState_perform (view : StorageView callouts) (isVirtual : request.IsVirtual)
    (spares : system.SparesMicblok policy callouts request) :
    ((system.perform policy callouts request).system.virtualMachine view).psw.isProblemState =
        (system.virtualMachine view).psw.isProblemState ∨
      (∃ new, system.loadedPsw? policy callouts request = some new ∧
        (system.perform policy callouts request).Concludes .completed ∧
        ((system.perform policy callouts request).system.virtualMachine view).psw.isProblemState =
          new.isProblemState) ∨
      ∃ first last address, request = .lctl first last address := by
  have sameAddress := pswAddress_perform view isVirtual spares
  have changes := byte_perform view system policy request
    ((system.virtualMachine view).pswAddress + 1)
  simp only [isProblemState_virtualMachine view (system.perform policy callouts request).system,
    sameAddress]
  rcases changes with same | ⟨completion, after, ran, concludes, seen⟩
  · exact .inl (by rw [same, isProblemState_virtualMachine])
  · rw [seen]
    cases request with
    | lctl first last address => exact .inr (.inr ⟨first, last, address, rfl⟩)
    | ssm address =>
        obtain ⟨psw, memory, isStored, sameState⟩ := masked_of_ran view ran
        exact .inl (by rw [isStored, Memory.isProblemState_put, sameState])
    | svc code =>
        obtain ⟨new, loaded, memory, isStored⟩ := loaded_of_ran view rfl ran
        refine .inr (.inl ⟨new, loaded, ?_, by rw [isStored, Memory.isProblemState_put]⟩)
        exact completion_of_ran view isVirtual ran ▸ concludes
    | lpsw address =>
        obtain ⟨new, loaded, memory, isStored⟩ := loaded_of_ran view rfl ran
        refine .inr (.inl ⟨new, loaded, ?_, by rw [isStored, Memory.isProblemState_put]⟩)
        exact completion_of_ran view isVirtual ran ▸ concludes
    | stevl _ | freex _ _ | fretx _ _ | lckpg _ _ | ulkpg _ _ | trbrg _ _ | trlok _ _ | scnvu _ _
    | scnru _ _ | disp0 _ _ | disp1 _ _ | disp2 _ _ | unassisted _ => exact isVirtual.elim

/-- The PSW that a completed instruction has loaded is the virtual PSW. -/
theorem isProblemState_of_loaded (view : StorageView callouts) (isVirtual : request.IsVirtual)
    (spares : system.SparesMicblok policy callouts request) {new : Psw}
    (loaded : system.loadedPsw? policy callouts request = some new)
    (completed : (system.perform policy callouts request).result = .ok .completed) :
    ((system.perform policy callouts request).system.virtualMachine view).psw.isProblemState =
      new.isProblemState := by
  have fetches : ∃ fetchPsw, request.fetchPsw? policy = some fetchPsw := by
    cases fetch : request.fetchPsw? policy with
    | none => simp [loadedPsw?, fetch] at loaded
    | some fetchPsw => exact ⟨fetchPsw, rfl⟩
  obtain ⟨fetchPsw, fetches⟩ := fetches
  have done : (system.perform policy callouts request).result =
      .ok Completion.completed.outcome := completed
  obtain ⟨after, ran, -, seen⟩ := ran_of_completed view done
  obtain ⟨stored, sameLoaded, memory, isStored⟩ := loaded_of_ran view fetches ran
  obtain rfl : stored = new := Option.some.inj (sameLoaded.symm.trans loaded)
  rw [isProblemState_virtualMachine, pswAddress_perform view isVirtual spares, seen, isStored,
    Memory.isProblemState_put]

/-- The virtual machine is not in virtual problem state when an instruction is performed for it. -/
theorem Isolated.supervisor {view : StorageView callouts} (isolated : system.Isolated view)
    (isVirtual : request.IsVirtual)
    (performed : (system.perform policy callouts request).result ≠ .ok .declined) :
    (system.virtualMachine view).psw.isProblemState = false := by
  obtain ⟨body, isProgram⟩ := isVirtual.program_eq policy system.registry.level
  have admitted := admitted_of_performed isProgram performed
  rw [← isolated]
  simp only [AssistControl.guestRefusal?] at admitted
  grind

/-- An instruction keeps the isolation of the virtual problem state, or breaks it. -/
theorem isolated_perform_iff (view : StorageView callouts) (isVirtual : request.IsVirtual)
    (spares : system.SparesMicblok policy callouts request) (isolated : system.Isolated view) :
    (system.perform policy callouts request).system.Isolated view ↔
      ¬system.Breaks view policy request := by
  have supervisor : (system.perform policy callouts request).result ≠ .ok .declined →
      (system.virtualMachine view).psw.isProblemState = false := isolated.supervisor isVirtual
  have changes := isProblemState_perform view isVirtual spares
  rw [Isolated, assistControl_perform view isVirtual, isolated]
  constructor
  · rintro same (⟨loaded, problem, completed⟩ | ⟨-, problem, refused, stored⟩ | ⟨-, -, changed⟩)
    · have new := isProblemState_of_loaded view isVirtual spares loaded completed
      rw [← same, supervisor (by simp [completed]), problem] at new
      contradiction
    · rw [← same, supervisor (by simp [refused])] at stored
      contradiction
    · exact changed same.symm
  · intro unbroken
    rcases changes with same | ⟨new, loaded, concludes, becomes⟩ | ⟨first, last, address, isLoad⟩
    · exact same.symm
    · cases problem : new.isProblemState with
      | false => rw [becomes, problem, supervisor concludes.performed]
      | true =>
          refine absurd ?_ unbroken
          rcases concludes with completed | ⟨error, refused⟩
          · exact .loads loaded problem completed
          · exact .loadsInPart loaded problem refused (becomes.trans problem)
    · refine Classical.byContradiction fun changed => unbroken ?_
      refine .overwrites isLoad (fun spared => changed ?_) (Ne.symm changed)
      have inState : Region.Contains ⟨(system.virtualMachine view).pswAddress + 1, 1⟩
          ((system.virtualMachine view).pswAddress + 1) := by
        simp [Region.Contains, Region.distance, Address.wrap]
      rw [isProblemState_virtualMachine, isProblemState_virtualMachine,
        pswAddress_perform view isVirtual spares, view.agreesOn_perform spared _ inState]

/-- Along a run, control register 6 and the virtual PSW agree on the virtual problem state, and
nothing is performed for a virtual machine in that state, if and only if no instruction breaks the
isolation. -/
theorem isolated_along_iff (view : StorageView callouts) {requests : List Request}
    (areVirtual : ∀ request ∈ requests, request.IsVirtual)
    (spares : system.Along policy callouts
      (fun system request => system.SparesMicblok policy callouts request) requests)
    (isolated : system.Isolated view) :
    system.Along policy callouts
        (fun system request =>
          (system.perform policy callouts request).system.Isolated view ∧
            ((system.virtualMachine view).psw.isProblemState = true →
              (system.perform policy callouts request).result = .ok .declined)) requests ↔
      system.Along policy callouts
        (fun system request => ¬system.Breaks view policy request) requests := by
  induction requests generalizing system with
  | nil => exact Iff.rfl
  | cons request rest ih =>
      have isVirtual := areVirtual request (by simp)
      have step := isolated_perform_iff view isVirtual spares.1 isolated
      have declines : (system.virtualMachine view).psw.isProblemState = true →
          (system.perform policy callouts request).result = .ok .declined := by
        intro problem
        refine Classical.byContradiction fun performed => ?_
        rw [isolated.supervisor isVirtual performed] at problem
        contradiction
      have rest := fun unbroken =>
        ih (fun other other_mem => areVirtual other (by simp [other_mem])) spares.2
          (step.mpr unbroken)
      constructor
      · rintro ⟨⟨stays, -⟩, along⟩
        have unbroken := step.mp stays
        exact ⟨unbroken, (rest unbroken).mp along⟩
      · rintro ⟨unbroken, along⟩
        exact ⟨⟨step.mpr unbroken, declines⟩, (rest unbroken).mpr along⟩

/-- A system whose virtual machine, in supervisor state, has a problem-state PSW at address 4000 and
a system mask at address 4008. -/
def problemLoader : System Memory where
  registry := Registry.initial true false
  cpu :=
    { Cpu.initial with
      control := RegisterFile.zero.load 6 0x80001000
      psw := { states := { problemState := true, extendedControl := true } } }
  machine :=
    ((((Memory.zero.store 0x1004 [0, 0, 0x30, 0]).store
      0x1008 [0, 0, 0x20, 0xa8]).store
      0x1014 [0x80, 0, 0, 0]).store
      0x20a8 [0, 8, 0, 0, 0, 0, 4, 0]).store
      0x4000 [0, 9, 0, 0, 0, 0, 0x50, 0]

theorem problemLoader_breaks :
    ¬problemLoader.Along .splitKeys Memory.callouts
      (fun system request =>
        (system.perform .splitKeys Memory.callouts request).system.Isolated Memory.storageView ∧
          ((system.virtualMachine Memory.storageView).psw.isProblemState = true →
            (system.perform .splitKeys Memory.callouts request).result = .ok .declined))
      [.lpsw 0x4000, .ssm 0x4008] := by
  rw [isolated_along_iff Memory.storageView (by simp [Request.IsVirtual]) (by decide +kernel)
    (by decide +kernel)]
  rintro ⟨unbroken, -⟩
  exact unbroken (.loads
    (show problemLoader.loadedPsw? .splitKeys Memory.callouts (.lpsw 0x4000) =
      some (Psw.ofBytes #v[0, 9, 0, 0, 0, 0, 0x50, 0]) by decide +kernel)
    (by decide) (Response.result_eq_ok (by decide +kernel)))

/-- After LOAD PSW has put the virtual machine into problem state, SET SYSTEM MASK is performed for
it. -/
theorem problemLoader_performs_privileged :
    problemLoader.Isolated Memory.storageView ∧
      problemLoader.Along .splitKeys Memory.callouts
        (fun system request => system.SparesMicblok .splitKeys Memory.callouts request)
        [.lpsw 0x4000, .ssm 0x4008] ∧
      let next := (problemLoader.perform .splitKeys Memory.callouts (.lpsw 0x4000)).system
      ¬next.Isolated Memory.storageView ∧
        (next.virtualMachine Memory.storageView).psw.isProblemState = true ∧
        (next.perform .splitKeys Memory.callouts (.ssm 0x4008)).result = .ok .completed := by
  refine ⟨by decide +kernel, by decide +kernel, by decide +kernel, by decide +kernel, ?_⟩
  exact Response.result_eq_ok (by decide +kernel)

end

end System

end Assist370
