import Assist370.Facility
import Assist370.Proofs.Commit

/-!
# Performance and callouts

An instruction for an assist is refused at the gate, or a program runs for it and is settled
(`System.perform_course`). The callouts made for it are those that a record of callouts shows
(`System.calloutsMade`): they all keep to real storage, and unless the assist gets as far as its
completion they only look at it.
-/

namespace Assist370

variable {Machine Refusal : Type}

/-- The course that an instruction for an assist takes, with what it comes to. -/
inductive System.Course (policy : Policy) (callouts : Callouts Machine Refusal)
    (system : System Machine) (request : Request) : Response Machine Refusal → Prop where
  /-- The gate leaves the instruction to software. Only the gate of a virtual machine's assists
  forgets the address of the virtual interval timer. -/
  | refused (reason : Decline) (timer : Option UInt32)
      (kept : request.assist.family = .cp → timer = system.cpu.virtualTimerAddress) :
      Course policy callouts system request
        ({ system with cpu := { system.cpu with virtualTimerAddress := timer } }.decline
          request.assist reason [])
  /-- There is no such instruction. -/
  | missing :
      Course policy callouts system request
        { result := .ok .operationException, log := [], system }
  /-- The program of an assist for the control program runs. -/
  | controlProgram (body : Microcode Completion)
      (isProgram : request.program policy system.registry.level = .controlProgram body) :
      Course policy callouts system request
        ({ system with registry := system.registry.recordCall request.assist }.settle callouts
          request.assist (body.run callouts { machine := system.machine, cpu := system.cpu }))
  /-- The program of an assist for a virtual machine runs, from the look-up of the virtual machine
  on. -/
  | virtualMachine (body : GuestContext → Microcode Completion) (timer : Option UInt32)
      (isProgram : request.program policy system.registry.level = .virtualMachine body)
      (admitted : system.cpu.assistControl.guestRefusal? = none) :
      Course policy callouts system request
        ({ system with
            registry := system.registry.recordCall request.assist
            cpu := { system.cpu with virtualTimerAddress := timer } }.settle callouts
          request.assist ((GuestContext.lookUp.bind body).run callouts
            { machine := system.machine
              cpu := { system.cpu with virtualTimerAddress := none } }))

namespace Request

/-- An assist that does not belong to a virtual machine's instructions has a program behind the
control program's gate. -/
theorem family_eq_vm {policy : Policy} {level : UInt32} {request : Request}
    {body : GuestContext → Microcode Completion}
    (isProgram : request.program policy level = .virtualMachine body) :
    request.assist.family = .vm := by
  cases request with
  | unassisted assist =>
      simp only [program] at isProgram
      simp only [Request.assist]
      cases family : assist.family with
      | vm => rfl
      | cp => simp [family, decliningProgram] at isProgram
  | ssm _ | svc _ | lpsw _ | lctl _ _ _ => rfl
  | stevl _ | freex _ _ | fretx _ _ | lckpg _ _ | ulkpg _ _ | trbrg _ _ | trlok _ _ | scnvu _ _
  | scnru _ _ | disp0 _ _ | disp1 _ _ | disp2 _ _ => simp [program] at isProgram

end Request

namespace System

theorem performForGuest_eq (callouts : Callouts Machine Refusal) (system : System Machine)
    (assist : Assist) (body : GuestContext → Microcode Completion) :
    ∃ timer, system.performForGuest callouts assist body =
      { system with cpu := { system.cpu with virtualTimerAddress := timer } }.settle callouts
        assist ((GuestContext.lookUp.bind body).run callouts
          { machine := system.machine, cpu := system.cpu }) := by
  simp only [performForGuest, Microcode.run_bind]
  rcases GuestContext.lookUp.run callouts { machine := system.machine, cpu := system.cpu } with
    ⟨context | reason | error, staging⟩ <;> exact ⟨_, rfl⟩

/-- Every instruction takes one of the courses. -/
theorem perform_course (policy : Policy) (callouts : Callouts Machine Refusal)
    (system : System Machine) (request : Request) :
    Course policy callouts system request (system.perform policy callouts request) := by
  simp only [perform]
  cases isProgram : request.program policy system.registry.level with
  | controlProgram body =>
      simp only [performControlProgram]
      split
      · exact .refused _ _ fun _ => rfl
      · exact .missing
      · exact .controlProgram body isProgram
  | virtualMachine body =>
      simp only [performVirtualMachine]
      split
      · exact .refused _ _ fun _ => rfl
      · split
        · refine .refused _ _ fun family => ?_
          rw [Request.family_eq_vm isProgram] at family
          contradiction
        · rename_i _ admitted
          obtain ⟨timer, performed⟩ := performForGuest_eq callouts
            { system with
              registry := system.registry.recordCall request.assist
              cpu := { system.cpu with virtualTimerAddress := none } } request.assist body
          rw [performed]
          exact .virtualMachine body timer isProgram admitted

end System

section Callouts

variable (callouts : Callouts Machine Refusal)

theorem Microcode.run_inSpace {α : Type} (program : Microcode α) {staging : Staging Machine}
    (inSpace : staging.journal.InSpace) :
    (program.run callouts staging).2.journal.InSpace := by
  induction program generalizing staging with
  | done value => exact inSpace
  | decline reason => exact inSpace
  | act action next ih =>
      have first : (action.run callouts staging).2.journal.InSpace := by
        cases action with
        | store address bytes => exact Journal.inSpace_store inSpace address bytes
        | storageKey _ | translate _ =>
            simp only [Action.run]
            split <;> exact inSpace
        | fetch _ _ | registers | modify _ | setTimer _ | purgeTlb | handOff _ _ | log _ =>
            exact inSpace
      simp only [run]
      split
      · rename_i answer middle ran
        rw [ran] at first
        exact ih answer first
      · rename_i error middle ran
        rw [ran] at first
        exact first

namespace System

theorem settle_inSpace (system : System Machine) (assist : Assist) (before : Staging Machine)
    (program : Microcode Completion) (inSpace : before.journal.InSpace) :
    callouts.Reaches Callout.InSpace before.machine
      (system.settle callouts assist (program.run callouts before)).system.machine := by
  have looked := (program.run_looks callouts before).mono fun _ => Callout.Looks.inSpace
  have staged := program.run_inSpace callouts inSpace
  generalize program.run callouts before = ran at looked staged
  rcases ran with ⟨completion | reason | error, staging⟩
  · have committed := staging.commit_inSpace callouts staged
    simp only [settle]
    split <;> rename_i committing <;> rw [committing] at committed <;>
      exact looked.trans committed
  · exact looked
  · exact looked

/-- An assist that does not complete only looks at the machine. -/
theorem settle_looks (system : System Machine) (assist : Assist) (before : Staging Machine)
    (program : Microcode Completion)
    (unperformed : (system.settle callouts assist (program.run callouts before)).result =
        .ok .declined ∨
      (system.settle callouts assist (program.run callouts before)).result =
        .ok .operationException) :
    callouts.Reaches Callout.Looks before.machine
      (system.settle callouts assist (program.run callouts before)).system.machine := by
  have looked := program.run_looks callouts before
  generalize program.run callouts before = ran at looked unperformed
  rcases ran with ⟨completion | reason | error, staging⟩
  · simp only [settle] at unperformed
    split at unperformed
    · simp at unperformed
    · cases completion <;> simp [Completion.outcome] at unperformed
  · exact looked
  · exact looked

variable {policy : Policy} {system : System Machine} {request : Request}
  {response : Response Machine Refusal}

/-- The callouts made for an instruction keep to real storage. -/
theorem Course.inSpace (course : Course policy callouts system request response) :
    callouts.Reaches Callout.InSpace system.machine response.system.machine := by
  cases course with
  | refused _ _ _ => exact .refl
  | missing => exact .refl
  | controlProgram body _ =>
      exact settle_inSpace callouts _ _ { machine := system.machine, cpu := system.cpu } body
        Journal.inSpace_empty
  | virtualMachine body _ _ _ =>
      exact settle_inSpace callouts _ _
        { machine := system.machine, cpu := { system.cpu with virtualTimerAddress := none } } _
        Journal.inSpace_empty

/-- An instruction that is left to software, or that does not exist, leaves the machine only
looked at. -/
theorem Course.looks (course : Course policy callouts system request response)
    (unperformed : response.result = .ok .declined ∨ response.result = .ok .operationException) :
    callouts.Reaches Callout.Looks system.machine response.system.machine := by
  cases course with
  | refused _ _ _ => exact .refl
  | missing => exact .refl
  | controlProgram body _ => exact settle_looks callouts _ _ _ body unperformed
  | virtualMachine body _ _ _ => exact settle_looks callouts _ _ _ _ unperformed

end System

end Callouts

section Maps

variable {Source Target : Type} {source : Callouts Source Refusal}
  {target : Callouts Target Refusal}

/-- The facility with another machine. -/
def System.map (change : Source → Target) (system : System Source) : System Target :=
  { system with machine := change system.machine }

/-- The same response of another machine. -/
def Response.map (change : Source → Target) (response : Response Source Refusal) :
    Response Target Refusal :=
  { response with system := response.system.map change }

namespace System

theorem settle_map (hom : Callouts.Hom source target) (system : System Source) (assist : Assist)
    (ran : Ending Refusal Completion × Staging Source) :
    (system.map hom.map).settle target assist (Prod.map id (Staging.map hom.map) ran) =
      (system.settle source assist ran).map hom.map := by
  rcases ran with ⟨completion | reason | error, staging⟩
  · simp only [settle, Prod.map, id, Staging.commit_map]
    rcases staging.commit source with ⟨_ | cpu, machine⟩ <;> rfl
  · rfl
  · rfl

theorem performForGuest_map (hom : Callouts.Hom source target) (system : System Source)
    (assist : Assist) (body : GuestContext → Microcode Completion) :
    (system.map hom.map).performForGuest target assist body =
      (system.performForGuest source assist body).map hom.map := by
  have looked := GuestContext.lookUp.run_map hom
    { machine := system.machine, cpu := system.cpu }
  simp only [Staging.map] at looked
  simp only [performForGuest, map, looked]
  rcases GuestContext.lookUp.run source { machine := system.machine, cpu := system.cpu } with
    ⟨context | reason | error, staging⟩
  · simp only [Prod.map, id, Microcode.run_map]
    exact settle_map hom
      { system with
        cpu := { system.cpu with virtualTimerAddress := staging.cpu.virtualTimerAddress } }
      assist ((body context).run source staging)
  · rfl
  · rfl

/-- An instruction comes to the same on a machine that answers alike. -/
theorem perform_map (hom : Callouts.Hom source target) (policy : Policy) (system : System Source)
    (request : Request) :
    (system.map hom.map).perform policy target request =
      (system.perform policy source request).map hom.map := by
  simp only [perform, map]
  split
  · rename_i body _
    simp only [performControlProgram]
    split
    · rfl
    · rfl
    · have ran := body.run_map hom { machine := system.machine, cpu := system.cpu }
      simp only [Staging.map] at ran
      rw [ran]
      exact settle_map hom
        { system with registry := system.registry.recordCall request.assist } request.assist
        (body.run source { machine := system.machine, cpu := system.cpu })
  · simp only [performVirtualMachine]
    split
    · rfl
    · split
      · rfl
      · exact performForGuest_map hom
          { system with
            registry := system.registry.recordCall request.assist
            cpu := { system.cpu with virtualTimerAddress := none } } request.assist _

end System

end Maps

namespace System

variable (policy : Policy) (callouts : Callouts Machine Refusal) (system : System Machine)
  (request : Request)

/-- The callouts that are made for an instruction, in their order. -/
def calloutsMade : List Callout :=
  ((system.map fun machine => (machine, [])).perform policy callouts.recorded
    request).system.machine.2

theorem forget_perform_recorded :
    ((system.map fun machine => (machine, [])).perform policy callouts.recorded
      request).map Prod.fst = system.perform policy callouts request :=
  (perform_map callouts.forgetRecord policy (system.map fun machine => (machine, []))
    request).symm

/-- The callouts made for an instruction lead to the machine that it leaves, and each of them keeps
to real storage. -/
theorem reaches_calloutsMade :
    callouts.Reaches
      (fun callout => callout ∈ system.calloutsMade policy callouts request ∧ callout.InSpace)
      system.machine (system.perform policy callouts request).system.machine := by
  have reached := (perform_course policy callouts.recorded
    (system.map fun machine => (machine, [])) request).inSpace
  rw [← forget_perform_recorded]
  exact reached.forget

/-- An instruction that is left to software, or that does not exist, makes callouts that look at
real storage and no others. -/
theorem calloutsMade_looks
    (unperformed : (system.perform policy callouts request).result = .ok .declined ∨
      (system.perform policy callouts request).result = .ok .operationException) :
    ∀ callout ∈ system.calloutsMade policy callouts request, callout.Looks := by
  rw [← forget_perform_recorded] at unperformed
  have reached := (perform_course policy callouts.recorded
    (system.map fun machine => (machine, [])) request).looks callouts.recorded unperformed
  obtain ⟨calls, record, allMade⟩ := reached.record
  intro callout callout_mem
  rw [calloutsMade, record] at callout_mem
  exact allMade callout callout_mem

end System

end Assist370
