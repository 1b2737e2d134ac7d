import Mathlib.Logic.Basic
import Assist370.Proofs.CalloutOrder
import Assist370.Proofs.PlainMachine

/-!
# Admission and counting of one call

A call of an assist is counted if the gate of its class is open, and it is counted as a hit if the
assist is then performed to its end, which takes a commit that is not refused
(`System.perform_counted`). Whether a gate is open is said here by what it asks for, with no regard
to the order in which it does so.
-/

namespace Assist370

/-- The processor is in the state that assists of a class are for, and control register 6 has them
on. -/
def Cpu.Admits (cpu : Cpu) : AssistClass → Prop
  | .cp => cpu.psw.isProblemState = false ∧ cpu.assistControl.cpAssist = true
  | .vm => cpu.psw.isProblemState = true ∧ cpu.assistControl.vmAssist = true ∧
      cpu.assistControl.virtualProblem = false

instance (cpu : Cpu) : (family : AssistClass) → Decidable (cpu.Admits family)
  | .cp => inferInstanceAs (Decidable (_ ∧ _))
  | .vm => inferInstanceAs (Decidable (_ ∧ _))

namespace Registry

/-- The gate of an assist is open for a processor. -/
def Admits (registry : Registry) (cpu : Cpu) (assist : Assist) : Prop :=
  cpu.sieActive = false ∧ registry.available = true ∧ registry.isEnabled assist = true ∧
    cpu.Admits assist.family

instance (registry : Registry) (cpu : Cpu) (assist : Assist) :
    Decidable (registry.Admits cpu assist) :=
  inferInstanceAs (Decidable (_ ∧ _))

/-- An assist is one of the control program, and the processor is in supervisor state and interprets
no guest by hardware, but the facility is not installed. -/
def Misses (registry : Registry) (cpu : Cpu) (assist : Assist) : Prop :=
  assist.family = .cp ∧ cpu.sieActive = false ∧ cpu.psw.isProblemState = false ∧
    registry.available = false

theorem not_admits_of_misses {registry : Registry} {cpu : Cpu} {assist : Assist}
    (misses : registry.Misses cpu assist) : ¬registry.Admits cpu assist := by
  intro admits
  exact Bool.false_ne_true (misses.2.2.2.symm.trans admits.2.1)

variable (registry : Registry) (cpu : Cpu) {assist : Assist}

theorem cpGate_eq_passed (isControl : assist.family = .cp) :
    registry.cpGate assist cpu = .passed ↔ registry.Admits cpu assist := by
  simp only [cpGate, Admits, isControl, Cpu.Admits]
  grind

theorem cpGate_eq_operationException (isControl : assist.family = .cp) :
    registry.cpGate assist cpu = .operationException ↔ registry.Misses cpu assist := by
  simp only [cpGate, Misses, isControl]
  grind

theorem guestRefusal?_eq_none (isGuest : assist.family = .vm) :
    registry.guestRefusal? assist cpu = none ∧ cpu.assistControl.guestRefusal? = none ↔
      registry.Admits cpu assist := by
  simp only [guestRefusal?, AssistControl.guestRefusal?, Admits, isGuest, Cpu.Admits]
  grind

section Counters

variable (called assist : Assist)

@[simp]
theorem calls_recordCall : ((registry.recordCall called).entry assist).calls =
    (registry.entry assist).calls + if assist = called then 1 else 0 := by
  rw [recordCall, entry_modify]
  grind

@[simp]
theorem hits_recordCall :
    ((registry.recordCall called).entry assist).hits = (registry.entry assist).hits := by
  rw [recordCall, entry_modify]
  grind

@[simp]
theorem calls_recordHit :
    ((registry.recordHit called).entry assist).calls = (registry.entry assist).calls := by
  rw [recordHit, entry_modify]
  grind

@[simp]
theorem hits_recordHit : ((registry.recordHit called).entry assist).hits =
    (registry.entry assist).hits + if assist = called then 1 else 0 := by
  rw [recordHit, entry_modify]
  grind

end Counters

end Registry

theorem Request.family_eq_cp {policy : Policy} {level : UInt32} {request : Request}
    {body : Microcode Completion}
    (isProgram : request.program policy level = .controlProgram body) :
    request.assist.family = .cp := by
  cases request with
  | unassisted assist =>
      simp only [program] at isProgram
      simp only [Request.assist]
      cases family : assist.family with
      | cp => rfl
      | vm => simp [family, decliningProgram] at isProgram
  | stevl _ | freex _ _ | fretx _ _ | lckpg _ _ | ulkpg _ _ | trbrg _ _ | trlok _ _ | scnvu _ _
  | scnru _ _ | disp0 _ _ | disp1 _ _ | disp2 _ _ => rfl
  | ssm _ | svc _ | lpsw _ | lctl _ _ _ => simp [program] at isProgram

variable {Machine Refusal : Type}

namespace System

/-- What becomes of a call of an assist, and how it is counted. -/
inductive Counted (system : System Machine) (assist : Assist)
    (response : Response Machine Refusal) : Prop where
  /-- The gate is shut, and the instruction is left to software. -/
  | shut (notAdmitted : ¬system.registry.Admits system.cpu assist)
      (notMissing : ¬system.registry.Misses system.cpu assist)
      (result : response.result = .ok .declined)
      (registry : response.system.registry = system.registry)
  /-- There is no such instruction. -/
  | missing (misses : system.registry.Misses system.cpu assist)
      (result : response.result = .ok .operationException)
      (registry : response.system.registry = system.registry)
  /-- The gate is open, and later the instruction is left to software or fails. -/
  | called (admitted : system.registry.Admits system.cpu assist)
      (unperformed : ¬response.Performed)
      (notMissing : response.result ≠ .ok .operationException)
      (registry : response.system.registry = system.registry.recordCall assist)
  /-- The gate is open, and the assist is performed to its end. -/
  | hit (admitted : system.registry.Admits system.cpu assist)
      (performed : response.Performed)
      (registry : response.system.registry =
        (system.registry.recordCall assist).recordHit assist)

variable {system before : System Machine} {assist : Assist}

/-- A program whose call has been counted is settled with a hit exactly if it is done and its commit
is not refused. -/
theorem settle_counted (admitted : system.registry.Admits system.cpu assist)
    (called : before.registry = system.registry.recordCall assist)
    (callouts : Callouts Machine Refusal) (ran : Ending Refusal Completion × Staging Machine) :
    system.Counted assist (before.settle callouts assist ran) := by
  rcases ran with ⟨completion | reason | error, staging⟩
  · simp only [settle]
    split
    · exact .called admitted (by simp [Response.Performed]) (by simp) called
    · exact .hit admitted (Response.performed_iff.mpr ⟨completion, rfl⟩)
        (congrArg (Registry.recordHit · assist) called)
  · exact .called admitted (by simp [settle, decline, Response.Performed])
      (by simp [settle, decline]) called
  · exact .called admitted (by simp [settle, Response.Performed]) (by simp [settle]) called

theorem perform_counted (policy : Policy) (callouts : Callouts Machine Refusal)
    (system : System Machine) (request : Request) :
    system.Counted request.assist (system.perform policy callouts request) := by
  simp only [perform]
  cases isProgram : request.program policy system.registry.level with
  | controlProgram body =>
      have isControl := Request.family_eq_cp isProgram
      have passes := system.registry.cpGate_eq_passed system.cpu isControl
      have misses := system.registry.cpGate_eq_operationException system.cpu isControl
      simp only [performControlProgram]
      split
      · rename_i gate
        exact .shut (by simp [← passes, gate]) (by simp [← misses, gate]) rfl rfl
      · rename_i gate
        exact .missing (misses.mp gate) rfl rfl
      · rename_i gate
        exact settle_counted (passes.mp gate) rfl callouts _
  | virtualMachine body =>
      have isGuest := Request.family_eq_vm isProgram
      have passes := system.registry.guestRefusal?_eq_none system.cpu isGuest
      have notMissing : ¬system.registry.Misses system.cpu request.assist := by
        rintro ⟨isControl, -⟩
        rw [isGuest] at isControl
        contradiction
      simp only [performVirtualMachine]
      split
      · rename_i refused
        exact .shut (by simp [← passes, refused]) notMissing rfl rfl
      · rename_i opened
        split
        · rename_i reason refused
          have shut : system.cpu.assistControl.guestRefusal? = some reason := refused
          exact .shut (by simp [← passes, shut]) notMissing rfl rfl
        · rename_i admitted
          obtain ⟨timer, performed⟩ := performForGuest_eq callouts
            { system with
              registry := system.registry.recordCall request.assist
              cpu := { system.cpu with virtualTimerAddress := none } } request.assist body
          rw [performed]
          exact settle_counted (passes.mp ⟨opened, admitted⟩) rfl callouts _

namespace Counted

variable {called : Assist} {response : Response Machine Refusal}
  (counted : system.Counted called response)

include counted

/-- A call adds one to its own call counter exactly if the gate is open, and to no other. -/
theorem calls (assist : Assist) :
    (response.system.registry.entry assist).calls = (system.registry.entry assist).calls +
      if assist = called ∧ system.registry.Admits system.cpu assist then 1 else 0 := by
  have shut : ¬system.registry.Admits system.cpu called →
      ¬(assist = called ∧ system.registry.Admits system.cpu assist) := by
    rintro notAdmitted ⟨rfl, admits⟩
    exact notAdmitted admits
  have opened : system.registry.Admits system.cpu called →
      (assist = called ↔ assist = called ∧ system.registry.Admits system.cpu assist) := by
    intro admits
    exact ⟨fun own => ⟨own, own ▸ admits⟩, And.left⟩
  cases counted with
  | shut notAdmitted _ _ registry => rw [registry, if_neg (shut notAdmitted), Nat.add_zero]
  | missing misses _ registry =>
      rw [registry, if_neg (shut (Registry.not_admits_of_misses misses)), Nat.add_zero]
  | called admitted _ _ registry =>
      rw [registry, Registry.calls_recordCall, if_congr (opened admitted) rfl rfl]
  | hit admitted _ registry =>
      rw [registry, Registry.calls_recordHit, Registry.calls_recordCall,
        if_congr (opened admitted) rfl rfl]

/-- A call adds one to its own hit counter exactly if the assist is performed to its end, and to no
other. -/
theorem hits (assist : Assist) :
    (response.system.registry.entry assist).hits = (system.registry.entry assist).hits +
      if assist = called ∧ response.Performed then 1 else 0 := by
  cases counted with
  | shut _ _ result registry => simp [registry, Response.Performed, result]
  | missing _ result registry => simp [registry, Response.Performed, result]
  | called _ unperformed _ registry => simp [registry, unperformed]
  | hit _ performed registry => simp [registry, performed]

/-- A call finds no such instruction exactly if the control program calls an assist of a facility
that is not installed. -/
theorem missing_iff : response.result = .ok .operationException ↔
    system.registry.Misses system.cpu called := by
  have found : system.registry.Admits system.cpu called →
      ¬system.registry.Misses system.cpu called :=
    fun admits misses => Registry.not_admits_of_misses misses admits
  cases counted with
  | shut _ notMissing result _ => simp [result, notMissing]
  | missing misses result _ => simp [result, misses]
  | called admitted _ notMissing _ => exact iff_of_false notMissing (found admitted)
  | hit admitted performed _ =>
      refine iff_of_false (fun missing => ?_) (found admitted)
      simp [Response.Performed, missing] at performed

theorem admits_of_performed (performed : response.Performed) :
    system.registry.Admits system.cpu called := by
  cases counted with
  | shut _ _ result _ => simp [Response.Performed, result] at performed
  | missing _ result _ => simp [Response.Performed, result] at performed
  | called admitted _ _ _ | hit admitted _ _ => exact admitted

end Counted

/-- An assist that is declared without being performed always ends by declining. -/
theorem unperformed_of_unassisted (policy : Policy) (callouts : Callouts Machine Refusal)
    (system : System Machine) (assist : Assist) :
    ¬(system.perform policy callouts (.unassisted assist)).Performed := by
  intro performed
  obtain ⟨completion, completed⟩ := Response.performed_iff.mp performed
  obtain ⟨isDone, -⟩ := (perform_conduct policy callouts system _).done_of_completed completed
  have never : ∀ known scene, ((Request.unassisted assist).program policy
      system.registry.level).microcode.Achieves known (fun _ _ => False) scene := by
    intro known scene
    rw [Request.program]
    cases assist.family with
    | cp => exact (Microcode.ensures_decline _).mpr trivial
    | vm => exact Microcode.achieves_skip fun _ _ => (Microcode.ensures_decline _).mpr trivial
  exact ensures_of_ran (callouts.shows_constant Memory.zero system.machine) (fun _ _ => trivial)
    (never _ _) (Prod.ext isDone rfl)

/-- Only an assist that the facility performs is performed to its end. -/
theorem isSupported_of_performed {policy : Policy} {callouts : Callouts Machine Refusal}
    {system : System Machine} {request : Request}
    (performed : (system.perform policy callouts request).Performed) :
    request.assist.isSupported = true := by
  cases request with
  | unassisted assist => exact absurd performed (unperformed_of_unassisted _ _ _ assist)
  | ssm _ | svc _ | lpsw _ | lctl _ _ _ | stevl _ | freex _ _ | fretx _ _ | lckpg _ _ | ulkpg _ _
  | trbrg _ _ | trlok _ _ | scnvu _ _ | scnru _ _ | disp0 _ _ | disp1 _ _ | disp2 _ _ => rfl

end System

end Assist370
