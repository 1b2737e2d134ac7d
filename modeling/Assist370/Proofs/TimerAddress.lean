import Assist370.Proofs.Confinement
import Assist370.Proofs.Counting
import Assist370.Proofs.TimerUse

/-!
# The address of the virtual interval timer

The processor notes where the interval timer of the running virtual machine lies, so that it can go
on counting it down. Only the gate of the virtual machine's assists notes it: once it has found that
a virtual machine runs which the assist may serve, it forgets the address, and it notes the one in
the MICBLOK if control register 6 lets it get there. This holds whatever becomes of the assist
afterwards, so that over a run the address is the one that the last such gate has left.
-/

namespace Assist370

variable {Machine Refusal : Type}

/-- A virtual machine runs on a processor that interprets no guest by hardware, and the facility is
installed with the assist switched on: what the gate asks for before it turns to control register
6. -/
def Registry.ServesGuest (registry : Registry) (cpu : Cpu) (assist : Assist) : Prop :=
  cpu.sieActive = false ∧ cpu.psw.isProblemState = true ∧ registry.available = true ∧
    registry.isEnabled assist = true

instance (registry : Registry) (cpu : Cpu) (assist : Assist) :
    Decidable (registry.ServesGuest cpu assist) :=
  inferInstanceAs (Decidable (_ ∧ _))

theorem Registry.servesGuest_iff (registry : Registry) (cpu : Cpu) (assist : Assist) :
    registry.ServesGuest cpu assist ↔ registry.guestRefusal? assist cpu = none := by
  simp only [ServesGuest, guestRefusal?]
  grind

/-- Control register 6 admits the assists of the virtual machine, has its interval timer kept by the
assist, and addresses a MICBLOK that lies within its block of 2K. -/
def AssistControl.KeepsVirtualTimer (control : AssistControl) : Prop :=
  control.vmAssist = true ∧ control.virtualProblem = false ∧ control.virtualTimer = true ∧
    control.micblok.toNat % 0x800 ≤ 0x7e0

instance (control : AssistControl) : Decidable control.KeepsVirtualTimer :=
  inferInstanceAs (Decidable (_ ∧ _))

namespace System

/-- The address of the virtual interval timer as the MICBLOK gives it, if control register 6 has it
kept and the MICBLOK can be fetched. -/
def virtualTimer? (system : System Machine) (callouts : Callouts Machine Refusal) :
    Option UInt32 :=
  let control := system.cpu.assistControl
  if control.KeepsVirtualTimer then
    (callouts.readReal control.micblok Micblok.size system.machine).1.toOption.map
      fun bytes => Address.wrap (Micblok.ofBytes bytes).virtualTimer
  else
    none

/-- The instruction is for an assist of a virtual machine, and one runs that the assist may
serve. -/
def NotesTimer (system : System Machine) (request : Request) : Prop :=
  request.assist.family = .vm ∧ system.registry.ServesGuest system.cpu request.assist

instance (system : System Machine) (request : Request) : Decidable (system.NotesTimer request) :=
  inferInstanceAs (Decidable (_ ∧ _))

end System

section Programs

theorem Microcode.KeepsTimers.virtualTimerAddress_run {α : Type} {program : Microcode α}
    {mayLoad : Bool} (keeps : program.KeepsTimers mayLoad) (callouts : Callouts Machine Refusal)
    (staging : Staging Machine) :
    (program.run callouts staging).2.cpu.virtualTimerAddress =
      staging.cpu.virtualTimerAddress := by
  refine Takes.keeps keeps (fun staging => staging.cpu.virtualTimerAddress)
    (fun action staging allowed => ?_) staging
  cases action with
  | modify change => exact (allowed staging.cpu).2.2
  | storageKey _ | translate _ =>
      simp only [Action.run]
      split <;> rfl
  | fetch _ _ | store _ _ | registers | setTimer _ | purgeTlb | handOff _ _ | log _ => rfl

/-- A MICBLOK lies within its block if it begins early enough in it. -/
theorem GuestContext.liesWithinBlock_iff (address : UInt32) :
    liesWithinBlock address = true ↔ address.toNat % 0x800 ≤ 0x7e0 := by
  have low : (address &&& 0x7ff).toNat = address.toNat % 0x800 := by
    rw [UInt32.toNat_and]
    exact Nat.and_two_pow_sub_one_eq_mod address.toNat 11
  rw [liesWithinBlock, decide_eq_true_iff, UInt32.le_iff_toNat_le, low]
  rfl

theorem AssistControl.micblok_lt (control : AssistControl) :
    control.micblok.toNat < Address.space := by
  have inField := (micblokField.get control.bits).isLt
  simp only [micblokField] at inField
  simp [micblok, micblokField, Address.space, Nat.shiftLeft_eq]
  omega

/-- With nothing stored, bytes that lie within the address space are fetched by a single callout. -/
theorem Journal.fetch_empty (callouts : Callouts Machine Refusal) {address : UInt32} {length : Nat}
    (machine : Machine) (start_lt : address.toNat < Address.space)
    (inSpace : address.toNat + length ≤ Address.space) :
    (empty.fetch callouts address length machine).1.toOption =
      (callouts.readReal address length machine).1.toOption := by
  have wrapped : Address.wrap address = address := Address.wrap_of_lt start_lt
  have fits : length ≤ Address.space - (Address.wrap address).toNat := by
    rw [wrapped]
    omega
  rw [fetch, dif_pos fits, wrapped, fetchRun]
  rcases callouts.readReal address length machine with ⟨refusal | bytes, after⟩ <;> rfl

namespace GuestContext

open Microcode

/-- Fetches the virtual PSW, which the MICBLOK addresses. -/
def lookUpPsw (control : AssistControl) (micblok : Micblok) : Microcode GuestContext := do
  let pswAddress := Address.wrap micblok.virtualPsw
  let psw ← fetch pswAddress Field.first
  return { control, micblok, pswAddress, psw }

/-- What the look-up of the virtual machine does once it has the MICBLOK. -/
def lookUpIn (control : AssistControl) (micblok : Micblok) : Microcode GuestContext := do
  if control.virtualTimer then
    modify fun cpu =>
      { cpu with virtualTimerAddress := some (Address.wrap micblok.virtualTimer) }
  lookUpPsw control micblok

theorem virtualTimerAddress_lookUpIn (callouts : Callouts Machine Refusal)
    (control : AssistControl) (micblok : Micblok) (staging : Staging Machine) :
    ((lookUpIn control micblok).run callouts staging).2.cpu.virtualTimerAddress =
      if control.virtualTimer then
        some (Address.wrap micblok.virtualTimer)
      else
        staging.cpu.virtualTimerAddress := by
  have keeps : (lookUpPsw control micblok).KeepsTimers false := by simp [lookUpPsw]
  rw [lookUpIn]
  split
  · exact keeps.virtualTimerAddress_run callouts _
  · exact keeps.virtualTimerAddress_run callouts staging

theorem lookUp_eq : lookUp = (do
    let control := (← registers).assistControl
    require (liesWithinBlock control.micblok) .micblokCrossesBlock
    let bytes ← perform (.fetch control.micblok Micblok.size)
    lookUpIn control (Micblok.ofBytes bytes)) :=
  rfl

/-- The look-up of the virtual machine notes the address of its interval timer, if it gets there. -/
theorem virtualTimerAddress_lookUp (callouts : Callouts Machine Refusal)
    (system : System Machine) (admitted : system.cpu.assistControl.guestRefusal? = none)
    (forgotten : system.cpu.virtualTimerAddress = none) :
    (lookUp.run callouts
      { machine := system.machine, cpu := system.cpu }).2.cpu.virtualTimerAddress =
        system.virtualTimer? callouts := by
  obtain ⟨vmAssist, supervisor⟩ : system.cpu.assistControl.vmAssist = true ∧
      system.cpu.assistControl.virtualProblem = false := by
    simp only [AssistControl.guestRefusal?] at admitted
    grind
  have start_lt := system.cpu.assistControl.micblok_lt
  have inBlock := liesWithinBlock_iff system.cpu.assistControl.micblok
  simp only [System.virtualTimer?, AssistControl.KeepsVirtualTimer, vmAssist, supervisor,
    true_and, ← inBlock]
  simp only [lookUp_eq, bind_eq_bind, run_bind, registers, perform, run, Action.run]
  generalize system.cpu.assistControl.micblok = address at start_lt inBlock ⊢
  by_cases within : liesWithinBlock address = true
  · have inSpace : address.toNat + Micblok.size ≤ Address.space := by
      have early := inBlock.mp within
      simp only [Micblok.size, Address.space] at start_lt ⊢
      omega
    have answered := Journal.fetch_empty callouts system.machine start_lt inSpace
    simp only [require, within, if_true, run]
    rw [← answered]
    generalize Journal.empty.fetch callouts address Micblok.size system.machine = fetched
    rcases fetched with ⟨_ | _, after⟩
    · simp [Except.toOption, forgotten]
    · rw [virtualTimerAddress_lookUpIn]
      simp [Except.toOption, forgotten]
  · simp [require, within, run, forgotten]

end GuestContext

end Programs

section Settling

variable {callouts : Callouts Machine Refusal}

theorem Staging.eq_committedCpu {staging : Staging Machine} {cpu : Cpu}
    (committed : (staging.commit callouts).1 = .ok cpu) : cpu = staging.committedCpu := by
  simp only [commit] at committed
  generalize Journal.Run.probeAll callouts staging.journal.runs staging.machine = probed
    at committed
  rcases probed with ⟨_ | _, machine⟩
  · simp at committed
  · simp only at committed
    generalize Journal.Run.writeAll callouts staging.journal.runs machine = written at committed
    rcases written with ⟨_ | _, machine⟩
    · simp at committed
    · exact (Except.ok.inj committed).symm

theorem Staging.virtualTimerAddress_committedCpu (staging : Staging Machine) :
    staging.committedCpu.virtualTimerAddress = staging.cpu.virtualTimerAddress := by
  rw [committedCpu]
  split <;> rfl

namespace System

/-- Whatever becomes of an assist, it leaves the address that its program has kept. -/
theorem virtualTimerAddress_settle (system : System Machine) (assist : Assist)
    {ran : Ending Refusal Completion × Staging Machine}
    (kept : ran.2.cpu.virtualTimerAddress = system.cpu.virtualTimerAddress) :
    (system.settle callouts assist ran).system.cpu.virtualTimerAddress =
      system.cpu.virtualTimerAddress := by
  rcases ran with ⟨done | reason | error, after⟩
  · have committed : ∀ cpu, (after.commit callouts).1 = .ok cpu →
        cpu.virtualTimerAddress = system.cpu.virtualTimerAddress := by
      intro cpu isCommitted
      rw [Staging.eq_committedCpu isCommitted, Staging.virtualTimerAddress_committedCpu, kept]
    simp only [settle]
    generalize after.commit callouts = answered at committed ⊢
    rcases answered with ⟨error | cpu, machine⟩
    · rfl
    · exact committed cpu rfl
  · exact read_handedOff (·.virtualTimerAddress) (fun _ _ _ => rfl) after.handOffs system.cpu
  · rfl

/-- An assist behind the whole gate leaves the address that the look-up has noted. -/
theorem virtualTimerAddress_performForGuest (system : System Machine) (assist : Assist)
    {body : GuestContext → Microcode Completion}
    (keeps : ∀ context, (body context).KeepsTimers false)
    (admitted : system.cpu.assistControl.guestRefusal? = none)
    (forgotten : system.cpu.virtualTimerAddress = none) :
    (system.performForGuest callouts assist body).system.cpu.virtualTimerAddress =
      system.virtualTimer? callouts := by
  have noted := GuestContext.virtualTimerAddress_lookUp callouts system admitted forgotten
  simp only [performForGuest]
  generalize GuestContext.lookUp.run callouts { machine := system.machine, cpu := system.cpu } =
    found at noted ⊢
  rcases found with ⟨context | reason | error, after⟩
  · refine (virtualTimerAddress_settle _ assist ?_).trans noted
    exact (keeps context).virtualTimerAddress_run callouts after
  · exact (virtualTimerAddress_settle _ assist rfl).trans noted
  · exact (virtualTimerAddress_settle _ assist rfl).trans noted

/-- Where control register 6 does not admit the assists of the virtual machine, no timer is
found. -/
theorem virtualTimer?_of_refused (callouts : Callouts Machine Refusal) {system : System Machine}
    {reason : Decline} (refused : system.cpu.assistControl.guestRefusal? = some reason) :
    system.virtualTimer? callouts = none := by
  refine if_neg fun keepsTimer => ?_
  obtain ⟨vmAssist, supervisor, -⟩ := keepsTimer
  simp [AssistControl.guestRefusal?, vmAssist, supervisor] at refused

/-- What an instruction notes of the virtual interval timer, if it notes anything: an address, or
that none is known. -/
def timerNote? (system : System Machine) (callouts : Callouts Machine Refusal)
    (request : Request) : Option (Option UInt32) :=
  if system.NotesTimer request then some (system.virtualTimer? callouts) else none

theorem virtualTimerAddress_perform (policy : Policy) (callouts : Callouts Machine Refusal)
    (system : System Machine) (request : Request) :
    (system.perform policy callouts request).system.cpu.virtualTimerAddress =
      (system.timerNote? callouts request).getD system.cpu.virtualTimerAddress := by
  simp only [perform, timerNote?, NotesTimer]
  cases isProgram : request.program policy system.registry.level with
  | controlProgram body =>
      have isControl := Request.family_eq_cp isProgram
      have keeps := Request.controlProgram_keepsTimers isProgram
      simp only [isControl, reduceCtorEq, false_and, if_false, Option.getD_none,
        performControlProgram]
      split
      · rfl
      · rfl
      · exact virtualTimerAddress_settle _ _ (keeps.virtualTimerAddress_run callouts _)
  | virtualMachine body =>
      have isGuest := Request.family_eq_vm isProgram
      have keeps := Request.virtualMachine_keepsTimers isProgram
      simp only [isGuest, true_and, Registry.servesGuest_iff, performVirtualMachine]
      split
      · rename_i refused
        simp [refused, decline]
      · rename_i opened
        simp only [opened, if_true, Option.getD_some]
        split
        · rename_i reason refused
          exact (virtualTimer?_of_refused callouts refused).symm
        · rename_i admitted
          exact virtualTimerAddress_performForGuest
            { system with
              registry := system.registry.recordCall request.assist
              cpu := { system.cpu with virtualTimerAddress := none } } request.assist keeps
            admitted rfl

end System

end Settling

/-- A call of an engine, with the registry, the registers and the machine that it finds, but for the
address of the virtual interval timer, which is the one that the calls before it have left. -/
structure Visit (Machine Refusal : Type) where
  engine : Engine Machine Refusal
  system : System Machine
  request : Request

namespace Visit

/-- What the call finds where an address is noted. -/
def found (visit : Visit Machine Refusal) (noted : Option UInt32) : System Machine :=
  { visit.system with cpu := { visit.system.cpu with virtualTimerAddress := noted } }

/-- The address that the call leaves where one is noted before it. -/
def leaves (visit : Visit Machine Refusal) (noted : Option UInt32) : Option UInt32 :=
  ((visit.found noted).perform visit.engine.policy visit.engine.callouts
    visit.request).system.cpu.virtualTimerAddress

/-- What the call itself notes, if it notes anything. -/
def note? (visit : Visit Machine Refusal) : Option (Option UInt32) :=
  visit.system.timerNote? visit.engine.callouts visit.request

/-- What a call notes does not depend on what is noted before it. -/
theorem leaves_eq (visit : Visit Machine Refusal) (noted : Option UInt32) :
    visit.leaves noted = visit.note?.getD noted :=
  System.virtualTimerAddress_perform visit.engine.policy visit.engine.callouts
    (visit.found noted) visit.request

/-- The address that calls leave which are made one after the other. -/
def leavesAll (visits : List (Visit Machine Refusal)) (noted : Option UInt32) : Option UInt32 :=
  visits.foldl (fun noted visit => visit.leaves noted) noted

theorem leavesAll_eq (visits : List (Visit Machine Refusal)) (noted : Option UInt32) :
    leavesAll visits noted = ((visits.filterMap note?).getLast?).getD noted := by
  induction visits generalizing noted with
  | nil => rfl
  | cons visit rest ih =>
      calc leavesAll (visit :: rest) noted
        _ = ((rest.filterMap note?).getLast?).getD (visit.leaves noted) := ih _
        _ = (((visit :: rest).filterMap note?).getLast?).getD noted := by
            rw [leaves_eq, List.filterMap_cons]
            cases visit.note? with
            | none => rfl
            | some address => simp [List.getLast?_cons]

end Visit

/-- The address of the virtual interval timer goes by the gate alone. A call of an assist of a
virtual machine that gets as far as control register 6 notes the address in the MICBLOK, or that
none is known, whatever then becomes of the assist; any other call, and so any of the control
program, leaves the address alone. So after any number of calls it is what the last one of the first
kind has noted. -/
theorem timerAddress_by_gate (policy : Policy) (callouts : Callouts Machine Refusal)
    (system : System Machine) (request : Request) :
    (system.perform policy callouts request).system.cpu.virtualTimerAddress =
        (if system.NotesTimer request then
          system.virtualTimer? callouts
        else
          system.cpu.virtualTimerAddress) ∧
      ∀ (visits : List (Visit Machine Refusal)) (noted : Option UInt32),
        Visit.leavesAll visits noted = ((visits.filterMap Visit.note?).getLast?).getD noted := by
  refine ⟨?_, Visit.leavesAll_eq⟩
  rw [System.virtualTimerAddress_perform, System.timerNote?]
  split <;> rfl

end Assist370
