import Assist370.Proofs.CalloutOrder
import Assist370.Proofs.Enabling
import Assist370.Proofs.Unperformed

/-!
# Confinement of a virtual machine

Whatever PSWs, operands and control blocks a virtual machine brings along, its assists leave the
states and the system mask of the real PSW, all registers but control registers 12 and 13 and the
lookaside buffer alone (`Cpu.Confines`), and they store into the virtual PSW, into the fields of the
prefixed storage area that SUPERVISOR CALL uses, or into the shadow registers that LOAD CONTROL
loads (`Request.MayStore`). So no run of them gets further (`System.confined_along`).
-/

namespace Assist370

/-- The registers after are those before, but for the address of the virtual interval timer, those
parts of the PSW that a virtual machine shares with the processor, and the control registers that
are loaded. -/
structure Cpu.Confines (loads : RegisterNumber → Prop) (before after : Cpu) : Prop where
  general : after.general = before.general
  floating : after.floating = before.floating
  control : ∀ register, ¬loads register →
    after.control.read register = before.control.read register
  systemMask : after.psw.systemMask = before.psw.systemMask
  problemState : after.psw.states.problemState = before.psw.states.problemState
  wait : after.psw.states.wait = before.psw.states.wait
  machineCheck : after.psw.states.machineCheck = before.psw.states.machineCheck
  extendedControl : after.psw.states.extendedControl = before.psw.states.extendedControl
  cpuTimer : after.cpuTimer = before.cpuTimer
  timerPending : after.timerPending = before.timerPending
  sieActive : after.sieActive = before.sieActive
  virtualTimerPending : after.virtualTimerPending = before.virtualTimerPending

namespace Cpu.Confines

variable {loads wider : RegisterNumber → Prop} {cpu middle after : Cpu}

theorem timer (cpu : Cpu) (address : Option UInt32) :
    cpu.Confines loads { cpu with virtualTimerAddress := address } :=
  ⟨rfl, rfl, fun _ _ => rfl, rfl, rfl, rfl, rfl, rfl, rfl, rfl, rfl, rfl⟩

theorem refl (cpu : Cpu) : cpu.Confines loads cpu :=
  timer cpu cpu.virtualTimerAddress

theorem trans (first : cpu.Confines loads middle) (second : middle.Confines loads after) :
    cpu.Confines loads after where
  general := second.general.trans first.general
  floating := second.floating.trans first.floating
  control register kept := (second.control register kept).trans (first.control register kept)
  systemMask := second.systemMask.trans first.systemMask
  problemState := second.problemState.trans first.problemState
  wait := second.wait.trans first.wait
  machineCheck := second.machineCheck.trans first.machineCheck
  extendedControl := second.extendedControl.trans first.extendedControl
  cpuTimer := second.cpuTimer.trans first.cpuTimer
  timerPending := second.timerPending.trans first.timerPending
  sieActive := second.sieActive.trans first.sieActive
  virtualTimerPending := second.virtualTimerPending.trans first.virtualTimerPending

theorem mono (confines : cpu.Confines loads after)
    (implies : ∀ register, loads register → wider register) : cpu.Confines wider after :=
  { confines with
    control := fun register kept => confines.control register fun isLoaded =>
      kept (implies register isLoaded) }

end Cpu.Confines

/-- Where the virtual PSW of the running virtual machine lies. -/
def Memory.pswRegion (memory : Memory) (control : AssistControl) : Region :=
  .ofField (memory.guestContext control).pswAddress (Field.first : Field Psw)

namespace Request

/-- The real control registers that LOAD CONTROL loads: 12 and 13, as far as they are in its
range. -/
def Loads : Request → RegisterNumber → Prop
  | lctl first last _, register =>
      (register = 12 ∨ register = 13) ∧ register ∈ RegisterNumber.range first last
  | _, _ => False

/-- Where an assist of a virtual machine may store. -/
inductive MayStore (known : Knowledge) (memory : Memory) (cpu : Cpu) : Request → UInt32 → Prop where
  | maskedPsw {address place : UInt32}
      (inPsw : (memory.pswRegion cpu.assistControl).Contains place) :
      MayStore known memory cpu (.ssm address) place
  | loadedPsw {address place : UInt32}
      (inPsw : (memory.pswRegion cpu.assistControl).Contains place) :
      MayStore known memory cpu (.lpsw address) place
  | calledPsw {code : UInt8} {place : UInt32}
      (inPsw : (memory.pswRegion cpu.assistControl).Contains place) :
      MayStore known memory cpu (.svc code) place
  /-- The supervisor-call old PSW, wherever it is translated to. -/
  | oldPsw {code : UInt8} {real place : UInt32}
      (maps : known.Maps cpu PrefixArea.callOldPsw real)
      (inImage : Region.Contains ⟨real, 8⟩ place) :
      MayStore known memory cpu (.svc code) place
  /-- The supervisor-call code, of a virtual machine in extended-control mode. -/
  | callCode {code : UInt8} {real place : UInt32}
      (extended : (memory.guestContext cpu.assistControl).psw.isExtended = true)
      (maps : known.Maps cpu PrefixArea.callCode real) (inImage : Region.Contains ⟨real, 4⟩ place) :
      MayStore known memory cpu (.svc code) place
  /-- The shadow of a register in the range of LOAD CONTROL. -/
  | shadow {first last register : RegisterNumber} {address place : UInt32}
      (inRange : register ∈ RegisterNumber.range first last)
      (inShadow : Region.Contains
        (.ofField ((memory.guestContext cpu.assistControl).shadowAddress memory)
          ((Field.first : Field UInt32).item register)) place) :
      MayStore known memory cpu (.lctl first last address) place

end Request

/-- The action leaves what an assist of a virtual machine has to leave. -/
@[simp]
def Action.IsConfined : Action → Prop
  | modify change => ∀ cpu : Cpu, cpu.Confines (fun _ => False) (change cpu)
  | setTimer _ | purgeTlb => False
  | _ => True

@[simp]
theorem Action.isConfined_allowsLooks : Microcode.AllowsLooks IsConfined :=
  ⟨fun _ _ => trivial, fun _ => trivial, fun _ => trivial, trivial⟩

@[simp]
theorem Action.isConfined_allowsStores : Microcode.AllowsStores IsConfined :=
  fun _ _ => trivial

/-- What an assist of a virtual machine has left when its program is done. -/
structure Scene.Confines (cpu : Cpu) (loads : RegisterNumber → Prop) (scene : Scene) : Prop where
  cpu : cpu.Confines loads scene.cpu
  timerSet : scene.timerSet = false
  purge : scene.purge = false

namespace GuestContext

open Microcode

variable {known : Knowledge} {scene : Scene}

theorem confines_of_takes {α : Type} {program : Microcode α} {cpu : Cpu}
    {loads : RegisterNumber → Prop} (takes : program.Takes Action.IsConfined)
    (confines : scene.Confines cpu loads) :
    program.Achieves known (fun _ after => after.Confines cpu loads) scene := by
  refine (takes.ensures ?_ confines).mono (fun _ _ => id) fun _ _ _ => trivial
  intro action before isConfined confines
  cases action with
  | modify change =>
      refine ⟨confines.cpu.trans ?_, confines.timerSet, confines.purge⟩
      exact (isConfined before.cpu).mono fun _ impossible => impossible.elim
  | setTimer _ | purgeTlb => exact isConfined.elim
  | fetch _ _ => exact fun _ _ => confines
  | storageKey _ => exact fun _ => confines
  | translate _ => exact fun _ _ => confines
  | store _ _ => exact fun _ => ⟨confines.cpu, confines.timerSet, confines.purge⟩
  | registers => exact confines
  | handOff _ _ | log _ => exact ⟨confines.cpu, confines.timerSet, confines.purge⟩

@[simp]
theorem validate_isConfined (old new : Psw) (pending : UInt8) :
    (validate old new pending).Takes Action.IsConfined :=
  takes_validate (fun _ => trivial) old new pending

@[simp]
theorem loadUserFields_isConfined (new : Psw) :
    (loadUserFields new).Takes Action.IsConfined := by
  simp only [loadUserFields, branch, takes_bind, takes_modify, Action.IsConfined]
  constructor
  · exact fun cpu => ⟨rfl, rfl, fun _ _ => rfl, rfl, rfl, rfl, rfl, rfl, rfl, rfl, rfl, rfl⟩
  · exact fun _ _ cpu => ⟨rfl, rfl, fun _ _ => rfl, rfl, rfl, rfl, rfl, rfl, rfl, rfl, rfl, rfl⟩

theorem lookUp_isConfined : lookUp.Takes Action.IsConfined := by
  simp [lookUp, perform, Cpu.Confines.timer]

/-- LOAD CONTROL changes registers 12 and 13 alone. -/
theorem loadControl_confines (policy : Policy) (first last : RegisterNumber) (address : UInt32)
    (context : GuestContext) {cpu : Cpu} {loads : RegisterNumber → Prop}
    (inRange : ∀ register ∈ RegisterNumber.range first last,
      register = 12 ∨ register = 13 → loads register)
    (confines : scene.Confines cpu loads) :
    (context.loadControl policy first last address).Achieves known
      (fun _ after => after.Confines cpu loads) scene := by
  simp only [Achieves, loadControl_eq, ensures_bind, ensures_require]
  refine ⟨fun _ => ?_, fun _ => trivial⟩
  refine ensures_testBits _ _ _ fun extended _ => ?_
  refine ⟨fun _ => ?_, fun _ => trivial⟩
  refine fetchOperands_achieves policy address _ _ fun new => ?_
  have rest : ∀ shadowAddress, (context.replaceControls extended
      (RegisterNumber.range first last) new shadowAddress).Achieves known
        (fun _ after => after.Confines cpu loads) scene := by
    intro shadowAddress
    have looks : (fetchShadow extended shadowAddress).Takes Action.OnlyLooks := by
      cases extended <;> simp [fetchShadow]
    simp only [Achieves, replaceControls, ensures_bind, ensures_registers]
    refine looks.ensures_of_looks (fun shadow => ?_) fun _ => trivial
    split
    · rename_i loaded isLoaded
      simp only [ensures_bind, ensures_modify]
      refine storeShadow_achieves _ _ _ ((ensures_pure _).mpr ⟨confines.cpu.trans ?_,
        confines.timerSet, confines.purge⟩)
      refine ⟨rfl, rfl, fun register kept => ?_, rfl, rfl, rfl, rfl, rfl, rfl, rfl, rfl, rfl⟩
      apply ControlRegisters.load_real isLoaded
      intro register_mem
      have notLoaded := fun isReal => kept (inRange register register_mem isReal)
      exact not_or.mp notLoaded
    · simp
  simp only [ensures_ite]
  refine ⟨fun _ => ?_, fun _ => rest _⟩
  exact (ensures_bind _ _).mpr (ensures_fetchAddress _ _ fun found _ => rest found)

theorem replaceControls_completes {extended : Bool} {range : List RegisterNumber}
    {new : RegisterFile} {context : GuestContext} {shadowAddress : UInt32} {completion : Completion}
    (yields : (context.replaceControls extended range new shadowAddress).Yields completion) :
    completion = .completed := by
  simp only [replaceControls, yields_bind] at yields
  obtain ⟨_, -, _, -, yields⟩ := yields
  split at yields
  · simp only [yields_bind, yields_pure] at yields
    obtain ⟨_, -, _, -, rfl⟩ := yields
    rfl
  · simp [yields_bind, Yields] at yields

end GuestContext

namespace Request

open Microcode GuestContext

variable {known : Knowledge} {request : Request}

/-- The assists of a virtual machine change its state, or decline without being performed. -/
theorem isVirtual_or_declines (isGuest : request.assist.family = .vm) (policy : Policy)
    (level : UInt32) :
    request.IsVirtual ∨
      request.program policy level = .virtualMachine fun _ => .decline .notSupported := by
  cases request with
  | ssm _ | svc _ | lpsw _ | lctl _ _ _ => exact .inl trivial
  | unassisted assist => exact .inr (by simp [program, show assist.family = .vm from isGuest,
      decliningProgram])
  | stevl _ | freex _ _ | fretx _ _ | lckpg _ _ | ulkpg _ _ | trbrg _ _ | trlok _ _ | scnvu _ _
  | scnru _ _ | disp0 _ _ | disp1 _ _ | disp2 _ _ => simp [assist, Assist.family] at isGuest

theorem IsVirtual.completes (isVirtual : request.IsVirtual) {policy : Policy} {level : UInt32}
    {completion : Completion}
    (yields : (request.program policy level).microcode.Yields completion) :
    completion = .completed := by
  cases request with
  | ssm address =>
      simp only [program, AssistProgram.microcode, ← bind_eq_bind, setSystemMask, yields_bind,
        yields_pure] at yields
      obtain ⟨_, -, _, -, _, -, _, -, _, -, _, -, _, -, _, -, rfl⟩ := yields
      rfl
  | svc code =>
      simp only [program, AssistProgram.microcode, ← bind_eq_bind, supervisorCall_eq, presentCall,
        yields_bind] at yields
      obtain ⟨_, -, _, -, _, -, _, -, _, -, _, -, _, -, yields⟩ := yields
      split at yields
      · simp only [yields_bind, yields_pure] at yields
        obtain ⟨_, -, _, -, _, -, rfl⟩ := yields
        rfl
      · simp only [yields_bind, yields_pure] at yields
        obtain ⟨_, -, _, -, rfl⟩ := yields
        rfl
  | lpsw address =>
      simp only [program, AssistProgram.microcode, ← bind_eq_bind, loadPsw_eq, adopt, yields_bind,
        yields_pure] at yields
      obtain ⟨_, -, _, -, _, -, _, -, _, -, _, -, _, -, _, -, rfl⟩ := yields
      rfl
  | lctl first last address =>
      simp only [program, AssistProgram.microcode, ← bind_eq_bind, loadControl_eq,
        yields_bind] at yields
      obtain ⟨_, -, _, -, _, -, _, -, _, -, yields⟩ := yields
      split at yields
      · obtain ⟨_, -, yields⟩ := yields_bind.mp yields
        exact replaceControls_completes yields
      · exact replaceControls_completes yields
  | stevl _ | freex _ _ | fretx _ _ | lckpg _ _ | ulkpg _ _ | trbrg _ _ | trlok _ _ | scnvu _ _
  | scnru _ _ | disp0 _ _ | disp1 _ _ | disp2 _ _ | unassisted _ => exact isVirtual.elim

theorem IsVirtual.confines (isVirtual : request.IsVirtual) (policy : Policy) (level : UInt32)
    {scene : Scene} {cpu : Cpu} (confines : scene.Confines cpu request.Loads) :
    (request.program policy level).microcode.Achieves known
      (fun _ after => after.Confines cpu request.Loads) scene := by
  cases request with
  | ssm address =>
      refine confines_of_takes ((takes_bind _ _).mpr ⟨lookUp_isConfined, fun context => ?_⟩)
        confines
      simp [setSystemMask]
  | svc code =>
      refine confines_of_takes ((takes_bind _ _).mpr ⟨lookUp_isConfined, fun context => ?_⟩)
        confines
      simp [supervisorCall]
  | lpsw address =>
      refine confines_of_takes ((takes_bind _ _).mpr ⟨lookUp_isConfined, fun context => ?_⟩)
        confines
      simp [loadPsw]
  | lctl first last address =>
      refine (ensures_bind _ _).mpr ((confines_of_takes lookUp_isConfined confines).mono
        (fun context found foundConfines => ?_) fun _ _ _ => trivial)
      exact loadControl_confines policy first last address context
        (fun register register_mem isReal => ⟨isReal, register_mem⟩) foundConfines
  | stevl _ | freex _ _ | fretx _ _ | lckpg _ _ | ulkpg _ _ | trbrg _ _ | trlok _ _ | scnvu _ _
  | scnru _ _ | disp0 _ _ | disp1 _ _ | disp2 _ _ | unassisted _ => exact isVirtual.elim

/-- Whatever an assist of a virtual machine is given, its program confines itself to what it may
change of the registers. -/
theorem confines_of_isGuest (isGuest : request.assist.family = .vm) (policy : Policy)
    (level : UInt32) (memory : Memory) (cpu : Cpu) :
    (request.program policy level).microcode.Achieves known
      (fun completion after => completion = .completed ∧ after.Confines cpu request.Loads)
      (.before memory (request.program policy level) cpu) := by
  rcases isVirtual_or_declines isGuest policy level with isVirtual | declines
  · have confines : Scene.Confines cpu request.Loads
        (.before memory (request.program policy level) cpu) := by
      obtain ⟨body, isProgram⟩ := isVirtual.program_eq policy level
      rw [isProgram]
      exact ⟨.timer cpu none, rfl, rfl⟩
    refine (isVirtual.confines policy level confines).mono_of_yields ?_ fun _ _ _ => trivial
    exact fun completion after yields confines => ⟨isVirtual.completes yields, confines⟩
  · rw [declines]
    exact achieves_skip fun _ _ => (ensures_decline _).mpr trivial

theorem IsVirtual.spares (isFaithful : known.faithful) (isVirtual : request.IsVirtual)
    (policy : Policy) (level : UInt32) (memory : Memory) (cpu : Cpu) :
    (request.program policy level).microcode.Achieves known
      (fun _ after => ∀ place, ¬request.MayStore known memory cpu place →
        after.memory.byte place = memory.byte place)
      (.before memory (request.program policy level) cpu) := by
  have ofAgrees : ∀ {after : Memory} {place : UInt32}, after.AgreesOn memory ⟨place, 1⟩ →
      after.byte place = memory.byte place :=
    fun agrees => agrees _ (Region.contains_one.mpr rfl)
  cases request with
  | ssm address =>
      simp only [program, AssistProgram.microcode, ← bind_eq_bind, Achieves, ensures_bind]
      refine lookUp_achieves isFaithful fun timer => ?_
      refine setSystemMask_achieves _ _ _ fun systemMask _ place spared => ?_
      apply ofAgrees
      apply Memory.put_agreesOn
      exact Region.apart_one fun inPsw => spared (.maskedPsw inPsw)
  | svc code =>
      simp only [program, AssistProgram.microcode, ← bind_eq_bind, Achieves, ensures_bind]
      refine lookUp_achieves isFaithful fun timer => ?_
      simp only [supervisorCall_eq, ensures_bind, ensures_require]
      refine ⟨fun _ => ⟨fun _ => ?_, fun _ => trivial⟩, fun _ => trivial⟩
      refine fetchLogical_achieves _ _ _ fun new => ?_
      refine presentCall_achieves _ _ _ _ fun after image _ kept _ place spared => ?_
      apply ofAgrees
      refine (Memory.put_agreesOn new (Region.apart_one fun inPsw => ?_)).trans
        (kept _ (fun real maps => Region.apart_one fun inImage => ?_)
          fun extended real maps => Region.apart_one fun inImage => ?_)
      · exact spared (.calledPsw inPsw)
      · exact spared (.oldPsw maps inImage)
      · exact spared (.callCode extended maps inImage)
  | lpsw address =>
      simp only [program, AssistProgram.microcode, ← bind_eq_bind, Achieves, ensures_bind]
      refine lookUp_achieves isFaithful fun timer => ?_
      simp only [loadPsw_eq, fetchOperandPsw, ensures_bind, ensures_require, ensures_registers]
      refine ⟨fun _ => ⟨fun _ => ⟨fun _ => ?_, fun _ => trivial⟩, fun _ => trivial⟩,
        fun _ => trivial⟩
      refine fetchLogical_achieves _ _ _ fun new => ?_
      refine adopt_achieves _ _ fun after _ _ place spared => ?_
      apply ofAgrees
      apply Memory.put_agreesOn
      exact Region.apart_one fun inPsw => spared (.loadedPsw inPsw)
  | lctl first last address =>
      simp only [program, AssistProgram.microcode, ← bind_eq_bind, Achieves, ensures_bind]
      refine lookUp_achieves isFaithful fun timer => ?_
      refine loadControl_achieves isFaithful _ _ _ _ _ fun new loaded _ _ place spared => ?_
      apply ofAgrees
      apply Memory.putShadow_agreesOn
      intro register register_mem
      exact Region.apart_one fun inShadow => spared (.shadow register_mem inShadow)
  | stevl _ | freex _ _ | fretx _ _ | lckpg _ _ | ulkpg _ _ | trbrg _ _ | trlok _ _ | scnvu _ _
  | scnru _ _ | disp0 _ _ | disp1 _ _ | disp2 _ _ | unassisted _ => exact isVirtual.elim

/-- The program of an assist of a virtual machine stores into no other place than it may. -/
theorem spares_of_isGuest (isFaithful : known.faithful) (isGuest : request.assist.family = .vm)
    (policy : Policy) (level : UInt32) (memory : Memory) (cpu : Cpu) :
    (request.program policy level).microcode.Achieves known
      (fun _ after => ∀ place, ¬request.MayStore known memory cpu place →
        after.memory.byte place = memory.byte place)
      (.before memory (request.program policy level) cpu) := by
  rcases isVirtual_or_declines isGuest policy level with isVirtual | declines
  · exact isVirtual.spares isFaithful policy level memory cpu
  · rw [declines]
    exact achieves_skip fun _ _ => (ensures_decline _).mpr trivial

end Request

variable {Machine Refusal : Type} {policy : Policy} {callouts : Callouts Machine Refusal}

namespace System

/-- The instruction completes, and loads a real control register. -/
def Loads (policy : Policy) (callouts : Callouts Machine Refusal) (system : System Machine)
    (request : Request) (register : RegisterNumber) : Prop :=
  (system.perform policy callouts request).result = .ok .completed ∧ request.Loads register

/-- Where an instruction of a virtual machine may store. -/
def MayStore (view : StorageView callouts) (system : System Machine) (request : Request)
    (place : UInt32) : Prop :=
  request.MayStore (callouts.knowledge system.machine) (view.memory system.machine) system.cpu place

/-- The instruction has confined itself to what a virtual machine may change. -/
structure Confined (policy : Policy) (callouts : Callouts Machine Refusal)
    (system : System Machine) (request : Request) : Prop where
  registers : system.cpu.Confines (system.Loads policy callouts request)
    (system.perform policy callouts request).system.cpu
  notPurged : .purgeTlb ∉ system.calloutsMade policy callouts request
  storage : ∀ (view : StorageView callouts) (place : UInt32),
    ¬system.MayStore view request place →
      (view.memory (system.perform policy callouts request).system.machine).byte place =
        (view.memory system.machine).byte place

variable {system : System Machine} {request : Request}

/-- The memory is of no account to what an assist of a virtual machine does to the registers. -/
theorem confines_of_ran (isGuest : request.assist.family = .vm) {completion : Completion}
    {after : Staging Machine}
    (ran : system.ran policy callouts request = (.done completion, after)) :
    completion = .completed ∧ after.timerSet = false ∧ after.purge = false ∧
      system.cpu.Confines request.Loads after.cpu := by
  obtain ⟨completed, confines⟩ :=
    ensures_of_ran (callouts.shows_constant Memory.zero system.machine) (fun _ _ => trivial)
      (request.confines_of_isGuest isGuest policy system.registry.level Memory.zero system.cpu) ran
  exact ⟨completed, confines.timerSet, confines.purge, confines.cpu⟩

theorem selects_none (isGuest : request.assist.family = .vm) : request.dispatchList? = none := by
  cases request <;> first | rfl | simp [Request.assist, Assist.family] at isGuest

/-- Whatever becomes of an assist of a virtual machine, the registers are confined. -/
theorem confines_perform (isGuest : request.assist.family = .vm) :
    system.cpu.Confines (system.Loads policy callouts request)
      (system.perform policy callouts request).system.cpu := by
  have conduct := perform_conduct policy callouts system request
  have unperformed := perform_unperformed policy callouts system request
  unfold Loads
  generalize system.perform policy callouts request = response at conduct unperformed
  generalize system.calloutsMade policy callouts request = made at conduct unperformed
  cases conduct with
  | left _ isLeft =>
      obtain ⟨-, -, leaves⟩ := unperformed isLeft
      generalize response.system.cpu = cpu at leaves
      cases leaves with
      | unchanged => exact .refl _
      | timer address _ => exact .timer _ address
      | notAssistable _ _ _ selects _ => simp [selects_none isGuest] at selects
      | lastUserShared _ _ _ selects _ => simp [selects_none isGuest] at selects
  | failed _ _ _ cpu _ _ _ =>
      obtain ⟨timer, cpu, -⟩ := cpu
      rw [cpu]
      exact .timer _ timer
  | completed _ result isDone cpu =>
      obtain ⟨completed, notSet, -, confines⟩ :=
        confines_of_ran isGuest (Prod.ext isDone rfl)
      rw [cpu, Staging.committedCpu, notSet]
      refine confines.mono fun register loads => ⟨?_, loads⟩
      rw [result, completed]
      rfl

theorem confined_perform (policy : Policy) (callouts : Callouts Machine Refusal)
    (system : System Machine) (isGuest : request.assist.family = .vm) :
    system.Confined policy callouts request where
  registers := confines_perform isGuest
  notPurged purge_mem := by
    obtain ⟨completion, -, isDone, asked⟩ :=
      (perform_conduct policy callouts system request).purge_of_mem purge_mem
    obtain ⟨-, -, notAsked, -⟩ := confines_of_ran isGuest (Prod.ext isDone rfl)
    rw [notAsked] at asked
    contradiction
  storage view place spared := by
    rcases byte_perform view system policy request place with
      same | ⟨completion, after, ran, -, seen⟩
    · exact same
    · have faithful : (callouts.knowledge system.machine).faithful := trivial
      rw [seen]
      exact ensures_of_ran (view.shows_knowledge system.machine) (fun _ _ => trivial)
        (request.spares_of_isGuest faithful isGuest policy system.registry.level _ system.cpu) ran
        place spared

/-- No run of assists of a virtual machine gets further than each of them may. -/
theorem confined_along {requests : List Request}
    (areGuests : ∀ request ∈ requests, request.assist.family = .vm) :
    system.Along policy callouts (fun system request => system.Confined policy callouts request)
        requests ∧
      system.cpu.Confines
        (fun register => ¬system.Along policy callouts
          (fun system request => ¬system.Loads policy callouts request register) requests)
        (system.performAll policy callouts requests).cpu ∧
      ∀ (view : StorageView callouts) (place : UInt32),
        system.Along policy callouts (fun system request => ¬system.MayStore view request place)
            requests →
          (view.memory (system.performAll policy callouts requests).machine).byte place =
            (view.memory system.machine).byte place := by
  induction requests generalizing system with
  | nil => exact ⟨trivial, .refl _, fun _ _ _ => rfl⟩
  | cons request rest ih =>
      have first := confined_perform policy callouts system (areGuests request (by simp))
      obtain ⟨along, registers, storage⟩ := ih fun other other_mem =>
        areGuests other (by simp [other_mem])
      refine ⟨⟨first, along⟩, ?_, fun view place spared => ?_⟩
      · refine (first.registers.mono fun register loads => ?_).trans
          (registers.mono fun register loads => ?_)
        · exact fun never => never.1 loads
        · exact fun never => loads never.2
      · rw [performAll, storage view place spared.2, first.storage view place spared.1]

theorem pendingGuest_confined :
    let after := pendingGuest.performAll .splitKeys Memory.callouts [.lctl 12 13 0x4000, .svc 7]
    after.cpu.general = pendingGuest.cpu.general ∧
      after.cpu.control.read 6 = pendingGuest.cpu.control.read 6 ∧
      after.machine.byte 0x5000 = pendingGuest.machine.byte 0x5000 := by
  intro after
  obtain ⟨-, registers, storage⟩ := @confined_along Memory Empty .splitKeys
    Memory.callouts pendingGuest [.lctl 12 13 0x4000, .svc 7] (by decide)
  refine ⟨registers.general, registers.control 6 fun loads => loads ?_,
    storage Memory.storageView 0x5000 ⟨?_, ?_, trivial⟩⟩
  · exact ⟨fun loads => absurd loads.2 (by simp [Request.Loads]), fun loads => loads.2, trivial⟩
  · rintro (_ | _ | _ | _ | _ | ⟨inRange, inShadow⟩)
    have outside : ∀ register ∈ RegisterNumber.range 12 13, ¬Region.Contains
        (.ofField ((pendingGuest.machine.guestContext pendingGuest.cpu.assistControl).shadowAddress
          pendingGuest.machine) ((Field.first : Field UInt32).item register)) 0x5000 := by
      decide +kernel
    exact outside _ inRange inShadow
  · have direct : ((pendingGuest.perform .splitKeys Memory.callouts
        (.lctl 12 13 0x4000)).system.cpu.psw.translates) = false := by decide +kernel
    rintro (_ | _ | inPsw | ⟨maps, inImage⟩ | ⟨-, maps, inImage⟩ | _)
    · revert inPsw
      decide +kernel
    · simp only [Knowledge.Maps, direct, Bool.false_eq_true, if_false] at maps
      subst maps
      revert inImage
      decide
    · simp only [Knowledge.Maps, direct, Bool.false_eq_true, if_false] at maps
      subst maps
      revert inImage
      decide

end System

end Assist370
