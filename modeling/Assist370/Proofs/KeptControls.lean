import Assist370.Proofs.Confinement
import Assist370.Proofs.UserRun

/-!
# Kept control registers

A dispatch either gets to its end, with the lookaside buffer to be emptied, or it has changed no
control register (`Microcode.Settles`). All other programs of the control program's assists keep the
control registers (`Microcode.KeepsControls`); where they set one to translate an address, they
restore it. So an instruction that does not dispatch a user leaves them as they are, but for those
that LOAD CONTROL loads.
-/

namespace Assist370

/-- The control registers are as they were before, and no more has been asked of the lookaside
buffer. -/
structure Scene.KeepsControls (before after : Scene) : Prop where
  control : ∀ register, after.cpu.control.read register = before.cpu.control.read register
  purge : after.purge = before.purge

/-- A program that dispatches a user asks for the lookaside buffer to be emptied, and any other
keeps the control registers and asks for nothing. -/
structure Scene.Settles (before : Scene) (completion : Completion) (after : Scene) : Prop where
  dispatched : completion = .dispatched → after.purge = true
  otherwise : completion ≠ .dispatched → before.KeepsControls after

namespace Scene

variable {before middle after : Scene}

theorem KeepsControls.refl (scene : Scene) : scene.KeepsControls scene :=
  ⟨fun _ => rfl, rfl⟩

theorem KeepsControls.trans (first : before.KeepsControls middle)
    (second : middle.KeepsControls after) : before.KeepsControls after where
  control register := (second.control register).trans (first.control register)
  purge := second.purge.trans first.purge

theorem Settles.of_keeps {completion : Completion} (keeps : before.KeepsControls middle)
    (settles : middle.Settles completion after) : before.Settles completion after where
  dispatched := settles.dispatched
  otherwise undispatched := keeps.trans (settles.otherwise undispatched)

theorem Settles.completed (keeps : before.KeepsControls after) :
    before.Settles .completed after where
  dispatched := nofun
  otherwise _ := keeps

end Scene

/-- The action keeps the control registers and does not ask for the lookaside buffer to be
emptied. -/
@[simp]
def Action.KeepsControls : Action → Prop
  | purgeTlb => False
  | modify change => ∀ cpu, (change cpu).control = cpu.control
  | _ => True

@[simp]
theorem Action.keepsControls_allowsLooks : Microcode.AllowsLooks KeepsControls :=
  ⟨fun _ _ => trivial, fun _ => trivial, fun _ => trivial, trivial⟩

@[simp]
theorem Action.keepsControls_allowsStores : Microcode.AllowsStores KeepsControls :=
  fun _ _ => trivial

namespace Microcode

variable {α β : Type}

/-- Whatever is known, the program keeps the control registers once it is done, and asks for nothing
of the lookaside buffer. -/
def KeepsControls (program : Microcode α) : Prop :=
  ∀ (known : Knowledge) (scene : Scene),
    program.Achieves known (fun _ after => scene.KeepsControls after) scene

theorem Takes.keepsControls {program : Microcode α} (takes : program.Takes Action.KeepsControls) :
    program.KeepsControls := by
  intro known scene
  refine (takes.ensures ?_ (.refl scene)).mono (fun _ _ => id) fun _ _ _ => trivial
  intro action before allowed keeps
  cases action with
  | modify change =>
      refine ⟨fun register => ?_, keeps.purge⟩
      rw [← keeps.control register]
      exact congrArg (RegisterFile.read · register) (allowed before.cpu)
  | purgeTlb => exact allowed.elim
  | fetch _ _ => exact fun _ _ => keeps
  | storageKey _ => exact fun _ => keeps
  | translate _ => exact fun _ _ => keeps
  | store _ _ => exact fun _ => ⟨keeps.control, keeps.purge⟩
  | registers => exact keeps
  | setTimer _ | handOff _ _ | log _ => exact ⟨keeps.control, keeps.purge⟩

theorem IsPlain.keepsControls {program : Microcode α} (plain : program.IsPlain) :
    program.KeepsControls :=
  Takes.keepsControls (plain.mono fun action isPlain => by
    cases action <;> trivial)

namespace KeepsControls

variable {program other : Microcode α}

theorem bind {next : α → Microcode β} (first : program.KeepsControls)
    (rest : ∀ value, (next value).KeepsControls) : (program >>= next).KeepsControls := by
  intro known scene
  refine (ensures_bind _ _).mpr ((first known scene).mono (fun value middle keeps => ?_)
    fun _ _ _ => trivial)
  exact (rest value known middle).mono (fun _ _ => keeps.trans) fun _ _ => id

theorem after {next : α → Microcode β} (plain : program.IsPlain)
    (rest : ∀ value, (next value).KeepsControls) : (program >>= next).KeepsControls :=
  plain.keepsControls.bind rest

theorem ite {condition : Prop} [Decidable condition] (yes : program.KeepsControls)
    (no : other.KeepsControls) : (if condition then program else other).KeepsControls := by
  split
  · exact yes
  · exact no

theorem whether {condition : Prop} [Decidable condition] (plain : program.IsPlain)
    {rest : Microcode β} (keeps : rest.KeepsControls) :
    (if condition then program >>= fun _ => rest else rest).KeepsControls :=
  .ite (.after plain fun _ => keeps) keeps

end KeepsControls

/-- Whatever is known, the program dispatches a user with the lookaside buffer to be emptied, or
keeps the control registers. -/
def Settles (program : Microcode Completion) : Prop :=
  ∀ (known : Knowledge) (scene : Scene), program.Achieves known scene.Settles scene

namespace Settles

theorem bind {program : Microcode α} {next : α → Microcode Completion}
    (keeps : program.KeepsControls) (rest : ∀ value, (next value).Settles) :
    (program >>= next).Settles := by
  intro known scene
  refine (ensures_bind _ _).mpr ((keeps known scene).mono (fun value middle kept => ?_)
    fun _ _ _ => trivial)
  exact (rest value known middle).mono (fun _ _ => .of_keeps kept) fun _ _ => id

theorem after {program : Microcode α} {next : α → Microcode Completion} (plain : program.IsPlain)
    (rest : ∀ value, (next value).Settles) : (program >>= next).Settles :=
  .bind plain.keepsControls rest

theorem ite {program other : Microcode Completion} {condition : Prop} [Decidable condition]
    (yes : program.Settles) (no : other.Settles) :
    (if condition then program else other).Settles := by
  split
  · exact yes
  · exact no

end Settles

end Microcode

namespace Dispatcher

open Microcode

variable {known : Knowledge} {scene : Scene}

theorem GoesOn.settles {program : Microcode Completion} (goesOn : GoesOn program)
    (plain : program.IsPlain) : program.Settles := by
  intro known scene
  refine (plain.keepsControls known scene).mono_of_yields ?_ fun _ _ => id
  intro completion after yields keeps
  rw [goesOn.completes completion yields]
  exact .completed keeps

/-! ### The entry of the dispatcher -/

/-- Control register 1 is restored once the address has been translated. -/
theorem intervalTimerAddress_keepsControls (user : UInt32) :
    (intervalTimerAddress user).KeepsControls := by
  intro known scene
  simp only [Achieves, intervalTimerAddress, loadRealAddress, ensures_bind, ensures_registers,
    ensures_modify, Cpu.setControl]
  refine ensures_fetch _ _ fun segmentTable _ => ?_
  refine (ensures_perform _).mpr fun answer _ => ?_
  have restored : scene.KeepsControls { scene with
      cpu := { scene.cpu with
        control :=
          (scene.cpu.control.load 1 segmentTable).load 1 (scene.cpu.control.read 1) } } := by
    refine ⟨fun register => ?_, rfl⟩
    simp only [RegisterFile.read_load]
    split
    · rename_i same
      rw [same]
    · rfl
  cases answer <;> simpa only [ensures_pure] using restored

theorem countDown_keepsControls (user elapsed list exits : UInt32) :
    (countDown user elapsed list exits).KeepsControls := by
  refine (intervalTimerAddress_keepsControls user).bind fun timer => ?_
  apply IsPlain.keepsControls
  simp

theorem chargeIntervalTimer_keepsControls (user previous list exits : UInt32) :
    (chargeIntervalTimer user previous list exits).KeepsControls := by
  refine .after (by simp) fun kept => .ite (IsPlain.keepsControls (by simp)) ?_
  refine .after (by simp) fun runs => .ite (IsPlain.keepsControls (by simp)) ?_
  refine .after (by simp) fun left => .ite (IsPlain.keepsControls (by simp)) ?_
  exact countDown_keepsControls user _ list exits

theorem chargeRunTime_keepsControls (user list exits : UInt32) :
    (chargeRunTime user list exits).KeepsControls := by
  have charges : ∀ runUser interval : UInt32, (do
      chargeProblemTime runUser
      let previous ← fetch PrefixArea.base PrefixArea.quantum
      store PrefixArea.base PrefixArea.quantum interval
      chargeIntervalTimer runUser previous list exits).KeepsControls := fun runUser _ =>
    .after (by simp) fun _ => .after (by simp) fun previous => .after (by simp) fun _ =>
      chargeIntervalTimer_keepsControls runUser previous list exits
  refine .after (by simp) fun runUser => .after (by simp) fun _ => .after (by simp) fun _ => ?_
  -- The interval is left by the timer of the running user, or by that of the user entered for.
  refine .ite (.after (by simp) fun _ => .after (by simp) fun interval => ?_)
    (.after (by simp) fun interval => ?_) <;>
  exact .whether (by simp) (.after (by simp) fun _ => .after (by simp) fun _ =>
    .whether (by simp) (charges runUser interval))

theorem enter_keepsControls (list exits : UInt32) : (enter list exits).KeepsControls := by
  have exits : (selectExit list exits).KeepsControls := by
    refine .after (by simp) fun user => .after (by simp) fun status => .ite ?_ ?_
    · refine (chargeRunTime_keepsControls user list exits).bind fun charged => ?_
      cases charged <;> exact IsPlain.keepsControls (by simp)
    · exact IsPlain.keepsControls (by simp)
  refine .after (by simp) fun entries => exits.bind fun completion => ?_
  exact IsPlain.keepsControls (by simp)

/-! ### The dispatch of a user -/

theorem start_dispatches (user extension : UInt32) (status : UserStatus) (virtual : Psw)
    (controls : TranslationControls) :
    (start user extension status virtual controls).Achieves known
      (fun completion after => completion = .dispatched ∧ after.purge = true) scene := by
  have assisted : ∀ (real : Psw) (before : Scene),
      (startAssisted user status virtual real controls).Achieves known
        (fun completion after => completion = .dispatched ∧ after.purge = true) before := by
    intro real before
    rw [startAssisted_eq]
    iterate 2 refine achieves_skip fun _ _ => ?_
    simp only [Achieves, goAhead, ensures_bind, ensures_store, ensures_modify, ensures_purgeTlb,
      ensures_pure]
    exact fun _ _ _ => ⟨trivial, trivial⟩
  rw [start_eq]
  refine (ensures_ite _ _ _).mpr ⟨fun _ => ?_, fun _ => ?_⟩
  · iterate 5 refine achieves_skip fun _ _ => ?_
    exact assisted _ _
  · iterate 4 refine achieves_skip fun _ _ => ?_
    exact assisted _ _

theorem load_settles (user micblok extension : UInt32) (status : UserStatus) (virtual : Psw)
    (controls : TranslationControls) :
    (load user micblok extension status virtual controls).Settles := by
  intro known scene
  have starts : ∀ (status : UserStatus) (after : Scene),
      (start user extension status virtual controls).Achieves known scene.Settles after := by
    intro status after
    refine (start_dispatches user extension status virtual controls).mono ?_ fun _ _ => id
    rintro _ final ⟨rfl, purge⟩
    exact ⟨fun _ => purge, nofun⟩
  simp only [Achieves, load, ensures_bind, ensures_require]
  refine ⟨fun _ => ?_, fun _ => trivial⟩
  simp only [ensures_ite, ensures_bind, ensures_pure]
  exact ⟨fun _ => starts _ _, fun _ => ensures_of_forall starts fun _ _ => trivial⟩

theorem loadUser_settles (user exits : UInt32) : (loadUser user exits).Settles := by
  simp only [loadUser]
  refine .after (by simp [UserStatus.fetch]) fun status => .after (by simp) fun micblok => ?_
  refine .after (by simp) fun floating => .after (by simp) fun _ => ?_
  refine .after (by simp) fun virtual => .after (by simp [ownControls]) fun controls => ?_
  refine .after (by simp) fun extension => ?_
  refine .ite (.ite (.after (by simp) fun _ => ?_) (.ite ?_ ?_)) ?_
  · exact (takeExit_goesOn _ _).settles (by simp)
  · exact .after (by simp [shadowControls]) fun controls => load_settles _ _ _ _ _ _
  · exact load_settles _ _ _ _ _ _
  · exact load_settles _ _ _ _ _ _

theorem dispatchUser_settles (list exits user systemUser : UInt32) :
    (dispatchUser list exits user systemUser).Settles := by
  have takes : ∀ runUser, (takeFrom runUser user systemUser).KeepsControls := by
    intro runUser
    apply Takes.keepsControls
    simp [takeFrom]
  have gives : ∀ (running : Bool) (rest : UInt32), (do
      let slice ← timeSlice list user running rest
      giveTo user slice
      loadUser user exits).Settles := by
    intro running rest
    refine .after (by simp [timeSlice]) fun slice => .after (by simp [giveTo]) fun _ => ?_
    exact loadUser_settles user exits
  refine .after (by simp) fun refuses => .ite ?_ ?_
  · exact fun _ _ => by simp
  · refine .after (by simp) fun runUser => .after (by simp) fun rest => .ite ?_ (gives _ rest)
    exact .bind (takes runUser) fun _ => gives _ rest

theorem select_settles (list exits : UInt32) : (select list exits).Settles := by
  intro known scene
  have keeps : scene.KeepsControls (charged scene) := ⟨fun _ => rfl, rfl⟩
  refine select_leads list exits (fun _ => trivial) (fun program goesOn plain => ?_)
    fun user systemUser _ _ => ?_
  · exact (goesOn.settles plain known _).mono (fun _ _ => .of_keeps keeps) fun _ _ => id
  · exact (dispatchUser_settles list exits user systemUser known _).mono
      (fun _ _ => .of_keeps keeps) fun _ _ => id

theorem departAndSelect_settles (list exits : UInt32) (clean : scene.handOffs = []) :
    (departAndSelect list exits).Achieves known scene.Settles scene := by
  have plain : (depart list exits).IsPlain := by simp
  simp only [Achieves, departAndSelect, ensures_bind]
  refine ((depart_ensures list exits clean).and (plain.keepsControls known scene)).mono ?_
    fun _ _ _ => trivial
  rintro departure after ⟨rfl | ⟨rfl, -⟩, keeps⟩
  · exact (ensures_pure _).mpr (.completed keeps)
  · exact (select_settles list exits known after).mono (fun _ _ => .of_keeps keeps) fun _ _ => id

end Dispatcher

/-- Only a pending CPU timer interruption is found when a program completes. -/
theorem Staging.control_committedCpu {Machine : Type} (staging : Staging Machine) :
    staging.committedCpu.control = staging.cpu.control := by
  rw [committedCpu]
  split <;> rfl

namespace Request

open Microcode Dispatcher

variable {known : Knowledge} {request : Request}

theorem purges_of_selects {list : UInt32} (selects : request.dispatchList? = some list)
    (policy : Policy) (level : UInt32) (memory : Memory) (cpu : Cpu) :
    (request.program policy level).microcode.Achieves known
      (fun completion after => completion = .dispatched → after.purge = true)
      (.before memory (request.program policy level) cpu) := by
  refine ensures_of_selects selects (fun _ _ _ => trivial) (fun _ => nofun) ?_
  intro exits before _ _ _ _
  exact (select_settles list exits known before).mono (fun _ _ settles => settles.dispatched)
    fun _ _ => id

/-- An assist of the control program that does not dispatch a user keeps the control registers. -/
theorem keepsControls_of_controlProgram {policy : Policy} {level : UInt32}
    {body : Microcode Completion} (isProgram : request.program policy level = .controlProgram body)
    {scene : Scene} (clean : scene.handOffs = []) :
    body.Achieves known (fun completion after =>
      completion ≠ .dispatched → scene.KeepsControls after) scene := by
  have keeps : ∀ {program : Microcode Completion}, program.KeepsControls →
      program.Achieves known (fun completion after =>
        completion ≠ .dispatched → scene.KeepsControls after) scene := fun keeps =>
    (keeps known scene).mono (fun _ _ kept _ => kept) fun _ _ => id
  have settles : ∀ {program : Microcode Completion}, program.Achieves known scene.Settles scene →
      program.Achieves known (fun completion after =>
        completion ≠ .dispatched → scene.KeepsControls after) scene := fun settles =>
    settles.mono (fun _ _ settled => settled.otherwise) fun _ _ => id
  by_cases dispatches : ∃ list exits, request = .disp0 list exits ∨ request = .disp1 list exits ∨
      request = .disp2 list exits
  · obtain ⟨list, exits, rfl | rfl | rfl⟩ := dispatches <;> cases isProgram
    · exact keeps (enter_keepsControls _ _)
    · exact settles (departAndSelect_settles _ _ clean)
    · exact settles (select_settles _ _ known scene)
  · simp only [not_exists, not_or] at dispatches
    apply keeps
    exact (controlProgram_isPlain isProgram (fun list exits => (dispatches list exits).1)
      (fun list exits => (dispatches list exits).2.1)
      fun list exits => (dispatches list exits).2.2).keepsControls

end Request

variable {Machine Refusal : Type} {policy : Policy} {callouts : Callouts Machine Refusal}
  {system : System Machine} {request : Request}

namespace System

theorem keepsControls_of_ran (isControl : request.assist.family = .cp) {completion : Completion}
    {after : Staging Machine}
    (ran : system.ran policy callouts request = (.done completion, after))
    (undispatched : completion ≠ .dispatched) :
    (∀ register, after.cpu.control.read register = system.cpu.control.read register) ∧
      after.purge = false := by
  cases isProgram : request.program policy system.registry.level with
  | virtualMachine body =>
      rw [Request.family_eq_vm isProgram] at isControl
      contradiction
  | controlProgram body =>
      have keeps := ensures_of_ran (callouts.shows_constant Memory.zero system.machine)
        (fun _ _ => trivial)
        (by
          rw [isProgram]
          exact Request.keepsControls_of_controlProgram isProgram rfl) ran
      have kept := keeps undispatched
      exact ⟨kept.control, kept.purge⟩

/-- Control registers 12 and 13 apart, which LOAD CONTROL loads, an instruction that does not
dispatch a user leaves the control registers as they are, and it does not empty the lookaside
buffer. -/
theorem control_of_not_dispatched
    (undispatched : (system.perform policy callouts request).result ≠ .ok .dispatched) :
    .purgeTlb ∉ system.calloutsMade policy callouts request ∧
      ∀ register, register ≠ 12 → register ≠ 13 →
        (system.perform policy callouts request).system.cpu.control.read register =
          system.cpu.control.read register := by
  cases family : request.assist.family with
  | vm =>
      have confined := confined_perform policy callouts system family
      refine ⟨confined.notPurged, fun register not12 not13 => ?_⟩
      apply confined.registers.control
      rintro ⟨-, loads⟩
      cases request with
      | lctl first last address => exact loads.1.elim not12 not13
      | _ => exact loads.elim
  | cp =>
      have conduct := perform_conduct policy callouts system request
      have keeps : ∀ {completion : Completion},
          (system.perform policy callouts request).result = .ok completion.outcome →
          (system.ran policy callouts request).1 = .done completion →
          (∀ register, (system.ran policy callouts request).2.cpu.control.read register =
              system.cpu.control.read register) ∧
            (system.ran policy callouts request).2.purge = false := by
        intro completion result isDone
        refine keepsControls_of_ran family (Prod.ext isDone rfl) fun dispatched => ?_
        rw [result, dispatched] at undispatched
        exact undispatched rfl
      refine ⟨fun purge_mem => ?_, fun register _ _ => ?_⟩
      · obtain ⟨completion, result, isDone, asked⟩ := conduct.purge_of_mem purge_mem
        rw [(keeps result isDone).2] at asked
        contradiction
      · by_cases completes : ∃ completion : Completion,
            (system.perform policy callouts request).result = .ok completion.outcome
        · obtain ⟨completion, completed⟩ := completes
          obtain ⟨isDone, cpu⟩ := conduct.done_of_completed completed
          rw [cpu, Staging.control_committedCpu]
          exact (keeps completed isDone).1 register
        · rw [control_of_not_completed]
          exact fun completion completed => completes ⟨completion, completed⟩

end System

end Assist370
