import Assist370.Proofs.ProgramFootprint

/-!
# Plain programs

Only the selection of a user hands registers to the software path, and only the dispatch of a user,
the look at its interval timer and LOAD CONTROL change control registers. Every other program is
plain: it does neither, nor does it ask for the lookaside buffer to be emptied.
-/

namespace Assist370

/-- The action hands nothing off, leaves the control registers and does not ask for the lookaside
buffer to be emptied. -/
@[simp]
def Action.IsPlain : Action → Prop
  | handOff _ _ | purgeTlb => False
  | modify change => ∀ cpu, (change cpu).control = cpu.control
  | _ => True

/-- Whatever it is answered, the program takes plain actions only. -/
abbrev Microcode.IsPlain {α : Type} (program : Microcode α) : Prop :=
  program.Takes Action.IsPlain

/-- The action hands nothing off. -/
@[simp]
def Action.KeepsHandOffs : Action → Prop
  | handOff _ _ => False
  | _ => True

/-- Whatever it is answered, the program hands nothing off. -/
abbrev Microcode.KeepsHandOffs {α : Type} (program : Microcode α) : Prop :=
  program.Takes Action.KeepsHandOffs

open Microcode

theorem Microcode.IsPlain.keepsHandOffs {α : Type} {program : Microcode α}
    (plain : program.IsPlain) : program.KeepsHandOffs :=
  plain.mono fun action isPlain => by cases action <;> trivial

@[simp]
theorem Action.isPlain_allowsLooks : AllowsLooks IsPlain :=
  ⟨fun _ _ => trivial, fun _ => trivial, fun _ => trivial, trivial⟩

@[simp]
theorem Action.isPlain_allowsStores : AllowsStores IsPlain :=
  fun _ _ => trivial

@[simp]
theorem Action.isPlain_allowsCharging : AllowsCharging IsPlain where
  fetch _ _ := trivial
  log _ := trivial
  modify _ same cpu := (same cpu).control
  store := isPlain_allowsStores
  setTimer _ := trivial

@[simp]
theorem Action.isPlain_allowsRoutine : AllowsRoutine IsPlain :=
  isPlain_allowsCharging.toAllowsRoutine

@[simp]
theorem Action.keepsHandOffs_allowsLooks : AllowsLooks KeepsHandOffs :=
  ⟨fun _ _ => trivial, fun _ => trivial, fun _ => trivial, trivial⟩

@[simp]
theorem Action.keepsHandOffs_allowsStores : AllowsStores KeepsHandOffs :=
  fun _ _ => trivial

theorem Action.keepsHandOffs_allowsWork : AllowsWork KeepsHandOffs :=
  ⟨fun _ _ => trivial, fun _ _ => trivial, fun _ => trivial, fun _ => trivial, fun _ => trivial⟩

@[simp]
theorem Action.keepsHandOffs_allowsCharging : AllowsCharging KeepsHandOffs :=
  keepsHandOffs_allowsWork.charging

@[simp]
theorem Action.keepsHandOffs_allowsRoutine : AllowsRoutine KeepsHandOffs :=
  keepsHandOffs_allowsCharging.toAllowsRoutine

theorem GuestContext.lookUp_isPlain : lookUp.IsPlain := by
  simp [lookUp, perform]

/-- The programs of a virtual machine's assists, from the look-up of the virtual machine on. -/
theorem GuestContext.lookUp_bind_keepsHandOffs {policy : Policy} {level : UInt32}
    {request : Request} {body : GuestContext → Microcode Completion}
    (isProgram : request.program policy level = .virtualMachine body) :
    (lookUp.bind body).KeepsHandOffs := by
  refine (takes_bind lookUp body).mpr ⟨lookUp_isPlain.keepsHandOffs, fun context _ =>
    Request.takes_virtualMachine Action.keepsHandOffs_allowsLooks Action.keepsHandOffs_allowsStores
      Action.keepsHandOffs_allowsRoutine Action.keepsHandOffs_allowsWork.controls isProgram context⟩

theorem Dispatcher.enter_keepsHandOffs (list exits : UInt32) :
    (enter list exits).KeepsHandOffs :=
  takes_enter Action.keepsHandOffs_allowsCharging Action.keepsHandOffs_allowsWork.controls
    trivial (fun _ => trivial) list exits

theorem Dispatcher.loadUser_keepsHandOffs (user exits : UInt32) :
    (loadUser user exits).KeepsHandOffs :=
  takes_loadUser Action.keepsHandOffs_allowsCharging Action.keepsHandOffs_allowsWork.controls
    trivial trivial user exits

namespace Request

variable {policy : Policy} {level : UInt32} {request : Request} {body : Microcode Completion}

/-- The programs of the control program's assists other than those of the dispatcher. -/
theorem controlProgram_isPlain (isProgram : request.program policy level = .controlProgram body)
    (notDisp0 : ∀ list exits, request ≠ .disp0 list exits)
    (notDisp1 : ∀ list exits, request ≠ .disp1 list exits)
    (notDisp2 : ∀ list exits, request ≠ .disp2 list exits) : body.IsPlain :=
  takes_controlProgram Action.isPlain_allowsLooks Action.isPlain_allowsStores
    Action.isPlain_allowsRoutine isProgram notDisp0 notDisp1 notDisp2

/-- The programs of the control program's assists other than the selection of a user. -/
theorem controlProgram_keepsHandOffs
    (isProgram : request.program policy level = .controlProgram body)
    (notDisp1 : ∀ list exits, request ≠ .disp1 list exits)
    (notDisp2 : ∀ list exits, request ≠ .disp2 list exits) : body.KeepsHandOffs := by
  by_cases isDisp0 : ∃ list exits, request = .disp0 list exits
  · obtain ⟨list, exits, rfl⟩ := isDisp0
    cases isProgram
    exact Dispatcher.enter_keepsHandOffs ..
  · have notDisp0 : ∀ list exits, request ≠ .disp0 list exits :=
      fun list exits same => isDisp0 ⟨list, exits, same⟩
    exact (controlProgram_isPlain isProgram notDisp0 notDisp1 notDisp2).keepsHandOffs

end Request

end Assist370
