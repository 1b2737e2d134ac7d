import Assist370.Proofs.Admission
import Assist370.Proofs.GuestRun
import Assist370.Proofs.LogicalAccess

/-!
# Evaluation of a virtual machine's assists

Behind an open gate the running virtual machine is looked up in one way, so that an answered
instruction comes to what the evaluation of its program for that virtual machine tells
(`System.perform_guest_comesTo`). An operand that lies within a key block is one piece of storage,
so that its fetch is evaluated without regard to the keys of other blocks
(`Microcode.fetchLogical_eval`).
-/

namespace Assist370

theorem Piece.split_of_inBlock {policy : Policy} {address : UInt32} {length : Nat}
    (nonempty : 0 < length)
    (inBlock : (Address.wrap address).toNat % policy.keyBlock + length ≤ policy.keyBlock) :
    split policy address length = [⟨Address.wrap address, length⟩] := by
  have whole : firstLength policy address length = length := by
    simp only [firstLength]
    omega
  rw [split, dif_neg (by omega)]
  simp only [whole, Nat.sub_self]
  rw [split, dif_pos rfl]

/-- The registers once the running virtual machine has been looked up. -/
def Cpu.lookedUp (cpu : Cpu) (memory : Memory) : Cpu :=
  { cpu with
    virtualTimerAddress :=
      if cpu.assistControl.virtualTimer then
        some (Address.wrap (memory.guestContext cpu.assistControl).micblok.virtualTimer)
      else
        none }

theorem Answers.located_singleton {answers : Answers} {cpu : Cpu} {admits : StorageKey → Bool}
    (piece : Piece) :
    answers.located cpu admits [piece] =
      (answers.place cpu admits piece.address).map fun real => [⟨real, piece.length⟩] := by
  rw [located]
  cases answers.place cpu admits piece.address with
  | error reason => rfl
  | ok real => rfl

namespace Microcode

variable {answers : Answers} {scene : Scene}

/-- A value within a key block is fetched if its first byte admits the access. -/
theorem fetchLogical_eval {α : Type} [Stored α] {policy : Policy} {address : UInt32}
    (nonempty : 0 < Stored.size α)
    (inBlock : (Address.wrap address).toNat % policy.keyBlock + Stored.size α ≤ policy.keyBlock)
    (protection : BitVec 4) :
    (fetchLogical policy address protection : Microcode α).eval answers scene =
      ((answers.place scene.cpu (·.admitsFetch protection) address).map fun real =>
        scene.memory.get real Field.first, scene) := by
  have sameBytes : ∀ real : UInt32, Bytes.ofList (Stored.size α)
      (scene.memory.bytesAt (Piece.places ⟨real, Stored.size α⟩)) =
        scene.memory.bytes real (Stored.size α) := by
    intro real
    rw [← Memory.toList_bytes, Bytes.ofList_toList]
  have first : ∀ real : UInt32, real + (Field.first : Field α).offset = real := UInt32.add_zero
  simp only [fetchLogical, fetchLogicalBytes, Piece.split_of_inBlock nonempty inBlock, eval_bind,
    resolve_eval, Answers.located_singleton, Answers.place_wrap]
  cases answers.place scene.cpu (·.admitsFetch protection) address with
  | error reason => rfl
  | ok real =>
      simp only [Except.map, fetchPieces_eval, List.flatMap_singleton, sameBytes, Memory.get,
        first]
      rfl

theorem fetchLogical_ignoresReference {α : Type} [Stored α] (policy : Policy) (address : UInt32)
    (protection : BitVec 4) :
    (fetchLogical policy address protection : Microcode α).IgnoresReference :=
  (fetchLogicalBytes_ignoresReference policy address _ protection).bind fun _ => trivial

end Microcode

namespace GuestContext

open Microcode

variable {answers : Answers} {scene : Scene}

theorem lookUp_eval (inBlock : liesWithinBlock scene.cpu.assistControl.micblok)
    (unknown : scene.cpu.virtualTimerAddress = none) :
    lookUp.eval answers scene =
      (.ok (scene.memory.guestContext scene.cpu.assistControl),
        { scene with cpu := scene.cpu.lookedUp scene.memory }) := by
  rw [lookUp, eval_bind, eval_registers]
  dsimp only
  rw [eval_bind, eval_require, if_pos inBlock]
  dsimp only
  rw [eval_bind, eval_perform]
  dsimp only [Action.eval]
  by_cases timer : scene.cpu.assistControl.virtualTimer
  · simp only [if_pos timer, eval_bind, eval_modify, eval_fetch, eval_pure, Cpu.lookedUp,
      Memory.guestContext]
  · have kept : scene.cpu = { scene.cpu with virtualTimerAddress := none } := by
      rw [← unknown]
    simp only [if_neg timer, eval_bind, eval_fetch, eval_pure, Cpu.lookedUp, Memory.guestContext,
      ← kept]

theorem lookUp_isKeyless : lookUp.Takes Action.IsKeyless := by
  simp [lookUp, perform]

end GuestContext

namespace System

open Microcode

variable {Machine Refusal : Type} {callouts : Callouts Machine Refusal} {policy : Policy}
  {system : System Machine} {request : Request}

/-- The running virtual machine is known: the gate of an assist is open, and the MICBLOK lies within
a block. -/
structure RunsGuest (system : System Machine) (assist : Assist) : Prop where
  admitted : system.registry.Admits system.cpu assist
  inBlock : GuestContext.liesWithinBlock system.cpu.assistControl.micblok

instance (system : System Machine) (assist : Assist) : Decidable (system.RunsGuest assist) :=
  decidable_of_iff (_ ∧ _) ⟨fun ⟨admitted, inBlock⟩ => ⟨admitted, inBlock⟩,
    fun runs => ⟨runs.admitted, runs.inBlock⟩⟩

/-- The staging area in which the running virtual machine is looked up. -/
def guestStaging (system : System Machine) : Staging Machine where
  machine := system.machine
  cpu := { system.cpu with virtualTimerAddress := none }

/-- What the program of a virtual machine's instruction finds: the virtual machine has been looked
up. -/
def guestFound (system : System Machine) (view : StorageView callouts) : System Machine :=
  { system with cpu := system.cpu.lookedUp (view.memory system.machine) }

/-- The scene in which the program of a virtual machine's instruction starts. -/
def guestScene (system : System Machine) (view : StorageView callouts) : Scene where
  memory := view.memory system.machine
  cpu := system.cpu.lookedUp (view.memory system.machine)

theorem run_lookUp (view : KeyedView callouts)
    (inBlock : GuestContext.liesWithinBlock system.cpu.assistControl.micblok) :
    (∃ error, (GuestContext.lookUp.run callouts system.guestStaging).1 = .failed error) ∨
      ∃ after, GuestContext.lookUp.run callouts system.guestStaging =
          (.done (system.virtualMachine view.toStorageView), after) ∧
        after.scene view.memory = system.guestScene view.toStorageView := by
  have takes : GuestContext.lookUp.Takes fun _ => True := takes_of_forall _ fun _ => trivial
  have reached : callouts.Reaches Callout.Looks system.machine system.guestStaging.machine := .refl
  have ends := run_eval (view.tells system.machine) takes
    GuestContext.lookUp_isKeyless.ignoresReference reached
  have scene_eq : system.guestStaging.scene view.memory =
      ⟨view.memory system.machine, system.guestStaging.cpu, false, false, [], []⟩ := by
    simp [Staging.scene, guestStaging]
  have found : GuestContext.lookUp.eval (view.answers system.machine)
      (system.guestStaging.scene view.memory) =
        (.ok (system.virtualMachine view.toStorageView),
          system.guestScene view.toStorageView) := by
    rw [scene_eq, GuestContext.lookUp_eval]
    · rfl
    · exact inBlock
    · rfl
  rw [found] at ends
  generalize GuestContext.lookUp.run callouts system.guestStaging = ran at ends ⊢
  rcases ran with ⟨context | reason | error, after⟩
  · right
    have same := Except.ok.inj (congrArg Prod.fst ends)
    exact ⟨after, by rw [same], (congrArg Prod.snd ends).symm⟩
  · have differ := congrArg Prod.fst ends
    cases differ
  · exact .inl ⟨error, rfl⟩

/-- An answered instruction of a virtual machine comes to what the evaluation of its program
tells. -/
theorem perform_guest_comesTo (view : KeyedView callouts)
    {body : GuestContext → Microcode Completion}
    (isProgram : request.program policy system.registry.level = .virtualMachine body)
    (ignores : ∀ context, (body context).IgnoresReference)
    (runs : system.RunsGuest request.assist)
    (answered : (system.perform policy callouts request).Answered) :
    (system.perform policy callouts request).ComesTo view.toStorageView
      (system.guestFound view.toStorageView)
      ((body (system.virtualMachine view.toStorageView)).eval (view.answers system.machine)
        (system.guestScene view.toStorageView)) := by
  have isGuest := Request.family_eq_vm isProgram
  have opened := (Registry.guestRefusal?_eq_none _ _ isGuest).mpr runs.admitted
  have admitted : (system.guestStaging.cpu).assistControl.guestRefusal? = none := opened.2
  have looked := GuestContext.lookUp.run_looks callouts system.guestStaging
  have inSpace := GuestContext.lookUp.run_inSpace callouts
    (show system.guestStaging.journal.InSpace from Journal.inSpace_empty)
  simp only [perform, isProgram, performVirtualMachine, opened.1] at answered ⊢
  rw [guestStaging] at admitted
  simp only [admitted, performForGuest] at answered ⊢
  rw [← guestStaging] at answered ⊢
  rcases run_lookUp view runs.inBlock with ⟨error, failed⟩ | ⟨after, ran, scene⟩
  · generalize GuestContext.lookUp.run callouts system.guestStaging = ran at failed answered
    rcases ran with ⟨ending, after⟩
    simp only at failed
    subst failed
    exact absurd answered Bool.false_ne_true
  · rw [ran] at looked inSpace answered ⊢
    have timer : after.cpu.virtualTimerAddress =
        (system.cpu.lookedUp (view.memory system.machine)).virtualTimerAddress :=
      congrArg (·.cpu.virtualTimerAddress) scene
    dsimp only at answered ⊢
    rw [timer] at answered ⊢
    have comesTo := @settle_comesTo _ _ callouts _ _ view.toStorageView
      { system.guestFound view.toStorageView with
        registry := system.registry.recordCall request.assist }
      (view.tells system.machine) request.assist
      (body (system.virtualMachine view.toStorageView)) (takes_of_forall _ fun _ => trivial)
      (ignores _) after looked inSpace answered
    rw [scene] at comesTo
    exact ⟨comesTo.result, comesTo.cpu, comesTo.memory⟩

/-- An instruction for a machine that refuses no callout is answered. -/
theorem answered_of_refusesNothing (refusesNothing : callouts.RefusesNothing system.machine) :
    (system.perform policy callouts request).Answered := by
  have settled : ∀ (before : System Machine) (program : Microcode Completion)
      (staging : Staging Machine), staging.machine = system.machine → staging.journal.InSpace →
      (before.settle callouts request.assist (program.run callouts staging)).Answered := by
    intro before program staging same inSpace
    rw [← same] at refusesNothing
    have not_failed := program.run_not_failed refusesNothing
    have looked := program.run_looks callouts staging
    have later := program.run_inSpace callouts inSpace
    generalize program.run callouts staging = ran at not_failed looked later
    rcases ran with ⟨completion | reason | error, after⟩
    · have committed := (refusesNothing.looked looked).grants.commit later
      simp only [settle]
      generalize after.commit callouts = answer at committed
      rcases answer with ⟨error | cpu, machine⟩
      · cases committed
      · rfl
    · rfl
    · exact absurd rfl (not_failed error)
  have course := system.perform_course policy callouts request
  generalize system.perform policy callouts request = response at course
  cases course with
  | refused _ _ _ => rfl
  | missing => rfl
  | controlProgram body _ => exact settled _ body _ rfl Journal.inSpace_empty
  | virtualMachine body _ _ _ =>
      exact settled _ (GuestContext.lookUp.bind body) _ rfl Journal.inSpace_empty

end System

end Assist370
