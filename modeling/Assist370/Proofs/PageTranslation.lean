import Assist370.Proofs.Departure
import Assist370.Proofs.LockBalance
import Assist370.Proofs.LogicalAccess

/-!
# Translation with and without a lock

Two assists translate the virtual address in general register 1, and one of them locks the frame
that it finds as well. They complete under the same condition, that the address has a real one and
that its frame does not hold a shared page which has been stored into, and they leave the same
registers. The one leaves storage alone, and the other leaves it as the lock of the frame by itself
does (`System.translations_agree`).
-/

namespace Assist370

/-- The registers with which a translation returns: the real address in general register 2, and the
instruction address at the place that is branched to. -/
def Cpu.translated (cpu : Cpu) (real target : UInt32) : Cpu :=
  { cpu.setGeneral 2 real with
    psw := { cpu.psw with conditionCode := 0, instructionAddress := Address.wrap target } }

/-- Storage with the frame that holds an address locked once more, in the core table that a word
points to. -/
def Memory.lockedThrough (memory : Memory) (pointer address : UInt32) : Memory :=
  let entry := CoreTable.entry (memory.getAddress pointer Field.first) address
  let flags := memory.get entry CoreTable.flags
  if flags &&& CoreTable.locked ≠ 0 then
    memory.put entry CoreTable.lockCount (memory.get entry CoreTable.lockCount + 1)
  else
    (memory.put entry CoreTable.flags (flags ||| CoreTable.locked)).put entry CoreTable.lockCount 1

namespace KeyedView

variable {Machine Refusal : Type} {callouts : Callouts Machine Refusal} (view : KeyedView callouts)
  (machine : Machine) (cpu : Cpu) (pointer real : UInt32)

/-- The virtual address in general register 1 is translated to a real one under control registers 0
and 1. -/
def TranslatesTo : Prop :=
  ∃ found, view.translation machine (cpu.control.read 0) (cpu.control.read 1)
    (Address.wrap (cpu.general.read 1)) = .ok found ∧ Address.wrap found = real

/-- The frame that holds a real address holds a shared page, by the core table that a word points
to. -/
def SharesFrame : Prop :=
  let memory := view.memory machine
  memory.frameFlags (memory.getAddress pointer Field.first) real &&& CoreTable.shared ≠ 0

/-- The key of some block in the frame that holds a real address has been marked by a store. -/
def ChangedFrame : Prop :=
  ∃ place : UInt32, place.toNat < Address.space ∧ Address.frame place = Address.frame real ∧
    (view.keyAt machine place).change = true

/-- The virtual address in general register 1 is translated to a real one, whose frame does not hold
a shared page that has been stored into. -/
structure TranslatesUnchanged : Prop where
  translates : view.TranslatesTo machine cpu real
  unchanged : ¬(view.SharesFrame machine pointer real ∧ view.ChangedFrame machine real)

variable {view machine cpu pointer real}

theorem TranslatesTo.unique {other : UInt32} (translates : view.TranslatesTo machine cpu real)
    (translatesOther : view.TranslatesTo machine cpu other) : real = other := by
  obtain ⟨found, translated, rfl⟩ := translates
  obtain ⟨foundOther, translatedOther, rfl⟩ := translatesOther
  rw [translated] at translatedOther
  rw [Except.ok.inj translatedOther]

theorem TranslatesTo.wrap_eq (translates : view.TranslatesTo machine cpu real) :
    Address.wrap real = real := by
  obtain ⟨found, -, rfl⟩ := translates
  exact Address.wrap_wrap found

end KeyedView

namespace PageLock

open Microcode

section Blocks

theorem keyBlocks_eq (policy : Policy) (frame : UInt32) :
    keyBlocks policy frame = match policy with
      | .splitKeys => [frame + 0, frame + 0x800]
      | .pageKeys => [frame + 0] := by
  cases policy <;> rfl

variable {real : UInt32}

/-- The key blocks of a frame lie in it. -/
theorem frame_of_mem_keyBlocks {policy : Policy} {block : UInt32}
    (isBlock : block ∈ keyBlocks policy (Address.frame real)) :
    Address.frame block = Address.frame real := by
  have inFrame : ∀ distance : UInt32, distance.toNat < 0x1000 →
      Address.frame (Address.frame real + distance) = Address.frame real := by
    intro distance distance_lt
    apply UInt32.toNat_inj.mp
    rw [Address.toNat_frame, UInt32.toNat_add, Address.toNat_frame]
    omega
  rw [keyBlocks_eq] at isBlock
  cases policy <;>
    simp only [List.mem_cons, List.not_mem_nil, or_false] at isBlock
  · rcases isBlock with rfl | rfl
    · exact inFrame 0 (by decide)
    · exact inFrame 0x800 (by decide)
  · rw [isBlock]
    exact inFrame 0 (by decide)

/-- The key blocks of a frame cover it: each address in it lies in one of them. -/
theorem mem_keyBlocks_of_frame (policy : Policy) {place : UInt32}
    (place_lt : place.toNat < Address.space)
    (sameFrame : Address.frame place = Address.frame real) :
    ∃ block ∈ keyBlocks policy (Address.frame real),
      (Address.wrap block).toNat / policy.keyBlock = place.toNat / policy.keyBlock := by
  rw [← sameFrame, keyBlocks_eq]
  rw [Address.space] at place_lt
  have wrapped : ∀ distance : UInt32, distance.toNat < 0x1000 →
      (Address.wrap (Address.frame place + distance)).toNat =
        0x1000 * (place.toNat / 0x1000) + distance.toNat := by
    intro distance distance_lt
    rw [Address.toNat_wrap, UInt32.toNat_add, Address.toNat_frame, Address.space]
    omega
  cases policy with
  | splitKeys =>
      by_cases firstHalf : place.toNat % 0x1000 < 0x800
      · refine ⟨_, List.mem_cons_self, ?_⟩
        rw [wrapped 0 (by decide)]
        simp only [Policy.keyBlock, UInt32.toNat_zero]
        omega
      · refine ⟨_, List.mem_cons_of_mem _ List.mem_cons_self, ?_⟩
        rw [wrapped 0x800 (by decide)]
        simp only [Policy.keyBlock, UInt32.reduceToNat]
        omega
  | pageKeys =>
      refine ⟨_, List.mem_cons_self, ?_⟩
      rw [wrapped 0 (by decide)]
      simp only [Policy.keyBlock, UInt32.toNat_zero]
      omega

end Blocks

variable {Machine Refusal : Type} {callouts : Callouts Machine Refusal} {view : KeyedView callouts}
  {policy : Policy} {machine : Machine} {cpu : Cpu} {pointer : UInt32}

/-- A scan of the keys of its blocks finds whether a frame has been changed. -/
theorem any_changed_iff (byBlock : view.KeysByBlock policy machine) (real : UInt32) :
    ((keyBlocks policy (Address.frame real)).any fun block =>
        ((view.answers machine).key (Address.wrap block)).change) = true ↔
      view.ChangedFrame machine real := by
  simp only [List.any_eq_true, KeyedView.answers, Address.wrap_wrap]
  constructor
  · rintro ⟨block, isBlock, changed⟩
    refine ⟨Address.wrap block, Address.wrap_lt block, ?_, changed⟩
    rw [Address.frame_wrap, frame_of_mem_keyBlocks isBlock]
  · rintro ⟨place, place_lt, sameFrame, changed⟩
    obtain ⟨block, isBlock, sameBlock⟩ := mem_keyBlocks_of_frame policy place_lt sameFrame
    refine ⟨block, isBlock, ?_⟩
    have block_lt := Address.wrap_lt block
    rw [Address.space] at place_lt block_lt
    have alike := byBlock ((Address.wrap block).toNat / 0x800) (by omega) (place.toNat / 0x800)
      (by omega) (by cases policy <;> simp only [Policy.keyBlock] at sameBlock ⊢ <;> omega)
    rw [alike.change]
    exact changed

/-- The translation finds the real address if its frame may be used, and declines otherwise. -/
theorem translateUnchanged_eval (byBlock : view.KeysByBlock policy machine)
    (pointer : UInt32) (cpu : Cpu) :
    (∀ real, view.TranslatesUnchanged machine cpu pointer real →
        (translateUnchanged policy pointer).eval (view.answers machine)
          { memory := view.memory machine, cpu } =
            (.ok real, { memory := view.memory machine, cpu })) ∧
      ((∀ real, ¬view.TranslatesUnchanged machine cpu pointer real) →
        ∃ reason, (translateUnchanged policy pointer).eval (view.answers machine)
          { memory := view.memory machine, cpu } =
            (.error reason, { memory := view.memory machine, cpu })) := by
  have translation : (view.answers machine).translation (cpu.control.read 0) (cpu.control.read 1)
      (Address.wrap (cpu.general.read 1)) = view.translation machine (cpu.control.read 0)
        (cpu.control.read 1) (Address.wrap (cpu.general.read 1)) := by
    simp only [KeyedView.answers, Address.wrap_wrap]
  simp only [translateUnchanged, eval_bind, eval_general, eval_loadRealAddress, translation]
  cases found : view.translation machine (cpu.control.read 0) (cpu.control.read 1)
    (Address.wrap (cpu.general.read 1)) with
  | error fault =>
      refine ⟨fun real unchanged => ?_, fun _ => ⟨_, rfl⟩⟩
      obtain ⟨place, translated, -⟩ := unchanged.translates
      simp [found] at translated
  | ok place =>
      have translates : view.TranslatesTo machine cpu (Address.wrap place) := ⟨place, found, rfl⟩
      have unique : ∀ real, view.TranslatesUnchanged machine cpu pointer real →
          real = Address.wrap place := fun real unchanged => unchanged.translates.unique translates
      simp only [Except.map, entryThrough, testBits, eval_bind, eval_fetchAddress, eval_fetch,
        eval_pure, eval_ite, requireUnchanged_eval, bne_iff_ne]
      by_cases shares : (view.memory machine).get (CoreTable.entry
        ((view.memory machine).getAddress pointer Field.first) (Address.wrap place))
          CoreTable.flags &&& CoreTable.shared ≠ 0
      · simp only [if_pos shares]
        by_cases changed : view.ChangedFrame machine (Address.wrap place)
        · simp only [if_pos ((any_changed_iff byBlock _).mpr changed)]
          refine ⟨fun real unchanged => ?_, fun _ => ⟨_, rfl⟩⟩
          obtain rfl := unique real unchanged
          exact absurd ⟨shares, changed⟩ unchanged.unchanged
        · simp only [if_neg (mt (any_changed_iff byBlock _).mp changed)]
          refine ⟨fun real unchanged => ?_, fun never => ?_⟩
          · rw [unique real unchanged]
          · exact absurd ⟨translates, fun both => changed both.2⟩ (never _)
      · simp only [if_neg shares]
        refine ⟨fun real unchanged => ?_, fun never => ?_⟩
        · rw [unique real unchanged]
        · exact absurd ⟨translates, fun both => shares both.1⟩ (never _)

theorem translateUnchanged_ignoresReference (policy : Policy) (pointer : UInt32) :
    (translateUnchanged policy pointer).IgnoresReference := by
  have rest : ∀ {α : Type} {program : Microcode α}, program.Takes Action.IsKeyless →
      program.IgnoresReference := Takes.ignoresReference
  refine (rest (by simp)).bind fun address =>
    (rest (by simp [loadRealAddress, perform])).bind fun answer => ?_
  cases answer with
  | error fault => exact rest (takes_decline _)
  | ok real =>
      refine (rest (entryThrough_isKeyless _ _)).bind fun entry =>
        (rest (by simp)).bind fun shared => ?_
      split
      · exact (requireUnchanged_ignoresReference _).bind fun _ => rest (takes_pure _)
      · exact rest (by simp)

theorem lockFrame_eval (answers : Answers) (pointer address : UInt32) (scene : Scene) :
    (lockFrame pointer address).eval answers scene =
      (.ok (), { scene with memory := scene.memory.lockedThrough pointer address }) := by
  simp only [lockFrame, entryThrough, Memory.lockedThrough, eval_bind, eval_fetchAddress,
    eval_fetch, eval_pure, eval_ite, eval_store, bne_iff_ne]
  split <;> rfl

theorem returnTranslated_ignoresReference (real target : UInt32) :
    (returnTranslated real target).IgnoresReference := by
  apply Takes.ignoresReference
  simp [returnTranslated, setGeneral, setConditionCode, branch]

theorem returnTranslated_eval (answers : Answers) (real target : UInt32) (scene : Scene) :
    (returnTranslated real (Address.wrap target)).eval answers scene =
      (.ok .completed, { scene with cpu := scene.cpu.translated real target }) := by
  simp only [returnTranslated, setGeneral, setConditionCode, branch, eval_bind, eval_modify,
    eval_pure, Address.wrap_wrap]
  rfl

/-- Locks the frame that holds a real address, and returns with it. -/
def lockAndReturn (pointer real target : UInt32) : Microcode Completion := do
  lockFrame pointer real
  returnTranslated real target

theorem lockAndReturn_ignoresReference (pointer real target : UInt32) :
    (lockAndReturn pointer real target).IgnoresReference := by
  have keyless : (lockFrame pointer real).Takes Action.IsKeyless := by
    simp [lockFrame, entryThrough]
  exact keyless.ignoresReference.bind fun _ => returnTranslated_ignoresReference real target

theorem lockAndReturn_eval (answers : Answers) (pointer real target : UInt32) (scene : Scene) :
    (lockAndReturn pointer real (Address.wrap target)).eval answers scene =
      (.ok .completed, { scene with
        memory := scene.memory.lockedThrough pointer real
        cpu := scene.cpu.translated real target }) := by
  simp only [lockAndReturn, eval_bind, lockFrame_eval, returnTranslated_eval]

end PageLock

namespace System

open PageLock

variable {Machine Refusal : Type} {callouts : Callouts Machine Refusal} {policy : Policy}
  {system : System Machine} {view : KeyedView callouts} {pointer target : UInt32}

/-- What an instruction comes to that translates the address in general register 1: the condition
under which it completes, the registers that it then leaves, and that it otherwise declines, unless
its gate finds that there is no such instruction, and leaves everything as it was. -/
structure Translates (view : KeyedView callouts) (system : System Machine) (request : Request)
    (pointer target : UInt32) (response : Response Machine Refusal) : Prop where
  completes_iff : response.result = .ok .completed ↔
    system.registry.cpGate request.assist system.cpu = .passed ∧
      ∃ real, view.TranslatesUnchanged system.machine system.cpu (Address.wrap pointer) real
  registers : response.result = .ok .completed → ∀ real,
    view.TranslatesUnchanged system.machine system.cpu (Address.wrap pointer) real →
      response.system.cpu = system.cpu.translated real target
  declines : response.result ≠ .ok .completed →
    response.result = .ok (system.registry.cpGate request.assist system.cpu).refusal ∧
      response.system.cpu = system.cpu ∧
      view.memory response.system.machine = view.memory system.machine

/-- An instruction translates if its program goes on after the translation as it should. -/
theorem perform_translates {request : Request}
    (byBlock : view.KeysByBlock policy system.machine) {finish : UInt32 → Microcode Completion}
    (isProgram : request.program policy system.registry.level =
      .controlProgram (translateUnchanged policy (Address.wrap pointer) >>= finish))
    {stored : UInt32 → Memory → Memory}
    (ignores : ∀ real, (finish real).IgnoresReference)
    (finishes : ∀ real (scene : Scene), (finish real).eval (view.answers system.machine) scene =
      (.ok .completed, { scene with
        memory := stored real scene.memory
        cpu := scene.cpu.translated real target }))
    (answered : (system.perform policy callouts request).Answered) :
    system.Translates view request pointer target (system.perform policy callouts request) ∧
      ((system.perform policy callouts request).result = .ok .completed → ∀ real,
        view.TranslatesUnchanged system.machine system.cpu (Address.wrap pointer) real →
          view.memory (system.perform policy callouts request).system.machine =
            stored real (view.memory system.machine)) := by
  by_cases gate : system.registry.cpGate request.assist system.cpu = .passed
  · have comesTo := perform_comesTo_of_tells view.toStorageView (view.tells system.machine)
      isProgram (Microcode.takes_of_forall _ fun _ => trivial)
      ((translateUnchanged_ignoresReference _ _).bind ignores) gate answered
    obtain ⟨finds, refuses⟩ :=
      @translateUnchanged_eval _ _ _ view policy system.machine byBlock (Address.wrap pointer)
        system.cpu
    rw [Microcode.eval_bind] at comesTo
    generalize system.perform policy callouts request = response at comesTo ⊢
    by_cases found : ∃ real,
        view.TranslatesUnchanged system.machine system.cpu (Address.wrap pointer) real
    · obtain ⟨real, unchanged⟩ := found
      have only : ∀ other, view.TranslatesUnchanged system.machine system.cpu
          (Address.wrap pointer) other → other = real :=
        fun other isOther => isOther.translates.unique unchanged.translates
      rw [finds real unchanged] at comesTo
      simp only [finishes] at comesTo
      have completed : response.result = .ok .completed := comesTo.result
      refine ⟨⟨iff_of_true completed ⟨gate, real, unchanged⟩, fun _ other isOther => ?_,
        fun uncompleted => absurd completed uncompleted⟩, fun _ other isOther => ?_⟩
      · rw [only other isOther]
        exact comesTo.cpu
      · rw [only other isOther]
        exact comesTo.memory
    · obtain ⟨reason, declined⟩ := refuses fun real unchanged => found ⟨real, unchanged⟩
      rw [declined] at comesTo
      have uncompleted : response.result ≠ .ok .completed := by
        simp [comesTo.result, Evaluation.outcome]
      refine ⟨⟨iff_of_false uncompleted fun passes => found passes.2,
        fun completed => absurd completed uncompleted, fun _ => ?_⟩,
        fun completed => absurd completed uncompleted⟩
      rw [gate]
      exact ⟨comesTo.result, comesTo.cpu, comesTo.memory⟩
  · obtain ⟨result, unchanged⟩ := @perform_of_stopped _ _ callouts _ _ _ _ isProgram gate
    have uncompleted : (system.perform policy callouts request).result ≠ .ok .completed := by
      rw [result]
      exact fun completed => CpGate.refusal_ne _ .completed (Except.ok.inj completed)
    refine ⟨⟨iff_of_false uncompleted fun passes => gate passes.1,
      fun completed => absurd completed uncompleted, fun _ => ?_⟩,
      fun completed => absurd completed uncompleted⟩
    rw [unchanged]
    exact ⟨result, rfl, rfl⟩

/-- The lock of a page by itself completes, and locks its frame once more. -/
theorem perform_lock {pointer page : UInt32}
    (gate : system.registry.cpGate .lckpg system.cpu = .passed)
    (answered : (system.perform policy callouts (.lckpg pointer page)).Answered) :
    (system.perform policy callouts (.lckpg pointer page)).result = .ok .completed ∧
      view.memory (system.perform policy callouts (.lckpg pointer page)).system.machine =
        (view.memory system.machine).lockedThrough (Address.wrap pointer)
          (Address.wrap page) := by
  have fromStorage :
      (lock (Address.wrap pointer) (Address.wrap page)).Takes Action.FromStorage := by
    simp [lock, lockFrame, entryThrough, Microcode.setConditionCode, Microcode.returnToCaller,
      Microcode.branch]
  have comesTo := @perform_comesTo _ _ callouts policy system (.lckpg pointer page) _
    view.toStorageView default rfl fromStorage gate answered
  simp only [lock, Microcode.eval_bind, lockFrame_eval] at comesTo
  exact ⟨comesTo.result, comesTo.memory⟩

/-- The translation that locks is the one that does not, followed by the lock of the frame. Both
complete under the same condition and leave the same registers. The one leaves storage as it was,
and the other as the lock of the real address by itself leaves it; otherwise nothing is changed. -/
theorem translations_agree (view : KeyedView callouts) (pointer target : UInt32)
    (byBlock : view.KeysByBlock policy system.machine)
    (translated : (system.perform policy callouts (.trbrg pointer target)).Answered)
    (locked : (system.perform policy callouts (.trlok pointer target)).Answered) :
    let translating := system.perform policy callouts (.trbrg pointer target)
    let locking := system.perform policy callouts (.trlok pointer target)
    system.Translates view (.trbrg pointer target) pointer target translating ∧
      system.Translates view (.trlok pointer target) pointer target locking ∧
      view.memory translating.system.machine = view.memory system.machine ∧
      (translating.result = .ok .completed → locking.result = .ok .completed →
        translating.system.cpu = locking.system.cpu) ∧
      ∀ real, locking.result = .ok .completed →
        view.TranslatesUnchanged system.machine system.cpu (Address.wrap pointer) real →
        system.registry.cpGate .lckpg system.cpu = .passed →
        (system.perform policy callouts (.lckpg pointer real)).Answered →
        (system.perform policy callouts (.lckpg pointer real)).result = .ok .completed ∧
          view.memory locking.system.machine =
            view.memory (system.perform policy callouts (.lckpg pointer real)).system.machine := by
  intro translating locking
  obtain ⟨translates, kept⟩ := @perform_translates _ _ callouts policy system view pointer target
    (.trbrg pointer target) byBlock (fun real => returnTranslated real (Address.wrap target)) rfl
    (fun _ memory => memory) (returnTranslated_ignoresReference · _)
    (fun real scene => returnTranslated_eval _ real target scene) translated
  obtain ⟨locks, stored⟩ := @perform_translates _ _ callouts policy system view pointer target
    (.trlok pointer target) byBlock _ rfl
    (fun real memory => memory.lockedThrough (Address.wrap pointer) real)
    (lockAndReturn_ignoresReference _ · _)
    (fun real scene => lockAndReturn_eval _ _ real target scene) locked
  refine ⟨translates, locks, ?_, fun completed alsoCompleted => ?_,
    fun real completed unchanged gate answered => ?_⟩
  · by_cases completed : translating.result = .ok .completed
    · obtain ⟨-, real, unchanged⟩ := translates.completes_iff.mp completed
      exact kept completed real unchanged
    · exact (translates.declines completed).2.2
  · obtain ⟨-, real, unchanged⟩ := translates.completes_iff.mp completed
    rw [translates.registers completed real unchanged,
      locks.registers alsoCompleted real unchanged]
  · obtain ⟨result, memory⟩ := @perform_lock _ _ callouts policy system view pointer real gate
      answered
    refine ⟨result, ?_⟩
    rw [memory, unchanged.translates.wrap_eq]
    exact stored completed real unchanged

/-- A system that asks for the real address of 4123, whose page lies in the frame at address 14000.
By the core table at address 20000, which the word at address 3000 points to, the frame holds a
shared page and has three locks. -/
def sharingSystem (secondKey : StorageKey) : System PagedStorage where
  registry := Registry.initial true false
  cpu :=
    { Cpu.initial with
      general := RegisterFile.zero.load 1 0x4123
      control := RegisterFile.zero.load 6 0x02000000 }
  machine :=
    { memory :=
        ((Memory.zero.store 0x3000 [0, 2, 0, 0]).store
          0x20144 [0, 0, 0, 3]).store
          0x20148 [0x88]
      keys := fun half => if half = 0x29 then secondKey else ⟨0⟩
      frames := fun page => if page = 4 then some 0x14 else none }

/-- While neither half of the frame has been stored into, the address is translated, and the page
gets a fourth lock. -/
theorem sharingSystem_translates :
    let system := sharingSystem ⟨0⟩
    let locked := system.perform .splitKeys PagedStorage.callouts (.trlok 0x3000 0x5000)
    let byItself := system.perform .splitKeys PagedStorage.callouts (.lckpg 0x3000 0x14123)
    locked.result = .ok .completed ∧ locked.system.cpu = system.cpu.translated 0x14123 0x5000 ∧
      locked.system.machine.memory.lockCount 0x20000 0x14123 = 4 ∧
      locked.system.machine.memory = byItself.system.machine.memory := by
  intro system locked byItself
  have byBlock := PagedStorage.keyedView.keysByBlock_splitKeys system.machine
  have agree := translations_agree PagedStorage.keyedView 0x3000 0x5000 byBlock
    (by decide +kernel) (by decide +kernel)
  have completed : locked.result = .ok .completed := Response.result_eq_ok (by decide +kernel)
  obtain ⟨-, real, unchanged⟩ := agree.2.1.completes_iff.mp completed
  have translates : PagedStorage.keyedView.TranslatesTo system.machine system.cpu 0x14123 :=
    ⟨0x14123, by decide +kernel, by decide⟩
  obtain rfl := unchanged.translates.unique translates
  refine ⟨completed, agree.2.1.registers completed _ unchanged, by decide +kernel, ?_⟩
  exact (agree.2.2.2.2 _ completed unchanged (by decide +kernel) (by decide +kernel)).2

/-- If the second half has been stored into, the page is left to the control program. -/
example : ((sharingSystem ⟨StorageKey.changeField.mask 8⟩).perform .splitKeys
    PagedStorage.callouts (.trlok 0x3000 0x5000)).result.toOption = some .declined := by
  decide +kernel

end System

end Assist370
