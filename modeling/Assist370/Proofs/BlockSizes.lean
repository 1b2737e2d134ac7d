import Assist370.Proofs.Departure
import Assist370.Proofs.Subpools

/-!
# The sizes of blocks of free storage

A request for free storage goes by all of general register 0, a return only by its low half. So both
judge a size alike if it is less than 65536. A larger size is never too large for a return whose low
half is not, and then the subpool that gets the block is the one for the low half
(`System.sizes_judged`).
-/

namespace Assist370

namespace Memory

/-- The frame of a block belongs to free storage, as the list says that a release works by. -/
def IsFree (memory : Memory) (releaseList block : UInt32) : Prop :=
  let entry := CoreTable.entry (memory.getAddress releaseList FreeStorage.coreTable) block
  memory.get entry CoreTable.descriptor = memory.get releaseList FreeStorage.freeDescriptor ∧
    memory.get entry CoreTable.flags = CoreTable.freeStorage

instance (memory : Memory) (releaseList block : UInt32) :
    Decidable (memory.IsFree releaseList block) :=
  inferInstanceAs (Decidable (_ ∧ _))

end Memory

namespace FreeStorage

open Microcode

variable {answers : Answers} {scene : Scene}

/-- A size is one that the subpools of a size table serve. -/
def Fits (memory : Memory) (sizeTable size : UInt32) : Prop :=
  size ≠ 0 ∧ size ≤ memory.get sizeTable largestSize

instance (memory : Memory) (sizeTable size : UInt32) : Decidable (Fits memory sizeTable size) :=
  inferInstanceAs (Decidable (_ ∧ _))

/-- The registers of a processor that goes on at the address in general register 14. -/
def returning (cpu : Cpu) : Cpu :=
  cpu.goingOn (cpu.general.read 14)

/-- The registers of a processor that goes on with a block of free storage. -/
def supplied (cpu : Cpu) (block : UInt32) : Cpu :=
  returning { cpu.setGeneral 1 block with psw := { cpu.psw with conditionCode := 0 } }

theorem obtain_eval (sizeTable indexTable : UInt32) :
    (obtain sizeTable indexTable).eval answers scene =
      let count := scene.cpu.general.read 0
      let index := scene.memory.byte (indexTable + count)
      let block := scene.memory.get sizeTable (head index)
      if count = 0 then (.error .zeroLength, scene)
      else if ¬count ≤ scene.memory.get sizeTable largestSize then
        (.error .largerThanSubpools, scene)
      else if block = 0 then (.error .subpoolEmpty, scene)
      else (.ok .completed, { scene with
        memory := scene.memory.put sizeTable (head index)
          (scene.memory.get block (Field.first : Field UInt32))
        cpu := supplied scene.cpu block }) := by
  have first : indexTable + scene.cpu.general.read 0 + (Field.first : Field UInt8).offset =
      indexTable + scene.cpu.general.read 0 := UInt32.add_zero _
  simp only [obtain, ↓eval_require_bind, eval_bind, bne_eq_false_iff_eq, decide_eq_false_iff_not,
    eval_general, eval_fetch, Memory.get_byte, first]
  rfl

theorem giveBack_eval (sizeTable releaseList : UInt32) :
    (giveBack sizeTable releaseList).eval answers scene =
      let count := (scene.cpu.general.read 0).toUInt16
      let block := Address.wrap (scene.cpu.general.read 1)
      let entry := CoreTable.entry (scene.memory.getAddress releaseList coreTable) block
      let index := scene.memory.byte (releaseList + 11 + count.toUInt32)
      if count = 0 then (.error .zeroLength, scene)
      else if ¬count.toUInt32 ≤ scene.memory.get sizeTable largestSize then
        (.error .largerThanSubpools, scene)
      else if ¬scene.memory.get entry CoreTable.descriptor =
          scene.memory.get releaseList freeDescriptor then
        (.error .notFreeStorage, scene)
      else if ¬scene.memory.get entry CoreTable.flags = CoreTable.freeStorage then
        (.error .pageNotFlagged, scene)
      else if scene.memory.get sizeTable (head index) = block then (.error .alreadyHead, scene)
      else (.ok .completed, { scene with
        memory := scene.memory.returned sizeTable index block
        cpu := returning scene.cpu }) := by
  have place : ∀ count : UInt16, releaseList + (sizeIndex.item count.toNat).offset =
      releaseList + 11 + count.toUInt32 := by
    intro count
    rw [sizeIndex_item, UInt32.add_assoc]
  -- The checks of the release stand before all that follows it.
  simp only [giveBack, release, LawfulMonad.bind_assoc]
  simp only [↓eval_require_bind, eval_bind, eval_general, bne_eq_false_iff_eq,
    beq_eq_false_iff_ne, decide_eq_false_iff_not, eval_fetch, eval_fetchAddress, Memory.get_byte,
    place]
  rfl

end FreeStorage

open FreeStorage

namespace Call

/-- The size in doublewords that a call goes by. -/
def size (call : Call) : UInt32 :=
  match call.request with
  | .fretx _ _ => call.doublewords.toUInt16.toUInt32
  | _ => call.doublewords

/-- The place of the index byte for the size that a call goes by. -/
def selector (call : Call) : UInt32 :=
  match call.request with
  | .freex _ indexTable => Address.wrap indexTable + call.size
  | .fretx _ releaseList => Address.wrap releaseList + 11 + call.size
  | _ => 0

theorem size_eq (call : Call) (isHalfword : call.doublewords ≤ 0xffff) :
    call.size = call.doublewords := by
  rw [size]
  split
  · exact halfword_size isHalfword
  · rfl

theorem selector_eq (call : Call) (isHalfword : call.doublewords ≤ 0xffff) :
    call.selector = call.indexPlace := by
  rw [selector, call.size_eq isHalfword]
  rfl

/-- The subpool that a call takes a block from or gives one to, by its index byte. -/
def subpool (call : Call) (memory : Memory) : UInt8 :=
  memory.byte call.selector

/-- The first block of that subpool. -/
def firstBlock (call : Call) (memory : Memory) (sizeTable : UInt32) : UInt32 :=
  memory.get sizeTable (head (call.subpool memory))

/-- The call can be completed: its size fits, and there is a block to be taken, or the block that is
returned is free storage and not the first block already. -/
def IsServed (call : Call) (memory : Memory) (sizeTable : UInt32) : Prop :=
  Fits memory sizeTable call.size ∧
    match call.request with
    | .freex _ _ => call.firstBlock memory sizeTable ≠ 0
    | .fretx _ releaseList =>
        memory.IsFree (Address.wrap releaseList) (Address.wrap (call.cpu.general.read 1)) ∧
          call.firstBlock memory sizeTable ≠ Address.wrap (call.cpu.general.read 1)
    | _ => False

/-- The storage that a completed call leaves. -/
def storageLeft (call : Call) (memory : Memory) (sizeTable : UInt32) : Memory :=
  match call.request with
  | .freex _ _ => memory.put sizeTable (head (call.subpool memory))
      (memory.get (call.firstBlock memory sizeTable) (Field.first : Field UInt32))
  | .fretx _ _ => memory.returned sizeTable (call.subpool memory)
      (Address.wrap (call.cpu.general.read 1))
  | _ => memory

/-- The registers that a completed call leaves. -/
def cpuLeft (call : Call) (memory : Memory) (sizeTable : UInt32) : Cpu :=
  match call.request with
  | .freex _ _ => supplied call.cpu (call.firstBlock memory sizeTable)
  | _ => returning call.cpu

/-- What the program of a call for free storage comes to. -/
inductive Ends (call : Call) (memory : Memory) (sizeTable : UInt32) : Evaluation → Prop where
  | done (served : call.IsServed memory sizeTable) :
      call.Ends memory sizeTable
        (.ok .completed,
          { memory := call.storageLeft memory sizeTable, cpu := call.cpuLeft memory sizeTable })
  | left (unserved : ¬call.IsServed memory sizeTable) (reason : Decline) :
      call.Ends memory sizeTable (.error reason, { memory, cpu := call.cpu })

variable {memory : Memory} {cpu : Cpu} {answers : Answers}

/-- A check that stands before the rest of the program. -/
theorem Ends.of_check {call : Call} {sizeTable : UInt32} {failed : Prop} [Decidable failed]
    {reason : Decline} {rest : Evaluation} (prevents : failed → ¬call.IsServed memory sizeTable)
    (ends : ¬failed → call.Ends memory sizeTable rest) :
    call.Ends memory sizeTable
      (if failed then (.error reason, { memory, cpu := call.cpu }) else rest) := by
  split
  · rename_i isFailed
    exact .left (prevents isFailed) reason
  · rename_i passed
    exact ends passed

theorem ends_obtain (sizeTable indexTable : UInt32) :
    Ends ⟨cpu, .freex sizeTable indexTable⟩ memory (Address.wrap sizeTable)
      ((obtain (Address.wrap sizeTable) (Address.wrap indexTable)).eval answers
        { memory, cpu }) := by
  rw [obtain_eval]
  apply Ends.of_check
  · rintro isZero ⟨⟨nonzero, -⟩, -⟩
    exact nonzero isZero
  intro nonzero
  apply Ends.of_check
  · rintro tooLarge ⟨⟨-, fits⟩, -⟩
    exact tooLarge fits
  intro fits
  apply Ends.of_check
  · rintro isEmpty ⟨-, nonempty⟩
    exact nonempty isEmpty
  intro nonempty
  exact .done ⟨⟨nonzero, not_not.mp fits⟩, nonempty⟩

theorem ends_giveBack (sizeTable releaseList : UInt32) :
    Ends ⟨cpu, .fretx sizeTable releaseList⟩ memory (Address.wrap sizeTable)
      ((giveBack (Address.wrap sizeTable) (Address.wrap releaseList)).eval answers
        { memory, cpu }) := by
  have zero_iff : ∀ count : UInt16, count = 0 ↔ count.toUInt32 = 0 := by
    intro count
    simp [← UInt16.toNat_inj, ← UInt32.toNat_inj]
  rw [giveBack_eval]
  apply Ends.of_check
  · rintro isZero ⟨⟨nonzero, -⟩, -⟩
    exact nonzero ((zero_iff _).mp isZero)
  intro nonzero
  apply Ends.of_check
  · rintro tooLarge ⟨⟨-, fits⟩, -⟩
    exact tooLarge fits
  intro fits
  apply Ends.of_check
  · rintro another ⟨-, isFree, -⟩
    exact another isFree.1
  intro same
  apply Ends.of_check
  · rintro unflagged ⟨-, isFree, -⟩
    exact unflagged isFree.2
  intro flagged
  apply Ends.of_check
  · rintro isFirst ⟨-, -, notFirst⟩
    exact notFirst isFirst
  intro notFirst
  exact .done ⟨⟨mt (zero_iff _).mpr nonzero, not_not.mp fits⟩,
    ⟨not_not.mp same, not_not.mp flagged⟩, notFirst⟩

theorem program_ends {call : Call} {sizeTable : UInt32}
    (isTable : call.sizeTable? = some sizeTable) :
    ∃ body : Microcode Completion,
      (∀ policy level, call.request.program policy level = .controlProgram body) ∧
        body.Takes Action.FromStorage ∧
        ∀ memory, call.Ends memory sizeTable (body.eval default { memory, cpu := call.cpu }) := by
  rcases call with ⟨cpu, request⟩
  rw [sizeTable?] at isTable
  cases request with
  | freex first second =>
      cases isTable
      refine ⟨_, fun _ _ => rfl, ?_, fun _ => ends_obtain first second⟩
      simp [obtain, Microcode.setGeneral, Microcode.setConditionCode, Microcode.returnToCaller,
        Microcode.branch]
  | fretx first second =>
      cases isTable
      refine ⟨_, fun _ _ => rfl, ?_, fun _ => ends_giveBack first second⟩
      simp [giveBack, release, Microcode.returnToCaller, Microcode.branch]
  | _ => cases isTable

end Call

namespace System

variable {Machine Refusal : Type} {policy : Policy} {callouts : Callouts Machine Refusal}
  {system : System Machine} {call : Call} {sizeTable : UInt32}

/-- Everything is as the call has found it. -/
structure Unaltered (system : System Machine) (call : Call) (view : StorageView callouts)
    (response : Response Machine Refusal) : Prop where
  result : response.result = .ok .declined ∨ response.result = .ok .operationException
  cpu : response.system.cpu = call.cpu
  memory : view.memory response.system.machine = view.memory system.machine

/-- What becomes of a call for free storage. -/
inductive StorageOutcome (system : System Machine) (call : Call) (sizeTable : UInt32)
    (view : StorageView callouts) (response : Response Machine Refusal) : Prop where
  | failed (error : AccessError Refusal) (result : response.result = .error error)
  | kept
      (prevented : ¬(system.registry.cpGate call.request.assist call.cpu = .passed ∧
        call.IsServed (view.memory system.machine) sizeTable))
      (unaltered : system.Unaltered call view response)
  | moved (passed : system.registry.cpGate call.request.assist call.cpu = .passed)
      (served : call.IsServed (view.memory system.machine) sizeTable)
      (result : response.result = .ok .completed)
      (cpu : response.system.cpu = call.cpuLeft (view.memory system.machine) sizeTable)
      (memory : view.memory response.system.machine =
        call.storageLeft (view.memory system.machine) sizeTable)

theorem call_outcome (view : StorageView callouts)
    (isTable : call.sizeTable? = some sizeTable) :
    system.StorageOutcome call sizeTable view (system.call policy callouts call) := by
  rcases call.program_ends isTable with ⟨body, isProgram, takes, ends⟩
  by_cases passed : system.registry.cpGate call.request.assist call.cpu = .passed
  · by_cases answered : (system.call policy callouts call).Answered
    · have comesTo := @perform_comesTo _ _ callouts policy { system with cpu := call.cpu }
        call.request body view default (isProgram _ _) takes passed answered
      generalize evaluation_eq : body.eval default _ = evaluation at comesTo
      have ended := ends (view.memory system.machine)
      rw [evaluation_eq] at ended
      cases ended with
      | done served => exact .moved passed served comesTo.result comesTo.cpu comesTo.memory
      | left unserved reason =>
          exact .kept (fun allowed => unserved allowed.2)
            ⟨.inl comesTo.result, comesTo.cpu, comesTo.memory⟩
    · rcases Response.failed_of_unanswered answered with ⟨error, result⟩
      exact .failed error result
  · have stopped := @perform_of_stopped _ _ callouts policy { system with cpu := call.cpu }
      call.request body (isProgram _ _) passed
    refine .kept (fun allowed => passed allowed.1) ⟨?_, ?_, ?_⟩
    · rw [System.call, stopped.1]
      cases system.registry.cpGate call.request.assist call.cpu <;> simp [CpGate.refusal]
    · rw [System.call, stopped.2]
    · rw [System.call, stopped.2]

theorem call_completed_iff (view : StorageView callouts)
    (isTable : call.sizeTable? = some sizeTable) :
    (system.call policy callouts call).result = .ok .completed ↔
      (system.call policy callouts call).Answered ∧
        system.registry.cpGate call.request.assist call.cpu = .passed ∧
        call.IsServed (view.memory system.machine) sizeTable := by
  have outcome := @call_outcome _ _ policy _ system call sizeTable view isTable
  generalize system.call policy callouts call = response at outcome
  rw [Response.answered_iff]
  cases outcome with
  | failed error result => simp [result]
  | kept prevented unaltered =>
      constructor
      · intro completed
        rcases unaltered.result with result | result <;> simp [result] at completed
      · rintro ⟨-, allowed⟩
        exact absurd allowed prevented
  | moved passed served result _ _ =>
      exact ⟨fun _ => ⟨⟨_, result⟩, passed, served⟩, fun _ => result⟩

theorem call_moved (view : StorageView callouts) (isTable : call.sizeTable? = some sizeTable)
    (completed : (system.call policy callouts call).result = .ok .completed) :
    (system.call policy callouts call).system.cpu =
        call.cpuLeft (view.memory system.machine) sizeTable ∧
      view.memory (system.call policy callouts call).system.machine =
        call.storageLeft (view.memory system.machine) sizeTable := by
  cases @call_outcome _ _ policy _ system call sizeTable view isTable with
  | failed error result =>
      rw [completed] at result
      cases result
  | kept prevented unaltered =>
      rcases unaltered.result with result | result <;> simp [result] at completed
  | moved _ _ _ cpu memory => exact ⟨cpu, memory⟩

theorem call_unaltered (view : StorageView callouts) (isTable : call.sizeTable? = some sizeTable)
    (answered : (system.call policy callouts call).Answered)
    (uncompleted : (system.call policy callouts call).result ≠ .ok .completed) :
    system.Unaltered call view (system.call policy callouts call) := by
  cases @call_outcome _ _ policy _ system call sizeTable view isTable with
  | failed error result =>
      rcases Response.answered_iff.mp answered with ⟨outcome, isOk⟩
      rw [isOk] at result
      cases result
  | kept _ unaltered => exact unaltered
  | moved _ _ result _ _ => exact absurd result uncompleted

section

variable (policy : Policy) (view : StorageView callouts) (system : System Machine) (call : Call)
  (sizeTable : UInt32)

/-- A call for free storage is completed if and only if it can be served by the size that it goes
by, and otherwise has no effect. -/
structure JudgesSize : Prop where
  completed_iff : (system.call policy callouts call).result = .ok .completed ↔
    (system.call policy callouts call).Answered ∧
      system.registry.cpGate call.request.assist call.cpu = .passed ∧
      call.IsServed (view.memory system.machine) sizeTable
  moved : (system.call policy callouts call).result = .ok .completed →
    (system.call policy callouts call).system.cpu =
        call.cpuLeft (view.memory system.machine) sizeTable ∧
      view.memory (system.call policy callouts call).system.machine =
        call.storageLeft (view.memory system.machine) sizeTable
  unaltered : (system.call policy callouts call).Answered →
    (system.call policy callouts call).result ≠ .ok .completed →
    system.Unaltered call view (system.call policy callouts call)
  /-- A request goes by all of general register 0, and so does a return of a block of at most 65535
  doublewords. -/
  fits : (system.call policy callouts call).result = .ok .completed →
    (∃ sizeTable indexTable, call.request = .freex sizeTable indexTable) ∨
      call.doublewords ≤ 0xffff →
    Fits (view.memory system.machine) sizeTable call.doublewords

/-- A later call returns the block that a call has obtained, with its size table and its size. By
the whole of that size both select one subpool. -/
structure Reverses (later : System Machine) (back : Call) : Prop where
  isRequest : ∃ sizeTable indexTable, call.request = .freex sizeTable indexTable
  completed : (system.call policy callouts call).result = .ok .completed
  inSpace : ((system.call policy callouts call).system.cpu.general.read 1).toNat < Address.space
  isReturn : ∃ sizeTable releaseList, back.request = .fretx sizeTable releaseList
  isTable : back.sizeTable? = some sizeTable
  doublewords : back.doublewords = call.doublewords
  block : back.cpu.general.read 1 = (system.call policy callouts call).system.cpu.general.read 1
  index : (view.memory later.machine).byte back.indexPlace =
    (view.memory system.machine).byte call.indexPlace

/-- The block is put on the subpool for the size that the return goes by. That is the one that it
has come from if it has at most 65535 doublewords. -/
structure PutsBack (later : System Machine) (back : Call) : Prop where
  settled : (later.call policy callouts back).result = .ok .completed ∧
      view.memory (later.call policy callouts back).system.machine =
        (view.memory later.machine).returned sizeTable (back.subpool (view.memory later.machine))
          ((system.call policy callouts call).system.cpu.general.read 1) ∨
    later.Unaltered back view (later.call policy callouts back)
  returns_iff : back.subpool (view.memory later.machine) =
      call.subpool (view.memory system.machine) ↔
    (view.memory later.machine).byte back.selector =
      (view.memory later.machine).byte back.indexPlace
  returns : call.doublewords ≤ 0xffff →
    back.subpool (view.memory later.machine) = call.subpool (view.memory system.machine)

end

variable {later : System Machine} {back : Call} {view : StorageView callouts}

theorem Reverses.putsBack (reverses : system.Reverses policy view call sizeTable later back)
    (answered : (later.call policy callouts back).Answered) :
    system.PutsBack policy view call sizeTable later back := by
  rcases reverses.isReturn with ⟨first, second, isReturn⟩
  -- A request goes by its whole size, by which the return would select the same index byte.
  have ofRequest : call.subpool (view.memory system.machine) =
      (view.memory later.machine).byte back.indexPlace := by
    rcases reverses.isRequest with ⟨_, _, isRequest⟩
    rw [reverses.index, Call.subpool, Call.selector, Call.indexPlace, Call.size]
    simp only [isRequest]
  refine ⟨?_, ?_, ?_⟩
  · by_cases completed : (later.call policy callouts back).result = .ok .completed
    · left
      refine ⟨completed, ?_⟩
      rw [(call_moved view reverses.isTable completed).2, Call.storageLeft]
      simp only [isReturn]
      rw [reverses.block, Address.wrap_of_lt reverses.inSpace]
    · right
      exact call_unaltered view reverses.isTable answered completed
  · rw [ofRequest]
    rfl
  · intro isHalfword
    rw [ofRequest, Call.subpool, back.selector_eq]
    rw [reverses.doublewords]
    exact isHalfword

/-- Unless it returns a block of more than 65535 doublewords, a call for free storage goes by all of
general register 0, and a block that has been obtained is returned to the subpool that it has come
from. A larger block is returned to the subpool for the low half of its size. -/
theorem sizes_judged (view : StorageView callouts) (isTable : call.sizeTable? = some sizeTable) :
    system.JudgesSize policy view call sizeTable ∧
      ∀ (later : System Machine) (back : Call),
        system.Reverses policy view call sizeTable later back →
        (later.call policy callouts back).Answered →
        system.PutsBack policy view call sizeTable later back := by
  refine ⟨⟨call_completed_iff view isTable, call_moved view isTable,
    call_unaltered view isTable, ?_⟩, fun _ _ => Reverses.putsBack⟩
  intro completed wholeSize
  have fits := ((call_completed_iff view isTable).mp completed).2.2.1
  have size_eq : call.size = call.doublewords := by
    rcases wholeSize with ⟨_, _, isRequest⟩ | isHalfword
    · simp only [Call.size, isRequest]
    · exact call.size_eq isHalfword
  rwa [size_eq] at fits

/-- The largest size of free storage is ten doublewords here, but a block is returned as one of
65537. -/
theorem freeSystem_misjudges :
    (freeSystem.call .splitKeys Memory.callouts
        (freeCall 0x10001 0x5010 (.fretx 0x1000 0x2000))).result = .ok .completed ∧
      ¬Fits freeSystem.machine 0x1000
        (freeCall 0x10001 0x5010 (.fretx 0x1000 0x2000)).doublewords :=
  ⟨Response.result_eq_ok (by decide +kernel), by decide +kernel⟩

/-- The same free storage with blocks of up to 131072 doublewords. -/
def largeBlocks : System Memory :=
  { freeSystem with machine := freeSystem.machine.store 0x1000 [0, 2, 0, 0] }

/-- A block of 65538 doublewords is taken from the subpool of single doublewords, and is returned to
the subpool of pairs. -/
theorem largeBlocks_strays :
    let call := freeCall 0x10002 0 (.freex 0x1000 0x3000)
    let later := (largeBlocks.call .splitKeys Memory.callouts call).system
    let back := freeCall 0x10002 0x5000 (.fretx 0x1000 0x2000)
    call.sizeTable? = some 0x1000 ∧ call.subpool largeBlocks.machine = 0 ∧
      largeBlocks.Reverses .splitKeys Memory.storageView call 0x1000 later back ∧
      (later.call .splitKeys Memory.callouts back).system.machine =
        later.machine.returned 0x1000 4 0x5000 := by
  intro call later back
  have isTable : call.sizeTable? = some 0x1000 := by decide
  have judged := @sizes_judged _ _ .splitKeys _ largeBlocks call _ Memory.storageView isTable
  have reverses : largeBlocks.Reverses .splitKeys Memory.storageView call 0x1000 later back := {
    isRequest := ⟨_, _, rfl⟩
    completed := Response.result_eq_ok (by decide +kernel)
    inSpace := by decide +kernel
    isReturn := ⟨_, _, rfl⟩
    isTable := by decide
    doublewords := by decide
    block := by decide +kernel
    index := by decide +kernel }
  have answered : (later.call .splitKeys Memory.callouts back).Answered := by decide +kernel
  have completed : (later.call .splitKeys Memory.callouts back).result = .ok .completed :=
    Response.result_eq_ok (by decide +kernel)
  have isPair : back.subpool later.machine = 4 := by decide +kernel
  have isBlock : later.cpu.general.read 1 = 0x5000 := by decide +kernel
  refine ⟨isTable, by decide +kernel, reverses, ?_⟩
  rcases (judged.2 later back reverses answered).settled with ⟨-, memory⟩ | unaltered
  · rw [← isPair, ← isBlock]
    exact memory
  · rcases unaltered.result with result | result <;> simp [completed] at result

end System

end Assist370
