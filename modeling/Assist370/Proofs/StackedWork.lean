import Mathlib.Tactic.MkIffOfInductiveProp
import Assist370.Proofs.BlockSizes
import Assist370.Proofs.UserLoad

/-!
# What the selection comes to

While no work is stacked, the selection dispatches a user, takes the idle exit or declines. While
some is, it takes the first block off its ring, counts it off the stacked work of its user, and
enters its routine: with general registers 10 to 12 set for a request (`Dispatcher.RunsRequest`),
with the registers that the block has saved for an execution request
(`Dispatcher.RunsExecution`).
-/

namespace Assist370

namespace Field

variable {α : Type} [Stored α]

@[simp]
theorem item_zero (field : Field α) : field.item 0 = field := by
  simp [item]

end Field

namespace FreeStorage

open Microcode

/-- The heads of all subpools. -/
def headsRegion (sizeTable : UInt32) : Region :=
  ⟨sizeTable + heads.offset, 259⟩

theorem head_within (sizeTable : UInt32) (index : UInt8) :
    (Region.ofField sizeTable (head index)).Within (headsRegion sizeTable) := by
  apply Region.within_of_distance
  have index_lt := index.toNat_lt
  have sameStart : sizeTable + (head index).offset =
      sizeTable + heads.offset + index.toUInt32 := by
    rw [head, UInt32.add_assoc]
  simp only [Region.ofField, headsRegion, sameStart, Stored.size, Region.distance_eq,
    UInt32.toNat_add, UInt8.toNat_toUInt32, Address.space]
  omega

/-- A release can return a block: its size fits, its frame belongs to free storage, and it is not
the first block of its subpool already. -/
@[mk_iff]
structure Serves (memory : Memory) (sizeTable releaseList block : UInt32) (count : UInt16) :
    Prop where
  fits : Fits memory sizeTable count.toUInt32
  isFree : memory.IsFree releaseList block
  notFirst : memory.get sizeTable (head (memory.get releaseList (sizeIndex.item count.toNat))) ≠
    block

/-- A release returns its block if it can, and otherwise declines before it has stored anything. -/
theorem release_decides {known : Knowledge} {scene : Scene}
    (isFaithful : known.faithful) (block : UInt32) (count : UInt16)
    (sizeTable releaseList : UInt32) :
    (release block count sizeTable releaseList).Ensures known
      (fun _ after => after = scene ∧ ¬Serves scene.memory sizeTable releaseList block count)
      (fun _ after => Serves scene.memory sizeTable releaseList block count ∧
        after = { scene with
          memory := scene.memory.returned sizeTable
            (scene.memory.get releaseList (sizeIndex.item count.toNat)) block }) scene := by
  have zero_iff : count = 0 ↔ count.toUInt32 = 0 := by
    simp [← UInt16.toNat_inj, ← UInt32.toNat_inj]
  simp only [release, fetchAddress, ensures_bind, ensures_require, ensures_fetch_iff isFaithful,
    ensures_store, ensures_pure, bne_iff_ne, bne_eq_false_iff_eq, decide_eq_true_eq,
    decide_eq_false_iff_not, beq_iff_eq, beq_eq_false_iff_ne]
  refine ⟨fun nonzero => ⟨fun fits => ⟨fun same => ⟨fun flagged => ⟨fun notFirst _ _ => ?_, ?_⟩,
    ?_⟩, ?_⟩, ?_⟩, ?_⟩
  · exact ⟨⟨⟨mt zero_iff.mpr nonzero, fits⟩, ⟨same, flagged⟩, notFirst⟩, rfl⟩
  · exact fun isFirst => ⟨trivial, fun serves => serves.notFirst isFirst⟩
  · exact fun unflagged => ⟨trivial, fun serves => unflagged serves.isFree.2⟩
  · exact fun another => ⟨trivial, fun serves => another serves.isFree.1⟩
  · exact fun tooLarge => ⟨trivial, fun serves => tooLarge serves.fits.2⟩
  · exact fun isZero => ⟨trivial, fun serves => serves.fits.1 (zero_iff.mp isZero)⟩

end FreeStorage

namespace Memory

variable {α : Type} [Stored α]

/-- Memory once a block has been taken off its ring. -/
def unlink (memory : Memory) (block : UInt32) (next previous : Field UInt32) : Memory :=
  (memory.put (memory.getAddress block previous) next (memory.getAddress block next)).put
    (memory.getAddress block next) previous (memory.getAddress block previous)

/-- Memory once a block has been taken off the count of a user's stacked work. -/
def unstack (memory : Memory) (user : UInt32) : Memory :=
  memory.put user Vmblok.stackCount (memory.get user Vmblok.stackCount - 1)

/-- Puts values into fields that lie in a row. -/
def putRow (memory : Memory) (block : UInt32) (field : Field α) : List α → Memory
  | [] => memory
  | value :: values => (memory.put block field value).putRow block (field.item 1) values

/-- A row of values leaves what its fields are apart from. -/
theorem putRow_agreesOn {memory : Memory} {block : UInt32} {field : Field α} {region : Region}
    (values : List α)
    (clear : ∀ index < values.length, (Region.ofField block (field.item index)).Apart region) :
    (memory.putRow block field values).AgreesOn memory region := by
  induction values generalizing memory field with
  | nil => exact fun _ _ => rfl
  | cons value values ih =>
      have first := clear 0 (by simp)
      rw [Field.item_zero] at first
      refine AgreesOn.trans (ih fun index index_lt => ?_) (put_agreesOn value first)
      rw [Field.item_item, Nat.add_comm]
      exact clear (index + 1) (by simpa using index_lt)

/-- A row of values is read back if its fields do not overlap. -/
theorem get_putRow [Stored.Exact α] {memory : Memory} {block : UInt32} {field : Field α}
    (values : List α)
    (apart : ∀ first < values.length, ∀ second < values.length, first ≠ second →
      Stored.size α ≤ Region.distance (field.item first).offset (field.item second).offset)
    {index : Nat} (index_lt : index < values.length) :
    (memory.putRow block field values).get block (field.item index) = values[index] := by
  induction values generalizing memory field index with
  | nil => nomatch index_lt
  | cons value values ih =>
      rw [List.length_cons] at apart index_lt
      rw [putRow]
      cases index with
      | zero =>
          rw [Field.item_zero, AgreesOn.get_eq (putRow_agreesOn values fun later later_lt => ?_),
            get_put_self]
          · rfl
          · rw [Field.item_item, ← Field.item_zero field, Field.item_item]
            exact Region.ofField_apart block (apart _ (by omega) _ (by omega) (by omega))
              (apart _ (by omega) _ (by omega) (by omega))
      | succ index =>
          have shifted : field.item (index + 1) = (field.item 1).item index := by
            rw [Field.item_item, Nat.add_comm]
          rw [shifted, List.getElem_cons_succ]
          refine ih (fun first first_lt second second_lt different => ?_) (by omega)
          rw [Field.item_item, Field.item_item]
          exact apart _ (by omega) _ (by omega) (by omega)

/-- The system is extended or recovers from a machine check, so that nothing is selected. -/
def BarsSelection (memory : Memory) : Prop :=
  memory.get PrefixArea.base PrefixArea.extendLock = PrefixArea.lockHeld ∨
    memory.get PrefixArea.base PrefixArea.processorStatus &&& PrefixArea.machineCheckRecovery ≠ 0

instance (memory : Memory) : Decidable memory.BarsSelection :=
  inferInstanceAs (Decidable (_ ∨ _))

end Memory

namespace Microcode

variable {α : Type} [Stored α] {known : Knowledge} {declined : Decline → Scene → Prop}
  {scene : Scene}

theorem storeRow_ensures (block : UInt32) (field : Field α) (values : List α) :
    (storeRow block field values).Ensures known declined
      (fun _ after => after =
        { scene with memory := scene.memory.putRow block field values }) scene := by
  induction values generalizing field scene with
  | nil => exact (ensures_pure ()).mpr rfl
  | cons value values ih =>
      simp only [storeRow, ensures_bind, ensures_store]
      intro _
      exact @ih { scene with memory := scene.memory.put block field value } (field.item 1)

end Microcode

namespace Dispatcher

open Microcode

variable {known : Knowledge} {declined : Decline → Scene → Prop} {scene : Scene}

/-- The selection ensures what holds of the work or the user that it comes to. -/
theorem select_cases (isFaithful : known.faithful) (list exits : UInt32)
    {post : Completion → Scene → Prop}
    (barred : (charged scene).memory.BarsSelection → ∀ reason, declined reason (charged scene))
    (request : ∀ block, (charged scene).memory.getAddress list DispatchList.requestQueue = block →
      block ≠ list → (runRequest block).Ensures known declined post (charged scene))
    (execution : (charged scene).memory.getAddress list DispatchList.requestQueue = list →
      ∀ block, (charged scene).memory.getAddress list DispatchList.executionQueue = block →
        block ≠ list → (runExecution list exits block).Ensures known declined post (charged scene))
    (unstacked : (charged scene).memory.getAddress list DispatchList.requestQueue = list →
      (charged scene).memory.getAddress list DispatchList.executionQueue = list →
      (∀ reason, declined reason (charged scene)) ∧
        (takeExit exits DispatchExit.idle.place).Ensures known declined post (charged scene) ∧
        ∀ user systemUser, FirstRunnable (charged scene).memory list user →
          (dispatchUser list exits user systemUser).Ensures known declined post
            (charged scene)) :
    (select list exits).Ensures known declined post scene := by
  simp only [select, currentUser, stopCharging, ensures_bind, ensures_general, ensures_pure,
    ensures_registers, ensures_store]
  intro _
  change (fetch PrefixArea.base PrefixArea.extendLock).Ensures known declined _ (charged scene)
  simp only [ensures_fetch_iff isFaithful, ensures_require, bne_iff_ne, bne_eq_false_iff_eq,
    Bool.not_eq_true', Bool.not_eq_false']
  refine ⟨fun _ => ?_, fun held => barred (.inl held) _⟩
  refine ensures_testBits _ _ _ fun recovering isKnown => ?_
  refine ⟨fun _ => ?_, fun isRecovering => barred (.inr ?_) _⟩
  · refine ensures_fetchAddress _ _ fun systemUser _ => ?_
    refine ensures_fetchAddress _ _ fun first isFirst => ?_
    simp only [ensures_ite, ensures_bind, Decidable.not_not]
    refine ⟨request first (isFirst isFaithful).symm, ?_⟩
    rintro rfl
    refine ensures_fetchAddress _ _ fun second isSecond => ?_
    refine ⟨execution (isFirst isFaithful).symm second (isSecond isFaithful).symm, ?_⟩
    rintro rfl
    obtain ⟨declines, idles, dispatches⟩ :=
      unstacked (isFirst isFaithful).symm (isSecond isFaithful).symm
    refine ensures_testBits _ _ _ fun locked _ => ⟨fun _ => idles, fun _ => ?_⟩
    simp only [dispatchFirst, ensures_bind]
    refine ensures_fetchAddress _ _ fun anchor isAnchor => ?_
    refine ensures_fetchAddress _ _ fun member isMember => ?_
    refine firstRunnable_ensures anchor chainLimit member (fun found leads => ?_)
      fun _ => declines _
    cases found with
    | none => exact idles
    | some user =>
        refine dispatches user systemUser ?_
        have isFirst := leads isFaithful user rfl
        rwa [isMember isFaithful, isAnchor isFaithful] at isFirst
  · have isOn := isKnown isFaithful
    rw [isRecovering] at isOn
    simpa using isOn.symm

theorem unlink_ensures (isFaithful : known.faithful) (block : UInt32)
    (next previous : Field UInt32) :
    (unlink block next previous).Ensures known declined
      (fun _ after => after =
        { scene with memory := scene.memory.unlink block next previous }) scene := by
  simp only [unlink, fetchAddress, ensures_bind, ensures_fetch_iff isFaithful, ensures_store,
    ensures_pure]
  intro _ _
  rfl

theorem unstack_ensures (isFaithful : known.faithful) (user : UInt32) :
    (unstack user).Ensures known declined
      (fun _ after => after =
        { scene with
          memory := scene.memory.unstack user
          cpu := { scene.cpu with
            cpuTimer := ((scene.memory.unstack user).get user Vmblok.totalTime).toInt64 }
          timerSet := true }) scene := by
  simp only [unstack, startCharging, setTimerFrom, ensures_bind, ensures_fetch_iff isFaithful,
    ensures_store, ensures_setTimer]
  exact fun _ => rfl

/-- What the running of a request leaves. -/
structure RunsRequest (memory : Memory) (block : UInt32) (after : Scene) : Prop where
  stored : after.memory =
    ((memory.unlink block Trqblok.next Trqblok.previous).unstack
      ((memory.unlink block Trqblok.next Trqblok.previous).getAddress block Trqblok.user)).put
        PrefixArea.base PrefixArea.stackUser
          ((memory.unlink block Trqblok.next Trqblok.previous).getAddress block Trqblok.user)
  register10 : after.cpu.general.read 10 = block
  register11 : after.cpu.general.read 11 =
    (memory.unlink block Trqblok.next Trqblok.previous).getAddress block Trqblok.user
  register12 : after.cpu.general.read 12 = after.memory.get block Trqblok.routine
  entered : after.cpu.psw.instructionAddress =
    Address.wrap (after.memory.get block Trqblok.routine)

theorem runRequest_runs (isFaithful : known.faithful) (block : UInt32) :
    (runRequest block).Ensures known declined
      (fun completion after => completion = .completed ∧ RunsRequest scene.memory block after)
      scene := by
  simp only [runRequest, ensures_bind]
  refine (unlink_ensures isFaithful _ _ _).mono ?_ fun _ _ => id
  rintro _ _ rfl
  refine ensures_fetchAddress _ _ fun user isUser => ?_
  obtain rfl := isUser isFaithful
  refine (unstack_ensures isFaithful _).mono ?_ fun _ _ => id
  rintro _ _ rfl
  simp only [ensures_store, ensures_fetch_iff isFaithful, setGeneral, branch, ensures_modify,
    ensures_pure]
  exact fun _ => ⟨trivial, rfl, by simp [Cpu.setGeneral], by simp [Cpu.setGeneral],
    by simp [Cpu.setGeneral], rfl⟩

/-- The registers that the block of an execution request has saved. -/
def savedRegisters (memory : Memory) (block : UInt32) : Vector UInt32 15 :=
  Vector.ofFn fun index : Fin 15 => memory.get block (Cpexblok.registers.item index)

/-- The user that an execution request is for. -/
def executionUser (memory : Memory) (block : UInt32) : UInt32 :=
  memory.getAddress block (Cpexblok.registers.item 11)

/-- Memory once an execution request has been taken off its ring and its count. -/
def executionTaken (memory : Memory) (block : UInt32) : Memory :=
  (memory.unlink block Cpexblok.next Cpexblok.previous).unstack
    (executionUser (memory.unlink block Cpexblok.next Cpexblok.previous) block)

theorem read_push (values : Vector UInt32 15) (last : UInt32) (register : RegisterNumber) :
    RegisterFile.read (values.push last) register =
      if inside : register.val < 15 then values[register.val] else last :=
  Vector.getElem_push register.isLt

/-- The general registers for the routine of an execution request. -/
def executionRegisters (memory : Memory) (block : UInt32) : RegisterFile :=
  (savedRegisters (memory.unlink block Cpexblok.next Cpexblok.previous) block).push
    ((executionTaken memory block).get block Cpexblok.routine)

/-- The general registers with which the return of a block is left to software. -/
def releaseRegisters (block : UInt32) (routine : RegisterFile) (found : Cpu) : RegisterFile :=
  #v[Cpexblok.doublewords.toUInt32, block, routine.read 2, routine.read 3, routine.read 4,
    routine.read 5, routine.read 6, routine.read 7, routine.read 8, routine.read 9,
    routine.read 10, routine.read 11, found.general.read 12, found.general.read 13,
    found.general.read 14, found.general.read 15]

/-- What the save area then keeps for the routine: its general registers 12 to 1. -/
def releaseSaved (routine : RegisterFile) : List UInt32 :=
  [routine.read 12, routine.read 13, routine.read 14, routine.read 15, routine.read 0,
    routine.read 1]

/-- What the running of an execution request leaves: its routine is entered, or the return of its
block is left to software. -/
inductive RunsExecution (memory : Memory) (list exits block : UInt32) (cpu : Cpu) (after : Scene) :
    Prop where
  | entered (index : UInt8)
      (stored : after.memory = (executionTaken memory block).returned
        ((executionTaken memory block).getAddress list DispatchList.sizeTable) index block)
      (general : after.cpu.general = executionRegisters memory block)
      (entered : after.cpu.psw.instructionAddress =
        Address.wrap ((executionTaken memory block).get block Cpexblok.routine))
  | releaseLeft
      (stored : after.memory = (executionTaken memory block).putRow list DispatchList.saveArea
        (releaseSaved (executionRegisters memory block)))
      (general : after.cpu.general = releaseRegisters block (executionRegisters memory block) cpu)
      (exited : after.cpu.psw.instructionAddress =
        Address.wrap (after.memory.get exits DispatchExit.releaseLeft.place))

/-- How the running of an execution request goes on once its block has been taken off the ring, by
whether the block can be returned to free storage. -/
inductive SettlesRelease (memory : Memory) (list exits block : UInt32) (cpu : Cpu) (after : Scene) :
    Prop where
  | returned
      (serves : FreeStorage.Serves (executionTaken memory block)
        ((executionTaken memory block).getAddress list DispatchList.sizeTable)
        ((executionTaken memory block).getAddress list DispatchList.releaseList) block
        Cpexblok.doublewords)
      (stored : after.memory = (executionTaken memory block).returned
        ((executionTaken memory block).getAddress list DispatchList.sizeTable)
        ((executionTaken memory block).get
          ((executionTaken memory block).getAddress list DispatchList.releaseList)
          (FreeStorage.sizeIndex.item Cpexblok.doublewords.toNat)) block)
      (general : after.cpu.general = executionRegisters memory block)
      (entered : after.cpu.psw.instructionAddress =
        Address.wrap ((executionTaken memory block).get block Cpexblok.routine))
  | left
      (unserved : ¬FreeStorage.Serves (executionTaken memory block)
        ((executionTaken memory block).getAddress list DispatchList.sizeTable)
        ((executionTaken memory block).getAddress list DispatchList.releaseList) block
        Cpexblok.doublewords)
      (stored : after.memory = (executionTaken memory block).putRow list DispatchList.saveArea
        (releaseSaved (executionRegisters memory block)))
      (general : after.cpu.general = releaseRegisters block (executionRegisters memory block) cpu)
      (exited : after.cpu.psw.instructionAddress =
        Address.wrap (after.memory.get exits DispatchExit.releaseLeft.place))

/-- An execution request is run on either way out, and its user is charged from then on. -/
theorem runExecution_settles (isFaithful : known.faithful) (list exits block : UInt32) :
    (runExecution list exits block).Ensures known declined
      (fun completion after => completion = .completed ∧
        after.cpu.cpuTimer = ((executionTaken scene.memory block).get
          (executionUser (scene.memory.unlink block Cpexblok.next Cpexblok.previous) block)
          Vmblok.totalTime).toInt64 ∧
        SettlesRelease scene.memory list exits block scene.cpu after) scene := by
  simp only [runExecution, ensures_bind]
  refine (unlink_ensures isFaithful _ _ _).mono ?_ fun _ _ => id
  rintro _ _ rfl
  refine fetchRow_ensures isFaithful _ _ _ ?_
  rw [← savedRegisters]
  have isUser : Address.wrap (savedRegisters
      (scene.memory.unlink block Cpexblok.next Cpexblok.previous) block)[11] =
        executionUser (scene.memory.unlink block Cpexblok.next Cpexblok.previous) block := by
    simp [savedRegisters, executionUser, Memory.getAddress]
  rw [isUser]
  refine (unstack_ensures isFaithful _).mono ?_ fun _ _ => id
  rintro _ _ rfl
  simp only [ensures_fetch_iff isFaithful]
  refine ensures_fetchAddress _ _ fun sizeTable isTable => ?_
  refine ensures_fetchAddress _ _ fun releaseList isList => ?_
  obtain rfl := isTable isFaithful
  obtain rfl := isList isFaithful
  rw [ensures_attempt]
  refine (FreeStorage.release_decides isFaithful _ _ _ _).mono ?_ ?_
  · rintro _ _ ⟨serves, rfl⟩
    simp only [enterRoutine, branch, ensures_bind, ensures_modify, ensures_pure]
    exact ⟨trivial, rfl, .returned serves rfl rfl rfl⟩
  · rintro reason _ ⟨rfl, unserved⟩
    simp only [ensures_bind, ensures_log, leaveRelease, ensures_modify]
    refine (storeRow_ensures _ _ _).mono ?_ fun _ _ => id
    rintro _ _ rfl
    simp only [takeExit, branch, ensures_bind, ensures_fetch_iff isFaithful, ensures_modify,
      ensures_pure]
    refine ⟨trivial, rfl, .left unserved ?_ ?_ rfl⟩
    · simp only [releaseSaved, executionRegisters, read_push]
      rfl
    · simp only [releaseRegisters, executionRegisters, read_push]
      rfl

theorem runExecution_runs (isFaithful : known.faithful) (list exits block : UInt32) :
    (runExecution list exits block).Ensures known declined
      (fun completion after => completion = .completed ∧
        RunsExecution scene.memory list exits block scene.cpu after) scene := by
  refine (runExecution_settles isFaithful list exits block).mono ?_ fun _ _ => id
  rintro completion after ⟨completed, -, settles⟩
  refine ⟨completed, ?_⟩
  cases settles with
  | returned _ stored general entered => exact .entered _ stored general entered
  | left _ stored general exited => exact .releaseLeft stored general exited

/-- Where a block is taken off its ring. -/
def linkRegions (memory : Memory) (block : UInt32) (next previous : Field UInt32) : List Region :=
  [.ofField (memory.getAddress block previous) next,
    .ofField (memory.getAddress block next) previous]

/-- Where the running of a request stores, but for the prefixed storage area. -/
def requestRegions (memory : Memory) (block : UInt32) : List Region :=
  .ofField ((memory.unlink block Trqblok.next Trqblok.previous).getAddress block Trqblok.user)
      Vmblok.stackCount ::
    linkRegions memory block Trqblok.next Trqblok.previous

/-- Where the running of an execution request stores. -/
def executionRegions (memory : Memory) (list block : UInt32) : List Region :=
  [.ofField (executionUser (memory.unlink block Cpexblok.next Cpexblok.previous) block)
      Vmblok.stackCount,
    FreeStorage.headsRegion
      ((executionTaken memory block).getAddress list DispatchList.sizeTable),
    FreeStorage.link block, ⟨list + DispatchList.saveArea.offset, 24⟩] ++
      linkRegions memory block Cpexblok.next Cpexblok.previous

/-- Where the running of the first stacked work stores, if there is any. -/
def workRegions (memory : Memory) (list : UInt32) : List Region :=
  if memory.getAddress list DispatchList.requestQueue ≠ list then
    requestRegions memory (memory.getAddress list DispatchList.requestQueue)
  else if memory.getAddress list DispatchList.executionQueue ≠ list then
    executionRegions memory list (memory.getAddress list DispatchList.executionQueue)
  else
    []

theorem saveArea_within (list : UInt32) {index : Nat} (index_lt : index < 6) :
    (Region.ofField list (DispatchList.saveArea.item index)).Within
      ⟨list + DispatchList.saveArea.offset, 24⟩ := by
  have inside : ∀ index < 6, Region.distance DispatchList.saveArea.offset
      (DispatchList.saveArea.item index).offset + 4 ≤ 24 := by
    decide
  apply Region.within_of_distance
  rw [Region.ofField, Region.distance_add_add]
  exact inside index index_lt

section

variable {memory : Memory} {list exits block : UInt32} {region : Region} {after : Scene}

theorem unlink_agreesOn {next previous : Field UInt32}
    (links : ∀ stored ∈ linkRegions memory block next previous, stored.Apart region) :
    (memory.unlink block next previous).AgreesOn memory region := by
  simp only [linkRegions, List.forall_mem_cons] at links
  exact (Memory.put_agreesOn _ links.2.1).trans (Memory.put_agreesOn _ links.1)

/-- The running of a request changes nothing apart from where it stores. -/
theorem RunsRequest.agreesOn (runs : RunsRequest memory block after)
    (work : ∀ stored ∈ requestRegions memory block, stored.Apart region)
    (stackUser : (Region.ofField PrefixArea.base PrefixArea.stackUser).Apart region) :
    after.memory.AgreesOn memory region := by
  rw [requestRegions, List.forall_mem_cons] at work
  rw [runs.stored]
  exact (Memory.put_agreesOn _ stackUser).trans
    ((Memory.put_agreesOn _ work.1).trans (unlink_agreesOn work.2))

/-- Nor does that of an execution request. -/
theorem RunsExecution.agreesOn {cpu : Cpu}
    (runs : RunsExecution memory list exits block cpu after)
    (work : ∀ stored ∈ executionRegions memory list block, stored.Apart region) :
    after.memory.AgreesOn memory region := by
  simp only [executionRegions, List.forall_mem_append, List.forall_mem_cons] at work
  obtain ⟨⟨count, heads, link, saveArea, -⟩, links⟩ := work
  have taken : (executionTaken memory block).AgreesOn memory region :=
    (Memory.put_agreesOn _ count).trans (unlink_agreesOn links)
  cases runs with
  | entered index stored _ _ =>
      rw [stored]
      exact (Memory.put_agreesOn _ link).trans
        ((Memory.put_agreesOn _ (heads.mono (FreeStorage.head_within _ index))).trans taken)
  | releaseLeft stored _ _ =>
      rw [stored]
      refine (Memory.putRow_agreesOn _ fun index index_lt => ?_).trans taken
      exact saveArea.mono (saveArea_within list index_lt)

end

end Dispatcher

end Assist370
