import Mathlib.Tactic.IntervalCases
import Assist370.Proofs.QueueScan
import Assist370.Proofs.RangeLoads
import Assist370.Proofs.StackedRun

/-!
# The two ways out of a release

An execution request is taken off its ring, and its block is to go back to free storage. If the
dispatcher can return it, the routine is entered at once. Otherwise the return is left to software,
which finds the block in general registers 0 and 1, and the registers of the routine in the others
and in the save area. It is left to software just when a call that returns the block would decline
on storage with the block taken off its ring, and software that loads the save area gets the very
registers that the routine is entered with (`System.release_paths_agree`).
-/

namespace Assist370

open Dispatcher

namespace Memory

variable {memory other : Memory} {region : Region}

/-- A store into both memories leaves them alike where they are. -/
theorem AgreesOn.put {α : Type} [Stored α] (agrees : memory.AgreesOn other region)
    (block : UInt32) (field : Field α) (value : α) :
    (memory.put block field value).AgreesOn (other.put block field value) region := by
  rw [Memory.put, Memory.put]
  generalize (Stored.encode value).toList = values
  generalize block + field.offset = address
  induction values generalizing memory other address with
  | nil => exact agrees
  | cons value values ih =>
      refine ih (fun place inRegion => ?_) _
      rw [byte_set, byte_set, agrees place inRegion]

/-- So does the unlinking of a block, if its links are the same in both. -/
theorem AgreesOn.unlink {block : UInt32} {next previous : Field UInt32}
    (agrees : memory.AgreesOn other region)
    (forward : memory.getAddress block next = other.getAddress block next)
    (backward : memory.getAddress block previous = other.getAddress block previous) :
    (memory.unlink block next previous).AgreesOn (other.unlink block next previous) region := by
  rw [Memory.unlink, Memory.unlink, forward, backward]
  exact (agrees.put _ _ _).put _ _ _

/-- So does the return of a block, if its subpool has the same first block in both. -/
theorem AgreesOn.returned {sizeTable block : UInt32} {index : UInt8}
    (agrees : memory.AgreesOn other region)
    (first : memory.get sizeTable (FreeStorage.head index) =
      other.get sizeTable (FreeStorage.head index)) :
    (memory.returned sizeTable index block).AgreesOn (other.returned sizeTable index block)
      region := by
  rw [Memory.returned, Memory.returned, first]
  exact (agrees.put _ _ _).put _ _ _

end Memory

namespace Microcode

/-- What a program ensures that cannot decline, its evaluation comes to. -/
theorem Ensures.eval_ok {α : Type} {program : Microcode α} {post : α → Scene → Prop} {scene : Scene}
    (answers : Answers) (takes : program.Takes Action.FromStorage)
    (ensures : program.Ensures .ofStorage (fun _ _ => False) post scene) :
    ∃ value after, program.eval answers scene = (.ok value, after) ∧ post value after := by
  have ends := ensures.eval answers takes
  generalize program.eval answers scene = evaluation at ends ⊢
  obtain ⟨reason | value, after⟩ := evaluation
  · exact ends.elim
  · exact ⟨value, after, rfl, ends⟩

end Microcode

namespace FreeStorage

variable {memory after : Memory} {sizeTable releaseList block : UInt32} {index : UInt8}

/-- A size table with the heads of its subpools. -/
def tableRegion (sizeTable : UInt32) : Region :=
  ⟨sizeTable, 263⟩

theorem head_within_table (sizeTable : UInt32) (index : UInt8) :
    (Region.ofField sizeTable (head index)).Within (tableRegion sizeTable) := by
  have heads : (headsRegion sizeTable).Within (tableRegion sizeTable) :=
    Region.within_block sizeTable (by decide) (by decide)
  exact fun place inHead => heads place (head_within sizeTable index place inHead)

/-- What decides whether the block of an execution request can be returned: the size table, the list
that a release works by, and the entry of the block's frame in the core table. -/
def decidingRegions (memory : Memory) (sizeTable releaseList block : UInt32) : List Region :=
  [tableRegion sizeTable, ⟨releaseList, 22⟩,
    ⟨CoreTable.entry (memory.getAddress releaseList coreTable) block, 16⟩]

theorem sizeIndex_congr (list : after.AgreesOn memory ⟨releaseList, 22⟩) :
    after.get releaseList (sizeIndex.item Cpexblok.doublewords.toNat) =
      memory.get releaseList (sizeIndex.item Cpexblok.doublewords.toNat) :=
  (list.mono (Region.ofField_within _ (by decide) (by decide))).get_eq

/-- Storage that is the same there decides the same. -/
theorem serves_congr
    (agrees : ∀ region ∈ decidingRegions memory sizeTable releaseList block,
      after.AgreesOn memory region) :
    Serves after sizeTable releaseList block Cpexblok.doublewords ↔
      Serves memory sizeTable releaseList block Cpexblok.doublewords := by
  simp only [decidingRegions, List.forall_mem_cons] at agrees
  obtain ⟨table, list, entry, -⟩ := agrees
  have largest : after.get sizeTable largestSize = memory.get sizeTable largestSize :=
    (table.mono (Region.ofField_within _ (by decide) (by decide))).get_eq
  have core : after.getAddress releaseList coreTable = memory.getAddress releaseList coreTable :=
    (list.mono (Region.ofField_within _ (by decide) (by decide))).getAddress_eq
  have free : after.get releaseList freeDescriptor = memory.get releaseList freeDescriptor :=
    (list.mono (Region.ofField_within _ (by decide) (by decide))).get_eq
  have fits : Fits after sizeTable Cpexblok.doublewords.toUInt32 ↔
      Fits memory sizeTable Cpexblok.doublewords.toUInt32 := by
    rw [Fits, Fits, largest]
  have isFree : after.IsFree releaseList block ↔ memory.IsFree releaseList block := by
    simp only [Memory.IsFree, core, free]
    rw [(entry.mono (Region.ofField_within _ (by decide) (by decide))).get_eq,
      (entry.mono (Region.ofField_within _ (by decide) (by decide))).get_eq]
  have first := (table.mono (head_within_table sizeTable
    (memory.get releaseList (sizeIndex.item Cpexblok.doublewords.toNat)))).get_eq
  rw [serves_iff, serves_iff, fits, isFree, sizeIndex_congr list, first]

end FreeStorage

namespace Dispatcher

/-- The fields of a user that a run of an execution request charges and counts in. -/
def chargedFields (user : UInt32) : List Region :=
  [.ofField user Vmblok.totalTime, .ofField user Vmblok.stackCount]

/-- The blocks that an execution request is run with: the data list, the block of the request, and
what decides whether it can be returned. -/
def executionBlocks (memory : Memory) (list block : UInt32) : List Region :=
  ⟨list, 72⟩ :: WorkQueue.executions.region block ::
    FreeStorage.decidingRegions memory (memory.getAddress list DispatchList.sizeTable)
      (memory.getAddress list DispatchList.releaseList) block

section Members

variable (memory : Memory) (list block user : UInt32)

theorem time_mem : Region.ofField user Vmblok.totalTime ∈ chargedFields user := by
  simp [chargedFields]

theorem count_mem : Region.ofField user Vmblok.stackCount ∈ chargedFields user := by
  simp [chargedFields]

theorem list_mem : ⟨list, 72⟩ ∈ executionBlocks memory list block := by
  simp [executionBlocks]

theorem block_mem : WorkQueue.executions.region block ∈ executionBlocks memory list block := by
  simp [executionBlocks]

theorem releaseList_mem : ⟨memory.getAddress list DispatchList.releaseList, 22⟩ ∈
    executionBlocks memory list block := by
  simp [executionBlocks, FreeStorage.decidingRegions]

theorem block_mem_tail :
    WorkQueue.executions.region block ∈ (executionBlocks memory list block).tail := by
  simp [executionBlocks]

theorem table_mem_deciding :
    FreeStorage.tableRegion (memory.getAddress list DispatchList.sizeTable) ∈
      (executionBlocks memory list block).tail.tail := by
  simp [executionBlocks, FreeStorage.decidingRegions]

theorem table_mem_tail : FreeStorage.tableRegion (memory.getAddress list DispatchList.sizeTable) ∈
    (executionBlocks memory list block).tail :=
  List.mem_of_mem_tail (table_mem_deciding ..)

theorem table_mem : FreeStorage.tableRegion (memory.getAddress list DispatchList.sizeTable) ∈
    executionBlocks memory list block :=
  List.mem_of_mem_tail (table_mem_tail ..)

end Members

/-- Nothing overlaps that the first execution request is run with. The blocks before and behind it
in the ring are the data list or lie apart from the rest. -/
@[mk_iff]
structure ReleaseLayout (memory : Memory) (list block current : UInt32) : Prop where
  blocks : (executionBlocks memory list block).Pairwise Region.Apart
  users : current = WorkQueue.executions.named memory block ∨
    ∀ field ∈ chargedFields current,
      ∀ other ∈ chargedFields (WorkQueue.executions.named memory block), field.Apart other
  fields : ∀ user ∈ [current, WorkQueue.executions.named memory block],
    ∀ field ∈ chargedFields user, ∀ region ∈ executionBlocks memory list block, field.Apart region
  area : (Region.ofField current Vmblok.totalTime).Apart prefixRegion
  neighbours : ∀ neighbour ∈ [memory.getAddress block Cpexblok.next,
      memory.getAddress block Cpexblok.previous],
    neighbour = list ∨
      (∀ region ∈ executionBlocks memory list block, Region.Apart ⟨neighbour, 16⟩ region) ∧
      ∀ user ∈ [current, WorkQueue.executions.named memory block],
        ∀ field ∈ chargedFields user, Region.Apart ⟨neighbour, 16⟩ field

instance (memory : Memory) (list block current : UInt32) :
    Decidable (ReleaseLayout memory list block current) :=
  decidable_of_iff' _ (releaseLayout_iff memory list block current)

/-- The links that are stored into lie in the first words of the neighbours. -/
theorem linkRegions_within {memory : Memory} {block : UInt32} {link : Region}
    (link_mem : link ∈ linkRegions memory block Cpexblok.next Cpexblok.previous) :
    ∃ neighbour ∈ [memory.getAddress block Cpexblok.next,
      memory.getAddress block Cpexblok.previous], link.Within ⟨neighbour, 16⟩ := by
  simp only [linkRegions, List.mem_cons, List.not_mem_nil, or_false] at link_mem
  rcases link_mem with rfl | rfl
  · exact ⟨_, by simp, WorkQueue.executions_sound.next_within _⟩
  · exact ⟨_, by simp, WorkQueue.executions_sound.previous_within _⟩

theorem executionTaken_eq (memory : Memory) (block : UInt32) :
    executionTaken memory block =
      (WorkQueue.executions.unlink memory block).unstack
        (executionUser (WorkQueue.executions.unlink memory block) block) :=
  rfl

namespace ReleaseLayout

variable {memory : Memory} {list block current : UInt32} {region link : Region}
  (layout : ReleaseLayout memory list block current)

include layout

theorem list_apart (region_mem : region ∈ (executionBlocks memory list block).tail) :
    Region.Apart ⟨list, 72⟩ region :=
  List.rel_of_pairwise_cons layout.blocks region_mem

theorem block_apart (region_mem : region ∈ (executionBlocks memory list block).tail.tail) :
    (WorkQueue.executions.region block).Apart region :=
  List.rel_of_pairwise_cons layout.blocks.tail region_mem

/-- The links of the neighbours lie apart from what lies behind the data list, and from the fields
of the users. -/
theorem link_apart (link_mem : link ∈ linkRegions memory block Cpexblok.next Cpexblok.previous)
    (region_mem : region ∈ (executionBlocks memory list block).tail) : link.Apart region := by
  obtain ⟨neighbour, neighbour_mem, within⟩ := linkRegions_within link_mem
  refine Region.Apart.mono ?_ within
  rcases layout.neighbours neighbour neighbour_mem with rfl | ⟨clear, -⟩
  · exact (List.rel_of_pairwise_cons layout.blocks region_mem).mono
      (StackedWork.LaidOut.anchor_within _)
  · exact clear region (List.mem_of_mem_tail region_mem)

theorem link_apart_field {user : UInt32}
    (link_mem : link ∈ linkRegions memory block Cpexblok.next Cpexblok.previous)
    (user_mem : user ∈ [current, WorkQueue.executions.named memory block])
    (region_mem : region ∈ chargedFields user) : link.Apart region := by
  obtain ⟨neighbour, neighbour_mem, within⟩ := linkRegions_within link_mem
  refine Region.Apart.mono ?_ within
  rcases layout.neighbours neighbour neighbour_mem with rfl | ⟨-, clear⟩
  · exact ((layout.fields user user_mem region region_mem ⟨neighbour, 72⟩
      (list_mem ..)).mono_right (StackedWork.LaidOut.anchor_within _)).symm
  · exact clear user user_mem region region_mem

/-- They lie apart from the parts of the data list behind its anchors. -/
theorem link_apart_part {start : UInt32} {length : Nat}
    (link_mem : link ∈ linkRegions memory block Cpexblok.next Cpexblok.previous)
    (above : 16 ≤ Region.distance 0 start) (below : length ≤ Region.distance start 0)
    (inside : start.toNat + length ≤ 72 ∧ start.toNat < Address.space) :
    link.Apart ⟨list + start, length⟩ := by
  obtain ⟨neighbour, neighbour_mem, within⟩ := linkRegions_within link_mem
  refine Region.Apart.mono ?_ within
  rcases layout.neighbours neighbour neighbour_mem with rfl | ⟨clear, -⟩
  · exact StackedWork.LaidOut.anchor_apart_part neighbour above below
  · exact (clear ⟨list, 72⟩ (list_mem ..)).mono_right
      (Region.within_block list inside.1 inside.2)

/-- The unlinking spares the block itself and what decides whether it can be returned. -/
theorem unlink_agreesOn_block
    (region_mem : region ∈ (executionBlocks memory list block).tail) :
    (WorkQueue.executions.unlink memory block).AgreesOn memory region :=
  unlink_agreesOn fun _ link_mem => layout.link_apart link_mem region_mem

/-- It spares the fields of the users. -/
theorem unlink_agreesOn_field {user : UInt32}
    (user_mem : user ∈ [current, WorkQueue.executions.named memory block])
    (region_mem : region ∈ chargedFields user) :
    (WorkQueue.executions.unlink memory block).AgreesOn memory region :=
  unlink_agreesOn fun _ link_mem => layout.link_apart_field link_mem user_mem region_mem

/-- It spares the data list behind its anchors. -/
theorem unlink_list_field {field : Field UInt32} (above : 16 ≤ Region.distance 0 field.offset)
    (below : 4 ≤ Region.distance field.offset 0)
    (inside : field.offset.toNat + 4 ≤ 72 ∧ field.offset.toNat < Address.space) :
    (WorkQueue.executions.unlink memory block).AgreesOn memory (.ofField list field) :=
  unlink_agreesOn fun _ link_mem => layout.link_apart_part link_mem above below inside

section Charged

variable (time : UInt64)

/-- The charge of the current user spares the blocks. -/
theorem charged_agreesOn (region_mem : region ∈ executionBlocks memory list block) :
    (memory.put current Vmblok.totalTime time).AgreesOn memory region :=
  Memory.put_agreesOn time
    (layout.fields current (by simp) _ (time_mem _) region region_mem)

/-- The block is unlinked as if the current user had not been charged. -/
theorem charged_unlink_agreesOn
    (time_apart : (Region.ofField current Vmblok.totalTime).Apart region) :
    (WorkQueue.executions.unlink (memory.put current Vmblok.totalTime time) block).AgreesOn
      (WorkQueue.executions.unlink memory block) region := by
  have inBlock := @charged_agreesOn memory list block current (WorkQueue.executions.region block)
    layout time (block_mem ..)
  refine (Memory.put_agreesOn time time_apart).unlink ?_ ?_
  · exact (inBlock.mono (Region.ofField_within _ (by decide) (by decide))).getAddress_eq
  · exact (inBlock.mono (Region.ofField_within _ (by decide) (by decide))).getAddress_eq

theorem charged_unlink_agreesOn_block :
    (WorkQueue.executions.unlink (memory.put current Vmblok.totalTime time) block).AgreesOn memory
      (WorkQueue.executions.region block) := by
  refine (layout.charged_unlink_agreesOn time ?_).trans
    (layout.unlink_agreesOn_block (block_mem_tail ..))
  exact layout.fields current (by simp) _ (time_mem _) _ (block_mem ..)

theorem executionUser_charged :
    executionUser (WorkQueue.executions.unlink (memory.put current Vmblok.totalTime time) block)
      block = WorkQueue.executions.named memory block :=
  ((layout.charged_unlink_agreesOn_block time).mono
    (WorkQueue.executions_sound.user_within block)).getAddress_eq

/-- The block is taken off the ring and off its count as if the current user had not been charged,
but for the time and the count. -/
theorem taken_agreesOn
    (time_apart : (Region.ofField current Vmblok.totalTime).Apart region)
    (count_apart : (Region.ofField (WorkQueue.executions.named memory block)
      Vmblok.stackCount).Apart region) :
    (executionTaken (memory.put current Vmblok.totalTime time) block).AgreesOn
      (WorkQueue.executions.unlink memory block) region := by
  rw [executionTaken_eq, layout.executionUser_charged time, Memory.unstack]
  exact (Memory.put_agreesOn _ count_apart).trans (layout.charged_unlink_agreesOn time time_apart)

theorem taken_agreesOn_block (region_mem : region ∈ executionBlocks memory list block) :
    (executionTaken (memory.put current Vmblok.totalTime time) block).AgreesOn
      (WorkQueue.executions.unlink memory block) region := by
  apply layout.taken_agreesOn time
  · exact layout.fields current (by simp) _ (time_mem _) region region_mem
  · exact layout.fields (WorkQueue.executions.named memory block) (by simp) _
      (count_mem _) region region_mem

theorem taken_list_field {field : Field UInt32} (above : 16 ≤ Region.distance 0 field.offset)
    (below : 4 ≤ Region.distance field.offset 0)
    (inside : field.offset.toNat + 4 ≤ 72 ∧ field.offset.toNat < Address.space) :
    (executionTaken (memory.put current Vmblok.totalTime time) block).getAddress list field =
      memory.getAddress list field := by
  have agrees := @taken_agreesOn_block memory list block current ⟨list, 72⟩ layout time
    (list_mem ..)
  exact Memory.AgreesOn.getAddress_eq
    ((agrees.mono (Region.ofField_within list inside.1 inside.2)).trans
      (layout.unlink_list_field above below inside))

theorem taken_routine :
    (executionTaken (memory.put current Vmblok.totalTime time) block).get block Cpexblok.routine =
      memory.get block Cpexblok.routine := by
  have agrees := (@taken_agreesOn_block memory list block current
    (WorkQueue.executions.region block) layout time (block_mem ..)).trans
      (layout.unlink_agreesOn_block (block_mem_tail ..))
  exact (agrees.mono (Region.ofField_within _ (by decide) (by decide))).get_eq

/-- The routine of the request is entered with the registers that the block holds. -/
theorem executionRegisters_charged :
    executionRegisters (memory.put current Vmblok.totalTime time) block =
      StackedWork.routineRegisters memory block := by
  have saved : savedRegisters
      (WorkQueue.executions.unlink (memory.put current Vmblok.totalTime time) block) block =
        savedRegisters memory block :=
    StackedWork.savedRegisters_congr (layout.charged_unlink_agreesOn_block time)
  rw [executionRegisters, layout.taken_routine time, StackedWork.routineRegisters, ← saved]
  rfl

/-- Whether the block can be returned is decided as if nothing had been charged and counted. -/
theorem serves_taken_iff :
    FreeStorage.Serves (executionTaken (memory.put current Vmblok.totalTime time) block)
        ((executionTaken (memory.put current Vmblok.totalTime time) block).getAddress list
          DispatchList.sizeTable)
        ((executionTaken (memory.put current Vmblok.totalTime time) block).getAddress list
          DispatchList.releaseList) block Cpexblok.doublewords ↔
      FreeStorage.Serves (WorkQueue.executions.unlink memory block)
        (memory.getAddress list DispatchList.sizeTable)
        (memory.getAddress list DispatchList.releaseList) block Cpexblok.doublewords := by
  have unlinked : ∀ region ∈ FreeStorage.decidingRegions memory
      (memory.getAddress list DispatchList.sizeTable)
      (memory.getAddress list DispatchList.releaseList) block,
        (WorkQueue.executions.unlink memory block).AgreesOn memory region :=
    fun region region_mem => layout.unlink_agreesOn_block (List.mem_cons_of_mem _ region_mem)
  rw [layout.taken_list_field time (by decide) (by decide) (by decide),
    layout.taken_list_field time (by decide) (by decide) (by decide),
    FreeStorage.serves_congr unlinked]
  refine FreeStorage.serves_congr fun region region_mem => ?_
  refine (layout.taken_agreesOn_block time ?_).trans (unlinked region region_mem)
  exact List.mem_cons_of_mem _ (List.mem_cons_of_mem _ region_mem)

/-- The links that are stored into are the same. -/
theorem linkRegions_charged :
    linkRegions (memory.put current Vmblok.totalTime time) block Cpexblok.next Cpexblok.previous =
      linkRegions memory block Cpexblok.next Cpexblok.previous := by
  have inBlock := @charged_agreesOn memory list block current (WorkQueue.executions.region block)
    layout time (block_mem ..)
  rw [linkRegions, linkRegions,
    (inBlock.mono (Region.ofField_within _ (by decide) (by decide))).getAddress_eq,
    (inBlock.mono (Region.ofField_within _ (by decide) (by decide))).getAddress_eq]

/-- The times of the users are as the charge has left them. -/
theorem taken_time {user : UInt32}
    (user_mem : user ∈ [current, WorkQueue.executions.named memory block]) :
    (executionTaken (memory.put current Vmblok.totalTime time) block).get user Vmblok.totalTime =
      (memory.put current Vmblok.totalTime time).get user Vmblok.totalTime := by
  have unlinked : (WorkQueue.executions.unlink (memory.put current Vmblok.totalTime time)
      block).AgreesOn (memory.put current Vmblok.totalTime time)
        (.ofField user Vmblok.totalTime) := by
    refine @unlink_agreesOn _ block _ Cpexblok.next Cpexblok.previous fun link link_mem => ?_
    rw [layout.linkRegions_charged time] at link_mem
    exact layout.link_apart_field link_mem user_mem (time_mem _)
  have count : (Region.ofField (WorkQueue.executions.named memory block)
      Vmblok.stackCount).Apart (.ofField user Vmblok.totalTime) := by
    have same : (Region.ofField (WorkQueue.executions.named memory block)
        Vmblok.stackCount).Apart
          (.ofField (WorkQueue.executions.named memory block) Vmblok.totalTime) :=
      Region.ofField_apart _ (by decide) (by decide)
    rcases List.mem_pair.mp user_mem with rfl | rfl
    · rcases layout.users with isSame | apart
      · rw [isSame]
        exact same
      · exact (apart _ (time_mem _) _ (count_mem _)).symm
    · exact same
  rw [executionTaken_eq, layout.executionUser_charged time, Memory.unstack]
  exact Memory.AgreesOn.get_eq (Memory.AgreesOn.trans (Memory.put_agreesOn _ count) unlinked)

/-- The count of the user that the request is for has gone down by one. -/
theorem taken_count :
    (executionTaken (memory.put current Vmblok.totalTime time) block).get
        (WorkQueue.executions.named memory block) Vmblok.stackCount =
      memory.get (WorkQueue.executions.named memory block) Vmblok.stackCount - 1 := by
  have timeApart : (Region.ofField current Vmblok.totalTime).Apart
      (.ofField (WorkQueue.executions.named memory block) Vmblok.stackCount) := by
    rcases layout.users with same | apart
    · rw [← same]
      exact Region.ofField_apart _ (by decide) (by decide)
    · exact apart _ (time_mem _) _ (count_mem _)
  have unlinked := (layout.charged_unlink_agreesOn time timeApart).trans
    (@unlink_agreesOn_field memory list block current _ layout
      (WorkQueue.executions.named memory block) (by simp) (count_mem _))
  rw [executionTaken_eq, layout.executionUser_charged time, Memory.unstack, Memory.get_put_self,
    unlinked.get_eq]

end Charged

end ReleaseLayout

end Dispatcher

namespace Memory

/-- A selection comes to the first execution request: nothing bars it, and no request of the other
kind is stacked. -/
@[mk_iff]
structure ComesToExecution (memory : Memory) (list block : UInt32) : Prop where
  unbarred : ¬memory.BarsSelection
  noRequest : memory.getAddress list DispatchList.requestQueue = list
  isFirst : memory.getAddress list DispatchList.executionQueue = block
  queued : block ≠ list

instance (memory : Memory) (list block : UInt32) : Decidable (memory.ComesToExecution list block) :=
  decidable_of_iff' _ (comesToExecution_iff memory list block)

/-- It does so, and nothing overlaps that the request is run with. -/
@[mk_iff]
structure FindsExecution (memory : Memory) (list block current : UInt32) : Prop
    extends ReleaseLayout memory list block current, ComesToExecution memory list block

instance (memory : Memory) (list block current : UInt32) :
    Decidable (memory.FindsExecution list block current) :=
  decidable_of_iff' _ (findsExecution_iff memory list block current)

/-- The charge of the current user leaves that. -/
theorem FindsExecution.charged {memory : Memory} {list block current : UInt32}
    (finds : memory.FindsExecution list block current) (time : UInt64) :
    (memory.put current Vmblok.totalTime time).ComesToExecution list block := by
  have area : (memory.put current Vmblok.totalTime time).AgreesOn memory prefixRegion :=
    Memory.put_agreesOn time finds.area
  have data : (memory.put current Vmblok.totalTime time).AgreesOn memory ⟨list, 72⟩ :=
    finds.charged_agreesOn time (list_mem ..)
  have status : ∀ field : Field UInt8, field.offset.toNat + 1 ≤ 0x380 →
      (memory.put current Vmblok.totalTime time).get PrefixArea.base field =
        memory.get PrefixArea.base field := fun field inside =>
    (area.mono (prefix_within inside)).get_eq
  have anchor : ∀ field : Field UInt32, field.offset.toNat + 4 ≤ 72 →
      (memory.put current Vmblok.totalTime time).getAddress list field =
        memory.getAddress list field := fun field inside =>
    (data.mono (Region.ofField_within list inside (by
      simp only [Address.space]
      omega))).getAddress_eq
  refine ⟨?_, ?_, ?_, finds.queued⟩
  · rw [BarsSelection, status PrefixArea.extendLock (by decide),
      status PrefixArea.processorStatus (by decide)]
    exact finds.unbarred
  · rw [anchor DispatchList.requestQueue (by decide)]
    exact finds.noRequest
  · rw [anchor DispatchList.executionQueue (by decide)]
    exact finds.isFirst

end Memory

namespace Dispatcher

section Evaluation

open Microcode

variable {scene : Scene} {list exits block : UInt32}

theorem select_eval_execution (comesTo : (charged scene).memory.ComesToExecution list block) :
    (select list exits).eval default scene =
      (runExecution list exits block).eval default (charged scene) := by
  obtain ⟨unbarred, noRequest, rfl, queued⟩ := comesTo
  rw [select_eval_unbarred unbarred]
  simp only [noRequest, queued, ne_eq, not_true_eq_false, not_false_eq_true, if_false, if_true]

theorem runExecution_eval (list exits block : UInt32) :
    ∃ after : Scene,
      (runExecution list exits block).eval default scene = (.ok .completed, after) ∧
      after.cpu.cpuTimer = ((executionTaken scene.memory block).get
        (executionUser (scene.memory.unlink block Cpexblok.next Cpexblok.previous) block)
        Vmblok.totalTime).toInt64 ∧
      SettlesRelease scene.memory list exits block scene.cpu after := by
  obtain ⟨_, after, evaluated, rfl, timer, settles⟩ :=
    Ensures.eval_ok default (takes_runExecution fromStorage_allowsCharging list exits block)
      (@runExecution_settles .ofStorage _ _ trivial list exits block)
  exact ⟨after, evaluated, timer, settles⟩

end Evaluation

/-- Either way out leaves what lies apart from the size table, the block and the save area. -/
theorem SettlesRelease.agreesOn {memory : Memory} {list exits block : UInt32} {cpu : Cpu}
    {after : Scene} {region : Region} (settles : SettlesRelease memory list exits block cpu after)
    (table : (FreeStorage.tableRegion ((executionTaken memory block).getAddress list
      DispatchList.sizeTable)).Apart region)
    (inBlock : (WorkQueue.executions.region block).Apart region)
    (saveArea : Region.Apart ⟨list + DispatchList.saveArea.offset, 24⟩ region) :
    after.memory.AgreesOn (executionTaken memory block) region := by
  cases settles with
  | returned _ stored _ _ =>
      rw [stored, Memory.returned]
      refine (Memory.put_agreesOn _ (inBlock.mono ?_)).trans
        (Memory.put_agreesOn _ (table.mono (FreeStorage.head_within_table _ _)))
      exact Region.ofField_within _ (by decide) (by decide)
  | left _ stored _ _ =>
      rw [stored]
      exact Memory.putRow_agreesOn _ fun index index_lt =>
        saveArea.mono (saveArea_within list index_lt)

section

variable {memory : Memory} {list block current : UInt32} {region : Region}
  (layout : ReleaseLayout memory list block current) {time : UInt64} {exits : UInt32} {cpu : Cpu}
  {after : Scene}
  (settles : SettlesRelease (memory.put current Vmblok.totalTime time) list exits block cpu after)

include layout settles

theorem ReleaseLayout.settles_agreesOn
    (clear : ∀ part ∈ [FreeStorage.tableRegion (memory.getAddress list DispatchList.sizeTable),
      WorkQueue.executions.region block, ⟨list + DispatchList.saveArea.offset, 24⟩],
        part.Apart region) :
    after.memory.AgreesOn (executionTaken (memory.put current Vmblok.totalTime time) block)
      region := by
  simp only [List.forall_mem_cons] at clear
  obtain ⟨table, inBlock, saveArea, -⟩ := clear
  rw [← layout.taken_list_field time (by decide) (by decide) (by decide)] at table
  exact settles.agreesOn table inBlock saveArea

/-- Either way out leaves the fields of the users. -/
theorem ReleaseLayout.settles_field {user : UInt32}
    (user_mem : user ∈ [current, WorkQueue.executions.named memory block])
    (region_mem : region ∈ chargedFields user) :
    after.memory.AgreesOn (executionTaken (memory.put current Vmblok.totalTime time) block)
      region := by
  have clear := layout.fields user user_mem region region_mem
  refine layout.settles_agreesOn settles ?_
  simp only [List.forall_mem_cons]
  refine ⟨?_, ?_, ?_, by simp⟩
  · exact (clear _ (table_mem ..)).symm
  · exact (clear _ (block_mem ..)).symm
  · exact ((clear ⟨list, 72⟩ (list_mem ..)).mono_right
      (Region.within_block list (by decide) (by decide))).symm

/-- Either way out leaves the links of the neighbours. -/
theorem ReleaseLayout.settles_link {link : Region}
    (link_mem : link ∈ linkRegions memory block Cpexblok.next Cpexblok.previous) :
    after.memory.AgreesOn (executionTaken (memory.put current Vmblok.totalTime time) block)
      link := by
  refine layout.settles_agreesOn settles ?_
  simp only [List.forall_mem_cons]
  refine ⟨?_, ?_, ?_, by simp⟩
  · exact (layout.link_apart link_mem
      (table_mem_tail ..)).symm
  · exact (layout.link_apart link_mem (block_mem_tail ..)).symm
  · exact (layout.link_apart_part link_mem (by decide) (by decide) (by decide)).symm

end

/-- Software that loads general registers 12 to 1 from the save area has the registers of the
routine. -/
theorem reload_releaseRegisters (routine : RegisterFile) (block : UInt32) (found : Cpu)
    {words : Nat → UInt32}
    (saved : ∀ index : Fin 6, words index = (releaseSaved routine).get index) :
    (releaseRegisters block routine found).loadRun (RegisterNumber.range 12 1) words =
      routine := by
  have isRange : RegisterNumber.range 12 1 = [12, 13, 14, 15, 0, 1] := by decide
  have word0 : words 0 = routine.read 12 := saved 0
  have word1 : words 1 = routine.read 13 := saved 1
  have word2 : words 2 = routine.read 14 := saved 2
  have word3 : words 3 = routine.read 15 := saved 3
  have word4 : words 4 = routine.read 0 := saved 4
  have word5 : words 5 = routine.read 1 := saved 5
  rw [isRange]
  simp only [RegisterFile.loadRun, Nat.reduceAdd, word0, word1, word2, word3, word4, word5]
  apply Vector.ext
  intro index index_lt
  interval_cases index <;> rfl

end Dispatcher

namespace Call

variable {memory : Memory} {cpu : Cpu} {sizeTable releaseList block : UInt32}

/-- The call that returns the block of an execution request. -/
def releasing (cpu : Cpu) (sizeTable releaseList block : UInt32) : Call where
  cpu := (cpu.setGeneral 0 Cpexblok.doublewords.toUInt32).setGeneral 1 block
  request := .fretx sizeTable releaseList

theorem releasing_size : (releasing cpu sizeTable releaseList block).size =
    Cpexblok.doublewords.toUInt32 := by
  simp [size, doublewords, releasing, Cpu.setGeneral]

theorem releasing_block (isBlock : Address.wrap block = block) :
    Address.wrap ((releasing cpu sizeTable releaseList block).cpu.general.read 1) = block := by
  simp [releasing, Cpu.setGeneral, isBlock]

theorem releasing_subpool (isList : Address.wrap releaseList = releaseList) :
    (releasing cpu sizeTable releaseList block).subpool memory =
      memory.get releaseList (FreeStorage.sizeIndex.item Cpexblok.doublewords.toNat) := by
  have selector : (releasing cpu sizeTable releaseList block).selector =
      releaseList + (FreeStorage.sizeIndex.item Cpexblok.doublewords.toNat).offset := by
    rw [FreeStorage.sizeIndex_item, ← UInt32.add_assoc, ← releasing_size]
    exact congrArg (· + 11 + _) isList
  rw [subpool, selector, Memory.get_byte]

/-- It can be completed just when the release of the block can be. -/
theorem releasing_isServed_iff (isList : Address.wrap releaseList = releaseList)
    (isBlock : Address.wrap block = block) :
    (releasing cpu sizeTable releaseList block).IsServed memory sizeTable ↔
      FreeStorage.Serves memory sizeTable releaseList block Cpexblok.doublewords := by
  have served : (releasing cpu sizeTable releaseList block).IsServed memory sizeTable ↔
      FreeStorage.Fits memory sizeTable (releasing cpu sizeTable releaseList block).size ∧
        memory.IsFree (Address.wrap releaseList)
          (Address.wrap ((releasing cpu sizeTable releaseList block).cpu.general.read 1)) ∧
        (releasing cpu sizeTable releaseList block).firstBlock memory sizeTable ≠
          Address.wrap ((releasing cpu sizeTable releaseList block).cpu.general.read 1) :=
    Iff.rfl
  rw [served, releasing_size, releasing_block isBlock, isList, firstBlock,
    releasing_subpool isList, FreeStorage.serves_iff]

theorem releasing_storageLeft (isList : Address.wrap releaseList = releaseList)
    (isBlock : Address.wrap block = block) :
    (releasing cpu sizeTable releaseList block).storageLeft memory sizeTable =
      memory.returned sizeTable
        (memory.get releaseList (FreeStorage.sizeIndex.item Cpexblok.doublewords.toNat))
        block := by
  have left : (releasing cpu sizeTable releaseList block).storageLeft memory sizeTable =
      memory.returned sizeTable ((releasing cpu sizeTable releaseList block).subpool memory)
        (Address.wrap ((releasing cpu sizeTable releaseList block).cpu.general.read 1)) :=
    rfl
  rw [left, releasing_subpool isList, releasing_block isBlock]

end Call

namespace System

variable {Machine Refusal : Type} {callouts : Callouts Machine Refusal} {policy : Policy}
  {view : StorageView callouts} {system : System Machine} {sizeTable releaseList block : UInt32}

/-- What an answered call comes to that returns the block of an execution request: it completes if
the release of the block can, and declines otherwise. -/
inductive Releases (view : StorageView callouts) (memory : Memory)
    (sizeTable releaseList block : UInt32) (response : Response Machine Refusal) : Prop where
  | returned
      (serves : FreeStorage.Serves memory sizeTable releaseList block Cpexblok.doublewords)
      (result : response.result = .ok .completed)
      (stored : view.memory response.system.machine = memory.returned sizeTable
        (memory.get releaseList (FreeStorage.sizeIndex.item Cpexblok.doublewords.toNat)) block)
  | declined
      (unserved : ¬FreeStorage.Serves memory sizeTable releaseList block Cpexblok.doublewords)
      (result : response.result = .ok .declined)

theorem call_releases (view : StorageView callouts)
    (isTable : Address.wrap sizeTable = sizeTable)
    (isList : Address.wrap releaseList = releaseList) (isBlock : Address.wrap block = block)
    (passed : system.registry.cpGate .fretx system.cpu = .passed)
    (answered : (system.call policy callouts
      (Call.releasing system.cpu sizeTable releaseList block)).Answered) :
    Releases view (view.memory system.machine) sizeTable releaseList block
      (system.call policy callouts (Call.releasing system.cpu sizeTable releaseList block)) := by
  have served := @Call.releasing_isServed_iff (view.memory system.machine) system.cpu sizeTable
    releaseList block isList isBlock
  have left := @Call.releasing_storageLeft (view.memory system.machine) system.cpu sizeTable
    releaseList block isList isBlock
  have table : (Call.releasing system.cpu sizeTable releaseList block).sizeTable? =
      some sizeTable := congrArg some isTable
  generalize isCall : Call.releasing system.cpu sizeTable releaseList block = call
    at served left table answered ⊢
  have gate : system.registry.cpGate call.request.assist call.cpu = .passed := by
    rw [← isCall]
    exact passed
  obtain ⟨body, isProgram, takes, ends⟩ := call.program_ends table
  have comesTo := @perform_comesTo _ _ callouts policy { system with cpu := call.cpu }
    call.request body view default (isProgram _ _) takes gate answered
  have ended := ends (view.memory system.machine)
  generalize body.eval default _ = evaluation at comesTo ended
  cases ended with
  | done isServed => exact .returned (served.mp isServed) comesTo.result (comesTo.memory.trans left)
  | left unserved reason => exact .declined (mt served.mpr unserved) comesTo.result

section Paths

variable (policy view system) (list exits block : UInt32)

/-- The user that the first execution request is for. -/
def requestUser : UInt32 :=
  WorkQueue.executions.named (view.memory system.machine) block

/-- Storage with the first execution request taken off its ring. -/
def unlinkedMemory : Memory :=
  WorkQueue.executions.unlink (view.memory system.machine) block

/-- The call that returns the block to the free storage that the data list names. -/
def releaseCall : Call :=
  Call.releasing system.cpu
    ((view.memory system.machine).getAddress (Address.wrap list) DispatchList.sizeTable)
    ((view.memory system.machine).getAddress (Address.wrap list) DispatchList.releaseList) block

/-- The region is apart from the fields that a run of the request charges and counts in. -/
structure SparesUsers (region : Region) : Prop where
  time : (Region.ofField system.currentUser Vmblok.totalTime).Apart region
  count : (Region.ofField (system.requestUser view block) Vmblok.stackCount).Apart region

/-- The routine of the request is entered with the registers that its block has saved, and its block
has been returned as a call leaves it that returns it. -/
structure EntersRoutine (returned : Memory) : Prop where
  general : (system.selected policy callouts list exits).system.cpu.general =
    StackedWork.routineRegisters (view.memory system.machine) block
  entered : (system.selected policy callouts list exits).system.cpu.psw.instructionAddress =
    Address.wrap ((view.memory system.machine).get block Cpexblok.routine)
  stored : ∀ region, system.SparesUsers view block region →
    (system.selectedMemory policy view list exits).AgreesOn returned region

/-- The return of the block is left to software. General registers 0 and 1 name the block, those
that are loaded from the save area make up the registers of the routine, and apart from the time and
the count of the users nothing has been changed but the save area and what the unlinking changes. -/
structure LeavesRelease : Prop where
  size : (system.selected policy callouts list exits).system.cpu.general.read 0 =
    Cpexblok.doublewords.toUInt32
  isBlock : (system.selected policy callouts list exits).system.cpu.general.read 1 = block
  reloaded : (system.selected policy callouts list exits).system.cpu.general.loadRun
      (RegisterNumber.range 12 1) (fun index =>
        (system.selectedMemory policy view list exits).get (Address.wrap list)
          (DispatchList.saveArea.item index)) =
    StackedWork.routineRegisters (view.memory system.machine) block
  exited : (system.selected policy callouts list exits).system.cpu.psw.instructionAddress =
    Address.wrap ((system.selectedMemory policy view list exits).get (Address.wrap exits)
      DispatchExit.releaseLeft.place)
  unchanged : ∀ region, system.SparesUsers view block region →
    Region.Apart ⟨Address.wrap list + DispatchList.saveArea.offset, 24⟩ region →
    (system.selectedMemory policy view list exits).AgreesOn (system.unlinkedMemory view block)
      region
  /-- In particular the block has not been touched, nor what decides whether it can be returned. -/
  blocks : ∀ region ∈ (executionBlocks (view.memory system.machine) (Address.wrap list) block).tail,
    (system.selectedMemory policy view list exits).AgreesOn (system.unlinkedMemory view block)
      region

/-- What both ways out leave alike: the ring without the block, the count and the times of the
users, and the CPU timer. -/
structure TakesRequest : Prop where
  result : (system.selected policy callouts list exits).result = .ok .completed
  ring : ∀ link ∈ linkRegions (view.memory system.machine) block Cpexblok.next
      Cpexblok.previous,
    (system.selectedMemory policy view list exits).AgreesOn (system.unlinkedMemory view block) link
  count : (system.selectedMemory policy view list exits).get (system.requestUser view block)
      Vmblok.stackCount =
    (view.memory system.machine).get (system.requestUser view block) Vmblok.stackCount - 1
  times : ∀ user ∈ [system.currentUser, system.requestUser view block],
    (system.selectedMemory policy view list exits).get user Vmblok.totalTime =
      (system.chargedMemory view).get user Vmblok.totalTime
  timer : (system.selected policy callouts list exits).system.cpu.cpuTimer =
    ((system.chargedMemory view).get (system.requestUser view block) Vmblok.totalTime).toInt64

/-- The ways out of the release of an execution request agree with a call that returns its block. -/
structure ReleasePathsAgree (release : Response Machine Refusal) : Prop where
  slow : system.LeavesRelease policy view list exits block ↔ release.result = .ok .declined
  fast : release.result ≠ .ok .declined →
    release.result = .ok .completed ∧
      system.EntersRoutine policy view list exits block (view.memory release.system.machine)
  both : system.TakesRequest policy view list exits block

end Paths

section

variable {list exits block : UInt32}

/-- A selection that comes to an execution request runs it. -/
theorem selected_settles (view : StorageView callouts)
    (passed : system.registry.cpGate .disp2 system.cpu = .passed)
    (answered : (system.selected policy callouts list exits).Answered)
    (finds : (view.memory system.machine).FindsExecution (Address.wrap list) block
      system.currentUser) :
    ∃ after : Scene,
      (system.selected policy callouts list exits).ComesTo view system (.ok .completed, after) ∧
      after.cpu.cpuTimer = ((system.chargedMemory view).get (system.requestUser view block)
        Vmblok.totalTime).toInt64 ∧
      SettlesRelease (system.chargedMemory view) (Address.wrap list) (Address.wrap exits) block
        system.cpu after := by
  have comesTo := selected_comesTo view passed answered
  rw [@select_eval_execution { memory := view.memory system.machine, cpu := system.cpu } _ _ block
    (finds.charged system.cpu.cpuTimer.toUInt64)] at comesTo
  obtain ⟨after, evaluated, timer, settles⟩ := @runExecution_eval
    (charged { memory := view.memory system.machine, cpu := system.cpu }) (Address.wrap list)
    (Address.wrap exits) block
  have same : (charged { memory := view.memory system.machine, cpu := system.cpu }).memory =
      system.chargedMemory view := rfl
  rw [evaluated] at comesTo
  rw [same] at timer settles
  have isUser : executionUser
      ((system.chargedMemory view).unlink block Cpexblok.next Cpexblok.previous) block =
        system.requestUser view block :=
    finds.executionUser_charged system.cpu.cpuTimer.toUInt64
  have time : (executionTaken (system.chargedMemory view) block).get
      (system.requestUser view block) Vmblok.totalTime =
        (system.chargedMemory view).get (system.requestUser view block) Vmblok.totalTime :=
    finds.taken_time system.cpu.cpuTimer.toUInt64 (by simp [requestUser])
  refine ⟨after, comesTo, ?_, settles⟩
  rw [timer, isUser, time]

/-- What both ways out leave alike. -/
theorem takesRequest {after : Scene}
    (finds : (view.memory system.machine).FindsExecution (Address.wrap list) block
      system.currentUser)
    (comesTo : (system.selected policy callouts list exits).ComesTo view system
      (.ok .completed, after))
    (timer : after.cpu.cpuTimer = ((system.chargedMemory view).get (system.requestUser view block)
      Vmblok.totalTime).toInt64)
    (settles : SettlesRelease (system.chargedMemory view) (Address.wrap list) (Address.wrap exits)
      block system.cpu after) :
    system.TakesRequest policy view list exits block := by
  have stored : system.selectedMemory policy view list exits = after.memory := comesTo.memory
  have field : ∀ user ∈ [system.currentUser, system.requestUser view block],
      ∀ region ∈ chargedFields user, (system.selectedMemory policy view list exits).AgreesOn
        (executionTaken (system.chargedMemory view) block) region := by
    rw [stored]
    exact fun user user_mem region region_mem => finds.settles_field settles user_mem region_mem
  refine ⟨comesTo.result, fun link link_mem => ?_, ?_, fun user user_mem => ?_, ?_⟩
  · rw [stored]
    refine (finds.settles_link settles link_mem).trans (finds.taken_agreesOn _ ?_ ?_)
    · exact (finds.link_apart_field link_mem (List.mem_pair.mpr (.inl rfl))
        (time_mem _)).symm
    · exact (finds.link_apart_field link_mem (List.mem_pair.mpr (.inr rfl))
        (count_mem _)).symm
  · rw [(field _ (List.mem_pair.mpr (.inr rfl)) _ (count_mem _)).get_eq]
    exact finds.taken_count system.cpu.cpuTimer.toUInt64
  · rw [(field user user_mem _ (time_mem _)).get_eq]
    exact finds.taken_time system.cpu.cpuTimer.toUInt64 user_mem
  · rw [comesTo.cpu]
    exact (Scene.committedCpu_cpuTimer after).trans timer

/-- The blocks that a request is run with are apart from where the charge and the count go. -/
theorem sparesUsers_of_block
    (finds : (view.memory system.machine).FindsExecution (Address.wrap list) block
      system.currentUser) {region : Region}
    (region_mem : region ∈ executionBlocks (view.memory system.machine) (Address.wrap list) block) :
    system.SparesUsers view block region where
  time := finds.fields _ (List.mem_pair.mpr (.inl rfl)) _ (time_mem _) _ region_mem
  count := finds.fields _ (List.mem_pair.mpr (.inr rfl)) _ (count_mem _) _ region_mem

theorem taken_of_sparesUsers
    (finds : (view.memory system.machine).FindsExecution (Address.wrap list) block
      system.currentUser) {region : Region} (spares : system.SparesUsers view block region) :
    (executionTaken (system.chargedMemory view) block).AgreesOn (system.unlinkedMemory view block)
      region :=
  finds.taken_agreesOn system.cpu.cpuTimer.toUInt64 spares.time spares.count

/-- The block is returned as a call leaves it that returns it. -/
theorem returned_agreesOn
    (finds : (view.memory system.machine).FindsExecution (Address.wrap list) block
      system.currentUser) {region : Region} (spares : system.SparesUsers view block region) :
    let taken := executionTaken (system.chargedMemory view) block
    let sizeTable := (view.memory system.machine).getAddress (Address.wrap list)
      DispatchList.sizeTable
    let releaseList := (view.memory system.machine).getAddress (Address.wrap list)
      DispatchList.releaseList
    let index := FreeStorage.sizeIndex.item Cpexblok.doublewords.toNat
    (taken.returned sizeTable (taken.get releaseList index) block).AgreesOn
      ((system.unlinkedMemory view block).returned sizeTable
        ((system.unlinkedMemory view block).get releaseList index) block) region := by
  intro taken sizeTable releaseList index
  have inBlocks : ∀ part ∈ executionBlocks (view.memory system.machine) (Address.wrap list) block,
      taken.AgreesOn (system.unlinkedMemory view block) part := fun part part_mem =>
    taken_of_sparesUsers finds (sparesUsers_of_block finds part_mem)
  have sameIndex : taken.get releaseList index =
      (system.unlinkedMemory view block).get releaseList index :=
    FreeStorage.sizeIndex_congr (inBlocks _ (releaseList_mem ..))
  rw [sameIndex]
  refine (taken_of_sparesUsers finds spares).returned (Memory.AgreesOn.get_eq ?_)
  exact (inBlocks _ (table_mem ..)).mono (FreeStorage.head_within_table sizeTable _)

/-- The routine is entered once the block has been returned. -/
theorem entersRoutine {after : Scene}
    (finds : (view.memory system.machine).FindsExecution (Address.wrap list) block
      system.currentUser)
    (comesTo : (system.selected policy callouts list exits).ComesTo view system
      (.ok .completed, after))
    (stored : after.memory = (executionTaken (system.chargedMemory view) block).returned
      ((executionTaken (system.chargedMemory view) block).getAddress (Address.wrap list)
        DispatchList.sizeTable)
      ((executionTaken (system.chargedMemory view) block).get
        ((executionTaken (system.chargedMemory view) block).getAddress (Address.wrap list)
          DispatchList.releaseList)
        (FreeStorage.sizeIndex.item Cpexblok.doublewords.toNat)) block)
    (general : after.cpu.general = executionRegisters (system.chargedMemory view) block)
    (entered : after.cpu.psw.instructionAddress =
      Address.wrap ((executionTaken (system.chargedMemory view) block).get block
        Cpexblok.routine)) :
    system.EntersRoutine policy view list exits block
      ((system.unlinkedMemory view block).returned
        ((view.memory system.machine).getAddress (Address.wrap list) DispatchList.sizeTable)
        ((system.unlinkedMemory view block).get
          ((view.memory system.machine).getAddress (Address.wrap list) DispatchList.releaseList)
          (FreeStorage.sizeIndex.item Cpexblok.doublewords.toNat)) block) := by
  have memory : system.selectedMemory policy view list exits = after.memory := comesTo.memory
  have registers : executionRegisters (system.chargedMemory view) block =
      StackedWork.routineRegisters (view.memory system.machine) block :=
    finds.executionRegisters_charged system.cpu.cpuTimer.toUInt64
  have table : (executionTaken (system.chargedMemory view) block).getAddress (Address.wrap list)
      DispatchList.sizeTable =
        (view.memory system.machine).getAddress (Address.wrap list) DispatchList.sizeTable :=
    finds.taken_list_field system.cpu.cpuTimer.toUInt64 (by decide) (by decide) (by decide)
  have releaseList : (executionTaken (system.chargedMemory view) block).getAddress
      (Address.wrap list) DispatchList.releaseList =
        (view.memory system.machine).getAddress (Address.wrap list) DispatchList.releaseList :=
    finds.taken_list_field system.cpu.cpuTimer.toUInt64 (by decide) (by decide) (by decide)
  have routine : (executionTaken (system.chargedMemory view) block).get block Cpexblok.routine =
      (view.memory system.machine).get block Cpexblok.routine :=
    finds.taken_routine system.cpu.cpuTimer.toUInt64
  refine ⟨?_, ?_, fun region spares => ?_⟩
  · rw [comesTo.cpu]
    exact (Scene.committedCpu_general after).trans (general.trans registers)
  · rw [comesTo.cpu, ← routine]
    exact (congrArg Psw.instructionAddress (Scene.committedCpu_psw after)).trans entered
  · rw [memory, stored, table, releaseList]
    exact returned_agreesOn finds spares

/-- The return of the block is left to software. -/
theorem leavesRelease {after : Scene}
    (finds : (view.memory system.machine).FindsExecution (Address.wrap list) block
      system.currentUser)
    (comesTo : (system.selected policy callouts list exits).ComesTo view system
      (.ok .completed, after))
    (stored : after.memory = (executionTaken (system.chargedMemory view) block).putRow
      (Address.wrap list) DispatchList.saveArea
        (releaseSaved (executionRegisters (system.chargedMemory view) block)))
    (general : after.cpu.general = releaseRegisters block
      (executionRegisters (system.chargedMemory view) block) system.cpu)
    (exited : after.cpu.psw.instructionAddress =
      Address.wrap (after.memory.get (Address.wrap exits) DispatchExit.releaseLeft.place)) :
    system.LeavesRelease policy view list exits block := by
  have memory : system.selectedMemory policy view list exits = after.memory := comesTo.memory
  have registers : executionRegisters (system.chargedMemory view) block =
      StackedWork.routineRegisters (view.memory system.machine) block :=
    finds.executionRegisters_charged system.cpu.cpuTimer.toUInt64
  have left : (system.selected policy callouts list exits).system.cpu.general =
      releaseRegisters block (StackedWork.routineRegisters (view.memory system.machine) block)
        system.cpu := by
    rw [comesTo.cpu, ← registers]
    exact (Scene.committedCpu_general after).trans general
  have apart : ∀ first < 6, ∀ second < 6, first ≠ second →
      4 ≤ Region.distance (DispatchList.saveArea.item first).offset
        (DispatchList.saveArea.item second).offset := by
    decide
  have unchanged : ∀ region, system.SparesUsers view block region →
      Region.Apart ⟨Address.wrap list + DispatchList.saveArea.offset, 24⟩ region →
      (system.selectedMemory policy view list exits).AgreesOn (system.unlinkedMemory view block)
        region := by
    intro region spares saveArea
    rw [memory, stored]
    refine (Memory.putRow_agreesOn _ fun index index_lt => ?_).trans
      (taken_of_sparesUsers finds spares)
    exact saveArea.mono (saveArea_within _ index_lt)
  refine ⟨by rw [left]; rfl, by rw [left]; rfl, ?_, ?_, unchanged, fun region region_mem => ?_⟩
  · rw [left]
    refine reload_releaseRegisters _ _ _ fun index => ?_
    rw [memory, stored, registers]
    exact Memory.get_putRow
      (releaseSaved (StackedWork.routineRegisters (view.memory system.machine) block)) apart
      index.isLt
  · rw [comesTo.cpu, memory]
    exact (congrArg Psw.instructionAddress (Scene.committedCpu_psw after)).trans exited
  · exact unchanged region (sparesUsers_of_block finds (List.mem_of_mem_tail region_mem))
      ((finds.list_apart region_mem).mono
        (Region.within_block (Address.wrap list) (by decide) (by decide)))

/-- A block that has been returned is the first of its subpool, so that the size table shows which
way out has been taken. -/
theorem not_leavesRelease_of_returned {index : UInt8}
    (finds : (view.memory system.machine).FindsExecution (Address.wrap list) block
      system.currentUser)
    (enters : system.EntersRoutine policy view list exits block
      ((system.unlinkedMemory view block).returned
        ((view.memory system.machine).getAddress (Address.wrap list) DispatchList.sizeTable) index
        block))
    (notFirst : (system.unlinkedMemory view block).get
      ((view.memory system.machine).getAddress (Address.wrap list) DispatchList.sizeTable)
      (FreeStorage.head index) ≠ block) :
    ¬system.LeavesRelease policy view list exits block := by
  intro leaves
  have spares := sparesUsers_of_block finds (table_mem ..)
  have headWithin := FreeStorage.head_within_table
    ((view.memory system.machine).getAddress (Address.wrap list) DispatchList.sizeTable) index
  have blockApart := finds.block_apart (table_mem_deciding ..)
  have unchanged := leaves.blocks _ (table_mem_tail ..)
  have isFirst := ((enters.stored _ spares).mono headWithin).get_eq
  rw [(unchanged.mono headWithin).get_eq, Memory.returned,
    (Memory.put_agreesOn _ (blockApart.parts
      (Region.ofField_within block (by decide) (by decide)) headWithin)).get_eq,
    Memory.get_put_self] at isFirst
  exact notFirst isFirst

/-- A selection that comes to an execution request leaves the return of its block to software just
when a call that returns it declines on storage with the block unlinked. -/
theorem release_paths_agree (policy : Policy) (view : StorageView callouts)
    (system : System Machine) (list exits block : UInt32)
    (passed : system.registry.cpGate .disp2 system.cpu = .passed)
    (answered : (system.selected policy callouts list exits).Answered)
    (finds : (view.memory system.machine).FindsExecution (Address.wrap list) block
      system.currentUser)
    (machine : Machine) (unlinked : view.memory machine = system.unlinkedMemory view block)
    (returns : system.registry.cpGate .fretx system.cpu = .passed)
    (returned : ({ system with machine }.call policy callouts
      (system.releaseCall view list block)).Answered) :
    system.ReleasePathsAgree policy view list exits block
      ({ system with machine }.call policy callouts (system.releaseCall view list block)) := by
  obtain ⟨after, comesTo, timer, settles⟩ := selected_settles view passed answered finds
  have isAddress : ∀ field : Field UInt32,
      Address.wrap ((view.memory system.machine).getAddress (Address.wrap list) field) =
        (view.memory system.machine).getAddress (Address.wrap list) field := fun field => by
    rw [Memory.getAddress, Address.wrap_wrap]
  have isBlock : Address.wrap block = block := by
    rw [← finds.isFirst, isAddress]
  have releases := @call_releases _ _ callouts policy { system with machine } _ _ block view
    (isAddress DispatchList.sizeTable) (isAddress DispatchList.releaseList) isBlock returns
    returned
  rw [unlinked] at releases
  have same := finds.serves_taken_iff system.cpu.cpuTimer.toUInt64
  have both := takesRequest finds comesTo timer settles
  cases settles with
  | returned serves stored general entered =>
      have enters := entersRoutine finds comesTo stored general entered
      cases releases with
      | returned serves result stored =>
          have stays : ({ system with machine }.call policy callouts
              (system.releaseCall view list block)).result ≠ .ok .declined := by
            rw [releaseCall, result]
            simp
          refine ⟨iff_of_false ?_ stays, fun _ => ⟨result, ?_⟩, both⟩
          · exact not_leavesRelease_of_returned finds enters serves.notFirst
          · rw [releaseCall, stored]
            exact enters
      | declined unserved result => exact absurd (same.mp serves) unserved
  | left unserved stored general exited =>
      cases releases with
      | returned serves result stored => exact absurd (same.mpr serves) unserved
      | declined unserved result =>
          refine ⟨iff_of_true ?_ result, fun stays => absurd result stays, both⟩
          exact leavesRelease finds comesTo stored general exited

end

/-- An execution request at 8000 for the user at 9000, in a frame whose core table entry has the
flags. -/
def requestSystem (flags : UInt8) : System Memory :=
  { busySystem with
    cpu := (Call.forUser 0x7000 (.disp2 0x6000 0x6800)).cpu
    machine :=
      ((((((((((busySystem.machine.put 0x6000 DispatchList.executionQueue 0x8000).put
        0x6000 Cpexblok.previous 0x8000).put
        0x8000 Cpexblok.next 0x6000).put
        0x8000 Cpexblok.previous 0x6000).put
        0x8000 Cpexblok.routine 0xc000).put
        0x8000 (Cpexblok.registers.item 11) 0x9000).put
        0x6000 DispatchList.sizeTable 0xa000).put
        0xa000 FreeStorage.largestSize 10).put
        0x6000 DispatchList.releaseList 0xa800).put
        0xa800 FreeStorage.coreTable 0x4000).put
        0x4080 CoreTable.flags flags }

/-- What a call comes to that returns the block once the request is off its ring. -/
def requestRelease (flags : UInt8) : Response Memory Empty :=
  { requestSystem flags with
    machine := (requestSystem flags).unlinkedMemory Memory.storageView 0x8000 }.call .splitKeys
      Memory.callouts ((requestSystem flags).releaseCall Memory.storageView 0x6000 0x8000)

/-- The block is left to software if its frame does not belong to free storage, and is returned
otherwise. -/
theorem requestSystem_paths :
    (requestSystem 0).LeavesRelease .splitKeys Memory.storageView 0x6000 0x6800 0x8000 ∧
      (requestSystem CoreTable.freeStorage).EntersRoutine .splitKeys Memory.storageView 0x6000
        0x6800 0x8000 (requestRelease CoreTable.freeStorage).system.machine := by
  have declined : (requestRelease 0).result = .ok .declined :=
    Response.result_eq_ok (by decide +kernel)
  have completed : (requestRelease CoreTable.freeStorage).result = .ok .completed :=
    Response.result_eq_ok (by decide +kernel)
  have stays : (requestRelease CoreTable.freeStorage).result ≠ .ok .declined := by
    rw [completed]
    simp
  have left := release_paths_agree .splitKeys Memory.storageView (requestSystem 0) 0x6000 0x6800
    0x8000 (by decide +kernel) (by decide +kernel) (by decide +kernel)
    ((requestSystem 0).unlinkedMemory Memory.storageView 0x8000) rfl (by decide +kernel)
    (by decide +kernel)
  have entered := release_paths_agree .splitKeys Memory.storageView
    (requestSystem CoreTable.freeStorage) 0x6000 0x6800 0x8000 (by decide +kernel)
    (by decide +kernel) (by decide +kernel)
    ((requestSystem CoreTable.freeStorage).unlinkedMemory Memory.storageView 0x8000) rfl
    (by decide +kernel) (by decide +kernel)
  exact ⟨left.slow.mpr declined, (entered.fast stays).2⟩

end System

end Assist370
