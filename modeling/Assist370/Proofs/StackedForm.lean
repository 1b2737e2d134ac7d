import Assist370.Proofs.StackedQueue

/-!
# Stacked work in form

Stacked work is in form when its blocks lie apart from each other and from the control blocks, are
linked in their rings, and are counted by the users that they name (`StackedWork.Formed`). Few
regions tell whether it is (`StackedWork.toldBy`). The first work, a request or where there is none
an execution request, can be taken off its ring and off the count of its user, and the rest is in
form (`StackedWork.Leads.follows`).
-/

namespace Assist370

/-- Where the dispatcher finds its control blocks: its data list, the size table of free storage,
and the users. -/
structure WorkPlace where
  list : UInt32
  sizeTable : UInt32
  users : List UInt32

/-- The control blocks of the dispatcher. -/
def WorkPlace.blocks (place : WorkPlace) : List Region :=
  ⟨place.list, 72⟩ :: FreeStorage.headsRegion place.sizeTable :: prefixRegion ::
    place.users.map vmblokRegion

theorem WorkPlace.heads_mem (place : WorkPlace) :
    FreeStorage.headsRegion place.sizeTable ∈ place.blocks := by
  simp [blocks]

theorem WorkPlace.prefix_mem (place : WorkPlace) : prefixRegion ∈ place.blocks := by
  simp [blocks]

theorem WorkPlace.user_mem {place : WorkPlace} {user : UInt32} (user_mem : user ∈ place.users) :
    vmblokRegion user ∈ place.blocks := by
  simp only [blocks, List.mem_cons]
  exact .inr (.inr (.inr (List.mem_map_of_mem user_mem)))

/-- The blocks of stacked work, each kind in the order of its ring. -/
structure StackedWork where
  requests : List UInt32
  executions : List UInt32
  deriving DecidableEq, Repr

namespace StackedWork

open Dispatcher

/-- What is left once the first work has been taken. -/
def rest : StackedWork → StackedWork
  | ⟨_ :: requests, executions⟩ => ⟨requests, executions⟩
  | ⟨[], executions⟩ => ⟨[], executions.tail⟩

/-- What is left once work has been taken so often. -/
def drop (work : StackedWork) (count : Nat) : StackedWork :=
  ⟨work.requests.drop count, work.executions.drop (count - work.requests.length)⟩

/-- Where the blocks lie. -/
def regions (work : StackedWork) : List Region :=
  work.requests.map WorkQueue.requests.region ++ work.executions.map WorkQueue.executions.region

/-- The users that the blocks name. -/
def namedUsers (work : StackedWork) (memory : Memory) : List UInt32 :=
  work.requests.map (WorkQueue.requests.named memory) ++
    work.executions.map (WorkQueue.executions.named memory)

/-- The block that is taken first, with its queue. -/
inductive Leads : WorkQueue → UInt32 → StackedWork → Prop where
  | request (block : UInt32) (requests executions : List UInt32) :
      Leads .requests block ⟨block :: requests, executions⟩
  | execution (block : UInt32) (executions : List UInt32) :
      Leads .executions block ⟨[], block :: executions⟩

theorem drop_rest (work : StackedWork) (count : Nat) :
    work.rest.drop count = work.drop (count + 1) := by
  rcases work with ⟨_ | ⟨request, requests⟩, executions⟩
  · simp [rest, drop]
  · simp [rest, drop]

/-- The control blocks and the blocks of stacked work lie apart from each other. -/
def LaidOut (place : WorkPlace) (work : StackedWork) : Prop :=
  (place.blocks ++ work.regions).Pairwise Region.Apart

/-- The blocks of stacked work are laid out and linked in their rings. -/
structure Queued (place : WorkPlace) (work : StackedWork) (memory : Memory) : Prop where
  laidOut : LaidOut place work
  table : memory.getAddress place.list DispatchList.sizeTable = place.sizeTable
  requests : WorkQueue.requests.Ring memory place.list work.requests
  executions : WorkQueue.executions.Ring memory place.list work.executions

/-- Every block names a user, and each user counts the blocks that name it. -/
structure Formed (place : WorkPlace) (work : StackedWork) (memory : Memory) : Prop
    extends Queued place work memory where
  named : ∀ user ∈ work.namedUsers memory, user ∈ place.users
  counted : ∀ user ∈ place.users,
    (memory.get user Vmblok.stackCount).toNat = (work.namedUsers memory).count user

instance (place : WorkPlace) (work : StackedWork) : Decidable (LaidOut place work) :=
  inferInstanceAs (Decidable (List.Pairwise _ _))

instance (place : WorkPlace) (work : StackedWork) (memory : Memory) :
    Decidable (Formed place work memory) :=
  decidable_of_iff
    ((LaidOut place work ∧ memory.getAddress place.list DispatchList.sizeTable = place.sizeTable ∧
        WorkQueue.requests.Ring memory place.list work.requests ∧
        WorkQueue.executions.Ring memory place.list work.executions) ∧
      (∀ user ∈ work.namedUsers memory, user ∈ place.users) ∧
      ∀ user ∈ place.users,
        (memory.get user Vmblok.stackCount).toNat = (work.namedUsers memory).count user)
    ⟨fun ⟨⟨laidOut, table, requests, executions⟩, named, counted⟩ =>
        ⟨⟨laidOut, table, requests, executions⟩, named, counted⟩,
      fun formed => ⟨⟨formed.laidOut, formed.table, formed.requests, formed.executions⟩,
        formed.named, formed.counted⟩⟩

variable {place : WorkPlace} {work : StackedWork} {memory after : Memory} {region outer : Region}
  {queue : WorkQueue} {block user : UInt32}

namespace LaidOut

theorem rest (laidOut : LaidOut place work) : LaidOut place work.rest := by
  refine List.Pairwise.sublist ((List.Sublist.refl place.blocks).append ?_) laidOut
  rcases work with ⟨_ | ⟨request, requests⟩, executions⟩
  · exact (List.tail_sublist executions).map _
  · exact List.sublist_cons_self _ _

theorem apart (laidOut : LaidOut place work) (outer_mem : outer ∈ place.blocks)
    (region_mem : region ∈ work.regions) : outer.Apart region :=
  (List.pairwise_append.mp laidOut).2.2 outer outer_mem region region_mem

theorem list_apart (laidOut : LaidOut place work) (outer_mem : outer ∈ place.blocks.tail) :
    Region.Apart ⟨place.list, 72⟩ outer :=
  List.rel_of_pairwise_cons (List.pairwise_append.mp laidOut).1 outer_mem

theorem list_apart_user (laidOut : LaidOut place work) (user_mem : user ∈ place.users) :
    Region.Apart ⟨place.list, 72⟩ (vmblokRegion user) :=
  laidOut.list_apart
    (List.mem_cons_of_mem _ (List.mem_cons_of_mem _ (List.mem_map_of_mem user_mem)))

theorem user_apart (laidOut : LaidOut place work) (user_mem : user ∈ place.users)
    (region_mem : region ∈ work.regions) : (vmblokRegion user).Apart region :=
  laidOut.apart (WorkPlace.user_mem user_mem) region_mem

theorem heads_apart (laidOut : LaidOut place work) (user_mem : user ∈ place.users) :
    (FreeStorage.headsRegion place.sizeTable).Apart (vmblokRegion user) :=
  List.rel_of_pairwise_cons (List.pairwise_cons.mp (List.pairwise_append.mp laidOut).1).2
    (List.mem_cons_of_mem _ (List.mem_map_of_mem user_mem))

theorem users (laidOut : LaidOut place work) : UsersApart place.users :=
  (List.pairwise_cons.mp (List.pairwise_cons.mp (List.pairwise_append.mp laidOut).1).2).2

theorem anchor_within (list : UInt32) : Region.Within ⟨list, 16⟩ ⟨list, 72⟩ :=
  fun _ inAnchor => Nat.lt_of_lt_of_le inAnchor (Nat.le_add_right 16 56)

theorem anchor_apart_part (list : UInt32) {start : UInt32} {length : Nat}
    (above : 16 ≤ Region.distance 0 start) (below : length ≤ Region.distance start 0) :
    Region.Apart ⟨list, 16⟩ ⟨list + start, length⟩ := by
  have parts := Region.apart_add list above below
  rwa [UInt32.add_zero] at parts

theorem anchor_apart (laidOut : LaidOut place work) (region_mem : region ∈ work.regions) :
    region.Apart ⟨place.list, 16⟩ :=
  ((laidOut.apart (List.mem_cons_self ..) region_mem).mono (anchor_within place.list)).symm

theorem requests (laidOut : LaidOut place work) :
    WorkQueue.requests.Apart place.list work.requests where
  pairwise := List.pairwise_map.mp (List.pairwise_append.mp (List.pairwise_append.mp laidOut).2.1).1
  anchor _ block_mem :=
    laidOut.anchor_apart (List.mem_append_left _ (List.mem_map_of_mem block_mem))

theorem executions (laidOut : LaidOut place work) :
    WorkQueue.executions.Apart place.list work.executions where
  pairwise :=
    List.pairwise_map.mp (List.pairwise_append.mp (List.pairwise_append.mp laidOut).2.1).2.1
  anchor _ block_mem :=
    laidOut.anchor_apart (List.mem_append_right _ (List.mem_map_of_mem block_mem))

theorem across (laidOut : LaidOut place work) {request execution : UInt32}
    (request_mem : request ∈ work.requests) (execution_mem : execution ∈ work.executions) :
    (WorkQueue.requests.region request).Apart (WorkQueue.executions.region execution) :=
  (List.pairwise_append.mp (List.pairwise_append.mp laidOut).2.1).2.2 _
    (List.mem_map_of_mem request_mem) _ (List.mem_map_of_mem execution_mem)

/-- Blocks of the two rings, or one of them and the anchor, have their links apart from each other,
unless both are the anchor. -/
theorem cells (laidOut : LaidOut place work) {first second : UInt32}
    (first_mem : first ∈ place.list :: work.requests)
    (second_mem : second ∈ place.list :: work.executions) :
    first = second ∨ Region.Apart ⟨first, 16⟩ ⟨second, 16⟩ := by
  have requestCell := WorkQueue.requests_sound.cell_within first
  have executionCell := WorkQueue.executions_sound.cell_within second
  rcases List.mem_cons.mp first_mem with rfl | request_mem <;>
    rcases List.mem_cons.mp second_mem with rfl | execution_mem
  · exact .inl rfl
  · exact .inr ((laidOut.executions.anchor second execution_mem).mono executionCell).symm
  · exact .inr ((laidOut.requests.anchor first request_mem).mono requestCell)
  · exact .inr ((laidOut.across request_mem execution_mem).parts requestCell executionCell)

end LaidOut

theorem mem_regions_request (block_mem : block ∈ work.requests) :
    WorkQueue.requests.region block ∈ work.regions :=
  List.mem_append_left _ (List.mem_map_of_mem block_mem)

theorem mem_regions_execution (block_mem : block ∈ work.executions) :
    WorkQueue.executions.region block ∈ work.regions :=
  List.mem_append_right _ (List.mem_map_of_mem block_mem)

namespace Leads

/-- Storage apart from the anchor and the rest of the work stays when the first block is taken off
its ring. -/
theorem unlink_agreesOn (leads : Leads queue block work) (queued : Queued place work memory)
    (anchor : Region.Apart ⟨place.list, 16⟩ region)
    (behind : ∀ other ∈ work.rest.regions, other.Apart region) :
    (queue.unlink memory block).AgreesOn memory region := by
  cases leads with
  | request _ requests executions =>
      refine queued.requests.unlink_spares WorkQueue.requests_sound fun second second_mem => ?_
      rcases List.mem_cons.mp second_mem with rfl | second_rest
      · exact anchor
      · exact (behind _ (mem_regions_request second_rest)).mono
          (WorkQueue.requests_sound.cell_within second)
  | execution _ executions =>
      refine queued.executions.unlink_spares WorkQueue.executions_sound fun second second_mem => ?_
      rcases List.mem_cons.mp second_mem with rfl | second_rest
      · exact anchor
      · exact (behind _ (mem_regions_execution second_rest)).mono
          (WorkQueue.executions_sound.cell_within second)

theorem queued (leads : Leads queue block work) (queued : Queued place work memory) :
    Queued place work.rest (queue.unlink memory block) := by
  have laidOut := queued.laidOut.rest
  have table : (queue.unlink memory block).getAddress place.list DispatchList.sizeTable =
      place.sizeTable := by
    rw [Memory.AgreesOn.getAddress_eq (leads.unlink_agreesOn queued ?_ fun other other_mem => ?_)]
    · exact queued.table
    · exact LaidOut.anchor_apart_part place.list (by decide) (by decide)
    · exact ((laidOut.apart (List.mem_cons_self ..) other_mem).mono
        (Region.ofField_within _ (by decide) (by decide))).symm
  cases leads with
  | request _ requests executions =>
      refine ⟨laidOut, table,
        queued.requests.unlink WorkQueue.requests_sound queued.laidOut.requests, ?_⟩
      exact queued.requests.unlink_other WorkQueue.requests_sound WorkQueue.executions_sound
        (by decide) (fun _ second_mem _ other_mem => laidOut.cells second_mem other_mem)
        queued.executions
  | execution _ executions =>
      refine ⟨laidOut, table, ?_,
        queued.executions.unlink WorkQueue.executions_sound queued.laidOut.executions⟩
      exact queued.executions.unlink_other WorkQueue.executions_sound WorkQueue.requests_sound
        (by decide) (fun _ second_mem _ other_mem =>
          (laidOut.cells other_mem second_mem).imp Eq.symm Region.Apart.symm) queued.requests

/-- The users that the rest of the work names are the same as before. -/
theorem namedUsers_rest (leads : Leads queue block work) (queued : Queued place work memory) :
    work.namedUsers memory =
      queue.named memory block :: work.rest.namedUsers (queue.unlink memory block) := by
  have laidOut := queued.laidOut
  cases leads with
  | request _ requests executions =>
      have sound := WorkQueue.requests_sound
      have ofRequests : requests.map (WorkQueue.requests.named
          (WorkQueue.requests.unlink memory block)) =
            requests.map (WorkQueue.requests.named memory) :=
        List.map_congr_left fun other other_mem =>
          queued.requests.unlink_named sound laidOut.requests other_mem
      have ofExecutions : executions.map (WorkQueue.executions.named
          (WorkQueue.requests.unlink memory block)) =
            executions.map (WorkQueue.executions.named memory) := by
        refine List.map_congr_left fun other other_mem => Memory.AgreesOn.getAddress_eq
          (Memory.AgreesOn.mono ?_ (WorkQueue.executions_sound.user_within other))
        refine queued.requests.unlink_spares sound fun second second_mem => ?_
        rcases List.mem_cons.mp second_mem with rfl | second_rest
        · exact (laidOut.executions.anchor other other_mem).symm
        · exact (laidOut.rest.across second_rest other_mem).mono (sound.cell_within second)
      simp [namedUsers, rest, ofRequests, ofExecutions]
  | execution _ executions =>
      have sound := WorkQueue.executions_sound
      have ofExecutions : executions.map (WorkQueue.executions.named
          (WorkQueue.executions.unlink memory block)) =
            executions.map (WorkQueue.executions.named memory) :=
        List.map_congr_left fun other other_mem =>
          queued.executions.unlink_named sound laidOut.executions other_mem
      simp [namedUsers, rest, ofExecutions]

theorem region_apart (leads : Leads queue block work) (laidOut : LaidOut place work) :
    ∀ other ∈ work.rest.regions, (queue.region block).Apart other := by
  have pairwise := (List.pairwise_append.mp laidOut).2.1
  cases leads with
  | request _ requests executions => exact fun other => List.rel_of_pairwise_cons pairwise
  | execution _ executions => exact fun other => List.rel_of_pairwise_cons pairwise

theorem region_mem (leads : Leads queue block work) : queue.region block ∈ work.regions := by
  cases leads with
  | request _ requests executions => exact mem_regions_request (List.mem_cons_self ..)
  | execution _ executions => exact mem_regions_execution (List.mem_cons_self ..)

theorem unlink_agreesOn_block (leads : Leads queue block work) (queued : Queued place work memory) :
    (queue.unlink memory block).AgreesOn memory (queue.region block) :=
  leads.unlink_agreesOn queued (queued.laidOut.anchor_apart leads.region_mem).symm
    fun other other_mem => (leads.region_apart queued.laidOut other other_mem).symm

end Leads

/-- What tells whether stacked work is in form. -/
def toldBy (place : WorkPlace) (work : StackedWork) : List Region :=
  ⟨place.list, 16⟩ :: .ofField place.list DispatchList.sizeTable ::
    place.users.map (.ofField · Vmblok.stackCount) ++ work.regions

theorem mem_toldBy {told : Region} : told ∈ toldBy place work ↔
    told = ⟨place.list, 16⟩ ∨ told = .ofField place.list DispatchList.sizeTable ∨
      (∃ user ∈ place.users, .ofField user Vmblok.stackCount = told) ∨ told ∈ work.regions := by
  simp [toldBy]

theorem Queued.congr (queued : Queued place work memory)
    (list : after.AgreesOn memory ⟨place.list, 16⟩)
    (table : after.AgreesOn memory (.ofField place.list DispatchList.sizeTable))
    (blocks : ∀ region ∈ work.regions, after.AgreesOn memory region) :
    Queued place work after := by
  have cells : ∀ {queue : WorkQueue}, queue.Sound → ∀ {ring : List UInt32},
      (∀ block ∈ ring, queue.region block ∈ work.regions) → ∀ block ∈ place.list :: ring,
        after.AgreesOn memory ⟨block, 16⟩ := by
    intro queue sound ring ring_mem block block_mem
    rcases List.mem_cons.mp block_mem with rfl | block_rest
    · exact list
    · exact (blocks _ (ring_mem block block_rest)).mono (sound.cell_within block)
  have keeps : ∀ {queue : WorkQueue}, queue.Sound → ∀ {ring : List UInt32},
      (∀ block ∈ ring, queue.region block ∈ work.regions) →
      queue.Ring memory place.list ring → queue.Ring after place.list ring :=
    fun sound _ ring_mem isRing => Memory.Linked.congr isRing
      (fun block block_mem => (cells sound ring_mem block block_mem).mono (sound.next_within block))
      fun block block_mem =>
        (cells sound ring_mem block block_mem).mono (sound.previous_within block)
  exact
    { laidOut := queued.laidOut
      table := (Memory.AgreesOn.getAddress_eq table).trans queued.table
      requests := keeps WorkQueue.requests_sound (fun _ => mem_regions_request) queued.requests
      executions :=
        keeps WorkQueue.executions_sound (fun _ => mem_regions_execution) queued.executions }

theorem namedUsers_congr (blocks : ∀ region ∈ work.regions, after.AgreesOn memory region) :
    work.namedUsers after = work.namedUsers memory := by
  have ofRequests : work.requests.map (WorkQueue.requests.named after) =
      work.requests.map (WorkQueue.requests.named memory) :=
    List.map_congr_left fun block block_mem => Memory.AgreesOn.getAddress_eq
      ((blocks _ (mem_regions_request block_mem)).mono (WorkQueue.requests_sound.user_within block))
  have ofExecutions : work.executions.map (WorkQueue.executions.named after) =
      work.executions.map (WorkQueue.executions.named memory) :=
    List.map_congr_left fun block block_mem => Memory.AgreesOn.getAddress_eq
      ((blocks _ (mem_regions_execution block_mem)).mono
        (WorkQueue.executions_sound.user_within block))
  rw [namedUsers, namedUsers, ofRequests, ofExecutions]

theorem Formed.congr (formed : Formed place work memory)
    (told : ∀ region ∈ toldBy place work, after.AgreesOn memory region) :
    Formed place work after := by
  have blocks : ∀ region ∈ work.regions, after.AgreesOn memory region := fun region region_mem =>
    told region (mem_toldBy.mpr (.inr (.inr (.inr region_mem))))
  have queued := formed.toQueued.congr (told _ (mem_toldBy.mpr (.inl rfl)))
    (told _ (mem_toldBy.mpr (.inr (.inl rfl)))) blocks
  refine ⟨queued, ?_, fun user user_mem => ?_⟩
  · rw [namedUsers_congr blocks]
    exact formed.named
  · rw [namedUsers_congr blocks, (told _ (mem_toldBy.mpr
      (.inr (.inr (.inl ⟨user, user_mem, rfl⟩))))).get_eq]
    exact formed.counted user user_mem

/-- The first work has been taken: the rest is in form and names the users that it has named. -/
structure Follows (place : WorkPlace) (work : StackedWork) (memory after : Memory) : Prop where
  formed : Formed place work.rest after
  names : work.rest.namedUsers after = (work.namedUsers memory).tail

theorem Follows.congr (follows : Follows place work memory after) {final : Memory}
    (told : ∀ region ∈ toldBy place work.rest, final.AgreesOn after region) :
    Follows place work memory final := by
  refine ⟨follows.formed.congr told, ?_⟩
  rw [namedUsers_congr fun region region_mem =>
    told region (mem_toldBy.mpr (.inr (.inr (.inr region_mem))))]
  exact follows.names

/-- The user of the first work has counted one block more than it counts of the rest. -/
theorem Follows.counted (formed : Formed place work memory)
    (follows : Follows place work memory after)
    (isFirst : (work.namedUsers memory).head? = some user) :
    (memory.get user Vmblok.stackCount).toNat = (after.get user Vmblok.stackCount).toNat + 1 := by
  obtain ⟨names, isCons⟩ := List.head?_eq_some_iff.mp isFirst
  have user_mem : user ∈ place.users := formed.named user (by simp [isCons])
  rw [formed.counted user user_mem, follows.formed.counted user user_mem, follows.names, isCons,
    List.tail_cons, List.count_cons_self]

section Clear

variable {α : Type} [Stored α] (laidOut : LaidOut place work)

theorem clear_of_apart (list : outer.Apart ⟨place.list, 72⟩)
    (users : ∀ user ∈ place.users, outer.Apart (vmblokRegion user))
    (works : ∀ other ∈ work.regions, outer.Apart other) (within : region.Within outer) :
    ∀ told ∈ toldBy place work, region.Apart told := by
  intro told told_mem
  refine Region.Apart.mono ?_ within
  rcases mem_toldBy.mp told_mem with rfl | rfl | ⟨user, user_mem, rfl⟩ | work_mem
  · exact list.mono_right (LaidOut.anchor_within place.list)
  · exact list.mono_right (Region.ofField_within _ (by decide) (by decide))
  · exact (users user user_mem).mono_right (vmblok_within user (by decide))
  · exact works told work_mem

include laidOut

theorem prefix_clear (within : region.Within prefixRegion) :
    ∀ told ∈ toldBy place work, region.Apart told :=
  clear_of_apart (laidOut.list_apart (by simp [WorkPlace.blocks])).symm
    (fun _ user_mem => laidOut.users.prefixApart user_mem)
    (fun _ other_mem => laidOut.apart place.prefix_mem other_mem) within

theorem heads_clear (within : region.Within (FreeStorage.headsRegion place.sizeTable)) :
    ∀ told ∈ toldBy place work, region.Apart told :=
  clear_of_apart (laidOut.list_apart (by simp [WorkPlace.blocks])).symm
    (fun _ user_mem => laidOut.heads_apart user_mem)
    (fun _ other_mem => laidOut.apart place.heads_mem other_mem) within

theorem vmblok_clear (user_mem : user ∈ place.users) (field : Field α)
    (inside : field.offset.toNat + Stored.size α ≤ 0xc0)
    (apart : Stored.size α ≤ Region.distance field.offset Vmblok.stackCount.offset ∧
      2 ≤ Region.distance Vmblok.stackCount.offset field.offset) :
    ∀ told ∈ toldBy place work, (Region.ofField user field).Apart told := by
  intro told told_mem
  have within := vmblok_within user inside
  have listApart := laidOut.list_apart_user user_mem
  rcases mem_toldBy.mp told_mem with rfl | rfl | ⟨other, other_mem, rfl⟩ | work_mem
  · exact (listApart.parts (LaidOut.anchor_within place.list) within).symm
  · exact (listApart.parts (Region.ofField_within _ (by decide) (by decide)) within).symm
  · by_cases same : user = other
    · rw [same]
      exact Region.ofField_apart other apart.1 apart.2
    · exact (laidOut.users.others user_mem other_mem same).parts within
        (vmblok_within other (by decide))
  · exact (laidOut.user_apart user_mem work_mem).mono within

theorem saveArea_clear {index : Nat} (index_lt : index < 6) :
    ∀ told ∈ toldBy place work,
      (Region.ofField place.list (DispatchList.saveArea.item index)).Apart told := by
  intro told told_mem
  refine Region.Apart.mono ?_ (saveArea_within place.list index_lt)
  have within : Region.Within ⟨place.list + DispatchList.saveArea.offset, 24⟩ ⟨place.list, 72⟩ :=
    Region.within_block _ (by decide) (by decide)
  rcases mem_toldBy.mp told_mem with rfl | rfl | ⟨user, user_mem, rfl⟩ | work_mem
  · exact (LaidOut.anchor_apart_part place.list (by decide) (by decide)).symm
  · exact Region.apart_add _ (by decide) (by decide)
  · exact (laidOut.list_apart_user user_mem).parts within (vmblok_within user (by decide))
  · exact (laidOut.apart (List.mem_cons_self ..) work_mem).mono within

end Clear

/-- The first work can be taken off its ring and off the count of its user. -/
theorem Leads.follows (leads : Leads queue block work) (formed : Formed place work memory) :
    Follows place work memory
      ((queue.unlink memory block).unstack (queue.named memory block)) := by
  have laidOut := formed.laidOut.rest
  have names := leads.namedUsers_rest formed.toQueued
  have user_mem : queue.named memory block ∈ place.users := formed.named _ (by simp [names])
  have vmblok : ∀ user ∈ place.users,
      (queue.unlink memory block).AgreesOn memory (.ofField user Vmblok.stackCount) := by
    intro user user_mem
    refine Memory.AgreesOn.mono (leads.unlink_agreesOn formed.toQueued ?_ fun other other_mem => ?_)
      (vmblok_within user (by decide))
    · exact (laidOut.list_apart_user user_mem).mono (LaidOut.anchor_within place.list)
    · exact (laidOut.user_apart user_mem other_mem).symm
  have spared : ∀ region, (vmblokRegion (queue.named memory block)).Apart region →
      ((queue.unlink memory block).unstack (queue.named memory block)).AgreesOn
        (queue.unlink memory block) region := fun region apart =>
    Memory.put_agreesOn _ (apart.mono (vmblok_within _ (by decide)))
  have listApart := laidOut.list_apart_user user_mem
  have blocks : ∀ region ∈ work.rest.regions,
      ((queue.unlink memory block).unstack (queue.named memory block)).AgreesOn
        (queue.unlink memory block) region := fun region region_mem =>
    spared region (laidOut.user_apart user_mem region_mem)
  have queued := (leads.queued formed.toQueued).congr
    (spared _ (listApart.mono (LaidOut.anchor_within place.list)).symm)
    (spared _ (listApart.mono (Region.ofField_within _ (by decide) (by decide))).symm) blocks
  have sameNames := namedUsers_congr blocks
  refine ⟨⟨queued, fun user named => ?_, fun user counting => ?_⟩, by rw [sameNames, names]; rfl⟩
  · rw [sameNames] at named
    exact formed.named user (by simp [names, named])
  · have before := formed.counted user counting
    rw [names, ← (vmblok user counting).get_eq] at before
    rw [sameNames]
    by_cases same : queue.named memory block = user
    -- The user counts the block that is taken, so that the count does not wrap.
    · rw [same, List.count_cons_self] at before
      rw [same, Memory.unstack, Memory.get_put_self, UInt16.toNat_sub_of_le, before]
      · rfl
      · rw [UInt16.le_iff_toNat_le, before]
        exact Nat.le_add_left 1 _
    · rw [List.count_cons_of_ne same] at before
      have others := laidOut.users.others user_mem counting same
      rw [(spared _ (others.mono_right (vmblok_within user (by decide)))).get_eq, before]

theorem Leads.sound (leads : Leads queue block work) : queue.Sound := by
  cases leads with
  | request _ requests executions => exact WorkQueue.requests_sound
  | execution _ executions => exact WorkQueue.executions_sound

theorem Leads.named_unlink (leads : Leads queue block work) (queued : Queued place work memory) :
    queue.named (queue.unlink memory block) block = queue.named memory block :=
  Memory.AgreesOn.getAddress_eq
    ((leads.unlink_agreesOn_block queued).mono (leads.sound.user_within block))

/-- Storage apart from the anchor, the rest of the work and the users stays when the first work is
taken. -/
theorem Leads.taken_agreesOn (leads : Leads queue block work) (formed : Formed place work memory)
    (anchor : Region.Apart ⟨place.list, 16⟩ region)
    (behind : ∀ other ∈ work.rest.regions, other.Apart region)
    (users : ∀ user ∈ place.users, (vmblokRegion user).Apart region) :
    ((queue.unlink memory block).unstack (queue.named memory block)).AgreesOn memory region := by
  have user_mem : queue.named memory block ∈ place.users :=
    formed.named _ (by simp [leads.namedUsers_rest formed.toQueued])
  exact (Memory.put_agreesOn _ ((users _ user_mem).mono (vmblok_within _ (by decide)))).trans
    (leads.unlink_agreesOn formed.toQueued anchor behind)

/-- The taken block stays as it is. -/
theorem Leads.taken_agreesOn_block (leads : Leads queue block work)
    (formed : Formed place work memory) :
    ((queue.unlink memory block).unstack (queue.named memory block)).AgreesOn memory
      (queue.region block) :=
  leads.taken_agreesOn formed (formed.laidOut.anchor_apart leads.region_mem).symm
    (fun other other_mem => (leads.region_apart formed.laidOut other other_mem).symm)
    fun _ user_mem =>
      formed.laidOut.user_apart user_mem leads.region_mem

/-- So do the heads of the subpools. -/
theorem Leads.taken_agreesOn_heads (leads : Leads queue block work)
    (formed : Formed place work memory) :
    ((queue.unlink memory block).unstack (queue.named memory block)).AgreesOn memory
      (FreeStorage.headsRegion place.sizeTable) := by
  refine leads.taken_agreesOn formed ?_ (fun other other_mem => ?_) fun user user_mem => ?_
  · exact (formed.laidOut.list_apart (by simp [WorkPlace.blocks])).mono
      (LaidOut.anchor_within place.list)
  · exact (formed.laidOut.rest.apart place.heads_mem other_mem).symm
  · exact (formed.laidOut.heads_apart user_mem).symm

theorem Leads.block_clear (leads : Leads queue block work) (laidOut : LaidOut place work)
    (within : region.Within (queue.region block)) :
    ∀ told ∈ toldBy place work.rest, region.Apart told :=
  clear_of_apart (laidOut.apart (List.mem_cons_self ..) leads.region_mem).symm
    (fun _ user_mem =>
      (laidOut.user_apart user_mem leads.region_mem).symm)
    (leads.region_apart laidOut) within

end StackedWork

end Assist370
