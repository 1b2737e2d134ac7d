import Assist370.Proofs.CallRun
import Assist370.Proofs.PlainMachine

/-!
# Subpools of free storage

The blocks of a subpool are chained through their first words, and the chains lie in the very
storage that is handed out. `Subpools.Formed` says that the head of every subpool starts a chain and
that no block is on two of them. A completed request for storage takes the first block off one
chain, a completed return puts one block in front of one chain, and everything else leaves the
chains alone. So along every run the chains stay formed (`System.subpools_formed`).
-/

namespace Assist370

namespace FreeStorage

/-- The word of a free block that leads to the next one. -/
def link (block : UInt32) : Region :=
  .ofField block (Field.first : Field UInt32)

/-- The heads of two subpools whose index bytes are multiples of four are apart. -/
theorem head_apart (sizeTable : UInt32) {index other : UInt8} (different : other ≠ index)
    (aligned : index.toNat % 4 = 0) (otherAligned : other.toNat % 4 = 0) :
    (Region.ofField sizeTable (head index)).Apart (.ofField sizeTable (head other)) := by
  have differentNat : other.toNat ≠ index.toNat := fun same => different (UInt8.toNat_inj.mp same)
  have index_lt := index.toNat_lt
  have other_lt := other.toNat_lt
  apply Region.ofField_apart
  all_goals
    simp only [Stored.size, head, heads, Region.distance_eq, UInt32.toNat_add,
      UInt8.toNat_toUInt32, Address.space]
    simp
    omega

/-- The heads of the subpools lie behind the largest size. -/
theorem head_apart_largestSize (sizeTable : UInt32) (index : UInt8) :
    (Region.ofField sizeTable (head index)).Apart (.ofField sizeTable largestSize) := by
  have index_lt := index.toNat_lt
  apply Region.ofField_apart
  all_goals
    simp only [Stored.size, head, heads, largestSize, Region.distance_eq, UInt32.toNat_add,
      UInt8.toNat_toUInt32, Address.space]
    simp
    omega

end FreeStorage

namespace Memory

variable {memory now : Memory}

/-- Memory once a block has been put in front of the chain of a subpool. -/
def returned (memory : Memory) (sizeTable : UInt32) (index : UInt8) (block : UInt32) : Memory :=
  (memory.put sizeTable (FreeStorage.head index) block).put block Field.first
    (memory.get sizeTable (FreeStorage.head index))

/-- Blocks are chained from a word on by their first words, and zero ends the chain. -/
def Chain (memory : Memory) : UInt32 → List UInt32 → Prop
  | start, [] => start = 0
  | start, block :: rest =>
      start = block ∧ block ≠ 0 ∧ memory.Chain (memory.get block Field.first) rest

instance Chain.decidable (memory : Memory) :
    (start : UInt32) → (blocks : List UInt32) → Decidable (memory.Chain start blocks)
  | start, [] => inferInstanceAs (Decidable (start = 0))
  | start, block :: rest =>
      have := Chain.decidable memory (memory.get block Field.first) rest
      inferInstanceAs (Decidable (start = block ∧ block ≠ 0 ∧ _))

/-- A chain stays as it is while the first words of its blocks do. -/
theorem Chain.of_agreesOn {start : UInt32} {blocks : List UInt32}
    (chain : memory.Chain start blocks)
    (agrees : ∀ block ∈ blocks, now.AgreesOn memory (FreeStorage.link block)) :
    now.Chain start blocks := by
  induction blocks generalizing start with
  | nil => exact chain
  | cons block rest ih =>
      obtain ⟨isFirst, nonzero, chained⟩ := chain
      refine ⟨isFirst, nonzero, ?_⟩
      rw [(agrees block (by simp)).get_eq]
      exact ih chained fun other other_mem => agrees other (by simp [other_mem])

end Memory

/-- The blocks on the chain of each subpool, by its index byte. -/
abbrev Pools := UInt8 → List UInt32

namespace Pools

/-- Gives a subpool another chain. -/
def set (pools : Pools) (index : UInt8) (blocks : List UInt32) : Pools :=
  fun other => if other = index then blocks else pools other

variable {pools : Pools} {index other : UInt8} {blocks : List UInt32}

@[simp]
theorem set_self : pools.set index blocks index = blocks :=
  if_pos rfl

theorem set_of_ne (different : other ≠ index) : pools.set index blocks other = pools other :=
  if_neg different

/-- Blocks on the chains, once a block has been put in front of one. -/
theorem mem_set_cons {block chained : UInt32}
    (chained_mem : chained ∈ pools.set index (block :: pools index) other) :
    (other = index ∧ chained = block) ∨ chained ∈ pools other := by
  by_cases same : other = index
  · rw [same, set_self, List.mem_cons] at chained_mem
    exact chained_mem.imp (fun isBlock => ⟨same, isBlock⟩) fun inPool => same ▸ inPool
  · rw [set_of_ne same] at chained_mem
    exact .inr chained_mem

/-- A subpool gets its chain back. -/
theorem set_set_self : (pools.set index blocks).set index (pools index) = pools := by
  funext other
  by_cases same : other = index
  · rw [same, set_self]
  · rw [set_of_ne same, set_of_ne same]

end Pools

/-- Where free storage is managed: the size table, the index bytes of its subpools, and the tables
that have the index byte for each size. -/
structure Subpools where
  sizeTable : UInt32
  indices : List UInt8
  indexTables : List Region

namespace Subpools

open FreeStorage

/-- The tables, but for the heads of the subpools. -/
def tables (subpools : Subpools) : List Region :=
  .ofField subpools.sizeTable largestSize :: subpools.indexTables

/-- The index bytes are multiples of four, and the heads of the subpools lie apart from the tables
of index bytes. -/
structure LaidOut (subpools : Subpools) : Prop where
  aligned : ∀ index ∈ subpools.indices, index.toNat % 4 = 0
  heads : ∀ index ∈ subpools.indices, ∀ table ∈ subpools.indexTables,
    (Region.ofField subpools.sizeTable (head index)).Apart table

/-- A block may be put on a chain: its first word is apart from the heads of the subpools and from
the tables. -/
structure Admits (subpools : Subpools) (block : UInt32) : Prop where
  nonzero : block ≠ 0
  inSpace : block.toNat < Address.space
  heads : ∀ index ∈ subpools.indices,
    (link block).Apart (.ofField subpools.sizeTable (head index))
  tables : ∀ table ∈ subpools.tables, (link block).Apart table

/-- Every subpool has its chain, of blocks that are apart from each other and from the tables. -/
structure Formed (subpools : Subpools) (memory : Memory) (pools : Pools) : Prop where
  chain : ∀ index ∈ subpools.indices,
    memory.Chain (memory.get subpools.sizeTable (head index)) (pools index)
  admits : ∀ index ∈ subpools.indices, ∀ block ∈ pools index, subpools.Admits block
  distinct : ∀ index ∈ subpools.indices, (pools index).Nodup
  apart : ∀ index ∈ subpools.indices, ∀ other ∈ subpools.indices,
    ∀ block ∈ pools index, ∀ otherBlock ∈ pools other,
      (index = other ∧ block = otherBlock) ∨ (link block).Apart (link otherBlock)

variable {subpools : Subpools} {memory : Memory} {pools : Pools} {index : UInt8}
  {block : UInt32}

theorem not_link_apart_self (block : UInt32) : ¬(link block).Apart (link block) := by
  intro apart
  have contains : (link block).Contains block := by
    have block_lt := block.toNat_lt
    simp only [link, Region.ofField, Field.first, Region.Contains, Region.distance_eq, Stored.size,
      Address.space]
    simp
    omega
  exact apart block contains contains

/-- No block is on two chains. -/
theorem Formed.not_mem (formed : subpools.Formed memory pools) {other : UInt8}
    (index_mem : index ∈ subpools.indices) (other_mem : other ∈ subpools.indices)
    (different : index ≠ other) (block_mem : block ∈ pools index) : block ∉ pools other := by
  intro mem_other
  rcases formed.apart index index_mem other other_mem block block_mem block mem_other with
    ⟨same, -⟩ | apart
  · exact different same
  · exact not_link_apart_self block apart

theorem LaidOut.head_apart_tables (laidOut : subpools.LaidOut)
    (index_mem : index ∈ subpools.indices) :
    ∀ table ∈ subpools.tables,
      (Region.ofField subpools.sizeTable (head index)).Apart table := by
  simp only [tables, List.forall_mem_cons]
  exact ⟨head_apart_largestSize _ _, laidOut.heads index index_mem⟩

/-- The first block of a chain is taken off it. -/
theorem Formed.take (formed : subpools.Formed memory pools) (laidOut : subpools.LaidOut)
    (index_mem : index ∈ subpools.indices) {rest : List UInt32}
    (isFirst : pools index = block :: rest) :
    subpools.Formed
      (memory.put subpools.sizeTable (head index) (memory.get block (Field.first : Field UInt32)))
      (pools.set index rest) := by
  have sublist : ∀ other, (pools.set index rest other).Sublist (pools other) := by
    intro other
    by_cases same : other = index
    · rw [same, Pools.set_self, isFirst]
      exact List.sublist_cons_self block rest
    · simpa only [Pools.set_of_ne same] using List.Sublist.refl (pools other)
  refine { chain := ?_, admits := ?_, distinct := ?_, apart := ?_ }
  · intro other other_mem
    have links : ∀ chained ∈ pools.set index rest other,
        (memory.put subpools.sizeTable (head index)
          (memory.get block (Field.first : Field UInt32))).AgreesOn memory (link chained) :=
      fun chained chained_mem =>
      Memory.put_agreesOn _ ((formed.admits other other_mem chained
        ((sublist other).subset chained_mem)).heads index index_mem).symm
    by_cases same : other = index
    · subst same
      have chain := formed.chain other other_mem
      rw [isFirst] at chain
      rw [Memory.get_put_self]
      rw [Pools.set_self] at links ⊢
      exact chain.2.2.of_agreesOn links
    · rw [(Memory.put_agreesOn _ (head_apart _ same (laidOut.aligned index index_mem)
        (laidOut.aligned other other_mem))).get_eq]
      rw [Pools.set_of_ne same] at links ⊢
      exact (formed.chain other other_mem).of_agreesOn links
  · exact fun other other_mem chained chained_mem =>
      formed.admits other other_mem chained ((sublist other).subset chained_mem)
  · exact fun other other_mem => (formed.distinct other other_mem).sublist (sublist other)
  · exact fun one one_mem other other_mem block block_mem otherBlock otherBlock_mem =>
      formed.apart one one_mem other other_mem block ((sublist one).subset block_mem) otherBlock
        ((sublist other).subset otherBlock_mem)

/-- A block is free to be returned: it may be put on a chain and is apart from those that are on
one. -/
structure Returnable (subpools : Subpools) (pools : Pools) (block : UInt32) : Prop
    extends subpools.Admits block where
  chained : ∀ index ∈ subpools.indices, ∀ other ∈ pools index, (link block).Apart (link other)

/-- With a block put in front of one chain, every subpool has its chain. -/
theorem Formed.chain_give (formed : subpools.Formed memory pools) (laidOut : subpools.LaidOut)
    (index_mem : index ∈ subpools.indices) (returnable : subpools.Returnable pools block)
    {other : UInt8} (other_mem : other ∈ subpools.indices) :
    (memory.returned subpools.sizeTable index block).Chain
      ((memory.returned subpools.sizeTable index block).get subpools.sizeTable (head other))
      (pools.set index (block :: pools index) other) := by
  have links : ∀ chained ∈ pools other,
      (memory.returned subpools.sizeTable index block).AgreesOn memory (link chained) :=
    fun chained chained_mem =>
      (Memory.put_agreesOn _ (returnable.chained other other_mem chained chained_mem)).trans
        (Memory.put_agreesOn _ ((formed.admits other other_mem chained chained_mem).heads index
          index_mem).symm)
  have chain := (formed.chain other other_mem).of_agreesOn links
  rw [Memory.returned] at chain ⊢
  rw [(Memory.put_agreesOn _ (returnable.heads other other_mem)).get_eq]
  by_cases same : other = index
  · subst same
    rw [Memory.get_put_self, Pools.set_self]
    refine ⟨rfl, returnable.nonzero, ?_⟩
    rwa [Memory.get_put_self]
  · rwa [(Memory.put_agreesOn _ (head_apart _ same (laidOut.aligned index index_mem)
      (laidOut.aligned other other_mem))).get_eq, Pools.set_of_ne same]

/-- A block is put in front of a chain. -/
theorem Formed.give (formed : subpools.Formed memory pools) (laidOut : subpools.LaidOut)
    (index_mem : index ∈ subpools.indices) (returnable : subpools.Returnable pools block) :
    subpools.Formed
      (memory.returned subpools.sizeTable index block)
      (pools.set index (block :: pools index)) := by
  refine { chain := ?_, admits := ?_, distinct := ?_, apart := ?_ }
  · exact fun other other_mem => formed.chain_give laidOut index_mem returnable other_mem
  · intro other other_mem chained chained_mem
    rcases Pools.mem_set_cons chained_mem with ⟨-, rfl⟩ | inPool
    · exact returnable.toAdmits
    · exact formed.admits other other_mem chained inPool
  · intro other other_mem
    by_cases same : other = index
    · rw [same, Pools.set_self, List.nodup_cons]
      refine ⟨fun block_mem => ?_, formed.distinct index index_mem⟩
      exact not_link_apart_self block (returnable.chained index index_mem block block_mem)
    · rw [Pools.set_of_ne same]
      exact formed.distinct other other_mem
  · intro one one_mem other other_mem chained chained_mem otherBlock otherBlock_mem
    rcases Pools.mem_set_cons chained_mem with ⟨isIndex, isBlock⟩ | inPool <;>
      rcases Pools.mem_set_cons otherBlock_mem with ⟨otherIsIndex, otherIsBlock⟩ | otherInPool
    · exact .inl ⟨isIndex.trans otherIsIndex.symm, isBlock.trans otherIsBlock.symm⟩
    · exact .inr (isBlock ▸ returnable.chained other other_mem otherBlock otherInPool)
    · exact .inr (otherIsBlock ▸ (returnable.chained one one_mem chained inPool).symm)
    · exact formed.apart one one_mem other other_mem chained inPool otherBlock otherInPool

instance (subpools : Subpools) (block : UInt32) : Decidable (subpools.Admits block) :=
  decidable_of_iff
    (block ≠ 0 ∧ block.toNat < Address.space ∧
      (∀ index ∈ subpools.indices,
        (link block).Apart (.ofField subpools.sizeTable (head index))) ∧
      ∀ table ∈ subpools.tables, (link block).Apart table)
    ⟨fun ⟨nonzero, inSpace, heads, tables⟩ => ⟨nonzero, inSpace, heads, tables⟩,
      fun admits => ⟨admits.nonzero, admits.inSpace, admits.heads, admits.tables⟩⟩

instance (subpools : Subpools) (pools : Pools) (block : UInt32) :
    Decidable (subpools.Returnable pools block) :=
  decidable_of_iff
    (subpools.Admits block ∧
      ∀ index ∈ subpools.indices, ∀ other ∈ pools index, (link block).Apart (link other))
    ⟨fun ⟨admits, chained⟩ => ⟨admits, chained⟩,
      fun returnable => ⟨returnable.toAdmits, returnable.chained⟩⟩

/-- The chains are formed, and the tables are as they were at first. -/
structure Holds (subpools : Subpools) (initial now : Memory) (pools : Pools) : Prop where
  formed : subpools.Formed now pools
  tables : ∀ table ∈ subpools.tables, now.AgreesOn initial table

variable {initial now : Memory}

theorem Holds.take (holds : subpools.Holds initial now pools) (laidOut : subpools.LaidOut)
    (index_mem : index ∈ subpools.indices) {rest : List UInt32}
    (isFirst : pools index = block :: rest) :
    subpools.Holds initial
      (now.put subpools.sizeTable (head index) (now.get block (Field.first : Field UInt32)))
      (pools.set index rest) where
  formed := holds.formed.take laidOut index_mem isFirst
  tables table table_mem :=
    (Memory.put_agreesOn _ (laidOut.head_apart_tables index_mem table table_mem)).trans
      (holds.tables table table_mem)

theorem Holds.give (holds : subpools.Holds initial now pools) (laidOut : subpools.LaidOut)
    (index_mem : index ∈ subpools.indices) (returnable : subpools.Returnable pools block) :
    subpools.Holds initial
      (now.returned subpools.sizeTable index block) (pools.set index (block :: pools index)) where
  formed := holds.formed.give laidOut index_mem returnable
  tables table table_mem :=
    ((Memory.put_agreesOn _ (returnable.tables table table_mem)).trans
      (Memory.put_agreesOn _ (laidOut.head_apart_tables index_mem table table_mem))).trans
        (holds.tables table table_mem)

end Subpools

namespace FreeStorage

open Microcode

variable {known : Knowledge} {scene : Scene}

/-- A block that is obtained has been the head of the subpool that its size selects. -/
theorem obtain_achieves (isFaithful : known.faithful) (sizeTable indexTable : UInt32) :
    (obtain sizeTable indexTable).Achieves known
      (fun completion after =>
        let count := scene.cpu.general.read 0
        let index := scene.memory.get (indexTable + count) (Field.first : Field UInt8)
        let block := scene.memory.get sizeTable (head index)
        completion = .completed ∧ after.timerSet = scene.timerSet ∧
          count ≤ scene.memory.get sizeTable largestSize ∧ block ≠ 0 ∧
          after.cpu.general.read 1 = block ∧
          after.memory = scene.memory.put sizeTable (head index)
            (scene.memory.get block (Field.first : Field UInt32))) scene := by
  simp only [Achieves, obtain, ensures_bind, ensures_general, ensures_require,
    ensures_fetch_iff isFaithful, ensures_store, bne_iff_ne, decide_eq_true_eq, implies_true,
    and_true]
  intro _ fits nonzero _
  simp [setGeneral, setConditionCode, returnToCaller, branch, Cpu.setGeneral,
    RegisterFile.read_load, fits, nonzero]

/-- The low half of a size is the size if it is less than 65536. -/
theorem halfword_size {count : UInt32} (isHalfword : count ≤ 0xffff) :
    count.toUInt16.toUInt32 = count := by
  have below := UInt32.le_iff_toNat_le.mp isHalfword
  apply UInt32.toNat_inj.mp
  simp at below ⊢
  omega

theorem sizeIndex_item (count : UInt16) :
    (sizeIndex.item count.toNat).offset = 11 + count.toUInt32 := by
  have below := count.toNat_lt
  apply UInt32.toNat_inj.mp
  simp [sizeIndex, Field.item, Stored.size]

/-- A release that does not decline makes its block the head of the subpool that its size
selects. -/
theorem release_ensures (isFaithful : known.faithful) (block : UInt32) (count : UInt16)
    (sizeTable releaseList : UInt32) :
    (release block count sizeTable releaseList).Ensures known (fun _ after => after = scene)
      (fun _ after => count.toUInt32 ≤ scene.memory.get sizeTable largestSize ∧
        after = { scene with
          memory := scene.memory.returned sizeTable
            (scene.memory.get releaseList (sizeIndex.item count.toNat)) block }) scene := by
  simp only [release, fetchAddress, ensures_bind, ensures_require, ensures_fetch_iff isFaithful,
    ensures_store, ensures_pure, decide_eq_true_eq, implies_true, and_true]
  intro _ fits _ _ _ _ _
  exact ⟨fits, rfl⟩

/-- A block that is returned becomes the head of the subpool that its size selects. -/
theorem giveBack_achieves (isFaithful : known.faithful) (sizeTable releaseList : UInt32) :
    (giveBack sizeTable releaseList).Achieves known
      (fun completion after =>
        let count := (scene.cpu.general.read 0).toUInt16
        completion = .completed ∧ count.toUInt32 ≤ scene.memory.get sizeTable largestSize ∧
          after.memory = scene.memory.returned sizeTable
            (scene.memory.get releaseList (sizeIndex.item count.toNat))
            (Address.wrap (scene.cpu.general.read 1))) scene := by
  simp only [Achieves, giveBack, ensures_bind, ensures_general]
  refine (release_ensures isFaithful _ _ _ _).mono ?_ fun _ _ _ => trivial
  rintro _ _ ⟨fits, rfl⟩
  simpa [returnToCaller, branch] using fits

end FreeStorage

namespace Call

/-- The size in doublewords that a call asks for or returns. -/
def doublewords (call : Call) : UInt32 :=
  call.cpu.general.read 0

/-- The size table that a call works by. -/
def sizeTable? (call : Call) : Option UInt32 :=
  match call.request with
  | .freex sizeTable _ | .fretx sizeTable _ => some (Address.wrap sizeTable)
  | _ => none

/-- The place of the index byte for the size of a call. -/
def indexPlace (call : Call) : UInt32 :=
  match call.request with
  | .freex _ indexTable => Address.wrap indexTable + call.doublewords
  | .fretx _ releaseList => Address.wrap releaseList + 11 + call.doublewords
  | _ => 0

/-- The call asks for free storage of a size table, or returns some. If the table serves its size,
a table of index bytes has one of the subpools for it. -/
structure Selects (subpools : Subpools) (memory : Memory) (call : Call) : Prop where
  sizeTable : call.sizeTable? = some subpools.sizeTable
  isHalfword : call.doublewords ≤ 0xffff
  index : call.doublewords ≤ memory.get subpools.sizeTable FreeStorage.largestSize →
    memory.byte call.indexPlace ∈ subpools.indices ∧
      ∃ table ∈ subpools.indexTables, table.Contains call.indexPlace

instance (subpools : Subpools) (memory : Memory) (call : Call) :
    Decidable (call.Selects subpools memory) :=
  decidable_of_iff
    (call.sizeTable? = some subpools.sizeTable ∧ call.doublewords ≤ 0xffff ∧
      (call.doublewords ≤ memory.get subpools.sizeTable FreeStorage.largestSize →
        memory.byte call.indexPlace ∈ subpools.indices ∧
          ∃ table ∈ subpools.indexTables, table.Contains call.indexPlace))
    ⟨fun ⟨sizeTable, isHalfword, index⟩ => ⟨sizeTable, isHalfword, index⟩,
      fun selects => ⟨selects.sizeTable, selects.isHalfword, selects.index⟩⟩

end Call

theorem Subpools.Holds.selects {subpools : Subpools} {initial now : Memory} {pools : Pools}
    (holds : subpools.Holds initial now pools) {call : Call}
    (selects : call.Selects subpools initial) : call.Selects subpools now where
  sizeTable := selects.sizeTable
  isHalfword := selects.isHalfword
  index := by
    intro fits
    rw [(holds.tables _ (by simp [Subpools.tables])).get_eq] at fits
    obtain ⟨index_mem, table, table_mem, contains⟩ := selects.index fits
    rw [holds.tables table (by simp [Subpools.tables, table_mem]) _ contains]
    exact ⟨index_mem, table, table_mem, contains⟩

section Calls

variable {Machine Refusal : Type} {policy : Policy} {callouts : Callouts Machine Refusal}
  {subpools : Subpools} {system : System Machine} {call : Call}

open FreeStorage

/-- What a call does to the chains of free storage: nothing, or it takes the head of the selected
subpool, or it makes a block its head. -/
inductive Call.PoolEffect (call : Call) (subpools : Subpools) (before after : Memory)
    (response : Response Machine Refusal) : Prop where
  | kept (uncompleted : response.result ≠ .ok .completed) (memory : after = before)
  | obtained (sizeTable indexTable : UInt32) (request : call.request = .freex sizeTable indexTable)
      (completed : response.result = .ok .completed)
      (index_mem : before.byte call.indexPlace ∈ subpools.indices)
      (nonzero : response.system.cpu.general.read 1 ≠ 0)
      (isHead : before.get subpools.sizeTable (head (before.byte call.indexPlace)) =
        response.system.cpu.general.read 1)
      (memory : after = before.put subpools.sizeTable (head (before.byte call.indexPlace))
        (before.get (response.system.cpu.general.read 1) (Field.first : Field UInt32)))
  | returned (sizeTable releaseList : UInt32)
      (request : call.request = .fretx sizeTable releaseList)
      (completed : response.result = .ok .completed)
      (index_mem : before.byte call.indexPlace ∈ subpools.indices)
      (memory : after = before.returned subpools.sizeTable (before.byte call.indexPlace)
        (Address.wrap (call.cpu.general.read 1)))

theorem Call.PoolEffect.of_unperformed {before after : Memory} {response : Response Machine Refusal}
    (unperformed : response.result = .ok .declined ∨ response.result = .ok .operationException)
    (memory : after = before) : call.PoolEffect subpools before after response := by
  refine .kept ?_ memory
  rcases unperformed with result | result <;> simp [result]

namespace System

variable {sizeTable table : UInt32} (view : StorageView callouts)

theorem obtain_poolEffect (isObtain : call.request = .freex sizeTable table)
    (selects : call.Selects subpools (view.memory system.machine))
    (answered : (system.call policy callouts call).Answered) :
    call.PoolEffect subpools (view.memory system.machine)
      (view.memory (system.call policy callouts call).system.machine)
      (system.call policy callouts call) := by
  obtain ⟨cpu, request⟩ := call
  obtain rfl : request = .freex sizeTable table := isObtain
  obtain ⟨isTable, -, selected⟩ := selects
  have isTable := Option.some.inj isTable
  cases System.call_settles view rfl answered
    (obtain_achieves trivial (Address.wrap sizeTable) (Address.wrap table)) with
  | stopped _ unperformed _ same => exact .of_unperformed unperformed same
  | left _ _ _ unperformed same => exact .of_unperformed (.inl unperformed) same
  | performed completion final holds completed cpuLeft memory =>
      obtain ⟨rfl, notSet, fits, nonzero, isBlock, taken⟩ := holds
      rw [Scene.committedCpu, notSet] at cpuLeft
      have isIndex : (view.memory system.machine).get
          (Address.wrap table + cpu.general.read 0) (Field.first : Field UInt8) =
            (view.memory system.machine).byte
              (Call.indexPlace ⟨cpu, .freex sizeTable table⟩) := by
        rw [Memory.get_byte, Field.first, UInt32.add_zero]
        rfl
      rw [isTable] at fits nonzero isBlock taken
      rw [isIndex] at nonzero isBlock taken
      rw [← isBlock] at nonzero taken
      refine .obtained sizeTable table rfl completed (selected fits).1 ?_ ?_ ?_
      · rw [cpuLeft]
        exact nonzero
      · rw [cpuLeft]
        exact isBlock.symm
      · rw [cpuLeft]
        exact memory.trans taken

theorem giveBack_poolEffect (isReturn : call.request = .fretx sizeTable table)
    (selects : call.Selects subpools (view.memory system.machine))
    (answered : (system.call policy callouts call).Answered) :
    call.PoolEffect subpools (view.memory system.machine)
      (view.memory (system.call policy callouts call).system.machine)
      (system.call policy callouts call) := by
  obtain ⟨cpu, request⟩ := call
  obtain rfl : request = .fretx sizeTable table := isReturn
  obtain ⟨isTable, isHalfword, selected⟩ := selects
  have isTable := Option.some.inj isTable
  cases System.call_settles view rfl answered
    (giveBack_achieves trivial (Address.wrap sizeTable) (Address.wrap table)) with
  | stopped _ unperformed _ same => exact .of_unperformed unperformed same
  | left _ _ _ unperformed same => exact .of_unperformed (.inl unperformed) same
  | performed completion final holds completed _ memory =>
      obtain ⟨rfl, fits, given⟩ := holds
      have sameCount : (cpu.general.read 0).toUInt16.toUInt32 = cpu.general.read 0 :=
        halfword_size isHalfword
      have isIndex : (view.memory system.machine).get (Address.wrap table)
          (sizeIndex.item (cpu.general.read 0).toUInt16.toNat) =
            (view.memory system.machine).byte
              (Call.indexPlace ⟨cpu, .fretx sizeTable table⟩) := by
        rw [Memory.get_byte, sizeIndex_item, sameCount, ← UInt32.add_assoc]
        rfl
      rw [isTable] at fits given
      rw [isIndex] at given
      rw [sameCount] at fits
      exact .returned sizeTable table rfl completed (selected fits).1 (memory.trans given)

theorem call_poolEffect
    (selects : call.Selects subpools (view.memory system.machine))
    (answered : (system.call policy callouts call).Answered) :
    call.PoolEffect subpools (view.memory system.machine)
      (view.memory (system.call policy callouts call).system.machine)
      (system.call policy callouts call) := by
  cases isRequest : call.request with
  | freex sizeTable table => exact obtain_poolEffect view isRequest selects answered
  | fretx sizeTable table => exact giveBack_poolEffect view isRequest selects answered
  | _ =>
      obtain ⟨isTable, -⟩ := selects
      simp [Call.sizeTable?, isRequest] at isTable

end System

/-- The block that a call returns, if it is a return. -/
def Call.returned? (call : Call) : Option UInt32 :=
  match call.request with
  | .fretx _ _ => some (call.cpu.general.read 1)
  | _ => none

/-- A block that a call returns may be returned. -/
def Call.ReturnsFree (subpools : Subpools) (pools : Pools) (call : Call) : Prop :=
  ∀ block ∈ call.returned?, subpools.Returnable pools block

instance (pools : Pools) : Decidable (call.ReturnsFree subpools pools) :=
  call.returned?.decidableForallMem

/-- The chains after a call: a completed request for storage has removed the first block of the
selected subpool, and a completed return has put its block in front. -/
def Pools.enter (policy : Policy) (callouts : Callouts Machine Refusal)
    (view : StorageView callouts) (pools : Pools) (system : System Machine) (call : Call) : Pools :=
  let index := (view.memory system.machine).byte call.indexPlace
  match call.request, (system.call policy callouts call).result with
  | .freex _ _, .ok .completed => pools.set index (pools index).tail
  | .fretx _ _, .ok .completed => pools.set index (call.cpu.general.read 1 :: pools index)
  | _, _ => pools

variable {view : StorageView callouts} {pools : Pools}

theorem Pools.enter_uncompleted
    (uncompleted : (system.call policy callouts call).result ≠ .ok .completed) :
    pools.enter policy callouts view system call = pools := by
  simp only [enter]
  split
  · contradiction
  · contradiction
  · rfl

theorem Pools.enter_obtained {sizeTable indexTable : UInt32}
    (request : call.request = .freex sizeTable indexTable)
    (completed : (system.call policy callouts call).result = .ok .completed) :
    pools.enter policy callouts view system call =
      pools.set ((view.memory system.machine).byte call.indexPlace)
        (pools ((view.memory system.machine).byte call.indexPlace)).tail := by
  simp only [enter, request, completed]

theorem Pools.enter_returned {sizeTable releaseList : UInt32}
    (request : call.request = .fretx sizeTable releaseList)
    (completed : (system.call policy callouts call).result = .ok .completed) :
    pools.enter policy callouts view system call =
      pools.set ((view.memory system.machine).byte call.indexPlace)
        (call.cpu.general.read 1 ::
          pools ((view.memory system.machine).byte call.indexPlace)) := by
  simp only [enter, request, completed]

/-- The head of a subpool is the first block of its chain. -/
theorem Subpools.Formed.pool_eq {memory : Memory} (formed : subpools.Formed memory pools)
    {index : UInt8} {block : UInt32} (index_mem : index ∈ subpools.indices)
    (isHead : memory.get subpools.sizeTable (head index) = block) (nonzero : block ≠ 0) :
    ∃ rest, pools index = block :: rest := by
  have chain := formed.chain index index_mem
  cases chained : pools index with
  | nil =>
      rw [chained] at chain
      exact absurd (isHead.symm.trans chain) nonzero
  | cons first rest =>
      rw [chained] at chain
      exact ⟨rest, by rw [← chain.1, isHead]⟩

/-- A call keeps the chains formed and the tables as they are. -/
theorem Subpools.Holds.ofCall {initial : Memory} (laidOut : subpools.LaidOut)
    (holds : subpools.Holds initial (view.memory system.machine) pools)
    (selects : call.Selects subpools initial) (returnsFree : call.ReturnsFree subpools pools)
    (answered : (system.call policy callouts call).Answered) :
    subpools.Holds initial (view.memory (system.call policy callouts call).system.machine)
      (pools.enter policy callouts view system call) := by
  cases System.call_poolEffect view (holds.selects selects) answered with
  | kept uncompleted memory =>
      rw [Pools.enter_uncompleted uncompleted, memory]
      exact holds
  | obtained sizeTable indexTable request completed index_mem nonzero isHead memory =>
      obtain ⟨rest, isFirst⟩ := holds.formed.pool_eq index_mem isHead nonzero
      rw [Pools.enter_obtained request completed, memory, isFirst, List.tail_cons]
      exact holds.take laidOut index_mem isFirst
  | returned sizeTable releaseList request completed index_mem memory =>
      have returnable := returnsFree (call.cpu.general.read 1) (by simp [Call.returned?, request])
      rw [Address.wrap_of_lt returnable.inSpace] at memory
      rw [Pools.enter_returned request completed, memory]
      exact holds.give laidOut index_mem returnable

/-- What a call shows of free storage: the chains are formed after it and share no block, a block
that has been obtained is on none of them, a call that is not completed changes nothing, and the
return of a block to the subpool that it has just been taken from restores the chains. -/
structure Pools.Shows (policy : Policy) (callouts : Callouts Machine Refusal)
    (view : StorageView callouts) (subpools : Subpools) (pools : Pools) (system : System Machine)
    (call : Call) : Prop where
  formed : subpools.Formed (view.memory (system.call policy callouts call).system.machine)
    (pools.enter policy callouts view system call)
  unshared : ∀ index ∈ subpools.indices, ∀ other ∈ subpools.indices, index ≠ other →
    ∀ block ∈ pools.enter policy callouts view system call index,
      block ∉ pools.enter policy callouts view system call other
  selected : (system.call policy callouts call).result = .ok .completed →
    (view.memory system.machine).byte call.indexPlace ∈ subpools.indices
  obtained : ∀ sizeTable indexTable, call.request = .freex sizeTable indexTable →
    (system.call policy callouts call).result = .ok .completed →
    (∃ rest, pools ((view.memory system.machine).byte call.indexPlace) =
      (system.call policy callouts call).system.cpu.general.read 1 :: rest) ∧
    ∀ index ∈ subpools.indices, (system.call policy callouts call).system.cpu.general.read 1 ∉
      pools.enter policy callouts view system call index
  kept : (system.call policy callouts call).result ≠ .ok .completed →
    view.memory (system.call policy callouts call).system.machine = view.memory system.machine
  restored : ∀ sizeTable indexTable, call.request = .freex sizeTable indexTable →
    (system.call policy callouts call).result = .ok .completed →
    ∀ (next : Call) (sizeTable releaseList : UInt32),
      next.request = .fretx sizeTable releaseList →
      ((system.call policy callouts call).system.call policy callouts next).result =
        .ok .completed →
      next.cpu.general.read 1 =
        (system.call policy callouts call).system.cpu.general.read 1 →
      (view.memory (system.call policy callouts call).system.machine).byte next.indexPlace =
        (view.memory system.machine).byte call.indexPlace →
      (pools.enter policy callouts view system call).enter policy callouts view
        (system.call policy callouts call).system next = pools

/-- A block that has been taken off its chain is on no chain any more. -/
theorem Subpools.Formed.not_mem_taken {memory : Memory} (formed : subpools.Formed memory pools)
    {index : UInt8} {block : UInt32} {rest : List UInt32} (index_mem : index ∈ subpools.indices)
    (isFirst : pools index = block :: rest) {other : UInt8} (other_mem : other ∈ subpools.indices) :
    block ∉ pools.set index rest other := by
  by_cases same : other = index
  · have distinct := formed.distinct index index_mem
    rw [isFirst, List.nodup_cons] at distinct
    rw [same, Pools.set_self]
    exact distinct.1
  · rw [Pools.set_of_ne same]
    exact formed.not_mem index_mem other_mem (Ne.symm same) (by simp [isFirst])

theorem Subpools.Holds.shows {initial : Memory} (laidOut : subpools.LaidOut)
    (holds : subpools.Holds initial (view.memory system.machine) pools)
    (selects : call.Selects subpools initial) (returnsFree : call.ReturnsFree subpools pools)
    (answered : (system.call policy callouts call).Answered) :
    pools.Shows policy callouts view subpools system call := by
  have formed := (holds.ofCall laidOut selects returnsFree answered).formed
  have unshared : ∀ index ∈ subpools.indices, ∀ other ∈ subpools.indices, index ≠ other →
      ∀ block ∈ pools.enter policy callouts view system call index,
        block ∉ pools.enter policy callouts view system call other :=
    fun index index_mem other other_mem different _ block_mem =>
      formed.not_mem index_mem other_mem different block_mem
  cases System.call_poolEffect view (holds.selects selects) answered with
  | kept uncompleted memory =>
      exact {
        formed, unshared
        selected completed := absurd completed uncompleted
        obtained _ _ _ completed := absurd completed uncompleted
        kept _ := memory
        restored _ _ _ completed := absurd completed uncompleted }
  | obtained sizeTable indexTable request completed index_mem nonzero isHead memory =>
      obtain ⟨rest, isFirst⟩ := holds.formed.pool_eq index_mem isHead nonzero
      refine {
        formed, unshared
        selected _ := index_mem
        obtained _ _ _ _ := ⟨⟨rest, isFirst⟩, fun other other_mem => ?_⟩
        kept uncompleted := absurd completed uncompleted
        restored _ _ _ _ next nextTable nextList isReturn nextCompleted sameBlock sameIndex := ?_ }
      · rw [Pools.enter_obtained request completed, isFirst, List.tail_cons]
        exact holds.formed.not_mem_taken index_mem isFirst other_mem
      · rw [Pools.enter_returned isReturn nextCompleted, sameIndex, sameBlock,
          Pools.enter_obtained request completed, Pools.set_self, isFirst, List.tail_cons,
          ← isFirst, Pools.set_set_self]
  | returned sizeTable releaseList request completed index_mem memory =>
      exact {
        formed, unshared
        selected _ := index_mem
        obtained _ _ isRequest _ := by simp [request] at isRequest
        kept uncompleted := absurd completed uncompleted
        restored _ _ isRequest _ := by simp [request] at isRequest }

namespace System

/-- Along every run of requests for free storage and returns by a size table the subpools are stacks
that neither lose a block nor hold one twice. -/
theorem subpools_formed (view : StorageView callouts) {calls : List Call}
    (laidOut : subpools.LaidOut) (formed : subpools.Formed (view.memory system.machine) pools)
    (selects : ∀ call ∈ calls, call.Selects subpools (view.memory system.machine))
    (returnsFree : system.Throughout policy callouts (Pools.enter policy callouts view)
      (fun pools before call =>
        (before.call policy callouts call).Answered ∧ call.ReturnsFree subpools pools)
      pools calls) :
    system.Throughout policy callouts (Pools.enter policy callouts view)
        (Pools.Shows policy callouts view subpools) pools calls ∧
      subpools.Formed (view.memory (system.callAll policy callouts calls).machine)
        (system.account policy callouts (Pools.enter policy callouts view) pools calls) := by
  have step : ∀ (pools : Pools) (before : System Machine), ∀ call ∈ calls,
      subpools.Holds (view.memory system.machine) (view.memory before.machine) pools →
      ((before.call policy callouts call).Answered ∧ call.ReturnsFree subpools pools) →
      pools.Shows policy callouts view subpools before call ∧
        subpools.Holds (view.memory system.machine)
          (view.memory (before.call policy callouts call).system.machine)
          (pools.enter policy callouts view before call) :=
    fun pools before call call_mem holds ⟨answered, returnsFree⟩ =>
      ⟨holds.shows laidOut (selects call call_mem) returnsFree answered,
        holds.ofCall laidOut (selects call call_mem) returnsFree answered⟩
  have initial : subpools.Holds (view.memory system.machine) (view.memory system.machine) pools :=
    ⟨formed, fun _ _ _ _ => rfl⟩
  obtain ⟨shows, final⟩ := throughout_of_invariant step initial returnsFree
  exact ⟨shows, final.formed⟩

/-- A size table at 1000 whose subpool of single doublewords has two blocks, the first at 5000, and
whose subpool of pairs is empty. -/
def freeSystem : System Memory where
  registry := Registry.initial true false
  cpu := Cpu.initial
  machine :=
    (((((Memory.zero.store 0x1000 [0, 0, 0, 10, 0, 0, 0x50, 0]).store 0x2000 [0, 0, 0x40, 0]).store
      0x200c [0, 4]).store 0x3001 [0, 4]).store 0x4058 [2]).store 0x5000 [0, 0, 0x50, 0x10]

/-- The two subpools. -/
def freeSubpools : Subpools where
  sizeTable := 0x1000
  indices := [0, 4]
  indexTables := [⟨0x3000, 11⟩, ⟨0x200b, 11⟩]

/-- A call of the control program with a size and a block in general registers 0 and 1. -/
def freeCall (count block : UInt32) (request : Request) : Call where
  cpu :=
    { Cpu.initial with
      general := ((RegisterFile.zero.load 0 count).load 1 block).load 14 0x400
      control := RegisterFile.zero.load 6 0x02000000 }
  request

/-- Both single doublewords are obtained, and a third one in vain. The first is then returned, and
the second is returned as if it were the first of a pair. -/
def freeCalls : List Call :=
  [freeCall 1 0 (.freex 0x1000 0x3000), freeCall 1 0 (.freex 0x1000 0x3000),
    freeCall 1 0 (.freex 0x1000 0x3000), freeCall 1 0x5000 (.fretx 0x1000 0x2000),
    freeCall 2 0x5010 (.fretx 0x1000 0x2000)]

/-- The chains at first. -/
def freePools : Pools :=
  Pools.set (fun _ => []) 0 [0x5000, 0x5010]

theorem freePools_formed :
    freeSubpools.Formed (Memory.storageView.memory freeSystem.machine) freePools where
  chain := by decide +kernel
  admits := by decide +kernel
  distinct := by decide +kernel
  apart := by decide +kernel

/-- The run leaves each subpool with one of the blocks. -/
theorem freeSystem_formed :
    freeSystem.Throughout .splitKeys Memory.callouts
        (Pools.enter .splitKeys Memory.callouts Memory.storageView)
        (Pools.Shows .splitKeys Memory.callouts Memory.storageView freeSubpools) freePools
        freeCalls ∧
      freeSubpools.Formed
        (Memory.storageView.memory
          (freeSystem.callAll .splitKeys Memory.callouts freeCalls).machine)
        (freeSystem.account .splitKeys Memory.callouts
          (Pools.enter .splitKeys Memory.callouts Memory.storageView) freePools freeCalls) ∧
      freeSubpools.indices.map (freeSystem.account .splitKeys Memory.callouts
        (Pools.enter .splitKeys Memory.callouts Memory.storageView) freePools freeCalls) =
          [[0x5000], [0x5010]] := by
  have laidOut : freeSubpools.LaidOut := ⟨by decide, by decide⟩
  have selects : ∀ call ∈ freeCalls,
      call.Selects freeSubpools (Memory.storageView.memory freeSystem.machine) := by
    decide +kernel
  have returnsFree : freeSystem.Throughout .splitKeys Memory.callouts
      (Pools.enter .splitKeys Memory.callouts Memory.storageView)
      (fun pools before call =>
        (before.call .splitKeys Memory.callouts call).Answered ∧
          call.ReturnsFree freeSubpools pools)
      freePools freeCalls := by
    decide +kernel
  obtain ⟨shows, formed⟩ := subpools_formed Memory.storageView laidOut freePools_formed selects
    returnsFree
  exact ⟨shows, formed, by decide +kernel⟩

end System

end Calls

end Assist370
