import Assist370.Proofs.JournalRuns
import Assist370.Proofs.PlainMachine

/-!
# Instructions that fail

An instruction fails when a callout is refused. Then the registers are those before it but for the
address of the virtual interval timer, nothing has been counted as a hit and the lookaside buffer
has not been emptied. Storage is as before unless the refused callout is a store: the runs of the
journal before that one have been stored, although each run had been probed before any of them was
(`System.perform_failed`).
-/

namespace Assist370

variable {Machine Refusal : Type}

namespace Journal

/-- The runs of a journal lie apart from each other. -/
theorem runs_apart {journal : Journal} (inSpace : journal.InSpace) :
    journal.runs.Pairwise fun earlier later => earlier.region.Apart later.region := by
  have runs_inSpace := inSpace_of_mem_runs inSpace
  refine (runs_partition inSpace).apart.imp_of_mem ?_
  intro earlier later earlier_mem later_mem below
  have earlier_inSpace := runs_inSpace earlier earlier_mem
  have later_inSpace := runs_inSpace later later_mem
  intro place inEarlier inLater
  have earlier_lt := earlier.start.toNat_lt
  have later_lt := later.start.toNat_lt
  simp only [Run.stop, Run.region, Run.InSpace, Region.Contains, Region.distance_eq,
    Address.space] at *
  omega

namespace Run

/-- The bytes of the run stand where it would be stored. -/
def IsIn (run : Run) (memory : Memory) : Prop :=
  ∀ index (index_lt : index < run.bytes.length),
    memory.byte (run.start + UInt32.ofNat index) = run.bytes[index]

theorem IsIn.congr {run : Run} {memory other : Memory}
    (same : ∀ place, memory.byte place = other.byte place) :
    run.IsIn memory ↔ run.IsIn other := by
  simp only [IsIn, same]

/-- To store a run changes nothing if and only if its bytes stand there already. -/
theorem isIn_iff {run : Run} (inSpace : run.InSpace) (memory : Memory) :
    run.IsIn memory ↔
      ∀ place, (memory.store run.start run.bytes).byte place = memory.byte place := by
  have fits : run.bytes.length ≤ Address.space := Nat.le_trans (Nat.le_add_left _ _) inSpace
  constructor
  · intro isIn place
    by_cases inRun : run.region.Contains place
    · have index_lt : Region.distance run.start place < run.bytes.length := inRun
      have start_lt := run.start.toNat_lt
      have place_lt := place.toNat_lt
      have samePlace : Address.wrap place =
          Address.wrap (run.start + UInt32.ofNat (Region.distance run.start place)) := by
        apply UInt32.toNat_inj.mp
        simp only [Region.distance_eq, Address.toNat_wrap, UInt32.toNat_add, UInt32.toNat_ofNat',
          Address.space]
        omega
      rw [Memory.byte_congr _ samePlace, Memory.byte_congr _ samePlace,
        memory.byte_store_add run.start run.bytes index_lt fits]
      exact (isIn _ index_lt).symm
    · exact memory.byte_store_of_not_contains run.start run.bytes inRun
  · intro same index index_lt
    rw [← same, memory.byte_store_add run.start run.bytes index_lt fits]

theorem byte_storeAll_of_apart {runs : List Run} {place : UInt32}
    (outside : ∀ run ∈ runs, ¬run.region.Contains place) (memory : Memory) :
    (storeAll runs memory).byte place = memory.byte place := by
  induction runs generalizing memory with
  | nil => rfl
  | cons run runs ih =>
      have kept := memory.byte_store_of_not_contains run.start run.bytes (outside run (by simp))
      rw [← kept]
      exact ih (fun other other_mem => outside other (by simp [other_mem])) _

/-- Runs apart from each other change nothing if and only if each of them stands there already. -/
theorem storeAll_same_iff {runs : List Run}
    (inSpace : ∀ run ∈ runs, run.InSpace)
    (apart : runs.Pairwise fun earlier later => earlier.region.Apart later.region)
    (memory : Memory) :
    (∀ place, (storeAll runs memory).byte place = memory.byte place) ↔
      ∀ run ∈ runs, run.IsIn memory := by
  induction runs generalizing memory with
  | nil => simp [storeAll]
  | cons run runs ih =>
      obtain ⟨apartFromRest, restApart⟩ := List.pairwise_cons.mp apart
      have tail := ih (fun other other_mem => inSpace other (by simp [other_mem])) restApart
        (memory.store run.start run.bytes)
      constructor
      · intro same
        -- The later runs are apart from the first, so what the first has changed is still there.
        have first : ∀ place,
            (memory.store run.start run.bytes).byte place = memory.byte place := by
          intro place
          by_cases inRun : run.region.Contains place
          · rw [← byte_storeAll_of_apart (fun other other_mem inOther =>
              apartFromRest other other_mem place inRun inOther) (memory.store run.start run.bytes)]
            exact same place
          · exact memory.byte_store_of_not_contains run.start run.bytes inRun
        have rest := tail.mp fun place => (same place).trans (first place).symm
        intro other other_mem
        rcases List.mem_cons.mp other_mem with rfl | inRest
        · exact (isIn_iff (inSpace _ (by simp)) memory).mpr first
        · exact (IsIn.congr first).mp (rest other inRest)
      · intro isIn place
        have first := (isIn_iff (inSpace run (by simp)) memory).mp (isIn run (by simp))
        have rest := tail.mpr fun other other_mem =>
          (IsIn.congr first).mpr (isIn other (by simp [other_mem]))
        exact (rest place).trans (first place)

end Run

end Journal

/-- The result of a response can be computed, as far as it is an error. -/
theorem Response.result_eq_error {response : Response Machine Refusal}
    {error : AccessError Refusal}
    (computed : (match response.result with
      | .error error => some error
      | .ok _ => none) = some error) :
    response.result = .error error := by
  cases result : response.result with
  | error found => simpa [result] using computed
  | ok outcome => simp [result] at computed

/-- The run that a callout stores. -/
def Callout.run? : Callout → Option Journal.Run
  | writeReal start bytes => some ⟨start, bytes⟩
  | readReal .. | storageKey _ | translate .. | purgeTlb => none

namespace Memory

/-- The callouts of a machine that is its storage and refuses to store into a region. -/
def protecting (region : Region) : Callouts Memory Unit where
  readReal address length memory := (.ok (memory.bytes address length), memory)
  writeReal address bytes memory :=
    if Region.Apart ⟨address, bytes.length⟩ region then
      (.ok (), memory.store address bytes)
    else
      (.error (), memory)
  storageKey _ memory := (.ok ⟨0⟩, memory)
  translate _ _ address memory := (.ok (.ok address), memory)
  purgeTlb memory := memory

theorem protecting_writeReal (region : Region) (address : UInt32) (bytes : List UInt8)
    (memory : Memory) :
    (protecting region).writeReal address bytes memory =
      if Region.Apart ⟨address, bytes.length⟩ region then
        (.ok (), memory.store address bytes)
      else
        (.error (), memory) :=
  rfl

/-- A machine that is its storage has itself for its storage, and its refusals change nothing. -/
def protectedView (region : Region) : StorageView (protecting region) where
  memory machine := machine
  looks_keep callout machine looks := by
    cases callout with
    | readReal _ _ | storageKey _ | translate _ _ _ => rfl
    | writeReal _ _ | purgeTlb => exact looks.elim
  purge_keep _ := rfl
  readReal _ _ _ _ _ answered := (Except.ok.inj answered).symm
  writeReal address bytes machine _ written := by
    rw [protecting_writeReal] at written ⊢
    split <;> simp_all
  writeReal_refused address bytes machine refusal place _ refused := by
    rw [protecting_writeReal] at refused ⊢
    split <;> simp_all

theorem protectedView_refusesWhole (region : Region) : (protectedView region).RefusesWhole := by
  intro address bytes machine refusal _ refused
  simp only [protecting_writeReal] at refused ⊢
  split <;> simp_all

end Memory

namespace System

/-- The runs that callouts have been made for to store them. -/
def storesMade (policy : Policy) (callouts : Callouts Machine Refusal) (system : System Machine)
    (request : Request) : List Journal.Run :=
  (system.calloutsMade policy callouts request).filterMap Callout.run?

theorem run?_looks {looks : List Callout} (onlyLooks : ∀ callout ∈ looks, callout.Looks) :
    looks.filterMap Callout.run? = [] := by
  rw [List.filterMap_eq_nil_iff]
  intro callout callout_mem
  have looks := onlyLooks callout callout_mem
  cases callout with
  | writeReal _ _ => exact looks.elim
  | readReal _ _ | storageKey _ | translate _ _ _ | purgeTlb => rfl

theorem run?_storing (stores : List Journal.Run) :
    (stores.map Journal.Run.storing).filterMap Callout.run? = stores := by
  rw [List.filterMap_map]
  exact List.filterMap_some

/-- An instruction that fails leaves its registers, but for the timer's address, counts no hit and
does not empty the lookaside buffer. It has stored those runs of its journal that stand before the
refused store, and so has left storage as it was if and only if these stood there already. -/
theorem perform_failed (policy : Policy) (callouts : Callouts Machine Refusal)
    (system : System Machine) (request : Request) {error : AccessError Refusal}
    (failed : (system.perform policy callouts request).result = .error error) :
    (∃ timer, (system.perform policy callouts request).system.cpu =
        { system.cpu with virtualTimerAddress := timer } ∧
        (request.assist.family = .cp → timer = system.cpu.virtualTimerAddress)) ∧
      (∀ assist, ((system.perform policy callouts request).system.registry.entry assist).hits =
        (system.registry.entry assist).hits) ∧
      .purgeTlb ∉ system.calloutsMade policy callouts request ∧
      system.storesMade policy callouts request <+:
        (system.ran policy callouts request).2.journal.runs ∧
      (∀ run, (system.storesMade policy callouts request).getLast? = some run →
        ∃ refusal, error = .storage run.start .write refusal) ∧
      ∀ view : StorageView callouts, view.RefusesWhole →
        view.memory (system.perform policy callouts request).system.machine =
          Journal.Run.storeAll (system.storesMade policy callouts request).dropLast
            (view.memory system.machine) ∧
        ((∀ place, (view.memory (system.perform policy callouts request).system.machine).byte
            place = (view.memory system.machine).byte place) ↔
          ∀ run ∈ (system.storesMade policy callouts request).dropLast,
            run.IsIn (view.memory system.machine)) := by
  have inSpace : (system.ran policy callouts request).2.journal.InSpace :=
    Microcode.run_inSpace callouts _ Journal.inSpace_empty
  have conduct := system.perform_conduct policy callouts request
  have notPurged : .purgeTlb ∉ system.calloutsMade policy callouts request := by
    intro purge_mem
    obtain ⟨completion, completed, -⟩ := conduct.purge_of_mem purge_mem
    simp [failed] at completed
  simp only [storesMade]
  generalize system.calloutsMade policy callouts request = made at conduct notPurged
  generalize system.perform policy callouts request = response at conduct failed
  cases conduct with
  | left _ unperformed => simp [failed] at unperformed
  | completed _ result _ _ => simp [failed] at result
  | @failed looks stores error onlyLooks result registry cpu fromJournal lastRefused stored =>
      rw [failed, Except.error.injEq] at result
      rw [List.filterMap_append, run?_looks onlyLooks, run?_storing, List.nil_append, result]
      refine ⟨cpu, fun assist => ?_, notPurged, fromJournal, lastRefused, fun view whole => ?_⟩
      · rw [registry, Registry.recordCall, Registry.entry_modify]
        split
        · rename_i same
          rw [same]
        · rfl
      · have apart := (Journal.runs_apart inSpace).sublist
          ((List.dropLast_sublist stores).trans fromJournal.sublist)
        rw [stored view whole]
        refine ⟨rfl, Journal.Run.storeAll_same_iff (fun run run_mem => ?_) apart _⟩
        exact Journal.inSpace_of_mem_runs inSpace run
          (fromJournal.subset (List.dropLast_subset stores run_mem))

/-- A system that returns the block at address 5000 to the subpool whose first block is at 1004. -/
def releasingBlock : System Memory where
  registry := Registry.initial true false
  cpu :=
    { Cpu.initial with
      general := ((RegisterFile.zero.load 0 1).load 1 0x5000).load 14 0x400
      control := RegisterFile.zero.load 6 0x02000000 }
  machine :=
    ((Memory.zero.store 0x1000 [0, 0, 0, 0x0a]).store 0x2000 [0, 0, 0x30, 0]).store 0x3058 [2]

/-- The block itself cannot be stored into. -/
def protectedBlock : Region :=
  ⟨0x5000, 4⟩

theorem releasingBlock_error :
    (releasingBlock.perform .splitKeys (Memory.protecting protectedBlock)
      (.fretx 0x1000 0x2000)).result = .error (.storage 0x5000 .write ()) :=
  Response.result_eq_error (by decide +kernel)

/-- The word in front of the refused one has been stored, and the rest is as it was. -/
theorem releasingBlock_failed :
    (releasingBlock.perform .splitKeys (Memory.protecting protectedBlock)
        (.fretx 0x1000 0x2000)).system.cpu = releasingBlock.cpu ∧
      (releasingBlock.perform .splitKeys (Memory.protecting protectedBlock)
        (.fretx 0x1000 0x2000)).system.machine =
          releasingBlock.machine.store 0x1004 [0, 0, 0x50, 0] ∧
      ¬∀ place, ((releasingBlock.perform .splitKeys (Memory.protecting protectedBlock)
        (.fretx 0x1000 0x2000)).system.machine).byte place =
          releasingBlock.machine.byte place := by
  obtain ⟨⟨timer, cpu, kept⟩, -, -, -, -, stored⟩ :=
    perform_failed .splitKeys (Memory.protecting protectedBlock) releasingBlock
      (.fretx 0x1000 0x2000) releasingBlock_error
  obtain ⟨memory, same_iff⟩ :=
    stored (Memory.protectedView protectedBlock) (Memory.protectedView_refusesWhole _)
  have stores : releasingBlock.storesMade .splitKeys (Memory.protecting protectedBlock)
      (.fretx 0x1000 0x2000) = [⟨0x1004, [0, 0, 0x50, 0]⟩, ⟨0x5000, [0, 0, 0, 0]⟩] := by
    decide +kernel
  rw [stores] at memory same_iff
  refine ⟨?_, memory, fun same => ?_⟩
  · rw [cpu, kept rfl]
  · have isIn := same_iff.mp same _ List.mem_cons_self 2 (by decide)
    exact absurd isIn (by decide +kernel)

/-- An instruction can fail and leave storage changed. -/
theorem releasingBlock_stored :
    (releasingBlock.perform .splitKeys (Memory.protecting protectedBlock)
        (.fretx 0x1000 0x2000)).result = .error (.storage 0x5000 .write ()) ∧
      releasingBlock.machine.byte 0x1006 = 0 ∧
      ((releasingBlock.perform .splitKeys (Memory.protecting protectedBlock)
        (.fretx 0x1000 0x2000)).system.machine).byte 0x1006 = 0x50 :=
  ⟨releasingBlock_error, by decide +kernel, by decide +kernel⟩

end System

end Assist370
