import Assist370.Proofs.Failure
import Assist370.Proofs.PendingFlag
import Assist370.Proofs.PswMoves

/-!
# Loads of control registers that fail

A completion stores the runs of its journal one after the other, and may be refused in the midst of
them. Every run but the last ends at an address that has not been stored at, below others that have
(`Journal.runs_endInGap`). What LOAD CONTROL stores has no such gap from the word of register 12 on,
because it loads no register between 12 and the last one that it loads without loading it. So a
LOAD CONTROL that fails has stored no word from that of register 12 on.
-/

namespace Assist370

namespace RegisterNumber

variable {first last : RegisterNumber}

/-- A range goes on from its first register as far as to its last one. -/
theorem mem_range {register : RegisterNumber} : register ∈ range first last ↔
    (register.val + 16 - first.val) % 16 ≤ (last.val + 16 - first.val) % 16 := by
  simp only [range, rangeLength, ofNat, List.mem_map, List.mem_range, Fin.ext_iff, Fin.val_ofNat]
  constructor
  · rintro ⟨index, index_lt, same⟩
    omega
  · intro inside
    exact ⟨(register.val + 16 - first.val) % 16, by omega, by omega⟩

/-- From register 12 on, a range that does not come to register 1 has no gap. -/
theorem mem_range_of_between (barred : 1 ∉ range first last)
    {register between other : RegisterNumber} (inRange : register ∈ range first last)
    (high : 12 ≤ register.val) (otherInRange : other ∈ range first last)
    (above : register.val ≤ between.val) (below : between.val ≤ other.val) :
    between ∈ range first last := by
  have one : (1 : RegisterNumber).val = 1 := rfl
  rw [mem_range] at *
  omega

end RegisterNumber

namespace Journal

namespace Run

/-- The run ends where nothing has been stored, below an address where something has. -/
structure EndsInGap (entries : List (UInt32 × UInt8)) (run : Run) : Prop where
  free : ∀ entry ∈ entries, entry.1.toNat ≠ run.stop
  below : ∃ entry ∈ entries, run.stop < entry.1.toNat

end Run

/-- Every run but the last ends in a gap. -/
theorem runs_endInGap {journal : Journal} (inSpace : journal.InSpace) :
    ∀ run ∈ journal.runs.dropLast, run.EndsInGap journal.entries := by
  intro run run_mem
  have partition := runs_partition inSpace
  have nonempty : journal.runs ≠ [] := by
    intro none
    simp [none] at run_mem
  rcases List.mem_iff_append.mp run_mem with ⟨front, back, isFront⟩
  have split : journal.runs = front ++ run :: (back ++ [journal.runs.getLast nonempty]) := by
    rw [← List.cons_append, ← List.append_assoc, ← isFront, List.dropLast_concat_getLast]
  generalize journal.runs.getLast nonempty = last at split
  rw [split] at partition
  rcases List.pairwise_append.mp partition.apart with ⟨-, laterApart, earlierApart⟩
  have runBelow := (List.pairwise_cons.mp laterApart).1
  constructor
  · intro entry entry_mem same
    rcases (partition.holds entry.1 entry.2).mpr entry_mem with ⟨other, other_mem, isHeld⟩
    have has := Run.has_iff.mpr ⟨_, isHeld⟩
    -- A run with this entry would lie behind the run without a gap between the two.
    simp only [Run.Has, same] at has
    rcases List.mem_append.mp other_mem with earlier | atOrAfter
    · have below := earlierApart other earlier run List.mem_cons_self
      simp only [Run.stop] at has below
      omega
    · rcases List.mem_cons.mp atOrAfter with rfl | later
      · exact Nat.lt_irrefl _ has.2
      · have below := runBelow other later
        omega
  · rcases partition.start_mem (show last ∈ _ by simp) with ⟨byte, start_mem⟩
    exact ⟨_, start_mem, runBelow last (by simp)⟩

/-- From a place up to the last address that has been stored at, all have been stored at. -/
def FilledFrom (journal : Journal) (place : UInt32) : Prop :=
  ∀ entry ∈ journal.entries, ∀ between : UInt32, place.toNat ≤ between.toNat →
    between.toNat < entry.1.toNat → ∃ byte, (between, byte) ∈ journal.entries

/-- What is stored from such a place on is stored last. -/
theorem FilledFrom.inLast {journal : Journal} {place : UInt32} (filled : journal.FilledFrom place)
    (inSpace : journal.InSpace) (place_lt : place.toNat < Address.space) :
    ∀ run ∈ journal.runs.dropLast, ¬run.region.Contains place := by
  intro run run_mem inRun
  obtain ⟨free, entry, entry_mem, stop_lt⟩ := runs_endInGap inSpace run run_mem
  have run_inSpace := inSpace_of_mem_runs inSpace run (List.dropLast_subset _ run_mem)
  have start_lt := run.start.toNat_lt
  have entry_lt := inSpace entry entry_mem
  have isStop : (UInt32.ofNat run.stop).toNat = run.stop := by
    simp only [UInt32.toNat_ofNat', Address.space] at *
    omega
  have place_le : place.toNat ≤ run.stop := by
    simp only [Run.stop, Run.region, Run.InSpace, Region.Contains, Region.distance_eq,
      Address.space] at *
    omega
  obtain ⟨byte, between_mem⟩ :=
    filled entry entry_mem (UInt32.ofNat run.stop) (by omega) (by omega)
  exact free _ between_mem isStop

theorem Spares.store {journal : Journal} {region : Region} (spares : journal.Spares region)
    {address : UInt32} {bytes : List UInt8} (apart : Region.Apart ⟨address, bytes.length⟩ region) :
    (journal.store address bytes).Spares region := by
  induction bytes generalizing journal address with
  | nil => exact spares
  | cons byte bytes ih =>
      have address_lt := address.toNat_lt
      refine ih (fun entry entry_mem => ?_) fun place behind => apart place ?_
      · rcases address_of_mem_insertEntry entry_mem with same | old
        · rw [same, Region.contains_wrap]
          apply apart
          simp only [Region.Contains, Region.distance_eq, List.length_cons, Address.space]
          omega
        · exact spares entry old
      · have place_lt := place.toNat_lt
        simp only [Region.Contains, Region.distance_eq, List.length_cons, UInt32.toNat_add,
          Address.space] at *
        simp at *
        omega

/-- The journal after shadow registers have been put into their places. -/
def storeShadow (address : UInt32) (shadow : RegisterFile) :
    List RegisterNumber → Journal → Journal
  | [], journal => journal
  | register :: rest, journal =>
      storeShadow address shadow rest
        (journal.store (address + ((Field.first : Field UInt32).item register).offset)
          (Stored.encode (shadow.read register)).toList)

section

variable {address : UInt32} {shadow : RegisterFile} {range : List RegisterNumber}
  {journal : Journal} {region : Region}

theorem inSpace_storeShadow (inSpace : journal.InSpace) :
    (journal.storeShadow address shadow range).InSpace := by
  induction range generalizing journal with
  | nil => exact inSpace
  | cons register rest ih => exact ih (inSpace_store inSpace _ _)

theorem Spares.storeShadow (spares : journal.Spares region)
    (apart : ∀ register ∈ range,
      (Region.ofField address ((Field.first : Field UInt32).item register)).Apart region) :
    (journal.storeShadow address shadow range).Spares region := by
  induction range generalizing journal with
  | nil => exact spares
  | cons register rest ih =>
      refine ih (spares.store ?_) fun other other_mem =>
        apart other (List.mem_cons_of_mem _ other_mem)
      rw [Vector.length_toList]
      exact apart register (by simp)

theorem Covers.storeShadow (covers : journal.Covers region) :
    (journal.storeShadow address shadow range).Covers region := by
  induction range generalizing journal with
  | nil => exact covers
  | cons register rest ih => exact ih (covers.store _ _)

/-- A word that a shadow register has its place in, within real storage. -/
theorem contains_shadow {register : RegisterNumber} {place : UInt32}
    (address_le : address.toNat + 64 ≤ Address.space) (place_lt : place.toNat < Address.space) :
    (Region.ofField address ((Field.first : Field UInt32).item register)).Contains place ↔
      address.toNat + 4 * register.val ≤ place.toNat ∧
        place.toNat < address.toNat + 4 * register.val + 4 := by
  have offset : ∀ register : RegisterNumber,
      ((Field.first : Field UInt32).item register).offset.toNat = 4 * register.val := by
    decide
  have size : Stored.size UInt32 = 4 := rfl
  have offset := offset register
  have register_lt := register.isLt
  simp only [Region.ofField, Region.Contains, Region.distance_eq, UInt32.toNat_add, Address.space,
    offset, size] at *
  omega

theorem covers_storeShadow : ∀ register ∈ range,
    (journal.storeShadow address shadow range).Covers
      (.ofField address ((Field.first : Field UInt32).item register)) := by
  induction range generalizing journal with
  | nil => simp
  | cons head rest ih =>
      refine List.forall_mem_cons.mpr ⟨?_, ih⟩
      have covers := journal.covers_store
        (address + ((Field.first : Field UInt32).item head).offset)
        (Stored.encode (shadow.read head)).toList
      rw [Vector.length_toList] at covers
      exact covers.storeShadow

/-- The shadow registers of a range that does not come to register 1 leave no gap from the word of
register 12 on. -/
theorem filledFrom_storeShadow {first last register : RegisterNumber} {place : UInt32}
    (address_le : address.toNat + 64 ≤ Address.space)
    (barred : 1 ∉ RegisterNumber.range first last)
    (inRange : register ∈ RegisterNumber.range first last) (high : 12 ≤ register.val)
    (place_lt : place.toNat < Address.space)
    (inWord :
      (Region.ofField address ((Field.first : Field UInt32).item register)).Contains place) :
    (empty.storeShadow address shadow (RegisterNumber.range first last)).FilledFrom place := by
  intro entry entry_mem between place_le between_lt
  have entry_lt := inSpace_storeShadow inSpace_empty entry entry_mem
  obtain ⟨other, other_mem, inOther⟩ : ∃ other ∈ RegisterNumber.range first last,
      (Region.ofField address ((Field.first : Field UInt32).item other)).Contains entry.1 := by
    refine Classical.byContradiction fun none => ?_
    simp only [not_exists, not_and] at none
    have spares : (empty.storeShadow address shadow (RegisterNumber.range first last)).Spares
        ⟨entry.1, 1⟩ :=
      Spares.storeShadow (by simp [Spares, empty]) fun other other_mem =>
        Region.apart_one (none other other_mem)
    exact spares entry entry_mem (Region.contains_one.mpr rfl)
  have inBetween : between.toNat < Address.space := Nat.lt_trans between_lt entry_lt
  rw [contains_shadow address_le place_lt] at inWord
  rw [contains_shadow address_le entry_lt] at inOther
  have other_lt := other.isLt
  let middle : RegisterNumber := ⟨(between.toNat - address.toNat) / 4, by omega⟩
  have isMiddle : middle.val = (between.toNat - address.toNat) / 4 := rfl
  have middle_mem : middle ∈ RegisterNumber.range first last :=
    RegisterNumber.mem_range_of_between barred inRange high other_mem (by omega) (by omega)
  have covered : ((empty.storeShadow address shadow (RegisterNumber.range first last)).find?
      (Address.wrap between)).isSome :=
    covers_storeShadow middle middle_mem between
      ((contains_shadow address_le inBetween).mpr (by omega))
  rw [Address.wrap_of_lt inBetween] at covered
  obtain ⟨byte, found⟩ := Option.isSome_iff_exists.mp covered
  obtain ⟨front, back, entries, -⟩ := List.lookup_eq_some_iff.mp found
  exact ⟨byte, by simp [entries]⟩

end

end Journal

namespace GuestContext

open Microcode

/-- What LOAD CONTROL does, once it has the operands, before it changes anything. It comes to the
address of the shadow registers and to the registers as they are to be loaded. -/
def readyControls (extended : Bool) (range : List RegisterNumber) (new : RegisterFile)
    (context : GuestContext) (shadowAddress : UInt32) : Microcode (UInt32 × ControlRegisters) := do
  let shadow ← fetchShadow extended shadowAddress
  let real := (← registers).control
  match ControlRegisters.load { shadow, real } range new context.psw context.pending with
  | .ok loaded => return (shadowAddress, loaded)
  | .error reject =>
      log (.loadRejected reject)
      decline (.loadRejected reject)

/-- What LOAD CONTROL changes. -/
def storeLoad (range : List RegisterNumber) (ready : UInt32 × ControlRegisters) :
    Microcode Completion := do
  modify fun cpu => { cpu with control := ready.2.real }
  storeShadow ready.1 ready.2.shadow range
  return .completed

theorem replaceControls_eq (extended : Bool) (range : List RegisterNumber) (new : RegisterFile)
    (context : GuestContext) (shadowAddress : UInt32) :
    context.replaceControls extended range new shadowAddress =
      context.readyControls extended range new shadowAddress >>= storeLoad range := by
  simp only [replaceControls, readyControls, LawfulMonad.bind_assoc]
  refine bind_congr fun shadow => bind_congr fun cpu => ?_
  generalize ControlRegisters.load _ _ _ _ _ = answer
  cases answer <;> rfl

/-- All that LOAD CONTROL does before it changes anything. -/
def readyLoad (policy : Policy) (first last : RegisterNumber) (address : UInt32)
    (context : GuestContext) : Microcode (UInt32 × ControlRegisters) := do
  require (address &&& 3 == 0) .operandNotAligned
  let extended ← testBits context.vmblok Vmblok.processorStatus Vmblok.extendedMachine
  require (extended || (first == 0 && last == 0)) .basicModeRange
  let range := RegisterNumber.range first last
  let new ← fetchOperands policy address range RegisterFile.zero
  if extended then
    fetchAddress context.vmblok Vmblok.extension >>= context.readyControls extended range new
  else
    context.readyControls extended range new (context.vmblok + Vmblok.extension.offset)

theorem loadControl_eq_ready (policy : Policy) (first last : RegisterNumber) (address : UInt32)
    (context : GuestContext) :
    context.loadControl policy first last address =
      context.readyLoad policy first last address >>=
        storeLoad (RegisterNumber.range first last) := by
  simp only [loadControl_eq, readyLoad, LawfulMonad.bind_assoc]
  iterate 4 refine bind_congr fun _ => ?_
  split
  · rw [LawfulMonad.bind_assoc]
    exact bind_congr fun _ => replaceControls_eq _ _ _ _ _
  · exact replaceControls_eq _ _ _ _ _

variable {known : Knowledge} {scene : Scene}

/-- LOAD CONTROL stores nothing before it is ready. -/
theorem readyLoad_stores (policy : Policy) (first last : RegisterNumber) (address : UInt32)
    (context : GuestContext) :
    (context.readyLoad policy first last address).Takes (Action.StoresWithin []) := by
  have looks : AllowsLooks (Action.StoresWithin []) :=
    ⟨fun _ _ => trivial, fun _ => trivial, fun _ => trivial, trivial⟩
  have ready : ∀ extended range new shadowAddress,
      (context.readyControls extended range new shadowAddress).Takes (Action.StoresWithin []) := by
    intro extended range new shadowAddress
    simp only [readyControls, takes_bind, takes_registers]
    refine ⟨takes_fetchShadow looks.fetch _ _, fun _ _ => ⟨trivial, fun _ _ => ?_⟩⟩
    split <;> simp
  simp [readyLoad, looks, ready]

/-- It is ready with the address of the shadow registers. -/
theorem readyLoad_achieves (isFaithful : known.faithful) (policy : Policy)
    (first last : RegisterNumber) (address : UInt32) (context : GuestContext) :
    (context.readyLoad policy first last address).Achieves known
      (fun ready _ => ready.1 = context.shadowAddress scene.memory) scene := by
  have ready : ∀ extended range new shadowAddress,
      (context.readyControls extended range new shadowAddress).Achieves known
        (fun ready _ => ready.1 = shadowAddress) scene := by
    intro extended range new shadowAddress
    refine achieves_skip fun shadow _ => achieves_skip fun cpu _ => ?_
    dsimp only
    split <;> simp
  simp only [Achieves, readyLoad, ensures_bind, ensures_require]
  refine ⟨fun _ => ?_, fun _ => trivial⟩
  refine ensures_testBits _ _ _ fun extended isExtended => ?_
  obtain rfl : extended = scene.memory.isExtended context.vmblok := isExtended isFaithful
  refine ⟨fun inRange => ?_, fun _ => trivial⟩
  refine fetchOperands_achieves policy address _ _ fun new => ?_
  simp only [ensures_ite, shadowAddress]
  refine ⟨fun extended => ?_, fun basic => ?_⟩
  · refine (ensures_bind _ _).mpr (ensures_fetchAddress _ _ fun found isFound => ?_)
    rw [if_pos extended, ← isFound isFaithful]
    exact ready _ _ _ _
  · rw [if_neg basic]
    exact ready _ _ _ _

/-- LOAD CONTROL from its start to where it is ready. -/
def readyGuest (policy : Policy) (first last : RegisterNumber) (address : UInt32) :
    Microcode (UInt32 × ControlRegisters) := do
  (← lookUp).readyLoad policy first last address

theorem program_loadControl (policy : Policy) (level : UInt32) (first last : RegisterNumber)
    (address : UInt32) :
    ((Request.lctl first last address).program policy level).microcode =
      readyGuest policy first last address >>= storeLoad (RegisterNumber.range first last) := by
  rw [readyGuest, LawfulMonad.bind_assoc]
  exact bind_congr fun context => loadControl_eq_ready policy first last address context

theorem readyGuest_stores (policy : Policy) (first last : RegisterNumber) (address : UInt32) :
    (readyGuest policy first last address).Takes (Action.StoresWithin []) := by
  simp [readyGuest, lookUp, perform, readyLoad_stores]

theorem readyGuest_achieves (isFaithful : known.faithful) (policy : Policy)
    (first last : RegisterNumber) (address : UInt32) :
    (readyGuest policy first last address).Achieves known
      (fun ready _ => ready.1 = (scene.memory.guestContext scene.cpu.assistControl).shadowAddress
        scene.memory) scene := by
  refine (ensures_bind _ _).mpr (lookUp_achieves isFaithful fun timer => ?_)
  exact @readyLoad_achieves known
    { scene with cpu := { scene.cpu with virtualTimerAddress := timer } } isFaithful policy first
    last address _

end GuestContext

section

variable {Machine Refusal : Type} {callouts : Callouts Machine Refusal}

theorem GuestContext.run_storeLoad (range : List RegisterNumber)
    (ready : UInt32 × ControlRegisters) (staging : Staging Machine) :
    ((storeLoad range ready).run callouts staging).2.journal =
      staging.journal.storeShadow ready.1 ready.2.shadow range := by
  have stores : ∀ before : Staging Machine,
      (GuestContext.storeShadow ready.1 ready.2.shadow range >>=
          fun _ => (pure Completion.completed : Microcode Completion)).run callouts before =
        (.done .completed,
          { before with
            journal := before.journal.storeShadow ready.1 ready.2.shadow range }) := by
    induction range with
    | nil => exact fun before => rfl
    | cons register rest ih => exact fun before => ih _
  exact congrArg (·.2.journal) (stores _)

/-- A program that stores nothing leaves the journal alone. -/
theorem Microcode.Takes.journal_eq {α : Type} {program : Microcode α}
    (takes : program.Takes (Action.StoresWithin [])) (staging : Staging Machine) :
    (program.run callouts staging).2.journal = staging.journal := by
  refine takes.keeps (·.journal) (fun action before allowed => ?_) staging
  cases action with
  | store _ _ => simp at allowed
  | storageKey _ | translate _ =>
      simp only [Action.run]
      split <;> rfl
  | fetch _ _ | registers | modify _ | setTimer _ | purgeTlb | handOff _ _ | log _ => rfl

namespace System

open Microcode GuestContext

variable {policy : Policy} {system : System Machine} {first last : RegisterNumber}
  {address : UInt32}

/-- An instruction that fails has not stored what comes last in its journal. -/
theorem byte_of_failed (view : StorageView callouts) (whole : view.RefusesWhole)
    {request : Request} {error : AccessError Refusal}
    (failed : (system.perform policy callouts request).result = .error error) {place : UInt32}
    (filled : (system.ran policy callouts request).2.journal.FilledFrom (Address.wrap place)) :
    (view.memory (system.perform policy callouts request).system.machine).byte place =
      (view.memory system.machine).byte place := by
  have inSpace : (system.ran policy callouts request).2.journal.InSpace :=
    Microcode.run_inSpace callouts _ Journal.inSpace_empty
  have inLast := filled.inLast inSpace (Address.wrap_lt place)
  have conduct := system.perform_conduct policy callouts request
  generalize system.calloutsMade policy callouts request = made at conduct
  generalize system.perform policy callouts request = response at conduct failed
  cases conduct with
  | left _ unperformed => simp [failed] at unperformed
  | completed _ result _ _ => simp [failed] at result
  | failed _ _ _ _ fromJournal _ stored =>
      rw [stored view whole]
      refine Journal.Run.byte_storeAll_of_apart (fun run run_mem inRun => ?_) _
      obtain ⟨rest, isJournal⟩ := fromJournal
      refine inLast run ?_ (Region.contains_wrap.mpr inRun)
      rw [← isJournal, List.dropLast_append]
      split
      · exact run_mem
      · exact List.mem_append_left _ (List.dropLast_subset _ run_mem)

/-- What LOAD CONTROL has stored when its program is done: the shadow registers of its range. -/
theorem journal_of_loadControl (view : StorageView callouts) {completion : Completion}
    {after : Staging Machine}
    (ran : system.ran policy callouts (.lctl first last address) = (.done completion, after)) :
    ∃ shadow, after.journal = Journal.empty.storeShadow
      ((system.virtualMachine view).shadowAddress (view.memory system.machine)) shadow
      (RegisterNumber.range first last) := by
  rw [System.ran, program_loadControl] at ran
  obtain ⟨ready, middle, readied, stored⟩ := run_bind_done ran
  have isReady : ready.1 =
      (system.virtualMachine view).shadowAddress (view.memory system.machine) := by
    have sameCpu : ((system.staging policy (.lctl first last address)).scene
        view.memory).cpu.assistControl = system.cpu.assistControl := rfl
    have sameMemory : ((system.staging policy (.lctl first last address)).scene
        view.memory).memory = view.memory system.machine := by
      rw [scene_staging]
      rfl
    have achieves := @readyGuest_achieves .ofStorage
      ((system.staging policy (.lctl first last address)).scene view.memory) trivial policy first
      last address
    rw [sameCpu, sameMemory] at achieves
    have ends := achieves.run (view.shows system.machine) .refl fun _ _ => trivial
    rw [readied] at ends
    exact ends
  have nothing := @Takes.journal_eq _ _ callouts _ _ (readyGuest_stores policy first last address)
    (system.staging policy (.lctl first last address))
  have journal := @run_storeLoad _ _ callouts (RegisterNumber.range first last) ready middle
  rw [readied] at nothing
  rw [stored, nothing, isReady] at journal
  exact ⟨_, journal⟩

/-- LOAD CONTROL that fails leaves the words of the registers that it would load from register 12
on, if it loads no register behind 15 but register 0, and the shadow registers lie within
storage. -/
theorem loadControl_failed (view : StorageView callouts) (whole : view.RefusesWhole)
    {completion : Completion} {after : Staging Machine} {error : AccessError Refusal}
    (ran : system.ran policy callouts (.lctl first last address) = (.done completion, after))
    (failed : (system.perform policy callouts (.lctl first last address)).result = .error error)
    (address_le : ((system.virtualMachine view).shadowAddress
      (view.memory system.machine)).toNat + 64 ≤ Address.space)
    (barred : 1 ∉ RegisterNumber.range first last) {register : RegisterNumber}
    (inRange : register ∈ RegisterNumber.range first last) (high : 12 ≤ register.val) :
    (view.memory (system.perform policy callouts
        (.lctl first last address)).system.machine).AgreesOn (view.memory system.machine)
      (.ofField ((system.virtualMachine view).shadowAddress (view.memory system.machine))
        ((Field.first : Field UInt32).item register)) := by
  intro place inWord
  obtain ⟨shadow, journal⟩ := journal_of_loadControl view ran
  apply byte_of_failed view whole failed
  rw [ran, journal]
  exact Journal.filledFrom_storeShadow address_le barred inRange high (Address.wrap_lt place)
    (Region.contains_wrap.mpr inWord)

end System

end

end Assist370
