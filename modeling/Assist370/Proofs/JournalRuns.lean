import Mathlib.Data.List.Induction
import Assist370.Proofs.CalloutOrder

/-!
# Runs of a journal

The stores of an assist come to bytes at addresses of real storage, of which the journal keeps the
last at each address. Its runs ascend, with a gap between any two, and hold these bytes and no
others (`Journal.runs_holdStores`). So a completion that is not refused probes such runs first and
then stores them (`Staging.commit_stores`).
-/

namespace Assist370

/-- A store that an assist has staged. -/
structure StagedStore where
  address : UInt32
  bytes : List UInt8
  deriving DecidableEq, Repr

namespace StagedStore

/-- The bytes that the store puts into real storage, each with its address. -/
def places (store : StagedStore) : List (UInt32 × UInt8) :=
  store.bytes.mapIdx fun index byte => (Address.wrap (store.address + UInt32.ofNat index), byte)

theorem places_cons (address : UInt32) (byte : UInt8) (bytes : List UInt8) :
    places ⟨address, byte :: bytes⟩ =
      (Address.wrap address, byte) :: places ⟨address + 1, bytes⟩ := by
  have next : ∀ index : Nat,
      address + UInt32.ofNat (index + 1) = address + 1 + UInt32.ofNat index := by
    intro index
    rw [UInt32.ofNat_add, UInt32.add_comm (UInt32.ofNat index), ← UInt32.add_assoc]
    rfl
  simp only [places, List.mapIdx_cons, next]
  exact congrArg (fun place => (Address.wrap place, byte) :: _) (UInt32.add_zero address)

end StagedStore

/-- The byte is the last one at the address. -/
def LastAt (places : List (UInt32 × UInt8)) (place : UInt32) (byte : UInt8) : Prop :=
  ∃ earlier later, places = earlier ++ (place, byte) :: later ∧ ∀ other ∈ later, other.1 ≠ place

namespace LastAt

variable {places : List (UInt32 × UInt8)} {place : UInt32} {byte : UInt8}

theorem concat_iff {last : UInt32 × UInt8} :
    LastAt (places ++ [last]) place byte ↔
      if place = last.1 then last.2 = byte else LastAt places place byte := by
  constructor
  · rintro ⟨earlier, later, split, others⟩
    rcases List.eq_nil_or_concat later with rfl | ⟨rest, final, rfl⟩
    · rcases List.append_inj' split rfl with ⟨-, same⟩
      cases same
      exact (if_pos rfl).mpr rfl
    · rw [List.concat_eq_append] at split others
      rw [← List.cons_append, ← List.append_assoc] at split
      rcases List.append_inj' split rfl with ⟨rfl, same⟩
      cases same
      rw [if_neg (others last (by simp)).symm]
      exact ⟨earlier, rest, rfl, fun other other_mem => others other (by simp [other_mem])⟩
  · split
    · rename_i same
      intro isByte
      refine ⟨places, [], ?_, by simp⟩
      rw [same, ← isByte]
    · rename_i different
      rintro ⟨earlier, later, rfl, others⟩
      refine ⟨earlier, later ++ [last], by simp, fun other other_mem => ?_⟩
      rcases List.mem_append.mp other_mem with old | new
      · exact others other old
      · rw [List.mem_singleton.mp new]
        exact Ne.symm different

/-- There is a last byte at every address that there is a byte at. -/
theorem exists_iff : (∃ byte, LastAt places place byte) ↔ place ∈ places.map Prod.fst := by
  induction places using List.reverseRecOn with
  | nil => simp [LastAt]
  | append_singleton places last ih =>
      simp only [concat_iff, List.map_append, List.mem_append, ← ih, List.map_singleton,
        List.mem_singleton]
      by_cases same : place = last.1
      · simp [same]
      · simp [same]

end LastAt

namespace Journal

/-- The journal after further stores. -/
def stage (journal : Journal) (stores : List StagedStore) : Journal :=
  stores.foldl (fun journal store => journal.store store.address store.bytes) journal

/-- The journal of an assist that has made stores. -/
def ofStores (stores : List StagedStore) : Journal :=
  empty.stage stores

/-- The journal with bytes put at addresses, one after the other. -/
def insertAll (journal : Journal) (places : List (UInt32 × UInt8)) : Journal :=
  places.foldl (fun journal place => journal.insert place.1 place.2) journal

theorem store_eq_insertAll (journal : Journal) (address : UInt32) (bytes : List UInt8) :
    journal.store address bytes = journal.insertAll (StagedStore.places ⟨address, bytes⟩) := by
  induction bytes generalizing journal address with
  | nil => rfl
  | cons byte bytes ih =>
      rw [store, ih, StagedStore.places_cons]
      rfl

theorem stage_eq_insertAll (journal : Journal) (stores : List StagedStore) :
    journal.stage stores = journal.insertAll (stores.flatMap StagedStore.places) := by
  induction stores generalizing journal with
  | nil => rfl
  | cons store stores ih =>
      rw [stage, List.foldl_cons, ← stage, ih, store_eq_insertAll, List.flatMap_cons]
      simp only [insertAll, List.foldl_append]

/-- The journal has the last byte that has been put at an address. -/
theorem find?_insertAll {places : List (UInt32 × UInt8)} {place : UInt32} {byte : UInt8} :
    (empty.insertAll places).find? place = some byte ↔ LastAt places place byte := by
  induction places using List.reverseRecOn with
  | nil => simp [insertAll, find?_empty, LastAt]
  | append_singleton places last ih =>
      have step : empty.insertAll (places ++ [last]) =
          (empty.insertAll places).insert last.1 last.2 := by
        simp only [insertAll, List.foldl_append, List.foldl_cons, List.foldl_nil]
      rw [step, find?_insert, LastAt.concat_iff]
      split
      · exact Option.some_inj
      · exact ih

theorem inSpace_stage {journal : Journal} (inSpace : journal.InSpace)
    (stores : List StagedStore) : (journal.stage stores).InSpace := by
  induction stores generalizing journal with
  | nil => exact inSpace
  | cons store stores ih => exact ih (inSpace_store inSpace store.address store.bytes)

theorem mem_entries_iff {journal : Journal} {place : UInt32} {byte : UInt8} :
    (place, byte) ∈ journal.entries ↔ journal.find? place = some byte := by
  constructor
  · intro entry_mem
    exact lookup_of_mem journal.ascending entry_mem
  · intro found
    rcases List.lookup_eq_some_iff.mp found with ⟨earlier, later, entries, -⟩
    simp [entries]

namespace Run

/-- The address behind the last one of the run. -/
def stop (run : Run) : Nat :=
  run.start.toNat + run.bytes.length

/-- The run has the byte at the address. -/
def Holds (run : Run) (place : UInt32) (byte : UInt8) : Prop :=
  ∃ index, place.toNat = run.start.toNat + index ∧ run.bytes[index]? = some byte

/-- The address is one of the run's. -/
def Has (run : Run) (place : UInt32) : Prop :=
  run.start.toNat ≤ place.toNat ∧ place.toNat < run.stop

theorem has_iff {run : Run} {place : UInt32} : run.Has place ↔ ∃ byte, run.Holds place byte := by
  constructor
  · rintro ⟨start_le, lt_stop⟩
    have index_lt : place.toNat - run.start.toNat < run.bytes.length := by
      simp only [stop] at lt_stop
      omega
    exact ⟨_, place.toNat - run.start.toNat, by omega, List.getElem?_eq_getElem index_lt⟩
  · rintro ⟨byte, index, isPlace, found⟩
    rcases List.getElem?_eq_some_iff.mp found with ⟨index_lt, -⟩
    simp only [Has, stop]
    omega

/-- The address in front of a run goes to the byte that is put in front of it. -/
theorem holds_cons {address place : UInt32} {byte value : UInt8} {bytes : List UInt8}
    (successor : (address + 1).toNat = address.toNat + 1) :
    Holds ⟨address, byte :: bytes⟩ place value ↔
      (place, value) = (address, byte) ∨ Holds ⟨address + 1, bytes⟩ place value := by
  constructor
  · rintro ⟨_ | index, isPlace, found⟩
    · have samePlace : place = address := UInt32.toNat_inj.mp isPlace
      rw [List.getElem?_cons_zero, Option.some_inj] at found
      exact .inl (by rw [samePlace, found])
    · rw [List.getElem?_cons_succ] at found
      refine .inr ⟨index, ?_, found⟩
      simp only [successor] at isPlace ⊢
      omega
  · rintro (same | ⟨index, isPlace, found⟩)
    · rw [Prod.mk.injEq] at same
      exact ⟨0, by rw [same.1]; rfl, by rw [same.2]; rfl⟩
    · refine ⟨index + 1, ?_, by rw [List.getElem?_cons_succ, found]⟩
      simp only [successor] at isPlace ⊢
      omega

theorem holds_single {address place : UInt32} {byte value : UInt8}
    (successor : (address + 1).toNat = address.toNat + 1) :
    Holds ⟨address, [byte]⟩ place value ↔ (place, value) = (address, byte) := by
  have nothing : ¬Holds ⟨address + 1, []⟩ place value := by
    rintro ⟨index, -, found⟩
    simp at found
  rw [holds_cons successor, or_iff_left nothing]

/-- The runs are maximal and have the entries between them: one ends below the address in front of
the next. -/
structure Partition (runs : List Run) (entries : List (UInt32 × UInt8)) : Prop where
  nonempty : ∀ run ∈ runs, run.bytes ≠ []
  apart : runs.Pairwise fun earlier later => earlier.stop < later.start.toNat
  holds : ∀ place byte, (∃ run ∈ runs, run.Holds place byte) ↔ (place, byte) ∈ entries

namespace Partition

variable {runs : List Run} {entries : List (UInt32 × UInt8)}

/-- A run starts at the address of an entry. -/
theorem start_mem (partition : Partition runs entries) {run : Run} (run_mem : run ∈ runs) :
    ∃ byte, (run.start, byte) ∈ entries := by
  rcases List.exists_cons_of_ne_nil (partition.nonempty run run_mem) with ⟨byte, bytes, isRun⟩
  refine ⟨byte, (partition.holds _ _).mp ⟨run, run_mem, 0, rfl, ?_⟩⟩
  rw [isRun, List.getElem?_cons_zero]

/-- A byte below all entries goes to the front of the runs. -/
theorem consRun (partition : Partition runs entries) {address : UInt32} {byte : UInt8}
    (address_lt : address.toNat < Address.space)
    (below : ∀ entry ∈ entries, address < entry.1) :
    Partition (Journal.consRun address byte runs) ((address, byte) :: entries) := by
  have successor : (address + 1).toNat = address.toNat + 1 :=
    UInt32.toNat_succ (Nat.lt_of_le_of_lt address_lt (by decide))
  cases runs with
  | nil =>
      refine ⟨by simp [Journal.consRun], by simp [Journal.consRun], fun place value => ?_⟩
      have others := partition.holds place value
      simp only [Journal.consRun, exists_eq_left, holds_single successor, List.mem_cons, ← others,
        List.not_mem_nil, false_and, exists_false, or_false]
  | cons head tail =>
      rcases partition.start_mem (List.mem_cons_self) with ⟨first, first_mem⟩
      have before := UInt32.lt_iff_toNat_lt.mp (below _ first_mem)
      rcases List.pairwise_cons.mp partition.apart with ⟨headApart, tailApart⟩
      rcases List.forall_mem_cons.mp partition.nonempty with ⟨_, tailNonempty⟩
      simp only [Journal.consRun]
      split
      · rename_i adjacent
        have sameStop : Run.stop ⟨address, byte :: head.bytes⟩ = head.stop := by
          simp only [Run.stop, adjacent, successor, List.length_cons]
          omega
        refine ⟨List.forall_mem_cons.mpr ⟨List.cons_ne_nil _ _, tailNonempty⟩,
          List.pairwise_cons.mpr ⟨fun later later_mem => ?_, tailApart⟩, fun place value => ?_⟩
        · rw [sameStop]
          exact headApart later later_mem
        · have others := partition.holds place value
          have sameRun : (⟨address + 1, head.bytes⟩ : Run) = head := by rw [← adjacent]
          simp only [List.mem_cons, exists_eq_or_imp, ← others, holds_cons successor, sameRun,
            or_assoc]
      · rename_i gap
        -- The byte stands alone, because the first run does not start behind it.
        have stop_lt : Run.stop ⟨address, [byte]⟩ < head.start.toNat := by
          refine Nat.lt_of_le_of_ne before fun same => gap ?_
          exact UInt32.toNat_inj.mp (same.symm.trans successor.symm)
        refine ⟨List.forall_mem_cons.mpr ⟨List.cons_ne_nil _ _, partition.nonempty⟩,
          List.pairwise_cons.mpr ⟨fun later later_mem => ?_, partition.apart⟩,
          fun place value => ?_⟩
        · rcases List.mem_cons.mp later_mem with rfl | inTail
          · exact stop_lt
          · have head_le : head.start.toNat ≤ head.stop := Nat.le_add_right _ _
            have later_gt := headApart later inTail
            omega
        · have others := partition.holds place value
          simp only [List.mem_cons, exists_eq_or_imp] at others ⊢
          rw [holds_single successor, others]

end Partition

/-- The runs have the bytes that have been stored, and each of them has the last one stored at its
address. They ascend within real storage, with a gap between any two. -/
structure HoldStores (runs : List Run) (stores : List StagedStore) : Prop where
  nonempty : ∀ run ∈ runs, run.bytes ≠ []
  inSpace : ∀ run ∈ runs, run.InSpace
  apart : runs.Pairwise fun earlier later => earlier.stop < later.start.toNat
  has : ∀ place, (∃ run ∈ runs, run.Has place) ↔
    ∃ store ∈ stores, place ∈ store.places.map Prod.fst
  holds : ∀ place byte, (∃ run ∈ runs, run.Holds place byte) ↔
    LastAt (stores.flatMap StagedStore.places) place byte

end Run

theorem runs_partition {journal : Journal} (inSpace : journal.InSpace) :
    Run.Partition journal.runs journal.entries := by
  rcases journal with ⟨entries, ascending⟩
  simp only [runs, InSpace] at inSpace ⊢
  induction entries with
  | nil => exact ⟨by simp, by simp, by simp⟩
  | cons entry rest ih =>
      rcases List.pairwise_cons.mp ascending with ⟨below, restAscending⟩
      rcases List.forall_mem_cons.mp inSpace with ⟨entry_lt, rest_lt⟩
      exact (ih restAscending rest_lt).consRun entry_lt below

/-- The runs of a journal have what has been stored, and nothing else. -/
theorem runs_holdStores (stores : List StagedStore) :
    Run.HoldStores (ofStores stores).runs stores := by
  have inSpace : (ofStores stores).InSpace := inSpace_stage inSpace_empty stores
  have partition := runs_partition inSpace
  have holds : ∀ place byte, (∃ run ∈ (ofStores stores).runs, run.Holds place byte) ↔
      LastAt (stores.flatMap StagedStore.places) place byte := by
    intro place byte
    rw [partition.holds, mem_entries_iff, ofStores, stage_eq_insertAll, find?_insertAll]
  refine ⟨partition.nonempty, inSpace_of_mem_runs inSpace, partition.apart, fun place => ?_, holds⟩
  have stored : (∃ store ∈ stores, place ∈ store.places.map Prod.fst) ↔
      place ∈ (stores.flatMap StagedStore.places).map Prod.fst := by
    simp only [List.map_flatMap, List.mem_flatMap]
  rw [stored, ← LastAt.exists_iff]
  constructor
  · rintro ⟨run, run_mem, has⟩
    rcases Run.has_iff.mp has with ⟨byte, isHeld⟩
    exact ⟨byte, (holds place byte).mp ⟨run, run_mem, isHeld⟩⟩
  · rintro ⟨byte, isLast⟩
    rcases (holds place byte).mpr isLast with ⟨run, run_mem, isHeld⟩
    exact ⟨run, run_mem, Run.has_iff.mpr ⟨byte, isHeld⟩⟩

end Journal

section

variable {Machine Refusal : Type} {callouts : Callouts Machine Refusal}

/-- The callout that probes the run. -/
def Journal.Run.probing (run : Journal.Run) : Callout :=
  .readReal run.start run.bytes.length

theorem Journal.Run.probeAll_record {runs : List Run} {machine : Machine × List Callout}
    (probed : (probeAll callouts.recorded runs machine).1 = .ok ()) :
    (probeAll callouts.recorded runs machine).2.2 = machine.2 ++ runs.map probing := by
  induction runs generalizing machine with
  | nil => simp [probeAll]
  | cons run runs ih =>
      have recorded : callouts.recorded.readReal run.start run.bytes.length machine =
          ((callouts.readReal run.start run.bytes.length machine.1).1,
            (callouts.readReal run.start run.bytes.length machine.1).2,
            machine.2 ++ [run.probing]) :=
        rfl
      simp only [probeAll, recorded] at probed ⊢
      generalize callouts.readReal run.start run.bytes.length machine.1 = answered at probed
      rcases answered with ⟨_ | _, middle⟩
      · cases probed
      · rw [ih probed, List.map_cons, List.append_assoc]
        rfl

/-- What a completion that succeeds asks for: it probes the runs of its journal, then stores them,
and then may empty the lookaside buffer. -/
theorem Staging.commit_stores {staging : Staging (Machine × List Callout)}
    {stores : List StagedStore} (journal : staging.journal = Journal.ofStores stores) {cpu : Cpu}
    (committed : (staging.commit callouts.recorded).1 = .ok cpu) :
    ∃ runs, Journal.Run.HoldStores runs stores ∧
      (staging.commit callouts.recorded).2.2 =
        staging.machine.2 ++ runs.map Journal.Run.probing ++ runs.map Journal.Run.storing ++
          if staging.purge then [.purgeTlb] else [] := by
  refine ⟨staging.journal.runs, journal ▸ Journal.runs_holdStores stores, ?_⟩
  have probed := @Journal.Run.probeAll_record Machine Refusal callouts staging.journal.runs
    staging.machine
  simp only [commit] at committed ⊢
  generalize Journal.Run.probeAll callouts.recorded staging.journal.runs staging.machine = answered
    at committed probed
  rcases answered with ⟨_ | _, middle⟩
  · cases committed
  · have written := @Journal.Run.writeAll_record Machine Refusal callouts staging.journal.runs
      middle
    have unrecorded := Journal.Run.writeAll_map callouts.forgetRecord staging.journal.runs middle
    dsimp only at committed probed ⊢
    generalize Journal.Run.writeAll callouts.recorded staging.journal.runs middle = answered
      at committed written unrecorded
    rcases answered with ⟨_ | _, after⟩
    · cases committed
    · have all : Journal.Run.asked callouts staging.journal.runs middle.1 = staging.journal.runs :=
        Journal.Run.asked_of_ok (congrArg Prod.fst unrecorded)
      rw [all, probed rfl] at written
      dsimp only at written ⊢
      split
      · rw [← written]
        rfl
      · rw [← written, List.append_nil]

end

end Assist370
