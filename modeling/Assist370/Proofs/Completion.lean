import Assist370.Proofs.StorageView

/-!
# Completion and storage

The runs of a journal, stored one after the other, leave the memory that the assist has seen
(`Journal.storeAll_runs`). So a completed assist leaves the storage that it has seen, and one whose
completion is refused leaves each byte as it was or as the assist has seen it.
-/

namespace Assist370

variable {Machine Refusal : Type}

namespace Journal

theorem lookup_of_mem {entries : List (UInt32 × UInt8)} {entry : UInt32 × UInt8}
    (ascending : entries.Pairwise fun earlier later => earlier.1 < later.1)
    (entry_mem : entry ∈ entries) : entries.lookup entry.1 = some entry.2 := by
  induction entries with
  | nil => simp at entry_mem
  | cons head rest ih =>
      rw [List.pairwise_cons] at ascending
      obtain ⟨key, value⟩ := head
      rcases List.mem_cons.mp entry_mem with rfl | inRest
      · simp
      · have above := ascending.1 entry inRest
        have different : (entry.1 == key) = false := by
          simpa using fun same => UInt32.lt_irrefl _ (same ▸ above)
        simp [List.lookup_cons, different, ih ascending.2 inRest]

namespace Run

/-- Memory after runs have been stored one after the other. -/
def storeAll (runs : List Run) (memory : Memory) : Memory :=
  runs.foldl (fun stored run => stored.store run.start run.bytes) memory

theorem storeAll_consRun (address : UInt32) (value : UInt8) (runs : List Run)
    (memory : Memory) :
    storeAll (consRun address value runs) memory = storeAll runs (memory.set address value) := by
  cases runs with
  | nil => rfl
  | cons run runs =>
      simp only [consRun]
      split
      · rename_i adjacent
        simp [storeAll, Memory.store, adjacent]
      · rfl

end Run

theorem storeAll_runs {journal : Journal} (inSpace : journal.InSpace) (memory : Memory) :
    Run.storeAll journal.runs memory = journal.onto memory := by
  obtain ⟨entries, ascending⟩ := journal
  simp only [runs, InSpace] at inSpace ⊢
  induction entries generalizing memory with
  | nil => rfl
  | cons entry rest ih =>
      have entry_lt := inSpace entry (by simp)
      have inPlace := Address.wrap_of_lt entry_lt
      have tail := ih (memory.set entry.1 entry.2) (List.pairwise_cons.mp ascending).2
        fun other other_mem => inSpace other (by simp [other_mem])
      rw [List.foldr_cons, Run.storeAll_consRun, tail]
      obtain ⟨key, value⟩ := entry
      funext place
      by_cases same : place = key
      · have absent : rest.lookup key = none := by
          rw [List.lookup_eq_none_iff]
          intro other other_mem
          have above := (List.pairwise_cons.mp ascending).1 other other_mem
          simpa using fun same => UInt32.lt_irrefl _ (same ▸ above)
        simp [onto, find?, same, absent, Memory.set, inPlace]
      · have different : (place == key) = false := by simpa using same
        simp [onto, find?, List.lookup_cons, same, different, Memory.set, inPlace]

/-- Storing a run changes no byte but to what the journal has for it. -/
theorem store_run_byte {entries : List (UInt32 × UInt8)} {target : Memory}
    (reached : ∀ entry ∈ entries, target.byte entry.1 = entry.2) :
    ∀ run ∈ entries.foldr (fun entry runs => consRun entry.1 entry.2 runs) [],
      ∀ (memory : Memory) (place : UInt32),
        (memory.store run.start run.bytes).byte place = memory.byte place ∨
          (memory.store run.start run.bytes).byte place = target.byte place := by
  have set_byte : ∀ entry ∈ entries, ∀ (memory : Memory) (place : UInt32),
      (memory.set entry.1 entry.2).byte place = memory.byte place ∨
        (memory.set entry.1 entry.2).byte place = target.byte place := by
    intro entry entry_mem memory place
    rw [Memory.byte_set]
    split
    · rename_i same
      exact .inr ((reached entry entry_mem).symm.trans (target.byte_congr same.symm))
    · exact .inl rfl
  induction entries with
  | nil => simp
  | cons entry rest ih =>
      have tail := ih (fun other other_mem => reached other (by simp [other_mem]))
        fun other other_mem => set_byte other (by simp [other_mem])
      have single := set_byte entry (by simp)
      rw [List.foldr_cons]
      generalize rest.foldr (fun entry runs => consRun entry.1 entry.2 runs) [] = runs at tail
      cases runs with
      | nil => simpa [consRun, Memory.store] using single
      | cons head runs =>
          simp only [consRun]
          split
          · rename_i adjacent
            intro run run_mem memory place
            rcases List.mem_cons.mp run_mem with rfl | old
            · rcases tail head (by simp) (memory.set entry.1 entry.2) place with same | new
              · simp only [Memory.store, ← adjacent, same]
                exact single memory place
              · simp only [Memory.store, ← adjacent, new]
                exact .inr trivial
            · exact tail run (by simp [old]) memory place
          · intro run run_mem
            rcases List.mem_cons.mp run_mem with rfl | old
            · exact single
            · exact tail run old

end Journal

namespace StorageView

variable {callouts : Callouts Machine Refusal} (view : StorageView callouts)

theorem memory_writeAll {runs : List Journal.Run} (inSpace : ∀ run ∈ runs, run.InSpace)
    (machine : Machine)
    (written : (Journal.Run.writeAll callouts runs machine).1 = .ok ()) :
    view.memory (Journal.Run.writeAll callouts runs machine).2 =
      Journal.Run.storeAll runs (view.memory machine) := by
  induction runs generalizing machine with
  | nil => rfl
  | cons run runs ih =>
      simp only [Journal.Run.writeAll] at written ⊢
      have stored := view.writeReal run.start run.bytes machine (inSpace run (by simp))
      generalize callouts.writeReal run.start run.bytes machine = answered at stored written
      rcases answered with ⟨_ | _, middle⟩
      · simp at written
      · rw [ih (fun other other_mem => inSpace other (by simp [other_mem])) middle written,
          stored rfl]
        rfl

/-- Whether or not all runs are stored, a byte is as it was or as the runs have it. -/
theorem byte_writeAll {runs : List Journal.Run} {target : Memory}
    (inSpace : ∀ run ∈ runs, run.InSpace)
    (reached : ∀ run ∈ runs, ∀ (memory : Memory) (place : UInt32),
      (memory.store run.start run.bytes).byte place = memory.byte place ∨
        (memory.store run.start run.bytes).byte place = target.byte place)
    (machine : Machine) (place : UInt32) :
    (view.memory (Journal.Run.writeAll callouts runs machine).2).byte place =
        (view.memory machine).byte place ∨
      (view.memory (Journal.Run.writeAll callouts runs machine).2).byte place =
        target.byte place := by
  induction runs generalizing machine with
  | nil => exact .inl rfl
  | cons run runs ih =>
      have stored := view.writeReal run.start run.bytes machine (inSpace run (by simp))
      have refused := fun refusal => view.writeReal_refused run.start run.bytes machine refusal
        place (inSpace run (by simp))
      have rest := ih (fun other other_mem => inSpace other (by simp [other_mem]))
        fun other other_mem => reached other (by simp [other_mem])
      have first := reached run (by simp) (view.memory machine) place
      simp only [Journal.Run.writeAll]
      generalize callouts.writeReal run.start run.bytes machine = answered at stored refused
      rcases answered with ⟨refusal | _, middle⟩
      · rcases refused refusal rfl with same | new
        · exact .inl same
        · exact first.imp new.trans new.trans
      · rcases rest middle with same | new
        · rw [stored rfl] at same
          exact first.imp same.trans same.trans
        · exact .inr new

/-- A completed assist leaves the storage that it has seen. -/
theorem commit_ok {staging : Staging Machine} (inSpace : staging.journal.InSpace) {cpu : Cpu}
    (committed : (staging.commit callouts).1 = .ok cpu) :
    cpu = staging.committedCpu ∧
      view.memory (staging.commit callouts).2 = view.seen staging := by
  have runs_inSpace := Journal.inSpace_of_mem_runs inSpace
  have probed := Journal.Run.probeAll_looks callouts runs_inSpace staging.machine
  simp only [Staging.commit] at committed ⊢
  generalize Journal.Run.probeAll callouts staging.journal.runs staging.machine = answered
    at probed committed
  rcases answered with ⟨_ | _, middle⟩
  · simp at committed
  · have stored := view.memory_writeAll runs_inSpace middle
    dsimp only at committed ⊢
    generalize Journal.Run.writeAll callouts staging.journal.runs middle = answered
      at stored committed
    rcases answered with ⟨_ | _, after⟩
    · simp at committed
    · simp only [Except.ok.injEq] at committed
      refine ⟨committed.symm, ?_⟩
      have final := stored rfl
      rw [Journal.storeAll_runs inSpace, view.memory_of_looks probed] at final
      dsimp only
      split
      · rw [view.purge_keep]
        exact final
      · exact final

/-- Whatever becomes of a completion, a byte of storage is as it was or as the assist has seen
it. -/
theorem commit_byte {staging : Staging Machine} (inSpace : staging.journal.InSpace)
    (place : UInt32) :
    (view.memory (staging.commit callouts).2).byte place =
        (view.memory staging.machine).byte place ∨
      (view.memory (staging.commit callouts).2).byte place =
        (view.seen staging).byte place := by
  have runs_inSpace := Journal.inSpace_of_mem_runs inSpace
  have probed := Journal.Run.probeAll_looks callouts runs_inSpace staging.machine
  have reached : ∀ entry ∈ staging.journal.entries,
      (view.seen staging).byte entry.1 = entry.2 := by
    intro entry entry_mem
    have inPlace := Address.wrap_of_lt (inSpace entry entry_mem)
    simp [seen, Journal.byte_onto, inPlace, Journal.find?,
      Journal.lookup_of_mem staging.journal.ascending entry_mem]
  have reached := Journal.store_run_byte reached
  simp only [Staging.commit]
  generalize Journal.Run.probeAll callouts staging.journal.runs staging.machine = answered
    at probed
  rcases answered with ⟨_ | _, middle⟩
  · exact .inl (congrArg (Memory.byte · place) (view.memory_of_looks probed))
  · have written := view.byte_writeAll runs_inSpace reached middle place
    rw [view.memory_of_looks probed] at written
    dsimp only
    generalize Journal.Run.writeAll callouts staging.journal.runs middle = answered at written
    rcases answered with ⟨_ | _, after⟩
    · exact written
    · dsimp only
      split
      · rw [view.purge_keep]
        exact written
      · exact written

end StorageView

end Assist370
