import Assist370.Proofs.Execution

/-!
# Completion and callouts

The journal of an assist holds addresses of real storage only, and so its completion keeps to them
(`Staging.commit_inSpace`).
-/

namespace Assist370

variable {Machine Refusal : Type} (callouts : Callouts Machine Refusal)

namespace Journal

/-- Every address in the journal is one of real storage. -/
def InSpace (journal : Journal) : Prop :=
  ∀ entry ∈ journal.entries, entry.1.toNat < Address.space

theorem inSpace_empty : empty.InSpace := by
  simp [InSpace, empty]

theorem inSpace_store {journal : Journal} (inSpace : journal.InSpace) (address : UInt32)
    (bytes : List UInt8) : (journal.store address bytes).InSpace := by
  induction bytes generalizing journal address with
  | nil => exact inSpace
  | cons byte bytes ih =>
      apply ih
      intro entry entry_mem
      rcases address_of_mem_insertEntry entry_mem with equal | old
      · rw [equal]
        exact Address.wrap_lt address
      · exact inSpace entry old

namespace Run

/-- The run keeps to the addresses of real storage. -/
def InSpace (run : Run) : Prop :=
  run.start.toNat + run.bytes.length ≤ Address.space

theorem inSpace_consRun {address : UInt32} {byte : UInt8} {runs : List Run}
    (address_lt : address.toNat < Address.space) (inSpace : ∀ run ∈ runs, run.InSpace) :
    ∀ run ∈ consRun address byte runs, run.InSpace := by
  have single : InSpace ⟨address, [byte]⟩ := by
    simp only [InSpace, List.length_singleton]
    omega
  cases runs with
  | nil => simpa [consRun] using single
  | cons head rest =>
      simp only [consRun]
      split
      · rename_i adjacent
        have head_inSpace := inSpace head (by simp)
        have successor : (address + 1).toNat = address.toNat + 1 :=
          UInt32.toNat_succ (Nat.lt_of_le_of_lt address_lt (by decide))
        simp only [InSpace, adjacent, successor] at head_inSpace
        intro run run_mem
        rcases List.mem_cons.mp run_mem with rfl | rest_mem
        · simp only [InSpace, List.length_cons]
          omega
        · exact inSpace run (by simp [rest_mem])
      · intro run run_mem
        rcases List.mem_cons.mp run_mem with rfl | rest_mem
        · exact single
        · exact inSpace run rest_mem

end Run

theorem inSpace_of_mem_runs {journal : Journal} (inSpace : journal.InSpace) :
    ∀ run ∈ journal.runs, run.InSpace := by
  obtain ⟨entries, ascending⟩ := journal
  simp only [runs, InSpace] at inSpace ⊢
  clear ascending
  induction entries with
  | nil => simp
  | cons entry rest ih =>
      exact Run.inSpace_consRun (inSpace entry (by simp))
        (ih fun other other_mem => inSpace other (by simp [other_mem]))

theorem Run.probeAll_looks {runs : List Run} (inSpace : ∀ run ∈ runs, run.InSpace)
    (machine : Machine) :
    callouts.Reaches Callout.Looks machine (probeAll callouts runs machine).2 := by
  induction runs generalizing machine with
  | nil => exact .refl
  | cons run runs ih =>
      have first : callouts.Reaches Callout.Looks machine
          (callouts.readReal run.start run.bytes.length machine).2 :=
        Callouts.Reaches.refl.step (.readReal _ _) (inSpace run (by simp))
      have rest := ih fun other other_mem => inSpace other (by simp [other_mem])
      simp only [probeAll]
      split
      · rename_i bytes middle probed
        rw [probed] at first
        exact first.trans (rest middle)
      · rename_i refusal middle probed
        rw [probed] at first
        exact first

theorem Run.writeAll_inSpace {runs : List Run} (inSpace : ∀ run ∈ runs, run.InSpace)
    (machine : Machine) :
    callouts.Reaches Callout.InSpace machine (writeAll callouts runs machine).2 := by
  induction runs generalizing machine with
  | nil => exact .refl
  | cons run runs ih =>
      have first : callouts.Reaches Callout.InSpace machine
          (callouts.writeReal run.start run.bytes machine).2 :=
        Callouts.Reaches.refl.step (.writeReal _ _) (inSpace run (by simp))
      have rest := ih fun other other_mem => inSpace other (by simp [other_mem])
      simp only [writeAll]
      split
      · rename_i middle written
        rw [written] at first
        exact first.trans (rest middle)
      · rename_i refusal middle written
        rw [written] at first
        exact first

end Journal

namespace Staging

theorem commit_inSpace {staging : Staging Machine} (inSpace : staging.journal.InSpace) :
    callouts.Reaches Callout.InSpace staging.machine (staging.commit callouts).2 := by
  have runs_inSpace := Journal.inSpace_of_mem_runs inSpace
  have probed := (Journal.Run.probeAll_looks callouts runs_inSpace staging.machine).mono
    fun _ => Callout.Looks.inSpace
  simp only [commit]
  split
  · rename_i error middle failed
    rw [failed] at probed
    exact probed
  · rename_i middle ready
    rw [ready] at probed
    have written := Journal.Run.writeAll_inSpace callouts runs_inSpace middle
    split
    · rename_i error after failed
      rw [failed] at written
      exact probed.trans written
    · rename_i after stored
      rw [stored] at written
      have reached := probed.trans written
      split
      · exact reached.step .purgeTlb trivial
      · exact reached

end Staging

section Maps

variable {Source Target : Type} {source : Callouts Source Refusal}
  {target : Callouts Target Refusal}

theorem Journal.Run.probeAll_map (hom : Callouts.Hom source target) (runs : List Run)
    (machine : Source) :
    probeAll target runs (hom.map machine) =
      Prod.map id hom.map (probeAll source runs machine) := by
  induction runs generalizing machine with
  | nil => rfl
  | cons run runs ih =>
      simp only [probeAll, hom.readReal]
      rcases source.readReal run.start run.bytes.length machine with ⟨_ | _, middle⟩
      · rfl
      · exact ih middle

theorem Journal.Run.writeAll_map (hom : Callouts.Hom source target) (runs : List Run)
    (machine : Source) :
    writeAll target runs (hom.map machine) =
      Prod.map id hom.map (writeAll source runs machine) := by
  induction runs generalizing machine with
  | nil => rfl
  | cons run runs ih =>
      simp only [writeAll, hom.writeReal]
      rcases source.writeReal run.start run.bytes machine with ⟨_ | _, middle⟩
      · rfl
      · exact ih middle

theorem Staging.commit_map (hom : Callouts.Hom source target) (staging : Staging Source) :
    (staging.map hom.map).commit target = Prod.map id hom.map (staging.commit source) := by
  simp only [commit, map, Journal.Run.probeAll_map]
  rcases Journal.Run.probeAll source staging.journal.runs staging.machine with ⟨_ | _, middle⟩
  · rfl
  · simp only [Prod.map, id, Journal.Run.writeAll_map]
    rcases Journal.Run.writeAll source staging.journal.runs middle with ⟨_ | _, after⟩
    · rfl
    · by_cases purge : staging.purge
      · simp [purge, committedCpu, hom.purgeTlb]
      · simp [purge, committedCpu]

end Maps

end Assist370
