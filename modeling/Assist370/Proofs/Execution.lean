import Assist370.Proofs.Callout

/-!
# Execution and callouts

While a program runs, the machine is only looked at, within its addresses (`Microcode.run_looks`).
What a program answers and stages depends on the machine through the answers to callouts alone, so
that it goes the same way on any two machines that answer alike (`Microcode.run_map`).
-/

namespace Assist370

section Looking

variable {Machine Refusal : Type} (callouts : Callouts Machine Refusal)

theorem Journal.fetchRun_looks (journal : Journal) {address : UInt32} {length : Nat}
    (machine : Machine) (inSpace : address.toNat + length ≤ Address.space) :
    callouts.Reaches Callout.Looks machine
      (journal.fetchRun callouts address length machine).2 := by
  have reached : callouts.Reaches Callout.Looks machine
      (callouts.readReal address length machine).2 :=
    Callouts.Reaches.refl.step (.readReal address length) inSpace
  simp only [fetchRun]
  split <;> simp_all

theorem Journal.fetch_looks (journal : Journal) (address : UInt32) (length : Nat)
    (machine : Machine) :
    callouts.Reaches Callout.Looks machine
      (journal.fetch callouts address length machine).2 := by
  fun_induction Journal.fetch callouts journal address length machine with
  | case1 address length before start room fits =>
      have start_lt : start.toNat < Address.space := Address.wrap_lt address
      exact journal.fetchRun_looks callouts before (by omega)
  | case2 address length before start room beyond start_lt shorter error middle fetched =>
      have low := journal.fetchRun_looks callouts before
        (show start.toNat + room ≤ Address.space by omega)
      simpa [fetched] using low
  | case3 address length before start room beyond start_lt shorter low middle fetched error after
      failed ih =>
      have low := journal.fetchRun_looks callouts before
        (show start.toNat + room ≤ Address.space by omega)
      rw [fetched] at low
      rw [failed] at ih
      exact low.trans ih
  | case4 address length before start room beyond start_lt shorter low middle fetched high after
      fetchedHigh ih =>
      have low := journal.fetchRun_looks callouts before
        (show start.toNat + room ≤ Address.space by omega)
      rw [fetched] at low
      rw [fetchedHigh] at ih
      exact low.trans ih

theorem Action.run_looks (action : Action) (staging : Staging Machine) :
    callouts.Reaches Callout.Looks staging.machine
      (action.run callouts staging).2.machine := by
  cases action with
  | fetch address length =>
      exact staging.journal.fetch_looks callouts address length staging.machine
  | storageKey address =>
      have reached : callouts.Reaches Callout.Looks staging.machine
          (callouts.storageKey (Address.wrap address) staging.machine).2 :=
        Callouts.Reaches.refl.step (.storageKey (Address.wrap address)) (Address.wrap_lt address)
      simp only [run]
      split <;> simp_all
  | translate address =>
      have reached : callouts.Reaches Callout.Looks staging.machine
          (callouts.translate (staging.cpu.control.read 0) (staging.cpu.control.read 1)
            (Address.wrap address) staging.machine).2 :=
        Callouts.Reaches.refl.step (.translate _ _ (Address.wrap address))
          (Address.wrap_lt address)
      simp only [run]
      split <;> simp_all
  | store _ _ | registers | modify _ | setTimer _ | purgeTlb | handOff _ _ | log _ =>
      exact .refl

/-- A program that runs only looks at the machine. -/
theorem Microcode.run_looks {α : Type} (program : Microcode α) (staging : Staging Machine) :
    callouts.Reaches Callout.Looks staging.machine
      (program.run callouts staging).2.machine := by
  induction program generalizing staging with
  | done value => exact .refl
  | decline reason => exact .refl
  | act action next ih =>
      have first := action.run_looks callouts staging
      simp only [run]
      split
      · rename_i answer middle ran
        rw [ran] at first
        exact first.trans (ih answer middle)
      · rename_i error middle ran
        rw [ran] at first
        exact first

end Looking

section Maps

variable {Source Target Refusal : Type} {source : Callouts Source Refusal}
  {target : Callouts Target Refusal}

/-- The staging area over another machine. -/
def Staging.map (change : Source → Target) (staging : Staging Source) : Staging Target :=
  { staging with machine := change staging.machine }

theorem Journal.fetchRun_map (hom : Callouts.Hom source target) (journal : Journal)
    (address : UInt32) (length : Nat) (machine : Source) :
    journal.fetchRun target address length (hom.map machine) =
      Prod.map id hom.map (journal.fetchRun source address length machine) := by
  simp only [fetchRun, hom.readReal]
  rcases source.readReal address length machine with ⟨_ | _, _⟩ <;> rfl

theorem Journal.fetch_map (hom : Callouts.Hom source target) (journal : Journal)
    (address : UInt32) (length : Nat) (machine : Source) :
    journal.fetch target address length (hom.map machine) =
      Prod.map id hom.map (journal.fetch source address length machine) := by
  fun_induction Journal.fetch source journal address length machine with
  | case1 address length before start room fits =>
      rw [fetch, dif_pos fits, fetchRun_map]
  | case2 address length before start room beyond start_lt shorter error middle fetched =>
      rw [fetch, dif_neg beyond, fetchRun_map]
      simp [start, room] at fetched
      simp [fetched]
  | case3 address length before start room beyond start_lt shorter low middle fetched error after
      failed ih =>
      rw [fetch, dif_neg beyond, fetchRun_map]
      simp [start, room] at fetched failed ih
      simp [fetched, failed, ih]
  | case4 address length before start room beyond start_lt shorter low middle fetched high after
      fetchedHigh ih =>
      rw [fetch, dif_neg beyond, fetchRun_map]
      simp [start, room] at fetched fetchedHigh ih
      simp [fetched, fetchedHigh, ih]

theorem Action.run_map (hom : Callouts.Hom source target) (action : Action)
    (staging : Staging Source) :
    action.run target (staging.map hom.map) =
      Prod.map id (Staging.map hom.map) (action.run source staging) := by
  cases action with
  | fetch address length =>
      simp only [run, Staging.map, Journal.fetch_map]
      rfl
  | storageKey address =>
      simp only [run, Staging.map, hom.storageKey]
      rcases source.storageKey (Address.wrap address) staging.machine with ⟨_ | _, _⟩ <;> rfl
  | translate address =>
      simp only [run, Staging.map, hom.translate]
      rcases source.translate (staging.cpu.control.read 0) (staging.cpu.control.read 1)
        (Address.wrap address) staging.machine with ⟨_ | _, _⟩ <;> rfl
  | store _ _ | registers | modify _ | setTimer _ | purgeTlb | handOff _ _ | log _ => rfl

/-- A program goes the same way on a machine that answers alike. -/
theorem Microcode.run_map {α : Type} (hom : Callouts.Hom source target) (program : Microcode α)
    (staging : Staging Source) :
    program.run target (staging.map hom.map) =
      Prod.map id (Staging.map hom.map) (program.run source staging) := by
  induction program generalizing staging with
  | done value => rfl
  | decline reason => rfl
  | act action next ih =>
      simp only [run, Action.run_map]
      rcases action.run source staging with ⟨_ | answer, middle⟩
      · rfl
      · exact ih answer middle

end Maps

end Assist370
