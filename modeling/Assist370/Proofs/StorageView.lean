import Assist370.Proofs.Memory
import Assist370.Proofs.Performance

/-!
# Storage of a machine

What the callouts promise of real storage: a fetch answers with the bytes that are there, a store
leaves its bytes behind, and nothing else changes a byte (`StorageView`). Then an assist sees the
storage of the machine under its journal, and what it sees is what its completion leaves.
-/

namespace Assist370

variable {Machine Refusal : Type}

/-- The storage of a machine, as its callouts fetch it and store into it. A store that is refused
may have been made in part. -/
structure StorageView (callouts : Callouts Machine Refusal) where
  memory : Machine → Memory
  looks_keep : ∀ (callout : Callout) (machine : Machine), callout.Looks →
    memory (callout.after callouts machine) = memory machine
  purge_keep : ∀ machine, memory (callouts.purgeTlb machine) = memory machine
  readReal : ∀ (address : UInt32) (length : Nat) (machine : Machine) (bytes : Bytes length),
    address.toNat + length ≤ Address.space →
    (callouts.readReal address length machine).1 = .ok bytes →
    bytes = (memory machine).bytes address length
  writeReal : ∀ (address : UInt32) (bytes : List UInt8) (machine : Machine),
    address.toNat + bytes.length ≤ Address.space →
    (callouts.writeReal address bytes machine).1 = .ok () →
    memory (callouts.writeReal address bytes machine).2 = (memory machine).store address bytes
  writeReal_refused : ∀ (address : UInt32) (bytes : List UInt8) (machine : Machine)
    (refusal : Refusal) (place : UInt32), address.toNat + bytes.length ≤ Address.space →
    (callouts.writeReal address bytes machine).1 = .error refusal →
    (memory (callouts.writeReal address bytes machine).2).byte place =
        (memory machine).byte place ∨
      (memory (callouts.writeReal address bytes machine).2).byte place =
        ((memory machine).store address bytes).byte place

/-- The callout stores nothing into the region. -/
def Callout.Spares (region : Region) : Callout → Prop
  | writeReal address bytes => Region.Apart ⟨address, bytes.length⟩ region
  | _ => True

instance (region : Region) (callout : Callout) : Decidable (callout.Spares region) :=
  match callout with
  | .writeReal address bytes =>
      inferInstanceAs (Decidable (Region.Apart ⟨address, bytes.length⟩ region))
  | .readReal _ _ | .storageKey _ | .translate _ _ _ | .purgeTlb =>
      inferInstanceAs (Decidable True)

/-- No callout made for the instruction stores into the region. -/
def System.Spares (policy : Policy) (callouts : Callouts Machine Refusal)
    (system : System Machine) (request : Request) (region : Region) : Prop :=
  ∀ callout ∈ system.calloutsMade policy callouts request, callout.Spares region

instance (policy : Policy) (callouts : Callouts Machine Refusal) (system : System Machine)
    (request : Request) (region : Region) :
    Decidable (system.Spares policy callouts request region) :=
  inferInstanceAs (Decidable (∀ callout ∈ _, _))

namespace StorageView

variable {callouts : Callouts Machine Refusal} (view : StorageView callouts)

theorem memory_of_looks {before after : Machine}
    (looked : callouts.Reaches Callout.Looks before after) :
    view.memory after = view.memory before :=
  looked.view_eq view.memory view.looks_keep

/-- Callouts that do not store into a region leave it as it was. -/
theorem agreesOn_of_reaches {made : Callout → Prop} {before after : Machine} {region : Region}
    (spares : ∀ callout, made callout → callout.InSpace ∧ callout.Spares region)
    (reached : callouts.Reaches made before after) :
    (view.memory after).AgreesOn (view.memory before) region := by
  intro place inRegion
  refine reached.view_eq (fun machine => (view.memory machine).byte place) ?_
  intro callout machine isMade
  obtain ⟨inSpace, storesApart⟩ := spares callout isMade
  cases callout with
  | readReal address length =>
      simp only [view.looks_keep (.readReal address length) machine inSpace]
  | storageKey address => simp only [view.looks_keep (.storageKey address) machine inSpace]
  | translate control0 control1 address =>
      simp only [view.looks_keep (.translate control0 control1 address) machine inSpace]
  | purgeTlb => simp only [Callout.after, view.purge_keep]
  | writeReal address bytes =>
      have kept := Memory.byte_store_of_not_contains (view.memory machine) address bytes
        fun inStored => storesApart place inStored inRegion
      simp only [Callout.after]
      cases stored : (callouts.writeReal address bytes machine).1 with
      | ok _ => rw [view.writeReal address bytes machine inSpace stored, kept]
      | error refusal =>
          rcases view.writeReal_refused address bytes machine refusal place inSpace stored with
            same | new
          · exact same
          · rw [new, kept]

/-- An instruction leaves a region as it was that it does not store into. -/
theorem agreesOn_perform {policy : Policy} {system : System Machine} {request : Request}
    {region : Region} (spares : system.Spares policy callouts request region) :
    (view.memory (system.perform policy callouts request).system.machine).AgreesOn
      (view.memory system.machine) region :=
  view.agreesOn_of_reaches (fun callout made => ⟨made.2, spares callout made.1⟩)
    (system.reaches_calloutsMade policy callouts request)

theorem fetchRun_ok (journal : Journal) {address : UInt32} {length : Nat} {machine : Machine}
    {bytes : Bytes length} (inSpace : address.toNat + length ≤ Address.space)
    (fetched : (journal.fetchRun callouts address length machine).1 = .ok bytes) :
    bytes = (journal.onto (view.memory machine)).bytes address length := by
  cases answered : callouts.readReal address length machine with
  | mk answer middle =>
      simp only [Journal.fetchRun, answered] at fetched
      cases answer with
      | error refusal => simp at fetched
      | ok under =>
          have stored := view.readReal address length machine under inSpace (by rw [answered])
          simp only [Except.ok.injEq] at fetched
          rw [← fetched, stored, Journal.overlay_bytes _ _ _ _ inSpace]

/-- A fetch answers with the bytes of storage as the journal lets them be seen. -/
theorem fetch_ok (journal : Journal) (address : UInt32) (length : Nat) (machine : Machine) :
    ∀ bytes, (journal.fetch callouts address length machine).1 = .ok bytes →
      bytes = (journal.onto (view.memory machine)).bytes address length := by
  fun_induction Journal.fetch callouts journal address length machine with
  | case1 address length before start room fits =>
      have start_lt : start.toNat < Address.space := Address.wrap_lt address
      intro bytes fetched
      rw [← Memory.bytes_wrap]
      exact view.fetchRun_ok journal (show start.toNat + length ≤ Address.space by omega) fetched
  | case2 => simp
  | case3 => simp
  | case4 address length before start room beyond start_lt shorter low middle fetchedLow high after
      fetchedHigh ih =>
      have inSpace : start.toNat + room ≤ Address.space := by omega
      have looked := journal.fetchRun_looks callouts before inSpace
      rw [fetchedLow] at looked
      have lowBytes := view.fetchRun_ok journal inSpace (congrArg Prod.fst fetchedLow)
      have highBytes := ih high (by rw [fetchedHigh])
      rw [view.memory_of_looks looked] at highBytes
      intro bytes fetched
      simp only [Except.ok.injEq] at fetched
      have around := (journal.onto (view.memory before)).bytes_around
        (show start.toNat + room = Address.space by omega) (show room ≤ length by omega)
      rw [← fetched, lowBytes, highBytes, ← around]
      exact Memory.bytes_wrap _ address length

/-- The memory that an assist sees: the storage of the machine under the journal. -/
def seen (staging : Staging Machine) : Memory :=
  staging.journal.onto (view.memory staging.machine)

end StorageView

end Assist370
