import Assist370.Facility
import Assist370.Proofs.StorageView

/-!
# A machine of storage alone

The simplest machine is its storage. It refuses nothing, its storage keys admit every access, and
virtual addresses are real ones. It shows that the promises of a storage view can be kept, and so
does the same machine with its virtual addresses at a distance from the real ones.
-/

namespace Assist370

namespace Memory

/-- Storage with all bytes zero. -/
def zero : Memory :=
  fun _ => 0

theorem zero_word (block : UInt32) (field : Field UInt32) : zero.get block field = 0 :=
  congrArg Bytes.word (show zero.bytes (block + field.offset) 4 = #v[0, 0, 0, 0] from rfl)

/-- The callouts of a machine that is its storage. -/
def callouts : Callouts Memory Empty where
  readReal address length memory := (.ok (memory.bytes address length), memory)
  writeReal address bytes memory := (.ok (), memory.store address bytes)
  storageKey _ memory := (.ok ⟨0⟩, memory)
  translate _ _ address memory := (.ok (.ok address), memory)
  purgeTlb memory := memory

/-- A machine that is its storage has itself for its storage. -/
def storageView : StorageView callouts where
  memory machine := machine
  looks_keep callout machine looks := by
    cases callout with
    | readReal _ _ | storageKey _ | translate _ _ _ => rfl
    | writeReal _ _ | purgeTlb => exact looks.elim
  purge_keep _ := rfl
  readReal _ _ _ _ _ answered := (Except.ok.inj answered).symm
  writeReal _ _ _ _ _ := rfl
  writeReal_refused _ _ _ refusal _ _ _ := refusal.elim

end Memory

section

variable {Machine Refusal : Type}

/-- The same callouts on a machine whose virtual addresses all lie at one distance from the real
ones. -/
def Callouts.relocating (callouts : Callouts Machine Refusal) (distance : UInt32) :
    Callouts Machine Refusal :=
  { callouts with
    translate := fun _ _ address machine => (.ok (.ok (address + distance)), machine) }

/-- Its storage is seen as before. -/
def StorageView.relocating {callouts : Callouts Machine Refusal} (view : StorageView callouts)
    (distance : UInt32) : StorageView (callouts.relocating distance) where
  memory := view.memory
  looks_keep callout machine looks := by
    cases callout with
    | readReal address length => exact view.looks_keep (.readReal address length) machine looks
    | storageKey address => exact view.looks_keep (.storageKey address) machine looks
    | translate _ _ _ => rfl
    | writeReal _ _ | purgeTlb => exact looks.elim
  purge_keep := view.purge_keep
  readReal := view.readReal
  writeReal := view.writeReal
  writeReal_refused := view.writeReal_refused

end

/-- The result of a response can be computed, as far as it is an outcome. -/
theorem Response.result_eq_ok {Machine Refusal : Type} {response : Response Machine Refusal}
    {outcome : Outcome} (computed : response.result.toOption = some outcome) :
    response.result = .ok outcome := by
  cases result : response.result with
  | error error => simp [result, Except.toOption] at computed
  | ok value => simpa [result, Except.toOption] using computed

end Assist370
