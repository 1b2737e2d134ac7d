import Assist370.Address
import Assist370.Bytes
import Assist370.StorageKey
import Assist370.Text
import Assist370.Translation

/-!
# Callouts to the machine

The assists do not own real storage, storage keys or the translation lookaside buffer. They reach
them through the callouts below, which change a machine of any kind and may be refused for any
reason. All addresses are real addresses, except for the virtual address to be translated.
-/

namespace Assist370

/-- The operations that the owner of a machine performs for the assists. -/
structure Callouts (Machine : Type) (Refusal : Type) where
  /-- Fetches bytes of real storage and marks their blocks as referenced. -/
  readReal : UInt32 → (length : Nat) → Machine → Except Refusal (Bytes length) × Machine
  /-- Stores bytes into real storage and marks their blocks as referenced and changed. -/
  writeReal : UInt32 → List UInt8 → Machine → Except Refusal Unit × Machine
  /-- The key of the block that holds an address. -/
  storageKey : UInt32 → Machine → Except Refusal StorageKey × Machine
  /-- Translates a virtual address under control registers 0 and 1, as LOAD REAL ADDRESS does. -/
  translate : UInt32 → UInt32 → UInt32 → Machine →
    Except Refusal (Except TranslationFault UInt32) × Machine
  /-- Empties the translation lookaside buffer. -/
  purgeTlb : Machine → Machine

/-- The direction of an access to storage. -/
inductive Direction where
  | read
  | write
  deriving DecidableEq, Repr

namespace Direction

/-- The direction in words. -/
def name : Direction → String
  | read => "Read"
  | write => "Write"

end Direction

/-- A refused callout, with the address that it was about. -/
inductive AccessError (Refusal : Type) where
  | storage (address : UInt32) (direction : Direction) (refusal : Refusal)
  | storageKey (address : UInt32) (refusal : Refusal)
  | translation (address : UInt32) (refusal : Refusal)
  deriving DecidableEq, Repr

namespace AccessError

variable {Refusal : Type}

/-- An address in words. -/
def place (address : UInt32) : String :=
  " @ 0x" ++ Text.hexadecimal address.toNat

/-- The error in words. -/
def message : AccessError Refusal → String
  | storage address direction _ =>
      "storage access error - " ++ direction.name ++ place address
  | storageKey address _ => "storage key access error" ++ place address
  | translation address _ => "address translation error" ++ place address

end AccessError

end Assist370
