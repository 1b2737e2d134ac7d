import Assist370.Address
import Assist370.Microcode.Storage

/-!
# Logical storage

A virtual machine's operands have logical addresses: they are translated when the PSW says so, and
every block of storage that an operand touches has to admit the access by its key. All of an
operand is checked before any of it is fetched or stored.
-/

namespace Assist370

/-- Consecutive addresses within one block. -/
structure Piece where
  address : UInt32
  length : Nat
  deriving DecidableEq, Repr

namespace Piece

/-- The length of the first piece of an operand: as far as its block goes. -/
def firstLength (policy : Policy) (address : UInt32) (length : Nat) : Nat :=
  min (policy.keyBlock - (Address.wrap address).toNat % policy.keyBlock) length

theorem firstLength_pos (policy : Policy) (address : UInt32) {length : Nat}
    (nonempty : length ≠ 0) : 0 < firstLength policy address length := by
  have inBlock := Nat.mod_lt (Address.wrap address).toNat policy.keyBlock_pos
  simp only [firstLength]
  omega

/-- Cuts an operand at the ends of key blocks, and at the end of the address space. -/
def split (policy : Policy) (address : UInt32) (length : Nat) : List Piece :=
  if nonempty : length = 0 then
    []
  else
    have := firstLength_pos policy address nonempty
    let size := firstLength policy address length
    ⟨Address.wrap address, size⟩ ::
      split policy (address + UInt32.ofNat size) (length - size)
termination_by length

end Piece

namespace Microcode

/-- Translates an address as LOAD REAL ADDRESS does. -/
def loadRealAddress (address : UInt32) : Microcode (Except TranslationFault UInt32) :=
  perform (.translate address)

/-- The real address of a logical address. -/
def realAddress (address : UInt32) : Microcode UInt32 := do
  if (← registers).psw.translates then
    match ← loadRealAddress address with
    | .ok real => pure real
    | .error _ => decline .translationException
  else
    pure (Address.wrap address)

/-- Finds the real storage of an operand's pieces, each of which has to admit the access. -/
def resolve (admits : StorageKey → Bool) : List Piece → Microcode (List Piece)
  | [] => pure []
  | piece :: pieces => do
      let real ← realAddress piece.address
      let key ← perform (.storageKey real)
      require (admits key) .protectionException
      let rest ← resolve admits pieces
      return ⟨real, piece.length⟩ :: rest

/-- Fetches pieces of real storage and joins them. -/
def fetchPieces : List Piece → Microcode (List UInt8)
  | [] => pure []
  | piece :: pieces => do
      let bytes ← perform (.fetch piece.address piece.length)
      let rest ← fetchPieces pieces
      return bytes.toList ++ rest

/-- Stores bytes into pieces of real storage in their order. -/
def storePieces : List Piece → List UInt8 → Microcode Unit
  | [], _ => pure ()
  | piece :: pieces, bytes => do
      perform (.store piece.address (bytes.take piece.length))
      storePieces pieces (bytes.drop piece.length)

/-- Fetches bytes from a logical address on under a protection key. -/
def fetchLogicalBytes (policy : Policy) (address : UInt32) (length : Nat)
    (protection : BitVec 4) : Microcode (List UInt8) := do
  let pieces ← resolve (fun key => key.admitsFetch protection)
    (Piece.split policy address length)
  fetchPieces pieces

/-- Stores bytes from a logical address on under a protection key. -/
def storeLogicalBytes (policy : Policy) (address : UInt32) (bytes : List UInt8)
    (protection : BitVec 4) : Microcode Unit := do
  let pieces ← resolve (fun key => key.admitsStore protection)
    (Piece.split policy address bytes.length)
  storePieces pieces bytes

/-- Fetches a value from a logical address under a protection key. -/
def fetchLogical {α : Type} [Stored α] (policy : Policy) (address : UInt32)
    (protection : BitVec 4) : Microcode α := do
  let bytes ← fetchLogicalBytes policy address (Stored.size α) protection
  return Stored.decode (Bytes.ofList _ bytes)

/-- Stores a value at a logical address under a protection key. -/
def storeLogical {α : Type} [Stored α] (policy : Policy) (address : UInt32) (value : α)
    (protection : BitVec 4) : Microcode Unit :=
  storeLogicalBytes policy address (Stored.encode value).toList protection

/-- Goes on at an instruction address. -/
def branch (address : UInt32) : Microcode Unit :=
  modify fun cpu =>
    { cpu with psw := { cpu.psw with instructionAddress := Address.wrap address } }

/-- Sets the condition code. -/
def setConditionCode (code : UInt8) : Microcode Unit :=
  modify fun cpu => { cpu with psw := { cpu.psw with conditionCode := code } }

/-- Goes on at the address in general register 14. -/
def returnToCaller : Microcode Unit := do
  branch (← general 14)

end Microcode

end Assist370
