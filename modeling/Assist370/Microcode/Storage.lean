import Assist370.Address
import Assist370.Microcode

/-!
# Values in storage

Control blocks hold values at fixed offsets from their start. A `Field` is such a place together
with the kind of its value, so that a program cannot fetch a halfword where a word lies.
-/

namespace Assist370

/-- Values that lie in storage in a fixed number of bytes. -/
class Stored (α : Type) where
  size : Nat
  decode : Bytes size → α
  encode : α → Bytes size

instance : Stored UInt8 where
  size := 1
  decode bytes := bytes.byte 0
  encode value := #v[value]

instance : Stored UInt16 where
  size := 2
  decode := Bytes.halfword
  encode := Bytes.ofHalfword

instance : Stored UInt32 where
  size := 4
  decode := Bytes.word
  encode := Bytes.ofWord

instance : Stored UInt64 where
  size := 8
  decode := Bytes.doubleword
  encode := Bytes.ofDoubleword

instance : Stored Psw where
  size := 8
  decode := Psw.ofBytes
  encode := Psw.toBytes

/-- A place in a control block, at an offset from its start. -/
structure Field (α : Type) where
  offset : UInt32
  deriving DecidableEq, Repr

namespace Field

variable {α : Type}

/-- The place at the start of a block. -/
def first : Field α :=
  ⟨0⟩

/-- A place in a row of equal ones, counted from zero. -/
def item [Stored α] (field : Field α) (index : Nat) : Field α :=
  ⟨field.offset + UInt32.ofNat (Stored.size α * index)⟩

end Field

namespace Microcode

variable {α : Type} [Stored α]

/-- Fetches the value of a field of the block at an address. -/
def fetch (block : UInt32) (field : Field α) : Microcode α := do
  return Stored.decode (← perform (.fetch (block + field.offset) (Stored.size α)))

/-- Stores the value of a field of the block at an address. -/
def store (block : UInt32) (field : Field α) (value : α) : Microcode Unit :=
  perform (.store (block + field.offset) (Stored.encode value).toList)

/-- Fetches a word and takes the address in it. -/
def fetchAddress (block : UInt32) (field : Field UInt32) : Microcode UInt32 := do
  return Address.wrap (← fetch block field)

/-- Fetches the values of a number of fields that lie in a row. -/
def fetchRow (block : UInt32) (field : Field α) : (count : Nat) → Microcode (Vector α count)
  | 0 => pure #v[]
  | count + 1 => do
      let front ← fetchRow block field count
      let last ← fetch block (field.item count)
      return front.push last

/-- Stores values into fields that lie in a row. -/
def storeRow (block : UInt32) (field : Field α) : List α → Microcode Unit
  | [] => pure ()
  | value :: values => do
      store block field value
      storeRow block (field.item 1) values

/-- Turns off bits of a byte. -/
def clearBits (block : UInt32) (field : Field UInt8) (bits : UInt8) : Microcode Unit := do
  store block field ((← fetch block field) &&& ~~~bits)

/-- Whether some of the given bits of a byte are on. -/
def testBits (block : UInt32) (field : Field UInt8) (bits : UInt8) : Microcode Bool := do
  return (← fetch block field) &&& bits != 0

end Microcode

end Assist370
