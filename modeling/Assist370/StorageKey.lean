import Assist370.BitField

/-!
# Storage keys

Each block of real storage has a key: four access-control bits that a program's protection key is
compared with, a fetch-protection bit, and the reference and change bits that record accesses.
-/

namespace Assist370

/-- The storage key of a block of real storage. -/
structure StorageKey where
  bits : BitVec 8
  deriving DecidableEq, Repr, Inhabited

namespace StorageKey

/-- The field that records stores into the block. -/
def changeField : BitField := .bit 1

/-- The field that records accesses to the block. -/
def referenceField : BitField := .bit 2

/-- The field that extends protection to fetches. -/
def fetchProtectField : BitField := .bit 3

/-- The access-control field. -/
def accessKeyField : BitField := ⟨4, 4⟩

/-- Whether the block has been stored into. -/
def change (key : StorageKey) : Bool :=
  changeField.isOn key.bits

/-- Whether the block has been accessed. -/
def reference (key : StorageKey) : Bool :=
  referenceField.isOn key.bits

/-- Whether fetches are protected as stores are. -/
def fetchProtect (key : StorageKey) : Bool :=
  fetchProtectField.isOn key.bits

/-- The access-control bits. -/
def accessKey (key : StorageKey) : BitVec 4 :=
  accessKeyField.get key.bits

/-- Whether a program with the given protection key may store into the block. Key zero matches
every block. -/
def admitsStore (key : StorageKey) (protection : BitVec 4) : Bool :=
  protection == 0 || key.accessKey == protection

/-- Whether a program with the given protection key may fetch from the block. A block without fetch
protection is open to every fetch. -/
def admitsFetch (key : StorageKey) (protection : BitVec 4) : Bool :=
  key.admitsStore protection || !key.fetchProtect

theorem admitsFetch_of_admitsStore {key : StorageKey} {protection : BitVec 4}
    (admits : key.admitsStore protection) : key.admitsFetch protection := by
  simp [admitsFetch, admits]

end StorageKey

end Assist370
