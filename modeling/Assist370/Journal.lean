import Assist370.Address
import Assist370.Bytes

/-!
# The journal of stores

An assist stores nothing before it completes. Its stores go to a journal, which holds for each
address the last byte stored there, in ascending order of addresses. Fetches see the journal over
the bytes of storage, and a completed assist stores the journal in as few runs as possible.
-/

namespace Assist370

/-- The bytes that an assist has stored so far. -/
structure Journal where
  /-- Addresses with the last byte stored at each. -/
  entries : List (UInt32 × UInt8)
  /-- Every address stands once, and in ascending order. -/
  ascending : entries.Pairwise fun earlier later => earlier.1 < later.1

namespace Journal

/-- The journal of an assist that has stored nothing. -/
def empty : Journal :=
  ⟨[], List.Pairwise.nil⟩

/-- Puts a byte at its place among entries in ascending order. -/
def insertEntry (address : UInt32) (byte : UInt8) :
    List (UInt32 × UInt8) → List (UInt32 × UInt8)
  | [] => [(address, byte)]
  | entry :: rest =>
      if address < entry.1 then
        (address, byte) :: entry :: rest
      else if address = entry.1 then
        (address, byte) :: rest
      else
        entry :: insertEntry address byte rest

theorem address_of_mem_insertEntry {address : UInt32} {byte : UInt8}
    {entries : List (UInt32 × UInt8)} {entry : UInt32 × UInt8}
    (mem : entry ∈ insertEntry address byte entries) :
    entry.1 = address ∨ entry ∈ entries := by
  induction entries with
  | nil => simp_all [insertEntry]
  | cons head rest ih => grind [insertEntry]

theorem insertEntry_ascending {address : UInt32} {byte : UInt8}
    {entries : List (UInt32 × UInt8)}
    (ascending : entries.Pairwise fun earlier later => earlier.1 < later.1) :
    (insertEntry address byte entries).Pairwise fun earlier later => earlier.1 < later.1 := by
  induction entries with
  | nil => simp [insertEntry]
  | cons head rest ih =>
      rw [List.pairwise_cons] at ascending
      obtain ⟨headBelow, restAscending⟩ := ascending
      simp only [insertEntry]
      split
      · rename_i below
        refine List.pairwise_cons.mpr ⟨?_, List.pairwise_cons.mpr ⟨headBelow, restAscending⟩⟩
        intro entry entry_mem
        rcases List.mem_cons.mp entry_mem with rfl | rest_mem
        · exact below
        · exact UInt32.lt_trans below (headBelow entry rest_mem)
      · split
        · rename_i equal
          subst equal
          exact List.pairwise_cons.mpr ⟨headBelow, restAscending⟩
        · rename_i notBelow notEqual
          refine List.pairwise_cons.mpr ⟨?_, ih restAscending⟩
          intro entry entry_mem
          rcases address_of_mem_insertEntry entry_mem with equal | rest_mem
          · rw [equal]
            exact UInt32.lt_of_le_of_ne (UInt32.not_lt.mp notBelow) (Ne.symm notEqual)
          · exact headBelow entry rest_mem

/-- Stores a byte at an address. -/
def insert (journal : Journal) (address : UInt32) (byte : UInt8) : Journal :=
  ⟨insertEntry address byte journal.entries, insertEntry_ascending journal.ascending⟩

/-- Stores bytes from an address on, where the byte behind the last address is that at address
zero. -/
def store (journal : Journal) (address : UInt32) : List UInt8 → Journal
  | [] => journal
  | byte :: bytes => (journal.insert (Address.wrap address) byte).store (address + 1) bytes

/-- The last byte stored at an address. -/
def find? (journal : Journal) (address : UInt32) : Option UInt8 :=
  journal.entries.lookup address

/-- The bytes of storage from an address on as the journal lets them be seen. -/
def overlay (journal : Journal) (address : UInt32) {length : Nat} (bytes : Bytes length) :
    Bytes length :=
  if journal.entries.isEmpty then
    bytes
  else
    Vector.ofFn fun index =>
      (journal.find? (address + UInt32.ofNat index.val)).getD (bytes.get index)

/-- A run of bytes at consecutive addresses. -/
structure Run where
  start : UInt32
  bytes : List UInt8
  deriving DecidableEq, Repr

/-- Puts a byte in front of runs at higher addresses. -/
def consRun (address : UInt32) (byte : UInt8) : List Run → List Run
  | [] => [⟨address, [byte]⟩]
  | run :: runs =>
      if run.start = address + 1 then
        ⟨address, byte :: run.bytes⟩ :: runs
      else
        ⟨address, [byte]⟩ :: run :: runs

/-- The entries of the journal in runs as long as possible. -/
def runs (journal : Journal) : List Run :=
  journal.entries.foldr (fun entry runs => consRun entry.1 entry.2 runs) []

theorem find?_empty (address : UInt32) : empty.find? address = none :=
  rfl

theorem find?_insert (journal : Journal) (stored address : UInt32) (byte : UInt8) :
    (journal.insert stored byte).find? address =
      if address = stored then some byte else journal.find? address := by
  obtain ⟨entries, ascending⟩ := journal
  simp only [insert, find?]
  induction entries with
  | nil => grind [insertEntry]
  | cons head rest ih =>
      have tail := ih (List.pairwise_cons.mp ascending).2
      grind [insertEntry]

end Journal

end Assist370
