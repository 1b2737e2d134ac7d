import Assist370.Journal
import Assist370.Microcode.Storage

/-!
# Storage as bytes at addresses

A `Memory` has a byte at each address. Values are read from it and put into it at the fields of
control blocks, and what is put into one region is not seen in another region apart from it. The
journal of an assist turns the memory below it into the one that the assist sees
(`Journal.onto_store`).
-/

namespace Assist370

/-- The members of a list of bytes or words are looked at one by one, not all values of the type. -/
instance (priority := 2000) decidableMembers {α : Type} (values : List α) (property : α → Prop)
    [DecidablePred property] : Decidable (∀ value ∈ values, property value) :=
  List.decidableBAll property values

/-- Consecutive addresses, where the address behind the last one is zero. -/
structure Region where
  start : UInt32
  length : Nat
  deriving DecidableEq, Repr

namespace Region

variable {region other : Region}

/-- The place of an address in a region that starts at another. -/
def distance (start address : UInt32) : Nat :=
  (Address.wrap (address - start)).toNat

/-- The address lies in the region. -/
def Contains (region : Region) (address : UInt32) : Prop :=
  distance region.start address < region.length

instance (region : Region) (address : UInt32) : Decidable (region.Contains address) :=
  inferInstanceAs (Decidable (_ < _))

/-- No address lies in both regions. -/
def Apart (region other : Region) : Prop :=
  ∀ address, region.Contains address → ¬other.Contains address

/-- Every address of the region lies in the other one. -/
def Within (region other : Region) : Prop :=
  ∀ address, region.Contains address → other.Contains address

theorem Apart.symm (apart : region.Apart other) : other.Apart region :=
  fun address inOther inRegion => apart address inRegion inOther

theorem Apart.mono {inner outer : Region} (apart : outer.Apart other)
    (within : inner.Within outer) : inner.Apart other :=
  fun address inInner => apart address (within address inInner)

theorem Apart.mono_right {inner outer : Region} (apart : region.Apart outer)
    (within : inner.Within outer) : region.Apart inner :=
  fun address inRegion inInner => apart address inRegion (within address inInner)

theorem Apart.parts {inner otherInner : Region} (apart : region.Apart other)
    (within : inner.Within region) (otherWithin : otherInner.Within other) :
    inner.Apart otherInner :=
  (apart.mono within).mono_right otherWithin

theorem distance_eq (start address : UInt32) :
    distance start address = (0x100000000 - start.toNat + address.toNat) % Address.space := by
  have start_lt := start.toNat_lt
  simp only [distance, Address.toNat_wrap, UInt32.toNat_sub, Address.space]
  omega

/-- Regions whose starts lie far enough from each other, both ways round, are apart. -/
theorem apart_of_distance (above : region.length ≤ distance region.start other.start)
    (below : other.length ≤ distance other.start region.start) : region.Apart other := by
  intro address inRegion inOther
  have first_lt := region.start.toNat_lt
  have second_lt := other.start.toNat_lt
  simp only [Contains, distance_eq, Address.space] at *
  omega

theorem apart_iff : region.Apart other ↔ region.length = 0 ∨ other.length = 0 ∨
    (region.length ≤ distance region.start other.start ∧
      other.length ≤ distance other.start region.start) := by
  constructor
  · intro apart
    have atOther := apart other.start
    have atRegion := apart region.start
    have start_lt := region.start.toNat_lt
    have other_lt := other.start.toNat_lt
    simp only [Contains, distance_eq, Address.space] at *
    omega
  · rintro (empty | empty | ⟨above, below⟩)
    · exact fun address inRegion => by simp [Contains, empty] at inRegion
    · exact fun address _ inOther => by simp [Contains, empty] at inOther
    · exact apart_of_distance above below

instance (region other : Region) : Decidable (region.Apart other) :=
  decidable_of_iff _ apart_iff.symm

theorem within_of_distance
    (inside : distance other.start region.start + region.length ≤ other.length) :
    region.Within other := by
  intro address inRegion
  have first_lt := region.start.toNat_lt
  have second_lt := other.start.toNat_lt
  simp only [Contains, distance_eq, Address.space] at *
  omega

theorem distance_add_add (base start address : UInt32) :
    distance (base + start) (base + address) = distance start address := by
  have difference : base + address - (base + start) = address - start := by
    grind
  simp only [distance, difference]

theorem contains_add {start : UInt32} {length index : Nat} (index_lt : index < length) :
    Contains ⟨start, length⟩ (start + UInt32.ofNat index) := by
  have start_lt := start.toNat_lt
  simp only [Contains, distance_eq, UInt32.toNat_add, UInt32.toNat_ofNat', Address.space]
  omega

theorem contains_wrap {address : UInt32} :
    region.Contains (Address.wrap address) ↔ region.Contains address := by
  have start_lt := region.start.toNat_lt
  have address_lt := address.toNat_lt
  simp only [Contains, distance_eq, Address.toNat_wrap, Address.space] at *
  omega

theorem contains_one {start address : UInt32} :
    Contains ⟨start, 1⟩ address ↔ Address.wrap address = Address.wrap start := by
  have start_lt := start.toNat_lt
  have address_lt := address.toNat_lt
  rw [← UInt32.toNat_inj]
  simp only [Contains, distance_eq, Address.toNat_wrap, Address.space] at *
  omega

theorem apart_one {place : UInt32} (outside : ¬region.Contains place) :
    region.Apart ⟨place, 1⟩ := by
  intro address inRegion isPlace
  rw [← contains_wrap, ← contains_one.mp isPlace, contains_wrap] at outside
  exact outside inRegion

/-- An address of a region is its first one or lies behind that. -/
theorem contains_succ {start address : UInt32} {length : Nat}
    (contains : Contains ⟨start, length + 1⟩ address)
    (different : Address.wrap address ≠ Address.wrap start) :
    Contains ⟨start + 1, length⟩ address := by
  have start_lt := start.toNat_lt
  have address_lt := address.toNat_lt
  have behind : ¬Contains ⟨start, 1⟩ address := fun first => different (contains_one.mp first)
  simp only [Contains, distance_eq, UInt32.toNat_add, Address.space] at *
  simp at *
  omega

/-- Parts of one block are apart if they are so in a block at address zero. -/
theorem apart_add {start other : UInt32} {length otherLength : Nat} (block : UInt32)
    (above : length ≤ distance start other) (below : otherLength ≤ distance other start) :
    Apart ⟨block + start, length⟩ ⟨block + other, otherLength⟩ := by
  apply apart_of_distance
  · rwa [distance_add_add]
  · rwa [distance_add_add]

/-- A part lies within its block if it does so in a block at address zero. -/
theorem within_block {start : UInt32} {length whole : Nat} (block : UInt32)
    (inside : start.toNat + length ≤ whole) (start_lt : start.toNat < Address.space) :
    Within ⟨block + start, length⟩ ⟨block, whole⟩ := by
  apply within_of_distance
  have block_lt := block.toNat_lt
  have offset_lt := start.toNat_lt
  simp only [distance_eq, UInt32.toNat_add, Address.space] at *
  omega

/-- The region of a field of the block at an address. -/
def ofField {α : Type} [Stored α] (block : UInt32) (field : Field α) : Region :=
  ⟨block + field.offset, Stored.size α⟩

theorem ofField_apart {α β : Type} [Stored α] [Stored β] {field : Field α} {otherField : Field β}
    (block : UInt32)
    (above : Stored.size α ≤ distance field.offset otherField.offset)
    (below : Stored.size β ≤ distance otherField.offset field.offset) :
    (ofField block field).Apart (ofField block otherField) :=
  apart_add block above below

theorem ofField_within {α : Type} [Stored α] {field : Field α} (block : UInt32) {length : Nat}
    (inside : field.offset.toNat + Stored.size α ≤ length)
    (offset_lt : field.offset.toNat < Address.space) :
    (ofField block field).Within ⟨block, length⟩ :=
  within_block block inside offset_lt

end Region

namespace Field

variable {α : Type} [Stored α]

theorem item_item (field : Field α) (first second : Nat) :
    (field.item first).item second = field.item (first + second) := by
  simp [item, Nat.mul_add, UInt32.ofNat_add, UInt32.add_assoc]

end Field

/-- A byte at each address. -/
def Memory : Type :=
  UInt32 → UInt8

namespace Memory

variable (memory : Memory)

/-- The byte at an address. -/
def byte (address : UInt32) : UInt8 :=
  memory (Address.wrap address)

/-- Replaces the byte at an address. -/
def set (address : UInt32) (value : UInt8) : Memory :=
  fun place => if place = Address.wrap address then value else memory place

/-- Stores bytes from an address on. -/
def store (memory : Memory) (address : UInt32) : List UInt8 → Memory
  | [] => memory
  | value :: values => (memory.set address value).store (address + 1) values

/-- The bytes from an address on. -/
def bytes (address : UInt32) (length : Nat) : Bytes length :=
  Vector.ofFn fun index => memory.byte (address + UInt32.ofNat index.val)

theorem byte_congr {address place : UInt32} (same : Address.wrap address = Address.wrap place) :
    memory.byte address = memory.byte place :=
  congrArg memory same

theorem bytes_wrap (address : UInt32) (length : Nat) :
    memory.bytes (Address.wrap address) length = memory.bytes address length := by
  apply Vector.ext
  intro index index_lt
  simp only [bytes, Vector.getElem_ofFn]
  apply byte_congr
  apply UInt32.toNat_inj.mp
  simp only [Address.toNat_wrap, UInt32.toNat_add, UInt32.toNat_ofNat', Address.space]
  omega

/-- Bytes that run over the last address go on at address zero. -/
theorem bytes_around {start : UInt32} {length room : Nat}
    (toEnd : start.toNat + room = Address.space) (beyond : room ≤ length) :
    memory.bytes start length =
      (memory.bytes start room ++ memory.bytes 0 (length - room)).cast (by omega) := by
  apply Vector.ext
  intro index index_lt
  by_cases below : index < room
  · simp [bytes, below]
  · have behind : room ≤ index := by omega
    have total_lt : index < room + (length - room) := by omega
    simp only [bytes, Vector.getElem_cast, Vector.getElem_append_right total_lt behind,
      Vector.getElem_ofFn]
    apply byte_congr
    apply UInt32.toNat_inj.mp
    simp only [Address.toNat_wrap, UInt32.toNat_add, UInt32.toNat_ofNat', Address.space] at *
    simp
    omega

variable {α : Type} [Stored α]

/-- The value of a field of the block at an address. -/
def get (block : UInt32) (field : Field α) : α :=
  Stored.decode (memory.bytes (block + field.offset) (Stored.size α))

/-- Replaces the value of a field of the block at an address. -/
def put (block : UInt32) (field : Field α) (value : α) : Memory :=
  memory.store (block + field.offset) (Stored.encode value).toList

/-- The address in the word at a field of the block at an address. -/
def getAddress (block : UInt32) (field : Field UInt32) : UInt32 :=
  Address.wrap (memory.get block field)

@[simp]
theorem byte_set (address place : UInt32) (value : UInt8) :
    (memory.set address value).byte place =
      if Address.wrap place = Address.wrap address then value else memory.byte place :=
  rfl

theorem byte_store_of_not_contains (address : UInt32) (values : List UInt8) {place : UInt32}
    (outside : ¬Region.Contains ⟨address, values.length⟩ place) :
    (memory.store address values).byte place = memory.byte place := by
  induction values generalizing memory address with
  | nil => rfl
  | cons value values ih =>
      have address_lt := address.toNat_lt
      have place_lt := place.toNat_lt
      have behind : ¬Region.Contains ⟨address + 1, values.length⟩ place := by
        simp only [Region.Contains, Region.distance_eq, List.length_cons, UInt32.toNat_add,
          Address.space] at *
        simp at *
        omega
      have different : Address.wrap place ≠ Address.wrap address := by
        intro same
        have sameNat := congrArg UInt32.toNat same
        simp only [Address.toNat_wrap, Address.space] at sameNat
        simp only [Region.Contains, Region.distance_eq, List.length_cons, Address.space]
          at outside
        omega
      rw [store, ih _ _ behind, byte_set, if_neg different]

theorem byte_store_add (address : UInt32) (values : List UInt8) {index : Nat}
    (index_lt : index < values.length) (fits : values.length ≤ Address.space) :
    (memory.store address values).byte (address + UInt32.ofNat index) = values[index] := by
  induction values generalizing memory address index with
  | nil => simp at index_lt
  | cons value values ih =>
      have address_lt := address.toNat_lt
      simp only [List.length_cons] at index_lt fits
      cases index with
      | zero =>
          have outside : ¬Region.Contains ⟨address + 1, values.length⟩ address := by
            simp only [Region.Contains, Region.distance_eq, UInt32.toNat_add, Address.space] at *
            simp at *
            omega
          simp [store, byte_store_of_not_contains _ _ _ outside]
      | succ index =>
          have successor :
              address + UInt32.ofNat (index + 1) = address + 1 + UInt32.ofNat index := by
            rw [UInt32.ofNat_add]
            grind
          rw [store, successor, ih _ _ (by omega) (by omega)]
          rfl

/-- The memories have the same bytes in a region. -/
def AgreesOn (memory other : Memory) (region : Region) : Prop :=
  ∀ address, region.Contains address → memory.byte address = other.byte address

variable {memory} {other : Memory}

theorem AgreesOn.mono {inner outer : Region} (agrees : memory.AgreesOn other outer)
    (within : inner.Within outer) : memory.AgreesOn other inner :=
  fun address inInner => agrees address (within address inInner)

theorem AgreesOn.trans {third : Memory} {region : Region} (first : memory.AgreesOn other region)
    (second : other.AgreesOn third region) : memory.AgreesOn third region :=
  fun address inRegion => (first address inRegion).trans (second address inRegion)

theorem AgreesOn.bytes_eq {start : UInt32} {length : Nat}
    (agrees : memory.AgreesOn other ⟨start, length⟩) :
    memory.bytes start length = other.bytes start length := by
  apply Vector.ext
  intro index index_lt
  simp [bytes, agrees _ (Region.contains_add index_lt)]

theorem AgreesOn.get_eq {block : UInt32} {field : Field α}
    (agrees : memory.AgreesOn other (.ofField block field)) :
    memory.get block field = other.get block field := by
  simp only [get, AgreesOn.bytes_eq agrees]

theorem AgreesOn.getAddress_eq {block : UInt32} {field : Field UInt32}
    (agrees : memory.AgreesOn other (.ofField block field)) :
    memory.getAddress block field = other.getAddress block field :=
  congrArg Address.wrap agrees.get_eq

/-- A region apart from what is stored keeps its bytes. -/
theorem store_agreesOn (address : UInt32) (values : List UInt8) {region : Region}
    (apart : Region.Apart ⟨address, values.length⟩ region) :
    (memory.store address values).AgreesOn memory region :=
  fun place inRegion => byte_store_of_not_contains memory address values
    fun inStored => apart place inStored inRegion

theorem put_agreesOn {block : UInt32} {field : Field α} (value : α) {region : Region}
    (apart : (Region.ofField block field).Apart region) :
    (memory.put block field value).AgreesOn memory region := by
  apply store_agreesOn
  simpa [Region.ofField] using apart

theorem bytes_store (address : UInt32) {length : Nat} (values : Bytes length)
    (fits : length ≤ Address.space) :
    (memory.store address values.toList).bytes address length = values := by
  apply Vector.ext
  intro index index_lt
  have inValues : index < values.toList.length := by simpa using index_lt
  have stored := memory.byte_store_add address values.toList inValues (by simpa using fits)
  simpa [bytes] using stored

theorem get_put (memory : Memory) (block : UInt32) (field : Field α) (value : α)
    (fits : Stored.size α ≤ Address.space) :
    (memory.put block field value).get block field = Stored.decode (Stored.encode value) := by
  simp only [get, put, bytes_store _ _ fits]

end Memory

/-- Values that storage gives back as they have been stored. -/
class Stored.Exact (α : Type) [Stored α] : Prop where
  fits : Stored.size α ≤ Address.space
  decode_encode : ∀ value : α, Stored.decode (Stored.encode value) = value

instance : Stored.Exact UInt8 :=
  ⟨by decide, fun _ => rfl⟩

instance : Stored.Exact UInt16 :=
  ⟨by decide, Bytes.halfword_ofHalfword⟩

instance : Stored.Exact UInt32 :=
  ⟨by decide, Bytes.word_ofWord⟩

instance : Stored.Exact UInt64 :=
  ⟨by decide, Bytes.doubleword_ofDoubleword⟩

/-- Values that their bytes in storage can be told from. -/
class Stored.Lossless (α : Type) [Stored α] : Prop where
  encode_decode : ∀ bytes : Bytes (Stored.size α), Stored.encode (@Stored.decode α _ bytes) = bytes

instance : Stored.Lossless UInt8 where
  encode_decode bytes := by
    apply Vector.ext
    intro index index_lt
    obtain rfl : index = 0 := Nat.lt_one_iff.mp index_lt
    rfl

namespace Memory

variable {α β : Type} [Stored α] [Stored β]

@[simp]
theorem get_put_self [Stored.Exact α] (memory : Memory) (block : UInt32) (field : Field α)
    (value : α) : (memory.put block field value).get block field = value := by
  rw [get_put _ _ _ _ Stored.Exact.fits, Stored.Exact.decode_encode]

/-- A value stored into a block leaves the values of other fields of the block. -/
theorem get_put_field {memory : Memory} {block : UInt32} {field : Field α} {other : Field β}
    (value : α)
    (above : Stored.size α ≤ Region.distance field.offset other.offset)
    (below : Stored.size β ≤ Region.distance other.offset field.offset) :
    (memory.put block field value).get block other = memory.get block other :=
  (put_agreesOn value (Region.ofField_apart block above below)).get_eq

theorem get_byte (memory : Memory) (block : UInt32) (field : Field UInt8) :
    memory.get block field = memory.byte (block + field.offset) := by
  change memory.byte (block + field.offset + UInt32.ofNat 0) = _
  rw [show UInt32.ofNat 0 = 0 from rfl, UInt32.add_zero]

/-- To store the bytes that stand there changes nothing. -/
theorem store_bytes (memory : Memory) (address : UInt32) (values : List UInt8)
    (stand : ∀ index (index_lt : index < values.length),
      values[index] = memory.byte (address + UInt32.ofNat index)) :
    memory.store address values = memory := by
  induction values generalizing address with
  | nil => rfl
  | cons value values ih =>
      have first : memory.set address value = memory := by
        have stands : value = memory.byte (address + 0) := stand 0 (by simp)
        rw [stands, UInt32.add_zero]
        funext place
        rw [set]
        split
        · rename_i here
          rw [here]
          rfl
        · rfl
      rw [store, first]
      refine ih (address + 1) fun index index_lt => ?_
      have behind := stand (index + 1) (by simpa using index_lt)
      rw [UInt32.ofNat_add] at behind
      rw [show address + 1 + UInt32.ofNat index = address + (UInt32.ofNat index + 1) by grind]
      exact behind

/-- To store the value that stands there changes nothing. -/
theorem put_get [Stored.Lossless α] (memory : Memory) (block : UInt32) (field : Field α) :
    memory.put block field (memory.get block field) = memory := by
  rw [put, get, Stored.Lossless.encode_decode]
  apply store_bytes
  intro index index_lt
  simp [bytes]

end Memory

/-- The formats of a PSW keep its system mask and its states. -/
theorem Psw.ofBytes_toBytes (psw : Psw) :
    (ofBytes psw.toBytes).systemMask = psw.systemMask ∧
      (ofBytes psw.toBytes).states = psw.states := by
  have first : psw.toBytes.byte 0 = psw.systemMask ∧
      psw.toBytes.byte 1 = psw.states.toByte := by
    cases extended : psw.isExtended <;> simp only [toBytes, extended] <;> exact ⟨rfl, rfl⟩
  simp only [ofBytes, first, MachineStates.ofByte_toByte]
  split <;> exact ⟨rfl, rfl⟩

theorem Memory.get_put_psw (memory : Memory) (block : UInt32) (field : Field Psw) (psw : Psw) :
    ((memory.put block field psw).get block field).systemMask = psw.systemMask ∧
      ((memory.put block field psw).get block field).states = psw.states := by
  rw [get_put _ _ _ _ (by decide)]
  exact psw.ofBytes_toBytes

namespace Journal

/-- The memory that an assist sees whose stores are in the journal. -/
def onto (journal : Journal) (memory : Memory) : Memory :=
  fun place => (journal.find? place).getD (memory place)

theorem byte_onto (journal : Journal) (memory : Memory) (address : UInt32) :
    (journal.onto memory).byte address =
      (journal.find? (Address.wrap address)).getD (memory.byte address) :=
  rfl

@[simp]
theorem onto_empty (memory : Memory) : empty.onto memory = memory := by
  funext place
  simp [onto, find?_empty]

theorem onto_insert (journal : Journal) (memory : Memory) (address : UInt32) (value : UInt8) :
    (journal.insert (Address.wrap address) value).onto memory =
      (journal.onto memory).set address value := by
  funext place
  simp only [onto, find?_insert, Memory.set]
  split <;> rfl

theorem onto_store (journal : Journal) (memory : Memory) (address : UInt32)
    (values : List UInt8) :
    (journal.store address values).onto memory = (journal.onto memory).store address values := by
  induction values generalizing journal address with
  | nil => rfl
  | cons value values ih => rw [store, ih, onto_insert, Memory.store]

/-- A byte has been stored at every address of the region. -/
def Covers (journal : Journal) (region : Region) : Prop :=
  ∀ place, region.Contains place → (journal.find? (Address.wrap place)).isSome

theorem Covers.store {journal : Journal} {region : Region} (covers : journal.Covers region)
    (address : UInt32) (bytes : List UInt8) : (journal.store address bytes).Covers region := by
  induction bytes generalizing journal address with
  | nil => exact covers
  | cons byte bytes ih =>
      refine ih (fun place inRegion => ?_) (address + 1)
      rw [find?_insert]
      split
      · rfl
      · exact covers place inRegion

theorem covers_store (journal : Journal) (address : UInt32) (bytes : List UInt8) :
    (journal.store address bytes).Covers ⟨address, bytes.length⟩ := by
  induction bytes generalizing journal address with
  | nil => exact fun place inRegion => absurd inRegion (Nat.not_lt_zero _)
  | cons byte bytes ih =>
      intro place inRegion
      by_cases first : Address.wrap place = Address.wrap address
      · have single : (journal.insert (Address.wrap address) byte).Covers ⟨address, 1⟩ := by
          intro other isFirst
          rw [find?_insert, if_pos (Region.contains_one.mp isFirst)]
          rfl
        exact single.store (address + 1) bytes place (Region.contains_one.mpr first)
      · exact ih _ (address + 1) place (Region.contains_succ inRegion first)

/-- The journal laid over the bytes of a region gives the bytes that the assist sees there. -/
theorem overlay_bytes (journal : Journal) (memory : Memory) (start : UInt32) (length : Nat)
    (inSpace : start.toNat + length ≤ Address.space) :
    journal.overlay start (memory.bytes start length) =
      (journal.onto memory).bytes start length := by
  have start_lt := start.toNat_lt
  apply Vector.ext
  intro index index_lt
  have inPlace : Address.wrap (start + UInt32.ofNat index) = start + UInt32.ofNat index := by
    apply Address.wrap_of_lt
    simp only [UInt32.toNat_add, UInt32.toNat_ofNat', Address.space] at *
    omega
  simp only [overlay]
  split
  · rename_i isEmpty
    have none_found : journal.find? (start + UInt32.ofNat index) = none := by
      simp [find?, List.isEmpty_iff.mp isEmpty]
    simp [Memory.bytes, byte_onto, inPlace, none_found]
  · simp [Memory.bytes, byte_onto, inPlace, Vector.get]
    rfl

end Journal

end Assist370
