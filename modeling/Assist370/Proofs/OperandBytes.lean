import Assist370.Proofs.AddressSpace
import Assist370.Proofs.Evaluation

/-!
# Operands byte by byte

An operand in logical storage is cut into pieces at the ends of key blocks, and each piece is
translated and checked once. Where all of a key block has one key and a page is translated as a
whole (`Answers.UniformOn`), that comes to the same as to translate and check each byte of the
operand by itself (`Answers.located_split`). Where the halves of a page have one key besides
(`Answers.Uniform`), the size of a key block makes no difference.
-/

namespace Assist370

namespace Address

theorem wrap_eq_add {real other : UInt32} {distance : Nat} (sameFrame : frame real = frame other)
    (further : real.toNat % 0x1000 = other.toNat % 0x1000 + distance) :
    wrap real = wrap other + UInt32.ofNat distance := by
  have sameNat := congrArg UInt32.toNat sameFrame
  rw [toNat_frame, toNat_frame] at sameNat
  have real_lt := real.toNat_lt
  have other_lt := other.toNat_lt
  apply UInt32.toNat_inj.mp
  rw [UInt32.toNat_add, UInt32.toNat_ofNat', toNat_wrap, toNat_wrap, space]
  omega

theorem add_one_add (address : UInt32) (index : Nat) :
    address + 1 + UInt32.ofNat index = address + UInt32.ofNat (index + 1) := by
  rw [Nat.add_comm index, UInt32.ofNat_add, ← UInt32.add_assoc]
  rfl

end Address

namespace Piece

/-- The addresses of the piece. -/
def places (piece : Piece) : List UInt32 :=
  (List.range piece.length).map fun index => piece.address + UInt32.ofNat index

@[simp]
theorem length_places (piece : Piece) : piece.places.length = piece.length := by
  simp [places]

theorem places_succ (address : UInt32) (length : Nat) :
    places ⟨address, length + 1⟩ = address :: places ⟨address + 1, length⟩ := by
  simp only [places, List.range_succ_eq_map, List.map_cons, List.map_map]
  congr 1
  · simp
  · exact List.map_congr_left fun index _ => (Address.add_one_add address index).symm

theorem firstLength_inBlock (policy : Policy) (address : UInt32) (length : Nat) :
    (Address.wrap address).toNat % policy.keyBlock + firstLength policy address length ≤
      policy.keyBlock := by
  have inBlock := Nat.mod_lt (Address.wrap address).toNat policy.keyBlock_pos
  simp only [firstLength]
  omega

/-- Every piece takes a byte at least, so that there are no more of them than bytes. -/
theorem length_split_le (policy : Policy) (address : UInt32) (length : Nat) :
    (split policy address length).length ≤ length := by
  fun_induction split policy address length with
  | case1 address => simp
  | case2 address length nonempty positive size ih =>
      have fits : size ≤ length := Nat.min_le_right _ _
      rw [List.length_cons]
      omega

end Piece

/-- The bytes at the places of a list. -/
def Memory.bytesAt (memory : Memory) (places : List UInt32) : List UInt8 :=
  places.map memory.byte

/-- Stores bytes at the places of a list. -/
def Memory.storeAt (memory : Memory) : List UInt32 → List UInt8 → Memory
  | place :: places, value :: values => (memory.set place value).storeAt places values
  | _, _ => memory

theorem Memory.storeAt_append (memory : Memory) (places rest : List UInt32)
    (values : List UInt8) :
    memory.storeAt (places ++ rest) values =
      (memory.storeAt places (values.take places.length)).storeAt rest
        (values.drop places.length) := by
  induction places generalizing memory values with
  | nil => rfl
  | cons place places ih =>
      cases values with
      | nil => cases rest <;> rfl
      | cons value values => exact ih _ values

theorem Memory.toList_bytes (memory : Memory) (address : UInt32) (length : Nat) :
    (memory.bytes address length).toList = memory.bytesAt (Piece.places ⟨address, length⟩) := by
  apply List.ext_getElem
  · simp [bytes, bytesAt, Piece.places]
  · intro index _ _
    simp [bytes, bytesAt, Piece.places]

theorem Memory.store_take (memory : Memory) (address : UInt32) (length : Nat)
    (values : List UInt8) :
    memory.store address (values.take length) =
      memory.storeAt (Piece.places ⟨address, length⟩) (values.take length) := by
  induction length generalizing memory address values with
  | zero => rfl
  | succ length ih =>
      rw [Piece.places_succ]
      cases values with
      | nil => rfl
      | cons value values => exact ih _ _ values

namespace Answers

/-- Storage keys and translations do not tell the bytes of a page apart. -/
structure Uniform (answers : Answers) : Prop where
  key : ∀ address other : UInt32, address.toNat / 0x1000 = other.toNat / 0x1000 →
    (answers.key address).Alike (answers.key other)
  /-- A translation keeps the place in the page. -/
  offset : ∀ control0 control1 address real,
    answers.translation control0 control1 address = .ok real →
    real.toNat % 0x1000 = address.toNat % 0x1000
  page : ∀ control0 control1 (address other : UInt32),
    address.toNat / 0x1000 = other.toNat / 0x1000 →
    (answers.translation control0 control1 address).map Address.frame =
      (answers.translation control0 control1 other).map Address.frame

/-- Storage keys do not tell the bytes of a key block apart, nor translations those of a page. -/
structure UniformOn (answers : Answers) (policy : Policy) : Prop where
  key : ∀ address other : UInt32,
    address.toNat / policy.keyBlock = other.toNat / policy.keyBlock →
    (answers.key address).Alike (answers.key other)
  offset : ∀ control0 control1 address real,
    answers.translation control0 control1 address = .ok real →
    real.toNat % 0x1000 = address.toNat % 0x1000
  page : ∀ control0 control1 (address other : UInt32),
    address.toNat / 0x1000 = other.toNat / 0x1000 →
    (answers.translation control0 control1 address).map Address.frame =
      (answers.translation control0 control1 other).map Address.frame

/-- A key block of either size lies within a page. -/
theorem Uniform.on {answers : Answers} (uniform : answers.Uniform) (policy : Policy) :
    answers.UniformOn policy := by
  refine ⟨fun address other sameBlock => uniform.key address other ?_, uniform.offset,
    uniform.page⟩
  cases policy with
  | splitKeys =>
      rw [Policy.keyBlock] at sameBlock
      omega
  | pageKeys => exact sameBlock

theorem UniformOn.uniform {answers : Answers} (uniformOn : answers.UniformOn .pageKeys) :
    answers.Uniform :=
  ⟨uniformOn.key, uniformOn.offset, uniformOn.page⟩

variable (answers : Answers) (cpu : Cpu) (admits : StorageKey → Bool)

/-- The real address of a logical address. -/
def realAddress (address : UInt32) : Except Decline UInt32 :=
  if cpu.psw.translates then
    match answers.translation (cpu.control.read 0) (cpu.control.read 1)
      (Address.wrap address) with
    | .ok real => .ok (Address.wrap real)
    | .error _ => .error .translationException
  else
    .ok (Address.wrap address)

/-- The place in real storage of the byte at a logical address, if its block admits the access. -/
def place (address : UInt32) : Except Decline UInt32 :=
  match answers.realAddress cpu address with
  | .ok real =>
      if admits (answers.key real) then .ok real else .error .protectionException
  | .error reason => .error reason

/-- The places of the bytes of an operand, each of which has to admit the access. -/
def places (address : UInt32) : (length : Nat) → Except Decline (List UInt32)
  | 0 => return []
  | length + 1 => do
      let first ← answers.place cpu admits address
      let rest ← places (address + 1) length
      return first :: rest

/-- The real storage of pieces, each of which has to admit the access at its first byte. -/
def located : List Piece → Except Decline (List Piece)
  | [] => return []
  | piece :: pieces => do
      let real ← answers.place cpu admits piece.address
      let rest ← located pieces
      return ⟨real, piece.length⟩ :: rest

variable {answers cpu admits}

@[simp]
theorem place_wrap (address : UInt32) :
    answers.place cpu admits (Address.wrap address) = answers.place cpu admits address := by
  simp [place, realAddress]

theorem places_add (address : UInt32) (front back : Nat) :
    answers.places cpu admits address (front + back) = do
      let first ← answers.places cpu admits address front
      let rest ← answers.places cpu admits (address + UInt32.ofNat front) back
      return first ++ rest := by
  induction front generalizing address with
  | zero => simp [places]
  | succ front ih =>
      rw [Nat.succ_add]
      simp only [places, ih, Address.add_one_add, bind_assoc, pure_bind, List.cons_append]

section

variable {policy : Policy} (uniform : answers.UniformOn policy)
  (ofAlike : ∀ key other : StorageKey, key.Alike other → admits key = admits other)

include uniform

theorem realAddress_add {address : UInt32} {index : Nat}
    (inPage : (Address.wrap address).toNat % 0x1000 + index < 0x1000) :
    answers.realAddress cpu (address + UInt32.ofNat index) =
      (answers.realAddress cpu address).map (· + UInt32.ofNat index) := by
  have address_lt : (Address.wrap address).toNat < Address.space := Address.wrap_lt address
  have further : (Address.wrap (address + UInt32.ofNat index)).toNat =
      (Address.wrap address).toNat + index := by
    rw [Address.toNat_wrap, Address.space] at *
    rw [UInt32.toNat_add, UInt32.toNat_ofNat', Address.toNat_wrap, Address.space]
    omega
  simp only [realAddress]
  split
  · have page := uniform.page (cpu.control.read 0) (cpu.control.read 1)
      (Address.wrap (address + UInt32.ofNat index)) (Address.wrap address) (by omega)
    have offset := uniform.offset (cpu.control.read 0) (cpu.control.read 1)
      (Address.wrap address)
    have offset' := uniform.offset (cpu.control.read 0) (cpu.control.read 1)
      (Address.wrap (address + UInt32.ofNat index))
    generalize answers.translation _ _ (Address.wrap address) = first at page offset
    generalize answers.translation _ _ (Address.wrap (address + UInt32.ofNat index)) = other
      at page offset'
    rcases first with fault | real <;> rcases other with fault' | real' <;>
      simp only [Except.map, Except.ok.injEq, Except.error.injEq, reduceCtorEq] at page ⊢
    refine Address.wrap_eq_add page ?_
    rw [offset' _ rfl, offset _ rfl, further]
    omega
  · refine congrArg Except.ok (UInt32.toNat_inj.mp ?_)
    rw [UInt32.toNat_add, UInt32.toNat_ofNat', further]
    rw [Address.space] at address_lt
    omega

theorem realAddress_offset {address real : UInt32}
    (found : answers.realAddress cpu address = .ok real) :
    real.toNat % 0x1000 = (Address.wrap address).toNat % 0x1000 := by
  simp only [realAddress] at found
  split at found
  · have offset := uniform.offset (cpu.control.read 0) (cpu.control.read 1) (Address.wrap address)
    split at found
    · rename_i answer answered
      rw [← offset _ answered, ← Except.ok.inj found, Address.toNat_wrap, Address.space]
      omega
    · cases found
  · rw [← Except.ok.inj found]

include ofAlike

theorem place_add {address : UInt32} {index : Nat}
    (inBlock : (Address.wrap address).toNat % policy.keyBlock + index < policy.keyBlock) :
    answers.place cpu admits (address + UInt32.ofNat index) =
      (answers.place cpu admits address).map (· + UInt32.ofNat index) := by
  have inPage : (Address.wrap address).toNat % 0x1000 + index < 0x1000 := by
    cases policy <;> simp only [Policy.keyBlock] at inBlock <;> omega
  simp only [place, realAddress_add uniform inPage]
  cases found : answers.realAddress cpu address with
  | error reason => rfl
  | ok real =>
      have offset := realAddress_offset uniform found
      have real_lt := real.toNat_lt
      have sameBlock : (real + UInt32.ofNat index).toNat / policy.keyBlock =
          real.toNat / policy.keyBlock := by
        rw [UInt32.toNat_add, UInt32.toNat_ofNat']
        cases policy <;> simp only [Policy.keyBlock] at inBlock ⊢ <;> omega
      have sameKey := ofAlike _ _ (uniform.key _ _ sameBlock)
      simp only [Except.map, sameKey]
      split <;> rfl

/-- A piece of an operand within a key block is found by its first byte. -/
theorem places_inBlock {address : UInt32} {length : Nat} (nonempty : 0 < length)
    (inBlock : (Address.wrap address).toNat % policy.keyBlock + length ≤ policy.keyBlock) :
    answers.places cpu admits address length =
      (answers.place cpu admits address).map fun real => Piece.places ⟨real, length⟩ := by
  obtain ⟨length, rfl⟩ := Nat.exists_eq_add_one.mpr nonempty
  clear nonempty
  induction length generalizing address with
  | zero =>
      simp only [places]
      cases answers.place cpu admits address with
      | error reason => rfl
      | ok real => simp [Except.map, Piece.places, bind, Except.bind, pure, Except.pure]
  | succ length ih =>
      have next : answers.place cpu admits (address + 1) =
          (answers.place cpu admits address).map (· + 1) :=
        @place_add _ _ _ policy uniform ofAlike address 1 (by omega)
      have further : (Address.wrap (address + 1)).toNat % policy.keyBlock + (length + 1) ≤
          policy.keyBlock := by
        rw [Address.toNat_wrap, Address.space] at *
        rw [UInt32.toNat_add, UInt32.toNat_one]
        cases policy <;> simp only [Policy.keyBlock] at inBlock ⊢ <;> omega
      rw [places, ih further, next]
      cases answers.place cpu admits address with
      | error reason => rfl
      | ok real => simp [Except.map, Piece.places_succ, bind, Except.bind, pure, Except.pure]

/-- The pieces of an operand have the places of its bytes. -/
theorem located_split (address : UInt32) (length : Nat) :
    (answers.located cpu admits (Piece.split policy address length)).map
      (·.flatMap Piece.places) = answers.places cpu admits address length := by
  fun_induction Piece.split policy address length with
  | case1 address => rfl
  | case2 address length nonempty positive size ih =>
      have fits : size ≤ length := Nat.min_le_right _ _
      -- The first piece ends where its key block does, if not before.
      have cut := @places_add answers cpu admits address size (length - size)
      rw [show size + (length - size) = length by omega] at cut
      rw [cut, places_inBlock uniform ofAlike positive
        (Piece.firstLength_inBlock policy address length), ← ih, located, place_wrap]
      cases answers.place cpu admits address with
      | error reason => rfl
      | ok real =>
          cases answers.located cpu admits
            (Piece.split policy (address + UInt32.ofNat size) (length - size)) with
          | error reason => rfl
          | ok rest => rfl

end

end Answers

namespace Microcode

variable {answers : Answers} {scene : Scene}

@[simp]
theorem eval_loadRealAddress (address : UInt32) :
    (loadRealAddress address).eval answers scene =
      (.ok ((answers.translation (scene.cpu.control.read 0) (scene.cpu.control.read 1)
        (Address.wrap address)).map Address.wrap), scene) :=
  rfl

theorem realAddress_eval (address : UInt32) :
    (realAddress address).eval answers scene = (answers.realAddress scene.cpu address, scene) := by
  simp only [realAddress, Answers.realAddress, eval_bind, eval_registers, eval_ite,
    eval_loadRealAddress]
  by_cases translates : scene.cpu.psw.translates
  · simp only [if_pos translates]
    cases answers.translation _ _ (Address.wrap address) with
    | error fault => rfl
    | ok real => rfl
  · simp only [if_neg translates]
    rfl

theorem wrap_realAddress {address real : UInt32}
    (found : answers.realAddress scene.cpu address = .ok real) : Address.wrap real = real := by
  simp only [Answers.realAddress] at found
  split at found
  · split at found
    · rw [← Except.ok.inj found, Address.wrap_wrap]
    · cases found
  · rw [← Except.ok.inj found, Address.wrap_wrap]

theorem resolve_eval (admits : StorageKey → Bool) (pieces : List Piece) :
    (resolve admits pieces).eval answers scene =
      (answers.located scene.cpu admits pieces, scene) := by
  induction pieces with
  | nil => rfl
  | cons piece pieces ih =>
      rw [resolve, Answers.located, Answers.place, eval_bind, realAddress_eval]
      cases found : answers.realAddress scene.cpu piece.address with
      | error reason => rfl
      | ok real =>
          dsimp only
          rw [eval_bind, eval_storageKey, wrap_realAddress found]
          simp only [eval_bind, eval_require, eval_pure]
          cases admits (answers.key real) with
          | false => rfl
          | true =>
              simp only [↓reduceIte, ih]
              cases answers.located scene.cpu admits pieces with
              | error reason => rfl
              | ok rest => rfl

theorem fetchPieces_eval (pieces : List Piece) :
    (fetchPieces pieces).eval answers scene =
      (.ok (scene.memory.bytesAt (pieces.flatMap Piece.places)), scene) := by
  induction pieces with
  | nil => rfl
  | cons piece pieces ih =>
      rw [fetchPieces, eval_bind, eval_perform]
      dsimp only [Action.eval]
      rw [eval_bind, ih]
      simp [Memory.toList_bytes, Memory.bytesAt]

theorem storePieces_eval (pieces : List Piece) (bytes : List UInt8) :
    (storePieces pieces bytes).eval answers scene =
      (.ok (), { scene with
        memory := scene.memory.storeAt (pieces.flatMap Piece.places) bytes }) := by
  induction pieces generalizing bytes scene with
  | nil => rfl
  | cons piece pieces ih =>
      rw [storePieces, eval_bind, eval_perform]
      dsimp only [Action.eval]
      rw [ih, List.flatMap_cons, Memory.storeAt_append, Piece.length_places, Memory.store_take]

variable {policy : Policy} (uniform : answers.UniformOn policy)

include uniform

/-- A fetch from logical storage is a fetch of bytes. -/
theorem fetchLogicalBytes_eval (address : UInt32) (length : Nat)
    (protection : BitVec 4) :
    (fetchLogicalBytes policy address length protection).eval answers scene =
      ((answers.places scene.cpu (·.admitsFetch protection) address length).map
        scene.memory.bytesAt, scene) := by
  rw [← Answers.located_split uniform (fun _ _ alike => alike.admitsFetch protection)]
  simp only [fetchLogicalBytes, eval_bind, resolve_eval]
  cases answers.located scene.cpu _ (Piece.split policy address length) with
  | error reason => rfl
  | ok pieces => exact fetchPieces_eval pieces

/-- A store into logical storage is a store of bytes, and none is stored unless all are admitted. -/
theorem storeLogicalBytes_eval (address : UInt32) (bytes : List UInt8)
    (protection : BitVec 4) :
    (storeLogicalBytes policy address bytes protection).eval answers scene =
      match answers.places scene.cpu (·.admitsStore protection) address bytes.length with
      | .ok places => (.ok (), { scene with memory := scene.memory.storeAt places bytes })
      | .error reason => (.error reason, scene) := by
  rw [← Answers.located_split uniform (fun _ _ alike => alike.admitsStore protection)]
  simp only [storeLogicalBytes, eval_bind, resolve_eval]
  cases answers.located scene.cpu _ (Piece.split policy address bytes.length) with
  | error reason => rfl
  | ok pieces => exact storePieces_eval pieces bytes

end Microcode

end Assist370
