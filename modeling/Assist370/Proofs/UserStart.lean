import Assist370.Proofs.PendingInterruption
import Assist370.Proofs.UserSelection

/-!
# The start of a user

A user starts once the dispatcher has decided its assists and has told its MICBLOK of the
interruptions that it has found pending (`Dispatcher.enableAssists_achieves`). The start stores into
parts of the prefixed storage area and of the VMBLOK (`Dispatcher.startRegions`) and nowhere else.
-/

namespace Assist370

/-- The action stores into some regions at most. -/
@[simp]
def Action.StoresWithin (regions : List Region) : Action → Prop
  | store address bytes => ∃ region ∈ regions, Region.Within ⟨address, bytes.length⟩ region
  | _ => True

/-- The action fetches. -/
@[simp]
def Action.Fetches : Action → Prop
  | fetch _ _ => True
  | _ => False

/-- The prefixed storage area. -/
def prefixRegion : Region :=
  ⟨PrefixArea.base, 0x380⟩

/-- The VMBLOK of a user. -/
def vmblokRegion (user : UInt32) : Region :=
  ⟨user, 0xc0⟩

/-- The address of the MICBLOK in the VMBLOK of a user. -/
def micblokAddressRegion (user : UInt32) : Region :=
  ⟨user + Vmblok.assistControl.offset + 1, 3⟩

/-- The byte of a MICBLOK with the pending flag. -/
def flagField : Field UInt8 :=
  ⟨Micblok.pendingOffset⟩

/-- Parts of a block, as offsets with lengths, that lie at an address. -/
def partRegions (block : UInt32) (parts : List (UInt32 × Nat)) : List Region :=
  parts.map fun part => ⟨block + part.1, part.2⟩

theorem partRegions_within {block : UInt32} {whole : Nat} {parts : List (UInt32 × Nat)}
    (inside : ∀ part ∈ parts, part.1.toNat + part.2 ≤ whole ∧ part.1.toNat < Address.space) :
    ∀ region ∈ partRegions block parts, region.Within ⟨block, whole⟩ := by
  intro region region_mem
  obtain ⟨part, part_mem, rfl⟩ := List.mem_map.mp region_mem
  exact Region.within_block block (inside part part_mem).1 (inside part part_mem).2

/-- The parts of a block are apart from what the block is apart from. -/
theorem partRegions_apart {block : UInt32} {whole : Nat} {parts : List (UInt32 × Nat)}
    {region : Region}
    (inside : ∀ part ∈ parts, part.1.toNat + part.2 ≤ whole ∧ part.1.toNat < Address.space)
    (apart : Region.Apart ⟨block, whole⟩ region) :
    ∀ stored ∈ partRegions block parts, stored.Apart region :=
  fun stored stored_mem => apart.mono (partRegions_within inside stored stored_mem)

theorem partRegions_apart_part {block start : UInt32} {length : Nat}
    {parts : List (UInt32 × Nat)}
    (clear : ∀ part ∈ parts, part.2 ≤ Region.distance part.1 start ∧
      length ≤ Region.distance start part.1) :
    ∀ stored ∈ partRegions block parts, stored.Apart ⟨block + start, length⟩ := by
  intro stored stored_mem
  obtain ⟨part, part_mem, rfl⟩ := List.mem_map.mp stored_mem
  exact Region.apart_add block (clear part part_mem).1 (clear part part_mem).2

section Words

theorem BitField.isOn_bit {size : Nat} (index : Nat) (word : BitVec size) :
    (bit index).isOn word = word.getLsbD index := by
  have single : (bit index).get word = BitVec.ofBool (word.getLsbD index) := by
    apply BitVec.eq_of_getLsbD_eq
    intro place place_lt
    obtain rfl : place = 0 := Nat.lt_one_iff.mp place_lt
    simp [get, bit]
  rw [isOn, single]
  cases word.getLsbD index <;> rfl

/-- The address bits of a word are those of its last three bytes. -/
theorem Address.wrap_word (bytes : Bytes 4) :
    wrap (Bytes.word bytes) =
      (bytes.byte 1).toUInt32 <<< 16 ||| (bytes.byte 2).toUInt32 <<< 8 |||
        (bytes.byte 3).toUInt32 := by
  have above : ∀ index < 32, 24 ≤ index → (0xffffff : BitVec 32).getLsbD index = false := by
    decide
  have below : ∀ index < 24, (0xffffff : BitVec 32).getLsbD index = true := by
    decide
  apply UInt32.toBitVec_inj.mp
  apply BitVec.eq_of_getLsbD_eq
  intro index index_lt
  simp [wrap, mask, Bytes.word, Bytes.byte]
  grind

namespace AssistControl

/-- The flag for the assists of a virtual machine stands in the first byte. -/
theorem vmAssist_word (bytes : Bytes 4) :
    (ofWord (Bytes.word bytes)).vmAssist = (bytes.byte 0 &&& vmAssistFlag != 0) := by
  have first : ∀ byte : UInt8, (byte &&& vmAssistFlag != 0) = byte.toBitVec.getLsbD 7 := by
    rintro ⟨bits⟩
    revert bits
    decide +kernel
  rw [first, vmAssist, vmAssistField, BitField.isOn_bit]
  simp [ofWord, Bytes.word, Bytes.byte]

theorem micblok_ofWord {word : UInt32} (aligned : word &&& 7 = 0) :
    (ofWord word).micblok = Address.wrap word := by
  have above : ∀ index < 32, 24 ≤ index → (0xffffff : BitVec 32).getLsbD index = false := by
    decide
  have below : ∀ index < 24, (0xffffff : BitVec 32).getLsbD index = true := by
    decide
  have low : ∀ index < 3, (7 : BitVec 32).getLsbD index = true := by
    decide
  apply UInt32.toBitVec_inj.mp
  apply BitVec.eq_of_getLsbD_eq
  intro index index_lt
  have bit := congrArg (fun value : UInt32 => value.toBitVec.getLsbD index) aligned
  simp [ofWord, micblok, micblokField, BitField.get, Address.wrap, Address.mask] at bit ⊢
  grind

end AssistControl

end Words

namespace Memory

variable {memory other : Memory}

theorem getAddress_congr {block : UInt32} {field : Field UInt32}
    (agrees : other.AgreesOn memory ⟨block + field.offset + 1, 3⟩) :
    other.getAddress block field = memory.getAddress block field := by
  have sameByte : ∀ index < 3, other.byte (block + field.offset + UInt32.ofNat (index + 1)) =
      memory.byte (block + field.offset + UInt32.ofNat (index + 1)) := by
    intro index index_lt
    have inRegion := agrees _ (Region.contains_add index_lt)
    have place : block + field.offset + UInt32.ofNat (index + 1) =
        block + field.offset + 1 + UInt32.ofNat index := by
      rw [UInt32.ofNat_add]
      grind
    rw [place]
    exact inRegion
  have first := sameByte 0 (by decide)
  have second := sameByte 1 (by decide)
  have third := sameByte 2 (by decide)
  have byteOf : ∀ (memory : Memory) (index : Nat), index < 4 →
      (memory.bytes (block + field.offset) 4).byte index =
        memory.byte (block + field.offset + UInt32.ofNat index) := by
    intro memory index index_lt
    rw [Bytes.byte_eq_getElem _ _ index_lt, bytes, Vector.getElem_ofFn]
  simp (disch := decide) only [getAddress, get, Stored.decode, Stored.size, Address.wrap_word,
    byteOf, first, second, third]

/-- The assist flags of a user stand in the first byte of its assist controls. -/
theorem vmAssist_get (memory : Memory) (user : UInt32) :
    (AssistControl.ofWord (memory.get user Vmblok.assistControl)).vmAssist =
      (memory.get user Vmblok.assistFlags &&& AssistControl.vmAssistFlag != 0) := by
  rw [get, Stored.decode]
  refine (AssistControl.vmAssist_word _).trans ?_
  rfl

end Memory

namespace Microcode

variable {α : Type} {known : Knowledge} {scene : Scene} {program : Microcode α}

/-- A program leaves a region as it is that is apart from all regions it stores into. -/
theorem Takes.agreesOn {regions : List Region} (takes : program.Takes (Action.StoresWithin regions))
    (scene : Scene) :
    program.Achieves known (fun _ after => ∀ region, (∀ stored ∈ regions, stored.Apart region) →
      after.memory.AgreesOn scene.memory region) scene := by
  have kept : ∀ (action : Action) (before : Scene), action.StoresWithin regions →
      (∀ region, (∀ stored ∈ regions, stored.Apart region) →
        before.memory.AgreesOn scene.memory region) →
      action.Ensures known (fun _ after => ∀ region, (∀ stored ∈ regions, stored.Apart region) →
        after.memory.AgreesOn scene.memory region) before := by
    intro action before allowed agrees
    cases action with
    | store address bytes =>
        obtain ⟨stored, stored_mem, within⟩ := allowed
        intro _ region apart
        exact (Memory.store_agreesOn address bytes
          ((apart stored stored_mem).mono within)).trans (agrees region apart)
    | fetch _ _ => exact fun _ _ => agrees
    | storageKey _ => exact fun _ => agrees
    | translate _ => exact fun _ _ => agrees
    | registers | modify _ | setTimer _ | purgeTlb | handOff _ _ | log _ => exact agrees
  exact (takes.ensures kept fun _ _ _ _ => rfl).mono (fun _ _ => id) fun _ _ _ => trivial

/-- A program that only fetches finds what is to be found in memory. -/
theorem Takes.look (isFaithful : known.faithful) (takes : program.Takes Action.Fetches)
    (scene : Scene) :
    program.Achieves known
      (fun value after => after = scene ∧ program.look scene.memory = some value) scene := by
  induction program with
  | done value => exact (ensures_done value).mpr ⟨rfl, rfl⟩
  | decline reason => exact (ensures_decline reason).mpr trivial
  | act action next ih =>
      have takes := (takes_act action next).mp takes
      cases action with
      | fetch address length =>
          refine (ensures_act _ _).mpr fun bytes fetched => ?_
          obtain rfl := fetched isFaithful
          exact ih _ (takes.2 _)
      | _ => exact takes.1.elim

end Microcode

namespace Dispatcher

open Microcode

variable {known : Knowledge} {scene : Scene}

theorem interruptionPending_fetches (user extension : UInt32) (status : UserStatus) :
    (interruptionPending user extension status).Takes Action.Fetches :=
  takes_interruptionPending (fun _ _ => trivial) user extension status

theorem userStatus_achieves (isFaithful : known.faithful) (user : UInt32)
    {post : UserStatus → Scene → Prop} (achieves : post (scene.memory.userStatus user) scene) :
    (UserStatus.fetch user).Achieves known post scene := by
  simp only [Achieves, UserStatus.fetch, ensures_bind, ensures_fetch_iff isFaithful, ensures_pure]
  exact achieves

/-- The memory in which a user starts whose MICBLOK has been told of pending interruptions. -/
def toldMemory (memory : Memory) (micblok : UInt32) (pending : Bool) : Memory :=
  memory.put micblok ⟨Micblok.pendingOffset⟩ (if pending then Micblok.pendingFlag else (0 : UInt8))

/-- The status of a user with its assists turned on. -/
def assistedStatus (virtual : Psw) (status : UserStatus) : UserStatus :=
  status.withAssists (AssistControl.vmAssistFlag |||
    (if status.operating &&& Vmblok.runsShared != 0 then AssistControl.iskInhibitFlag else 0) |||
    if virtual.isProblemState then AssistControl.virtualProblemFlag else 0)

/-- The assists are turned on for a user whose instructions are not traced, and the MICBLOK is told
of its pending interruptions. -/
theorem enableAssists_achieves (isFaithful : known.faithful) (user micblok extension : UInt32)
    (virtual : Psw) (status : UserStatus) {post : UserStatus → Scene → Prop}
    (traced : scene.memory.get user Vmblok.traceControl &&& Vmblok.tracesInstructions ≠ 0 →
      post status { scene with memory := toldMemory scene.memory micblok false })
    (enabled : ∀ pending,
      scene.memory.get user Vmblok.traceControl &&& Vmblok.tracesInstructions = 0 →
      (interruptionPending user extension (assistedStatus virtual status)).look scene.memory =
        some pending →
      known.stores (.ofField micblok (⟨Micblok.pendingOffset⟩ : Field UInt8)) →
      post (assistedStatus virtual status)
        { scene with memory := toldMemory scene.memory micblok pending }) :
    (enableAssists user micblok extension virtual status).Achieves known post scene := by
  simp only [Achieves, enableAssists, ensures_bind]
  refine ensures_testBits _ _ _ fun isTraced found => ?_
  have found := found isFaithful
  simp only [ensures_ite, ensures_bind, ensures_pure, ensures_store]
  refine ⟨fun isOn _ => traced ?_, fun isOff => ?_⟩
  · simpa [isOn] using found.symm
  · have untraced :
        scene.memory.get user Vmblok.traceControl &&& Vmblok.tracesInstructions = 0 := by
      simpa [isOff] using found.symm
    have looks := (interruptionPending_fetches user extension
      (assistedStatus virtual status)).look isFaithful scene
    refine looks.mono ?_ fun _ _ => id
    rintro pending after ⟨rfl, found⟩ isStored
    exact enabled pending untraced found isStored

theorem loadControls_stores (regions : List Region) (block : UInt32) (field : Field UInt32)
    (registers : List RegisterNumber) :
    (loadControls block field registers).Takes (Action.StoresWithin regions) :=
  takes_loadControls (fun _ _ => trivial) (fun _ _ => trivial) block field registers

theorem loadTracing_stores (regions : List Region) (user : UInt32) (real : Psw) :
    (loadTracing user real).Takes (Action.StoresWithin regions) := by
  simp [loadTracing, loadControls_stores]

/-- The rest of the start of a user whose assist controls are loaded. -/
def startAssisted (user : UInt32) (status : UserStatus) (virtual real : Psw)
    (controls : TranslationControls) : Microcode Completion := do
  startClocks user
  modify fun cpu => (cpu.setControl 0 controls.control0).setControl 1 controls.control1
  store PrefixArea.base PrefixArea.cpStatus PrefixArea.cpRuns
  let general ← fetchRow user Vmblok.generalRegisters 16
  modify fun cpu => { cpu with general }
  store PrefixArea.base PrefixArea.ioOldMask 0
  honourPurge
  status.store user
  store user Vmblok.psw virtual
  stopCharging user
  setTimerFrom user Vmblok.problemTime
  store PrefixArea.base PrefixArea.runControl0 controls.control0
  store PrefixArea.base PrefixArea.runControl1 controls.control1
  store PrefixArea.base PrefixArea.runPsw real
  modify fun cpu => { cpu with psw := real }
  purgeTlb
  return .dispatched

theorem start_eq (user extension : UInt32) (status : UserStatus) (virtual : Psw)
    (controls : TranslationControls) :
    start user extension status virtual controls = (do
      if status.isExtended then
        loadControls (Address.wrap extension) (Ecblok.control.item 4)
          [4, 5, 6, 7, 8, 9, 10, 11, 12, 13]
      store user Vmblok.assistFlags status.assists
      let real ← loadTracing user (realPsw virtual)
      let assistControl ← fetch user Vmblok.assistControl
      modify fun cpu => cpu.setControl 6 assistControl
      startAssisted user status virtual real controls) :=
  rfl

theorem prefix_within {α : Type} [Stored α] {field : Field α}
    (inside : field.offset.toNat + Stored.size α ≤ 0x380) :
    (Region.ofField PrefixArea.base field).Within prefixRegion :=
  Region.ofField_within _ inside (by simp only [Address.space]; omega)

theorem vmblok_within {α : Type} [Stored α] (user : UInt32) {field : Field α}
    (inside : field.offset.toNat + Stored.size α ≤ 0xc0) :
    (Region.ofField user field).Within (vmblokRegion user) :=
  Region.ofField_within _ inside (by simp only [Address.space]; omega)

/-- The parts of the prefixed storage area that a start stores into. -/
def prefixParts : List (UInt32 × Nat) :=
  [(PrefixArea.ioOldMask.offset, 1), (PrefixArea.runPsw.offset, 8),
    (PrefixArea.runControl0.offset, 0x18), (PrefixArea.problemStart.offset, 8)]

/-- The parts of the VMBLOK of its user that a start stores into. -/
def vmblokParts : List (UInt32 × Nat) :=
  [(Vmblok.totalTime.offset, 8), (Vmblok.assistFlags.offset, 1), (Vmblok.psw.offset, 14)]

/-- Where a start stores. -/
def startRegions (user : UInt32) : List Region :=
  partRegions PrefixArea.base prefixParts ++ partRegions user vmblokParts

section

variable {α : Type} [Stored α] {user : UInt32} {field : Field α}

theorem store_within {regions : List Region} {block : UInt32} {region : Region}
    (region_mem : region ∈ regions) (within : (Region.ofField block field).Within region)
    (value : α) : (store block field value).Takes (Action.StoresWithin regions) := by
  rw [takes_store]
  refine ⟨region, region_mem, ?_⟩
  rw [Vector.length_toList]
  exact within

theorem store_part {block : UInt32} {parts : List (UInt32 × Nat)} {regions : List Region}
    (included : ∀ region ∈ partRegions block parts, region ∈ regions)
    (inside : ∃ part ∈ parts,
      Region.distance part.1 field.offset + Stored.size α ≤ part.2) (value : α) :
    (store block field value).Takes (Action.StoresWithin regions) := by
  obtain ⟨part, part_mem, fits⟩ := inside
  refine store_within (included _ (List.mem_map_of_mem part_mem)) ?_ value
  apply Region.within_of_distance
  simpa only [Region.ofField, Region.distance_add_add] using fits

theorem store_prefixPart
    (inside : ∃ part ∈ prefixParts, Region.distance part.1 field.offset + Stored.size α ≤ part.2)
    (value : α) :
    (store PrefixArea.base field value).Takes (Action.StoresWithin (startRegions user)) :=
  store_part (fun _ => List.mem_append_left _) inside value

theorem store_vmblokPart
    (inside : ∃ part ∈ vmblokParts, Region.distance part.1 field.offset + Stored.size α ≤ part.2)
    (value : α) :
    (store user field value).Takes (Action.StoresWithin (startRegions user)) :=
  store_part (fun _ => List.mem_append_right _) inside value

theorem startAssisted_stores (user : UInt32) (status : UserStatus) (virtual real : Psw)
    (controls : TranslationControls) :
    (startAssisted user status virtual real controls).Takes
      (Action.StoresWithin (startRegions user)) := by
  simp (disch := decide) only [startAssisted, startClocks, honourPurge, UserStatus.store,
    stopCharging, setTimerFrom, fetchRow, store_prefixPart, store_vmblokPart, takes_bind, takes_ite,
    takes_modify, takes_fetch, takes_pure, takes_registers, takes_setTimer, takes_purgeTlb,
    Action.StoresWithin, implies_true, and_true]

theorem start_stores (user extension : UInt32) (status : UserStatus) (virtual : Psw)
    (controls : TranslationControls) :
    (start user extension status virtual controls).Takes
      (Action.StoresWithin (startRegions user)) := by
  simp (disch := decide) [start_eq, loadControls_stores, loadTracing_stores, startAssisted_stores,
    store_vmblokPart, -takes_store]

/-- A start leaves what is apart from the prefixed storage area and from the VMBLOK. -/
theorem startRegions_apart {region : Region} (prefixApart : prefixRegion.Apart region)
    (vmblokApart : (vmblokRegion user).Apart region) :
    ∀ stored ∈ startRegions user, stored.Apart region :=
  List.forall_mem_append.mpr
    ⟨partRegions_apart (by decide) prefixApart, partRegions_apart (by decide) vmblokApart⟩

/-- A start leaves a part of the VMBLOK that none of its stores goes into. -/
theorem startRegions_apart_ofVmblok (apart : prefixRegion.Apart (vmblokRegion user))
    {start : UInt32} {length : Nat}
    (inside : start.toNat + length ≤ 0xc0 ∧ start.toNat < Address.space)
    (clear : ∀ part ∈ vmblokParts, part.2 ≤ Region.distance part.1 start ∧
      length ≤ Region.distance start part.1) :
    ∀ stored ∈ startRegions user, stored.Apart ⟨user + start, length⟩ := by
  have prefixApart : prefixRegion.Apart ⟨user + start, length⟩ :=
    (apart.symm.mono (Region.within_block user inside.1 inside.2)).symm
  exact List.forall_mem_append.mpr
    ⟨partRegions_apart (by decide) prefixApart, partRegions_apart_part clear⟩

/-- A start leaves a part of the prefixed storage area that none of its stores goes into. -/
theorem startRegions_apart_ofPrefix (apart : prefixRegion.Apart (vmblokRegion user))
    {start : UInt32} {length : Nat}
    (inside : start.toNat + length ≤ 0x380 ∧ start.toNat < Address.space)
    (clear : ∀ part ∈ prefixParts, part.2 ≤ Region.distance part.1 start ∧
      length ≤ Region.distance start part.1) :
    ∀ stored ∈ startRegions user, stored.Apart ⟨PrefixArea.base + start, length⟩ := by
  have vmblokApart : (vmblokRegion user).Apart ⟨PrefixArea.base + start, length⟩ :=
    (apart.mono (Region.within_block _ inside.1 inside.2)).symm
  exact List.forall_mem_append.mpr
    ⟨partRegions_apart_part clear, partRegions_apart (by decide) vmblokApart⟩

end

theorem start_keeps {known : Knowledge} {scene : Scene} (user extension : UInt32)
    (status : UserStatus) (virtual : Psw) (controls : TranslationControls) :
    (start user extension status virtual controls).Achieves known
      (fun _ after => ∀ region, (∀ stored ∈ startRegions user, stored.Apart region) →
        after.memory.AgreesOn scene.memory region) scene :=
  (start_stores user extension status virtual controls).agreesOn scene

end Dispatcher

end Assist370
