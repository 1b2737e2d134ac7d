import Mathlib.Data.Nat.Bitwise
import Assist370.Proofs.Departure
import Assist370.Proofs.GuestEvaluation
import Assist370.Proofs.LoadFailure

/-!
# The way to a device

A device is found over its channel and its control unit. Each block lies at the base of its kind,
plus an index that stands in a table or in the block before it, and an index with its high bit on
leads nowhere. Both look-ups complete if all indices on the way lead on, and come back with the
blocks. Otherwise they leave the registers as they were. Whatever becomes of a look-up, it stores
nothing (`System.looks_up_devices`).
-/

namespace Assist370

/-- The action fetches from storage. -/
@[simp]
def Action.IsFetch : Action → Prop
  | fetch _ _ => True
  | _ => False

/-- The action fetches from storage, or has to do with the registers alone. -/
@[simp]
def Action.LooksUp : Action → Prop
  | fetch _ _ | registers | modify _ => True
  | _ => False

/-- The word at an address. -/
def Memory.word (memory : Memory) (address : UInt32) : UInt32 :=
  memory.get address Field.first

theorem Memory.get_eq_first {α : Type} [Stored α] (memory : Memory) (block : UInt32)
    (field : Field α) :
    memory.get block field = memory.get (block + field.offset) (Field.first : Field α) := by
  simp only [get, Field.first, UInt32.add_zero]

namespace DeviceLookup

/-- The place of a halfword in a row of them. -/
def slot (row : UInt32) (number : Nat) : UInt32 :=
  row + UInt32.ofNat (2 * number)

/-- The halfword at an address is the index of a block, which it is with its high bit off. -/
structure IndexAt (memory : Memory) (address : UInt32) (index : UInt16) : Prop where
  stands : memory.get address Field.first = index
  leadsOn : index.toNat < 0x8000

/-- The way to a virtual device. Its blocks have their bases in three words, and the indices of
control units and of devices stand from the eighth byte of the block before on. -/
structure LeadsToVirtual (memory : Memory) (indexTable bases device : UInt32) (path : Path) :
    Prop where
  channel : ∃ index, IndexAt memory (slot indexTable (device.toNat / 0x100 % 0x10)) index ∧
    path.channel = memory.word bases + index.toUInt32
  unit : ∃ index, IndexAt memory (slot (path.channel + 8) (device.toNat / 0x10 % 0x10)) index ∧
    path.unit = memory.word (bases + 4) + index.toUInt32
  device : ∃ index, IndexAt memory (slot (path.unit + 8) (device.toNat % 0x10)) index ∧
    path.device = memory.word (bases + 8) + index.toUInt32

/-- The index of the control unit of a real device in the block of its channel. The group of eight
devices that the device belongs to counts before its group of sixteen. -/
inductive UnitIndex (memory : Memory) (channel device : UInt32) : UInt16 → Prop where
  | ofEight {index : UInt16}
      (stands : IndexAt memory (slot (channel + 0x20) (device.toNat / 8 % 0x20)) index) :
      UnitIndex memory channel device index
  | ofSixteen {index : UInt16}
      (missing : ∀ other,
        ¬IndexAt memory (slot (channel + 0x20) (device.toNat / 8 % 0x20)) other)
      (stands : IndexAt memory (slot (channel + 0x20) (2 * (device.toNat / 0x10 % 0x10))) index) :
      UnitIndex memory channel device index

/-- The control unit that is named for one. A subordinate one stands back behind its primary. -/
def namedUnit (memory : Memory) (unit : UInt32) : UInt32 :=
  if memory.byte (unit + 5) &&& 0x40 = 0 then unit else memory.word (unit + 0x10)

/-- The way to a real device. The device is looked for in the unit that has been found, whichever
unit is named for it. -/
structure LeadsToReal (memory : Memory) (tables device : UInt32) (path : Path) : Prop where
  channel : ∃ index,
    IndexAt memory (slot (memory.word tables) (device.toNat / 0x100 % 0x10)) index ∧
      path.channel = memory.word (tables + 4) + index.toUInt32
  unit : ∃ index, UnitIndex memory path.channel device index ∧
    path.unit = namedUnit memory (memory.word (tables + 8) + index.toUInt32) ∧
    ∃ deviceIndex,
      IndexAt memory (slot (memory.word (tables + 8) + index.toUInt32 + 0x28)
        (device.toNat % 0x10)) deviceIndex ∧
      path.device = memory.word (tables + 12) + 8 * deviceIndex.toUInt32

section Paths

variable {memory : Memory} {indexTable bases tables device : UInt32} {path otherPath : Path}

theorem IndexAt.unique {address : UInt32} {index otherIndex : UInt16}
    (first : IndexAt memory address index) (second : IndexAt memory address otherIndex) :
    index = otherIndex :=
  first.stands.symm.trans second.stands

theorem UnitIndex.unique {channel : UInt32} {index otherIndex : UInt16}
    (first : UnitIndex memory channel device index)
    (second : UnitIndex memory channel device otherIndex) : index = otherIndex := by
  cases first with
  | ofEight stands =>
      cases second with
      | ofEight standsToo => exact stands.unique standsToo
      | ofSixteen missing _ => exact absurd stands (missing _)
  | ofSixteen missing stands =>
      cases second with
      | ofEight standsToo => exact absurd standsToo (missing _)
      | ofSixteen _ standsToo => exact stands.unique standsToo

theorem LeadsToVirtual.unique (first : LeadsToVirtual memory indexTable bases device path)
    (second : LeadsToVirtual memory indexTable bases device otherPath) : path = otherPath := by
  rcases path with ⟨channel, unit, block⟩
  rcases otherPath with ⟨otherChannel, otherUnit, otherBlock⟩
  rcases first with ⟨⟨_, atChannel, rfl⟩, ⟨_, atUnit, rfl⟩, ⟨_, atDevice, rfl⟩⟩
  rcases second with ⟨⟨_, atChannelToo, rfl⟩, ⟨_, atUnitToo, rfl⟩, ⟨_, atDeviceToo, rfl⟩⟩
  rcases atChannel.unique atChannelToo with rfl
  rcases atUnit.unique atUnitToo with rfl
  rcases atDevice.unique atDeviceToo with rfl
  rfl

theorem LeadsToVirtual.channel_eq (leads : LeadsToVirtual memory indexTable bases device path)
    {index : UInt16}
    (stands : IndexAt memory (slot indexTable (device.toNat / 0x100 % 0x10)) index) :
    path.channel = memory.word bases + index.toUInt32 := by
  rcases leads.channel with ⟨_, standsToo, found⟩
  rw [found, standsToo.unique stands]

theorem LeadsToVirtual.unit_eq (leads : LeadsToVirtual memory indexTable bases device path)
    {index : UInt16}
    (stands : IndexAt memory (slot (path.channel + 8) (device.toNat / 0x10 % 0x10)) index) :
    path.unit = memory.word (bases + 4) + index.toUInt32 := by
  rcases leads.unit with ⟨_, standsToo, found⟩
  rw [found, standsToo.unique stands]

theorem LeadsToReal.unique (first : LeadsToReal memory tables device path)
    (second : LeadsToReal memory tables device otherPath) : path = otherPath := by
  rcases path with ⟨channel, unit, block⟩
  rcases otherPath with ⟨otherChannel, otherUnit, otherBlock⟩
  rcases first with ⟨⟨_, atChannel, rfl⟩, ⟨_, atUnit, rfl, ⟨_, atDevice, rfl⟩⟩⟩
  rcases second with ⟨⟨_, atChannelToo, rfl⟩, ⟨_, atUnitToo, rfl, ⟨_, atDeviceToo, rfl⟩⟩⟩
  rcases atChannel.unique atChannelToo with rfl
  rcases atUnit.unique atUnitToo with rfl
  rcases atDevice.unique atDeviceToo with rfl
  rfl

theorem LeadsToReal.channel_eq (leads : LeadsToReal memory tables device path) {index : UInt16}
    (stands : IndexAt memory (slot (memory.word tables) (device.toNat / 0x100 % 0x10)) index) :
    path.channel = memory.word (tables + 4) + index.toUInt32 := by
  rcases leads.channel with ⟨_, standsToo, found⟩
  rw [found, standsToo.unique stands]

end Paths

section Numbers

/-- Bits in a row, taken out of a number by a mask. -/
theorem and_shiftRight (number : Nat) {mask place width : Nat}
    (isMask : mask >>> place = Nat.pow 2 width - 1) :
    (number &&& mask) >>> place = number / Nat.pow 2 place % Nat.pow 2 width := by
  rw [Nat.shiftRight_and_distrib, isMask, Nat.shiftRight_eq_div_pow]
  exact Nat.and_two_pow_sub_one_eq_mod _ _

variable (device : UInt32)

theorem channelOf_eq : channelOf device = device.toNat / 0x100 % 0x10 := by
  rw [channelOf, UInt32.toNat_shiftRight, UInt32.toNat_and]
  exact @and_shiftRight _ 0xf00 8 4 rfl

theorem unitOf_eq : unitOf device = device.toNat / 0x10 % 0x10 := by
  rw [unitOf, UInt32.toNat_shiftRight, UInt32.toNat_and]
  exact @and_shiftRight _ 0xf0 4 4 rfl

theorem groupOf_eq : ((device &&& 0xf8) >>> 3).toNat = device.toNat / 8 % 0x20 := by
  rw [UInt32.toNat_shiftRight, UInt32.toNat_and]
  exact @and_shiftRight _ 0xf8 3 5 rfl

theorem deviceOf_eq : deviceOf device = device.toNat % 0x10 := by
  rw [deviceOf, UInt32.toNat_and]
  exact Nat.and_two_pow_sub_one_eq_mod device.toNat 4

theorem toNat_lowBits : (device &&& 0xfff).toNat = device.toNat % 0x1000 := by
  rw [UInt32.toNat_and]
  exact Nat.and_two_pow_sub_one_eq_mod device.toNat 12

theorem shiftLeft_three (index : UInt32) : index <<< 3 = 8 * index := by
  rw [← UInt32.toNat_inj, UInt32.toNat_shiftLeft, UInt32.toNat_mul, Nat.shiftLeft_eq]
  exact congrArg (· % _) (Nat.mul_comm _ _)

end Numbers

/-- The high bit of a halfword makes the half of its values. -/
theorem index?_eq (halfword : UInt16) :
    index? halfword = if halfword.toNat < 0x8000 then some halfword.toUInt32 else none := by
  have halfword_lt := halfword.toNat_lt
  have masked : (halfword &&& missingFlag).toNat = 0x8000 * (halfword.toNat / 0x8000 % 2) := by
    rw [UInt16.toNat_and]
    change halfword.toNat &&& 2 ^ 15 = _
    rw [Nat.and_two_pow, Nat.testBit_eq_decide_div_mod_eq]
    rcases Nat.mod_two_eq_zero_or_one (halfword.toNat / 0x8000) with even | odd
    · simp [even]
    · simp [odd]
  have high : halfword &&& missingFlag = 0 ↔ halfword.toNat < 0x8000 := by
    rw [← UInt16.toNat_inj, masked, UInt16.toNat_zero]
    omega
  simp only [index?, beq_iff_eq, high]

theorem IndexAt.index?_eq_some {memory : Memory} {address : UInt32} {index : UInt16}
    (stands : IndexAt memory address index) :
    index? (memory.get address Field.first) = some index.toUInt32 := by
  rw [stands.stands, index?_eq, if_pos stands.leadsOn]

theorem index?_eq_none {memory : Memory} {address : UInt32}
    (missing : ∀ index, ¬IndexAt memory address index) :
    index? (memory.get address Field.first) = none := by
  rw [index?_eq, if_neg fun leadsOn => missing _ ⟨rfl, leadsOn⟩]

section Evaluation

open Microcode

variable {answers : Answers} {scene : Scene}

theorem get_item (memory : Memory) (block : UInt32) (field : Field UInt16) (number : Nat) :
    memory.get block (field.item number) =
      memory.get (slot (block + field.offset) number) (Field.first : Field UInt16) := by
  rw [Memory.get_eq_first, Field.item, ← UInt32.add_assoc]
  rfl

theorem get_word (memory : Memory) (block : UInt32) (field : Field UInt32) :
    memory.get block field = memory.word (block + field.offset) :=
  memory.get_eq_first block field

theorem eval_fetch_bind {α β : Type} [Stored α] (block : UInt32) (field : Field α)
    (next : α → Microcode β) :
    (fetch block field >>= next).eval answers scene =
      (next (scene.memory.get block field)).eval answers scene :=
  rfl

/-- How a search for a way ends: with the way that there is, or by declining where there is none. -/
inductive SearchEnds (leads : Path → Prop) (scene : Scene) :
    Except Decline Path × Scene → Prop where
  | gotThere {path : Path} (isWay : leads path) : SearchEnds leads scene (.ok path, scene)
  | declined {reason : Decline} (noWay : ∀ path, ¬leads path) :
      SearchEnds leads scene (.error reason, scene)

/-- A search for a block goes on behind its index, if that leads on. -/
theorem SearchEnds.step {leads : Path → Prop} {address : UInt32} {side : DeviceSide}
    {kind : DeviceBlockKind} {next : UInt32 → Microcode Path}
    (missing : (∀ index, ¬IndexAt scene.memory address index) → ∀ path, ¬leads path)
    (rest : ∀ index : UInt16, IndexAt scene.memory address index →
      SearchEnds leads scene ((next index.toUInt32).eval answers scene)) :
    SearchEnds leads scene
      ((found side kind (index? (scene.memory.get address Field.first)) >>= next).eval answers
        scene) := by
  by_cases stands : ∃ index, IndexAt scene.memory address index
  · rcases stands with ⟨index, stands⟩
    rw [stands.index?_eq_some]
    exact rest index stands
  · have nowhere := not_exists.mp stands
    rw [index?_eq_none nowhere]
    exact .declined (missing nowhere)

theorem virtualPath_ends (indexTable bases device : UInt32) :
    SearchEnds (LeadsToVirtual scene.memory indexTable bases device) scene
      ((virtualPath device indexTable bases).eval answers scene) := by
  have first : ∀ block : UInt32, block + (Field.first : Field UInt16).offset = block :=
    UInt32.add_zero
  have firstBase : bases + virtualChannelBase.offset = bases := UInt32.add_zero bases
  rw [virtualPath, eval_fetch_bind, get_item, channelOf_eq, first]
  refine .step ?_ fun channelIndex atChannel => ?_
  · rintro missing path leads
    rcases leads.channel with ⟨index, atIndex, -⟩
    exact missing index atIndex
  rw [eval_fetch_bind, get_word, firstBase, eval_fetch_bind, get_item, unitOf_eq]
  refine .step ?_ fun unitIndex atUnit => ?_
  · rintro missing path leads
    rcases leads.unit with ⟨index, atUnit, -⟩
    rw [leads.channel_eq atChannel] at atUnit
    exact missing index atUnit
  rw [eval_fetch_bind, get_word, eval_fetch_bind, get_item, deviceOf_eq]
  refine .step ?_ fun deviceIndex atDevice => ?_
  · rintro missing path leads
    have channel := leads.channel_eq atChannel
    have unit := leads.unit_eq (channel ▸ atUnit)
    rcases leads.device with ⟨index, stands, -⟩
    rw [unit] at stands
    exact missing index stands
  rw [eval_fetch_bind, get_word, eval_pure]
  exact .gotThere
    ⟨⟨channelIndex, atChannel, rfl⟩, ⟨unitIndex, atUnit, rfl⟩, ⟨deviceIndex, atDevice, rfl⟩⟩

/-- The search for a control unit goes on behind its index, if that leads on. -/
theorem SearchEnds.unitStep {leads : Path → Prop} {channel device : UInt32}
    {next : UInt32 → Microcode Path}
    (missing : (∀ index, ¬UnitIndex scene.memory channel device index) → ∀ path, ¬leads path)
    (rest : ∀ index : UInt16, UnitIndex scene.memory channel device index →
      SearchEnds leads scene ((next index.toUInt32).eval answers scene)) :
    SearchEnds leads scene ((realUnitIndex device channel >>= next).eval answers scene) := by
  rw [eval_bind, realUnitIndex, eval_fetch_bind, get_item, groupOf_eq]
  by_cases ofEight : ∃ index,
      IndexAt scene.memory (slot (channel + 0x20) (device.toNat / 8 % 0x20)) index
  · rcases ofEight with ⟨index, stands⟩
    rw [show unitIndex.offset = 0x20 from rfl, stands.index?_eq_some]
    exact rest index (.ofEight stands)
  have noEight := not_exists.mp ofEight
  rw [show unitIndex.offset = 0x20 from rfl, index?_eq_none noEight]
  simp only
  rw [← eval_bind, LawfulMonad.bind_assoc, eval_fetch_bind, get_item, unitOf_eq]
  refine .step (fun noSixteen => missing ?_) fun index stands =>
    rest index (.ofSixteen noEight stands)
  rintro index (stands | ⟨_, stands⟩)
  · exact noEight index stands
  · exact noSixteen index stands

/-- The unit that is named is read out of the unit that has been found. -/
theorem named_eval (unit : UInt32) (next : UInt32 → Microcode Path) :
    (do
      let isSubordinate ← testBits unit unitType subordinate
      let named ← if isSubordinate then fetch unit primaryUnit else pure unit
      next named).eval answers scene = (next (namedUnit scene.memory unit)).eval answers scene := by
  have type : scene.memory.get unit unitType = scene.memory.byte (unit + 5) :=
    scene.memory.get_byte unit unitType
  simp only [testBits, eval_bind, eval_fetch, eval_pure, type, bne_iff_ne, ne_eq, ite_not,
    namedUnit, subordinate]
  by_cases alone : scene.memory.byte (unit + 5) &&& 0x40 = 0
  · rw [if_pos alone, if_pos alone]
    rfl
  · rw [if_neg alone, if_neg alone, eval_fetch_bind, get_word]
    rfl

theorem realPath_ends (tables device : UInt32) :
    SearchEnds (LeadsToReal scene.memory tables device) scene
      ((realPath device tables).eval answers scene) := by
  have first : ∀ block : UInt32, block + (Field.first : Field UInt16).offset = block :=
    UInt32.add_zero
  have firstBase : tables + channelIndex.offset = tables := UInt32.add_zero tables
  rw [realPath, eval_fetch_bind, get_word, firstBase, eval_fetch_bind, get_item, channelOf_eq,
    first]
  refine .step ?_ fun channelIndex atChannel => ?_
  · rintro missing path leads
    rcases leads.channel with ⟨index, atIndex, -⟩
    exact missing index atIndex
  rw [eval_fetch_bind, get_word]
  refine .unitStep ?_ fun unitIndex atUnit => ?_
  · rintro missing path leads
    rcases leads.unit with ⟨index, atUnit, -⟩
    rw [leads.channel_eq atChannel] at atUnit
    exact missing index atUnit
  rw [eval_fetch_bind, get_word, eval_fetch_bind, get_item, deviceOf_eq, named_eval]
  refine .step ?_ fun deviceIndex atDevice => ?_
  · rintro missing path leads
    have channel := leads.channel_eq atChannel
    rcases leads.unit with ⟨index, atUnitToo, -, ⟨index, stands, -⟩⟩
    rw [channel] at atUnitToo
    rcases atUnit.unique atUnitToo with rfl
    exact missing index stands
  rw [eval_fetch_bind, get_word, eval_pure]
  refine .gotThere
    ⟨⟨channelIndex, atChannel, rfl⟩, ⟨unitIndex, atUnit, rfl, ⟨deviceIndex, atDevice, ?_⟩⟩⟩
  rw [shiftLeft_three]
  rfl

/-- How a look-up ends: it completes with the registers of the way that there is, or it declines
where there is none. -/
inductive LookUpEnds (leads : Path → Prop) (back : Path → Cpu) (scene : Scene) :
    Evaluation → Prop where
  | gotThere {path : Path} (isWay : leads path) :
      LookUpEnds leads back scene (.ok .completed, { scene with cpu := back path })
  | declined {reason : Decline} (noWay : ∀ path, ¬leads path) :
      LookUpEnds leads back scene (.error reason, scene)

/-- The registers of a processor that goes back to its caller with a way. -/
def Path.returned (path : Path) (cpu : Cpu) : Cpu :=
  { ((cpu.setGeneral 6 path.channel).setGeneral 7 path.unit).setGeneral 8 path.device with
    psw :=
      { cpu.psw with
        conditionCode := 0
        instructionAddress := Address.wrap (cpu.general.read 14) } }

/-- The blocks of a way do not lie over the address of the caller. -/
theorem Path.caller_eq (path : Path) (cpu : Cpu) :
    (((cpu.setGeneral 6 path.channel).setGeneral 7 path.unit).setGeneral 8
      path.device).general.read 14 = cpu.general.read 14 := by
  simp [Cpu.setGeneral]

theorem returnPath_eval (path : Path) :
    (returnPath path).eval answers scene =
      (.ok (), { scene with cpu := path.returned scene.cpu }) := by
  simp only [returnPath, setGeneral, setConditionCode, returnToCaller, branch, eval_bind,
    eval_modify, eval_general, path.caller_eq]
  rfl

theorem scanVirtual_ends (indexTable bases : UInt32) :
    LookUpEnds
      (LeadsToVirtual scene.memory indexTable bases (scene.cpu.general.read 1))
      (·.returned scene.cpu) scene ((scanVirtual indexTable bases).eval answers scene) := by
  have ends := @virtualPath_ends answers scene indexTable bases (scene.cpu.general.read 1)
  rw [scanVirtual, eval_bind, eval_general]
  simp only
  rw [eval_bind]
  generalize (virtualPath _ _ _).eval answers scene = ended at ends ⊢
  cases ends with
  | gotThere isWay =>
      simp only [eval_bind, returnPath_eval, eval_pure]
      exact .gotThere isWay
  | declined noWay => exact .declined noWay

theorem scanReal_ends (device tables : UInt32) :
    LookUpEnds (LeadsToReal scene.memory tables device)
      (fun path => (path.returned scene.cpu).setGeneral 15 0) scene
      ((scanReal device tables).eval answers scene) := by
  have ends := @realPath_ends answers scene tables device
  rw [scanReal, eval_bind]
  generalize (realPath _ _).eval answers scene = ended at ends ⊢
  cases ends with
  | gotThere isWay =>
      simp only [eval_bind, returnPath_eval, setGeneral, eval_modify, eval_pure]
      exact .gotThere isWay
  | declined noWay => exact .declined noWay

end Evaluation

section LowBits

variable {device other : UInt32} (same : device.toNat % 0x1000 = other.toNat % 0x1000)

include same

theorem channelOf_congr : channelOf device = channelOf other := by
  rw [channelOf_eq, channelOf_eq]
  omega

theorem unitOf_congr : unitOf device = unitOf other := by
  rw [unitOf_eq, unitOf_eq]
  omega

theorem deviceOf_congr : deviceOf device = deviceOf other := by
  rw [deviceOf_eq, deviceOf_eq]
  omega

/-- The way to a virtual device is searched for by the last twelve bits of its number. -/
theorem virtualPath_congr (indexTable bases : UInt32) :
    virtualPath device indexTable bases = virtualPath other indexTable bases := by
  rw [virtualPath, channelOf_congr same, unitOf_congr same, deviceOf_congr same, virtualPath]

end LowBits

/-- A real device is looked up by the last twelve bits of its number. -/
theorem scanReal_lowBits (device tables : UInt32) :
    scanReal (device &&& 0xfff) tables = scanReal device tables := by
  have same : (device &&& 0xfff).toNat % 0x1000 = device.toNat % 0x1000 := by
    rw [toNat_lowBits, Nat.mod_mod]
  have unitIndex : realUnitIndex (device &&& 0xfff) = realUnitIndex device := by
    funext channel
    rw [realUnitIndex, groupOf_eq, unitOf_congr same, toNat_lowBits, realUnitIndex, groupOf_eq]
    have group : device.toNat % 0x1000 / 8 % 0x20 = device.toNat / 8 % 0x20 := by omega
    rw [group]
  rw [scanReal, realPath, channelOf_congr same, deviceOf_congr same, unitIndex, scanReal, realPath]

end DeviceLookup

namespace Microcode

variable {Machine Refusal α : Type} {callouts : Callouts Machine Refusal}

/-- A program that only fetches runs in the same way with any registers. -/
theorem Takes.run_anyCpu {program : Microcode α} (takes : program.Takes Action.IsFetch)
    (start : Machine) :
    ∃ ending machine, ∀ cpu,
      program.run callouts { machine := start, cpu } = (ending, { machine, cpu }) := by
  induction program generalizing start with
  | done value => exact ⟨.done value, start, fun _ => rfl⟩
  | decline reason => exact ⟨.declined reason, start, fun _ => rfl⟩
  | act action next ih =>
      have takes := (takes_act action next).mp takes
      cases action with
      | fetch address length =>
          cases fetched : Journal.empty.fetch callouts address length start with
          | mk answer middle =>
            cases answer with
            | error error =>
                refine ⟨.failed error, middle, fun cpu => ?_⟩
                simp only [run, Action.run, fetched]
            | ok bytes =>
                rcases ih bytes (takes.2 bytes) middle with ⟨ending, machine, ran⟩
                refine ⟨ending, machine, fun cpu => ?_⟩
                simp only [run, Action.run, fetched, ran]
      | store _ _ | storageKey _ | translate _ | registers | modify _ | setTimer _ | purgeTlb
      | handOff _ _ | log _ => exact takes.1.elim

end Microcode

namespace DeviceLookup

open Microcode

@[simp]
theorem found_takes {allowed : Action → Prop} (side : DeviceSide) (kind : DeviceBlockKind)
    (index : Option UInt32) : (found side kind index).Takes allowed := by
  cases index <;> simp [found]

@[simp]
theorem virtualPath_isFetch (device indexTable bases : UInt32) :
    (virtualPath device indexTable bases).Takes Action.IsFetch := by
  simp [virtualPath]

theorem returnPath_looksUp (path : Path) : (returnPath path).Takes Action.LooksUp := by
  simp [returnPath, setGeneral, setConditionCode, returnToCaller, branch]

theorem scanVirtual_looksUp (indexTable bases : UInt32) :
    (scanVirtual indexTable bases).Takes Action.LooksUp := by
  simp [scanVirtual, virtualPath, returnPath_looksUp]

theorem scanReal_looksUp (device tables : UInt32) :
    (scanReal device tables).Takes Action.LooksUp := by
  have unitIndex : ∀ channel, (realUnitIndex device channel).Takes Action.LooksUp := by
    intro channel
    simp only [realUnitIndex, takes_bind]
    refine ⟨by simp, fun ofEight _ => ?_⟩
    cases index? ofEight <;> simp
  simp [scanReal, realPath, unitIndex, returnPath_looksUp, setGeneral]

/-- A number in general register 1 is still there after a look-up. -/
theorem returned_setGeneral (path : Path) (cpu : Cpu) (value : UInt32) :
    path.returned (cpu.setGeneral 1 value) = (path.returned cpu).setGeneral 1 value := by
  have caller : (cpu.general.load 1 value).read 14 = cpu.general.read 14 := by simp
  have before : ∀ (registers : RegisterFile) {register : RegisterNumber} (other : UInt32),
      1 ≠ register → (registers.load 1 value).load register other =
        (registers.load register other).load 1 value := by
    intro registers register other differ
    exact Vector.set_comm value other (mt Fin.eq_of_val_eq differ)
  have general : (((cpu.general.load 1 value).load 6 path.channel).load 7 path.unit).load 8
      path.device = (((cpu.general.load 6 path.channel).load 7 path.unit).load 8
        path.device).load 1 value := by
    rw [before _ _ (by decide), before _ _ (by decide), before _ _ (by decide)]
  simp only [Path.returned, Cpu.setGeneral, caller, general]

/-- The course of a look-up does not hang on the registers, but for the number of the device. -/
theorem scanVirtual_run {Machine Refusal : Type} (callouts : Callouts Machine Refusal)
    (start : Machine) (device indexTable bases : UInt32) :
    ∃ (ending : Ending Refusal Path) (machine : Machine), ∀ cpu : Cpu,
      device.toNat % 0x1000 = (cpu.general.read 1).toNat % 0x1000 →
      (scanVirtual indexTable bases).run callouts { machine := start, cpu } =
        match ending with
        | .done path => (.done .completed, { machine, cpu := path.returned cpu })
        | .declined reason => (.declined reason, { machine, cpu })
        | .failed error => (.failed error, { machine, cpu }) := by
  rcases @Takes.run_anyCpu _ _ _ callouts _ (virtualPath_isFetch device indexTable bases) start
    with ⟨ending, machine, ran⟩
  refine ⟨ending, machine, fun cpu same => ?_⟩
  have parts : scanVirtual indexTable bases = (general 1).bind fun number =>
      (virtualPath number indexTable bases).bind fun path =>
        (returnPath path).bind fun _ => .done .completed := rfl
  have general : (general 1).run callouts ({ machine := start, cpu } : Staging Machine) =
      (.done (cpu.general.read 1), { machine := start, cpu }) := rfl
  rw [parts, run_bind, general]
  simp only
  rw [run_bind, ← virtualPath_congr same, ran]
  cases ending with
  | done path =>
      simp only [Path.returned, ← path.caller_eq cpu]
      rfl
  | declined reason => rfl
  | failed error => rfl

end DeviceLookup

/-- The response with a general register loaded. -/
def Response.loading {Machine Refusal : Type} (response : Response Machine Refusal)
    (register : RegisterNumber) (value : UInt32) : Response Machine Refusal :=
  { response with
    system := { response.system with cpu := response.system.cpu.setGeneral register value } }

namespace System

open DeviceLookup

variable {Machine Refusal : Type} {callouts : Callouts Machine Refusal} {policy : Policy}
  {system : System Machine} {request : Request} {body : Microcode Completion}

/-- An instruction whose program fetches and works on registers makes callouts that only look. -/
theorem calloutsMade_looks_of_takes
    (isProgram : request.program policy system.registry.level = .controlProgram body)
    (takes : body.Takes Action.LooksUp) :
    ∀ callout ∈ system.calloutsMade policy callouts request, callout.Looks := by
  have ran : system.ran policy callouts request =
      body.run callouts { machine := system.machine, cpu := system.cpu } := by
    rw [System.ran, staging, isProgram]
    rfl
  have storesNothing : body.Takes (Action.StoresWithin []) := by
    refine takes.mono fun action looksUp => ?_
    cases action <;> first | exact looksUp.elim | trivial
  have noRuns : (system.ran policy callouts request).2.journal.runs = [] := by
    rw [ran, storesNothing.journal_eq]
    rfl
  have noPurge : (system.ran policy callouts request).2.purge = false := by
    rw [ran]
    refine takes.keeps (·.purge) (fun action before looksUp => ?_) _
    cases action <;> first | exact looksUp.elim | rfl
  have conduct := system.perform_conduct policy callouts request
  generalize system.calloutsMade policy callouts request = made at conduct
  generalize system.perform policy callouts request = response at conduct
  cases conduct with
  | left onlyLooks _ => exact onlyLooks
  | failed onlyLooks _ _ _ fromJournal _ _ =>
      rw [noRuns, List.prefix_nil] at fromJournal
      rw [fromJournal, List.map_nil, List.append_nil]
      exact onlyLooks
  | completed onlyLooks _ _ _ =>
      rw [noRuns, noPurge, List.map_nil, List.append_nil]
      simpa using onlyLooks

/-- A virtual device is looked up by the last twelve bits of the number in general register 1. The
rest of the register is of no account, and the look-up leaves the register alone. -/
theorem perform_scanVirtual_lowBits (policy : Policy) (callouts : Callouts Machine Refusal)
    (system : System Machine) (indexTable bases : UInt32) {number : UInt32}
    (same : number.toNat % 0x1000 = (system.cpu.general.read 1).toNat % 0x1000) :
    { system with cpu := system.cpu.setGeneral 1 number }.perform policy callouts
        (.scnvu indexTable bases) =
      (system.perform policy callouts (.scnvu indexTable bases)).loading 1 number := by
  have loaded : (system.cpu.setGeneral 1 number).general.read 1 = number := by
    simp [Cpu.setGeneral]
  rcases scanVirtual_run callouts system.machine number (Address.wrap indexTable)
    (Address.wrap bases) with ⟨ending, machine, ran⟩
  simp only [perform, Request.program, performControlProgram]
  rw [ran system.cpu same, ran _ (by rw [loaded])]
  have sameGate : ∀ assist, system.registry.cpGate assist (system.cpu.setGeneral 1 number) =
      system.registry.cpGate assist system.cpu := fun _ => rfl
  rw [sameGate]
  cases system.registry.cpGate _ system.cpu with
  | declined reason => rfl
  | operationException => rfl
  | passed =>
      cases ending with
      | done path =>
          simp only [returned_setGeneral]
          rfl
      | declined reason => rfl
      | failed error => rfl

/-- What an answered look-up comes to, where `leads` tells the way to the device, and `back` the
registers that the processor goes back with. -/
inductive LookedUp (system : System Machine) (request : Request) (leads : Path → Prop)
    (back : Path → Cpu) (response : Response Machine Refusal) : Prop where
  /-- The gate has stopped it. -/
  | stopped (gate : ¬system.registry.Admits system.cpu request.assist)
      (unperformed : response.result = .ok .declined ∨ response.result = .ok .operationException)
      (cpu : response.system.cpu = system.cpu)
  /-- There is no way. -/
  | missing (gate : system.registry.Admits system.cpu request.assist)
      (noWay : ∀ path, ¬leads path) (result : response.result = .ok .declined)
      (cpu : response.system.cpu = system.cpu)
  /-- The way has been found. -/
  | found {path : Path} (gate : system.registry.Admits system.cpu request.assist)
      (isWay : leads path) (result : response.result = .ok .completed)
      (cpu : response.system.cpu = back path)

theorem lookedUp_of_answered (view : StorageView callouts) {leads : Path → Prop}
    {back : Path → Cpu}
    (isProgram : request.program policy system.registry.level = .controlProgram body)
    (takes : body.Takes Action.LooksUp)
    (ends : LookUpEnds leads back { memory := view.memory system.machine, cpu := system.cpu }
      (body.eval default { memory := view.memory system.machine, cpu := system.cpu }))
    (answered : (system.perform policy callouts request).Answered) :
    system.LookedUp request leads back (system.perform policy callouts request) := by
  have passes := system.registry.cpGate_eq_passed system.cpu (Request.family_eq_cp isProgram)
  by_cases gate : system.registry.cpGate request.assist system.cpu = .passed
  · have fromStorage : body.Takes Action.FromStorage := by
      refine takes.mono fun action looksUp => ?_
      cases action <;> first | exact looksUp.elim | trivial
    have comesTo := perform_comesTo view default isProgram fromStorage gate answered
    generalize body.eval default _ = ended at ends comesTo
    cases ends with
    | gotThere isWay => exact .found (passes.mp gate) isWay comesTo.result comesTo.cpu
    | declined noWay => exact .missing (passes.mp gate) noWay comesTo.result comesTo.cpu
  · rcases @perform_of_stopped _ _ callouts _ _ _ _ isProgram gate with ⟨result, same⟩
    refine .stopped (mt passes.mpr gate) ?_ (by rw [same])
    rw [result]
    cases system.registry.cpGate request.assist system.cpu with
    | operationException => exact .inr rfl
    | passed | declined _ => exact .inl rfl

/-- What becomes of a look-up, whatever storage holds. -/
structure LooksUp (policy : Policy) (view : StorageView callouts) (system : System Machine)
    (request : Request) (leads : Path → Prop) (back : Path → Cpu) : Prop where
  /-- The machine is only looked at, even if that is refused. -/
  onlyLooks : ∀ callout ∈ system.calloutsMade policy callouts request, callout.Looks
  memory : view.memory (system.perform policy callouts request).system.machine =
    view.memory system.machine
  answered : callouts.RefusesNothing system.machine →
    (system.perform policy callouts request).Answered
  completes_iff : (system.perform policy callouts request).Answered →
    ((system.perform policy callouts request).result = .ok .completed ↔
      system.registry.Admits system.cpu request.assist ∧ ∃ path, leads path)
  declines : (system.perform policy callouts request).Answered →
    system.registry.Admits system.cpu request.assist → (∀ path, ¬leads path) →
    (system.perform policy callouts request).result = .ok .declined
  finds : ∀ path, leads path →
    (system.perform policy callouts request).result = .ok .completed →
    (system.perform policy callouts request).system.cpu = back path
  leaves : (system.perform policy callouts request).result ≠ .ok .completed →
    (system.perform policy callouts request).system.cpu = system.cpu

theorem looksUp_of_program (view : StorageView callouts) {leads : Path → Prop}
    {back : Path → Cpu}
    (isProgram : request.program policy system.registry.level = .controlProgram body)
    (takes : body.Takes Action.LooksUp)
    (ends : LookUpEnds leads back { memory := view.memory system.machine, cpu := system.cpu }
      (body.eval default { memory := view.memory system.machine, cpu := system.cpu }))
    (unique : ∀ path other, leads path → leads other → path = other) :
    system.LooksUp policy view request leads back := by
  have onlyLooks := @calloutsMade_looks_of_takes _ _ callouts _ _ _ _ isProgram takes
  have lookedUp := @lookedUp_of_answered _ _ callouts _ _ _ _ view _ _ isProgram takes ends
  have looked := system.reaches_calloutsMade policy callouts request
  refine ⟨onlyLooks, view.memory_of_looks (looked.mono fun _ made => onlyLooks _ made.1),
    answered_of_refusesNothing, ?_, ?_, ?_, ?_⟩
  · intro answered
    cases lookedUp answered with
    | stopped gate unperformed _ =>
        refine iff_of_false (fun completed => ?_) fun wanted => gate wanted.1
        simp [completed] at unperformed
    | missing _ noWay result _ =>
        refine iff_of_false (fun completed => ?_) fun wanted => wanted.2.elim noWay
        simp [completed] at result
    | found gate isWay result _ => exact iff_of_true result ⟨gate, _, isWay⟩
  · intro answered gate noWay
    cases lookedUp answered with
    | stopped shut _ _ => exact absurd gate shut
    | missing _ _ result _ => exact result
    | found _ isWay _ _ => exact absurd isWay (noWay _)
  · intro path isWay completed
    cases lookedUp (Response.answered_iff.mpr ⟨_, completed⟩) with
    | stopped _ unperformed _ => simp [completed] at unperformed
    | missing _ noWay _ _ => exact absurd isWay (noWay path)
    | found _ isWayToo _ cpu => rw [cpu, unique _ _ isWay isWayToo]
  · intro uncompleted
    by_cases answered : (system.perform policy callouts request).Answered
    · cases lookedUp answered with
      | stopped _ _ cpu => exact cpu
      | missing _ _ _ cpu => exact cpu
      | found _ _ result _ => exact absurd result uncompleted
    · rcases Response.failed_of_unanswered answered with ⟨error, failed⟩
      rcases (perform_failed policy callouts system request failed).1 with ⟨timer, cpu, kept⟩
      rw [cpu, kept (Request.family_eq_cp isProgram)]

/-- Both look-ups come back with the way to their device if there is one, and leave everything as it
was otherwise. Of the number of the device the last twelve bits count. -/
theorem looks_up_devices (policy : Policy) (view : StorageView callouts)
    (system : System Machine) :
    (∀ indexTable bases,
      system.LooksUp policy view (.scnvu indexTable bases)
        (LeadsToVirtual (view.memory system.machine) (Address.wrap indexTable)
          (Address.wrap bases) (system.cpu.general.read 1))
        (·.returned system.cpu) ∧
      ∀ number, number.toNat % 0x1000 = (system.cpu.general.read 1).toNat % 0x1000 →
        { system with cpu := system.cpu.setGeneral 1 number }.perform policy callouts
            (.scnvu indexTable bases) =
          (system.perform policy callouts (.scnvu indexTable bases)).loading 1 number) ∧
    ∀ device tables,
      system.LooksUp policy view (.scnru device tables)
        (LeadsToReal (view.memory system.machine) (Address.wrap tables) device)
        (fun path => (path.returned system.cpu).setGeneral 15 0) ∧
      ∀ number, number.toNat % 0x1000 = device.toNat % 0x1000 →
        system.perform policy callouts (.scnru number tables) =
          system.perform policy callouts (.scnru device tables) := by
  constructor
  · intro indexTable bases
    have ends := @scanVirtual_ends default
      { memory := view.memory system.machine, cpu := system.cpu } (Address.wrap indexTable)
      (Address.wrap bases)
    refine ⟨looksUp_of_program view rfl (scanVirtual_looksUp _ _) ends
      fun _ _ => LeadsToVirtual.unique, fun number => ?_⟩
    exact perform_scanVirtual_lowBits policy callouts system indexTable bases
  · intro device tables
    have isProgram : (Request.scnru device tables).program policy system.registry.level =
        .controlProgram (scanReal device (Address.wrap tables)) := by
      rw [← scanReal_lowBits]
      rfl
    have ends := @scanReal_ends default
      { memory := view.memory system.machine, cpu := system.cpu } device (Address.wrap tables)
    refine ⟨looksUp_of_program view isProgram (scanReal_looksUp _ _) ends
      fun _ _ => LeadsToReal.unique, fun number same => ?_⟩
    have sameBits : number &&& 0xfff = device &&& 0xfff := by
      rw [← UInt32.toNat_inj, toNat_lowBits, toNat_lowBits, same]
    simp only [perform, Request.program, sameBits]
    rfl

/-- A system with virtual device 191 and real device 12B. The real one is behind a control unit of
sixteen devices that is subordinate to the one at address 3D00, and there is no real channel 2. -/
def deviceBlocks : System PagedStorage where
  registry := Registry.initial true false
  cpu :=
    { Cpu.initial with
      general := (RegisterFile.zero.load 1 0x191).load 14 0x2000
      control := RegisterFile.zero.load 6 0x02000000 }
  machine :=
    { memory :=
        ((((Memory.zero.store 0x3002 [0, 0x10]).store
          0x3100 [0, 0, 0x32, 0, 0, 0, 0x34, 0, 0, 0, 0x36, 0]).store
          0x322a [0, 0x20]).store
          0x342a [0, 0x40]).store
          0x3800 [0, 0, 0x39, 0, 0, 0, 0x3a, 0, 0, 0, 0x3c, 0, 0, 0, 0x3e, 0] |>.store
          0x3904 [0x80, 0] |>.store
          0x3a28 [0, 0x40, 0x80, 0] |>.store
          0x3c45 [0x40] |>.store
          0x3c50 [0, 0, 0x3d, 0] |>.store
          0x3c7e [0, 3]
      keys := fun _ => ⟨0⟩
      frames := fun _ => none }

theorem deviceBlocks_looked_up :
    (deviceBlocks.perform .splitKeys PagedStorage.callouts (.scnvu 0x3000 0x3100)).system.cpu =
        (DeviceLookup.Path.mk 0x3210 0x3420 0x3640).returned deviceBlocks.cpu ∧
      (deviceBlocks.perform .splitKeys PagedStorage.callouts (.scnru 0xf12b 0x3800)).system.cpu =
        ((DeviceLookup.Path.mk 0x3a00 0x3d00 0x3e18).returned deviceBlocks.cpu).setGeneral 15 0 ∧
      (deviceBlocks.perform .splitKeys PagedStorage.callouts (.scnru 0x200 0x3800)).result =
        .ok .declined := by
  have refusesNothing := deviceBlocks.machine.refusesNothing
  rcases looks_up_devices .splitKeys PagedStorage.keyedView.toStorageView deviceBlocks with
    ⟨virtual, real⟩
  have virtualWay : LeadsToVirtual deviceBlocks.machine.memory 0x3000 0x3100 0x191
      ⟨0x3210, 0x3420, 0x3640⟩ := by
    refine ⟨⟨0x10, ⟨?_, ?_⟩, ?_⟩, ⟨0x20, ⟨?_, ?_⟩, ?_⟩, ⟨0x40, ⟨?_, ?_⟩, ?_⟩⟩ <;> decide +kernel
  have noEight : ∀ index, ¬IndexAt deviceBlocks.machine.memory
      (slot (0x3a00 + 0x20) ((0x12b : UInt32).toNat / 8 % 0x20)) index := by
    rintro index ⟨stands, leadsOn⟩
    rw [← stands] at leadsOn
    exact absurd leadsOn (by decide +kernel)
  have realWay : LeadsToReal deviceBlocks.machine.memory 0x3800 0x12b
      ⟨0x3a00, 0x3d00, 0x3e18⟩ := by
    refine ⟨⟨0, ⟨?_, ?_⟩, ?_⟩, ⟨0x40, .ofSixteen noEight ⟨?_, ?_⟩, ?_, ⟨3, ⟨?_, ?_⟩, ?_⟩⟩⟩ <;>
      decide +kernel
  have noWay : ∀ path, ¬LeadsToReal deviceBlocks.machine.memory 0x3800 0x200 path := by
    rintro path leads
    rcases leads.channel with ⟨index, ⟨stands, leadsOn⟩, -⟩
    rw [← stands] at leadsOn
    exact absurd leadsOn (by decide +kernel)
  refine ⟨?_, ?_, ?_⟩
  · have looksUp := (virtual 0x3000 0x3100).1
    apply looksUp.finds _ virtualWay
    exact (looksUp.completes_iff (looksUp.answered refusesNothing)).mpr
      ⟨by decide +kernel, _, virtualWay⟩
  · have looksUp := (real 0x12b 0x3800).1
    rw [(real 0x12b 0x3800).2 0xf12b (by decide)]
    apply looksUp.finds _ realWay
    exact (looksUp.completes_iff (looksUp.answered refusesNothing)).mpr
      ⟨by decide +kernel, _, realWay⟩
  · have looksUp := (real 0x200 0x3800).1
    exact looksUp.declines (looksUp.answered refusesNothing) (by decide +kernel) noWay

end System

end Assist370
