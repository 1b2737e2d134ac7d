import Assist370.Proofs.GuestRun
import Assist370.Proofs.Observation
import Assist370.Proofs.PlainMachine

/-!
# Enabling of interruptions

What the dispatcher may present to a user is decided by the virtual PSW and by virtual control
registers 0 and 2. While the MICBLOK says that an interruption is pending, the checks of a PSW
transition and those of a control register load together leave no way to enable an interruption
class: whatever an assist of the virtual machine has changed, the classes enabled after it were
enabled before it.
-/

namespace Assist370

/-- The interruption classes that are enabled for a user: subclasses of external interruptions, and
channels. -/
structure Enables where
  external : UInt32
  channels : UInt32
  deriving DecidableEq, Repr

/-- Every class that is enabled here is enabled there. -/
def Enables.Subset (enables other : Enables) : Prop :=
  enables.external &&& other.external = enables.external ∧
    enables.channels &&& other.channels = enables.channels

/-- The interruption classes that are enabled for a user, as the entry of the dispatcher finds
them. -/
def Dispatcher.enables (user : UInt32) : Microcode Enables := do
  let psw ← Microcode.fetch user Vmblok.psw
  let processorStatus ← Microcode.fetch user Vmblok.processorStatus
  let control0 ← virtualControl0 user processorStatus
  let channels ← enabledChannels user psw processorStatus
  return {
    external := if psw.externalEnabled then control0 &&& ControlRegisters.subclassMask else 0
    channels }

namespace Enables.Subset

variable {first second third : Enables}

theorem refl (enables : Enables) : enables.Subset enables :=
  ⟨UInt32.and_self, UInt32.and_self⟩

theorem trans (outer : first.Subset second) (inner : second.Subset third) :
    first.Subset third := by
  constructor
  · rw [← outer.1, UInt32.and_assoc, inner.1]
  · rw [← outer.2, UInt32.and_assoc, inner.2]

end Enables.Subset

/-- The classes that a system mask and virtual control registers 0 and 2 enable. -/
def Enables.ofControls (systemMask : UInt8) (extended extendedMode : Bool)
    (control0 control2 : UInt32) : Enables where
  external :=
    if systemMask &&& Psw.externalMask != 0 then control0 &&& ControlRegisters.subclassMask else 0
  channels := Dispatcher.channelsOf systemMask extended extendedMode control2

section Bits

theorem UInt8.and_eq_left_iff {narrower wider : UInt8} : narrower &&& wider = narrower ↔
    ∀ index < 8, narrower.toBitVec.getLsbD index = true →
      wider.toBitVec.getLsbD index = true := by
  rw [← UInt8.toBitVec_inj, BitVec.eq_of_getLsbD_eq_iff]
  simp

theorem UInt32.and_eq_left_iff {narrower wider : UInt32} : narrower &&& wider = narrower ↔
    ∀ index < 32, narrower.toBitVec.getLsbD index = true →
      wider.toBitVec.getLsbD index = true := by
  rw [← UInt32.toBitVec_inj, BitVec.eq_of_getLsbD_eq_iff]
  simp

/-- Bits are not turned on if each of them is among those that are not enabled, those that stay and
those that are off. -/
theorem UInt8.and_eq_of_covered {old new enabling kept cleared : UInt8}
    (covered : enabling ||| kept ||| cleared = 0xff)
    (notEnabled : (~~~old &&& new) &&& enabling = 0) (same : new &&& kept = old &&& kept)
    (off : new &&& cleared = 0) : new &&& old = new := by
  rw [UInt8.and_eq_left_iff]
  intro index index_lt
  have bitCovered := congrArg (fun value : UInt8 => value.toBitVec.getLsbD index) covered
  have bitNotEnabled := congrArg (fun value : UInt8 => value.toBitVec.getLsbD index) notEnabled
  have bitSame := congrArg (fun value : UInt8 => value.toBitVec.getLsbD index) same
  have bitOff := congrArg (fun value : UInt8 => value.toBitVec.getLsbD index) off
  have allBits := (show ∀ index < 8, (0xff : BitVec 8).getLsbD index = true by decide) index
    index_lt
  simp only [UInt8.toBitVec_and, UInt8.toBitVec_or, UInt8.toBitVec_not, BitVec.getLsbD_and,
    BitVec.getLsbD_or, BitVec.getLsbD_not, UInt8.toBitVec_ofNat, index_lt,
    BitVec.getLsbD_zero] at bitCovered bitNotEnabled bitSame bitOff
  grind

theorem UInt8.and_ne_zero_of_subset {narrower wider bits : UInt8}
    (subset : narrower &&& wider = narrower) (some : narrower &&& bits ≠ 0) :
    wider &&& bits ≠ 0 := by
  intro none
  rw [← subset, UInt8.and_assoc, none, UInt8.and_zero] at some
  exact some rfl

theorem UInt8.toUInt32_shift_subset {narrower wider : UInt8} (bits : UInt8)
    (subset : narrower &&& wider = narrower) :
    ((narrower &&& bits).toUInt32 <<< 24) &&& ((wider &&& bits).toUInt32 <<< 24) =
      (narrower &&& bits).toUInt32 <<< 24 := by
  rw [UInt8.and_eq_left_iff] at subset
  rw [UInt32.and_eq_left_iff]
  intro index _
  have bit := subset (index - 24)
  simp
  grind

theorem UInt32.and_eq_of_not_and {old new : UInt32} (notEnabled : ~~~old &&& new = 0) :
    new &&& old = new := by
  rw [UInt32.and_eq_left_iff]
  intro index index_lt
  have bit := congrArg (fun value : UInt32 => value.toBitVec.getLsbD index) notEnabled
  simp only [UInt32.toBitVec_and, UInt32.toBitVec_not, BitVec.getLsbD_and, BitVec.getLsbD_not,
    UInt32.toBitVec_ofNat, index_lt, BitVec.getLsbD_zero] at bit
  grind

theorem UInt32.or_subset {first second widerFirst widerSecond : UInt32}
    (firstSubset : first &&& widerFirst = first)
    (secondSubset : second &&& widerSecond = second) :
    (first ||| second) &&& (widerFirst ||| widerSecond) = first ||| second := by
  rw [UInt32.and_eq_left_iff] at *
  intro index index_lt
  have bitFirst := firstSubset index index_lt
  have bitSecond := secondSubset index index_lt
  simp only [UInt32.toBitVec_or, BitVec.getLsbD_or]
  grind

end Bits

namespace Psw

variable {old new : Psw} {pending : UInt8}

theorem checkTransition_ok (passed : old.checkTransition new pending = .ok ()) :
    old.isExtended = new.isExtended ∧
      (new.isExtended = true → new.translationBits = old.translationBits) ∧
      (pending &&& Micblok.pendingFlag ≠ 0 →
        (~~~old.systemMask &&& new.systemMask) &&& new.interruptionMask = 0) ∧
      (new.isExtended = true → new.systemMask &&& reservedMask = 0) := by
  simp only [checkTransition, masks, pure, Except.pure, bind, Except.bind, throw, throwThe,
    MonadExceptOf.throw] at passed
  grind

/-- While an interruption is pending, a transition turns on no bit of the system mask. -/
theorem systemMask_of_checkTransition (isPending : pending &&& Micblok.pendingFlag ≠ 0)
    (passed : old.checkTransition new pending = .ok ()) :
    new.systemMask &&& old.systemMask = new.systemMask := by
  obtain ⟨-, sameTranslation, notEnabled, noneReserved⟩ := checkTransition_ok passed
  have notEnabled := notEnabled isPending
  cases extended : new.isExtended with
  | true =>
      rw [interruptionMask, if_pos extended] at notEnabled
      exact UInt8.and_eq_of_covered (by decide) notEnabled (sameTranslation extended)
        (noneReserved extended)
  | false =>
      rw [interruptionMask, if_neg (by simp [extended])] at notEnabled
      exact UInt8.and_eq_of_covered (show 0xff ||| 0 ||| 0 = (0xff : UInt8) by decide) notEnabled
        (by simp) (by simp)

end Psw

/-- Narrower controls enable fewer classes. A control register counts only where the system mask
lets it. -/
theorem Enables.ofControls_subset {mask narrower : UInt8} {extended extendedMode : Bool}
    {control0 control2 narrower0 narrower2 : UInt32} (maskNarrower : narrower &&& mask = narrower)
    (narrower0Subset : narrower &&& Psw.externalMask ≠ 0 →
      (narrower0 &&& ControlRegisters.subclassMask) &&&
          (control0 &&& ControlRegisters.subclassMask) =
        narrower0 &&& ControlRegisters.subclassMask)
    (narrower2Subset : narrower &&& Psw.ioMask ≠ 0 → (extendedMode || extended) = true →
      narrower2 &&& control2 = narrower2) :
    (ofControls narrower extended extendedMode narrower0 narrower2).Subset
      (ofControls mask extended extendedMode control0 control2) := by
  have directSubset : Dispatcher.directChannels narrower extendedMode &&&
      Dispatcher.directChannels mask extendedMode =
        Dispatcher.directChannels narrower extendedMode := by
    cases extendedMode with
    | true => exact UInt32.zero_and
    | false => exact UInt8.toUInt32_shift_subset _ maskNarrower
  constructor
  · simp only [ofControls, bne_iff_ne]
    by_cases enabled : narrower &&& Psw.externalMask ≠ 0
    · rw [if_pos enabled, if_pos (UInt8.and_ne_zero_of_subset maskNarrower enabled)]
      exact narrower0Subset enabled
    · rw [if_neg enabled, UInt32.zero_and]
  · simp only [ofControls, Dispatcher.channelsOf, Bool.and_eq_true, bne_iff_ne]
    by_cases enabled : (extendedMode || extended) = true ∧ narrower &&& Psw.ioMask ≠ 0
    · rw [if_pos enabled,
        if_pos ⟨enabled.1, UInt8.and_ne_zero_of_subset maskNarrower enabled.2⟩]
      exact UInt32.or_subset directSubset (narrower2Subset enabled.2 enabled.1)
    · rw [if_neg enabled]
      split
      · have whole := UInt32.or_subset directSubset (@UInt32.zero_and control2)
        rw [UInt32.or_zero] at whole
        exact whole
      · exact directSubset

namespace Memory

/-- The interruption classes that are enabled for a user. -/
def enables (memory : Memory) (user : UInt32) : Enables :=
  .ofControls (memory.get user Vmblok.psw).systemMask (memory.isExtended user)
    (memory.inExtendedMode user) (memory.virtualControl0 user) (memory.virtualControl2 user)

theorem look_enables (memory : Memory) (user : UInt32) :
    (Dispatcher.enables user).look memory = some (memory.enables user) := by
  simp only [Dispatcher.enables, Microcode.look_bind, Microcode.look_fetch, Option.bind_some,
    Dispatcher.look_virtualControl0, Dispatcher.look_enabledChannels, Microcode.look_pure]
  rfl

end Memory

namespace ControlRegisters

variable {registers loaded : ControlRegisters} {psw : Psw}

/-- The load of a register while an interruption is pending enables nothing that the system mask
lets through. -/
theorem loadOne_subset {register : RegisterNumber} {value : UInt32}
    (isLoaded : registers.loadOne psw true register value = .ok loaded) :
    (psw.systemMask &&& Psw.externalMask ≠ 0 →
      (loaded.shadow.read 0 &&& subclassMask) &&& (registers.shadow.read 0 &&& subclassMask) =
        loaded.shadow.read 0 &&& subclassMask) ∧
      (psw.systemMask &&& Psw.ioMask ≠ 0 →
        loaded.shadow.read 2 &&& registers.shadow.read 2 = loaded.shadow.read 2) := by
  have loads := loadOne_loads isLoaded
  rw [loads.shadow, RegisterFile.read_load, RegisterFile.read_load]
  constructor
  · intro external
    split
    · rename_i zero
      exact UInt32.and_eq_of_not_and (loads.external zero (bne_iff_ne.mpr external) rfl)
    · exact UInt32.and_self
  · intro io
    split
    · rename_i two
      exact UInt32.and_eq_of_not_and (loads.io two (bne_iff_ne.mpr io) rfl)
    · exact UInt32.and_self

/-- A load while an interruption is pending enables nothing that the system mask lets through, and
leaves registers alone that are not in its range. -/
theorem load_subset {range : List RegisterNumber} {new : RegisterFile} {pending : UInt8}
    (isPending : pending &&& Micblok.pendingFlag ≠ 0)
    (isLoaded : registers.load range new psw pending = .ok loaded) :
    (psw.systemMask &&& Psw.externalMask ≠ 0 →
      (loaded.shadow.read 0 &&& subclassMask) &&& (registers.shadow.read 0 &&& subclassMask) =
        loaded.shadow.read 0 &&& subclassMask) ∧
      (psw.systemMask &&& Psw.ioMask ≠ 0 →
        loaded.shadow.read 2 &&& registers.shadow.read 2 = loaded.shadow.read 2) ∧
      ∀ register, register ∉ range →
        loaded.shadow.read register = registers.shadow.read register := by
  refine load_induction (motive := fun after =>
    (psw.systemMask &&& Psw.externalMask ≠ 0 →
      (after.shadow.read 0 &&& subclassMask) &&& (registers.shadow.read 0 &&& subclassMask) =
        after.shadow.read 0 &&& subclassMask) ∧
      (psw.systemMask &&& Psw.ioMask ≠ 0 →
        after.shadow.read 2 &&& registers.shadow.read 2 = after.shadow.read 2) ∧
      ∀ register, register ∉ range →
        after.shadow.read register = registers.shadow.read register) ?_ ?_ isLoaded
  · rintro register register_mem before after ⟨before0, before2, kept⟩ isLoaded
    rw [bne_iff_ne.mpr isPending] at isLoaded
    obtain ⟨after0, after2⟩ := loadOne_subset isLoaded
    refine ⟨fun external => ?_, fun io => ?_, fun other outside => ?_⟩
    · rw [← after0 external, UInt32.and_assoc, before0 external]
    · rw [← after2 io, UInt32.and_assoc, before2 io]
    · have different : register ≠ other := fun same => outside (same ▸ register_mem)
      rw [(loadOne_loads isLoaded).shadow, RegisterFile.read_load, if_neg different,
        kept other outside]
  · exact ⟨fun _ => UInt32.and_self, fun _ => UInt32.and_self, fun _ _ => rfl⟩

end ControlRegisters

namespace Memory

variable {memory : Memory} {address : UInt32} {shadow : RegisterFile}

theorem shadow_apart {register other : RegisterNumber} (different : register ≠ other) :
    (Region.ofField address ((Field.first : Field UInt32).item register)).Apart
      (.ofField address ((Field.first : Field UInt32).item other)) := by
  have distances : ∀ register other : RegisterNumber, register ≠ other →
      4 ≤ Region.distance ((Field.first : Field UInt32).item register).offset
        ((Field.first : Field UInt32).item other).offset := by
    decide +kernel
  exact Region.ofField_apart address (distances register other different)
    (distances other register different.symm)

theorem putShadow_agreesOn {range : List RegisterNumber} {region : Region}
    (apart : ∀ register ∈ range,
      (Region.ofField address ((Field.first : Field UInt32).item register)).Apart region) :
    (putShadow address shadow range memory).AgreesOn memory region := by
  induction range generalizing memory with
  | nil => exact fun _ _ => rfl
  | cons register rest ih =>
      rw [putShadow]
      have later := fun other other_mem => apart other (List.mem_cons_of_mem register other_mem)
      exact (ih later).trans (put_agreesOn _ (apart register (by simp)))

theorem get_putShadow_of_not_mem {range : List RegisterNumber} {register : RegisterNumber}
    (outside : register ∉ range) :
    (putShadow address shadow range memory).get address
        ((Field.first : Field UInt32).item register) =
      memory.get address ((Field.first : Field UInt32).item register) := by
  apply AgreesOn.get_eq
  apply putShadow_agreesOn
  intro other other_mem
  exact shadow_apart fun same => outside (same ▸ other_mem)

theorem get_putShadow_of_mem {range : List RegisterNumber} {register : RegisterNumber}
    (inRange : register ∈ range) :
    (putShadow address shadow range memory).get address (Field.first.item register) =
      shadow.read register := by
  induction range generalizing memory with
  | nil => simp at inRange
  | cons head rest ih =>
      rw [putShadow]
      by_cases inRest : register ∈ rest
      · exact ih inRest
      · obtain rfl : register = head := (List.mem_cons.mp inRange).resolve_right inRest
        rw [get_putShadow_of_not_mem inRest, get_put_self]

end Memory

namespace Memory

/-- The two status bytes that tell the mode of a user. -/
def statusRegion (user : UInt32) : Region :=
  ⟨user + Vmblok.processorStatus.offset, 2⟩

/-- Where the state of the running virtual machine lies: in the MICBLOK, the virtual PSW, the status
bytes of its mode, the word for its extension, and the ECBLOK if it is extended. -/
def guestRegions (memory : Memory) (control : AssistControl) : List Region :=
  let context := memory.guestContext control
  [⟨control.micblok, Micblok.size⟩, .ofField context.pswAddress (Field.first : Field Psw),
    statusRegion context.vmblok, .ofField context.vmblok Vmblok.extension] ++
    if memory.isExtended context.vmblok then [memory.ecblokRegion context.vmblok] else []

/-- Nothing that holds the state of the running virtual machine overlaps, and only an extended
virtual machine is in extended-control mode. -/
structure GuestLayout (memory : Memory) (control : AssistControl) : Prop where
  apart : (memory.guestRegions control).Pairwise Region.Apart
  modes : memory.inExtendedMode (memory.guestContext control).vmblok = true →
    memory.isExtended (memory.guestContext control).vmblok = true

/-- Nothing that holds the state of the running virtual machine overlaps the fields of its prefixed
storage area that SUPERVISOR CALL stores into. -/
def ImageApart (memory : Memory) (known : Knowledge) (cpu : Cpu) : Prop :=
  ∀ region ∈ memory.guestRegions cpu.assistControl, known.CallApart cpu region

/-- The virtual PSW is that of the VMBLOK that it lies in. -/
theorem get_vmblok_psw (memory other : Memory) (control : AssistControl) :
    other.get (memory.guestContext control).vmblok Vmblok.psw =
      other.get (memory.guestContext control).pswAddress Field.first := by
  have sameStart : Address.wrap ((memory.guestContext control).vmblok + Vmblok.psw.offset) =
      Address.wrap
        ((memory.guestContext control).pswAddress + (Field.first : Field Psw).offset) := by
    have address_lt := (memory.guestContext control).pswAddress.toNat_lt
    have offset : Vmblok.psw.offset.toNat = 0xa8 := rfl
    have zero : (Field.first : Field Psw).offset.toNat = 0 := rfl
    apply UInt32.toNat_inj.mp
    simp only [GuestContext.vmblok, Address.toNat_wrap, UInt32.toNat_add, UInt32.toNat_sub, offset,
      zero, Address.space]
    omega
  simp only [get]
  rw [← bytes_wrap, sameStart, bytes_wrap]

section

variable {memory after : Memory} {known : Knowledge} {cpu cpuAfter : Cpu}

theorem changePsw_agreesOn {image : Memory} {slot : UInt32} {region : Region} (new : Psw)
    (imageKept : image.AgreesOn memory region)
    (slotApart : (Region.ofField slot (Field.first : Field Psw)).Apart region) :
    (image.put slot Field.first new).AgreesOn memory region :=
  (put_agreesOn new slotApart).trans imageKept

/-- Where the shadow registers of a user lie. -/
def shadowRegion (memory : Memory) (user : UInt32) : Region :=
  if memory.isExtended user then memory.ecblokRegion user else .ofField user Vmblok.extension

/-- The words of control registers lie in the ECBLOK. -/
theorem controlWord_within (block : UInt32) (register : RegisterNumber) :
    (Region.ofField block ((Field.first : Field UInt32).item register)).Within ⟨block, 64⟩ := by
  have inBlock : ∀ register : RegisterNumber,
      ((Field.first : Field UInt32).item register).offset.toNat + 4 ≤ 64 := by
    decide
  have offset_le := inBlock register
  exact Region.ofField_within _ offset_le (by simp only [Address.space]; omega)

theorem shadow_within {context : GuestContext} {register : RegisterNumber}
    (present : memory.isExtended context.vmblok = true ∨ register = 0) :
    (Region.ofField (context.shadowAddress memory)
      ((Field.first : Field UInt32).item register)).Within
      (memory.shadowRegion context.vmblok) := by
  cases extended : memory.isExtended context.vmblok with
  | true =>
      rw [shadowRegion, if_pos extended, GuestContext.shadowAddress, if_pos extended]
      exact controlWord_within _ register
  | false =>
      obtain rfl : register = 0 := by simpa [extended] using present
      rw [shadowRegion, if_neg (by simp [extended]), GuestContext.shadowAddress,
        if_neg (by simp [extended])]
      intro address inField
      simpa [Region.ofField, Field.first, Field.item] using inField

theorem loadControls_agreesOn {context : GuestContext} {first last : RegisterNumber}
    (shadow : RegisterFile) {region : Region}
    (basic : memory.isExtended context.vmblok = false → first = 0 ∧ last = 0)
    (shadowApart : (memory.shadowRegion context.vmblok).Apart region) :
    (putShadow (context.shadowAddress memory) shadow (RegisterNumber.range first last)
      memory).AgreesOn memory region := by
  refine putShadow_agreesOn fun register register_mem => shadowApart.mono (shadow_within ?_)
  cases extended : memory.isExtended context.vmblok with
  | true => exact .inl rfl
  | false =>
      obtain ⟨rfl, rfl⟩ := basic extended
      right
      revert register
      decide

theorem GuestLayout.shadow_apart (layout : memory.GuestLayout cpu.assistControl) {user : UInt32}
    (isUser : user = (memory.guestContext cpu.assistControl).vmblok) :
    (memory.shadowRegion user).Apart ⟨cpu.assistControl.micblok, Micblok.size⟩ ∧
      (memory.shadowRegion user).Apart
        (.ofField (memory.guestContext cpu.assistControl).pswAddress (Field.first : Field Psw)) ∧
      (memory.shadowRegion user).Apart (statusRegion user) ∧
      (memory.isExtended user = true →
        (memory.shadowRegion user).Apart (.ofField user Vmblok.extension)) := by
  have apart := layout.apart
  simp only [guestRegions, ← isUser, List.cons_append, List.nil_append, List.pairwise_cons,
    List.mem_cons, forall_eq_or_imp] at apart
  obtain ⟨⟨-, -, micblokExtension, micblokEcblok⟩, ⟨-, slotExtension, slotEcblok⟩,
    ⟨statusExtension, statusEcblok⟩, extensionEcblok, -⟩ := apart
  cases extended : memory.isExtended user with
  | true =>
      have isEcblok : memory.ecblokRegion user ∈
          if memory.isExtended user = true then [memory.ecblokRegion user] else [] := by
        simp [extended]
      simp only [shadowRegion, extended, if_true]
      exact ⟨(micblokEcblok _ isEcblok).symm, (slotEcblok _ isEcblok).symm,
        (statusEcblok _ isEcblok).symm, fun _ => (extensionEcblok _ isEcblok).symm⟩
  | false =>
      simp only [shadowRegion, extended, Bool.false_eq_true, if_false]
      exact ⟨micblokExtension.symm, slotExtension.symm, statusExtension.symm, False.elim⟩

theorem ImageApart.shadow (image : memory.ImageApart known cpu) :
    known.CallApart cpu
      (memory.shadowRegion (memory.guestContext cpu.assistControl).vmblok) := by
  apply image
  rw [shadowRegion, guestRegions]
  split <;> simp

theorem modes_kept {user : UInt32} (statusKept : after.AgreesOn memory (statusRegion user)) :
    after.isExtended user = memory.isExtended user ∧
      after.inExtendedMode user = memory.inExtendedMode user := by
  have processorWithin : (Region.ofField user Vmblok.processorStatus).Within (statusRegion user) :=
    fun _ inField => Nat.lt_trans inField (show 1 < 2 by decide)
  have extendedWithin : (Region.ofField user Vmblok.extendedStatus).Within (statusRegion user) := by
    apply Region.within_of_distance
    rw [statusRegion, Region.ofField, Region.distance_add_add]
    exact (show 1 + 1 ≤ 2 by decide)
  constructor
  · rw [isExtended, (statusKept.mono processorWithin).get_eq, isExtended]
  · rw [inExtendedMode, (statusKept.mono extendedWithin).get_eq, inExtendedMode]

/-- While an assist changes the state of the running virtual machine, the places where it lies stay
as they are. -/
theorem GuestLayout.places_kept (layout : memory.GuestLayout cpu.assistControl)
    (image : memory.ImageApart known cpu) {user : UInt32}
    (isUser : user = (memory.guestContext cpu.assistControl).vmblok)
    (effect : (memory.guestContext cpu.assistControl).Effect known memory cpu after cpuAfter) :
    after.AgreesOn memory ⟨cpu.assistControl.micblok, Micblok.size⟩ ∧
      after.AgreesOn memory (statusRegion user) ∧
      (memory.isExtended user = true → after.AgreesOn memory (.ofField user Vmblok.extension)) := by
  cases effect with
  | changePsw imageKept passed oldMask oldMode newMask same =>
      have apart := layout.apart
      simp only [ImageApart, guestRegions, ← isUser, List.cons_append, List.nil_append,
        List.pairwise_cons, List.mem_cons, forall_eq_or_imp] at apart image
      obtain ⟨⟨micblokSlot, -⟩, ⟨slotStatus, slotExtension, -⟩, -⟩ := apart
      obtain ⟨micblokImage, -, statusImage, extensionImage, -⟩ := image
      refine ⟨?_, ?_, fun _ => ?_⟩
      · exact changePsw_agreesOn _ (imageKept _ micblokImage) micblokSlot.symm
      · exact changePsw_agreesOn _ (imageKept _ statusImage) slotStatus
      · exact changePsw_agreesOn _ (imageKept _ extensionImage) slotExtension
  | loadControls basic isLoaded same =>
      obtain ⟨micblok, -, status, extension⟩ := layout.shadow_apart rfl
      subst isUser
      refine ⟨?_, ?_, fun extended => ?_⟩
      · exact loadControls_agreesOn _ basic micblok
      · exact loadControls_agreesOn _ basic status
      · exact loadControls_agreesOn _ basic (extension extended)

section Controls

variable (memory) (context : GuestContext)

theorem virtualControl0_eq : memory.virtualControl0 context.vmblok =
    memory.get (context.shadowAddress memory) (Field.first.item (0 : RegisterNumber)) := by
  rw [virtualControl0, GuestContext.shadowAddress]
  cases memory.isExtended context.vmblok with
  | true => rfl
  | false =>
      have zero : (Field.first.item (0 : RegisterNumber) : Field UInt32).offset = 0 := rfl
      simp only [Bool.false_eq_true, if_false, get, zero, UInt32.add_zero]

theorem virtualControl2_eq (extended : memory.isExtended context.vmblok = true) :
    memory.virtualControl2 context.vmblok =
      memory.get (context.shadowAddress memory) (Field.first.item (2 : RegisterNumber)) := by
  rw [virtualControl2, GuestContext.shadowAddress, if_pos extended]
  rfl

end Controls

/-- The shadow registers stay where they are. -/
theorem shadowAddress_kept {context : GuestContext}
    (sameExtended : after.isExtended context.vmblok = memory.isExtended context.vmblok)
    (extensionKept : memory.isExtended context.vmblok = true →
      after.AgreesOn memory (.ofField context.vmblok Vmblok.extension)) :
    context.shadowAddress after = context.shadowAddress memory := by
  rw [GuestContext.shadowAddress, GuestContext.shadowAddress, sameExtended]
  split
  · rename_i extended
    rw [getAddress, (extensionKept extended).get_eq, getAddress]
  · rfl

theorem read_shadowRegisters {extended : Bool} {address : UInt32} {register : RegisterNumber}
    (present : extended = true ∨ register = 0) :
    (memory.shadowRegisters extended address).read register =
      memory.get address (Field.first.item register) := by
  cases extended with
  | true => simp [shadowRegisters, RegisterFile.read]
  | false =>
      obtain rfl : register = 0 := by simpa using present
      simp only [shadowRegisters, Bool.false_eq_true, if_false, RegisterFile.read_load, if_true]
      rfl

/-- After a load of virtual control registers their places hold what has been loaded. -/
theorem get_loaded {context : GuestContext} {first last register : RegisterNumber}
    {new : RegisterFile} {real : RegisterFile} {loaded : ControlRegisters}
    (isPending : context.pending &&& Micblok.pendingFlag ≠ 0)
    (present : memory.isExtended context.vmblok = true ∨ register = 0)
    (isLoaded : ControlRegisters.load
      { shadow := memory.shadowRegisters (memory.isExtended context.vmblok)
          (context.shadowAddress memory)
        real }
      (RegisterNumber.range first last) new context.psw context.pending = .ok loaded) :
    (putShadow (context.shadowAddress memory) loaded.shadow (RegisterNumber.range first last)
        memory).get (context.shadowAddress memory) (Field.first.item register) =
      loaded.shadow.read register := by
  by_cases inRange : register ∈ RegisterNumber.range first last
  · exact get_putShadow_of_mem inRange
  · rw [get_putShadow_of_not_mem inRange]
    rw [(ControlRegisters.load_subset isPending isLoaded).2.2 register inRange]
    exact (read_shadowRegisters present).symm

/-- Where virtual control register 2 counts, it is in storage. -/
theorem GuestLayout.isExtended_of_used {control : AssistControl}
    (layout : memory.GuestLayout control)
    (used : (memory.inExtendedMode (memory.guestContext control).vmblok ||
      memory.isExtended (memory.guestContext control).vmblok) = true) :
    memory.isExtended (memory.guestContext control).vmblok = true := by
  rcases Bool.or_eq_true_iff.mp used with mode | extended
  · exact layout.modes mode
  · exact extended

/-- While an interruption is pending, an assist enables no interruption class. -/
theorem GuestLayout.enables_subset (layout : memory.GuestLayout cpu.assistControl)
    (image : memory.ImageApart known cpu) {user : UInt32}
    (isUser : user = (memory.guestContext cpu.assistControl).vmblok)
    (isPending : (memory.guestContext cpu.assistControl).pending &&& Micblok.pendingFlag ≠ 0)
    (effect : (memory.guestContext cpu.assistControl).Effect known memory cpu after cpuAfter) :
    (after.enables user).Subset (memory.enables user) := by
  obtain ⟨-, statusKept, extensionKept⟩ := layout.places_kept image isUser effect
  obtain ⟨sameExtended, sameMode⟩ := modes_kept statusKept
  subst isUser
  have sameAddress := shadowAddress_kept sameExtended extensionKept
  rw [enables, enables, virtualControl0_eq, virtualControl0_eq, sameAddress, sameExtended, sameMode,
    get_vmblok_psw, get_vmblok_psw]
  cases effect with
  | changePsw imageKept passed oldMask oldMode newMask same =>
      rename_i old checked new _
      have shadowKept := changePsw_agreesOn new (imageKept _ image.shadow)
        (layout.shadow_apart rfl).2.1.symm
      apply Enables.ofControls_subset
      · have narrower := Psw.systemMask_of_checkTransition isPending passed
        rw [(get_put_psw _ _ _ _).1, newMask]
        rw [oldMask] at narrower
        exact narrower
      · intro _
        rw [(shadowKept.mono (shadow_within (.inr rfl))).get_eq, UInt32.and_self]
      · intro _ used
        have extended := layout.isExtended_of_used used
        rw [virtualControl2_eq _ _ (sameExtended.trans extended), virtualControl2_eq _ _ extended,
          sameAddress, (shadowKept.mono (shadow_within (.inl extended))).get_eq, UInt32.and_self]
  | loadControls basic isLoaded same =>
      obtain ⟨loaded0, loaded2, -⟩ := ControlRegisters.load_subset isPending isLoaded
      rename_i first last operands loaded
      have slotKept := loadControls_agreesOn loaded.shadow basic (layout.shadow_apart rfl).2.1
      rw [slotKept.get_eq]
      apply Enables.ofControls_subset UInt8.and_self
      · intro external
        rw [get_loaded isPending (.inr rfl) isLoaded, ← read_shadowRegisters (.inr rfl)]
        exact loaded0 external
      · intro io used
        have extended := layout.isExtended_of_used used
        rw [virtualControl2_eq _ _ (sameExtended.trans extended), virtualControl2_eq _ _ extended,
          sameAddress, get_loaded isPending (.inl extended) isLoaded,
          ← read_shadowRegisters (.inl extended)]
        exact loaded2 io

theorem guestContext_kept {control : AssistControl}
    (micblokKept : after.AgreesOn memory ⟨control.micblok, Micblok.size⟩) :
    (after.guestContext control).micblok = (memory.guestContext control).micblok ∧
      (after.guestContext control).pswAddress = (memory.guestContext control).pswAddress := by
  simp only [guestContext, micblokKept.bytes_eq, and_self]

/-- An assist leaves the layout of the running virtual machine, and the pending interruption. -/
theorem GuestLayout.kept (layout : memory.GuestLayout cpu.assistControl)
    (image : memory.ImageApart known cpu)
    (effect : (memory.guestContext cpu.assistControl).Effect known memory cpu after cpuAfter) :
    after.GuestLayout cpuAfter.assistControl ∧
      (after.guestContext cpuAfter.assistControl).vmblok =
        (memory.guestContext cpu.assistControl).vmblok ∧
      (after.guestContext cpuAfter.assistControl).pending =
        (memory.guestContext cpu.assistControl).pending := by
  obtain ⟨micblokKept, statusKept, extensionKept⟩ := layout.places_kept image rfl effect
  obtain ⟨sameExtended, sameMode⟩ := modes_kept statusKept
  obtain ⟨sameMicblok, samePlace⟩ := guestContext_kept micblokKept
  have same := effect.sameControls
  have sameUser : (after.guestContext cpu.assistControl).vmblok =
      (memory.guestContext cpu.assistControl).vmblok := by
    rw [GuestContext.vmblok, samePlace, GuestContext.vmblok]
  have sameEcblok : memory.isExtended (memory.guestContext cpu.assistControl).vmblok = true →
      after.ecblokRegion (memory.guestContext cpu.assistControl).vmblok =
        memory.ecblokRegion (memory.guestContext cpu.assistControl).vmblok := by
    intro extended
    rw [ecblokRegion, getAddress, (extensionKept extended).get_eq, ecblokRegion, getAddress]
  have sameRegions : after.guestRegions cpu.assistControl =
      memory.guestRegions cpu.assistControl := by
    rw [guestRegions, guestRegions, sameUser, samePlace, sameExtended]
    split
    · rename_i extended
      rw [sameEcblok extended]
    · rfl
  refine ⟨⟨?_, ?_⟩, ?_, ?_⟩
  · rw [same.assistControl, sameRegions]
    exact layout.apart
  · rw [same.assistControl, sameUser, sameMode, sameExtended]
    exact layout.modes
  · rw [same.assistControl, sameUser]
  · rw [same.assistControl, GuestContext.pending, sameMicblok, GuestContext.pending]

end

end Memory

section Systems

variable {Machine Refusal : Type}

/-- What is known of a machine while it is only looked at: storage, and that its answers to
translations are among those of the machines that looking leads to. -/
def Callouts.knowledge (callouts : Callouts Machine Refusal) (start : Machine) : Knowledge where
  faithful := True
  translates control0 control1 address answer :=
    ∃ machine raw, callouts.Reaches Callout.Looks start machine ∧
      (callouts.translate control0 control1 address machine).1 = .ok raw ∧
      answer = raw.map Address.wrap

variable {callouts : Callouts Machine Refusal} {policy : Policy}

theorem StorageView.shows_knowledge (view : StorageView callouts) (start : Machine) :
    callouts.Shows (callouts.knowledge start) view.memory start where
  keeps _ looked := view.memory_of_looks looked
  fetches _ journal address length machine := view.fetch_ok journal address length machine
  translates machine looked _ _ _ raw answered := ⟨machine, raw, looked, answered, rfl⟩

namespace System

/-- The interruption classes that are enabled for a user in one memory were enabled in another, as
the entry of the dispatcher finds them. -/
def EnablesNoMore (user : UInt32) (before after : Memory) : Prop :=
  ∃ enabled enabledBefore, (Dispatcher.enables user).look after = some enabled ∧
    (Dispatcher.enables user).look before = some enabledBefore ∧ enabled.Subset enabledBefore

theorem enablesNoMore_iff {user : UInt32} {before after : Memory} :
    EnablesNoMore user before after ↔ (after.enables user).Subset (before.enables user) := by
  simp [EnablesNoMore, Memory.look_enables]

/-- The state of the running virtual machine does not overlap the fields of its prefixed storage
area that SUPERVISOR CALL stores into, wherever they may be translated to. -/
def ImageApart (view : StorageView callouts) (system : System Machine) : Prop :=
  (view.memory system.machine).ImageApart (callouts.knowledge system.machine) system.cpu

variable {system : System Machine} {request : Request} {user : UInt32}

/-- An instruction that completes while an interruption is pending enables no interruption class,
and leaves everything so that this holds of the next one. -/
theorem enablesNoMore_perform (view : StorageView callouts) (isVirtual : request.IsVirtual)
    (isUser : user = (system.virtualMachine view).vmblok)
    (layout : (view.memory system.machine).GuestLayout system.cpu.assistControl)
    (image : system.ImageApart view)
    (isPending : (system.virtualMachine view).pending &&& Micblok.pendingFlag ≠ 0)
    (completed : (system.perform policy callouts request).result = .ok .completed) :
    EnablesNoMore user (view.memory system.machine)
        (view.memory (system.perform policy callouts request).system.machine) ∧
      user = ((system.perform policy callouts request).system.virtualMachine view).vmblok ∧
      (view.memory (system.perform policy callouts request).system.machine).GuestLayout
        (system.perform policy callouts request).system.cpu.assistControl ∧
      ((system.perform policy callouts request).system.virtualMachine view).pending &&&
        Micblok.pendingFlag ≠ 0 := by
  have done : (system.perform policy callouts request).result =
      .ok Completion.completed.outcome := completed
  have effect := effect_of_completed view trivial (view.shows_knowledge system.machine)
    (fun _ => trivial) isVirtual done
  obtain ⟨layoutKept, sameUser, samePending⟩ := layout.kept image effect
  refine ⟨?_, isUser.trans sameUser.symm, layoutKept, ?_⟩
  · exact enablesNoMore_iff.mpr (layout.enables_subset image isUser isPending effect)
  · rw [virtualMachine, samePending]
    exact isPending

/-- While an interruption is pending, no instruction of a run, nor the run as a whole, enables an
interruption class for the running virtual machine. -/
theorem enablesNoMore_along (view : StorageView callouts) {requests : List Request}
    (areVirtual : ∀ request ∈ requests, request.IsVirtual)
    (isUser : user = (system.virtualMachine view).vmblok)
    (layout : (view.memory system.machine).GuestLayout system.cpu.assistControl)
    (images : system.Along policy callouts (fun system _ => system.ImageApart view) requests)
    (isPending : (system.virtualMachine view).pending &&& Micblok.pendingFlag ≠ 0)
    (completed : system.Along policy callouts
      (fun system request => (system.perform policy callouts request).result = .ok .completed)
      requests) :
    system.Along policy callouts
        (fun system request => EnablesNoMore user (view.memory system.machine)
          (view.memory (system.perform policy callouts request).system.machine)) requests ∧
      EnablesNoMore user (view.memory system.machine)
        (view.memory (system.performAll policy callouts requests).machine) := by
  induction requests generalizing system with
  | nil => exact ⟨trivial, enablesNoMore_iff.mpr (.refl _)⟩
  | cons request rest ih =>
      obtain ⟨first, stillUser, stillLayout, stillPending⟩ :=
        enablesNoMore_perform view (areVirtual request (by simp)) isUser layout images.1 isPending
          completed.1
      obtain ⟨along, later⟩ := ih (fun other other_mem => areVirtual other (by simp [other_mem]))
        stillUser stillLayout images.2 stillPending completed.2
      refine ⟨⟨first, along⟩, enablesNoMore_iff.mpr ?_⟩
      exact (enablesNoMore_iff.mp later).trans (enablesNoMore_iff.mp first)

/-- A system with an interruption pending for its virtual machine, which has a PSW in BC mode that
enables channel 0 and external interruptions, and an extended machine's control registers at
address 6000. -/
def pendingGuest : System Memory where
  registry := Registry.initial true false
  cpu :=
    { Cpu.initial with
      control := RegisterFile.zero.load 6 0x80001000
      psw := { states := { problemState := true, extendedControl := true } } }
  machine :=
    ((((((((Memory.zero.store 0x1004 [0, 0, 0x60, 0]).store
      0x1008 [0x80, 0, 0x20, 0xa8]).store
      0x1014 [0x80, 0, 0, 0]).store
      0x20a8 [0x81, 0, 0, 0, 0, 0, 4, 0]).store
      0x20b4 [0x40]).store
      0x200c [0, 0, 0x60, 0]).store
      0x6000 [0, 0, 0, 0xe0]).store
      0x60 [1, 0, 0, 0, 0, 0, 0x50, 0]).store
      0x4000 [0, 0, 0, 0xa0]

/-- Where no address is translated, the prefixed storage area lies where it is addressed. -/
theorem imageApart_of_not_translates {view : StorageView callouts}
    (notTranslates : system.cpu.psw.translates = false)
    (apart : ∀ region ∈ (view.memory system.machine).guestRegions system.cpu.assistControl,
      Region.Apart ⟨Address.wrap PrefixArea.callOldPsw, 8⟩ region ∧
        Region.Apart ⟨Address.wrap PrefixArea.callCode, 4⟩ region) :
    system.ImageApart view := by
  intro region region_mem
  constructor
  · intro real maps
    obtain rfl : real = Address.wrap PrefixArea.callOldPsw := by
      simpa [Knowledge.Maps, notTranslates] using maps
    exact (apart region region_mem).1
  · intro real maps
    obtain rfl : real = Address.wrap PrefixArea.callCode := by
      simpa [Knowledge.Maps, notTranslates] using maps
    exact (apart region region_mem).2

theorem pendingGuest_enablesNoMore :
    (pendingGuest.machine.enables 0x2000).external = 0xe0 ∧
      EnablesNoMore 0x2000 pendingGuest.machine (pendingGuest.performAll .splitKeys
        Memory.callouts [.lctl 0 0 0x4000, .svc 7]).machine := by
  have layout : (Memory.storageView.memory pendingGuest.machine).GuestLayout
      pendingGuest.cpu.assistControl :=
    ⟨by decide +kernel, by decide +kernel⟩
  have images : pendingGuest.Along .splitKeys Memory.callouts
      (fun system _ => system.ImageApart Memory.storageView) [.lctl 0 0 0x4000, .svc 7] :=
    ⟨imageApart_of_not_translates (by decide +kernel) (by decide +kernel),
      imageApart_of_not_translates (by decide +kernel) (by decide +kernel), trivial⟩
  have completed : pendingGuest.Along .splitKeys Memory.callouts
      (fun system request =>
        (system.perform .splitKeys Memory.callouts request).result = .ok .completed)
      [.lctl 0 0 0x4000, .svc 7] :=
    ⟨Response.result_eq_ok (by decide +kernel), Response.result_eq_ok (by decide +kernel),
      trivial⟩
  refine ⟨by decide +kernel, ?_⟩
  exact (enablesNoMore_along Memory.storageView (by simp [Request.IsVirtual])
    (by decide +kernel) layout images (by decide +kernel) completed).2

end System

end Systems

end Assist370
