import Assist370.Proofs.Isolation
import Assist370.Proofs.VirtualPsw

/-!
# Moves of the virtual PSW

SET SYSTEM MASK, SUPERVISOR CALL and LOAD PSW build their new virtual PSW from different parts, and
each checks it against the old one. So along every run the virtual PSW keeps its mode and, in
extended-control mode, its kind of translation (`Psw.Follows`). The first of them that completes
leaves a PSW that is neither a wait PSW nor an invalid one (`Psw.Settled`), and it stays so. This
holds even where the completion of an instruction is refused with a part of its stores made, because
what counts lies in the first two bytes of the PSW, and each of them is then old or new.
-/

namespace Assist370

namespace Psw

/-- The PSW has the mode of another and, in extended-control mode, its translation and event
recording bits. -/
structure Follows (psw other : Psw) : Prop where
  mode : psw.isExtended = other.isExtended
  translation : psw.isExtended = true → psw.translationBits = other.translationBits

/-- The PSW is no wait PSW and, in extended-control mode, has no reserved system mask bit on. -/
structure Settled (psw : Psw) : Prop where
  running : psw.isWait = false
  valid : psw.isExtended = true → psw.masks reservedMask = false

/-- The real PSW holds the parts of a virtual PSW that it has to hold. -/
structure Carries (real virtual : Psw) : Prop where
  instructionAddress : real.instructionAddress = virtual.instructionAddress
  conditionCode : real.conditionCode = virtual.conditionCode
  key : real.key = virtual.key
  programMask : real.programMask = virtual.programMask

variable {psw old new start : Psw}

theorem Follows.refl (psw : Psw) : psw.Follows psw :=
  ⟨rfl, fun _ => rfl⟩

theorem Follows.trans (later : new.Follows old) (first : old.Follows start) :
    new.Follows start where
  mode := later.mode.trans first.mode
  translation extended := (later.translation extended).trans
    (first.translation (later.mode ▸ extended))

theorem moves_of_checkTransition {pending : UInt8}
    (passed : old.checkTransition new pending = .ok ()) : new.Follows old ∧ new.Settled := by
  obtain ⟨mode, translation, -, -⟩ := checkTransition_ok passed
  refine ⟨⟨mode.symm, translation⟩, ?_⟩
  simp only [checkTransition, pure, Except.pure, bind, Except.bind, throw, throwThe,
    MonadExceptOf.throw] at passed
  constructor <;> grind

/-- A PSW whose system mask and states are each taken from one of two that follow each other follows
the first of them too. -/
theorem Follows.mixed (follows : new.Follows old)
    (mask : psw.systemMask = old.systemMask ∨ psw.systemMask = new.systemMask)
    (states : psw.states = old.states ∨ psw.states = new.states) : psw.Follows old := by
  have mode : psw.isExtended = old.isExtended := by
    rcases states with same | same
    · rw [isExtended, same, isExtended]
    · rw [← follows.mode, isExtended, same, isExtended]
  refine ⟨mode, fun extended => ?_⟩
  rcases mask with same | same
  · rw [translationBits, same, translationBits]
  · rw [← follows.translation (follows.mode.trans (mode.symm.trans extended)), translationBits,
      same, translationBits]

theorem Settled.mixed (oldSettled : old.Settled) (newSettled : new.Settled)
    (follows : new.Follows old)
    (mask : psw.systemMask = old.systemMask ∨ psw.systemMask = new.systemMask)
    (states : psw.states = old.states ∨ psw.states = new.states) : psw.Settled := by
  have mode := (follows.mixed mask states).mode
  constructor
  · rcases states with same | same
    · rw [isWait, same, ← isWait, oldSettled.running]
    · rw [isWait, same, ← isWait, newSettled.running]
  · intro extended
    rcases mask with same | same
    · rw [masks, same, ← masks, oldSettled.valid (mode.symm.trans extended)]
    · rw [masks, same, ← masks, newSettled.valid (follows.mode.trans (mode.symm.trans extended))]

theorem Settled.of_parts (settled : old.Settled) (mask : psw.systemMask = old.systemMask)
    (states : psw.states = old.states) : psw.Settled :=
  settled.mixed settled (.refl old) (.inl mask) (.inl states)

end Psw

/-- A virtual PSW that fits its format is carried by a processor that has adopted it. -/
theorem Cpu.carries_adopt (cpu : Cpu) {new : Psw} (fits : new.Fits) :
    (cpu.adopt new).psw.Carries new :=
  ⟨fits.instructionAddress, rfl, rfl, rfl⟩

/-- The system mask and the states of a PSW in storage are its first two bytes. -/
theorem Memory.get_psw_parts (memory : Memory) (slot : UInt32) :
    (memory.get slot Field.first : Psw).systemMask = memory.byte slot ∧
      (memory.get slot Field.first : Psw).states =
        MachineStates.ofByte (memory.byte (slot + 1)) := by
  have first : (memory.bytes (slot + (Field.first : Field Psw).offset) (Stored.size Psw)).byte 0 =
      memory.byte slot := by
    rw [Bytes.byte_eq_getElem _ _ (by decide)]
    simp [bytes, Field.first]
  have second : (memory.bytes (slot + (Field.first : Field Psw).offset) (Stored.size Psw)).byte 1 =
      memory.byte (slot + 1) := by
    rw [Bytes.byte_eq_getElem _ _ (by decide)]
    simp [bytes, Field.first]
  simp only [get, Stored.decode, Psw.ofBytes, first, second]
  split <;> exact ⟨rfl, rfl⟩

/-- Where each byte is taken from one of two memories, so are the system mask and the states of a
PSW. -/
theorem Memory.mixed_psw_parts {memory old new : Memory} (slot : UInt32)
    (bytes : ∀ place, memory.byte place = old.byte place ∨ memory.byte place = new.byte place) :
    ((memory.get slot Field.first : Psw).systemMask = (old.get slot Field.first : Psw).systemMask ∨
        (memory.get slot Field.first : Psw).systemMask =
          (new.get slot Field.first : Psw).systemMask) ∧
      ((memory.get slot Field.first : Psw).states = (old.get slot Field.first : Psw).states ∨
        (memory.get slot Field.first : Psw).states = (new.get slot Field.first : Psw).states) := by
  simp only [(memory.get_psw_parts slot).1, (memory.get_psw_parts slot).2,
    (old.get_psw_parts slot).1, (old.get_psw_parts slot).2, (new.get_psw_parts slot).1,
    (new.get_psw_parts slot).2]
  exact ⟨bytes slot, (bytes (slot + 1)).imp (congrArg _) (congrArg _)⟩

namespace Request

/-- The instruction changes the virtual PSW. -/
def ChangesPsw : Request → Prop
  | ssm _ | svc _ | lpsw _ => True
  | _ => False

/-- The instruction loads a whole virtual PSW. -/
def LoadsPsw : Request → Prop
  | svc _ | lpsw _ => True
  | _ => False

/-- The regions that an instruction of a virtual machine may store into beside the virtual PSW. -/
inductive StoresBeside (known : Knowledge) (memory : Memory) (cpu : Cpu) :
    Request → Region → Prop where
  /-- The supervisor-call old PSW, wherever it is translated to. -/
  | oldPsw {code : UInt8} {real : UInt32} (maps : known.Maps cpu PrefixArea.callOldPsw real) :
      StoresBeside known memory cpu (.svc code) ⟨real, 8⟩
  /-- The supervisor-call code, of a virtual machine in extended-control mode. -/
  | callCode {code : UInt8} {real : UInt32}
      (extended : (memory.guestContext cpu.assistControl).psw.isExtended = true)
      (maps : known.Maps cpu PrefixArea.callCode real) :
      StoresBeside known memory cpu (.svc code) ⟨real, 4⟩
  /-- The shadow of a register in the range of LOAD CONTROL. -/
  | shadow {first last register : RegisterNumber} {address : UInt32}
      (inRange : register ∈ RegisterNumber.range first last) :
      StoresBeside known memory cpu (.lctl first last address)
        (.ofField ((memory.guestContext cpu.assistControl).shadowAddress memory)
          ((Field.first : Field UInt32).item register))

/-- Where an instruction stores beside the virtual PSW if no address is translated. -/
def besideRegions (memory : Memory) (cpu : Cpu) : Request → List Region
  | svc _ => [⟨Address.wrap PrefixArea.callOldPsw, 8⟩, ⟨Address.wrap PrefixArea.callCode, 4⟩]
  | lctl first last _ =>
      (RegisterNumber.range first last).map fun register : RegisterNumber =>
        .ofField ((memory.guestContext cpu.assistControl).shadowAddress memory)
          ((Field.first : Field UInt32).item register)
  | _ => []

theorem StoresBeside.mem_besideRegions {known : Knowledge} {memory : Memory} {cpu : Cpu}
    {request : Request} {region : Region} (stores : StoresBeside known memory cpu request region)
    (notTranslates : cpu.psw.translates = false) :
    region ∈ request.besideRegions memory cpu := by
  cases stores with
  | oldPsw maps =>
      simp only [Knowledge.Maps, notTranslates, Bool.false_eq_true, if_false] at maps
      simp [besideRegions, maps]
  | callCode _ maps =>
      simp only [Knowledge.Maps, notTranslates, Bool.false_eq_true, if_false] at maps
      simp [besideRegions, maps]
  | shadow inRange => exact List.mem_map.mpr ⟨_, inRange, rfl⟩

end Request

section Programs

variable {known : Knowledge} {policy : Policy} {memory after : Memory} {cpu cpuAfter : Cpu}
  {request : Request}

/-- What an instruction of a virtual machine leaves for a virtual PSW when its program is done, if
it stores nothing else over it. -/
theorem GuestContext.Leaves.moves
    (leaves : (memory.guestContext cpu.assistControl).Leaves known policy memory cpu request after
      cpuAfter)
    (spares : ∀ region, request.StoresBeside known memory cpu region →
      region.Apart (memory.pswRegion cpu.assistControl)) :
    let old : Psw := (memory.guestContext cpu.assistControl).psw
    let new : Psw := after.get (memory.guestContext cpu.assistControl).pswAddress Field.first
    new.Follows old ∧ (old.Settled ∨ request.ChangesPsw → new.Settled) ∧
      (request.LoadsPsw → cpuAfter.psw.Carries new) := by
  intro old new
  -- A PSW that passes the check is stored as it is, as far as the check looks at it.
  have moves : ∀ {image : Memory} {checked stored : Psw}, checked.Follows old → checked.Settled →
      after = image.put (memory.guestContext cpu.assistControl).pswAddress Field.first stored →
      stored.systemMask = checked.systemMask → stored.states = checked.states →
      new.Follows old ∧ new.Settled := by
    intro image checked stored follows settled isStored sameMask sameStates
    obtain ⟨mask, states⟩ := image.get_put_psw (memory.guestContext cpu.assistControl).pswAddress
      Field.first stored
    simp only [new, isStored]
    exact ⟨follows.mixed (.inr (mask.trans sameMask)) (.inr (states.trans sameStates)),
      settled.of_parts (mask.trans sameMask) (states.trans sameStates)⟩
  cases leaves with
  | masked passed =>
      obtain ⟨follows, settled⟩ := Psw.moves_of_checkTransition passed
      obtain ⟨newFollows, newSettled⟩ := moves follows settled rfl rfl rfl
      exact ⟨newFollows, fun _ => newSettled, False.elim⟩
  | called fits passed _ _ =>
      obtain ⟨follows, settled⟩ := Psw.moves_of_checkTransition passed
      obtain ⟨newFollows, newSettled⟩ :=
        moves ⟨follows.mode, follows.translation⟩ settled rfl rfl rfl
      refine ⟨newFollows, fun _ => newSettled, fun _ => ?_⟩
      simp only [new, Memory.get_put_psw_of_fits fits]
      exact Cpu.carries_adopt _ fits
  | loaded fits passed _ =>
      obtain ⟨follows, settled⟩ := Psw.moves_of_checkTransition passed
      obtain ⟨newFollows, newSettled⟩ := moves follows settled rfl rfl rfl
      refine ⟨newFollows, fun _ => newSettled, fun _ => ?_⟩
      simp only [new, Memory.get_put_psw_of_fits fits]
      exact Cpu.carries_adopt _ fits
  | loadedControls basic isLoaded =>
      have kept : new = old := by
        apply Memory.AgreesOn.get_eq
        apply Memory.putShadow_agreesOn
        exact fun register register_mem => spares _ (.shadow register_mem)
      rw [kept]
      exact ⟨.refl old, fun settled => settled.resolve_right id, False.elim⟩

end Programs

namespace System

variable {Machine Refusal : Type} {policy : Policy} {callouts : Callouts Machine Refusal}
  {system : System Machine} {request : Request}

/-- The instruction stores nothing into the MICBLOK, and beside the virtual PSW itself it stores
nothing over that. -/
structure SparesGuest (view : StorageView callouts) (policy : Policy) (system : System Machine)
    (request : Request) : Prop where
  micblok : system.SparesMicblok policy callouts request
  psw : (system.perform policy callouts request).result ≠ .ok .declined →
    ∀ region, request.StoresBeside (callouts.knowledge system.machine)
        (view.memory system.machine) system.cpu region →
      region.Apart ((view.memory system.machine).pswRegion system.cpu.assistControl)

/-- Whatever becomes of an instruction, the virtual PSW moves as the check allows. -/
theorem moves_perform (view : StorageView callouts) (isVirtual : request.IsVirtual)
    (spares : system.SparesGuest view policy request) :
    let old := (system.virtualMachine view).psw
    let new := ((system.perform policy callouts request).system.virtualMachine view).psw
    new.Follows old ∧ (old.Settled → new.Settled) := by
  intro old new
  have isNew : new = (view.memory (system.perform policy callouts request).system.machine).get
      (system.virtualMachine view).pswAddress Field.first := by
    rw [← pswAddress_perform view isVirtual spares.micblok]
    rfl
  rcases bytes_perform view system policy request with same | ⟨_, after, ran, concludes, bytes⟩
  · have kept : new = old := isNew.trans (Memory.AgreesOn.get_eq fun place _ => same place)
    rw [kept]
    exact ⟨.refl old, id⟩
  · obtain ⟨-, leaves⟩ := leaves_of_ran view isVirtual ran
    obtain ⟨follows, settled, -⟩ := leaves.moves (spares.psw concludes.performed)
    obtain ⟨mask, states⟩ := Memory.mixed_psw_parts (system.virtualMachine view).pswAddress bytes
    rw [← isNew] at mask states
    exact ⟨follows.mixed mask states, fun oldSettled =>
      oldSettled.mixed (settled (.inl oldSettled)) follows mask states⟩

/-- An instruction that completes leaves a settled virtual PSW if it changes that, and a real PSW
that carries it if it loads one. -/
theorem moves_of_completed (view : StorageView callouts) (isVirtual : request.IsVirtual)
    (spares : system.SparesGuest view policy request)
    (completed : (system.perform policy callouts request).result = .ok .completed) :
    let next := (system.perform policy callouts request).system
    (request.ChangesPsw → (next.virtualMachine view).psw.Settled) ∧
      (request.LoadsPsw → next.cpu.psw.Carries (next.virtualMachine view).psw) := by
  intro next
  have isNew : (next.virtualMachine view).psw = (view.memory next.machine).get
      (system.virtualMachine view).pswAddress Field.first := by
    rw [← pswAddress_perform view isVirtual spares.micblok]
    rfl
  obtain ⟨-, settled, carries⟩ := (leaves_of_completed view isVirtual completed).moves
    (spares.psw (by simp [completed]))
  rw [isNew]
  exact ⟨fun changes => settled (.inr changes), carries⟩

/-- The instruction completes, and changes the virtual PSW. -/
def ChangesPsw (policy : Policy) (callouts : Callouts Machine Refusal) (system : System Machine)
    (request : Request) : Prop :=
  (system.perform policy callouts request).result = .ok .completed ∧ request.ChangesPsw

/-- Along every run, whatever becomes of its instructions, the virtual PSW stays where it is and
moves as the check allows. From the first instruction on that completes and changes it, it is
settled. After each instruction that completes and loads it, the real PSW carries it. -/
theorem moves_along (view : StorageView callouts) {requests : List Request}
    (areVirtual : ∀ request ∈ requests, request.IsVirtual)
    (spares : system.Along policy callouts
      (fun system request => system.SparesGuest view policy request) requests) :
    let old := system.virtualMachine view
    let new := (system.performAll policy callouts requests).virtualMachine view
    new.pswAddress = old.pswAddress ∧ new.psw.Follows old.psw ∧
      (old.psw.Settled ∨ ¬system.Along policy callouts
        (fun system request => ¬system.ChangesPsw policy callouts request) requests →
          new.psw.Settled) ∧
      system.Along policy callouts
        (fun system request =>
          let next := (system.perform policy callouts request).system
          (system.perform policy callouts request).result = .ok .completed ∧ request.LoadsPsw →
            next.cpu.psw.Carries (next.virtualMachine view).psw) requests := by
  induction requests generalizing system with
  | nil =>
      refine ⟨rfl, .refl _, ?_, trivial⟩
      exact fun settled => settled.resolve_right fun never => never trivial
  | cons request rest ih =>
      have isVirtual := areVirtual request (by simp)
      obtain ⟨follows, settled⟩ := moves_perform view isVirtual spares.1
      have completes := moves_of_completed view isVirtual spares.1
      obtain ⟨sameAddress, laterFollows, laterSettled, carries⟩ :=
        ih (fun other other_mem => areVirtual other (by simp [other_mem])) spares.2
      refine ⟨sameAddress.trans (pswAddress_perform view isVirtual spares.1.micblok),
        laterFollows.trans follows, fun changed => laterSettled ?_, fun loads => ?_, carries⟩
      · rcases changed with oldSettled | changed
        · exact .inl (settled oldSettled)
        · by_cases first : system.ChangesPsw policy callouts request
          · exact .inl ((completes first.1).1 first.2)
          · exact .inr fun never => changed ⟨first, never⟩
      · exact (completes loads.1).2 loads.2

/-- A system whose virtual machine, an extended one in extended-control mode, has its control
registers at address 6000, a new PSW for supervisor calls, a system mask at address 4008 and zeros
behind that. -/
def callingGuest : System Memory where
  registry := Registry.initial true false
  cpu :=
    { Cpu.initial with
      control := RegisterFile.zero.load 6 0x80001000
      psw :=
        { states := { problemState := true, extendedControl := true }
          conditionCode := 2
          programMask := 5
          instructionAddress := 0x7002 } }
  machine :=
    ((((((Memory.zero.store 0x1004 [0, 0, 0x30, 0]).store
      0x1008 [0, 0, 0x20, 0xa8]).store
      0x1014 [0x80, 0, 0, 0]).store
      0x200c [0, 0, 0x60, 0]).store
      0x20a8 [1, 8, 0, 0, 0, 0, 4, 0, 0, 0, 0, 0, 0x40]).store
      0x60 [0, 8, 0, 0, 0, 0, 0x50, 0]).store
      0x4008 [3]

/-- Where no address is translated, what is stored beside the virtual PSW is computed. -/
theorem sparesGuest_of_not_translates {view : StorageView callouts}
    (notTranslates : system.cpu.psw.translates = false)
    (micblok : system.SparesMicblok policy callouts request)
    (apart : ∀ region ∈ request.besideRegions (view.memory system.machine) system.cpu,
      region.Apart ((view.memory system.machine).pswRegion system.cpu.assistControl)) :
    system.SparesGuest view policy request :=
  ⟨micblok, fun _ region stores => apart region (stores.mem_besideRegions notTranslates)⟩

theorem callingGuest_moves :
    let requests : List Request := [.svc 7, .ssm 0x4008, .lpsw 0x20, .lctl 12 13 0x4010]
    let after := callingGuest.performAll .splitKeys Memory.callouts requests
    (after.virtualMachine Memory.storageView).pswAddress = 0x20a8 ∧
      (after.virtualMachine Memory.storageView).psw.isExtended = true ∧
      (after.virtualMachine Memory.storageView).psw.isWait = false := by
  intro requests after
  have spares : callingGuest.Along .splitKeys Memory.callouts
      (fun system request => system.SparesGuest Memory.storageView .splitKeys request)
      requests := by
    refine ⟨?_, ?_, ?_, ?_, trivial⟩
    all_goals
      refine sparesGuest_of_not_translates ?_ ?_ ?_ <;> decide +kernel
  have completed : callingGuest.ChangesPsw .splitKeys Memory.callouts (.svc 7) :=
    ⟨Response.result_eq_ok (by decide +kernel), trivial⟩
  obtain ⟨address, follows, settled, -⟩ :=
    moves_along Memory.storageView (by simp [requests, Request.IsVirtual]) spares
  refine ⟨address.trans (by decide +kernel), ?_, ?_⟩
  · rw [follows.mode]
    decide +kernel
  · exact (settled (.inr fun never => never.1 completed)).running

end System

end Assist370
