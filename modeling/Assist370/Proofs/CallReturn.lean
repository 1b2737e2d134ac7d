import Assist370.Proofs.PswMoves

/-!
# Return from a supervisor call

SUPERVISOR CALL stores the virtual PSW of the caller with those parts in it that only the real PSW
holds, and LOAD PSW of that old PSW takes them out again. In between, the virtual machine may have
run its handler. As long as the old PSW is where it was, the caller goes on with the PSW that it
had: what the format has no room for is lost, and the code of the call stays behind in basic-control
mode.
-/

namespace Assist370

namespace Region

variable {start : UInt32} {length : Nat}

theorem contains_wrap_start {address : UInt32} :
    Contains ⟨Address.wrap start, length⟩ address ↔ Contains ⟨start, length⟩ address := by
  have start_lt := start.toNat_lt
  have address_lt := address.toNat_lt
  simp only [Contains, distance_eq, Address.toNat_wrap, Address.space] at *
  omega

theorem apart_wrap_start {region : Region} :
    Apart ⟨Address.wrap start, length⟩ region ↔ Apart ⟨start, length⟩ region := by
  simp only [Apart, contains_wrap_start]

end Region

namespace Psw

/-- The parts of the real PSW that a virtual machine has no share in. -/
def own (real : Psw) : Psw :=
  { real with
    instructionAddress := 0
    conditionCode := 0
    states := { real.states with key := 0 }
    programMask := 0 }

/-- The virtual PSW of a caller when it gets the processor back, with the code of its call. -/
def afterCall (caller real : Psw) (code : UInt8) : Psw :=
  { caller with
    interruptionCode := if caller.isExtended then 0 else code.toUInt16
    instructionAddress := Address.wrap real.instructionAddress
    conditionCode := real.conditionCode &&& 3
    states := { caller.states with key := real.key }
    programMask := real.programMask &&& 0xf }

end Psw

/-- What is adopted is laid over the processor's own parts of the PSW. -/
theorem Cpu.adopt_psw (cpu : Cpu) (new : Psw) :
    (cpu.adopt new).psw =
      { cpu.psw.own with
        instructionAddress := Address.wrap new.instructionAddress
        conditionCode := new.conditionCode
        states := { cpu.psw.own.states with key := new.key }
        programMask := new.programMask } :=
  rfl

/-- Logical page 0 lies in a page frame, wherever its addresses are known to be. -/
def Knowledge.MapsFirstPage (known : Knowledge) (cpu : Cpu) (frame : UInt32) : Prop :=
  ∀ address real, address < Address.pageSize → known.Maps cpu address real →
    real = Address.wrap (frame + address)

/-- The fields of a first page that SUPERVISOR CALL stores into. -/
def callImages (frame : UInt32) : List Region :=
  [⟨frame + PrefixArea.callOldPsw, 8⟩, ⟨frame + PrefixArea.callCode, 4⟩]

namespace Memory

variable {memory : Memory} {code : UInt8} {old : Psw} {frame codeReal : UInt32}

/-- The old PSW comes back as far as its format has room for it. -/
theorem get_oldPsw {slot : UInt32} (new : Psw)
    (codePlace : old.isExtended = true → codeReal = Address.wrap (frame + PrefixArea.callCode))
    (slotApart : Region.Apart ⟨frame + PrefixArea.callOldPsw, 8⟩
      (.ofField slot (Field.first : Field Psw))) :
    ((memory.storeCall code old (Address.wrap (frame + PrefixArea.callOldPsw)) codeReal).put slot
      Field.first new).get (Address.wrap (frame + PrefixArea.callOldPsw)) Field.first =
        old.stored := by
  have slotKept : Region.Apart (.ofField slot (Field.first : Field Psw))
      (.ofField (Address.wrap (frame + PrefixArea.callOldPsw)) (Field.first : Field Psw)) := by
    rw [ofField_first (Address.wrap _)]
    exact (Region.apart_wrap_start.mpr slotApart).symm
  rw [(put_agreesOn new slotKept).get_eq, storeCall]
  split
  · rename_i extended
    have codeKept : Region.Apart (.ofField codeReal (Field.first : Field UInt32))
        (.ofField (Address.wrap (frame + PrefixArea.callOldPsw)) (Field.first : Field Psw)) := by
      rw [codePlace extended, ofField_first, ofField_first, Region.apart_wrap_start]
      refine (Region.apart_wrap_start.mpr (Region.Apart.symm ?_)).symm
      exact Region.apart_add frame (by decide) (by decide)
    rw [(put_agreesOn _ codeKept).get_eq, get_put_psw_eq]
  · rw [get_put_psw_eq]

end Memory

section Programs

variable {known : Knowledge} {policy : Policy} {memory after : Memory} {cpu cpuAfter : Cpu}
  {frame : UInt32}

theorem Memory.guestPsw_fits (memory : Memory) (control : AssistControl) :
    (memory.guestContext control).psw.Fits :=
  Psw.fits_ofBytes _

/-- The old PSW of a call, as it comes back from storage. -/
theorem GuestContext.stored_callPsw {context : GuestContext} (fits : context.psw.Fits) (real : Psw)
    (code : UInt8) : (context.callPsw real code).stored = context.psw.afterCall real code := by
  calc (context.callPsw real code).stored
      = { context.psw.afterCall real code with
          instructionLength :=
            context.psw.instructionLength &&& (if context.psw.isExtended then 0 else 3) } := rfl
    _ = context.psw.afterCall real code := by rw [fits.instructionLength]; rfl

/-- SUPERVISOR CALL, once done, has stored the PSW of the caller. -/
theorem GuestContext.Leaves.call {code : UInt8}
    (leaves : (memory.guestContext cpu.assistControl).Leaves known policy memory cpu (.svc code)
      after cpuAfter)
    (page : known.MapsFirstPage cpu frame)
    (apart : ∀ image ∈ callImages frame, image.Apart (memory.pswRegion cpu.assistControl)) :
    after.get (Address.wrap (frame + PrefixArea.callOldPsw)) Field.first =
        (memory.guestContext cpu.assistControl).psw.afterCall cpu.psw code ∧
      cpuAfter.psw.own = cpu.psw.own ∧ cpuAfter.assistControl = cpu.assistControl ∧
      ∀ region, (∀ image ∈ callImages frame, image.Apart region) →
        (memory.pswRegion cpu.assistControl).Apart region → after.AgreesOn memory region := by
  cases leaves with
  | called fits passed oldMaps codeMaps =>
      rename_i new oldReal codeReal timer
      have codePlace : ((memory.guestContext cpu.assistControl).callPsw cpu.psw code).isExtended =
          true → codeReal = Address.wrap (frame + PrefixArea.callCode) :=
        fun extended => page _ _ (by decide) (codeMaps extended)
      obtain rfl := page _ _ (by decide) oldMaps
      refine ⟨?_, rfl, rfl, fun region imagesApart slotApart => ?_⟩
      · rw [Memory.get_oldPsw _ codePlace (apart _ (by simp [callImages])),
          stored_callPsw (memory.guestPsw_fits _)]
      · simp only [callImages, List.forall_mem_cons] at imagesApart
        obtain ⟨oldApart, codeApart, -⟩ := imagesApart
        refine (Memory.put_agreesOn _ slotApart).trans (Memory.storeCall_agreesOn ?_ ?_)
        · exact Region.apart_wrap_start.mpr oldApart
        · exact fun extended => codePlace extended ▸ Region.apart_wrap_start.mpr codeApart

/-- LOAD PSW of the old PSW, once done, has loaded it. -/
theorem GuestContext.Leaves.return
    (leaves : (memory.guestContext cpu.assistControl).Leaves known policy memory cpu
      (.lpsw PrefixArea.callOldPsw) after cpuAfter)
    (page : known.MapsFirstPage cpu frame) :
    let old : Psw := memory.get (Address.wrap (frame + PrefixArea.callOldPsw)) Field.first
    after.get (memory.guestContext cpu.assistControl).pswAddress Field.first = old ∧
      cpuAfter.psw = (cpu.adopt old).psw := by
  have inBlock : Piece.split policy PrefixArea.callOldPsw 8 =
      [⟨Address.wrap PrefixArea.callOldPsw, 8⟩] := by
    cases policy <;> decide +kernel
  cases leaves with
  | loaded fits passed fetched =>
      obtain ⟨real, maps, rfl⟩ := fetched inBlock
      obtain rfl := page _ _ (by decide) maps
      exact ⟨Memory.get_put_psw_of_fits fits _ _ _, rfl⟩

end Programs

namespace System

variable {Machine Refusal : Type} {policy : Policy} {callouts : Callouts Machine Refusal}
  {system : System Machine} {request : Request}

/-- The virtual machine is about to return from a supervisor call: since the call, what has become
of the system has left the assist controls, the processor's own parts of the PSW, the MICBLOK and
the old PSW alone. -/
structure Returning (view : StorageView callouts) (frame : UInt32)
    (called system : System Machine) : Prop where
  assistControl : system.cpu.assistControl = called.cpu.assistControl
  psw : system.cpu.psw.own = called.cpu.psw.own
  micblok : (view.memory system.machine).AgreesOn (view.memory called.machine)
    ⟨called.cpu.assistControl.micblok, Micblok.size⟩
  oldPsw : (view.memory system.machine).AgreesOn (view.memory called.machine)
    ⟨frame + PrefixArea.callOldPsw, 8⟩

theorem Returning.refl (view : StorageView callouts) (frame : UInt32) (system : System Machine) :
    system.Returning view frame system :=
  ⟨rfl, rfl, fun _ _ => rfl, fun _ _ => rfl⟩

/-- The first page of the virtual machine's storage lies in a page frame. -/
def FirstPageIn (callouts : Callouts Machine Refusal) (frame : UInt32)
    (system : System Machine) : Prop :=
  (callouts.knowledge system.machine).MapsFirstPage system.cpu frame

/-- A virtual machine whose supervisor call completes and which then, when it has been through its
handler or at once, completes LOAD PSW of the old PSW is back with its caller: the real PSW is that
of before the call, and the virtual PSW has taken over the parts of it that it shares. Fields that a
PSW in storage has no room for are narrowed to it. -/
theorem returns_to_caller (view : StorageView callouts) {code : UInt8} {frame : UInt32}
    {returning : System Machine}
    (called : (system.perform policy callouts (.svc code)).result = .ok .completed)
    (page : system.FirstPageIn callouts frame)
    (pswApart : ∀ image ∈ callImages frame,
      image.Apart ((view.memory system.machine).pswRegion system.cpu.assistControl))
    (micblokApart : ∀ image ∈ callImages frame,
      image.Apart ⟨system.cpu.assistControl.micblok, Micblok.size⟩)
    (isReturning : Returning view frame (system.perform policy callouts (.svc code)).system
      returning)
    (samePage : returning.FirstPageIn callouts frame)
    (returned : (returning.perform policy callouts (.lpsw PrefixArea.callOldPsw)).result =
      .ok .completed) :
    let final := (returning.perform policy callouts (.lpsw PrefixArea.callOldPsw)).system
    let real := system.cpu.psw
    final.cpu.psw =
        { real with
          instructionAddress := Address.wrap real.instructionAddress
          conditionCode := real.conditionCode &&& 3
          programMask := real.programMask &&& 0xf } ∧
      (view.memory final.machine).get (returning.virtualMachine view).pswAddress Field.first =
        (system.virtualMachine view).psw.afterCall real code ∧
      (Region.Apart ((view.memory system.machine).pswRegion system.cpu.assistControl)
          ⟨system.cpu.assistControl.micblok, Micblok.size⟩ →
        (returning.virtualMachine view).pswAddress = (system.virtualMachine view).pswAddress) := by
  intro final real
  have callIsVirtual : (Request.svc code).IsVirtual := trivial
  have returnIsVirtual : (Request.lpsw PrefixArea.callOldPsw).IsVirtual := trivial
  obtain ⟨isOld, ownKept, sameControl, kept⟩ :=
    (leaves_of_completed view callIsVirtual called).call page pswApart
  obtain ⟨isStored, isReal⟩ :=
    (leaves_of_completed view returnIsVirtual returned).return samePage
  have sameOld : (view.memory returning.machine).get
      (Address.wrap (frame + PrefixArea.callOldPsw)) Field.first =
        (system.virtualMachine view).psw.afterCall real code := by
    refine Eq.trans (Memory.AgreesOn.get_eq fun address inOld => ?_) isOld
    rw [Memory.ofField_first, Region.contains_wrap_start] at inOld
    exact isReturning.oldPsw address inOld
  refine ⟨?_, isStored.trans sameOld, fun slotApart => ?_⟩
  · rw [isReal, sameOld, Cpu.adopt_psw, isReturning.psw, ownKept]
    simp [Psw.afterCall, Psw.own, Psw.key, real]
  · have micblokKept : (view.memory returning.machine).AgreesOn (view.memory system.machine)
        ⟨system.cpu.assistControl.micblok, Micblok.size⟩ := by
      have sinceCall := isReturning.micblok
      rw [sameControl] at sinceCall
      exact sinceCall.trans (kept _ micblokApart slotApart)
    rw [virtualMachine, virtualMachine, isReturning.assistControl, sameControl]
    exact (Memory.guestContext_kept micblokKept).2

theorem firstPageIn_of_not_translates (notTranslates : system.cpu.psw.translates = false) :
    system.FirstPageIn callouts 0 := by
  intro address real _ maps
  simpa [Knowledge.Maps, notTranslates] using maps

/-- The calling virtual machine in the midst of its handler for supervisor calls. -/
def handlingGuest : System Memory :=
  let called := (callingGuest.perform .splitKeys Memory.callouts (.svc 7)).system
  { called with
    cpu :=
      { called.cpu with
        general := called.cpu.general.load 3 0x1234
        psw := { called.cpu.psw with conditionCode := 1, instructionAddress := 0x5010 } } }

theorem handlingGuest_returns :
    let final := (handlingGuest.perform .splitKeys Memory.callouts
      (.lpsw PrefixArea.callOldPsw)).system
    final.cpu.psw = callingGuest.cpu.psw ∧
      (final.machine.get 0x20a8 Field.first : Psw).instructionAddress = 0x7002 := by
  intro final
  have isReturning : Returning Memory.storageView 0
      (callingGuest.perform .splitKeys Memory.callouts (.svc 7)).system handlingGuest :=
    ⟨rfl, rfl, fun _ _ => rfl, fun _ _ => rfl⟩
  obtain ⟨real, virtual, sameAddress⟩ := returns_to_caller Memory.storageView
    (Response.result_eq_ok (by decide +kernel)) (firstPageIn_of_not_translates (by decide +kernel))
    (by decide +kernel) (by decide +kernel) isReturning
    (firstPageIn_of_not_translates (by decide +kernel)) (Response.result_eq_ok (by decide +kernel))
  have isSlot : (handlingGuest.virtualMachine Memory.storageView).pswAddress = 0x20a8 :=
    (sameAddress (by decide +kernel)).trans (by decide +kernel)
  rw [isSlot] at virtual
  refine ⟨real.trans (by decide +kernel), ?_⟩
  refine (congrArg Psw.instructionAddress virtual).trans ?_
  decide +kernel

end System

end Assist370
