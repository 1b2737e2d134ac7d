import Assist370.Proofs.Observation
import Assist370.Proofs.Outcome

/-!
# Assists of a virtual machine

What each assist of a virtual machine ensures when it completes: which change of the virtual PSW it
has checked, and what it has stored.
-/

namespace Assist370

/-- The running virtual machine as memory tells of it. -/
def Memory.guestContext (memory : Memory) (control : AssistControl) : GuestContext :=
  let micblok := Micblok.ofBytes (memory.bytes control.micblok Micblok.size)
  let pswAddress := Address.wrap micblok.virtualPsw
  { control, micblok, pswAddress, psw := memory.get pswAddress Field.first }

/-- An address has a real address under the registers, as far as translations are known. -/
def Knowledge.Maps (known : Knowledge) (cpu : Cpu) (address real : UInt32) : Prop :=
  if cpu.psw.translates then
    known.translates (cpu.control.read 0) (cpu.control.read 1) (Address.wrap address) (.ok real)
  else
    real = Address.wrap address

namespace Microcode

variable {known : Knowledge} {scene : Scene}

theorem realAddress_achieves (address : UInt32) {post : UInt32 → Scene → Prop}
    (achieves : ∀ real, known.Maps scene.cpu address real → post real scene) :
    (realAddress address).Achieves known post scene := by
  simp only [Achieves, realAddress, loadRealAddress, ensures_bind, ensures_registers,
    ensures_ite, ensures_pure]
  refine ⟨fun translates => (ensures_perform _).mpr ?_, fun notTranslates => achieves _ ?_⟩
  · rintro (_ | real) isKnown
    · exact (ensures_decline _).mpr trivial
    · exact (ensures_pure real).mpr
        (achieves real (by simpa [Knowledge.Maps, translates] using isKnown))
  · simp [Knowledge.Maps, notTranslates]

/-- A value that lies within one key block is stored at the real address of its place. -/
theorem storeLogical_achieves {α : Type} [Stored α] (policy : Policy) (address : UInt32)
    (value : α) (protection : BitVec 4) {post : Unit → Scene → Prop}
    (inBlock : Piece.split policy address (Stored.size α) =
      [⟨Address.wrap address, Stored.size α⟩])
    (achieves : ∀ real, known.Maps scene.cpu address real →
      post () { scene with memory := scene.memory.store real (Stored.encode value).toList }) :
    (storeLogical policy address value protection).Achieves known post scene := by
  have taken : (Stored.encode value).toList.take (Stored.size α) =
      (Stored.encode value).toList := List.take_of_length_le (by simp)
  simp only [Achieves, storeLogical, storeLogicalBytes, Vector.length_toList, inBlock, resolve,
    ensures_bind, ensures_pure]
  refine realAddress_achieves _ fun real maps => ?_
  refine (ensures_perform _).mpr fun key => ?_
  simp only [ensures_require, storePieces, ensures_bind, ensures_pure]
  refine ⟨fun _ => (ensures_perform _).mpr fun _ => ?_, fun _ => trivial⟩
  have stored := achieves real (by simpa [Knowledge.Maps] using maps)
  rw [← taken] at stored
  exact stored

theorem fetchLogical_achieves {α : Type} [Stored α] (policy : Policy) (address : UInt32)
    (protection : BitVec 4) {post : α → Scene → Prop} (achieves : ∀ value, post value scene) :
    (fetchLogical policy address protection : Microcode α).Achieves known post scene :=
  (takes_fetchLogical onlyLooks_allowsLooks policy address protection).ensures_of_looks achieves
    fun _ => trivial

end Microcode

/-- The processor has the same assist controls, and translates addresses in the same way. -/
structure Cpu.SameControls (cpu other : Cpu) : Prop where
  control : ∀ register, register ≠ 12 → register ≠ 13 →
    other.control.read register = cpu.control.read register
  translates : other.psw.translates = cpu.psw.translates

/-- The shadow registers at an address, with register 0 alone for a machine that is not extended. -/
def Memory.shadowRegisters (memory : Memory) (extended : Bool) (address : UInt32) :
    RegisterFile :=
  if extended then
    Vector.ofFn fun index => memory.get address (Field.first.item index)
  else
    RegisterFile.zero.load 0 (memory.get address Field.first)

/-- Puts shadow registers into their places. -/
def Memory.putShadow (address : UInt32) (shadow : RegisterFile) :
    List RegisterNumber → Memory → Memory
  | [], memory => memory
  | register :: rest, memory =>
      putShadow address shadow rest
        (memory.put address (Field.first.item register) (shadow.read register))

namespace GuestContext

open Microcode

variable {known : Knowledge} {scene : Scene}

theorem lookUp_achieves (isFaithful : known.faithful) {post : GuestContext → Scene → Prop}
    (achieves : ∀ timer, post (scene.memory.guestContext scene.cpu.assistControl)
      { scene with cpu := { scene.cpu with virtualTimerAddress := timer } }) :
    lookUp.Achieves known post scene := by
  simp only [Achieves, lookUp, ensures_bind, ensures_registers, ensures_require]
  refine ⟨fun _ => (ensures_perform _).mpr fun bytes fetched => ?_, fun _ => trivial⟩
  rw [fetched isFaithful]
  split
  · simp only [ensures_bind, ensures_modify, ensures_fetch_iff isFaithful]
    exact (ensures_pure _).mpr (achieves _)
  · simp only [ensures_bind, ensures_pure, ensures_fetch_iff isFaithful]
    exact achieves scene.cpu.virtualTimerAddress

theorem validate_achieves {old new : Psw} {pending : UInt8} {post : Unit → Scene → Prop}
    (achieves : old.checkTransition new pending = .ok () → post () scene) :
    (validate old new pending).Achieves known post scene := by
  unfold validate
  split
  · rename_i passed
    exact (ensures_pure ()).mpr (achieves passed)
  · simp [Achieves]

theorem loadUserFields_achieves (new : Psw) {post : Unit → Scene → Prop}
    (achieves : ∀ cpu, scene.cpu.SameControls cpu → post () { scene with cpu }) :
    (loadUserFields new).Achieves known post scene := by
  simp only [Achieves, loadUserFields, branch, ensures_bind, ensures_modify]
  exact achieves _ ⟨fun _ _ _ => rfl, rfl⟩

theorem setSystemMask_achieves (policy : Policy) (address : UInt32) (context : GuestContext)
    {post : Completion → Scene → Prop}
    (achieves : ∀ systemMask,
      context.psw.checkTransition { context.psw with systemMask } context.pending = .ok () →
      post .completed { scene with
        memory := scene.memory.put context.pswAddress Field.first
          { context.psw with
            systemMask
            instructionAddress := scene.cpu.psw.instructionAddress } }) :
    (setSystemMask policy address context).Achieves known post scene := by
  simp only [Achieves, setSystemMask, ensures_bind, ensures_require, ensures_registers,
    ensures_store, ensures_pure]
  refine ⟨fun _ => ?_, fun _ => trivial⟩
  refine ensures_fetch _ _ fun control0 _ => ?_
  refine ⟨fun _ => ?_, fun _ => trivial⟩
  refine fetchLogical_achieves policy address _ fun systemMask => ?_
  exact validate_achieves fun passed _ => achieves systemMask passed

/-- What SUPERVISOR CALL does once it has the new PSW. -/
def presentCall (policy : Policy) (code : UInt8) (new : Psw) (context : GuestContext) :
    Microcode Completion := do
  let old := { context.current (← registers).psw with interruptionCode := code.toUInt16 }
  validate old new context.pending
  storeLogical policy PrefixArea.callOldPsw old 0
  if old.isExtended then
    storeLogical policy PrefixArea.callCode (0x00020000 ||| code.toUInt32) 0
  loadUserFields new
  store context.pswAddress Field.first new
  return .completed

theorem supervisorCall_eq (policy : Policy) (code : UInt8) (context : GuestContext) :
    context.supervisorCall policy code = (do
      require (code != reservedCall) .reservedCall
      require (!context.control.svcInhibit) .svcInhibited
      let new : Psw ← fetchLogical policy PrefixArea.callNewPsw 0
      context.presentCall policy code new) :=
  rfl

/-- Fetches the new PSW of LOAD PSW. -/
def fetchOperandPsw (policy : Policy) (address : UInt32) : Microcode Psw := do
  fetchLogical policy address (← registers).psw.key

/-- What LOAD PSW does once it has the new PSW. -/
def adopt (new : Psw) (context : GuestContext) : Microcode Completion := do
  validate context.psw new context.pending
  loadUserFields new
  store context.pswAddress Field.first new
  return .completed

theorem loadPsw_eq (policy : Policy) (address : UInt32) (context : GuestContext) :
    context.loadPsw policy address = (do
      require (!context.control.virtualProblem) .virtualProblemState
      require context.micblok.assistsLoadPsw .loadPswOff
      require (address &&& 3 == 0) .operandNotAligned
      let new ← fetchOperandPsw policy address
      context.adopt new) :=
  rfl

theorem adopt_achieves (new : Psw) (context : GuestContext) {post : Completion → Scene → Prop}
    (achieves : ∀ cpu, scene.cpu.SameControls cpu →
      context.psw.checkTransition new context.pending = .ok () →
      post .completed { scene with
        cpu
        memory := scene.memory.put context.pswAddress Field.first new }) :
    (context.adopt new).Achieves known post scene := by
  simp only [Achieves, adopt, ensures_bind]
  refine validate_achieves fun passed => ?_
  refine loadUserFields_achieves new fun cpu same => ?_
  simp only [ensures_store, ensures_pure]
  exact fun _ => achieves cpu same passed

end GuestContext

/-- Whatever real addresses the fields of the prefixed storage area have that SUPERVISOR CALL stores
into, these fields are apart from a region. -/
structure Knowledge.CallApart (known : Knowledge) (cpu : Cpu) (region : Region) : Prop where
  oldPsw : ∀ real, known.Maps cpu PrefixArea.callOldPsw real → Region.Apart ⟨real, 8⟩ region
  code : ∀ real, known.Maps cpu PrefixArea.callCode real → Region.Apart ⟨real, 4⟩ region

theorem Knowledge.CallApart.mono {known : Knowledge} {cpu : Cpu} {inner outer : Region}
    (image : known.CallApart cpu outer) (within : inner.Within outer) :
    known.CallApart cpu inner :=
  ⟨fun real maps => (image.oldPsw real maps).mono_right within,
    fun real maps => (image.code real maps).mono_right within⟩

namespace GuestContext

open Microcode

variable {known : Knowledge} {scene : Scene}

/-- Neither the old PSW nor the code crosses a block of storage keys. -/
theorem split_callOldPsw (policy : Policy) :
    Piece.split policy PrefixArea.callOldPsw (Stored.size Psw) =
      [⟨Address.wrap PrefixArea.callOldPsw, Stored.size Psw⟩] := by
  cases policy <;> decide +kernel

theorem split_callCode (policy : Policy) :
    Piece.split policy PrefixArea.callCode (Stored.size UInt32) =
      [⟨Address.wrap PrefixArea.callCode, Stored.size UInt32⟩] := by
  cases policy <;> decide +kernel

/-- SUPERVISOR CALL has stored where its old PSW is translated to and, in extended-control mode,
where its code is, and nowhere else. -/
def StoresCall (known : Knowledge) (context : GuestContext) (scene : Scene) (memory : Memory) :
    Prop :=
  ∀ region,
    (∀ real, known.Maps scene.cpu PrefixArea.callOldPsw real → Region.Apart ⟨real, 8⟩ region) →
    (context.psw.isExtended = true →
      ∀ real, known.Maps scene.cpu PrefixArea.callCode real → Region.Apart ⟨real, 4⟩ region) →
    memory.AgreesOn scene.memory region

theorem storesCall_old {real : UInt32} (maps : known.Maps scene.cpu PrefixArea.callOldPsw real)
    (context : GuestContext) (old : Psw) :
    StoresCall known context scene (scene.memory.store real (Stored.encode old).toList) := by
  intro region oldApart _
  apply Memory.store_agreesOn
  rw [Vector.length_toList]
  exact oldApart real maps

theorem StoresCall.code {context : GuestContext} {memory : Memory}
    (stores : StoresCall known context scene memory) (extended : context.psw.isExtended = true)
    {real : UInt32} (maps : known.Maps scene.cpu PrefixArea.callCode real) (code : UInt32) :
    StoresCall known context scene (memory.store real (Stored.encode code).toList) := by
  intro region oldApart codeApart
  refine Memory.AgreesOn.trans ?_ (stores region oldApart codeApart)
  apply Memory.store_agreesOn
  rw [Vector.length_toList]
  exact codeApart extended real maps

/-- SUPERVISOR CALL stores the old PSW, in extended-control mode the code, and then the new PSW. -/
theorem presentCall_achieves (policy : Policy) (code : UInt8) (new : Psw)
    (context : GuestContext) {post : Completion → Scene → Prop}
    (achieves : ∀ (cpu : Cpu) (memory : Memory), scene.cpu.SameControls cpu →
      StoresCall known context scene memory →
      Psw.checkTransition
        { context.current scene.cpu.psw with interruptionCode := code.toUInt16 } new
        context.pending = .ok () →
      post .completed { scene with
        cpu
        memory := memory.put context.pswAddress Field.first new }) :
    (context.presentCall policy code new).Achieves known post scene := by
  simp only [Achieves, presentCall, ensures_bind, ensures_registers]
  have sameMode : Psw.isExtended
      { context.current scene.cpu.psw with interruptionCode := code.toUInt16 } =
        context.psw.isExtended := rfl
  generalize { context.current scene.cpu.psw with interruptionCode := code.toUInt16 } = old
    at achieves sameMode
  refine validate_achieves fun passed => ?_
  refine storeLogical_achieves policy _ _ _ (split_callOldPsw policy) fun oldReal oldMaps => ?_
  have oldStored := storesCall_old oldMaps context old
  have rest : ∀ memory : Memory, StoresCall known context scene memory →
      Microcode.Achieves known
        (do loadUserFields new; store context.pswAddress Field.first new; return .completed)
        post { scene with memory } := by
    intro memory stores
    simp only [Achieves, ensures_bind]
    refine loadUserFields_achieves new fun cpu same => ?_
    simp only [ensures_store, ensures_pure]
    exact fun _ => achieves cpu memory same stores passed
  simp only [ensures_ite]
  refine ⟨fun extended => (ensures_bind _ _).mpr ?_, fun _ => rest _ oldStored⟩
  refine storeLogical_achieves policy _ _ _ (split_callCode policy) fun codeReal codeMaps => ?_
  exact rest _ (oldStored.code (sameMode.symm.trans extended) codeMaps _)

theorem fetchShadow_achieves (isFaithful : known.faithful) (extended : Bool) (address : UInt32)
    {post : RegisterFile → Scene → Prop}
    (achieves : post (scene.memory.shadowRegisters extended address) scene) :
    (fetchShadow extended address).Achieves known post scene := by
  cases extended with
  | true => exact fetchRow_ensures isFaithful address Field.first 16 achieves
  | false =>
      simp only [Achieves, fetchShadow, Bool.false_eq_true, if_false, ensures_bind, ensures_pure,
        ensures_fetch_iff isFaithful]
      exact achieves

theorem fetchOperands_achieves (policy : Policy) (address : UInt32)
    (range : List RegisterNumber) (operands : RegisterFile) {post : RegisterFile → Scene → Prop}
    (achieves : ∀ new, post new scene) :
    (fetchOperands policy address range operands).Achieves known post scene := by
  induction range generalizing address operands with
  | nil => exact (ensures_pure _).mpr (achieves operands)
  | cons register rest ih =>
      simp only [Achieves, fetchOperands, ensures_bind, ensures_registers]
      exact fetchLogical_achieves policy address _ fun operand => ih _ _

theorem storeShadow_achieves (address : UInt32) (shadow : RegisterFile)
    (range : List RegisterNumber) {post : Unit → Scene → Prop}
    (achieves : post ()
      { scene with memory := Memory.putShadow address shadow range scene.memory }) :
    (storeShadow address shadow range).Achieves known post scene := by
  induction range generalizing scene with
  | nil => exact (ensures_pure ()).mpr achieves
  | cons register rest ih =>
      simp only [Achieves, storeShadow, ensures_bind, ensures_store]
      exact fun _ => ih achieves

/-- The address of the shadow registers. -/
def shadowAddress (memory : Memory) (context : GuestContext) : UInt32 :=
  if memory.isExtended context.vmblok then
    memory.getAddress context.vmblok Vmblok.extension
  else
    context.vmblok + Vmblok.extension.offset

/-- What LOAD CONTROL does once it has the operands and knows where the shadow registers are. -/
def replaceControls (extended : Bool) (range : List RegisterNumber) (new : RegisterFile)
    (context : GuestContext) (shadowAddress : UInt32) : Microcode Completion := do
  let shadow ← fetchShadow extended shadowAddress
  let real := (← registers).control
  match ControlRegisters.load { shadow, real } range new context.psw context.pending with
  | .ok loaded =>
      modify fun cpu => { cpu with control := loaded.real }
      storeShadow shadowAddress loaded.shadow range
      return .completed
  | .error reject =>
      log (.loadRejected reject)
      decline (.loadRejected reject)

theorem loadControl_eq (policy : Policy) (first last : RegisterNumber) (address : UInt32)
    (context : GuestContext) :
    context.loadControl policy first last address = (do
      require (address &&& 3 == 0) .operandNotAligned
      let extended ← testBits context.vmblok Vmblok.processorStatus Vmblok.extendedMachine
      require (extended || (first == 0 && last == 0)) .basicModeRange
      let range := RegisterNumber.range first last
      let new ← fetchOperands policy address range RegisterFile.zero
      if extended then
        fetchAddress context.vmblok Vmblok.extension >>=
          context.replaceControls extended range new
      else
        context.replaceControls extended range new (context.vmblok + Vmblok.extension.offset)) :=
  rfl

theorem loadControl_achieves (isFaithful : known.faithful) (policy : Policy)
    (first last : RegisterNumber) (address : UInt32) (context : GuestContext)
    {post : Completion → Scene → Prop}
    (achieves : ∀ (new : RegisterFile) (loaded : ControlRegisters),
      (scene.memory.isExtended context.vmblok = false → first = 0 ∧ last = 0) →
      ControlRegisters.load
        { shadow := scene.memory.shadowRegisters (scene.memory.isExtended context.vmblok)
            (context.shadowAddress scene.memory)
          real := scene.cpu.control }
        (RegisterNumber.range first last) new context.psw context.pending = .ok loaded →
      post .completed { scene with
        cpu := { scene.cpu with control := loaded.real }
        memory := Memory.putShadow (context.shadowAddress scene.memory) loaded.shadow
          (RegisterNumber.range first last) scene.memory }) :
    (context.loadControl policy first last address).Achieves known post scene := by
  simp only [Achieves, loadControl_eq, ensures_bind, ensures_require]
  refine ⟨fun _ => ?_, fun _ => trivial⟩
  refine ensures_testBits _ _ _ fun extended isExtended => ?_
  obtain rfl : extended = scene.memory.isExtended context.vmblok := isExtended isFaithful
  refine ⟨fun inRange => ?_, fun _ => trivial⟩
  refine fetchOperands_achieves policy address _ _ fun new => ?_
  have rest : (context.replaceControls (scene.memory.isExtended context.vmblok)
      (RegisterNumber.range first last) new (context.shadowAddress scene.memory)).Achieves known
        post scene := by
    simp only [Achieves, replaceControls, ensures_bind, ensures_registers]
    refine fetchShadow_achieves isFaithful _ _ ?_
    split
    · rename_i loaded isLoaded
      simp only [ensures_bind, ensures_modify]
      refine storeShadow_achieves _ _ _ ((ensures_pure _).mpr ?_)
      refine achieves new loaded (fun notExtended => ?_) isLoaded
      simpa [notExtended] using inRange
    · simp
  simp only [ensures_ite]
  refine ⟨fun extended => ?_, fun notExtended => ?_⟩
  · refine (ensures_bind _ _).mpr (ensures_fetchAddress _ _ fun found isFound => ?_)
    rw [isFound isFaithful]
    rw [shadowAddress, if_pos extended] at rest
    exact rest
  · rw [shadowAddress, if_neg notExtended] at rest
    exact rest

end GuestContext

end Assist370
