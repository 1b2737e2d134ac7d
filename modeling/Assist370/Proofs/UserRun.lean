import Assist370.Proofs.UserStart

/-!
# The run of a user

What a start leaves behind in registers and storage (`Dispatcher.Started`). A start works in three
steps: it takes the registers of the user up, stores the status and the virtual PSW back into the
VMBLOK, and notes the running user in the prefixed storage area. As long as that area and the VMBLOK
do not overlap, no step undoes what another one has stored.
-/

namespace Assist370

/-- The fields of the PSW fit into the format that its mode bit selects. -/
structure Psw.Fits (psw : Psw) : Prop where
  conditionCode : psw.conditionCode &&& 3 = psw.conditionCode
  programMask : psw.programMask &&& 0xf = psw.programMask
  instructionAddress : Address.wrap psw.instructionAddress = psw.instructionAddress
  interruptionCode : psw.isExtended = true → psw.interruptionCode = 0
  instructionLength : psw.instructionLength &&& (if psw.isExtended then 0 else 3) =
    psw.instructionLength

namespace Psw

/-- The byte with the instruction length code, the condition code and the program mask gives each of
them back. -/
theorem fields_of_codeByte {length code mask : UInt8} (length_fits : length &&& 3 = length)
    (code_fits : code &&& 3 = code) (mask_fits : mask &&& 0xf = mask) :
    let byte := ((length &&& 3) <<< (6 : UInt8)) |||
      (((code &&& 3) <<< (4 : UInt8)) ||| (mask &&& 0xf))
    byte >>> 6 = length ∧ (byte >>> 4) &&& 3 = code ∧ byte &&& 0xf = mask := by
  have narrow : ∀ byte : UInt8, byte &&& 3 = byte → ∃ bits : Fin 4, byte = UInt8.ofNat bits := by
    rintro ⟨bits⟩
    revert bits
    decide +kernel
  have wide : ∀ byte : UInt8, byte &&& 0xf = byte → ∃ bits : Fin 16, byte = UInt8.ofNat bits := by
    rintro ⟨bits⟩
    revert bits
    decide +kernel
  obtain ⟨length, rfl⟩ := narrow length length_fits
  obtain ⟨code, rfl⟩ := narrow code code_fits
  obtain ⟨mask, rfl⟩ := wide mask mask_fits
  clear length_fits code_fits mask_fits
  revert length code mask
  decide +kernel

theorem wrap_addressOfBytes (bytes : Bytes 8) :
    Address.wrap (addressOfBytes bytes) = addressOfBytes bytes := by
  rw [addressOfBytes, Address.wrap_word]
  simp [Bytes.word, Bytes.byte]

theorem fits_ofBytes (bytes : Bytes 8) : (ofBytes bytes).Fits := by
  have fields : ∀ byte : UInt8,
      byte >>> (4 : UInt8) &&& 3 &&& 3 = byte >>> (4 : UInt8) &&& 3 ∧
      byte &&& 0xf &&& 0xf = byte &&& 0xf ∧ byte >>> (6 : UInt8) &&& 3 = byte >>> (6 : UInt8) := by
    rintro ⟨bits⟩
    revert bits
    decide +kernel
  simp only [ofBytes]
  split
  · rename_i extended
    refine ⟨(fields _).1, (fields _).2.1, wrap_addressOfBytes _, fun _ => rfl, ?_⟩
    simp [isExtended, extended]
  · rename_i basic
    refine ⟨(fields _).1, (fields _).2.1, wrap_addressOfBytes _,
      fun extended => absurd extended basic, ?_⟩
    simpa [isExtended, basic] using (fields _).2.2

theorem addressOfBytes_toBytes (psw : Psw) :
    addressOfBytes psw.toBytes = Address.wrap psw.instructionAddress := by
  have word := Address.wrap_word (Bytes.ofWord psw.instructionAddress)
  rw [Bytes.word_ofWord] at word
  rw [word, addressOfBytes]
  cases extended : psw.isExtended <;> simp [toBytes, extended, Bytes.byte, Bytes.word]

theorem ofBytes_toBytes_of_fits {psw : Psw} (fits : psw.Fits) : ofBytes psw.toBytes = psw := by
  obtain ⟨conditionCode, programMask, instructionAddress, interruptionCode, instructionLength⟩ :=
    fits
  have sameAddress := (addressOfBytes_toBytes psw).trans instructionAddress
  obtain ⟨mask, states, code, length, condition, program, address⟩ := psw
  cases extended : states.extendedControl with
  | true =>
      obtain ⟨-, sameCondition, sameProgram⟩ :=
        @fields_of_codeByte 0 condition program rfl conditionCode programMask
      have noCode : code = 0 := interruptionCode extended
      simp only [isExtended, extended, if_true, UInt8.and_zero] at instructionLength
      rw [ofBytes, sameAddress]
      simpa [toBytes, isExtended, extended, Bytes.byte, noCode, ← instructionLength] using
        And.intro (by simpa using sameCondition) (by simpa using sameProgram)
  | false =>
      simp only [isExtended, extended, Bool.false_eq_true, if_false] at instructionLength
      obtain ⟨sameLength, sameCondition, sameProgram⟩ :=
        fields_of_codeByte instructionLength conditionCode programMask
      have sameCode : Bytes.halfword #v[(code >>> 8).toUInt8, code.toUInt8] = code :=
        Bytes.halfword_ofHalfword code
      rw [ofBytes, sameAddress]
      simpa [toBytes, isExtended, extended, Bytes.byte, Bytes.halfwordAt, Bytes.ofHalfword,
        sameCode] using ⟨sameLength, sameCondition, sameProgram⟩

end Psw

namespace Memory

variable {α β : Type} [Stored α] [Stored β] {memory : Memory} {user : UInt32}

theorem get_put_psw_of_fits {psw : Psw} (fits : psw.Fits) (memory : Memory) (block : UInt32)
    (field : Field Psw) :
    (memory.put block field psw).get block field = psw := by
  rw [get_put _ _ _ _ (by decide)]
  exact Psw.ofBytes_toBytes_of_fits fits

/-- The prefixed storage area changes without the VMBLOK of a user. -/
theorem put_prefix_agreesOn {other : Memory} (apart : prefixRegion.Apart (vmblokRegion user))
    {field : Field α} (value : α) (inPrefix : field.offset.toNat + Stored.size α ≤ 0x380)
    (agrees : memory.AgreesOn other (vmblokRegion user)) :
    (memory.put PrefixArea.base field value).AgreesOn other (vmblokRegion user) :=
  (put_agreesOn value (apart.mono (Dispatcher.prefix_within inPrefix))).trans agrees

/-- The VMBLOK of a user changes without the prefixed storage area. -/
theorem put_vmblok_agreesOn {other : Memory} (apart : prefixRegion.Apart (vmblokRegion user))
    {field : Field α} (value : α) (inVmblok : field.offset.toNat + Stored.size α ≤ 0xc0)
    (agrees : memory.AgreesOn other prefixRegion) :
    (memory.put user field value).AgreesOn other prefixRegion :=
  (put_agreesOn value (apart.symm.mono (Dispatcher.vmblok_within user inVmblok))).trans agrees

theorem get_prefix_put (apart : prefixRegion.Apart (vmblokRegion user)) {field : Field α}
    {other : Field β} (value : α) (inVmblok : field.offset.toNat + Stored.size α ≤ 0xc0)
    (inPrefix : other.offset.toNat + Stored.size β ≤ 0x380) :
    (memory.put user field value).get PrefixArea.base other =
      memory.get PrefixArea.base other := by
  refine (put_agreesOn value ?_).get_eq
  exact (apart.mono (Dispatcher.prefix_within inPrefix)).symm.mono
    (Dispatcher.vmblok_within user inVmblok)

theorem get_vmblok_put (apart : prefixRegion.Apart (vmblokRegion user)) {field : Field α}
    {other : Field β} (value : α) (inPrefix : field.offset.toNat + Stored.size α ≤ 0x380)
    (inVmblok : other.offset.toNat + Stored.size β ≤ 0xc0) :
    (memory.put PrefixArea.base field value).get user other = memory.get user other := by
  refine (put_agreesOn value ?_).get_eq
  exact (apart.symm.mono (Dispatcher.vmblok_within user inVmblok)).symm.mono
    (Dispatcher.prefix_within inPrefix)

end Memory

namespace Dispatcher
open Microcode
variable {known : Knowledge} {scene : Scene}

theorem honourPurge_achieves (isFaithful : known.faithful) {post : Unit → Scene → Prop}
    (achieves : ∀ memory purge,
      (∀ region, (Region.ofField PrefixArea.base PrefixArea.processorStatus).Apart region →
        memory.AgreesOn scene.memory region) →
      post () { scene with memory, purge }) :
    honourPurge.Achieves known post scene := by
  simp only [Achieves, honourPurge, ensures_bind, ensures_fetch_iff isFaithful, ensures_ite,
    ensures_store, ensures_purgeTlb, ensures_pure]
  refine ⟨fun _ _ => achieves _ _ fun region apart => Memory.put_agreesOn _ apart, fun _ => ?_⟩
  exact achieves _ _ fun _ _ _ _ => rfl

/-- The clocks and registers of a user that is started. -/
def takeUp (user : UInt32) (controls : TranslationControls) : Microcode Unit := do
  startClocks user
  modify fun cpu => (cpu.setControl 0 controls.control0).setControl 1 controls.control1
  store PrefixArea.base PrefixArea.cpStatus PrefixArea.cpRuns
  let general ← fetchRow user Vmblok.generalRegisters 16
  modify fun cpu => { cpu with general }
  store PrefixArea.base PrefixArea.ioOldMask 0
  honourPurge

/-- The VMBLOK of a user that is started. -/
def storeBack (user : UInt32) (status : UserStatus) (virtual : Psw) : Microcode Unit := do
  status.store user
  store user Vmblok.psw virtual
  stopCharging user
  setTimerFrom user Vmblok.problemTime

/-- The prefixed storage area tells of the user that is started, and the real PSW is loaded. -/
def goAhead (real : Psw) (controls : TranslationControls) : Microcode Completion := do
  store PrefixArea.base PrefixArea.runControl0 controls.control0
  store PrefixArea.base PrefixArea.runControl1 controls.control1
  store PrefixArea.base PrefixArea.runPsw real
  modify fun cpu => { cpu with psw := real }
  purgeTlb
  return .dispatched

theorem startAssisted_eq (user : UInt32) (status : UserStatus) (virtual real : Psw)
    (controls : TranslationControls) :
    startAssisted user status virtual real controls = (do
      takeUp user controls
      storeBack user status virtual
      goAhead real controls) := by
  simp only [startAssisted, takeUp, storeBack, goAhead, LawfulMonad.bind_assoc]

section

variable {user : UInt32} (apart : prefixRegion.Apart (vmblokRegion user))

include apart

theorem takeUp_achieves (isFaithful : known.faithful) (controls : TranslationControls)
    {post : Unit → Scene → Prop}
    (achieves : ∀ memory purge, memory.AgreesOn scene.memory (vmblokRegion user) →
      memory.get PrefixArea.base PrefixArea.problemStart =
        scene.memory.get user Vmblok.problemTime →
      memory.get PrefixArea.base PrefixArea.quantum =
        scene.memory.get PrefixArea.base PrefixArea.intervalTimer →
      memory.get PrefixArea.base PrefixArea.cpStatus = PrefixArea.cpRuns →
      post () { scene with
        memory
        purge
        cpu := { (scene.cpu.setControl 0 controls.control0).setControl 1 controls.control1 with
          general := Vector.ofFn fun index =>
            scene.memory.get user (Vmblok.generalRegisters.item index) } }) :
    (takeUp user controls).Achieves known post scene := by
  have rows : ∀ index : Fin 16,
      (Vmblok.generalRegisters.item index).offset.toNat + 4 ≤ 0xc0 := by decide
  simp only [Achieves, takeUp, startClocks, ensures_bind, ensures_fetch_iff isFaithful,
    ensures_store, ensures_modify]
  intro _ _ _ _
  generalize isClocked : Memory.put _ PrefixArea.base PrefixArea.cpStatus _ = clocked
  have agrees : clocked.AgreesOn scene.memory (vmblokRegion user) := by
    rw [← isClocked]
    iterate 4 refine Memory.put_prefix_agreesOn apart _ (by decide) ?_
    exact fun _ _ => rfl
  have clocks : clocked.get PrefixArea.base PrefixArea.problemStart =
        scene.memory.get user Vmblok.problemTime ∧
      clocked.get PrefixArea.base PrefixArea.quantum =
        scene.memory.get PrefixArea.base PrefixArea.intervalTimer ∧
      clocked.get PrefixArea.base PrefixArea.cpStatus = PrefixArea.cpRuns := by
    rw [← isClocked]
    simp (disch := decide) [Memory.get_put_field, Memory.get_vmblok_put apart]
  have row : (Vector.ofFn fun index : Fin 16 =>
        clocked.get user (Vmblok.generalRegisters.item index)) =
      Vector.ofFn fun index : Fin 16 =>
        scene.memory.get user (Vmblok.generalRegisters.item index) :=
    congrArg Vector.ofFn
      (funext fun index => (agrees.mono (vmblok_within user (rows index))).get_eq)
  obtain ⟨problemStart, quantum, cpStatus⟩ := clocks
  refine fetchRow_ensures isFaithful _ _ _ fun _ => ?_
  refine honourPurge_achieves isFaithful fun memory purge kept => ?_
  rw [row]
  have keeps : ∀ {α : Type} [Stored α] (field : Field α),
      1 ≤ Region.distance PrefixArea.ioOldMask.offset field.offset →
      Stored.size α ≤ Region.distance field.offset PrefixArea.ioOldMask.offset →
      1 ≤ Region.distance PrefixArea.processorStatus.offset field.offset →
      Stored.size α ≤ Region.distance field.offset PrefixArea.processorStatus.offset →
      memory.get PrefixArea.base field = clocked.get PrefixArea.base field :=
    fun field aboveMask belowMask aboveStatus belowStatus =>
      ((kept _ (Region.ofField_apart _ aboveStatus belowStatus)).trans
        (Memory.put_agreesOn _ (Region.ofField_apart _ aboveMask belowMask))).get_eq
  refine achieves memory purge ?_ ?_ ?_ ?_
  · refine (kept _ (apart.mono (prefix_within (by decide)))).trans ?_
    exact Memory.put_prefix_agreesOn apart _ (by decide) agrees
  · rw [keeps _ (by decide) (by decide) (by decide) (by decide), problemStart]
  · rw [keeps _ (by decide) (by decide) (by decide) (by decide), quantum]
  · rw [keeps _ (by decide) (by decide) (by decide) (by decide), cpStatus]

theorem storeBack_achieves (isFaithful : known.faithful) (status : UserStatus) {virtual : Psw}
    (fits : virtual.Fits) {post : Unit → Scene → Prop}
    (achieves : ∀ memory : Memory, memory.AgreesOn scene.memory prefixRegion →
      memory.get user Vmblok.psw = virtual →
      memory.get user Vmblok.processorStatus = status.processor →
      memory.get user Vmblok.extendedStatus = status.extended →
      memory.get user Vmblok.assistControl = scene.memory.get user Vmblok.assistControl →
      memory.get user Vmblok.assistFlags = scene.memory.get user Vmblok.assistFlags →
      post () { scene with
        memory
        cpu := { scene.cpu with cpuTimer := (scene.memory.get user Vmblok.problemTime).toInt64 }
        timerSet := true }) :
    (storeBack user status virtual).Achieves known post scene := by
  simp only [Achieves, storeBack, UserStatus.store, stopCharging, setTimerFrom, ensures_bind,
    ensures_registers, ensures_fetch_iff isFaithful, ensures_store, ensures_setTimer]
  intro _ _ _ _ _ _ _
  simp (disch := decide) only [Memory.get_put_field]
  apply achieves
  · iterate 7 refine Memory.put_vmblok_agreesOn apart _ (by decide) ?_
    exact fun _ _ => rfl
  · simp (disch := decide) only [Memory.get_put_field, Memory.get_put_psw_of_fits fits]
  · simp (disch := decide) only [Memory.get_put_field, Memory.get_put_self]
  · simp (disch := decide) only [Memory.get_put_field, Memory.get_put_self]
  · simp (disch := decide) only [Memory.get_put_field]
  · simp (disch := decide) only [Memory.get_put_field]

theorem goAhead_achieves {real : Psw} (fits : real.Fits) (controls : TranslationControls)
    {post : Completion → Scene → Prop}
    (achieves : ∀ memory : Memory, memory.AgreesOn scene.memory (vmblokRegion user) →
      memory.get PrefixArea.base PrefixArea.runControl0 = controls.control0 →
      memory.get PrefixArea.base PrefixArea.runControl1 = controls.control1 →
      memory.get PrefixArea.base PrefixArea.runPsw = real →
      memory.get PrefixArea.base PrefixArea.problemStart =
        scene.memory.get PrefixArea.base PrefixArea.problemStart →
      memory.get PrefixArea.base PrefixArea.quantum =
        scene.memory.get PrefixArea.base PrefixArea.quantum →
      memory.get PrefixArea.base PrefixArea.cpStatus =
        scene.memory.get PrefixArea.base PrefixArea.cpStatus →
      post .dispatched { scene with
        memory
        cpu := { scene.cpu with psw := real }
        purge := true }) :
    (goAhead real controls).Achieves known post scene := by
  simp only [Achieves, goAhead, ensures_bind, ensures_store, ensures_modify, ensures_purgeTlb,
    ensures_pure]
  intro _ _ _
  apply achieves
  · iterate 3 refine Memory.put_prefix_agreesOn apart _ (by decide) ?_
    exact fun _ _ => rfl
  · simp (disch := decide) only [Memory.get_put_field, Memory.get_put_self]
  · simp (disch := decide) only [Memory.get_put_field, Memory.get_put_self]
  · exact Memory.get_put_psw_of_fits fits _ _ _
  · simp (disch := decide) only [Memory.get_put_field]
  · simp (disch := decide) only [Memory.get_put_field]
  · simp (disch := decide) only [Memory.get_put_field]

/-- What a start leaves that has loaded the assist controls of its user. -/
structure Runs (before : Scene) (user : UInt32) (status : UserStatus) (virtual real : Psw)
    (controls : TranslationControls) (after : Scene) : Prop where
  psw : after.cpu.psw = real
  runPsw : after.memory.get PrefixArea.base PrefixArea.runPsw = real
  virtualPsw : after.memory.get user Vmblok.psw = virtual
  control : after.cpu.control =
    (before.cpu.control.load 0 controls.control0).load 1 controls.control1
  runControl0 : after.memory.get PrefixArea.base PrefixArea.runControl0 = controls.control0
  runControl1 : after.memory.get PrefixArea.base PrefixArea.runControl1 = controls.control1
  cpStatus : after.memory.get PrefixArea.base PrefixArea.cpStatus = PrefixArea.cpRuns
  quantum : after.memory.get PrefixArea.base PrefixArea.quantum =
    before.memory.get PrefixArea.base PrefixArea.intervalTimer
  cpuTimer : after.cpu.cpuTimer = (before.memory.get user Vmblok.problemTime).toInt64
  problemStart : after.memory.get PrefixArea.base PrefixArea.problemStart =
    before.memory.get user Vmblok.problemTime
  general : after.cpu.general = Vector.ofFn fun index =>
    before.memory.get user (Vmblok.generalRegisters.item index)
  floating : after.cpu.floating = before.cpu.floating
  processorStatus : after.memory.get user Vmblok.processorStatus = status.processor
  extendedStatus : after.memory.get user Vmblok.extendedStatus = status.extended
  assistControl : after.memory.get user Vmblok.assistControl =
    before.memory.get user Vmblok.assistControl
  assistFlags : after.memory.get user Vmblok.assistFlags =
    before.memory.get user Vmblok.assistFlags
  purge : after.purge = true

theorem startAssisted_runs (isFaithful : known.faithful) (status : UserStatus) {virtual real : Psw}
    (virtualFits : virtual.Fits) (realFits : real.Fits) (controls : TranslationControls) :
    (startAssisted user status virtual real controls).Achieves known
      (fun _ after => Runs scene user status virtual real controls after) scene := by
  simp only [Achieves, startAssisted_eq, ensures_bind]
  refine takeUp_achieves apart isFaithful controls ?_
  intro taken _ takenUser takenStart takenQuantum takenStatus
  refine storeBack_achieves apart isFaithful status virtualFits ?_
  intro stored storedPrefix psw processor extended assistControl assistFlags
  refine goAhead_achieves apart realFits controls ?_
  intro final finalUser control0 control1 runPsw start quantum cpStatus
  have inPrefix : ∀ {α : Type} [Stored α] (field : Field α),
      field.offset.toNat + Stored.size α ≤ 0x380 →
      stored.get PrefixArea.base field = taken.get PrefixArea.base field :=
    fun field inside => (storedPrefix.mono (prefix_within inside)).get_eq
  have inUser : ∀ {α : Type} [Stored α] (field : Field α),
      field.offset.toNat + Stored.size α ≤ 0xc0 →
      final.get user field = stored.get user field ∧
        taken.get user field = scene.memory.get user field :=
    fun field inside => ⟨(finalUser.mono (vmblok_within user inside)).get_eq,
      (takenUser.mono (vmblok_within user inside)).get_eq⟩
  refine ⟨rfl, runPsw, ?_, rfl, control0, control1, ?_, ?_, ?_, ?_, rfl, rfl, ?_, ?_, ?_, ?_, rfl⟩
  · exact (inUser _ (by decide)).1.trans psw
  · rw [cpStatus, inPrefix _ (by decide), takenStatus]
  · rw [quantum, inPrefix _ (by decide), takenQuantum]
  · exact congrArg UInt64.toInt64 (inUser _ (by decide)).2
  · rw [start, inPrefix _ (by decide), takenStart]
  · exact (inUser _ (by decide)).1.trans processor
  · exact (inUser _ (by decide)).1.trans extended
  · rw [(inUser _ (by decide)).1, assistControl, (inUser _ (by decide)).2]
  · rw [(inUser _ (by decide)).1, assistFlags, (inUser _ (by decide)).2]

end

theorem loadControls_achieves (block : UInt32) (field : Field UInt32)
    (registers : List RegisterNumber) {post : Unit → Scene → Prop}
    (achieves : ∀ control, post () { scene with cpu := { scene.cpu with control } }) :
    (loadControls block field registers).Achieves known post scene := by
  induction registers generalizing scene field with
  | nil => exact (ensures_pure ()).mpr (achieves scene.cpu.control)
  | cons register rest ih =>
      simp only [Achieves, loadControls, ensures_bind, ensures_modify]
      exact ensures_fetch _ _ fun value _ => ih _ achieves

/-- The real PSW with event recording on for a user whose events are traced. -/
def tracingPsw (memory : Memory) (user : UInt32) (real : Psw) : Psw :=
  { real with
    systemMask :=
      if memory.get user Vmblok.traceControl &&& Vmblok.tracesEvents != 0 then
        real.systemMask ||| Psw.eventRecordingMask
      else
        real.systemMask }

theorem loadTracing_achieves (isFaithful : known.faithful) (user : UInt32) (real : Psw)
    {post : Psw → Scene → Prop}
    (achieves : ∀ control, post (tracingPsw scene.memory user real)
      { scene with cpu := { scene.cpu with control } }) :
    (loadTracing user real).Achieves known post scene := by
  simp only [Achieves, loadTracing, ensures_bind]
  refine ensures_testBits _ _ _ fun traced isTraced => ?_
  obtain rfl := isTraced isFaithful
  simp only [tracingPsw] at achieves
  simp only [ensures_ite, ensures_bind, ensures_pure]
  refine ⟨fun traced => ?_, fun untraced => ?_⟩
  · simp only [traced, if_true] at achieves
    exact ensures_fetchAddress _ _ fun block _ =>
      loadControls_achieves _ _ _ fun control => achieves control
  · simp only [untraced] at achieves
    exact achieves scene.cpu.control

theorem realPsw_fits {virtual : Psw} (fits : virtual.Fits) (memory : Memory) (user : UInt32) :
    (tracingPsw memory user (realPsw virtual)).Fits :=
  ⟨fits.conditionCode, fits.programMask, fits.instructionAddress, fun _ => rfl, UInt8.zero_and⟩

/-- What a start leaves. -/
structure Starts (memory : Memory) (cpu : Cpu) (user : UInt32) (status : UserStatus) (virtual : Psw)
    (controls : TranslationControls) (after : Scene) : Prop where
  psw : after.cpu.psw = tracingPsw memory user (realPsw virtual)
  runPsw : after.memory.get PrefixArea.base PrefixArea.runPsw = after.cpu.psw
  virtualPsw : after.memory.get user Vmblok.psw = virtual
  control0 : after.cpu.control.read 0 = controls.control0
  control1 : after.cpu.control.read 1 = controls.control1
  assistControl : after.cpu.control.read 6 = after.memory.get user Vmblok.assistControl
  runControl0 : after.memory.get PrefixArea.base PrefixArea.runControl0 = controls.control0
  runControl1 : after.memory.get PrefixArea.base PrefixArea.runControl1 = controls.control1
  cpStatus : after.memory.get PrefixArea.base PrefixArea.cpStatus = PrefixArea.cpRuns
  quantum : after.memory.get PrefixArea.base PrefixArea.quantum =
    memory.get PrefixArea.base PrefixArea.intervalTimer
  cpuTimer : after.cpu.cpuTimer = (memory.get user Vmblok.problemTime).toInt64
  problemStart : after.memory.get PrefixArea.base PrefixArea.problemStart =
    memory.get user Vmblok.problemTime
  general : after.cpu.general = Vector.ofFn fun index =>
    memory.get user (Vmblok.generalRegisters.item index)
  floating : after.cpu.floating = cpu.floating
  processorStatus : after.memory.get user Vmblok.processorStatus = status.processor
  extendedStatus : after.memory.get user Vmblok.extendedStatus = status.extended
  assistFlags : after.memory.get user Vmblok.assistFlags = status.assists
  purge : after.purge = true

/-- What the rest of a start leaves, told from the storage in which the assist flags were still to
be stored and from the registers before the assist controls were loaded. -/
theorem Runs.starts {user : UInt32} (apart : prefixRegion.Apart (vmblokRegion user))
    {memory : Memory} {cpu : Cpu} {control : RegisterFile} {status : UserStatus} {virtual : Psw}
    {controls : TranslationControls} {before after : Scene}
    (stored : before.memory = memory.put user Vmblok.assistFlags status.assists)
    (loaded : before.cpu = { cpu with
      control := control.load 6 (before.memory.get user Vmblok.assistControl) })
    (runs : Runs before user status virtual (tracingPsw before.memory user (realPsw virtual))
      controls after) :
    Starts memory cpu user status virtual controls after := by
  have kept : ∀ {α : Type} [Stored α] (field : Field α),
      1 ≤ Region.distance Vmblok.assistFlags.offset field.offset →
      Stored.size α ≤ Region.distance field.offset Vmblok.assistFlags.offset →
      before.memory.get user field = memory.get user field := by
    intro α _ field above below
    rw [stored, Memory.get_put_field _ above below]
  have rows : ∀ index : Fin 16,
      1 ≤ Region.distance Vmblok.assistFlags.offset
          (Vmblok.generalRegisters.item index).offset ∧
        4 ≤ Region.distance (Vmblok.generalRegisters.item index).offset
          Vmblok.assistFlags.offset := by
    decide
  constructor
  · rw [runs.psw, tracingPsw, tracingPsw, kept _ (by decide) (by decide)]
  · exact runs.runPsw.trans runs.psw.symm
  · exact runs.virtualPsw
  · simp [runs.control]
  · simp [runs.control]
  · rw [runs.assistControl, runs.control, loaded]
    simp
  · exact runs.runControl0
  · exact runs.runControl1
  · exact runs.cpStatus
  · rw [runs.quantum, stored]
    exact Memory.get_prefix_put apart _ (by decide) (by decide)
  · rw [runs.cpuTimer, kept _ (by decide) (by decide)]
  · exact runs.problemStart.trans (kept _ (by decide) (by decide))
  · rw [runs.general]
    exact congrArg Vector.ofFn (funext fun index => kept _ (rows index).1 (rows index).2)
  · rw [runs.floating, loaded]
  · exact runs.processorStatus
  · exact runs.extendedStatus
  · rw [runs.assistFlags, stored]
    exact Memory.get_put_self _ _ _ _
  · exact runs.purge

theorem start_runs {user : UInt32} (apart : prefixRegion.Apart (vmblokRegion user))
    (isFaithful : known.faithful) (extension : UInt32) (status : UserStatus) {virtual : Psw}
    (fits : virtual.Fits) (controls : TranslationControls) :
    (start user extension status virtual controls).Achieves known
      (fun _ after => Starts scene.memory scene.cpu user status virtual controls after) scene := by
  have rest : ∀ control, (do
        store user Vmblok.assistFlags status.assists
        let real ← loadTracing user (realPsw virtual)
        let assistControl ← fetch user Vmblok.assistControl
        modify fun cpu => cpu.setControl 6 assistControl
        startAssisted user status virtual real controls).Achieves known
          (fun _ after => Starts scene.memory scene.cpu user status virtual controls after)
          { scene with cpu := { scene.cpu with control } } := by
    intro control
    simp only [Achieves, ensures_bind, ensures_store]
    intro _
    refine loadTracing_achieves isFaithful user _ fun control => ?_
    simp only [ensures_fetch_iff isFaithful, ensures_modify]
    exact (startAssisted_runs apart isFaithful status fits (realPsw_fits fits _ _) controls).mono
      (fun _ _ runs => runs.starts apart rfl rfl) fun _ _ => id
  rw [start_eq]
  refine (ensures_ite _ _ _).mpr ⟨fun _ => ?_, fun _ => rest scene.cpu.control⟩
  exact (ensures_bind _ _).mpr (loadControls_achieves _ _ _ rest)

/-- What holds once a user has been started from some scene, with what stays as it was then. -/
structure Started (known : Knowledge) (before : Scene) (user : UInt32) (status : UserStatus)
    (virtual : Psw) (controls : TranslationControls) (after : Scene) : Prop
    extends Starts before.memory before.cpu user status virtual controls after where
  keeps : ∀ region, (∀ stored ∈ startRegions user, stored.Apart region) →
    after.memory.AgreesOn before.memory region
  spares : ∀ region, known.Spares region → after.memory.AgreesOn before.memory region

theorem start_achieves {user : UInt32} (apart : prefixRegion.Apart (vmblokRegion user))
    (isFaithful : known.faithful) (extension : UInt32) (status : UserStatus) {virtual : Psw}
    (fits : virtual.Fits) (controls : TranslationControls) :
    (start user extension status virtual controls).Achieves known
      (fun _ after => Started known scene user status virtual controls after) scene := by
  refine (((start_runs apart isFaithful extension status fits controls).and
    (start_keeps user extension status virtual controls)).and
    (ensures_spares _ scene)).mono ?_ fun _ _ _ => trivial
  rintro _ after ⟨⟨starts, keeps⟩, spares⟩
  exact { starts with keeps, spares }

namespace Started

variable {user : UInt32} {status : UserStatus} {virtual : Psw} {controls : TranslationControls}
  {after : Scene}

/-- The assists of a user that has started are those that are on in its status. -/
theorem vmAssist (started : Started known scene user status virtual controls after) :
    after.cpu.assistControl.vmAssist = (status.assists &&& AssistControl.vmAssistFlag != 0) := by
  rw [Cpu.assistControl, started.assistControl, Memory.vmAssist_get, started.assistFlags]

variable (started : Started known scene user status virtual controls after)
  (apart : prefixRegion.Apart (vmblokRegion user))

include started apart

/-- A start leaves a field of the VMBLOK that none of its stores goes into. -/
theorem get_ofVmblok {α : Type} [Stored α] (field : Field α)
    (inside : field.offset.toNat + Stored.size α ≤ 0xc0 ∧ field.offset.toNat < Address.space)
    (clear : ∀ part ∈ vmblokParts, part.2 ≤ Region.distance part.1 field.offset ∧
      Stored.size α ≤ Region.distance field.offset part.1) :
    after.memory.get user field = scene.memory.get user field :=
  Memory.AgreesOn.get_eq (started.keeps _ (startRegions_apart_ofVmblok apart inside clear))

theorem get_ofPrefix {α : Type} [Stored α] (field : Field α)
    (inside : field.offset.toNat + Stored.size α ≤ 0x380 ∧ field.offset.toNat < Address.space)
    (clear : ∀ part ∈ prefixParts, part.2 ≤ Region.distance part.1 field.offset ∧
      Stored.size α ≤ Region.distance field.offset part.1) :
    after.memory.get PrefixArea.base field = scene.memory.get PrefixArea.base field :=
  Memory.AgreesOn.get_eq (started.keeps _ (startRegions_apart_ofPrefix apart inside clear))

/-- The address of the MICBLOK stays in the VMBLOK. -/
theorem getAddress_assistControl :
    after.memory.getAddress user Vmblok.assistControl =
      scene.memory.getAddress user Vmblok.assistControl := by
  apply Memory.getAddress_congr
  rw [UInt32.add_assoc]
  exact started.keeps _ (startRegions_apart_ofVmblok apart (by decide) (by decide))

end Started

end Dispatcher
end Assist370
