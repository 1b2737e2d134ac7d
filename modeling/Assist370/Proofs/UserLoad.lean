import Assist370.Proofs.UserRun

/-!
# The loading of a user

Whatever holds of every start that the loading of a user comes to, holds of the loading
(`Dispatcher.loadUser_leads`). What the processor runs the user with then (`UserRuns`) can be read
off the blocks of the user afterwards, as long as no two of them overlap (`Memory.StartLayout`).
-/

namespace Assist370

namespace Memory

/-- The user translates by shadow tables: its virtual machine is extended, and its virtual PSW is in
extended-control mode with translation on. -/
def UsesShadowTables (memory : Memory) (user : UInt32) : Prop :=
  memory.isExtended user = true ∧ memory.inExtendedMode user = true ∧
    (memory.get user Vmblok.psw).masks Psw.translationMask = true

instance (memory : Memory) (user : UInt32) : Decidable (memory.UsesShadowTables user) :=
  inferInstanceAs (Decidable (_ ∧ _ ∧ _))

/-- Nothing overlaps that a user is started with: the prefixed storage area, the VMBLOK, the byte of
the MICBLOK with the pending flag, and the control registers for shadow tables. -/
structure StartLayout (memory : Memory) (user : UInt32) : Prop where
  vmblok : prefixRegion.Apart (vmblokRegion user)
  flag : memory.getAddress user Vmblok.assistControl ≠ 0 →
    ∀ region ∈ [prefixRegion, vmblokRegion user],
      (Region.ofField (memory.getAddress user Vmblok.assistControl) flagField).Apart region
  shadow : memory.isExtended user = true →
    ∀ field ∈ [Ecblok.shadowControl0, Ecblok.shadowControl1],
      ∀ region ∈ [prefixRegion, vmblokRegion user] ++
          if memory.getAddress user Vmblok.assistControl = 0 then []
          else [.ofField (memory.getAddress user Vmblok.assistControl) flagField],
        region.Apart (.ofField (memory.getAddress user Vmblok.extension) field)

end Memory

namespace Dispatcher

open Microcode

variable {known : Knowledge} {scene : Scene} {user : UInt32}

theorem UserStatus.SameModes.trans {first second third : UserStatus}
    (outer : first.SameModes second) (inner : second.SameModes third) :
    first.SameModes third :=
  ⟨inner.processor.trans outer.processor, inner.inExtendedMode.trans outer.inExtendedMode,
    inner.pending.trans outer.pending⟩

theorem asDispatched_sameModes (status : UserStatus) : status.SameModes status.asDispatched := by
  refine ⟨rfl, ?_, rfl⟩
  simp only [UserStatus.inExtendedMode, UserStatus.asDispatched, UInt8.and_assoc]
  rfl

theorem asDispatched_isOn (status : UserStatus) :
    status.asDispatched.dispatch &&& Vmblok.dispatched ≠ 0 := by
  have bits : ∀ dispatch : UInt8, (dispatch ||| Vmblok.dispatched) &&& Vmblok.dispatched ≠ 0 := by
    rintro ⟨bits⟩
    revert bits
    decide +kernel
  exact bits status.dispatch

theorem GoesOn.achieves_dispatched {program : Microcode Completion} (goesOn : GoesOn program)
    {post : Scene → Prop} :
    program.Achieves known (fun completion after => completion = .dispatched → post after)
      scene := by
  refine goesOn.keepsHandOffs.ensures (fun completion after yields _ dispatched => ?_)
    fun _ _ _ => trivial
  rw [goesOn.completes completion yields] at dispatched
  nomatch dispatched

/-- The translation controls that a user is to be started with. -/
def userControls (memory : Memory) (user : UInt32) : TranslationControls :=
  if memory.UsesShadowTables user then
    { control0 := memory.get (memory.getAddress user Vmblok.extension) Ecblok.shadowControl0
      control1 := memory.get (memory.getAddress user Vmblok.extension) Ecblok.shadowControl1 }
  else
    { control0 := memory.get PrefixArea.base PrefixArea.cpControl0
      control1 := memory.get user Vmblok.segmentTable }

/-- The status that a user is to be started with. -/
structure StartStatus (memory : Memory) (user : UInt32) (status : UserStatus) : Prop where
  modes : (memory.userStatus user).SameModes status
  shadowTables : status.assists &&& AssistControl.shadowTablesFlag ≠ 0 ↔
    memory.UsesShadowTables user

/-- The assists are on then, and shadow tables are bypassed or not as before. -/
theorem assistedStatus_assists (virtual : Psw) (status : UserStatus) :
    (assistedStatus virtual status).assists &&& AssistControl.vmAssistFlag ≠ 0 ∧
      (assistedStatus virtual status).assists &&& AssistControl.shadowTablesFlag =
        status.assists &&& AssistControl.shadowTablesFlag := by
  have bits : ∀ (assists : UInt8) (shared problem : Bool),
      (assists ||| (AssistControl.vmAssistFlag |||
          (if shared then AssistControl.iskInhibitFlag else 0) |||
          if problem then AssistControl.virtualProblemFlag else 0)) &&&
        AssistControl.vmAssistFlag ≠ 0 ∧
      (assists ||| (AssistControl.vmAssistFlag |||
          (if shared then AssistControl.iskInhibitFlag else 0) |||
          if problem then AssistControl.virtualProblemFlag else 0)) &&&
        AssistControl.shadowTablesFlag = assists &&& AssistControl.shadowTablesFlag := by
    rintro ⟨bits⟩
    revert bits
    decide +kernel
  exact bits _ _ _

/-- The assists that a dispatch decides are off until it has decided them. -/
theorem decidedAssists_off (status : UserStatus) :
    status.withoutDecidedAssists.assists &&& AssistControl.vmAssistFlag = 0 ∧
      status.withoutDecidedAssists.assists &&& AssistControl.shadowTablesFlag = 0 ∧
      (status.withoutDecidedAssists.withAssists AssistControl.shadowTablesFlag).assists &&&
        AssistControl.vmAssistFlag = 0 ∧
      (status.withoutDecidedAssists.withAssists AssistControl.shadowTablesFlag).assists &&&
        AssistControl.shadowTablesFlag ≠ 0 := by
  have bits : ∀ assists : UInt8,
      let off := assists &&& ~~~(AssistControl.shadowTablesFlag |||
        AssistControl.virtualProblemFlag ||| AssistControl.iskInhibitFlag |||
        AssistControl.vmAssistFlag)
      off &&& AssistControl.vmAssistFlag = 0 ∧ off &&& AssistControl.shadowTablesFlag = 0 ∧
        (off ||| AssistControl.shadowTablesFlag) &&& AssistControl.vmAssistFlag = 0 ∧
        (off ||| AssistControl.shadowTablesFlag) &&& AssistControl.shadowTablesFlag ≠ 0 := by
    rintro ⟨bits⟩
    revert bits
    decide +kernel
  exact bits status.assists

/-- Flags that a dispatch decides do not count among the others. -/
theorem withAssists_undecided (status : UserStatus) {flags : UInt8}
    (decided : flags &&& ~~~(AssistControl.shadowTablesFlag ||| AssistControl.virtualProblemFlag |||
      AssistControl.iskInhibitFlag ||| AssistControl.vmAssistFlag) = 0) :
    (status.withAssists flags).withoutDecidedAssists = status.withoutDecidedAssists := by
  have distributes : ∀ assists mask : UInt8,
      (assists ||| flags) &&& mask = assists &&& mask ||| flags &&& mask := fun _ _ =>
    UInt8.toBitVec_inj.mp BitVec.and_or_distrib_right
  rw [UserStatus.withAssists, UserStatus.withoutDecidedAssists, UserStatus.withoutDecidedAssists,
    distributes, decided, UInt8.or_zero]

theorem withoutDecidedAssists_idem (status : UserStatus) :
    status.withoutDecidedAssists.withoutDecidedAssists = status.withoutDecidedAssists := by
  simp only [UserStatus.withoutDecidedAssists, UInt8.and_assoc, UInt8.and_self]

theorem assistedStatus_undecided (virtual : Psw) (status : UserStatus) :
    (assistedStatus virtual status).withoutDecidedAssists = status.withoutDecidedAssists := by
  apply withAssists_undecided
  split <;> split <;> decide

/-- The memory and the status from which a load starts its user. The assists stay off without a
MICBLOK and for a user whose instructions are traced; otherwise they are on, and the MICBLOK has
been told of pending interruptions. -/
inductive Told (known : Knowledge) (memory : Memory) (user extension : UInt32) (virtual : Psw)
    (status : UserStatus) : Memory → UserStatus → Prop where
  | absent (noMicblok : memory.getAddress user Vmblok.assistControl = 0) :
      Told known memory user extension virtual status memory status
  | traced (present : memory.getAddress user Vmblok.assistControl ≠ 0)
      (isTraced : memory.get user Vmblok.traceControl &&& Vmblok.tracesInstructions ≠ 0) :
      Told known memory user extension virtual status
        (toldMemory memory (memory.getAddress user Vmblok.assistControl) false) status
  | assisted {pending : Bool} (present : memory.getAddress user Vmblok.assistControl ≠ 0)
      (untraced : memory.get user Vmblok.traceControl &&& Vmblok.tracesInstructions = 0)
      (looked : (interruptionPending user extension (assistedStatus virtual status)).look memory =
        some pending)
      (isStored : known.stores
        (.ofField (memory.getAddress user Vmblok.assistControl) flagField)) :
      Told known memory user extension virtual status
        (toldMemory memory (memory.getAddress user Vmblok.assistControl) pending)
        (assistedStatus virtual status)

namespace Told

variable {memory told : Memory} {extension : UInt32} {virtual : Psw} {status assisted : UserStatus}

theorem agreesOn (isTold : Told known memory user extension virtual status told assisted)
    {region : Region} (apart : memory.getAddress user Vmblok.assistControl ≠ 0 →
      (Region.ofField (memory.getAddress user Vmblok.assistControl) flagField).Apart region) :
    told.AgreesOn memory region := by
  cases isTold with
  | absent _ => exact fun _ _ => rfl
  | traced present _ => exact Memory.put_agreesOn _ (apart present)
  | assisted present _ _ _ => exact Memory.put_agreesOn _ (apart present)

/-- A field of the VMBLOK is not told of anything. -/
theorem get_ofVmblok (isTold : Told known memory user extension virtual status told assisted)
    (layout : memory.StartLayout user) {α : Type} [Stored α] (field : Field α)
    (inside : field.offset.toNat + Stored.size α ≤ 0xc0) :
    told.get user field = memory.get user field := by
  have kept : told.AgreesOn memory (vmblokRegion user) :=
    isTold.agreesOn fun present => layout.flag present _ (by simp)
  exact (kept.mono (vmblok_within user inside)).get_eq

theorem get_ofPrefix (isTold : Told known memory user extension virtual status told assisted)
    (layout : memory.StartLayout user) {α : Type} [Stored α] (field : Field α)
    (inside : field.offset.toNat + Stored.size α ≤ 0x380) :
    told.get PrefixArea.base field = memory.get PrefixArea.base field := by
  have kept : told.AgreesOn memory prefixRegion :=
    isTold.agreesOn fun present => layout.flag present _ (by simp)
  exact (kept.mono (prefix_within inside)).get_eq

theorem startStatus (isTold : Told known memory user extension virtual status told assisted)
    (startStatus : StartStatus memory user status) : StartStatus memory user assisted := by
  cases isTold with
  | absent _ => exact startStatus
  | traced _ _ => exact startStatus
  | assisted _ _ _ _ =>
      obtain ⟨-, sameShadow⟩ := assistedStatus_assists virtual status
      exact ⟨startStatus.modes.trans ⟨rfl, rfl, rfl⟩, by rw [sameShadow, startStatus.shadowTables]⟩

theorem vmAssist (isTold : Told known memory user extension virtual status told assisted)
    (off : status.assists &&& AssistControl.vmAssistFlag = 0) :
    assisted.assists &&& AssistControl.vmAssistFlag ≠ 0 ↔
      memory.getAddress user Vmblok.assistControl ≠ 0 ∧
        memory.get user Vmblok.traceControl &&& Vmblok.tracesInstructions = 0 := by
  cases isTold with
  | absent noMicblok => simp [noMicblok, off]
  | traced _ isTraced => simp [isTraced, off]
  | assisted present untraced _ _ =>
      exact iff_of_true (assistedStatus_assists virtual status).1 ⟨present, untraced⟩

end Told

theorem load_leads (isFaithful : known.faithful) (extension : UInt32) {status : UserStatus}
    (startStatus : StartStatus scene.memory user status) (virtual : Psw)
    (controls : TranslationControls) {post : Completion → Scene → Prop}
    (starts : ∀ told dispatched assisted,
      dispatched.assists = status.assists → StartStatus scene.memory user dispatched →
      Told known scene.memory user extension virtual dispatched told assisted →
      assisted.withoutDecidedAssists = status.asDispatched.withoutDecidedAssists →
      (start user extension assisted virtual controls).Achieves known post
        { scene with memory := told }) :
    (load user (scene.memory.getAddress user Vmblok.assistControl) extension status virtual
      controls).Achieves known post scene := by
  have dispatched : StartStatus scene.memory user status.asDispatched :=
    ⟨startStatus.modes.trans (asDispatched_sameModes status), startStatus.shadowTables⟩
  simp only [Achieves, load, ensures_bind, ensures_require]
  refine ⟨fun _ => ?_, fun _ => trivial⟩
  simp only [ensures_ite, ensures_bind, ensures_pure, beq_iff_eq]
  refine ⟨fun absent => starts _ status.asDispatched _ rfl dispatched (.absent absent) rfl,
    fun present => ?_⟩
  refine enableAssists_achieves isFaithful user _ _ _ _ (fun traced => ?_) ?_
  · exact starts _ status.asDispatched _ rfl dispatched (.traced present traced) rfl
  · exact fun pending untraced looked isStored =>
      starts _ status.asDispatched _ rfl dispatched (.assisted present untraced looked isStored)
        (assistedStatus_undecided _ _)

/-- The loading of a user achieves what its starts achieve, and what holds when the exit for an
abnormal end is taken. -/
theorem loadUser_leads (isFaithful : known.faithful) (exits : UInt32)
    {post : Completion → Scene → Prop}
    (abends : ∀ before, before.memory = scene.memory →
      (takeExit exits DispatchExit.abend.place).Achieves known post before)
    (starts : ∀ told status assisted,
      status.assists &&& AssistControl.vmAssistFlag = 0 → StartStatus scene.memory user status →
      Told known scene.memory user (scene.memory.get user Vmblok.extension)
        (scene.memory.get user Vmblok.psw) status told assisted →
      assisted.withoutDecidedAssists =
        (scene.memory.userStatus user).asDispatched.withoutDecidedAssists →
      (start user (scene.memory.get user Vmblok.extension) assisted
        (scene.memory.get user Vmblok.psw) (userControls scene.memory user)).Achieves known post
          { scene with
            memory := told
            cpu := { scene.cpu with
              floating := Vector.ofFn fun index =>
                scene.memory.get user (Vmblok.floatingRegisters.item index) } }) :
    (loadUser user exits).Achieves known post scene := by
  have loads : ∀ (status : UserStatus) (controls : TranslationControls),
      StartStatus scene.memory user status →
      status.assists &&& AssistControl.vmAssistFlag = 0 →
      status.withoutDecidedAssists = (scene.memory.userStatus user).withoutDecidedAssists →
      controls = userControls scene.memory user →
      (load user (scene.memory.getAddress user Vmblok.assistControl)
        (scene.memory.get user Vmblok.extension) status (scene.memory.get user Vmblok.psw)
        controls).Achieves known post
          { scene with
            cpu := { scene.cpu with
              floating := Vector.ofFn fun index =>
                scene.memory.get user (Vmblok.floatingRegisters.item index) } } := by
    rintro status controls startStatus off undecided rfl
    refine @load_leads known { scene with
      cpu := { scene.cpu with
        floating := Vector.ofFn fun index =>
          scene.memory.get user (Vmblok.floatingRegisters.item index) } } user isFaithful _ _
      startStatus _ _ _ fun told dispatched assisted sameAssists started isTold
        same => ?_
    exact starts told dispatched assisted (sameAssists ▸ off) started isTold
      (same.trans (congrArg UserStatus.asDispatched undecided))
  obtain ⟨off, noShadow, bypassOff, bypass⟩ :=
    decidedAssists_off (scene.memory.userStatus user)
  have unshadowed : ¬scene.memory.UsesShadowTables user →
      StartStatus scene.memory user (scene.memory.userStatus user).withoutDecidedAssists :=
    fun real => ⟨⟨rfl, rfl, rfl⟩, iff_of_false (not_not_intro noShadow) real⟩
  simp only [Achieves, loadUser, ensures_bind]
  refine userStatus_achieves isFaithful user ?_
  refine ensures_fetchAddress _ _ fun micblok isMicblok => ?_
  obtain rfl := isMicblok isFaithful
  refine fetchRow_ensures isFaithful _ _ _ ?_
  simp only [ensures_modify, ownControls, ensures_bind, ensures_pure, ensures_fetch_iff isFaithful,
    ensures_ite, ensures_log, Bool.and_eq_true]
  refine ⟨fun extended => ⟨fun _ => abends _ rfl, fun _ => ⟨fun translates => ?_, fun real => ?_⟩⟩,
    fun basic => ?_⟩
  · have uses : scene.memory.UsesShadowTables user := ⟨extended.1, extended.2, translates⟩
    simp only [shadowControls, ensures_bind, ensures_pure, ensures_fetch_iff isFaithful]
    refine loads _ _ ⟨⟨rfl, rfl, rfl⟩, iff_of_true bypass uses⟩ bypassOff ?_ ?_
    · rw [withAssists_undecided _ (by decide), withoutDecidedAssists_idem]
    rw [userControls, if_pos uses]
    rfl
  · have real : ¬scene.memory.UsesShadowTables user := fun uses => real uses.2.2
    refine loads _ _ (unshadowed real) off (withoutDecidedAssists_idem _) ?_
    rw [userControls, if_neg real]
  · have real : ¬scene.memory.UsesShadowTables user := fun uses => basic ⟨uses.1, uses.2.1⟩
    refine loads _ _ (unshadowed real) off (withoutDecidedAssists_idem _) ?_
    rw [userControls, if_neg real]

end Dispatcher

/-- The registers and storage with which the processor runs a user. -/
structure UserRuns (memory : Memory) (cpu : Cpu) (user : UInt32) : Prop where
  extendedControl : cpu.psw.states.extendedControl = true
  machineCheck : cpu.psw.states.machineCheck = true
  problemState : cpu.psw.states.problemState = true
  wait : cpu.psw.states.wait = false
  systemMask : cpu.psw.systemMask =
    if memory.get user Vmblok.traceControl &&& Vmblok.tracesEvents = 0 then 0x07 else 0x47
  instructionAddress :
    cpu.psw.instructionAddress = (memory.get user Vmblok.psw).instructionAddress
  conditionCode : cpu.psw.conditionCode = (memory.get user Vmblok.psw).conditionCode
  key : cpu.psw.key = (memory.get user Vmblok.psw).key
  programMask : cpu.psw.programMask = (memory.get user Vmblok.psw).programMask
  runPsw : memory.get PrefixArea.base PrefixArea.runPsw = cpu.psw
  runControl0 : memory.get PrefixArea.base PrefixArea.runControl0 = cpu.control.read 0
  runControl1 : memory.get PrefixArea.base PrefixArea.runControl1 = cpu.control.read 1
  control0 : cpu.control.read 0 =
    if memory.UsesShadowTables user then
      memory.get (memory.getAddress user Vmblok.extension) Ecblok.shadowControl0
    else
      memory.get PrefixArea.base PrefixArea.cpControl0
  control1 : cpu.control.read 1 =
    if memory.UsesShadowTables user then
      memory.get (memory.getAddress user Vmblok.extension) Ecblok.shadowControl1
    else
      memory.get user Vmblok.segmentTable
  assistControl : cpu.control.read 6 = memory.get user Vmblok.assistControl
  shadowTables : memory.get user Vmblok.assistFlags &&& AssistControl.shadowTablesFlag ≠ 0 ↔
    memory.UsesShadowTables user
  vmAssist : cpu.assistControl.vmAssist = true ↔
    memory.getAddress user Vmblok.assistControl ≠ 0 ∧
      memory.get user Vmblok.traceControl &&& Vmblok.tracesInstructions = 0
  runUser : memory.get PrefixArea.base PrefixArea.runUser = user
  lastUser : memory.get PrefixArea.base PrefixArea.lastUser = user
  cpStatus : memory.get PrefixArea.base PrefixArea.cpStatus = PrefixArea.cpRuns
  quantum : memory.get PrefixArea.base PrefixArea.quantum =
    memory.get PrefixArea.base PrefixArea.intervalTimer
  cpuTimer : cpu.cpuTimer = (memory.get user Vmblok.problemTime).toInt64
  problemStart : memory.get PrefixArea.base PrefixArea.problemStart =
    memory.get user Vmblok.problemTime
  general : ∀ register : RegisterNumber,
    cpu.general.read register = memory.get user (Vmblok.generalRegisters.item register)
  floating : ∀ index : Fin 4,
    cpu.floating[index] = memory.get user (Vmblok.floatingRegisters.item index)

namespace Dispatcher

open Microcode

variable {known : Knowledge} {scene : Scene} {user : UInt32}

theorem systemMask_tracingPsw (memory : Memory) (user : UInt32) (virtual : Psw) :
    (tracingPsw memory user (realPsw virtual)).systemMask =
      if memory.get user Vmblok.traceControl &&& Vmblok.tracesEvents = 0 then 0x07 else 0x47 := by
  have masks : (realPsw virtual).systemMask = 0x07 := rfl
  simp only [tracingPsw, masks, bne_iff_ne, ne_eq, ite_not]
  rfl

/-- What a user is loaded from: it is the running user, and its floating-point registers have been
loaded. -/
structure LoadsFrom (memory : Memory) (cpu : Cpu) (user : UInt32) : Prop where
  layout : memory.StartLayout user
  runUser : memory.get PrefixArea.base PrefixArea.runUser = user
  lastUser : memory.get PrefixArea.base PrefixArea.lastUser = user
  floating : cpu.floating = Vector.ofFn fun index =>
    memory.get user (Vmblok.floatingRegisters.item index)

namespace Started

variable {memory : Memory} {extension : UInt32} {status assisted : UserStatus}
  {before after : Scene}
  (started : Started known before user assisted (memory.get user Vmblok.psw)
    (userControls memory user) after)
  (isTold : Told known memory user extension (memory.get user Vmblok.psw) status before.memory
    assisted)

include started isTold

/-- A user that has started uses shadow tables if it did when it was loaded. -/
theorem usesShadowTables_iff (startStatus : StartStatus memory user status) :
    after.memory.UsesShadowTables user ↔ memory.UsesShadowTables user := by
  obtain ⟨modes, -⟩ := isTold.startStatus startStatus
  have extended : after.memory.isExtended user = memory.isExtended user := by
    rw [Memory.isExtended, started.processorStatus, modes.processor]
    rfl
  have extendedMode : after.memory.inExtendedMode user = memory.inExtendedMode user := by
    rw [Memory.inExtendedMode, started.extendedStatus]
    exact modes.inExtendedMode
  rw [Memory.UsesShadowTables, Memory.UsesShadowTables, extended, extendedMode, started.virtualPsw]

variable (layout : memory.StartLayout user)

include layout

theorem micblok_eq : after.memory.getAddress user Vmblok.assistControl =
    memory.getAddress user Vmblok.assistControl := by
  have kept : before.memory.AgreesOn memory (vmblokRegion user) :=
    isTold.agreesOn fun present => layout.flag present _ (by simp)
  rw [started.getAddress_assistControl layout.vmblok]
  apply Memory.getAddress_congr
  rw [UInt32.add_assoc]
  exact kept.mono (Region.within_block user (by decide) (by decide))

theorem extension_eq : after.memory.getAddress user Vmblok.extension =
    memory.getAddress user Vmblok.extension := by
  rw [Memory.getAddress, started.get_ofVmblok layout.vmblok _ (by decide) (by decide),
    isTold.get_ofVmblok layout _ (by decide), Memory.getAddress]

/-- The control registers for shadow tables lie outside what is stored. -/
theorem shadowControl_eq (isExtended : memory.isExtended user = true) {field : Field UInt32}
    (field_mem : field ∈ [Ecblok.shadowControl0, Ecblok.shadowControl1]) :
    after.memory.get (memory.getAddress user Vmblok.extension) field =
      memory.get (memory.getAddress user Vmblok.extension) field := by
  have fieldApart := layout.shadow isExtended field field_mem
  have clear := startRegions_apart (fieldApart prefixRegion (by simp))
    (fieldApart (vmblokRegion user) (by simp))
  have told := isTold.agreesOn fun present => fieldApart _ (by simp [present])
  exact ((started.keeps _ clear).trans told).get_eq

/-- The translation controls of the user can still be read off its blocks. -/
theorem userControls_eq (startStatus : StartStatus memory user status) :
    userControls memory user = userControls after.memory user := by
  have uses := started.usesShadowTables_iff isTold startStatus
  by_cases shadowed : memory.UsesShadowTables user
  · rw [userControls, userControls, if_pos shadowed, if_pos (uses.mpr shadowed),
      started.extension_eq isTold layout,
      started.shadowControl_eq isTold layout shadowed.1 (by simp),
      started.shadowControl_eq isTold layout shadowed.1 (by simp)]
  · rw [userControls, userControls, if_neg shadowed, if_neg (shadowed ∘ uses.mp),
      started.get_ofPrefix layout.vmblok PrefixArea.cpControl0 (by decide) (by decide),
      isTold.get_ofPrefix layout PrefixArea.cpControl0 (by decide),
      started.get_ofVmblok layout.vmblok Vmblok.segmentTable (by decide) (by decide),
      isTold.get_ofVmblok layout Vmblok.segmentTable (by decide)]

end Started

theorem Started.userRuns {memory : Memory} {extension : UInt32} {status assisted : UserStatus}
    {before after : Scene} (loads : LoadsFrom memory before.cpu user)
    (off : status.assists &&& AssistControl.vmAssistFlag = 0)
    (startStatus : StartStatus memory user status)
    (isTold : Told known memory user extension (memory.get user Vmblok.psw) status before.memory
      assisted)
    (started : Started known before user assisted (memory.get user Vmblok.psw)
      (userControls memory user) after) :
    UserRuns after.memory after.cpu user := by
  obtain ⟨layout, runUser, lastUser, floating⟩ := loads
  have apart := layout.vmblok
  have controls := started.userControls_eq isTold layout startStatus
  have trace := started.get_ofVmblok apart Vmblok.traceControl (by decide) (by decide)
  have problemTime := started.get_ofVmblok apart Vmblok.problemTime (by decide) (by decide)
  have general := fun index : Fin 16 =>
    started.get_ofVmblok apart (Vmblok.generalRegisters.item index) (by revert index; decide)
      (by revert index; decide)
  have floatingKept : ∀ index : Fin 4,
      after.memory.get user (Vmblok.floatingRegisters.item index) =
        memory.get user (Vmblok.floatingRegisters.item index) := fun index =>
    (started.get_ofVmblok apart _ (by revert index; decide) (by revert index; decide)).trans
      (isTold.get_ofVmblok layout _ (by revert index; decide))
  exact
    { extendedControl := congrArg (·.states.extendedControl) started.psw
      machineCheck := congrArg (·.states.machineCheck) started.psw
      problemState := congrArg (·.states.problemState) started.psw
      wait := congrArg (·.states.wait) started.psw
      systemMask := by rw [started.psw, systemMask_tracingPsw, trace]
      instructionAddress := by
        rw [started.psw, started.virtualPsw]
        rfl
      conditionCode := by
        rw [started.psw, started.virtualPsw]
        rfl
      key := by
        rw [started.psw, started.virtualPsw]
        rfl
      programMask := by
        rw [started.psw, started.virtualPsw]
        rfl
      runPsw := started.runPsw
      runControl0 := started.runControl0.trans started.control0.symm
      runControl1 := started.runControl1.trans started.control1.symm
      control0 := by
        rw [started.control0, controls, userControls]
        split <;> rfl
      control1 := by
        rw [started.control1, controls, userControls]
        split <;> rfl
      assistControl := started.assistControl
      shadowTables := by
        rw [started.assistFlags, (isTold.startStatus startStatus).shadowTables,
          started.usesShadowTables_iff isTold startStatus]
      vmAssist := by
        rw [started.vmAssist, started.micblok_eq isTold layout, trace,
          isTold.get_ofVmblok layout _ (by decide), bne_iff_ne, ← isTold.vmAssist off]
      runUser := by
        rw [started.get_ofPrefix apart _ (by decide) (by decide),
          isTold.get_ofPrefix layout _ (by decide), runUser]
      lastUser := by
        rw [started.get_ofPrefix apart _ (by decide) (by decide),
          isTold.get_ofPrefix layout _ (by decide), lastUser]
      cpStatus := started.cpStatus
      quantum := started.quantum.trans
        (started.get_ofPrefix apart _ (by decide) (by decide)).symm
      cpuTimer := by rw [started.cpuTimer, problemTime]
      problemStart := started.problemStart.trans problemTime.symm
      general := fun register => by
        rw [started.general, general register]
        simp [RegisterFile.read]
      floating := fun index => by
        rw [started.floating, floating, floatingKept index]
        simp }

theorem loadUser_runs (isFaithful : known.faithful) (exits : UInt32)
    (layout : scene.memory.StartLayout user)
    (runUser : scene.memory.get PrefixArea.base PrefixArea.runUser = user)
    (lastUser : scene.memory.get PrefixArea.base PrefixArea.lastUser = user) :
    (loadUser user exits).Achieves known
      (fun completion after => completion = .dispatched → UserRuns after.memory after.cpu user)
      scene := by
  refine loadUser_leads isFaithful exits (fun _ _ => (takeExit_goesOn _ _).achieves_dispatched) ?_
  intro told status assisted off startStatus isTold _
  refine (start_achieves layout.vmblok isFaithful _ _ (Psw.fits_ofBytes _) _).mono ?_ fun _ _ => id
  intro _ after started _
  exact started.userRuns ⟨layout, runUser, lastUser, rfl⟩ off startStatus isTold

end Dispatcher
end Assist370
