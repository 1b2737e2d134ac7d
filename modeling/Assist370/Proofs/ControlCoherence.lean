import Assist370.Proofs.Dispatch
import Assist370.Proofs.LoadFailure

/-!
# Coherence of control registers

The dispatch of an extended user loads control registers 4 to 13 from its ECBLOK, but for register
6, and LOAD CONTROL keeps these registers and the ECBLOK in step: it refuses a load of any of them
but 12 and 13, and loads these two in both places. So the registers stay equal to the words of the
ECBLOK whatever instructions the virtual machine performs, and whatever comes of them
(`System.coherent_of_dispatched`). This needs the blocks of the user to lie apart from each other
and from the prefixed storage area, where the dispatch stores after it has loaded the registers.
-/

namespace Assist370

/-- The control registers of the processor that belong to the ECBLOK of the user that it runs. -/
def ecblokRegisters : List RegisterNumber :=
  [4, 5, 7, 8, 9, 10, 11, 12, 13]

namespace Memory

/-- The control registers are as the ECBLOK of a user has them. -/
def Coherent (memory : Memory) (control : RegisterFile) (user : UInt32) : Prop :=
  ∀ register ∈ ecblokRegisters, control.read register =
    memory.get (memory.getAddress user Vmblok.extension) (Ecblok.control.item register)

instance (memory : Memory) (control : RegisterFile) (user : UInt32) :
    Decidable (memory.Coherent control user) :=
  inferInstanceAs (Decidable (∀ register ∈ ecblokRegisters, _ = _))

/-- The prefixed storage area, the VMBLOK and the ECBLOK of a user do not overlap, and the byte of
its MICBLOK with the pending flag is not in the address of the ECBLOK. -/
structure ControlsLayout (memory : Memory) (user : UInt32) : Prop where
  blocks : [prefixRegion, vmblokRegion user, memory.ecblokRegion user].Pairwise Region.Apart
  flag : memory.getAddress user Vmblok.assistControl ≠ 0 →
    (Region.ofField (memory.getAddress user Vmblok.assistControl) flagField).Apart
      (.ofField user Vmblok.extension)

end Memory

namespace Dispatcher

open Microcode

variable {known : Knowledge} {scene : Scene} {user : UInt32}

/-- Control registers with a row of them loaded from consecutive words. -/
def loadRow (memory : Memory) (block : UInt32) :
    Field UInt32 → List RegisterNumber → RegisterFile → RegisterFile
  | _, [], control => control
  | field, register :: rest, control =>
      loadRow memory block (field.item 1) rest (control.load register (memory.get block field))

theorem loadControls_loads (isFaithful : known.faithful) (block : UInt32) (field : Field UInt32)
    (registers : List RegisterNumber) {post : Unit → Scene → Prop}
    (achieves : post () { scene with
      cpu := { scene.cpu with
        control := loadRow scene.memory block field registers scene.cpu.control } }) :
    (loadControls block field registers).Achieves known post scene := by
  induction registers generalizing scene field with
  | nil => exact (ensures_pure ()).mpr achieves
  | cons register rest ih =>
      simp only [Achieves, loadControls, ensures_bind, ensures_modify,
        ensures_fetch_iff isFaithful]
      exact ih _ achieves

theorem read_loadRow_of_not_mem {registers : List RegisterNumber} {register : RegisterNumber}
    (outside : register ∉ registers) (memory : Memory) (block : UInt32) (field : Field UInt32)
    (control : RegisterFile) :
    (loadRow memory block field registers control).read register = control.read register := by
  induction registers generalizing field control with
  | nil => rfl
  | cons head rest ih =>
      rw [List.mem_cons, not_or] at outside
      rw [loadRow, ih outside.2, RegisterFile.read_load, if_neg (Ne.symm outside.1)]

/-- Each register of a row that starts at its place among all is loaded from its own word. -/
theorem read_loadRow {first : Nat} {count : Nat} (fits : first + count ≤ 16) (memory : Memory)
    (block : UInt32) (field : Field UInt32) (control : RegisterFile) {register : RegisterNumber}
    (inRow : first ≤ register.val ∧ register.val < first + count) :
    (loadRow memory block (field.item first)
      ((List.range' first count).map RegisterNumber.ofNat) control).read register =
        memory.get block (field.item register) := by
  induction count generalizing first control with
  | zero => omega
  | succ count ih =>
      rw [List.range'_succ, List.map_cons, loadRow, Field.item_item]
      by_cases isFirst : register.val = first
      · have isHead : RegisterNumber.ofNat first = register := by
          simp [RegisterNumber.ofNat, ← isFirst]
        rw [read_loadRow_of_not_mem, isHead, RegisterFile.read_load, if_pos rfl, isFirst]
        intro later
        obtain ⟨index, index_mem, same⟩ := List.mem_map.mp later
        rw [List.mem_range'_1] at index_mem
        have sameVal := congrArg Fin.val same
        simp only [RegisterNumber.ofNat, Fin.val_ofNat] at sameVal
        omega
      · exact ih (by omega) _ (by omega)

theorem loadTracing_untraced (isFaithful : known.faithful) (user : UInt32) (real : Psw)
    {post : Psw → Scene → Prop}
    (untraced : scene.memory.get user Vmblok.traceControl &&& Vmblok.tracesEvents = 0)
    (achieves : post real scene) : (loadTracing user real).Achieves known post scene := by
  simp only [Achieves, loadTracing, ensures_bind]
  refine ensures_testBits _ _ _ fun traced isTraced => ?_
  obtain rfl : traced = false := by simp [isTraced isFaithful, untraced]
  simpa using achieves

/-- A start loads the control registers of an extended user whose events are not traced from its
ECBLOK. -/
theorem start_loads (apart : prefixRegion.Apart (vmblokRegion user)) (isFaithful : known.faithful)
    (extension : UInt32) {status : UserStatus} {virtual : Psw} (fits : virtual.Fits)
    (controls : TranslationControls) (extended : status.isExtended = true)
    (untraced : scene.memory.get user Vmblok.traceControl &&& Vmblok.tracesEvents = 0) :
    (start user extension status virtual controls).Achieves known
      (fun _ after => ∀ register ∈ ecblokRegisters, after.cpu.control.read register =
        scene.memory.get (Address.wrap extension) (Ecblok.control.item register)) scene := by
  have realFits : (realPsw virtual).Fits :=
    ⟨fits.conditionCode, fits.programMask, fits.instructionAddress, fun _ => rfl, UInt8.zero_and⟩
  have stillUntraced : (scene.memory.put user Vmblok.assistFlags status.assists).get user
      Vmblok.traceControl &&& Vmblok.tracesEvents = 0 := by
    rw [Memory.get_put_field _ (by decide) (by decide)]
    exact untraced
  rw [start_eq, if_pos extended]
  refine (ensures_bind _ _).mpr (loadControls_loads isFaithful _ _ _ ?_)
  simp only [ensures_bind, ensures_store]
  intro _
  refine loadTracing_untraced isFaithful user _ stillUntraced ?_
  simp only [ensures_fetch_iff isFaithful, ensures_modify]
  refine (startAssisted_runs apart isFaithful status fits realFits controls).mono ?_ fun _ _ => id
  intro _ after runs register register_mem
  obtain ⟨inRow, not0, not1, not6⟩ : (4 ≤ register.val ∧ register.val < 4 + 10) ∧
      register ≠ 0 ∧ register ≠ 1 ∧ register ≠ 6 := by
    revert register
    decide
  rw [runs.control]
  simp only [Cpu.setControl, RegisterFile.read_load]
  rw [if_neg (Ne.symm not1), if_neg (Ne.symm not0), if_neg (Ne.symm not6)]
  have row := read_loadRow (by decide) scene.memory (Address.wrap extension) Ecblok.control
    scene.cpu.control inRow
  exact row

end Dispatcher

/-- The processor runs a user with the control registers that its ECBLOK has for it, if the user has
one, its events are not traced and its blocks do not overlap. -/
def Scene.RunsCoherently (scene : Scene) (user : UInt32) : Prop :=
  scene.memory.isExtended user = true →
    scene.memory.get user Vmblok.traceControl &&& Vmblok.tracesEvents = 0 →
      scene.memory.ControlsLayout user → scene.memory.Coherent scene.cpu.control user

namespace Dispatcher

open Microcode

variable {known : Knowledge} {scene : Scene} {user : UInt32}

/-- A told MICBLOK leaves the address of the ECBLOK alone. -/
theorem Told.extension_kept {memory told : Memory} {extension : UInt32} {virtual : Psw}
    {status assisted : UserStatus}
    (isTold : Told known memory user extension virtual status told assisted)
    (flagApart : told.getAddress user Vmblok.assistControl ≠ 0 →
      (Region.ofField (told.getAddress user Vmblok.assistControl) flagField).Apart
        (.ofField user Vmblok.extension)) :
    told.AgreesOn memory (.ofField user Vmblok.extension) := by
  refine isTold.agreesOn fun present => ?_
  by_cases apart : (Region.ofField (memory.getAddress user Vmblok.assistControl) flagField).Apart
      (micblokAddressRegion user)
  · have sameMicblok : told.getAddress user Vmblok.assistControl =
        memory.getAddress user Vmblok.assistControl :=
      Memory.getAddress_congr (isTold.agreesOn fun _ => apart)
    rw [sameMicblok] at flagApart
    exact flagApart present
  · -- The byte lies in the address of the MICBLOK, and so not in that of the ECBLOK.
    intro place inFlag inExtension
    refine apart fun other otherInFlag otherInAddress => ?_
    have samePlace : Address.wrap other = Address.wrap place :=
      (Region.contains_one.mp otherInFlag).trans (Region.contains_one.mp inFlag).symm
    have clear : (Region.ofField user Vmblok.extension).Apart (micblokAddressRegion user) := by
      rw [micblokAddressRegion, UInt32.add_assoc]
      exact Region.apart_add user (by decide) (by decide)
    refine clear other ?_ otherInAddress
    rw [← Region.contains_wrap, samePlace, Region.contains_wrap]
    exact inExtension

theorem loadUser_coherent (isFaithful : known.faithful) (user exits : UInt32) :
    (loadUser user exits).Achieves known
      (fun completion after => completion = .dispatched → after.RunsCoherently user) scene := by
  refine loadUser_leads isFaithful exits (fun _ _ => (takeExit_goesOn _ _).achieves_dispatched) ?_
  intro told status assisted _ startStatus isTold _
  have fits : (scene.memory.get user Vmblok.psw : Psw).Fits := Psw.fits_ofBytes _
  have loads : ∀ {before : Scene} (extension : UInt32) (controls : TranslationControls),
      prefixRegion.Apart (vmblokRegion user) ∧ assisted.isExtended = true ∧
        before.memory.get user Vmblok.traceControl &&& Vmblok.tracesEvents = 0 →
      (start user extension assisted (scene.memory.get user Vmblok.psw) controls).Achieves known
        (fun _ after => ∀ register ∈ ecblokRegisters, after.cpu.control.read register =
          before.memory.get (Address.wrap extension) (Ecblok.control.item register)) before :=
    fun extension controls ⟨apart, extended, untraced⟩ =>
      start_loads apart isFaithful extension fits controls extended untraced
  refine ((achieves_of_imp fun apart => start_achieves apart isFaithful _ assisted fits _).and
    (achieves_of_imp (loads _ _))).mono ?_ fun _ _ _ => trivial
  rintro _ after ⟨started, loads⟩ _ extended untraced ⟨blocks, flagApart⟩
  simp only [List.pairwise_cons, List.mem_cons, forall_eq_or_imp] at blocks
  obtain ⟨⟨apart, prefixEcblok, -⟩, ⟨vmblokEcblok, -⟩, -⟩ := blocks
  have started := started apart
  have sameTrace := started.get_ofVmblok apart Vmblok.traceControl (by decide) (by decide)
  rw [sameTrace] at untraced
  rw [Memory.isExtended, started.processorStatus] at extended
  rw [started.getAddress_assistControl apart] at flagApart
  have sameAddress : after.memory.getAddress user Vmblok.extension =
      Address.wrap (scene.memory.get user Vmblok.extension) := by
    have kept := started.keeps ⟨user + Vmblok.extension.offset, 4⟩
      (startRegions_apart_ofVmblok apart (by decide) (by decide))
    rw [Memory.getAddress, (kept.trans (isTold.extension_kept flagApart)).get_eq]
  intro register register_mem
  have wordKept : after.memory.AgreesOn told (.ofField
      (after.memory.getAddress user Vmblok.extension) (Ecblok.control.item register)) :=
    (started.keeps _ (startRegions_apart prefixEcblok vmblokEcblok)).mono
      (Memory.controlWord_within _ register)
  rw [loads ⟨apart, extended, untraced⟩ register register_mem, ← sameAddress, wordKept.get_eq]

end Dispatcher

section

variable {known : Knowledge} {policy : Policy} {memory after : Memory} {cpu cpuAfter : Cpu}
  {request : Request}

/-- An instruction of a virtual machine, once done, leaves what it does not store into. -/
theorem GuestContext.Leaves.agreesOn
    (leaves : (memory.guestContext cpu.assistControl).Leaves known policy memory cpu request after
      cpuAfter) {region : Region}
    (pswApart : (memory.pswRegion cpu.assistControl).Apart region)
    (apart : ∀ stored, request.StoresBeside known memory cpu stored → stored.Apart region) :
    after.AgreesOn memory region := by
  cases leaves with
  | masked _ => exact Memory.put_agreesOn _ pswApart
  | called _ _ oldMaps codeMaps =>
      refine (Memory.put_agreesOn _ pswApart).trans
        (Memory.storeCall_agreesOn ?_ fun extended => ?_)
      · exact apart _ (.oldPsw oldMaps)
      · exact apart _ (.callCode extended (codeMaps extended))
  | loaded _ _ _ => exact Memory.put_agreesOn _ pswApart
  | loadedControls _ _ =>
      exact Memory.putShadow_agreesOn fun register register_mem => apart _ (.shadow register_mem)

end

namespace ControlRegisters

variable {registers loaded : ControlRegisters} {psw : Psw}

/-- The registers of the ECBLOK that may be loaded are those that go to the real processor. -/
theorem forwarded_of_loadable : ∀ register ∈ ecblokRegisters, register ∈ loadable →
    register = 12 ∨ register = 13 := by
  decide

/-- A load that is not refused loads nothing but registers that may be loaded. -/
theorem load_loadable {range : List RegisterNumber} {new : RegisterFile} {pending : UInt8}
    (isLoaded : registers.load range new psw pending = .ok loaded) :
    ∀ register ∈ range, register ∈ loadable := by
  simp only [load] at isLoaded
  induction range generalizing registers with
  | nil => simp
  | cons register rest ih =>
      rw [List.foldlM_cons] at isLoaded
      cases one : registers.loadOne psw (pending &&& Micblok.pendingFlag != 0) register
        (new.read register) with
      | error reject => simp [one, bind, Except.bind] at isLoaded
      | ok middle =>
          rw [one] at isLoaded
          exact List.forall_mem_cons.mpr ⟨(loadOne_loads one).isLoadable, ih isLoaded⟩

/-- A load keeps the real registers that belong to the ECBLOK in step with their shadows. -/
theorem load_coherent {range : List RegisterNumber} {new : RegisterFile} {pending : UInt8}
    (coherent : ∀ register ∈ ecblokRegisters,
      registers.real.read register = registers.shadow.read register)
    (isLoaded : registers.load range new psw pending = .ok loaded) :
    ∀ register ∈ ecblokRegisters, loaded.real.read register = loaded.shadow.read register := by
  refine load_induction (motive := fun after => ∀ register ∈ ecblokRegisters,
    after.real.read register = after.shadow.read register) ?_ coherent isLoaded
  intro one _ before after inStep isLoaded register register_mem
  have loads := loadOne_loads isLoaded
  rw [loads.shadow, RegisterFile.read_load]
  split
  · rename_i same
    subst same
    have forwarded := forwarded_of_loadable one register_mem loads.isLoadable
    rw [loads.real, if_pos forwarded, RegisterFile.read_load, if_pos rfl]
  · rename_i others
    rw [loads.real_kept register fun same => absurd same.symm others,
      inStep register register_mem]

end ControlRegisters

/-- The instruction loads a virtual control register. -/
def Request.LoadsControl : Request → RegisterNumber → Prop
  | lctl first last _, register => register ∈ RegisterNumber.range first last
  | _, _ => False

namespace GuestContext.Leaves

variable {known : Knowledge} {policy : Policy} {memory after : Memory} {cpu cpuAfter : Cpu}
  {request : Request}

/-- LOAD CONTROL, once done, has loaded nothing but registers that may be loaded. -/
theorem loadable {context : GuestContext} {first last : RegisterNumber} {address : UInt32}
    (leaves : context.Leaves known policy memory cpu (.lctl first last address) after cpuAfter) :
    ∀ register ∈ RegisterNumber.range first last, register ∈ ControlRegisters.loadable := by
  cases leaves with
  | loadedControls _ isLoaded => exact ControlRegisters.load_loadable isLoaded

/-- An instruction, once done, leaves the processor in step with the words of the ECBLOK. -/
theorem coherent {context : GuestContext}
    (leaves : context.Leaves known policy memory cpu request after cpuAfter)
    (extended : memory.isExtended context.vmblok = true)
    (coherent : memory.Coherent cpu.control context.vmblok)
    (spared : ∀ register : RegisterNumber, ¬request.LoadsControl register → after.AgreesOn memory
      (.ofField (memory.getAddress context.vmblok Vmblok.extension)
        (Ecblok.control.item register))) :
    ∀ register ∈ ecblokRegisters, cpuAfter.control.read register =
      after.get (memory.getAddress context.vmblok Vmblok.extension)
        (Ecblok.control.item register) := by
  intro register register_mem
  have before := coherent register register_mem
  cases leaves with
  | masked _ => exact before.trans (spared register id).get_eq.symm
  | called _ _ _ _ => exact before.trans (spared register id).get_eq.symm
  | loaded _ _ _ => exact before.trans (spared register id).get_eq.symm
  | @loadedControls first last _ _ loaded _ _ isLoaded =>
      have sameAddress : context.shadowAddress memory =
          memory.getAddress context.vmblok Vmblok.extension := by
        rw [GuestContext.shadowAddress, if_pos extended]
      by_cases inRange : register ∈ RegisterNumber.range first last
      · have inStep : ∀ other ∈ ecblokRegisters, cpu.control.read other =
            (memory.shadowRegisters (memory.isExtended context.vmblok)
              (context.shadowAddress memory)).read other := by
          intro other other_mem
          rw [Memory.read_shadowRegisters (.inl extended), sameAddress]
          exact coherent other other_mem
        rw [← sameAddress]
        exact (ControlRegisters.load_coherent inStep isLoaded register register_mem).trans
          (Memory.get_putShadow_of_mem inRange).symm
      · have realKept := ControlRegisters.load_real isLoaded register fun loads =>
          absurd loads inRange
        exact realKept.trans (before.trans (spared register inRange).get_eq.symm)

end GuestContext.Leaves

/-- The virtual PSW lies in the VMBLOK that is found by it. -/
theorem Memory.contains_pswRegion {memory : Memory} {control : AssistControl} {place : UInt32} :
    (memory.pswRegion control).Contains place ↔
      (Region.ofField (memory.guestContext control).vmblok Vmblok.psw).Contains place := by
  have address_lt := (memory.guestContext control).pswAddress.toNat_lt
  have place_lt := place.toNat_lt
  have offset : Vmblok.psw.offset.toNat = 0xa8 := rfl
  have zero : (Field.first : Field Psw).offset.toNat = 0 := rfl
  have size : Stored.size Psw = 8 := rfl
  simp only [pswRegion, Region.ofField, Region.Contains, Region.distance_eq, GuestContext.vmblok,
    Address.toNat_wrap, UInt32.toNat_add, UInt32.toNat_sub, offset, zero, size, Address.space]
  omega

namespace System

open Dispatcher

variable {Machine Refusal : Type} {policy : Policy} {callouts : Callouts Machine Refusal}
  {system : System Machine} {request : Request} {user : UInt32}

/-- The running virtual machine is that of a user, and the fields of its prefixed storage area that
SUPERVISOR CALL stores into overlap neither the VMBLOK nor the ECBLOK, wherever they may be
translated to. -/
structure Hosts (view : StorageView callouts) (user : UInt32) (system : System Machine) : Prop where
  vmblok : (system.virtualMachine view).vmblok = user
  image : ∀ region ∈ [vmblokRegion user, (view.memory system.machine).ecblokRegion user],
    (callouts.knowledge system.machine).CallApart system.cpu region

/-- The control registers of the processor are as the ECBLOK of a user has them, which has one,
within storage and apart from its VMBLOK. -/
structure HoldsControls (view : StorageView callouts) (user : UInt32) (system : System Machine) :
    Prop where
  extended : (view.memory system.machine).isExtended user = true
  apart : (vmblokRegion user).Apart ((view.memory system.machine).ecblokRegion user)
  inSpace : ((view.memory system.machine).getAddress user Vmblok.extension).toNat + 64 ≤
    Address.space
  coherent : (view.memory system.machine).Coherent system.cpu.control user

/-- Whatever becomes of an instruction, it leaves what its program does not store into. -/
theorem agreesOn_of_apart (view : StorageView callouts) (isVirtual : request.IsVirtual)
    {region : Region}
    (pswApart : ((view.memory system.machine).pswRegion system.cpu.assistControl).Apart region)
    (apart : ∀ stored, request.StoresBeside (callouts.knowledge system.machine)
      (view.memory system.machine) system.cpu stored → stored.Apart region) :
    (view.memory (system.perform policy callouts request).system.machine).AgreesOn
      (view.memory system.machine) region := by
  intro place inRegion
  rcases bytes_perform view system policy request with same | ⟨_, after, ran, -, bytes⟩
  · exact same place
  · obtain ⟨-, leaves⟩ := leaves_of_ran view isVirtual ran
    exact (bytes place).elim id fun seen =>
      seen.trans (leaves.agreesOn pswApart apart place inRegion)

section

variable {view : StorageView callouts} (holds : system.HoldsControls view user)
  (hosts : system.Hosts view user)

include holds hosts

theorem HoldsControls.shadowAddress :
    (system.virtualMachine view).shadowAddress (view.memory system.machine) =
      (view.memory system.machine).getAddress user Vmblok.extension := by
  rw [GuestContext.shadowAddress, hosts.vmblok, if_pos holds.extended]

/-- An instruction leaves what neither the virtual PSW, nor the fields of the prefixed storage area
of its virtual machine, nor the words of the registers that it loads overlap. -/
theorem HoldsControls.agreesOn (isVirtual : request.IsVirtual) {region : Region}
    (pswApart : (Region.ofField user Vmblok.psw).Apart region)
    (image : (callouts.knowledge system.machine).CallApart system.cpu region)
    (wordsApart : ∀ register : RegisterNumber, request.LoadsControl register →
      (Region.ofField ((view.memory system.machine).getAddress user Vmblok.extension)
        (Ecblok.control.item register)).Apart region) :
    (view.memory (system.perform policy callouts request).system.machine).AgreesOn
      (view.memory system.machine) region := by
  have isUser : ((view.memory system.machine).guestContext system.cpu.assistControl).vmblok =
    user := hosts.vmblok
  have isShadow : ((view.memory system.machine).guestContext
      system.cpu.assistControl).shadowAddress (view.memory system.machine) =
      (view.memory system.machine).getAddress user Vmblok.extension := holds.shadowAddress hosts
  refine agreesOn_of_apart view isVirtual (fun place inPsw => ?_) fun stored stores => ?_
  · have inField := Memory.contains_pswRegion.mp inPsw
    rw [isUser] at inField
    exact pswApart place inField
  · cases stores with
    | oldPsw maps => exact image.oldPsw _ maps
    | callCode _ maps => exact image.code _ maps
    | shadow inRange =>
        rw [isShadow]
        exact wordsApart _ inRange

/-- An instruction stores into the VMBLOK nothing but the virtual PSW. -/
theorem HoldsControls.vmblok_kept (isVirtual : request.IsVirtual) {α : Type} [Stored α]
    {field : Field α} (inside : field.offset.toNat + Stored.size α ≤ 0xc0)
    (above : 8 ≤ Region.distance Vmblok.psw.offset field.offset)
    (below : Stored.size α ≤ Region.distance field.offset Vmblok.psw.offset) :
    (view.memory (system.perform policy callouts request).system.machine).AgreesOn
      (view.memory system.machine) (.ofField user field) := by
  have within := Dispatcher.vmblok_within user inside
  refine holds.agreesOn hosts isVirtual (Region.ofField_apart user above below)
    ((hosts.image (vmblokRegion user) (by simp)).mono within) fun register _ => ?_
  exact holds.apart.symm.parts (Memory.controlWord_within _ register) within

/-- An instruction stores into the word of a control register only if it loads that. -/
theorem HoldsControls.word_kept (isVirtual : request.IsVirtual) {register : RegisterNumber}
    (spared : ¬request.LoadsControl register) :
    (view.memory (system.perform policy callouts request).system.machine).AgreesOn
      (view.memory system.machine)
      (.ofField ((view.memory system.machine).getAddress user Vmblok.extension)
        (Ecblok.control.item register)) := by
  have within := Memory.controlWord_within
    ((view.memory system.machine).getAddress user Vmblok.extension) register
  refine holds.agreesOn hosts isVirtual
    (holds.apart.parts (Dispatcher.vmblok_within user (by decide)) within)
    ((hosts.image ((view.memory system.machine).ecblokRegion user) (by simp)).mono within)
    fun other loads => ?_
  exact Memory.shadow_apart fun same => spared (same ▸ loads)

/-- An instruction that does not complete leaves the words of the registers that the ECBLOK has for
the processor, also when it fails while it stores them. -/
theorem HoldsControls.word_kept_of_not_completed (whole : view.RefusesWhole)
    (isVirtual : request.IsVirtual)
    (uncompleted : ∀ completion : Completion,
      (system.perform policy callouts request).result ≠ .ok completion.outcome)
    {register : RegisterNumber} (register_mem : register ∈ ecblokRegisters) :
    (view.memory (system.perform policy callouts request).system.machine).AgreesOn
      (view.memory system.machine)
      (.ofField ((view.memory system.machine).getAddress user Vmblok.extension)
        (Ecblok.control.item register)) := by
  by_cases loads : request.LoadsControl register
  · rcases bytes_perform view system policy request with
      same | ⟨completion, after, ran, concludes, -⟩
    · exact fun place _ => same place
    · obtain ⟨error, failed⟩ := concludes.resolve_left (uncompleted completion)
      cases request with
      | lctl first last address =>
          have loadable := (leaves_of_ran view isVirtual ran).2.loadable
          have barred : 1 ∉ RegisterNumber.range first last := fun one =>
            absurd (loadable 1 one) (by decide)
          have spaceLeft := holds.inSpace
          rw [← holds.shadowAddress hosts] at spaceLeft ⊢
          have high : 12 ≤ register.val := by
            rcases ControlRegisters.forwarded_of_loadable register register_mem
              (loadable register loads) with rfl | rfl <;> decide
          exact loadControl_failed view whole ran failed spaceLeft barred loads high
      | _ => exact loads.elim
  · exact holds.word_kept hosts isVirtual loads

/-- The ECBLOK of the user stays where it is. -/
theorem HoldsControls.ecblok_kept (isVirtual : request.IsVirtual) :
    let after := view.memory (system.perform policy callouts request).system.machine
    after.isExtended user = true ∧
      after.getAddress user Vmblok.extension =
        (view.memory system.machine).getAddress user Vmblok.extension := by
  intro after
  have status :
      after.AgreesOn (view.memory system.machine) (.ofField user Vmblok.processorStatus) :=
    holds.vmblok_kept hosts isVirtual (by decide) (by decide) (by decide)
  have extension : after.AgreesOn (view.memory system.machine) (.ofField user Vmblok.extension) :=
    holds.vmblok_kept hosts isVirtual (by decide) (by decide) (by decide)
  constructor
  · rw [Memory.isExtended, status.get_eq]
    exact holds.extended
  · rw [Memory.getAddress, extension.get_eq, Memory.getAddress]

/-- Whatever becomes of an instruction of the virtual machine, the processor and the ECBLOK stay in
step. -/
theorem HoldsControls.perform (whole : view.RefusesWhole) (isVirtual : request.IsVirtual) :
    (system.perform policy callouts request).system.HoldsControls view user := by
  obtain ⟨extended, sameAddress⟩ := holds.ecblok_kept hosts isVirtual
  refine ⟨extended, ?_, ?_, ?_⟩
  · rw [Memory.ecblokRegion, sameAddress]
    exact holds.apart
  · rw [sameAddress]
    exact holds.inSpace
  · intro register register_mem
    rw [sameAddress]
    by_cases completed : ∃ completion : Completion,
        (system.perform policy callouts request).result = .ok completion.outcome
    · obtain ⟨completion, completed⟩ := completed
      have leaves := leaves_of_stored view isVirtual completed
      have isUser := hosts.vmblok
      subst isUser
      exact leaves.coherent holds.extended holds.coherent
        (fun _ spared => holds.word_kept hosts isVirtual spared) register register_mem
    · have uncompleted : ∀ completion : Completion,
          (system.perform policy callouts request).result ≠ .ok completion.outcome :=
        fun completion result => completed ⟨completion, result⟩
      have wordKept :=
        holds.word_kept_of_not_completed hosts whole isVirtual uncompleted register_mem
      rw [control_of_not_completed uncompleted, wordKept.get_eq]
      exact holds.coherent register register_mem

end

/-- They stay in step along every run, whatever becomes of its instructions. -/
theorem HoldsControls.performAll {view : StorageView callouts} (whole : view.RefusesWhole)
    {requests : List Request} (areVirtual : ∀ request ∈ requests, request.IsVirtual)
    (holds : system.HoldsControls view user)
    (hosts : system.Along policy callouts (fun system _ => system.Hosts view user) requests) :
    (system.performAll policy callouts requests).HoldsControls view user := by
  induction requests generalizing system with
  | nil => exact holds
  | cons request rest ih =>
      have performed :
          (system.perform policy callouts request).system.HoldsControls view user :=
        holds.perform hosts.1 whole (areVirtual request (by simp))
      exact ih (fun other other_mem => areVirtual other (by simp [other_mem])) performed hosts.2

/-- An ECBLOK that does not overlap the prefixed storage area ends before the last address. -/
theorem inSpace_of_apart {memory : Memory}
    (apart : prefixRegion.Apart (memory.ecblokRegion user)) :
    (memory.getAddress user Vmblok.extension).toNat + 64 ≤ Address.space := by
  have address_lt : (memory.getAddress user Vmblok.extension).toNat < Address.space :=
    Address.wrap_lt _
  have base : PrefixArea.base.toNat = 0 := rfl
  simp only [Region.apart_iff, prefixRegion, Memory.ecblokRegion, Region.distance_eq,
    Address.space, base] at *
  omega

/-- Once an extended user has been dispatched whose events are not traced, its control registers
stay in step with its ECBLOK, whatever instructions it performs and whatever becomes of them. -/
theorem coherent_of_dispatched (view : StorageView callouts) (whole : view.RefusesWhole)
    {list : UInt32} (selects : request.dispatchList? = some list)
    (dispatched : (system.perform policy callouts request).result = .ok .dispatched) :
    let running := (system.perform policy callouts request).system
    let memory := view.memory running.machine
    ∃ user,
      (∃ searched, Searches (view.memory system.machine) system.cpu request searched ∧
        FirstRunnable searched list user) ∧
      (memory.isExtended user = true →
        memory.get user Vmblok.traceControl &&& Vmblok.tracesEvents = 0 →
        memory.ControlsLayout user →
        ∀ requests, (∀ other ∈ requests, other.IsVirtual) →
          running.Along policy callouts (fun system _ => system.Hosts view user) requests →
          let final := running.performAll policy callouts requests
          (view.memory final.machine).Coherent final.cpu.control user) := by
  intro running memory
  have done : (system.perform policy callouts request).result =
      .ok Completion.dispatched.outcome := dispatched
  have ensures := @Request.dispatches_of_loads .ofStorage trivial request list selects
    (fun user after => after.RunsCoherently user)
    (fun user exits _ => Dispatcher.loadUser_coherent trivial user exits) policy
    system.registry.level (view.memory system.machine) system.cpu
  obtain ⟨final, runs, cpu, sameMemory⟩ :=
    ensures_of_completed view (view.shows system.machine) (fun _ _ => trivial) ensures done
  obtain ⟨user, isFirst, coherent⟩ := runs rfl
  have sameControl : running.cpu.control = final.cpu.control := by
    rw [cpu, Scene.committedCpu]
    split <;> rfl
  rw [Scene.RunsCoherently, ← sameMemory, ← sameControl] at coherent
  refine ⟨user, isFirst, fun extended untraced layout requests areVirtual hosts => ?_⟩
  have blocks := layout.blocks
  simp only [List.pairwise_cons, List.mem_cons, forall_eq_or_imp] at blocks
  obtain ⟨⟨-, prefixEcblok, -⟩, ⟨vmblokEcblok, -⟩, -⟩ := blocks
  have holds : running.HoldsControls view user :=
    ⟨extended, vmblokEcblok, inSpace_of_apart prefixEcblok, coherent extended untraced layout⟩
  exact (holds.performAll whole areVirtual hosts).coherent

theorem refusesWhole_relocating {view : StorageView callouts} (whole : view.RefusesWhole)
    (distance : UInt32) : (view.relocating distance).RefusesWhole :=
  fun address bytes machine => whole address bytes machine

/-- The running virtual machine is that of a user, and its storage, which starts at one distance
from real address zero, has the prefixed storage area neither in the VMBLOK nor in the ECBLOK. -/
def HostsAt (view : StorageView callouts) (distance : UInt32) (user : UInt32)
    (system : System Machine) : Prop :=
  system.cpu.psw.translates = true ∧ (system.virtualMachine view).vmblok = user ∧
    ∀ region ∈ [vmblokRegion user, (view.memory system.machine).ecblokRegion user],
      Region.Apart ⟨Address.wrap (Address.wrap PrefixArea.callOldPsw + distance), 8⟩ region ∧
        Region.Apart ⟨Address.wrap (Address.wrap PrefixArea.callCode + distance), 4⟩ region

instance (view : StorageView callouts) (distance user : UInt32) (system : System Machine) :
    Decidable (system.HostsAt view distance user) :=
  inferInstanceAs (Decidable (_ ∧ _))

theorem HostsAt.hosts {view : StorageView callouts} {distance : UInt32}
    (hostsAt : system.HostsAt view distance user) :
    system.Hosts (view.relocating distance) user := by
  obtain ⟨translates, vmblok, apart⟩ := hostsAt
  have isReal : ∀ address real : UInt32,
      ((callouts.relocating distance).knowledge system.machine).Maps system.cpu address real →
      real = Address.wrap (Address.wrap address + distance) := by
    intro address real maps
    simp only [Knowledge.Maps, translates, if_true] at maps
    obtain ⟨machine, raw, -, answered, isRaw⟩ := maps
    obtain rfl := Except.ok.inj answered
    exact Except.ok.inj isRaw
  refine ⟨vmblok, fun region region_mem => ⟨fun real maps => ?_, fun real maps => ?_⟩⟩
  · rw [isReal _ _ maps]
    exact (apart region region_mem).1
  · rw [isReal _ _ maps]
    exact (apart region region_mem).2

/-- The system of that user that can run, with a MICBLOK that leads to its virtual PSW, and with a
new PSW for supervisor calls and operands of LOAD CONTROL in storage of its virtual machine, which
starts at real address 10000. -/
def loadingUser : System Memory :=
  { overlookedUser with
    machine :=
      (((overlookedUser.machine.store 0x7c08 [0, 0, 0x70, 0xa8]).store
        0x10060 [0, 0x08, 0, 0, 0, 0, 0xa1, 0]).store
        0x1b000 [0x12, 0x34, 0x56, 0x78]).store
        0x1b010 [0, 0, 0, 1] }

/-- The word of control register 13 in the ECBLOK cannot be stored into. -/
def protectedWord : Region :=
  ⟨0x7834, 4⟩

/-- The first instruction fails when it has stored the word of control register 0, and the next two
are done. -/
theorem loadingUser_coherent :
    let callouts := (Memory.protecting protectedWord).relocating 0x10000
    let running := (loadingUser.perform .splitKeys callouts (.disp2 0x6000 0x6800)).system
    let final := running.performAll .splitKeys callouts
      [.lctl 12 0 0xb000, .lctl 12 12 0xb000, .svc 7, .lpsw 0x20]
    final.machine.Coherent final.cpu.control 0x7000 ∧
      final.cpu.control.read 12 = 0x12345678 ∧
      final.machine.get 0x7800 Ecblok.control = 1 := by
  intro callouts running final
  have computed :
      (loadingUser.perform .splitKeys callouts (.disp2 0x6000 0x6800)).result.toOption =
          some .dispatched ∧
        running.machine.isExtended 0x7000 = true ∧
        running.machine.get 0x7000 Vmblok.traceControl &&& Vmblok.tracesEvents = 0 ∧
        [prefixRegion, vmblokRegion 0x7000,
          running.machine.ecblokRegion 0x7000].Pairwise Region.Apart ∧
        (Region.ofField (running.machine.getAddress 0x7000 Vmblok.assistControl) flagField).Apart
          (.ofField 0x7000 Vmblok.extension) := by
    decide +kernel
  obtain ⟨dispatched, extended, untraced, blocks, flag⟩ := computed
  have whole :=
    refusesWhole_relocating (Memory.protectedView_refusesWhole protectedWord) 0x10000
  have selects : (Request.disp2 0x6000 0x6800).dispatchList? = some 0x6000 := by decide
  obtain ⟨user, ⟨searched, searches, isFirst⟩, coherent⟩ :=
    coherent_of_dispatched _ whole selects (Response.result_eq_ok dispatched)
  obtain rfl : user = 0x7000 := by
    cases searches
    exact isFirst.eq_head (by decide +kernel) (by decide +kernel)
  have hostsAt : running.Along .splitKeys callouts
      (fun system _ => system.HostsAt (Memory.protectedView protectedWord) 0x10000 0x7000)
      [.lctl 12 0 0xb000, .lctl 12 12 0xb000, .svc 7, .lpsw 0x20] := by
    decide +kernel
  have changed : final.cpu.control.read 12 = 0x12345678 ∧
      final.machine.get 0x7800 Ecblok.control = 1 := by
    decide +kernel
  refine ⟨?_, changed⟩
  exact coherent extended untraced ⟨blocks, fun _ => flag⟩ _ (by simp [Request.IsVirtual])
    (hostsAt.mono fun _ _ => HostsAt.hosts)

/-- The system of that user with its ECBLOK at address 300, in the prefixed storage area. -/
def lowEcblok : System Memory :=
  { loadingUser with
    machine := loadingUser.machine.put 0x7000 Vmblok.extension 0x300 }

/-- The dispatch loads control registers 12 and 13 from where it then stores the PSW of the user. -/
theorem lowEcblok_incoherent :
    let callouts := Memory.callouts.relocating 0x10000
    let response := lowEcblok.perform .splitKeys callouts (.disp2 0x6000 0x6800)
    let running := response.system
    let blocks := [vmblokRegion 0x7000, running.machine.ecblokRegion 0x7000,
      (⟨0x10000, 0x1000⟩ : Region)]
    response.result = .ok .dispatched ∧
      running.machine.getAddress PrefixArea.base PrefixArea.runUser = 0x7000 ∧
      running.machine.isExtended 0x7000 = true ∧
      running.machine.get 0x7000 Vmblok.traceControl &&& Vmblok.tracesEvents = 0 ∧
      blocks.Pairwise Region.Apart ∧
      running.Hosts (Memory.storageView.relocating 0x10000) 0x7000 ∧
      ¬running.machine.Coherent running.cpu.control 0x7000 := by
  intro callouts response running blocks
  have computed : response.result.toOption = some .dispatched ∧
      running.machine.getAddress PrefixArea.base PrefixArea.runUser = 0x7000 ∧
      running.machine.isExtended 0x7000 = true ∧
      running.machine.get 0x7000 Vmblok.traceControl &&& Vmblok.tracesEvents = 0 ∧
      blocks.Pairwise Region.Apart ∧ running.HostsAt Memory.storageView 0x10000 0x7000 ∧
      ¬running.machine.Coherent running.cpu.control 0x7000 := by
    decide +kernel
  obtain ⟨dispatched, runs, extended, untraced, apart, hostsAt, incoherent⟩ := computed
  exact ⟨Response.result_eq_ok dispatched, runs, extended, untraced, apart, hostsAt.hosts,
    incoherent⟩

end System

end Assist370
