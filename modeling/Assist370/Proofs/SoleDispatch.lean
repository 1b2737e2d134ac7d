import Assist370.Proofs.DispatchEffect
import Assist370.Proofs.Failure
import Assist370.Proofs.StackedWork

/-!
# The mark of the dispatched user

Among users whose VMBLOKs lie apart, none but the running one is marked as dispatched
(`SoleDispatch`). Charging a user takes marks away at most, and a dispatch takes the mark of the
user that had the processor away before it marks its own. Every other store of the dispatcher
spares the marks and the word that names the running user (`Region.Spares`). So along every run of
the dispatcher's assists there is one marked user at most, and after a dispatch it is the one that
runs (`System.dispatched_alone`).
-/

namespace Assist370

variable {members : List UInt32} {memory after : Memory} {user : UInt32}

/-- Neither the word that names the running user nor the dispatch status of a member lies in the
region. -/
structure Region.Spares (region : Region) (members : List UInt32) : Prop where
  runUser : region.Apart (.ofField PrefixArea.base PrefixArea.runUser)
  status : ∀ member ∈ members, region.Apart (.ofField member Vmblok.dispatchStatus)

instance (region : Region) (members : List UInt32) : Decidable (region.Spares members) :=
  decidable_of_iff
    (region.Apart (.ofField PrefixArea.base PrefixArea.runUser) ∧
      ∀ member ∈ members, region.Apart (.ofField member Vmblok.dispatchStatus))
    ⟨fun ⟨runUser, status⟩ => ⟨runUser, status⟩, fun spares => ⟨spares.runUser, spares.status⟩⟩

theorem Region.Spares.mono {inner outer : Region} (spares : outer.Spares members)
    (within : inner.Within outer) : inner.Spares members :=
  ⟨spares.runUser.mono within,
    fun member member_mem => (spares.status member member_mem).mono within⟩

/-- The running user is a member, and no other member is marked as dispatched. -/
structure SoleDispatch (members : List UInt32) (memory : Memory) : Prop where
  running : memory.runningUser ∈ members
  others : ∀ member ∈ members, member ≠ memory.runningUser → ¬memory.IsDispatched member

namespace UsersApart

variable {α : Type} [Stored α] {field : Field α}

/-- Parts that are apart in a VMBLOK are apart in those of any two users. -/
theorem fields_apart {β : Type} [Stored β] {part : Field β} {other : UInt32}
    (apart : UsersApart members) (user_mem : user ∈ members) (other_mem : other ∈ members)
    (inside : field.offset.toNat + Stored.size α ≤ 0xc0)
    (partInside : part.offset.toNat + Stored.size β ≤ 0xc0)
    (clear : Stored.size α ≤ Region.distance field.offset part.offset ∧
      Stored.size β ≤ Region.distance part.offset field.offset) :
    (Region.ofField user field).Apart (.ofField other part) := by
  by_cases same : user = other
  · rw [same]
    exact Region.ofField_apart other clear.1 clear.2
  · exact (apart.others user_mem other_mem same).parts (Dispatcher.vmblok_within user inside)
      (Dispatcher.vmblok_within other partInside)

/-- The rest of a VMBLOK spares the marks. -/
theorem spares_vmblok (apart : UsersApart members) (user_mem : user ∈ members)
    (field : Field α) (inside : field.offset.toNat + Stored.size α ≤ 0xc0)
    (clear : Stored.size α ≤ Region.distance field.offset Vmblok.dispatchStatus.offset ∧
      1 ≤ Region.distance Vmblok.dispatchStatus.offset field.offset) :
    (Region.ofField user field).Spares members where
  runUser := (apart.prefixApart user_mem).symm.parts (Dispatcher.vmblok_within user inside)
    (Dispatcher.prefix_within (by decide))
  status _ member_mem := apart.fields_apart user_mem member_mem inside (by decide) clear

/-- The rest of the prefixed storage area spares the marks. -/
theorem spares_prefix (apart : UsersApart members) (field : Field α)
    (inside : field.offset.toNat + Stored.size α ≤ 0x380)
    (clear : Stored.size α ≤ Region.distance field.offset PrefixArea.runUser.offset ∧
      4 ≤ Region.distance PrefixArea.runUser.offset field.offset) :
    (Region.ofField PrefixArea.base field).Spares members where
  runUser := Region.ofField_apart _ clear.1 clear.2
  status member member_mem := (apart.prefixApart member_mem).parts
    (Dispatcher.prefix_within inside) (Dispatcher.vmblok_within member (by decide))

end UsersApart

namespace SoleDispatch

variable {α : Type} [Stored α] {block : UInt32} {field : Field α}

theorem congr (sole : SoleDispatch members memory)
    (runUser : after.AgreesOn memory (.ofField PrefixArea.base PrefixArea.runUser))
    (status : ∀ member ∈ members,
      after.AgreesOn memory (.ofField member Vmblok.dispatchStatus)) :
    SoleDispatch members after := by
  have running : after.runningUser = memory.runningUser := runUser.getAddress_eq
  refine ⟨by rw [running]; exact sole.running, fun member member_mem another => ?_⟩
  rw [running] at another
  rw [Memory.isDispatched_congr (status member member_mem)]
  exact sole.others member member_mem another

/-- A store that spares the marks keeps a sole dispatch. -/
theorem put (sole : SoleDispatch members memory)
    (spares : (Region.ofField block field).Spares members) (value : α) :
    SoleDispatch members (memory.put block field value) :=
  sole.congr (Memory.put_agreesOn value spares.runUser) fun member member_mem =>
    Memory.put_agreesOn value (spares.status member member_mem)

/-- So does a mark that is taken away. -/
theorem putOff (sole : SoleDispatch members memory) (apart : UsersApart members)
    (user_mem : user ∈ members) {status : UInt8} (isOff : status &&& Vmblok.dispatched = 0) :
    SoleDispatch members (memory.put user Vmblok.dispatchStatus status) := by
  have running : (memory.put user Vmblok.dispatchStatus status).runningUser = memory.runningUser :=
    congrArg Address.wrap
      (Memory.get_prefix_put (apart.prefixApart user_mem) status (by decide) (by decide))
  refine ⟨by rw [running]; exact sole.running, fun member member_mem another => ?_⟩
  rw [running] at another
  by_cases same : user = member
  · rw [← same]
    exact Memory.not_isDispatched_put isOff
  · have inside : ∀ block, (Region.ofField block Vmblok.dispatchStatus).Within
        (vmblokRegion block) := fun block => Dispatcher.vmblok_within block (by decide)
    have outside := (apart.others user_mem member_mem same).parts (inside user) (inside member)
    rw [Memory.isDispatched_congr (Memory.put_agreesOn status outside)]
    exact sole.others member member_mem another

/-- Where the running user is marked, it is the only member that is. -/
theorem isDispatched_iff (sole : SoleDispatch members memory)
    (marked : memory.IsDispatched memory.runningUser) {member : UInt32}
    (member_mem : member ∈ members) :
    memory.IsDispatched member ↔ member = memory.runningUser := by
  constructor
  · intro isDispatched
    by_cases same : member = memory.runningUser
    · exact same
    · exact absurd isDispatched (sole.others member member_mem same)
  · rintro rfl
    exact marked

end SoleDispatch

namespace Dispatcher

open Microcode

variable {known : Knowledge} {start scene : Scene} {list exits : UInt32}

/-- The rest of the charge of the running user once it is known which time it still had. -/
def chargeInterval (running interval list exits : UInt32) : Microcode Charged := do
  if interval &&& signBit != 0 then
    noteEnd running Vmblok.sliceEnded
  let total ← fetch running Vmblok.totalTime
  let sliceEnd ← fetch running Vmblok.sliceEnd
  if total &&& sliceUnits ≤ sliceEnd &&& sliceUnits then
    noteEnd running Vmblok.queueEnded
  chargeProblemTime running
  let previous ← fetch PrefixArea.base PrefixArea.quantum
  store PrefixArea.base PrefixArea.quantum interval
  chargeIntervalTimer running previous list exits

theorem chargeRunTime_eq (user list exits : UInt32) :
    chargeRunTime user list exits = (do
      let runUser ← fetchAddress PrefixArea.base PrefixArea.runUser
      store PrefixArea.base PrefixArea.cpStatus PrefixArea.cpExecutes
      stopCharging user
      if user != runUser then
        startCharging runUser
        let interval ← fetch PrefixArea.base PrefixArea.quantumLeft
        chargeInterval runUser interval list exits
      else
        let interval ← fetch PrefixArea.base PrefixArea.intervalTimer
        chargeInterval runUser interval list exits) :=
  rfl

/-- What a program leaves that completes the instruction without a dispatch. -/
def CompletesSole (members : List UInt32) (completion : Completion) (after : Scene) : Prop :=
  completion = .completed ∧ SoleDispatch members after.memory

/-- While the time of the running user is charged, the dispatch stays a sole one, and what the
address of the user's interval timer depends on stays as it was at the start. -/
structure Charging (members : List UInt32) (start scene : Scene) : Prop where
  sole : SoleDispatch members scene.memory
  running : scene.memory.runningUser = start.memory.runningUser
  segmentTable : scene.memory.get start.memory.runningUser Vmblok.segmentTable =
    start.memory.get start.memory.runningUser Vmblok.segmentTable
  control : scene.cpu.control = start.cpu.control

namespace Charging

variable {α : Type} [Stored α] {block : UInt32} {field : Field α}

theorem put (charging : Charging members start scene)
    (spares : (Region.ofField block field).Spares members)
    (table : (Region.ofField block field).Apart
      (.ofField start.memory.runningUser Vmblok.segmentTable)) (value : α) :
    Charging members start { scene with memory := scene.memory.put block field value } where
  sole := charging.sole.put spares value
  running := (Memory.put_agreesOn value spares.runUser).getAddress_eq.trans charging.running
  segmentTable := (Memory.put_agreesOn value table).get_eq.trans charging.segmentTable
  control := charging.control

/-- A part of a program that keeps the charge going may be left out. -/
theorem optional (charging : Charging members start scene) (condition : Prop)
    [Decidable condition] {program : Microcode Unit} {rest : Microcode Charged}
    {post : Charged → Scene → Prop}
    (keeps : program.Achieves known (fun _ after => Charging members start after) scene)
    (achieves : ∀ after, Charging members start after → rest.Achieves known post after) :
    (if condition then do program; rest else rest).Achieves known post scene := by
  simp only [Achieves, ensures_ite, ensures_bind]
  exact ⟨fun _ => keeps.mono (fun _ => achieves) fun _ _ => id, fun _ => achieves scene charging⟩

variable (apart : UsersApart members) (running_mem : start.memory.runningUser ∈ members)

include apart running_mem

theorem putPrefix (charging : Charging members start scene) (field : Field α) (value : α)
    (inside : field.offset.toNat + Stored.size α ≤ 0x380)
    (clear : Stored.size α ≤ Region.distance field.offset PrefixArea.runUser.offset ∧
      4 ≤ Region.distance PrefixArea.runUser.offset field.offset) :
    Charging members start
      { scene with memory := scene.memory.put PrefixArea.base field value } := by
  refine charging.put (apart.spares_prefix field inside clear) ?_ value
  exact (apart.prefixApart running_mem).parts (prefix_within inside) (vmblok_within _ (by decide))

theorem segmentTable_apart (user_mem : user ∈ members)
    (inside : field.offset.toNat + Stored.size α ≤ 0xc0)
    (clear : Stored.size α ≤ Region.distance field.offset Vmblok.segmentTable.offset ∧
      4 ≤ Region.distance Vmblok.segmentTable.offset field.offset) :
    (Region.ofField user field).Apart
      (.ofField start.memory.runningUser Vmblok.segmentTable) :=
  apart.fields_apart user_mem running_mem inside (by decide) clear

theorem putTime (charging : Charging members start scene) (user_mem : user ∈ members)
    (value : UInt64) :
    Charging members start
      { scene with memory := scene.memory.put user Vmblok.totalTime value } :=
  charging.put (apart.spares_vmblok user_mem _ (by decide) (by decide))
    (segmentTable_apart apart running_mem user_mem (by decide) (by decide)) value

theorem putOff (charging : Charging members start scene) {status : UInt8}
    (isOff : status &&& Vmblok.dispatched = 0) :
    Charging members start
      { scene with
        memory := scene.memory.put start.memory.runningUser Vmblok.dispatchStatus status } where
  sole := charging.sole.putOff apart running_mem isOff
  running := (congrArg Address.wrap (Memory.get_prefix_put (apart.prefixApart running_mem) status
    (by decide) (by decide))).trans charging.running
  segmentTable := (Memory.put_agreesOn status (segmentTable_apart apart running_mem running_mem
    (by decide) (by decide))).get_eq.trans charging.segmentTable
  control := charging.control

theorem noteEnd_charges (charging : Charging members start scene) {flag : UInt8}
    (isEnd : flag ∈ [Vmblok.sliceEnded, Vmblok.queueEnded]) :
    (noteEnd start.memory.runningUser flag).Achieves known
      (fun _ after => Charging members start after) scene := by
  have off : ∀ (status : UInt8), ∀ flag ∈ [Vmblok.sliceEnded, Vmblok.queueEnded],
      (status &&& ~~~Vmblok.dispatched ||| flag) &&& Vmblok.dispatched = 0 := by
    rintro ⟨bits⟩
    revert bits
    decide +kernel
  simp only [Achieves, noteEnd, ensures_bind, ensures_store]
  exact ensures_fetch _ _ fun status _ _ => 
    charging.putOff apart running_mem (off status flag isEnd)

theorem chargeProblemTime_charges (charging : Charging members start scene) :
    (chargeProblemTime start.memory.runningUser).Achieves known
      (fun _ after => Charging members start after) scene := by
  simp only [Achieves, chargeProblemTime, ensures_bind]
  refine ensures_fetch _ _ fun now _ => ensures_fetch _ _ fun begun _ => ?_
  simp only [ensures_ite, ensures_pure, ensures_bind, ensures_store]
  refine ⟨fun _ => charging, fun _ => ensures_fetch _ _ fun total _ _ => ?_⟩
  exact charging.putPrefix apart running_mem _ _ (by decide) (by decide)

end Charging

theorem clearMark_achieves (apart : UsersApart members) (user_mem : user ∈ members)
    (sole : SoleDispatch members scene.memory) :
    (clearBits user Vmblok.dispatchStatus Vmblok.dispatched).Achieves known
      (fun _ after => SoleDispatch members after.memory) scene := by
  simp only [Achieves, clearBits, ensures_bind, ensures_store]
  exact ensures_fetch _ _ fun status _ _ =>
    sole.putOff apart user_mem (by simp [UInt8.and_assoc])

theorem takeExit_sole (place : Field UInt32) (sole : SoleDispatch members scene.memory) :
    (takeExit exits place).Achieves known (CompletesSole members) scene := by
  refine (takeExit_achieves exits place).mono ?_ fun _ _ => id
  rintro completion after ⟨completed, memory⟩
  exact ⟨completed, by rwa [memory]⟩

/-- The charge of the running user has come to its end. -/
def ChargesSole (members : List UInt32) (running : UInt32) (charged : Charged) (after : Scene) :
    Prop :=
  (charged = .goesOn running ∨ charged = .left .completed) ∧ SoleDispatch members after.memory

theorem leave_sole (running : UInt32) (place : Field UInt32)
    (sole : SoleDispatch members scene.memory) :
    (takeExit exits place).Achieves known
      (fun completion after => ChargesSole members running (.left completion) after) scene := by
  refine (takeExit_sole place sole).mono ?_ fun _ _ => id
  rintro completion after ⟨rfl, sole⟩
  exact ⟨.inr rfl, sole⟩

theorem exitFor_sole (exit : EntryExit) (sole : SoleDispatch members scene.memory) :
    (exitFor user exits exit).Achieves known (CompletesSole members) scene := by
  simp only [Achieves, exitFor, setGeneral, ensures_bind, ensures_modify]
  exact takeExit_sole _ sole

/-- To look at the user that the dispatcher is entered for keeps a sole dispatch. -/
theorem reflect_sole (apart : UsersApart members) (user_mem : user ∈ members)
    (sole : SoleDispatch members scene.memory) :
    (reflect user exits).Achieves known (CompletesSole members) scene := by
  have externalLooks : ∀ (psw : Psw) (status : UInt8),
      (externalInterruption user psw status).Takes Action.OnlyLooks :=
    takes_externalInterruption (fun _ _ => trivial) user
  have ioLooks : ∀ (psw : Psw) (status : UInt8),
      (ioInterruptions user psw status).Takes Action.OnlyLooks :=
    takes_ioInterruptions (fun _ _ => trivial) user
  simp only [Achieves, reflect, ensures_bind]
  refine ensures_testBits _ _ _ fun waits _ => ?_
  simp only [ensures_ite, ensures_bind]
  refine ⟨fun _ => exitFor_sole _ sole, fun _ => ensures_testBits _ _ _ fun event _ => ?_⟩
  refine ⟨fun _ => exitFor_sole _ sole, fun _ => ?_⟩
  refine ensures_fetch _ _ fun psw _ => ensures_fetch _ _ fun status _ => ?_
  refine (externalLooks psw status).ensures_of_looks (fun interruption => ?_) fun _ => trivial
  cases interruption with
  | some interruption =>
      simp only [setGeneral, ensures_bind, ensures_modify]
      exact exitFor_sole _ sole
  | none =>
      simp only [ensures_bind]
      refine (ioLooks psw status).ensures_of_looks (fun channels => ?_) fun _ => trivial
      simp only [ensures_ite, setGeneral, ensures_bind, ensures_modify]
      refine ⟨fun _ => exitFor_sole _ sole, fun _ => ?_⟩
      simp only [exitByPsw, ensures_bind]
      refine ensures_fetch _ _ fun run _ => ?_
      simp only [ensures_ite, ensures_bind, ensures_store]
      have spares : (Region.ofField user Vmblok.runStatus).Spares members :=
        apart.spares_vmblok user_mem _ (by decide) (by decide)
      exact ⟨fun _ _ => exitFor_sole _ (sole.put spares _),
        fun _ _ => exitFor_sole _ (sole.put spares _)⟩

theorem exitRunning_sole (apart : UsersApart members) (user_mem : user ∈ members)
    (sole : SoleDispatch members scene.memory) :
    (exitRunning user exits).Achieves known (CompletesSole members) scene := by
  simp only [Achieves, exitRunning, ensures_bind]
  refine ensures_fetch _ _ fun status _ => ensures_fetch _ _ fun ioOld _ => ?_
  simp only [ensures_ite]
  exact ⟨fun _ => exitFor_sole _ sole, fun _ => reflect_sole apart user_mem sole⟩

section

variable (apart : UsersApart members) (running_mem : start.memory.runningUser ∈ members)
  (timer : ∀ real, known.translates (start.cpu.control.read 0)
    (start.memory.get start.memory.runningUser Vmblok.segmentTable)
    PrefixArea.intervalTimer.offset (.ok real) →
    (Region.ofField real (Field.first : Field UInt32)).Spares members)

include apart running_mem timer

/-- The interval timer of the running user spares the marks. -/
theorem intervalTimerAddress_spares (isFaithful : known.faithful)
    (charging : Charging members start scene) :
    (intervalTimerAddress start.memory.runningUser).Achieves known
      (fun address after => SoleDispatch members after.memory ∧
        (Region.ofField address (Field.first : Field UInt32)).Spares members) scene := by
  have inVmblok : (Region.ofField (start.memory.runningUser + Vmblok.intervalTimer.offset)
      (Field.first : Field UInt32)).Spares members := by
    rw [Region.ofField, Field.first, UInt32.add_zero]
    exact apart.spares_vmblok running_mem Vmblok.intervalTimer (by decide) (by decide)
  simp only [Achieves, intervalTimerAddress, loadRealAddress, ensures_bind, ensures_registers,
    ensures_fetch_iff isFaithful, ensures_modify]
  refine (ensures_perform _).mpr fun answer isKnown => ?_
  simp only [Cpu.setControl, RegisterFile.read_load, charging.control, charging.segmentTable]
    at isKnown
  cases answer with
  | error _ => exact (ensures_pure _).mpr ⟨charging.sole, inVmblok⟩
  | ok real => exact (ensures_pure _).mpr ⟨charging.sole, timer real isKnown⟩

theorem countDown_charges (isFaithful : known.faithful) (elapsed : UInt32)
    (charging : Charging members start scene) :
    (countDown start.memory.runningUser elapsed list exits).Achieves known
      (ChargesSole members start.memory.runningUser) scene := by
  simp only [Achieves, countDown, ensures_bind]
  refine (intervalTimerAddress_spares apart running_mem timer isFaithful charging).mono ?_
    fun _ _ => id
  rintro address timed ⟨sole, spares⟩
  simp only [ensures_fetch_iff isFaithful, ensures_store, ensures_ite, ensures_bind, ensures_pure,
    setGeneral, ensures_modify]
  refine fun _ => ⟨fun _ => ?_, fun _ => ⟨.inl rfl, sole.put spares _⟩⟩
  refine (clearMark_achieves apart running_mem (sole.put spares _)).mono ?_ fun _ _ => id
  exact fun _ _ sole => leave_sole _ _ sole

theorem chargeIntervalTimer_charges (isFaithful : known.faithful) (previous : UInt32)
    (charging : Charging members start scene) :
    (chargeIntervalTimer start.memory.runningUser previous list exits).Achieves known
      (ChargesSole members start.memory.runningUser) scene := by
  simp only [Achieves, chargeIntervalTimer, ensures_bind]
  refine ensures_testBits _ _ _ fun kept _ => ?_
  simp only [ensures_ite, ensures_pure]
  refine ⟨fun _ => ⟨.inl rfl, charging.sole⟩, fun _ => ?_⟩
  simp only [ensures_bind]
  refine ensures_testBits _ _ _ fun runs _ => ?_
  simp only [ensures_ite, ensures_pure]
  refine ⟨fun _ => ⟨.inl rfl, charging.sole⟩, fun _ => ?_⟩
  simp only [ensures_bind]
  refine ensures_fetch _ _ fun left _ => ?_
  simp only [ensures_ite, ensures_bind, ensures_log, ensures_pure]
  refine ⟨fun _ => leave_sole _ _ charging.sole, fun _ => ?_⟩
  exact countDown_charges apart running_mem timer isFaithful _ charging

theorem chargeInterval_charges (isFaithful : known.faithful) (interval : UInt32)
    (charging : Charging members start scene) :
    (chargeInterval start.memory.runningUser interval list exits).Achieves known
      (ChargesSole members start.memory.runningUser) scene := by
  rw [chargeInterval]
  refine charging.optional _ (charging.noteEnd_charges apart running_mem (by simp)) ?_
  intro noted charging
  simp only [Achieves, ensures_bind]
  refine ensures_fetch _ _ fun total _ => ensures_fetch _ _ fun sliceEnd _ => ?_
  refine charging.optional _ (charging.noteEnd_charges apart running_mem (by simp)) ?_
  intro _ charging
  simp only [Achieves, ensures_bind]
  refine (charging.chargeProblemTime_charges apart running_mem).mono ?_ fun _ _ => id
  intro _ charged charging
  refine ensures_fetch _ _ fun previous _ => (ensures_store _ _ _).mpr fun _ => ?_
  exact chargeIntervalTimer_charges apart running_mem timer isFaithful previous
    (charging.putPrefix apart running_mem _ interval (by decide) (by decide))

theorem chargeRunTime_charges (isFaithful : known.faithful) (user_mem : user ∈ members)
    (sole : SoleDispatch members start.memory) :
    (chargeRunTime user list exits).Achieves known
      (ChargesSole members start.memory.runningUser) start := by
  have begins : Charging members start start := ⟨sole, rfl, rfl, rfl⟩
  simp only [chargeRunTime_eq, Achieves, ensures_bind]
  refine ensures_fetchAddress _ _ fun runUser isRunning => ?_
  obtain rfl := isRunning isFaithful
  simp only [ensures_store, stopCharging, startCharging, setTimerFrom, ensures_bind,
    ensures_registers, ensures_ite, ensures_fetch_iff isFaithful, ensures_setTimer]
  intro _ _
  have stopped := (begins.putPrefix apart running_mem PrefixArea.cpStatus
    PrefixArea.cpExecutes (by decide) (by decide)).putTime apart running_mem user_mem
      start.cpu.cpuTimer.toUInt64
  refine ⟨fun _ => ?_, fun _ => ?_⟩
  · refine chargeInterval_charges apart running_mem timer isFaithful _ ?_
    exact ⟨stopped.sole, stopped.running, stopped.segmentTable, stopped.control⟩
  · exact chargeInterval_charges apart running_mem timer isFaithful _ stopped

theorem selectExit_sole (isFaithful : known.faithful)
    (current_mem : Address.wrap (start.cpu.general.read 11) ∈ members)
    (sole : SoleDispatch members start.memory) :
    (selectExit list exits).Achieves known (CompletesSole members) start := by
  simp only [Achieves, selectExit, currentUser, ensures_bind, ensures_general, ensures_pure]
  refine ensures_fetch _ _ fun status _ => ?_
  simp only [ensures_ite, ensures_bind]
  refine ⟨fun _ => ?_, fun _ => ⟨fun _ => takeExit_sole _ sole, fun _ => ?_⟩⟩
  · refine (chargeRunTime_charges apart running_mem timer isFaithful current_mem sole).mono ?_
      fun _ _ => id
    rintro charged after ⟨rfl | rfl, sole⟩
    · exact exitRunning_sole apart running_mem sole
    · exact (ensures_pure _).mpr ⟨rfl, sole⟩
  · exact reflect_sole apart current_mem sole

variable (start) in
/-- The entry of the dispatcher keeps a sole dispatch. -/
theorem enter_sole (isFaithful : known.faithful)
    (current_mem : Address.wrap (start.cpu.general.read 11) ∈ members)
    (entries : (Region.ofField list EntryList.entries).Spares members)
    (sole : SoleDispatch members start.memory) :
    (enter list exits).Achieves known (CompletesSole members) start := by
  simp only [Achieves, enter, ensures_bind]
  refine ensures_fetch _ _ fun count _ => ?_
  refine (selectExit_sole apart running_mem timer isFaithful current_mem sole).mono ?_
    fun _ _ => id
  rintro completion after ⟨completed, sole⟩
  simp only [ensures_store, ensures_pure]
  exact fun _ => ⟨completed, sole.put entries _⟩

end

/-- What the selection leaves: a sole dispatch, with the running user marked once it is
dispatched. -/
structure Marks (members : List UInt32) (completion : Completion) (memory : Memory) : Prop where
  sole : SoleDispatch members memory
  marked : completion = .dispatched → memory.IsDispatched memory.runningUser

theorem CompletesSole.marks {completion : Completion} {after : Scene}
    (completes : CompletesSole members completion after) :
    Marks members completion after.memory where
  sole := completes.2
  marked := by
    rw [completes.1]
    nofun

/-- The selection spares the marks where it does not mean to change them: the stacked work stores
elsewhere, and the first user that can run is a member whose MICBLOK lies elsewhere. -/
structure SelectionSpares (members : List UInt32) (memory : Memory) (list : UInt32) : Prop where
  work : ∀ region ∈ workRegions memory list, region.Spares members
  user : ∀ user, FirstRunnable memory list user →
    user ∈ members ∧ ∀ flag ∈ memory.flagRegions user, flag.Spares members

/-- It does where the head of the in-queue can run and is such a member. -/
theorem SelectionSpares.of_head {head : UInt32}
    (spares : (∀ region ∈ workRegions memory list, region.Spares members) ∧
      memory.getAddress (memory.getAddress list DispatchList.inQueue)
        (Field.first : Field UInt32) = head ∧
      Runnable memory head ∧ head ∈ members ∧
      ∀ flag ∈ memory.flagRegions head, flag.Spares members) :
    SelectionSpares members memory list := by
  obtain ⟨work, isHead, runnable, head_mem, flag⟩ := spares
  refine ⟨work, fun user isFirst => ?_⟩
  obtain rfl := isFirst.eq_head isHead runnable
  exact ⟨head_mem, flag⟩

section

variable {block : UInt32}

theorem RunsRequest.sole (apart : UsersApart members) (sole : SoleDispatch members memory)
    (spares : ∀ region ∈ requestRegions memory block, region.Spares members)
    {after : Scene} (runs : RunsRequest memory block after) :
    SoleDispatch members after.memory := by
  have stackUser : (Region.ofField PrefixArea.base PrefixArea.stackUser).Spares members :=
    apart.spares_prefix _ (by decide) (by decide)
  refine sole.congr (runs.agreesOn (fun stored stored_mem => ?_) stackUser.runUser)
    fun member member_mem => runs.agreesOn (fun stored stored_mem => ?_)
      (stackUser.status member member_mem)
  · exact (spares stored stored_mem).runUser
  · exact (spares stored stored_mem).status member member_mem

theorem RunsExecution.sole {cpu : Cpu} (sole : SoleDispatch members memory)
    (spares : ∀ region ∈ executionRegions memory list block, region.Spares members)
    {after : Scene} (runs : RunsExecution memory list exits block cpu after) :
    SoleDispatch members after.memory :=
  sole.congr (runs.agreesOn fun stored stored_mem => (spares stored stored_mem).runUser)
    fun member member_mem => runs.agreesOn fun stored stored_mem =>
      (spares stored stored_mem).status member member_mem

/-- A dispatch of a member keeps a sole dispatch and marks the member. -/
theorem Dispatches.marks (apart : UsersApart members) (sole : SoleDispatch members memory)
    (user_mem : user ∈ members) (wrapped : Address.wrap user = user)
    (flag : ∀ flag ∈ memory.flagRegions user, flag.Spares members) {completion : Completion}
    (dispatches : Dispatches memory user completion after) : Marks members completion after := by
  have running : after.runningUser = user := dispatches.running.trans wrapped
  refine ⟨⟨by rwa [running], fun member member_mem another => ?_⟩, fun dispatched => ?_⟩
  · rw [running] at another
    by_cases same : member = memory.runningUser
    · rw [same] at another ⊢
      exact dispatches.released (Ne.symm another)
    · have inside : ∀ block, (Region.ofField block Vmblok.dispatchStatus).Within
          (vmblokRegion block) := fun block => vmblok_within block (by decide)
      have prefixApart := (apart.prefixApart member_mem).mono_right (inside member)
      have userApart :=
        (apart.others user_mem member_mem (Ne.symm another)).mono_right (inside member)
      have kept : after.AgreesOn memory (.ofField member Vmblok.dispatchStatus) := by
        refine dispatches.kept _ ?_
        simp only [handoverRegions, loadRegions, List.forall_mem_append, List.forall_mem_cons]
        have runningApart := (apart.others sole.running member_mem (Ne.symm same)).parts
          (inside _) (inside member)
        refine ⟨⟨runningApart, ?_, ?_, ?_, by simp⟩,
          fun region region_mem => (flag region region_mem).status member member_mem,
          startRegions_apart prefixApart userApart⟩
        all_goals exact prefixApart.mono (prefix_within (by decide))
      rw [Memory.isDispatched_congr kept]
      exact sole.others member member_mem same
  · rw [running]
    exact dispatches.marked dispatched

end

theorem QueueLeads.wrapped {anchor member : UInt32} (leads : QueueLeads memory anchor member user)
    (isAddress : Address.wrap member = member) : Address.wrap user = user := by
  induction leads with
  | here _ _ => exact isAddress
  | next _ _ _ ih => exact ih (Address.wrap_wrap _)

theorem FirstRunnable.wrapped (isFirst : FirstRunnable memory list user) :
    Address.wrap user = user :=
  QueueLeads.wrapped isFirst (Address.wrap_wrap _)

variable (scene) in
/-- The selection keeps a sole dispatch. -/
theorem select_sole (isFaithful : known.faithful) (apart : UsersApart members)
    (current_mem : Address.wrap (scene.cpu.general.read 11) ∈ members)
    (sole : SoleDispatch members scene.memory)
    (spares : SelectionSpares members (charged scene).memory list) :
    (select list exits).Achieves known
      (fun completion after => Marks members completion after.memory) scene := by
  have charges : SoleDispatch members (charged scene).memory :=
    sole.put (apart.spares_vmblok current_mem _ (by decide) (by decide)) _
  have completes : ∀ completion (after : Scene), CompletesSole members completion after →
      Marks members completion after.memory := fun _ _ completes => completes.marks
  refine select_cases isFaithful list exits (fun _ _ => trivial) ?_ ?_ ?_
  · rintro block isFirst queued
    have work := spares.work
    rw [workRegions, isFirst, if_pos queued] at work
    refine (runRequest_runs isFaithful block).mono ?_ fun _ _ => id
    rintro completion after ⟨completed, runs⟩
    exact completes _ _ ⟨completed, runs.sole apart charges work⟩
  · rintro noRequest block isFirst queued
    have work := spares.work
    rw [workRegions, noRequest, isFirst, if_neg (not_not_intro rfl), if_pos queued] at work
    refine (runExecution_runs isFaithful list exits block).mono ?_ fun _ _ => id
    rintro completion after ⟨completed, runs⟩
    exact completes _ _ ⟨completed, runs.sole charges work⟩
  · intro _ _
    refine ⟨fun _ => trivial, (takeExit_sole _ charges).mono completes fun _ _ => id, ?_⟩
    intro user systemUser isFirst
    obtain ⟨user_mem, flag⟩ := spares.user user isFirst
    have layout : HandoverLayout (charged scene).memory user :=
      .ofUsersApart apart charges.running user_mem fun region region_mem =>
        ⟨(flag region region_mem).runUser, (flag region region_mem).status _ charges.running⟩
    refine (dispatchUser_dispatches isFaithful list exits systemUser layout).mono ?_ fun _ _ => id
    exact fun completion after dispatches =>
      dispatches.marks apart charges user_mem isFirst.wrapped flag

/-- The departure of a member keeps a sole dispatch. -/
theorem depart_sole (apart : UsersApart members)
    (current_mem : Address.wrap (scene.cpu.general.read 11) ∈ members)
    (sole : SoleDispatch members scene.memory) :
    (depart list exits).Ensures known (fun _ _ => True)
      (fun _ after => SoleDispatch members after.memory) scene := by
  have leaves : ∀ (place : Field UInt32) (before : Scene), SoleDispatch members before.memory →
      (takeExit exits place).Achieves known (fun _ after => SoleDispatch members after.memory)
        before :=
    fun place _ sole => (takeExit_sole place sole).mono (fun _ _ => And.right) fun _ _ => id
  simp only [depart, currentUser, ensures_bind, ensures_general, ensures_pure]
  refine skipsScheduler_ensures _ list fun skips => ?_
  simp only [ensures_ite, ensures_bind, ensures_pure]
  refine ⟨fun _ => sole, fun _ => ensures_fetch _ _ fun operating _ => ?_⟩
  refine ⟨fun _ => leaves _ scene sole, fun _ => ensures_fetch _ _ fun queue _ => ?_⟩
  refine ⟨fun _ => leaves _ scene sole, fun _ => ?_⟩
  have noted := (sole.put (apart.spares_vmblok current_mem Vmblok.queueStatus
    (by decide) (by decide)) (queue &&& ~~~Vmblok.consoleRead)).put
      (apart.spares_vmblok current_mem Vmblok.operatingStatus (by decide) (by decide))
      (operating &&& ~~~Vmblok.killed)
  simp only [logOff, ensures_bind, ensures_store]
  refine fun _ _ => ensures_fetch _ _ fun run _ => ?_
  simp only [ensures_ite, ensures_bind, ensures_pure, ensures_store]
  exact ⟨fun _ => noted, fun _ _ => leaves _ _
    (noted.put (apart.spares_vmblok current_mem _ (by decide) (by decide)) _)⟩

variable (scene) in
/-- The departure of a member with the selection behind it keeps a sole dispatch. -/
theorem departAndSelect_sole (isFaithful : known.faithful) (apart : UsersApart members)
    (clean : scene.handOffs = [])
    (current_mem : Address.wrap (scene.cpu.general.read 11) ∈ members)
    (sole : SoleDispatch members scene.memory)
    (spares : ∀ departed,
      Departs scene.memory (Address.wrap (scene.cpu.general.read 11)) departed →
      SelectionSpares members (departed.put (Address.wrap (scene.cpu.general.read 11))
        Vmblok.totalTime scene.cpu.cpuTimer.toUInt64) list) :
    (departAndSelect list exits).Achieves known
      (fun completion after => Marks members completion after.memory) scene := by
  simp only [Achieves, departAndSelect, ensures_bind]
  refine ((depart_ensures list exits clean).and (depart_sole apart current_mem sole)).mono ?_
    fun _ _ _ => trivial
  rintro departure after ⟨rfl | ⟨rfl, -, sameCpu, departs⟩, sole⟩
  · exact (ensures_pure _).mpr ⟨sole, nofun⟩
  · refine select_sole after isFaithful apart (by rwa [sameCpu]) sole ?_
    have spares := spares after.memory (departs isFaithful)
    rwa [← sameCpu] at spares

end Dispatcher

section Calls

variable {Machine Refusal : Type} {policy : Policy} {callouts : Callouts Machine Refusal}
  {system : System Machine} {call : Call}

open Dispatcher

/-- What a call of the dispatcher's assists stores spares the marks where it does not mean to change
them. -/
inductive Call.SparesMarks (callouts : Callouts Machine Refusal) (members : List UInt32)
    (machine : Machine) (memory : Memory) : Call → Prop where
  /-- The count of entries and the interval timer of the running user lie elsewhere. -/
  | enter {cpu : Cpu} {list exits : UInt32}
      (entries : (Region.ofField (Address.wrap list) EntryList.entries).Spares members)
      (timer : ∀ real, (Knowledge.ofMachine callouts machine).translates (cpu.control.read 0)
        (memory.get memory.runningUser Vmblok.segmentTable) PrefixArea.intervalTimer.offset
          (.ok real) →
        (Region.ofField real (Field.first : Field UInt32)).Spares members) :
      SparesMarks callouts members machine memory ⟨cpu, .disp0 list exits⟩
  /-- The selection stores elsewhere, wherever it looks for work and users. -/
  | select {cpu : Cpu} {request : Request} {list : UInt32}
      (selects : request.dispatchList? = some list)
      (spares : ∀ searched, Searches memory cpu request searched →
        SelectionSpares members searched list) :
      SparesMarks callouts members machine memory ⟨cpu, request⟩

/-- The call is one of the dispatcher's assists for a member, spares the marks, and is not refused a
store. -/
structure Call.Serves (policy : Policy) (callouts : Callouts Machine Refusal)
    (view : StorageView callouts) (members : List UInt32) (system : System Machine)
    (call : Call) : Prop where
  current : Address.wrap (call.cpu.general.read 11) ∈ members
  spares : call.SparesMarks callouts members system.machine (view.memory system.machine)
  unrefused : (system.call policy callouts call).Answered ∨
    { system with cpu := call.cpu }.storesMade policy callouts call.request = []

/-- An answered call for a member keeps a sole dispatch, and marks the running user when it is a
dispatch. -/
theorem Call.SparesMarks.settles (view : StorageView callouts) (apart : UsersApart members)
    (sole : SoleDispatch members (view.memory system.machine))
    (current : Address.wrap (call.cpu.general.read 11) ∈ members)
    (spares : call.SparesMarks callouts members system.machine (view.memory system.machine))
    (answered : (system.call policy callouts call).Answered) :
    call.Settles view system (fun _ _ => True)
      (fun completion after => Marks members completion after.memory)
      (system.call policy callouts call) := by
  cases spares with
  | @enter cpu list exits entries timer =>
      have entered : (Dispatcher.enter (Address.wrap list) (Address.wrap exits)).Achieves
          (.ofMachine callouts system.machine) (CompletesSole members)
          { memory := view.memory system.machine, cpu } :=
        Dispatcher.enter_sole _ apart sole.running timer trivial current entries sole
      refine System.call_settles view rfl answered (entered.mono ?_ fun _ _ => id)
      exact fun _ _ completes => completes.marks
  | @select cpu request list selects spares =>
      cases request with
      | disp1 word exits =>
          cases selects
          have selected : (departAndSelect (Address.wrap word) (Address.wrap exits)).Achieves
              (.ofMachine callouts system.machine)
              (fun completion after => Marks members completion after.memory)
              { memory := view.memory system.machine, cpu } :=
            departAndSelect_sole _ trivial apart rfl current sole
              fun departed departs => spares _ (.departAndSelect word exits departs)
          exact System.call_settles view rfl answered selected
      | disp2 word exits =>
          cases selects
          have selected : (Dispatcher.select (Address.wrap word) (Address.wrap exits)).Achieves
              (.ofMachine callouts system.machine)
              (fun completion after => Marks members completion after.memory)
              { memory := view.memory system.machine, cpu } :=
            Dispatcher.select_sole _ trivial apart current sole
              (spares _ (.select word exits))
          exact System.call_settles view rfl answered selected
      | _ => nomatch selects

/-- An instruction that stores nothing spares every region. -/
theorem System.spares_of_noStores {request : Request}
    (noStores : system.storesMade policy callouts request = []) {region : Region} :
    system.Spares policy callouts request region := by
  intro callout callout_mem
  have noRun := List.filterMap_eq_nil_iff.mp noStores callout callout_mem
  cases callout with
  | writeReal _ _ => nomatch noRun
  | readReal _ _ | storageKey _ | translate _ _ _ | purgeTlb => trivial

/-- After the call none but the running user is marked as dispatched, and after a dispatch the
running user is. -/
structure Call.LeavesSole (policy : Policy) (callouts : Callouts Machine Refusal)
    (view : StorageView callouts) (members : List UInt32) (system : System Machine)
    (call : Call) : Prop where
  sole : SoleDispatch members (view.memory (system.call policy callouts call).system.machine)
  dispatched : (system.call policy callouts call).result = .ok .dispatched →
    ∀ member ∈ members,
      (view.memory (system.call policy callouts call).system.machine).IsDispatched member ↔
        member = (view.memory (system.call policy callouts call).system.machine).runningUser

theorem Call.Serves.leavesSole {view : StorageView callouts} (apart : UsersApart members)
    (sole : SoleDispatch members (view.memory system.machine))
    (serves : call.Serves policy callouts view members system) :
    call.LeavesSole policy callouts view members system := by
  have unchanged : ∀ {after : Memory}, after = view.memory system.machine →
      SoleDispatch members after := by
    rintro _ rfl
    exact sole
  by_cases answered : (system.call policy callouts call).Answered
  · cases serves.spares.settles view apart sole serves.current answered with
    | stopped _ unperformed _ same =>
        refine ⟨unchanged same, fun dispatched => ?_⟩
        rcases unperformed with result | result <;> simp [result] at dispatched
    | left _ _ _ unperformed same =>
        exact ⟨unchanged same, fun dispatched => by simp [unperformed] at dispatched⟩
    | performed completion final marks completed _ stored =>
        refine ⟨by rw [stored]; exact marks.sole, fun dispatched member member_mem => ?_⟩
        rw [stored]
        have isDispatch : completion = .dispatched :=
          System.outcome_injective (Except.ok.inj (completed.symm.trans dispatched))
        exact marks.sole.isDispatched_iff (marks.marked isDispatch) member_mem
  · have kept : ∀ region,
        (view.memory (system.call policy callouts call).system.machine).AgreesOn
          (view.memory system.machine) region := fun region =>
      view.agreesOn_perform (System.spares_of_noStores (serves.unrefused.resolve_left answered))
    refine ⟨sole.congr (kept _) fun _ _ => kept _, fun dispatched => ?_⟩
    simp [Response.Answered, dispatched, Except.isOk, Except.toBool] at answered

namespace System

/-- Along every run of the dispatcher's assists none but the running user is marked as dispatched,
and after a dispatch it is marked. -/
theorem dispatched_alone (view : StorageView callouts) {calls : List Call}
    (apart : UsersApart members) (sole : SoleDispatch members (view.memory system.machine))
    (serves : system.Throughout policy callouts (fun _ _ _ => ())
      (fun _ before call => call.Serves policy callouts view members before) () calls) :
    system.Throughout policy callouts (fun _ _ _ => ())
        (fun _ before call => call.LeavesSole policy callouts view members before) () calls ∧
      SoleDispatch members (view.memory (system.callAll policy callouts calls).machine) := by
  have step : ∀ (_ : Unit) (before : System Machine), ∀ call ∈ calls,
      SoleDispatch members (view.memory before.machine) →
      call.Serves policy callouts view members before →
      call.LeavesSole policy callouts view members before ∧
        SoleDispatch members (view.memory (before.call policy callouts call).system.machine) :=
    fun _ _ _ _ sole serves => ⟨serves.leavesSole apart sole, (serves.leavesSole apart sole).sole⟩
  exact throughout_of_invariant step sole serves

/-- A system in which the user at 9000 runs, while the one at 7000 waits for the processor. -/
def busySystem : System Memory where
  registry := Registry.initial true false
  cpu := Cpu.initial
  machine :=
    ((((((((((((Memory.zero.put 0x6000 DispatchList.executionQueue 0x6000).put
      0x6000 DispatchList.requestQueue 0x6000).put
      0x6000 DispatchList.inQueue 0x6400).put
      0x6400 Vmblok.nextInQueue 0x7000).put
      0x7000 Vmblok.nextInQueue 0x9000).put
      0x9000 Vmblok.nextInQueue 0x6400).put
      0x7000 Vmblok.dispatchStatus Vmblok.mayRun).put
      0x7000 Vmblok.assistControl 0x7c00).put
      0x9000 Vmblok.dispatchStatus (Vmblok.mayRun ||| Vmblok.dispatched)).put
      PrefixArea.base PrefixArea.cpStatus PrefixArea.cpRuns).put
      PrefixArea.base PrefixArea.runUser 0x9000).put
      PrefixArea.base PrefixArea.lastUser 0x9000)

/-- The running user is charged and then leaves the processor to the other one. -/
def busyCalls : List Call :=
  [Call.forUser 0x9000 (.disp0 0x5000 0x5800), Call.forUser 0x9000 (.disp1 0x6000 0x6800)]

theorem busyCalls_serve :
    busySystem.Throughout .splitKeys Memory.callouts (fun _ _ _ => ())
      (fun _ before call => call.Serves .splitKeys Memory.callouts Memory.storageView
        [0x7000, 0x9000] before) () busyCalls := by
  refine ⟨⟨by decide, .enter (by decide +kernel) ?_, .inl (by decide +kernel)⟩,
    ⟨by decide, .select rfl ?_, .inl (by decide +kernel)⟩, trivial⟩
  · rintro real ⟨machine, found, -, answered, isReal⟩
    cases answered
    cases isReal
    decide +kernel
  · intro searched searches
    cases searches with
    | departAndSelect _ _ departs =>
        cases departs
        · exact @SelectionSpares.of_head _ _ _ 0x7000 (by decide +kernel)
        · exact @SelectionSpares.of_head _ _ _ 0x7000 (by decide +kernel)

/-- The mark goes from the one user to the other. -/
theorem busySystem_alone :
    busySystem.Throughout .splitKeys Memory.callouts (fun _ _ _ => ())
        (fun _ before call => call.LeavesSole .splitKeys Memory.callouts Memory.storageView
          [0x7000, 0x9000] before) () busyCalls ∧
      SoleDispatch [0x7000, 0x9000]
        (Memory.storageView.memory
          (busySystem.callAll .splitKeys Memory.callouts busyCalls).machine) ∧
      busySystem.machine.IsDispatched 0x9000 ∧
      (busySystem.callAll .splitKeys Memory.callouts busyCalls).machine.IsDispatched 0x7000 := by
  have sole : SoleDispatch [0x7000, 0x9000] (Memory.storageView.memory busySystem.machine) :=
    ⟨by decide +kernel, by decide +kernel⟩
  obtain ⟨leaves, final⟩ :=
    dispatched_alone Memory.storageView (by decide +kernel) sole busyCalls_serve
  exact ⟨leaves, final, by decide +kernel, by decide +kernel⟩

end System

end Calls

end Assist370
