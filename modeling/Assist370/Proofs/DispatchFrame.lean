import Assist370.Proofs.LogOff

/-!
# The frame of a dispatch

A dispatch looks at seven flag bytes of its user early, stores five of them back late and makes its
other stores in between. All the same it changes no more of storage than the time of the user that
is charged, the mark of the user that had the processor, a few bits and the virtual PSW in the
VMBLOK of its own user, the pending flag of that user's MICBLOK, and the words of the prefixed
storage area that tell of a running user (`System.dispatch_frame`).
-/

namespace Assist370

namespace Bytes

theorem ofDoubleword_doubleword (bytes : Bytes 8) : ofDoubleword (doubleword bytes) = bytes := by
  apply Vector.ext
  intro index index_lt
  apply UInt8.toBitVec_inj.mp
  apply BitVec.eq_of_getLsbD_eq
  intro bit bit_lt
  obtain rfl | rfl | rfl | rfl | rfl | rfl | rfl | rfl : index = 0 ∨ index = 1 ∨ index = 2 ∨
      index = 3 ∨ index = 4 ∨ index = 5 ∨ index = 6 ∨ index = 7 := by omega
  all_goals simp [ofDoubleword, doubleword] <;> grind

end Bytes

instance : Stored.Lossless UInt64 :=
  ⟨Bytes.ofDoubleword_doubleword⟩

namespace Memory

variable {α : Type} [Stored α] {memory other third : Memory} {regions : List Region}

/-- The memory is as another one but for some regions. -/
def AgreesBut (memory other : Memory) (regions : List Region) : Prop :=
  ∀ place, (∀ region ∈ regions, ¬region.Contains place) → memory.byte place = other.byte place

namespace AgreesBut

theorem refl (memory : Memory) (regions : List Region) : memory.AgreesBut memory regions :=
  fun _ _ => rfl

theorem trans (first : memory.AgreesBut other regions) (second : other.AgreesBut third regions) :
    memory.AgreesBut third regions :=
  fun place outside => (first place outside).trans (second place outside)

theorem mono {outer : List Region} (same : memory.AgreesBut other regions)
    (included : regions ⊆ outer) : memory.AgreesBut other outer :=
  fun place outside => same place fun region region_mem => outside region (included region_mem)

theorem agreesOn {region : Region} (same : memory.AgreesBut other regions)
    (apart : ∀ changed ∈ regions, changed.Apart region) : memory.AgreesOn other region :=
  fun place inRegion => same place fun changed changed_mem inChanged =>
    apart changed changed_mem place inChanged inRegion

/-- A store into one of the regions changes nothing else. -/
theorem put {block : UInt32} {field : Field α} (same : memory.AgreesBut other regions)
    (listed : .ofField block field ∈ regions) (value : α) :
    (memory.put block field value).AgreesBut other regions := by
  intro place outside
  refine Eq.trans ?_ (same place outside)
  exact put_agreesOn value (Region.apart_one (outside _ listed)) place (Region.contains_one.mpr rfl)

theorem store (same : memory.AgreesBut other regions) (address : UInt32) (bytes : List UInt8) :
    (memory.store address bytes).AgreesBut (other.store address bytes) regions := by
  induction bytes generalizing memory other address with
  | nil => exact same
  | cons byte bytes ih =>
      refine ih (fun place outside => ?_) (address + 1)
      rw [byte_set, byte_set, same place outside]

end AgreesBut

/-- To store what the other memory holds there changes nothing in the comparison with it. -/
theorem AgreesBut.putBack [Stored.Lossless α] {block : UInt32} {field : Field α} {value : α}
    (stands : value = other.get block field) (same : memory.AgreesBut other regions) :
    (memory.put block field value).AgreesBut other regions := by
  have stored : (memory.put block field value).AgreesBut (other.put block field value) regions :=
    same.store (block + field.offset) (Stored.encode value).toList
  rwa [stands, other.put_get, ← stands] at stored

end Memory

namespace Dispatcher

open Microcode

variable {known : Knowledge} {scene : Scene} {user : UInt32}

/-- The parts of the prefixed storage area that a dispatch changes. -/
def changedPrefixParts : List (UInt32 × Nat) :=
  [(PrefixArea.ioOldMask.offset, 1), (PrefixArea.intervalTimer.offset, 4),
    (PrefixArea.runPsw.offset, 8), (PrefixArea.runUser.offset, 4), (PrefixArea.lastUser.offset, 4),
    (PrefixArea.runControl0.offset, 4), (PrefixArea.runControl1.offset, 4),
    (PrefixArea.cpStatus.offset, 1), (PrefixArea.processorStatus.offset, 1),
    (PrefixArea.quantum.offset, 4), (PrefixArea.stackUser.offset, 4),
    (PrefixArea.problemStart.offset, 8)]

/-- The parts of the VMBLOK of its user that a dispatch changes. -/
def changedUserParts : List (UInt32 × Nat) :=
  [(Vmblok.psw.offset, 8), (Vmblok.assistFlags.offset, 1), (Vmblok.dispatchStatus.offset, 1),
    (Vmblok.extendedStatus.offset, 1)]

/-- What a start changes. -/
def changedRegions (user : UInt32) : List Region :=
  partRegions PrefixArea.base changedPrefixParts ++ partRegions user changedUserParts

theorem honourPurge_purges (isFaithful : known.faithful) {post : Unit → Scene → Prop}
    (achieves : ∀ purge, post () { scene with
      memory := scene.memory.put PrefixArea.base PrefixArea.processorStatus
        (scene.memory.get PrefixArea.base PrefixArea.processorStatus &&&
          ~~~PrefixArea.purgeRequired)
      purge }) :
    honourPurge.Achieves known post scene := by
  have bits : ∀ status : UInt8, status &&& PrefixArea.purgeRequired = 0 →
      status &&& ~~~PrefixArea.purgeRequired = status := by
    rintro ⟨bits⟩
    revert bits
    decide +kernel
  simp only [Achieves, honourPurge, ensures_bind, ensures_fetch_iff isFaithful, ensures_ite,
    ensures_store, ensures_purgeTlb, ensures_pure, bne_iff_ne, not_not]
  refine ⟨fun _ _ => achieves true, fun off => ?_⟩
  have unpurged := achieves scene.purge
  rwa [bits _ off, Memory.put_get] at unpurged

section

variable {base : Memory} {regions : List Region} (included : changedRegions user ⊆ regions)

include included

theorem put_prefixPart {α : Type} [Stored α] {memory : Memory} {field : Field α}
    (part_mem : (field.offset, Stored.size α) ∈ changedPrefixParts) (value : α)
    (same : memory.AgreesBut base regions) :
    (memory.put PrefixArea.base field value).AgreesBut base regions :=
  same.put (included (List.mem_append_left _ (List.mem_map_of_mem part_mem))) value

theorem put_userPart {α : Type} [Stored α] {memory : Memory} {field : Field α}
    (part_mem : (field.offset, Stored.size α) ∈ changedUserParts) (value : α)
    (same : memory.AgreesBut base regions) :
    (memory.put user field value).AgreesBut base regions :=
  same.put (included (List.mem_append_right _ (List.mem_map_of_mem part_mem))) value

/-- The registers of a user are taken up without a change of its VMBLOK. -/
theorem takeUp_frame (isFaithful : known.faithful) (controls : TranslationControls)
    (same : scene.memory.AgreesBut base regions) :
    (takeUp user controls).Achieves known
      (fun _ after => after.memory.AgreesBut base regions ∧
        after.cpu.cpuTimer = scene.cpu.cpuTimer ∧
        after.memory.get PrefixArea.base PrefixArea.processorStatus =
          scene.memory.get PrefixArea.base PrefixArea.processorStatus &&&
            ~~~PrefixArea.purgeRequired) scene := by
  simp only [Achieves, takeUp, startClocks, ensures_bind, ensures_fetch_iff isFaithful,
    ensures_store, ensures_modify]
  intro _ _ _ _
  refine fetchRow_ensures isFaithful _ _ _ fun _ => ?_
  refine honourPurge_purges isFaithful fun purge => ⟨?_, rfl, ?_⟩
  · iterate 6 refine put_prefixPart included (by decide) _ ?_
    exact same
  · simp (disch := decide) only [Memory.get_put_field, Memory.get_put_self]

/-- The status of a user that is started has bytes that stand in storage, and the CPU timer shows
the total time of the user. -/
structure StandsIn (memory : Memory) (timer : Int64) (user : UInt32) (status : UserStatus) :
    Prop where
  run : status.run = memory.get user Vmblok.runStatus
  processor : status.processor = memory.get user Vmblok.processorStatus
  operating : status.operating = memory.get user Vmblok.operatingStatus
  time : timer.toUInt64 = memory.get user Vmblok.totalTime

theorem storeBack_frame (isFaithful : known.faithful) {status : UserStatus}
    (stands : StandsIn base scene.cpu.cpuTimer user status) (virtual : Psw)
    (apart : prefixRegion.Apart (vmblokRegion user)) (same : scene.memory.AgreesBut base regions) :
    (storeBack user status virtual).Achieves known
      (fun _ after => after.memory.AgreesBut base regions ∧
        after.memory.get PrefixArea.base PrefixArea.processorStatus =
          scene.memory.get PrefixArea.base PrefixArea.processorStatus) scene := by
  simp only [Achieves, storeBack, UserStatus.store, stopCharging, setTimerFrom, ensures_bind,
    ensures_registers, ensures_fetch_iff isFaithful, ensures_store, ensures_setTimer]
  intro _ _ _ _ _ _ _
  constructor
  · refine Memory.AgreesBut.putBack stands.time ?_
    refine put_userPart included (by decide) _ ?_
    refine Memory.AgreesBut.putBack stands.operating ?_
    refine Memory.AgreesBut.putBack stands.processor ?_
    refine put_userPart included (by decide) _ ?_
    refine Memory.AgreesBut.putBack stands.run ?_
    exact put_userPart included (by decide) _ same
  · simp (disch := decide) only [Memory.get_prefix_put apart]

theorem goAhead_frame (real : Psw) (controls : TranslationControls)
    (same : scene.memory.AgreesBut base regions) :
    (goAhead real controls).Achieves known
      (fun _ after => after.memory.AgreesBut base regions ∧
        after.memory.get PrefixArea.base PrefixArea.processorStatus =
          scene.memory.get PrefixArea.base PrefixArea.processorStatus) scene := by
  simp only [Achieves, goAhead, ensures_bind, ensures_store, ensures_modify, ensures_purgeTlb,
    ensures_pure]
  intro _ _ _
  constructor
  · iterate 3 refine put_prefixPart included (by decide) _ ?_
    exact same
  · simp (disch := decide) only [Memory.get_put_field]

/-- The start of a user changes no more than the regions that it is to change, as long as it stores
back what stands in storage. -/
theorem start_frame (isFaithful : known.faithful) (extension : UInt32) {status : UserStatus}
    (stands : StandsIn base scene.cpu.cpuTimer user status) (virtual : Psw)
    (controls : TranslationControls) (apart : prefixRegion.Apart (vmblokRegion user))
    (same : scene.memory.AgreesBut base regions) :
    (start user extension status virtual controls).Achieves known
      (fun _ after => after.memory.AgreesBut base regions ∧
        after.memory.get PrefixArea.base PrefixArea.processorStatus =
          scene.memory.get PrefixArea.base PrefixArea.processorStatus &&&
            ~~~PrefixArea.purgeRequired) scene := by
  have rest : ∀ control, (do
        store user Vmblok.assistFlags status.assists
        let real ← loadTracing user (realPsw virtual)
        let assistControl ← fetch user Vmblok.assistControl
        modify fun cpu => cpu.setControl 6 assistControl
        startAssisted user status virtual real controls).Achieves known
          (fun _ after => after.memory.AgreesBut base regions ∧
            after.memory.get PrefixArea.base PrefixArea.processorStatus =
              scene.memory.get PrefixArea.base PrefixArea.processorStatus &&&
                ~~~PrefixArea.purgeRequired)
          { scene with cpu := { scene.cpu with control } } := by
    intro control
    simp only [Achieves, ensures_bind, ensures_store]
    intro _
    refine loadTracing_achieves isFaithful user _ fun control => ?_
    simp only [ensures_fetch_iff isFaithful, ensures_modify, startAssisted_eq, ensures_bind]
    have assisted : (scene.memory.put user Vmblok.assistFlags status.assists).AgreesBut base
        regions :=
      put_userPart included (by decide) _ same
    refine (takeUp_frame included isFaithful controls assisted).mono ?_ fun _ _ => id
    rintro _ taken ⟨takenSame, sameTimer, purged⟩
    rw [Memory.get_prefix_put apart _ (by decide) (by decide)] at purged
    refine (storeBack_frame included isFaithful (sameTimer ▸ stands) virtual apart
      takenSame).mono ?_ fun _ _ => id
    rintro _ stored ⟨storedSame, kept⟩
    refine (goAhead_frame included _ controls storedSame).mono ?_ fun _ _ => id
    rintro _ final ⟨finalSame, finalKept⟩
    exact ⟨finalSame, finalKept.trans (kept.trans purged)⟩
  rw [start_eq]
  refine (ensures_ite _ _ _).mpr ⟨fun _ => ?_, fun _ => rest scene.cpu.control⟩
  exact (ensures_bind _ _).mpr (loadControls_achieves _ _ _ rest)

end

/-- The assist flags that a dispatch decides anew. -/
def decidedFlags : UInt8 :=
  AssistControl.shadowTablesFlag ||| AssistControl.virtualProblemFlag |||
    AssistControl.iskInhibitFlag ||| AssistControl.vmAssistFlag

/-- What a dispatch does with the bytes that hold other bits as well: the user is marked and its
shadow page tables are valid, its assists are decided, its virtual PSW is the same, and a purge is
required no longer. -/
structure Refreshes (memory : Memory) (user : UInt32) (after : Memory) : Prop where
  dispatch : after.get user Vmblok.dispatchStatus =
    memory.get user Vmblok.dispatchStatus ||| Vmblok.dispatched
  extended : after.get user Vmblok.extendedStatus =
    memory.get user Vmblok.extendedStatus &&& ~~~Vmblok.pagesInvalid
  assists : after.get user Vmblok.assistFlags &&& ~~~decidedFlags =
    memory.get user Vmblok.assistFlags &&& ~~~decidedFlags
  psw : after.get user Vmblok.psw = memory.get user Vmblok.psw
  processor : after.get PrefixArea.base PrefixArea.processorStatus =
    memory.get PrefixArea.base PrefixArea.processorStatus &&& ~~~PrefixArea.purgeRequired

theorem Refreshes.congr {memory other after : Memory}
    (ofUser : ∀ region ∈ partRegions user changedUserParts, other.AgreesOn memory region)
    (ofPrefix : other.AgreesOn memory (.ofField PrefixArea.base PrefixArea.processorStatus))
    (refreshes : Refreshes other user after) : Refreshes memory user after := by
  simp only [partRegions, changedUserParts, List.map_cons, List.forall_mem_cons] at ofUser
  obtain ⟨psw, assists, dispatch, extended, -⟩ := ofUser
  have psw : other.get user Vmblok.psw = memory.get user Vmblok.psw := Memory.AgreesOn.get_eq psw
  have assists : other.get user Vmblok.assistFlags = memory.get user Vmblok.assistFlags :=
    Memory.AgreesOn.get_eq assists
  have dispatch : other.get user Vmblok.dispatchStatus = memory.get user Vmblok.dispatchStatus :=
    Memory.AgreesOn.get_eq dispatch
  have extended : other.get user Vmblok.extendedStatus = memory.get user Vmblok.extendedStatus :=
    Memory.AgreesOn.get_eq extended
  exact ⟨dispatch ▸ refreshes.dispatch, extended ▸ refreshes.extended,
    assists ▸ refreshes.assists, psw ▸ refreshes.psw, ofPrefix.get_eq ▸ refreshes.processor⟩

theorem Told.agreesBut {memory told : Memory} {extension : UInt32} {virtual : Psw}
    {status assisted : UserStatus} {regions : List Region}
    (isTold : Told known memory user extension virtual status told assisted)
    (included : memory.flagRegions user ⊆ regions) : told.AgreesBut memory regions := by
  have unchanged := Memory.AgreesBut.refl memory regions
  cases isTold with
  | absent _ => exact unchanged
  | traced present _ => exact unchanged.put (included (Memory.flag_mem_flagRegions present)) _
  | assisted present _ _ _ =>
      exact unchanged.put (included (Memory.flag_mem_flagRegions present)) _

/-- A user that the MICBLOK has been told of is started with the status that it has in storage, but
for the assists and the bits that a dispatch changes. -/
theorem Told.start_refreshes {memory : Memory} {extension : UInt32} {status assisted : UserStatus}
    (isFaithful : known.faithful)
    (isTold : Told known memory user extension (memory.get user Vmblok.psw) status scene.memory
      assisted)
    (undecided : assisted.withoutDecidedAssists =
      (memory.userStatus user).asDispatched.withoutDecidedAssists)
    (time : scene.cpu.cpuTimer.toUInt64 = memory.get user Vmblok.totalTime)
    (apart : prefixRegion.Apart (vmblokRegion user))
    (flags : ∀ flag ∈ memory.flagRegions user, flag.Apart prefixRegion)
    (controls : TranslationControls) :
    (start user extension assisted (memory.get user Vmblok.psw) controls).Achieves known
      (fun _ after =>
        after.memory.AgreesBut memory (changedRegions user ++ memory.flagRegions user) ∧
          Refreshes memory user after.memory) scene := by
  obtain ⟨dispatch, run, processor, extended, operating, -, assists⟩ :=
    UserStatus.mk.inj undecided
  have told := isTold.agreesBut (List.subset_append_right (changedRegions user) _)
  have purge : scene.memory.get PrefixArea.base PrefixArea.processorStatus =
      memory.get PrefixArea.base PrefixArea.processorStatus := by
    refine (isTold.agreesOn fun present => ?_).get_eq
    exact (flags _ (Memory.flag_mem_flagRegions present)).mono_right (prefix_within (by decide))
  have frame := start_frame (List.subset_append_left _ _) isFaithful extension
    ⟨run, processor, operating, time⟩ (memory.get user Vmblok.psw) controls apart told
  refine ((frame.and (start_status apart _ _ _ _)).and
    (start_runs apart isFaithful _ _ (Psw.fits_ofBytes _) _)).mono ?_ fun _ _ _ => trivial
  rintro _ after ⟨⟨⟨same, purged⟩, marked, -⟩, starts⟩
  rw [purge] at purged
  refine ⟨same, marked.trans dispatch, starts.extendedStatus.trans extended, ?_,
    starts.virtualPsw, purged⟩
  rw [starts.assistFlags]
  exact assists

/-- The loading of a user that is dispatched changes no more than a start and the pending flag of
the MICBLOK. -/
theorem loadUser_frame (isFaithful : known.faithful) (exits : UInt32)
    (apart : prefixRegion.Apart (vmblokRegion user))
    (flags : ∀ flag ∈ scene.memory.flagRegions user, flag.Apart prefixRegion)
    (time : scene.cpu.cpuTimer.toUInt64 = scene.memory.get user Vmblok.totalTime) :
    (loadUser user exits).Achieves known
      (fun completion after => completion = .dispatched →
        after.memory.AgreesBut scene.memory (changedRegions user ++ scene.memory.flagRegions user) ∧
          Refreshes scene.memory user after.memory) scene := by
  refine loadUser_leads isFaithful exits (fun _ _ => (takeExit_goesOn _ _).achieves_dispatched) ?_
  intro told status assisted _ _ isTold undecided
  have starts := fun before (memory : before.memory = told)
      (timer : before.cpu.cpuTimer = scene.cpu.cpuTimer) =>
    @Told.start_refreshes known before user scene.memory _ status assisted isFaithful
      (memory ▸ isTold) undecided (timer ▸ time) apart flags (userControls scene.memory user)
  refine (starts _ ?_ ?_).mono (fun _ _ leaves _ => leaves) fun _ _ => id
  all_goals rfl

/-- What a dispatch of a user changes. -/
def dispatchRegions (memory : Memory) (user : UInt32) : List Region :=
  .ofField memory.runningUser Vmblok.dispatchStatus ::
    (changedRegions user ++ memory.flagRegions user)

/-- The dispatch of a user works with VMBLOKs of members, and the pending flag lies in none of
them. -/
structure DispatchBlocks (members : List UInt32) (memory : Memory) (user : UInt32) : Prop where
  apart : UsersApart members
  running : memory.runningUser ∈ members
  user_mem : user ∈ members
  flag : ∀ flag ∈ memory.flagRegions user, flag.Outside members

namespace DispatchBlocks

variable {members : List UInt32} {memory taken : Memory}

/-- The loading of the user stores into the VMBLOK of another member nowhere. -/
theorem changedRegions_apart (blocks : DispatchBlocks members memory user) {member : UInt32}
    (member_mem : member ∈ members) {region : Region} (within : region.Within (vmblokRegion member))
    (clear : member = user → ∀ changed ∈ partRegions user changedUserParts, changed.Apart region) :
    ∀ changed ∈ changedRegions user ++ memory.flagRegions user, changed.Apart region := by
  simp only [changedRegions, List.forall_mem_append]
  refine ⟨⟨partRegions_apart (by decide) ((blocks.apart.prefixApart member_mem).mono_right within),
    ?_⟩, fun flag flag_mem =>
      ((blocks.flag flag flag_mem).fromVmblok member member_mem).mono_right within⟩
  by_cases same : member = user
  · exact clear same
  · exact partRegions_apart (by decide)
      ((blocks.apart.others member_mem blocks.user_mem same).symm.mono_right within)

/-- A dispatch leaves the fields of a member alone that are none of those that it changes in the
VMBLOK of its user. -/
theorem dispatchRegions_apart (blocks : DispatchBlocks members memory user) {member : UInt32}
    (member_mem : member ∈ members) {α : Type} [Stored α] {field : Field α}
    (inside : field.offset.toNat + Stored.size α ≤ 0xc0)
    (clear : ∀ part ∈ changedUserParts, part.2 ≤ Region.distance part.1 field.offset ∧
      Stored.size α ≤ Region.distance field.offset part.1) :
    ∀ changed ∈ dispatchRegions memory user, changed.Apart (.ofField member field) := by
  have status := clear (Vmblok.dispatchStatus.offset, 1) (by simp [changedUserParts])
  refine List.forall_mem_cons.mpr
    ⟨blocks.apart.fields_apart blocks.running member_mem (by decide) inside status, ?_⟩
  refine blocks.changedRegions_apart member_mem (vmblok_within member inside) ?_
  rintro rfl
  exact partRegions_apart_part clear

theorem handover (blocks : DispatchBlocks members memory user) : HandoverLayout memory user := by
  refine .ofUsersApart blocks.apart blocks.running blocks.user_mem fun flag flag_mem => ?_
  have outside := blocks.flag flag flag_mem
  exact ⟨outside.fromPrefix.mono_right (prefix_within (by decide)),
    (outside.fromVmblok _ blocks.running).mono_right (vmblok_within _ (by decide))⟩

/-- The VMBLOK that the user is loaded from is as before the dispatch. -/
theorem vmblok_agreesOn (blocks : DispatchBlocks members memory user)
    (takes : Taken memory user taken) (slice : UInt32) :
    (taken.givenTo user slice).AgreesOn memory (vmblokRegion user) := by
  have apart := blocks.apart.prefixApart blocks.user_mem
  iterate 3 refine Memory.put_prefix_agreesOn apart _ (by decide) ?_
  cases takes with
  | same _ => exact fun _ _ => rfl
  | other another =>
      exact Memory.put_agreesOn _ ((blocks.apart.others blocks.running blocks.user_mem
        another.symm).mono (vmblok_within _ (by decide)))

/-- The status of the processors is as before the dispatch. -/
theorem processorStatus_agreesOn (blocks : DispatchBlocks members memory user)
    (takes : Taken memory user taken) (slice : UInt32) :
    (taken.givenTo user slice).AgreesOn memory
      (.ofField PrefixArea.base PrefixArea.processorStatus) := by
  refine takes.givenTo_agreesOn slice (List.forall_mem_cons.mpr ⟨?_, ?_⟩)
  · exact (blocks.apart.prefixApart blocks.running).symm.parts (vmblok_within _ (by decide))
      (prefix_within (by decide))
  · decide

end DispatchBlocks

theorem Taken.agreesBut {memory taken : Memory} (takes : Taken memory user taken) (slice : UInt32) :
    (taken.givenTo user slice).AgreesBut memory (dispatchRegions memory user) := by
  have included : changedRegions user ⊆ dispatchRegions memory user :=
    List.Subset.trans (List.subset_append_left _ _) (List.subset_cons_self _ _)
  iterate 3 refine put_prefixPart included (by decide) _ ?_
  cases takes with
  | same _ => exact .refl _ _
  | other _ => exact (Memory.AgreesBut.refl _ _).put (List.mem_cons_self ..) _

/-- What a dispatch leaves of the storage in which its user has been found. -/
structure HandoverFrame (memory : Memory) (user : UInt32) (after : Memory) : Prop
    extends Refreshes memory user after where
  same : after.AgreesBut memory (dispatchRegions memory user)
  released : user ≠ memory.runningUser →
    after.get memory.runningUser Vmblok.dispatchStatus =
      memory.get memory.runningUser Vmblok.dispatchStatus &&& ~~~Vmblok.dispatched

/-- The dispatch of a user changes no more than the loading of the user, the mark of the user that
had the processor, and what tells in the prefixed storage area who runs. -/
theorem dispatchUser_frame (isFaithful : known.faithful) (members : List UInt32)
    (list exits systemUser : UInt32) (blocks : DispatchBlocks members scene.memory user) :
    (dispatchUser list exits user systemUser).Achieves known
      (fun completion after => completion = .dispatched →
        HandoverFrame scene.memory user after.memory) scene := by
  refine dispatchUser_leads isFaithful list exits systemUser ?_
  intro taken slice before takes given time
  have apart := blocks.apart.prefixApart blocks.user_mem
  have vmblok := blocks.vmblok_agreesOn takes slice
  have processor := blocks.processorStatus_agreesOn takes slice
  have handedOver := takes.agreesBut slice
  rw [← given] at vmblok processor handedOver
  have sameFlags : before.memory.flagRegions user = scene.memory.flagRegions user :=
    Memory.flagRegions_congr fun region region_mem =>
      vmblok.mono (partRegions_within (by decide) region region_mem)
  have time : before.cpu.cpuTimer.toUInt64 = before.memory.get user Vmblok.totalTime := by
    rw [time, given, UInt64.toUInt64_toInt64]
    simp (disch := decide) only [Memory.givenTo, Memory.get_vmblok_put apart]
  have flags : ∀ flag ∈ before.memory.flagRegions user, flag.Apart prefixRegion := by
    rw [sameFlags]
    exact fun flag flag_mem => (blocks.flag flag flag_mem).fromPrefix
  refine (loadUser_frame isFaithful exits apart flags time).mono ?_ fun _ _ => id
  intro completion after leaves dispatched
  obtain ⟨same, refreshes⟩ := leaves dispatched
  rw [sameFlags] at same
  refine ⟨refreshes.congr (fun region region_mem => ?_) processor,
    (same.mono (List.subset_cons_self _ _)).trans handedOver, fun another => ?_⟩
  · exact vmblok.mono (partRegions_within (by decide) region region_mem)
  · have running := blocks.apart.prefixApart blocks.running
    have kept : after.memory.AgreesOn before.memory
        (.ofField scene.memory.runningUser Vmblok.dispatchStatus) :=
      same.agreesOn (blocks.changedRegions_apart blocks.running (vmblok_within _ (by decide))
        fun isRunning => absurd isRunning.symm another)
    rw [kept.get_eq, given, Memory.givenTo]
    simp (disch := decide) only [Memory.get_vmblok_put running]
    cases takes with
    | same isRunning => exact absurd isRunning another
    | other _ => exact Memory.get_put_self _ _ _ _

theorem select_frame (isFaithful : known.faithful) (members : List UInt32) (list exits : UInt32) :
    (select list exits).Achieves known
      (fun completion after => completion = .dispatched →
        ∃ user, FirstRunnable (charged scene).memory list user ∧
          (DispatchBlocks members (charged scene).memory user →
            after.memory.runningUser = Address.wrap user ∧
              HandoverFrame (charged scene).memory user after.memory)) scene := by
  refine select_leads list exits (fun _ => trivial) (fun _ goesOn _ => goesOn.achieves_dispatched)
    fun user systemUser isFirst _ => ?_
  have dispatches := fun blocks : DispatchBlocks members (charged scene).memory user =>
    (dispatchUser_dispatches isFaithful list exits systemUser blocks.handover).and
      (dispatchUser_frame isFaithful members list exits systemUser blocks)
  refine (achieves_of_imp fun blocks => (dispatches blocks).mono (fun _ _ => id)
    fun _ _ _ => trivial).mono ?_ fun _ _ => id
  intro _ after leaves dispatched
  refine ⟨user, isFirst isFaithful, fun blocks => ?_⟩
  obtain ⟨dispatches, frame⟩ := leaves blocks
  exact ⟨dispatches.running, frame dispatched⟩

/-- A departure goes on to the selection with storage as it was, or with the order to log the user
off taken note of for a user that is being logged off already. -/
theorem depart_achieves (isFaithful : known.faithful) (list exits : UInt32)
    {post : Departure → Scene → Prop} (leaves : ∀ after, post (.left .completed) after)
    (skips : scene.memory.SkipsScheduler (Address.wrap (scene.cpu.general.read 11)) list →
      post .dispatchNext scene)
    (chains : ¬scene.memory.SkipsScheduler (Address.wrap (scene.cpu.general.read 11)) list →
      scene.memory.IsToLogOff (Address.wrap (scene.cpu.general.read 11)) →
      scene.memory.IsLoggingOff (Address.wrap (scene.cpu.general.read 11)) →
      post .dispatchNext { scene with
        memory := scene.memory.orderTaken (Address.wrap (scene.cpu.general.read 11)) }) :
    (depart list exits).Achieves known post scene := by
  refine ensures_of_eval isFaithful default (by simp) ?_
  rw [depart_eval]
  generalize Address.wrap (scene.cpu.general.read 11) = user at *
  by_cases heeds : scene.memory.SkipsScheduler user list
  · simp only [if_pos heeds]
    exact skips heeds
  by_cases toLogOff : scene.memory.IsToLogOff user
  · by_cases loggingOff : scene.memory.IsLoggingOff user
    · simp only [if_neg heeds, if_pos toLogOff, if_pos loggingOff]
      exact chains heeds toLogOff loggingOff
    · simp only [if_neg heeds, if_pos toLogOff, if_neg loggingOff]
      exact leaves _
  · simp only [if_neg heeds, if_neg toLogOff]
    exact leaves _

end Dispatcher

namespace UsersApart

variable {members : List UInt32}

/-- Parts that are apart in a VMBLOK are apart in those of any two users. -/
theorem parts_apart (apart : UsersApart members) {user other : UInt32} (user_mem : user ∈ members)
    (other_mem : other ∈ members) {parts others : List (UInt32 × Nat)}
    (inside : ∀ part ∈ parts, part.1.toNat + part.2 ≤ 0xc0 ∧ part.1.toNat < Address.space)
    (othersInside : ∀ part ∈ others, part.1.toNat + part.2 ≤ 0xc0 ∧ part.1.toNat < Address.space)
    (clear : ∀ part ∈ parts, ∀ place ∈ others, part.2 ≤ Region.distance part.1 place.1 ∧
      place.2 ≤ Region.distance place.1 part.1) :
    ∀ region ∈ partRegions other others, ∀ stored ∈ partRegions user parts,
      stored.Apart region := by
  intro region region_mem
  by_cases same : user = other
  · obtain ⟨place, place_mem, rfl⟩ := List.mem_map.mp region_mem
    rw [same]
    exact partRegions_apart_part fun part part_mem => clear part part_mem place place_mem
  · exact partRegions_apart inside ((apart.others user_mem other_mem same).mono_right
      (partRegions_within othersInside region region_mem))

end UsersApart

namespace Request

open Dispatcher Microcode

/-- A departure that does not skip the scheduler takes note of the order to log the user off before
the next user is looked for. -/
def TakesOrder (request : Request) (memory : Memory) (user list : UInt32) : Prop :=
  request.assist = .disp1 ∧ ¬memory.SkipsScheduler user list

instance (request : Request) (memory : Memory) (user list : UInt32) :
    Decidable (request.TakesOrder memory user list) :=
  inferInstanceAs (Decidable (_ ∧ _))

/-- Memory in which the next user is looked for. -/
def searched (request : Request) (memory : Memory) (user list : UInt32) (timer : Int64) : Memory :=
  (if request.TakesOrder memory user list then memory.orderTaken user else memory).put user
    Vmblok.totalTime timer.toUInt64

/-- The parts of the VMBLOK of its user that a departure can change. -/
def departureParts : List (UInt32 × Nat) :=
  [(Vmblok.totalTime.offset, 8), (Vmblok.queueStatus.offset, 1), (Vmblok.operatingStatus.offset, 1)]

/-- What has changed when the next user is looked for. -/
def departureRegions (request : Request) (memory : Memory) (user list : UInt32) : List Region :=
  .ofField user Vmblok.totalTime ::
    if request.TakesOrder memory user list then
      [.ofField user Vmblok.queueStatus, .ofField user Vmblok.operatingStatus]
    else []

section

variable {known : Knowledge} {memory : Memory} {request : Request} {user list : UInt32}

theorem searched_agreesBut (timer : Int64) :
    (request.searched memory user list timer).AgreesBut memory
      (request.departureRegions memory user list) := by
  rw [searched, departureRegions]
  split
  · refine Memory.AgreesBut.put ?_ (by simp) _
    exact ((Memory.AgreesBut.refl _ _).put (by simp) _).put (by simp) _
  · exact (Memory.AgreesBut.refl _ _).put (by simp) _

theorem searched_agreesOn (timer : Int64) {region : Region}
    (clear : ∀ stored ∈ partRegions user departureParts, stored.Apart region) :
    (request.searched memory user list timer).AgreesOn memory region := by
  refine (searched_agreesBut timer).agreesOn fun changed changed_mem => clear changed ?_
  rw [departureRegions] at changed_mem
  split at changed_mem
  · exact changed_mem
  · rw [List.mem_singleton.mp changed_mem]
    exact List.mem_cons_self ..

/-- An instruction that selects a user achieves what its selection achieves once the user has
departed, and what holds when it completes before. -/
theorem achieves_of_selects (isFaithful : known.faithful)
    (selects : request.dispatchList? = some list) (policy : Policy) (level : UInt32) (cpu : Cpu)
    {post : Completion → Scene → Prop} (completes : ∀ after, post .completed after)
    (achieves : ∀ exits (before : Scene), before.cpu = cpu →
      (request.TakesOrder memory (Address.wrap (cpu.general.read 11)) list →
        memory.IsToLogOff (Address.wrap (cpu.general.read 11)) ∧
          memory.IsLoggingOff (Address.wrap (cpu.general.read 11))) →
      (charged before).memory =
        request.searched memory (Address.wrap (cpu.general.read 11)) list cpu.cpuTimer →
      (select list exits).Achieves known post before) :
    (request.program policy level).microcode.Achieves known post
      (.before memory (request.program policy level) cpu) := by
  cases request with
  | disp1 list exits =>
      cases selects
      have departs : (departAndSelect (Address.wrap list) (Address.wrap exits)).Achieves known post
          { memory, cpu } := by
        simp only [Achieves, departAndSelect, ensures_bind]
        refine depart_achieves isFaithful _ _ (fun after => (ensures_pure _).mpr (completes after))
          (fun skips => ?_) fun heeds toLogOff loggingOff => ?_
        · refine achieves _ { memory, cpu } rfl (fun ordered => absurd skips ordered.2) ?_
          rw [searched, if_neg fun ordered => ordered.2 skips]
          rfl
        · refine achieves _ { memory := _, cpu } rfl (fun _ => ⟨toLogOff, loggingOff⟩) ?_
          rw [searched, if_pos ⟨rfl, heeds⟩]
          rfl
      exact departs
  | disp2 list exits =>
      cases selects
      refine achieves (Address.wrap exits) { memory, cpu } rfl ?_ ?_
      · rintro ⟨departs, -⟩
        nomatch departs
      · rw [searched, if_neg]
        · rfl
        · rintro ⟨departs, -⟩
          nomatch departs
  | _ => nomatch selects

end

end Request

open Dispatcher

/-- What a dispatch leaves of the storage that the instruction has found, where the current user is
charged. -/
structure DispatchFrame (request : Request) (list current user : UInt32) (timer : Int64)
    (memory after : Memory) : Prop extends Refreshes memory user after where
  running : after.runningUser = Address.wrap user
  same : after.AgreesBut memory
    (request.departureRegions memory current list ++ dispatchRegions memory user)
  released : user ≠ memory.runningUser →
    after.get memory.runningUser Vmblok.dispatchStatus =
      memory.get memory.runningUser Vmblok.dispatchStatus &&& ~~~Vmblok.dispatched
  charged : after.get current Vmblok.totalTime = timer.toUInt64
  uncharged : user ≠ current → after.get user Vmblok.totalTime = memory.get user Vmblok.totalTime
  ordered : request.TakesOrder memory current list →
    after.get current Vmblok.operatingStatus =
        memory.get current Vmblok.operatingStatus &&& ~~~Vmblok.killed ∧
      after.get current Vmblok.queueStatus =
        memory.get current Vmblok.queueStatus &&& ~~~Vmblok.consoleRead

section

variable {members : List UInt32} {memory after : Memory} {request : Request}
  {list current user : UInt32} {timer : Int64}

namespace Dispatcher.DispatchBlocks

variable (blocks : DispatchBlocks members memory user) (current_mem : current ∈ members)

include blocks current_mem

/-- The departure leaves the parts of VMBLOKs alone that it does not change. -/
theorem searched_parts {other : UInt32} (other_mem : other ∈ members)
    (parts : List (UInt32 × Nat))
    (inside : ∀ part ∈ parts, part.1.toNat + part.2 ≤ 0xc0 ∧ part.1.toNat < Address.space)
    (clear : ∀ part ∈ Request.departureParts, ∀ place ∈ parts,
      part.2 ≤ Region.distance part.1 place.1 ∧ place.2 ≤ Region.distance place.1 part.1) :
    ∀ region ∈ partRegions other parts,
      (request.searched memory current list timer).AgreesOn memory region :=
  fun region region_mem => Request.searched_agreesOn timer
    (blocks.apart.parts_apart current_mem other_mem (by decide) inside clear region region_mem)

theorem searched_prefix {region : Region} (within : region.Within prefixRegion) :
    (request.searched memory current list timer).AgreesOn memory region :=
  Request.searched_agreesOn timer (partRegions_apart (by decide)
    ((blocks.apart.prefixApart current_mem).symm.mono_right within))

theorem searched_runningUser :
    (request.searched memory current list timer).runningUser = memory.runningUser :=
  (blocks.searched_prefix current_mem (prefix_within (by decide))).getAddress_eq

theorem searched_flagRegions :
    (request.searched memory current list timer).flagRegions user = memory.flagRegions user :=
  Memory.flagRegions_congr
    (blocks.searched_parts current_mem blocks.user_mem _ (by decide) (by decide))

theorem searched_dispatchRegions :
    dispatchRegions (request.searched memory current list timer) user =
      dispatchRegions memory user := by
  rw [dispatchRegions, dispatchRegions, blocks.searched_runningUser current_mem,
    blocks.searched_flagRegions current_mem]

theorem searched : DispatchBlocks members (request.searched memory current list timer) user where
  apart := blocks.apart
  running := (blocks.searched_runningUser current_mem).symm ▸ blocks.running
  user_mem := blocks.user_mem
  flag := (blocks.searched_flagRegions current_mem).symm ▸ blocks.flag

/-- A dispatch leaves in the VMBLOK of a member what stood there when its user was looked for, but
for what it changes in the VMBLOK of its user. -/
theorem get_member
    (same : after.AgreesBut (request.searched memory current list timer)
      (dispatchRegions (request.searched memory current list timer) user)) {member : UInt32}
    (member_mem : member ∈ members) {α : Type} [Stored α] {field : Field α}
    (inside : field.offset.toNat + Stored.size α ≤ 0xc0)
    (clear : ∀ part ∈ changedUserParts, part.2 ≤ Region.distance part.1 field.offset ∧
      Stored.size α ≤ Region.distance field.offset part.1) :
    after.get member field = (request.searched memory current list timer).get member field :=
  (same.agreesOn ((blocks.searched current_mem).dispatchRegions_apart member_mem inside
    clear)).get_eq

theorem dispatchFrame (running : after.runningUser = Address.wrap user)
    (frame : HandoverFrame (request.searched memory current list timer) user after) :
    DispatchFrame request list current user timer memory after := by
  have kept := @get_member _ _ _ _ _ _ _ timer blocks current_mem frame.same
  refine ⟨frame.toRefreshes.congr ?_ ?_, running, ?_, fun another => ?_, ?_, fun others => ?_,
    fun ordered => ?_⟩
  · exact blocks.searched_parts current_mem blocks.user_mem _ (by decide) (by decide)
  · exact blocks.searched_prefix current_mem (prefix_within (by decide))
  · have same := frame.same
    rw [blocks.searched_dispatchRegions current_mem] at same
    exact (same.mono (List.subset_append_right _ _)).trans
      ((Request.searched_agreesBut timer).mono (List.subset_append_left _ _))
  · have status : (request.searched memory current list timer).get memory.runningUser
        Vmblok.dispatchStatus = memory.get memory.runningUser Vmblok.dispatchStatus :=
      Memory.AgreesOn.get_eq (blocks.searched_parts current_mem blocks.running
          [(Vmblok.dispatchStatus.offset, 1)] (by decide) (by decide) _ (List.mem_singleton_self _))
    have released := frame.released
    rw [blocks.searched_runningUser current_mem, status] at released
    exact released another
  · rw [kept current_mem (by decide) (by decide), Request.searched, Memory.get_put_self]
  · have apart : (vmblokRegion current).Apart (.ofField user Vmblok.totalTime) :=
      (blocks.apart.others current_mem blocks.user_mem others.symm).mono_right
        (vmblok_within user (by decide))
    rw [kept blocks.user_mem (by decide) (by decide)]
    exact (Request.searched_agreesOn timer (partRegions_apart (by decide) apart)).get_eq
  · rw [kept current_mem (by decide) (by decide), kept current_mem (by decide) (by decide),
      Request.searched, if_pos ordered]
    simp (disch := decide) only [Memory.orderTaken, Memory.get_put_field, Memory.get_put_self,
      and_self]

end Dispatcher.DispatchBlocks

end

open Microcode in
theorem Request.frame_of_selects {known : Knowledge} (isFaithful : known.faithful)
    {request : Request} {list : UInt32} (selects : request.dispatchList? = some list)
    (members : List UInt32) (policy : Policy) (level : UInt32) (memory : Memory) (cpu : Cpu) :
    (request.program policy level).microcode.Achieves known
      (fun completion after => completion = .dispatched →
        (request.TakesOrder memory (Address.wrap (cpu.general.read 11)) list →
          memory.IsToLogOff (Address.wrap (cpu.general.read 11)) ∧
            memory.IsLoggingOff (Address.wrap (cpu.general.read 11))) ∧
        ∃ user, FirstRunnable
            (request.searched memory (Address.wrap (cpu.general.read 11)) list cpu.cpuTimer) list
              user ∧
          (Address.wrap (cpu.general.read 11) ∈ members → DispatchBlocks members memory user →
            DispatchFrame request list (Address.wrap (cpu.general.read 11)) user cpu.cpuTimer memory
              after.memory))
      (.before memory (request.program policy level) cpu) := by
  refine achieves_of_selects isFaithful selects policy level cpu (fun _ => nofun) ?_
  intro exits before _ ordered searched
  refine (select_frame isFaithful members list exits).mono ?_ fun _ _ => id
  intro _ after frames dispatched
  obtain ⟨user, isFirst, frames⟩ := frames dispatched
  rw [searched] at isFirst frames
  refine ⟨ordered, user, isFirst, fun current_mem blocks => ?_⟩
  obtain ⟨running, frame⟩ := frames (blocks.searched current_mem)
  exact blocks.dispatchFrame current_mem running frame

namespace System

variable {Machine Refusal : Type} {callouts : Callouts Machine Refusal}

/-- A dispatch changes nothing in storage but what tells of it: the time of the current user, the
mark of the user that had the processor, the status bits, virtual PSW and pending flag of the first
user that can run, the words of the prefixed storage area that tell of a running user, and, after a
departure for which the scheduler is not skipped, the order to log the current user off. -/
theorem dispatch_frame (policy : Policy) (view : StorageView callouts) (system : System Machine)
    {request : Request} {list : UInt32} (selects : request.dispatchList? = some list)
    (dispatched : (system.perform policy callouts request).result = .ok .dispatched)
    (members : List UInt32) :
    (request.TakesOrder (view.memory system.machine) system.currentUser list →
      (view.memory system.machine).IsToLogOff system.currentUser ∧
        (view.memory system.machine).IsLoggingOff system.currentUser) ∧
    ∃ user, FirstRunnable (request.searched (view.memory system.machine) system.currentUser list
        system.cpu.cpuTimer) list user ∧
      (system.currentUser ∈ members → DispatchBlocks members (view.memory system.machine) user →
        DispatchFrame request list system.currentUser user system.cpu.cpuTimer
          (view.memory system.machine)
          (view.memory (system.perform policy callouts request).system.machine)) := by
  have achieves := @Request.frame_of_selects .ofStorage trivial request list selects members policy
    system.registry.level (view.memory system.machine) system.cpu
  obtain ⟨final, frames, -, after⟩ := @ensures_of_completed _ _ callouts policy system request view
    .ofStorage (view.shows system.machine) (fun _ _ => trivial) _ _ achieves .dispatched dispatched
  rw [after]
  exact frames rfl

/-- A system in which the user at 9000 leaves the processor while it is being logged off, and is
ordered to be logged off once more. -/
def orderedSystem : System Memory :=
  { busySystem with
    cpu := (Call.forUser 0x9000 (.disp1 0x6000 0x6800)).cpu
    machine := (((busySystem.machine.put 0x6000 DispatchList.statusMatch 1).put
      0x9000 Vmblok.operatingStatus Vmblok.killed).put
      0x9000 Vmblok.runStatus Vmblok.loggingOff).put
      PrefixArea.base PrefixArea.processorStatus PrefixArea.purgeRequired }

theorem orderedSystem_dispatches :
    Request.TakesOrder (.disp1 0x6000 0x6800) orderedSystem.machine 0x9000 0x6000 ∧
      DispatchFrame (.disp1 0x6000 0x6800) 0x6000 0x9000 0x7000 orderedSystem.cpu.cpuTimer
        orderedSystem.machine
        (orderedSystem.perform .splitKeys Memory.callouts
          (.disp1 0x6000 0x6800)).system.machine := by
  have dispatched : (orderedSystem.perform .splitKeys Memory.callouts
      (.disp1 0x6000 0x6800)).result = .ok .dispatched :=
    Response.result_eq_ok (by decide +kernel)
  have blocks : DispatchBlocks [0x7000, 0x9000] orderedSystem.machine 0x7000 :=
    ⟨by decide +kernel, by decide +kernel, by decide, by decide +kernel⟩
  obtain ⟨-, user, isFirst, frame⟩ := @dispatch_frame _ _ Memory.callouts .splitKeys
    Memory.storageView orderedSystem (.disp1 0x6000 0x6800) 0x6000 rfl dispatched [0x7000, 0x9000]
  have isHead : user = 0x7000 := isFirst.eq_head (by decide +kernel) (by decide +kernel)
  subst isHead
  exact ⟨by decide +kernel, frame (by decide) blocks⟩

end System

end Assist370
