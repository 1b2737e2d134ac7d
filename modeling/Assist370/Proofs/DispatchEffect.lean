import Assist370.Proofs.Dispatch

/-!
# What a dispatch does to storage

A dispatch takes the processor from the running user, makes another user the running one and starts
it. Once it is done, the running user is the new one, the old one is marked as dispatched no longer,
and nothing has changed outside a few regions (`Dispatcher.Dispatches`).
-/

namespace Assist370

/-- Two places of a list whose regions lie apart from each other have regions that do. -/
theorem Region.apart_of_pairwise {region : UInt32 → Region} {places : List UInt32}
    (pairwise : places.Pairwise fun place other => (region place).Apart (region other))
    {place other : UInt32} (place_mem : place ∈ places) (other_mem : other ∈ places)
    (different : place ≠ other) : (region place).Apart (region other) := by
  induction places with
  | nil => nomatch place_mem
  | cons first rest ih =>
      obtain ⟨fromFirst, restApart⟩ := List.pairwise_cons.mp pairwise
      rcases List.mem_cons.mp place_mem with rfl | place_rest <;>
        rcases List.mem_cons.mp other_mem with rfl | other_rest
      · exact absurd rfl different
      · exact fromFirst other other_rest
      · exact (fromFirst place place_rest).symm
      · exact ih restApart place_rest other_rest

/-- The prefixed storage area and the VMBLOKs of users lie apart from each other. -/
def UsersApart (users : List UInt32) : Prop :=
  (prefixRegion :: users.map vmblokRegion).Pairwise Region.Apart

instance (users : List UInt32) : Decidable (UsersApart users) :=
  inferInstanceAs (Decidable (List.Pairwise _ _))

namespace UsersApart

variable {users : List UInt32} {user other : UInt32}

theorem prefixApart (apart : UsersApart users) (user_mem : user ∈ users) :
    prefixRegion.Apart (vmblokRegion user) :=
  List.rel_of_pairwise_cons apart (List.mem_map_of_mem user_mem)

theorem others (apart : UsersApart users) (user_mem : user ∈ users) (other_mem : other ∈ users)
    (different : user ≠ other) : (vmblokRegion user).Apart (vmblokRegion other) :=
  Region.apart_of_pairwise (List.pairwise_map.mp (List.pairwise_cons.mp apart).2) user_mem
    other_mem different

end UsersApart

namespace Dispatcher

open Microcode

variable {known : Knowledge} {scene : Scene} {user : UInt32}

section

variable (apart : prefixRegion.Apart (vmblokRegion user))

include apart

/-- A user that has been started has the dispatch and run status that it was started with. -/
theorem startAssisted_status (status : UserStatus) (virtual real : Psw)
    (controls : TranslationControls) :
    (startAssisted user status virtual real controls).Achieves known
      (fun _ after => after.memory.get user Vmblok.dispatchStatus = status.dispatch ∧
        after.memory.get user Vmblok.runStatus = status.run) scene := by
  rw [startAssisted_eq]
  refine achieves_skip fun _ before => ?_
  simp only [storeBack, goAhead, UserStatus.store, stopCharging, setTimerFrom, ensures_bind,
    ensures_store, ensures_registers, ensures_setTimer, ensures_modify, ensures_purgeTlb,
    ensures_pure]
  intro _ _ _ _ _ _ _
  refine ensures_fetch _ _ fun problemTime _ _ _ _ => ?_
  simp (disch := decide) only [Memory.get_vmblok_put apart, Memory.get_put_field,
    Memory.get_put_self, and_self]

theorem start_status (extension : UInt32) (status : UserStatus) (virtual : Psw)
    (controls : TranslationControls) :
    (start user extension status virtual controls).Achieves known
      (fun _ after => after.memory.get user Vmblok.dispatchStatus = status.dispatch ∧
        after.memory.get user Vmblok.runStatus = status.run) scene := by
  rw [start_eq]
  refine (ensures_ite _ _ _).mpr ⟨fun _ => ?_, fun _ => ?_⟩
  · iterate 5 refine achieves_skip fun _ _ => ?_
    exact startAssisted_status apart _ _ _ _
  · iterate 4 refine achieves_skip fun _ _ => ?_
    exact startAssisted_status apart _ _ _ _

end

end Dispatcher

namespace Memory

/-- The byte that tells the MICBLOK of a user of pending interruptions, if the user has a
MICBLOK. -/
def flagRegions (memory : Memory) (user : UInt32) : List Region :=
  if memory.getAddress user Vmblok.assistControl = 0 then []
  else [.ofField (memory.getAddress user Vmblok.assistControl) flagField]

theorem flag_mem_flagRegions {memory : Memory} {user : UInt32}
    (present : memory.getAddress user Vmblok.assistControl ≠ 0) :
    Region.ofField (memory.getAddress user Vmblok.assistControl) flagField ∈
      memory.flagRegions user := by
  rw [flagRegions, if_neg present]
  exact List.mem_singleton_self _

/-- The user that has the processor. -/
def runningUser (memory : Memory) : UInt32 :=
  memory.getAddress PrefixArea.base PrefixArea.runUser

/-- The user is marked as dispatched. -/
def IsDispatched (memory : Memory) (user : UInt32) : Prop :=
  memory.get user Vmblok.dispatchStatus &&& Vmblok.dispatched ≠ 0

instance (memory : Memory) (user : UInt32) : Decidable (memory.IsDispatched user) :=
  inferInstanceAs (Decidable (_ ≠ _))

variable {memory other : Memory} {user : UInt32}

/-- The mark of a user stays with its dispatch status. -/
theorem isDispatched_congr
    (agrees : other.AgreesOn memory (.ofField user Vmblok.dispatchStatus)) :
    other.IsDispatched user ↔ memory.IsDispatched user := by
  rw [IsDispatched, IsDispatched, agrees.get_eq]

theorem not_isDispatched_put {status : UInt8} (isOff : status &&& Vmblok.dispatched = 0) :
    ¬(memory.put user Vmblok.dispatchStatus status).IsDispatched user := by
  rw [IsDispatched, get_put_self]
  exact not_not_intro isOff

theorem flagRegions_congr (same : other.SameLayout memory user) :
    other.flagRegions user = memory.flagRegions user := by
  have sameMicblok : other.getAddress user Vmblok.assistControl =
      memory.getAddress user Vmblok.assistControl :=
    AgreesOn.getAddress_eq
      (same ⟨user + Vmblok.assistControl.offset, 4⟩ (by simp [partRegions, layoutParts]))
  rw [flagRegions, flagRegions, sameMicblok]

/-- Memory once the processor has been given to a user with a time slice. -/
def givenTo (memory : Memory) (user slice : UInt32) : Memory :=
  ((memory.put PrefixArea.base PrefixArea.intervalTimer slice).put PrefixArea.base
    PrefixArea.lastUser user).put PrefixArea.base PrefixArea.runUser user

end Memory

namespace Dispatcher

open Microcode

variable {known : Knowledge} {scene : Scene} {user : UInt32}

theorem takeExit_achieves (exits : UInt32) (place : Field UInt32) :
    (takeExit exits place).Achieves known
      (fun completion after => completion = .completed ∧ after.memory = scene.memory) scene := by
  simp only [Achieves, takeExit, branch, ensures_bind, ensures_modify, ensures_pure]
  exact ensures_fetch _ _ fun _ _ => ⟨trivial, rfl⟩

/-- Where the loading of a user stores. -/
def loadRegions (memory : Memory) (user : UInt32) : List Region :=
  memory.flagRegions user ++ startRegions user

/-- What the loading of a user leaves: the user is marked once it is dispatched, and nothing has
changed but where the loading stores. -/
structure Loads (memory : Memory) (user : UInt32) (completion : Completion) (after : Memory) :
    Prop where
  marked : completion = .dispatched → after.IsDispatched user
  kept : ∀ region, (∀ stored ∈ loadRegions memory user, stored.Apart region) →
    after.AgreesOn memory region

theorem loadUser_loads (isFaithful : known.faithful) (exits : UInt32)
    (apart : prefixRegion.Apart (vmblokRegion user)) :
    (loadUser user exits).Achieves known
      (fun completion after => Loads scene.memory user completion after.memory) scene := by
  refine loadUser_leads isFaithful exits (fun before same => ?_) ?_
  · refine (takeExit_achieves exits _).mono ?_ fun _ _ => id
    rintro completion after ⟨rfl, memory⟩
    rw [memory, same]
    exact ⟨nofun, fun _ _ _ _ => rfl⟩
  · intro told status assisted _ _ isTold same
    have isOn : assisted.dispatch &&& Vmblok.dispatched ≠ 0 := by
      rw [(UserStatus.mk.inj same).1]
      exact asDispatched_isOn _
    refine ((start_status apart _ _ _ _).and (start_keeps user _ _ _ _)).mono ?_
      fun _ _ _ => trivial
    rintro completion after ⟨⟨status, -⟩, kept⟩
    refine ⟨fun _ => by rwa [Memory.IsDispatched, status], fun region clear => ?_⟩
    obtain ⟨flagClear, startClear⟩ := List.forall_mem_append.mp clear
    exact (kept region startClear).trans
      (isTold.agreesOn fun present => flagClear _ (Memory.flag_mem_flagRegions present))

theorem takeFrom_takes (isFaithful : known.faithful) (runUser systemUser : UInt32) :
    (takeFrom runUser user systemUser).Achieves known
      (fun _ after => after.memory = takenFrom scene.memory runUser) scene := by
  simp only [Achieves, takeFrom, clearBits, ensures_bind, ensures_fetch_iff isFaithful,
    ensures_store]
  refine fun _ => ensures_fetchAddress _ _ fun lastUser _ => ?_
  simp only [ensures_ite, ensures_bind, ensures_handOff, ensures_decline, ensures_pure]
  exact ⟨fun _ => ensures_testBits _ _ _ fun _ _ => ⟨fun _ => trivial, fun _ => rfl⟩,
    fun _ => rfl⟩

theorem giveTo_gives (isFaithful : known.faithful) (slice : UInt32) :
    (giveTo user slice).Achieves known
      (fun _ after => after.memory = scene.memory.givenTo user slice ∧
        after.cpu.cpuTimer = ((scene.memory.put PrefixArea.base PrefixArea.intervalTimer slice).get
          user Vmblok.totalTime).toInt64) scene := by
  simp only [Achieves, giveTo, startCharging, setTimerFrom, ensures_bind, ensures_store,
    ensures_fetch_iff isFaithful, ensures_setTimer]
  exact fun _ _ _ => ⟨rfl, trivial⟩

/-- Where a dispatch stores before it loads its user. -/
def handoverRegions (running : UInt32) : List Region :=
  [.ofField running Vmblok.dispatchStatus, .ofField PrefixArea.base PrefixArea.intervalTimer,
    .ofField PrefixArea.base PrefixArea.lastUser, .ofField PrefixArea.base PrefixArea.runUser]

/-- Nothing overlaps by which a dispatch tells which user runs: the prefixed storage area, the
VMBLOKs of the user and of the one that has the processor, and the flag in the user's MICBLOK. -/
structure HandoverLayout (memory : Memory) (user : UInt32) : Prop where
  vmblok : prefixRegion.Apart (vmblokRegion user)
  running : memory.runningUser = user ∨ prefixRegion.Apart (vmblokRegion memory.runningUser) ∧
    (vmblokRegion memory.runningUser).Apart (vmblokRegion user)
  flag : ∀ flag ∈ memory.flagRegions user,
    flag.Apart (.ofField PrefixArea.base PrefixArea.runUser) ∧
      flag.Apart (.ofField memory.runningUser Vmblok.dispatchStatus)

theorem HandoverLayout.ofUsersApart {users : List UInt32} {memory : Memory}
    (apart : UsersApart users) (running : memory.runningUser ∈ users) (user_mem : user ∈ users)
    (flag : ∀ flag ∈ memory.flagRegions user,
      flag.Apart (.ofField PrefixArea.base PrefixArea.runUser) ∧
        flag.Apart (.ofField memory.runningUser Vmblok.dispatchStatus)) :
    HandoverLayout memory user where
  vmblok := apart.prefixApart user_mem
  running := by
    by_cases same : memory.runningUser = user
    · exact .inl same
    · exact .inr ⟨apart.prefixApart running, apart.others running user_mem same⟩
  flag

/-- What a dispatch leaves: its user is the running one, and marked if it has been dispatched, while
the mark of another user that had the processor is gone. -/
structure Dispatches (memory : Memory) (user : UInt32) (completion : Completion) (after : Memory) :
    Prop where
  running : after.runningUser = Address.wrap user
  marked : completion = .dispatched → after.IsDispatched user
  released : user ≠ memory.runningUser → ¬after.IsDispatched memory.runningUser
  kept : ∀ region, (∀ stored ∈ handoverRegions memory.runningUser ++ loadRegions memory user,
    stored.Apart region) → after.AgreesOn memory region

section

variable {memory taken : Memory}

/-- Before a dispatch loads its user, it has taken the processor from the one that had it, unless
that is the same user. -/
inductive Taken (memory : Memory) (user : UInt32) : Memory → Prop where
  | same (isRunning : user = memory.runningUser) : Taken memory user memory
  | other (another : user ≠ memory.runningUser) :
      Taken memory user (takenFrom memory memory.runningUser)

/-- The blocks of the user stay where they are. -/
theorem Taken.sameLayout (takes : Taken memory user taken) (slice : UInt32)
    (vmblok : prefixRegion.Apart (vmblokRegion user))
    (running : memory.runningUser = user ∨
      (vmblokRegion memory.runningUser).Apart (vmblokRegion user)) :
    (taken.givenTo user slice).SameLayout memory user := by
  have unchanged : memory.SameLayout memory user := fun _ _ _ _ => rfl
  iterate 3 refine Memory.SameLayout.put_prefix vmblok _ (by decide) ?_
  cases takes with
  | same _ => exact unchanged
  | other _ => exact unchanged.put_vmblok running _ (by decide) (by decide)

theorem Taken.givenTo_agreesOn (takes : Taken memory user taken) (slice : UInt32) {region : Region}
    (clear : ∀ stored ∈ handoverRegions memory.runningUser, stored.Apart region) :
    (taken.givenTo user slice).AgreesOn memory region := by
  simp only [handoverRegions, List.forall_mem_cons] at clear
  obtain ⟨status, timer, lastUser, runUser, -⟩ := clear
  have given : (taken.givenTo user slice).AgreesOn taken region :=
    (Memory.put_agreesOn user runUser).trans
      ((Memory.put_agreesOn user lastUser).trans (Memory.put_agreesOn slice timer))
  cases takes with
  | same _ => exact given
  | other _ => exact given.trans (Memory.put_agreesOn _ status)

/-- What the loading of the user leaves after that is what the dispatch leaves. -/
theorem Loads.dispatches {slice : UInt32} {completion : Completion} {after : Memory}
    (layout : HandoverLayout memory user) (takes : Taken memory user taken)
    (loads : Loads (taken.givenTo user slice) user completion after) :
    Dispatches memory user completion after := by
  have sameLayout : (taken.givenTo user slice).SameLayout memory user :=
    takes.sameLayout slice layout.vmblok (layout.running.imp id And.right)
  have kept : ∀ region, (∀ flag ∈ memory.flagRegions user, flag.Apart region) →
      (∀ stored ∈ startRegions user, stored.Apart region) →
      after.AgreesOn (taken.givenTo user slice) region := by
    intro region flagClear startClear
    refine loads.kept region (List.forall_mem_append.mpr ⟨?_, startClear⟩)
    rwa [Memory.flagRegions_congr sameLayout]
  have runUser : after.AgreesOn (taken.givenTo user slice)
      (.ofField PrefixArea.base PrefixArea.runUser) :=
    kept _ (fun flag flag_mem => (layout.flag flag flag_mem).1)
      (startRegions_apart_ofPrefix layout.vmblok (by decide) (by decide))
  refine ⟨?_, loads.marked, fun another => ?_, fun region clear => ?_⟩
  · rw [Memory.runningUser, Memory.getAddress, runUser.get_eq, Memory.givenTo, Memory.get_put_self]
  · obtain ⟨prefixApart, vmblokApart⟩ := layout.running.resolve_left (Ne.symm another)
    have within : (Region.ofField memory.runningUser Vmblok.dispatchStatus).Within
        (vmblokRegion memory.runningUser) := vmblok_within _ (by decide)
    have status : after.AgreesOn (taken.givenTo user slice)
        (.ofField memory.runningUser Vmblok.dispatchStatus) :=
      kept _ (fun flag flag_mem => (layout.flag flag flag_mem).2)
        (startRegions_apart (prefixApart.mono_right within) (vmblokApart.mono within).symm)
    rw [Memory.isDispatched_congr status, Memory.IsDispatched, Memory.givenTo]
    simp (disch := decide) only [Memory.get_vmblok_put prefixApart]
    cases takes with
    | same isRunning => exact absurd isRunning another
    | other _ => exact Memory.not_isDispatched_put (by simp [UInt8.and_assoc])
  · obtain ⟨handover, load⟩ := List.forall_mem_append.mp clear
    obtain ⟨flagClear, startClear⟩ := List.forall_mem_append.mp load
    exact (kept region flagClear startClear).trans (takes.givenTo_agreesOn slice handover)

end

/-- A dispatch achieves what the loading of its user achieves once the processor has been taken from
the user that had it and given to the other, whose total time the CPU timer shows. -/
theorem dispatchUser_leads (isFaithful : known.faithful) (list exits systemUser : UInt32)
    {post : Completion → Scene → Prop}
    (loads : ∀ (taken : Memory) (slice : UInt32) (before : Scene),
      Taken scene.memory user taken → before.memory = taken.givenTo user slice →
      before.cpu.cpuTimer = ((taken.put PrefixArea.base PrefixArea.intervalTimer slice).get user
        Vmblok.totalTime).toInt64 →
      (loadUser user exits).Achieves known post before) :
    (dispatchUser list exits user systemUser).Achieves known post scene := by
  have gives : ∀ (running : Bool) (rest : UInt32) (before : Scene),
      Taken scene.memory user before.memory →
      (do
        let slice ← timeSlice list user running rest
        giveTo user slice
        loadUser user exits).Achieves known post before := by
    intro running rest before takes
    have looks : (timeSlice list user running rest).Takes Action.OnlyLooks := by
      simp [timeSlice]
    simp only [Achieves, ensures_bind]
    refine looks.ensures_of_looks (fun slice => ?_) fun _ => trivial
    refine (giveTo_gives isFaithful slice).mono (fun _ given gives => ?_) fun _ _ => id
    exact loads before.memory slice given takes gives.1 gives.2
  simp only [Achieves, dispatchUser, ensures_bind, ensures_fetch_iff isFaithful, ensures_ite,
    ensures_handOff, ensures_decline]
  refine ⟨fun _ => trivial, fun _ => ?_⟩
  refine ensures_fetchAddress _ _ fun runUser isRunning => ?_
  obtain rfl := isRunning isFaithful
  refine ⟨fun another => ?_, fun same => ?_⟩
  · refine (takeFrom_takes isFaithful _ systemUser).mono (fun _ after memory => ?_) fun _ _ => id
    have takes : Taken scene.memory user after.memory := by
      rw [memory]
      exact .other (by simpa [Memory.runningUser] using another)
    simpa only [Achieves, ensures_bind] using gives _ _ after takes
  · have takes : Taken scene.memory user scene.memory :=
      .same (by simpa [Memory.runningUser] using same)
    simpa only [Achieves, ensures_bind] using gives _ _ scene takes

theorem dispatchUser_dispatches (isFaithful : known.faithful) (list exits systemUser : UInt32)
    (layout : HandoverLayout scene.memory user) :
    (dispatchUser list exits user systemUser).Achieves known
      (fun completion after => Dispatches scene.memory user completion after.memory) scene := by
  refine dispatchUser_leads isFaithful list exits systemUser ?_
  intro taken slice before takes given _
  refine (loadUser_loads isFaithful exits layout.vmblok).mono (fun _ _ loads => ?_) fun _ _ => id
  rw [given] at loads
  exact loads.dispatches layout takes

end Dispatcher

end Assist370
