import Assist370.Proofs.Outcome
import Assist370.Proofs.PlainMachine
import Assist370.Proofs.Unperformed
import Assist370.Proofs.UserLoad

/-!
# The flag of pending interruptions

While the pending flag of its MICBLOK is on, the assists of a virtual machine enable no
interruption. So the flag has to be on whenever the entry of the dispatcher would find an
interruption of the dispatched user under some system mask. It is, but for the I/O interruptions
that the dispatch overlooks.
-/

namespace Assist370

open Dispatcher

namespace Memory

/-- Whether the pending flag of a MICBLOK is on. -/
def pendingFlag (memory : Memory) (micblok : UInt32) : Bool :=
  memory.get micblok flagField &&& Micblok.pendingFlag != 0

/-- The prefixed storage area, the VMBLOK and the byte with the pending flag do not overlap; only an
extended virtual machine is in extended-control mode; and what is spared are the address of the
MICBLOK and all places that tell which interruptions are pending and enabled. -/
structure DispatchLayout (memory : Memory) (spared : Region → Prop) (user micblok : UInt32) :
    Prop where
  apart : [prefixRegion, vmblokRegion user, .ofField micblok flagField].Pairwise Region.Apart
  modes : memory.inExtendedMode user = true → memory.isExtended user = true
  address : spared (micblokAddressRegion user)
  interruptions : memory.InterruptionsKept user spared

theorem DispatchLayout.mono {memory : Memory} {spared weaker : Region → Prop}
    {user micblok : UInt32} (layout : memory.DispatchLayout spared user micblok)
    (implies : ∀ region, spared region → weaker region) :
    memory.DispatchLayout weaker user micblok where
  apart := layout.apart
  modes := layout.modes
  address := implies _ layout.address
  interruptions := layout.interruptions.mono implies

theorem pendingFlag_told (memory : Memory) (micblok : UInt32) (pending : Bool) :
    (toldMemory memory micblok pending).pendingFlag micblok = pending := by
  rw [pendingFlag, flagField, toldMemory, get_put _ _ _ _ (by decide)]
  cases pending <;> rfl

end Memory

/-- The pending flag of a user that starts with its assists on is off for an interruption that the
entry of the dispatcher would find under some system mask, if and only if the dispatch overlooks
it. -/
def Scene.TellsPending (scene : Scene) (spared : Region → Prop) (user : UInt32) : Prop :=
  scene.cpu.assistControl.vmAssist = true → scene.cpu.control.read 6 &&& 7 = 0 →
    scene.memory.DispatchLayout spared user scene.cpu.assistControl.micblok →
    (((∃ mask, scene.memory.Delivers user mask) ∧
      scene.memory.pendingFlag scene.cpu.assistControl.micblok = false) ↔
        scene.memory.Overlooks user)

namespace Dispatcher

open Microcode

variable {known : Knowledge} {scene : Scene} {user : UInt32}

/-- A start from memory in which the MICBLOK has been told of pending interruptions. -/
theorem tellsPending_of_told {memory : Memory} {status : UserStatus} {virtual : Psw}
    {controls : TranslationControls} {pending : Bool} {before after : Scene}
    (startStatus : StartStatus memory user status)
    (looked : (interruptionPending user (memory.get user Vmblok.extension) status).look memory =
      some pending)
    (isStored : known.stores
      (.ofField (memory.getAddress user Vmblok.assistControl) flagField))
    (isTold : before.memory =
      toldMemory memory (memory.getAddress user Vmblok.assistControl) pending)
    (started : Started known before user status virtual controls after) :
    after.TellsPending known.Spares user := by
  intro _ aligned layout
  generalize isMicblok : memory.getAddress user Vmblok.assistControl = micblok at *
  have toldSpared : ∀ region, known.Spares region → before.memory.AgreesOn memory region := by
    intro region spares
    rw [isTold]
    exact Memory.put_agreesOn _ (spares _ isStored)
  have apart := layout.apart
  simp only [List.pairwise_cons, List.mem_cons, forall_eq_or_imp] at apart
  obtain ⟨⟨prefixVmblok, prefixFlag, -⟩, ⟨vmblokFlag, -⟩, -⟩ := apart
  have sameMicblok : after.cpu.assistControl.micblok = micblok := by
    rw [started.assistControl] at aligned
    rw [Cpu.assistControl, started.assistControl, AssistControl.micblok_ofWord aligned, ← isMicblok,
      ← Memory.getAddress_congr (toldSpared _ layout.address)]
    exact started.getAddress_assistControl prefixVmblok
  rw [sameMicblok] at prefixFlag vmblokFlag ⊢
  have flag : after.memory.pendingFlag micblok = pending := by
    rw [Memory.pendingFlag, (started.keeps _ (startRegions_apart prefixFlag vmblokFlag)).get_eq,
      ← Memory.pendingFlag, isTold, Memory.pendingFlag_told]
  have agrees : ∀ region, known.Spares region → memory.AgreesOn after.memory region :=
    fun region spares place inRegion =>
      ((started.spares region spares).trans (toldSpared region spares) place inRegion).symm
  have interruptions := layout.interruptions.mono agrees
  have samePending : memory.get user Vmblok.pending = after.memory.get user Vmblok.pending :=
    (interruptions.fields _ (by simp [Memory.interruptionRegions])).get_eq
  have sameMode : status.inExtendedMode = (after.memory.userStatus user).inExtendedMode :=
    congrArg (· &&& Vmblok.extendedMode != 0) started.extendedStatus.symm
  have sameAfter : (after.memory.userStatus user).SameModes status :=
    ⟨started.processorStatus.symm, sameMode, startStatus.modes.pending.trans samePending⟩
  have lookedAfter := (interruptions.look_interruptionPending sameAfter startStatus.modes
    layout.modes).symm.trans looked
  rw [flag]
  exact Memory.overlooks_iff sameAfter layout.modes lookedAfter

theorem tellsPending_of_unassisted {status : UserStatus} {virtual : Psw}
    {controls : TranslationControls} {before after : Scene} {spared : Region → Prop}
    (off : status.assists &&& AssistControl.vmAssistFlag = 0)
    (started : Started known before user status virtual controls after) :
    after.TellsPending spared user := by
  intro assist
  rw [started.vmAssist, off] at assist
  simp at assist

/-- Only where the prefixed storage area and the VMBLOK are apart is there anything to tell. -/
theorem tellsPending_of_apart {after : Scene} {spared : Region → Prop}
    (tells : prefixRegion.Apart (vmblokRegion user) → after.TellsPending spared user) :
    after.TellsPending spared user := by
  intro assist aligned layout
  have apart : prefixRegion.Apart (vmblokRegion user) :=
    List.rel_of_pairwise_cons layout.apart (by simp)
  exact tells apart assist aligned layout

theorem loadUser_achieves (isFaithful : known.faithful) (user exits : UInt32) :
    (loadUser user exits).Achieves known
      (fun completion after => completion = .dispatched → after.TellsPending known.Spares user)
      scene := by
  refine loadUser_leads isFaithful exits (fun _ _ => (takeExit_goesOn _ _).achieves_dispatched) ?_
  intro told status assisted off startStatus isTold _
  refine (achieves_of_imp fun apart => start_achieves apart isFaithful _ _ (Psw.fits_ofBytes _)
    _).mono (fun _ after started _ => ?_) fun _ _ => id
  refine tellsPending_of_apart fun apart => ?_
  cases isTold with
  | absent _ => exact tellsPending_of_unassisted off (started apart)
  | traced _ _ => exact tellsPending_of_unassisted off (started apart)
  | assisted present untraced looked isStored =>
      have assistedStatus :=
        (Told.assisted present untraced looked isStored).startStatus startStatus
      exact tellsPending_of_told assistedStatus looked isStored rfl (started apart)

/-- What holds of a user whenever it has been loaded, holds of it when it has been dispatched. -/
theorem dispatchUser_of_loads {exits : UInt32} {post : Scene → Prop}
    (loads : ∀ before, (loadUser user exits).Achieves known
      (fun completion after => completion = .dispatched → post after) before)
    (list systemUser : UInt32) :
    (dispatchUser list exits user systemUser).Achieves known
      (fun completion after => completion = .dispatched → post after) scene := by
  have gives : ∀ (running : Bool) (rest : UInt32) (before : Scene),
      (do
        let slice ← timeSlice list user running rest
        giveTo user slice
        loadUser user exits).Achieves known
          (fun completion after => completion = Completion.dispatched → post after) before := by
    intro running rest before
    iterate 2 refine achieves_skip fun _ _ => ?_
    exact loads _
  rw [dispatchUser]
  refine achieves_skip fun refuses _ => ?_
  refine (ensures_ite _ _ _).mpr ⟨fun _ => ?_, fun _ => ?_⟩
  · simp only [ensures_bind, ensures_handOff, ensures_decline]
  · refine achieves_skip fun runUser _ => achieves_skip fun rest before => ?_
    refine (ensures_ite _ _ _).mpr ⟨fun _ => ?_, fun _ => gives _ rest before⟩
    exact achieves_skip fun _ after => gives _ rest after

/-- Once a user is dispatched, it is the first that can run, and what holds of every user that has
been loaded holds of it. -/
theorem select_of_loads (isFaithful : known.faithful) {exits : UInt32}
    {post : UInt32 → Scene → Prop}
    (loads : ∀ user before, (loadUser user exits).Achieves known
      (fun completion after => completion = .dispatched → post user after) before)
    (list : UInt32) :
    (select list exits).Achieves known
      (fun completion after => completion = .dispatched →
        ∃ user, FirstRunnable (charged scene).memory list user ∧ post user after) scene := by
  refine select_leads list exits (fun _ => trivial) (fun _ goesOn _ => goesOn.achieves_dispatched)
    fun user systemUser isFirst _ => ?_
  refine (dispatchUser_of_loads (loads user) list systemUser).mono ?_ fun _ _ => id
  exact fun _ _ holds dispatched => ⟨user, isFirst isFaithful, holds dispatched⟩

end Dispatcher

/-- The same for an instruction that selects a user. -/
theorem Request.dispatches_of_loads {known : Knowledge} (isFaithful : known.faithful)
    {request : Request} {list : UInt32} (selects : request.dispatchList? = some list)
    {post : UInt32 → Scene → Prop}
    (loads : ∀ user exits before, (loadUser user exits).Achieves known
      (fun completion after => completion = .dispatched → post user after) before)
    (policy : Policy) (level : UInt32) (memory : Memory) (cpu : Cpu) :
    (request.program policy level).microcode.Achieves known
      (fun completion after => completion = .dispatched → ∃ user,
        (∃ searched, Searches memory cpu request searched ∧ FirstRunnable searched list user) ∧
          post user after)
      (.before memory (request.program policy level) cpu) := by
  refine Request.ensures_of_selects selects (fun _ _ _ => trivial) (fun _ => nofun) ?_
  intro exits before _ _ _ searches
  refine (select_of_loads isFaithful (loads · exits) list).mono ?_ fun _ _ => id
  intro _ after holds dispatched
  obtain ⟨user, isFirst, holds⟩ := holds dispatched
  exact ⟨user, ⟨_, searches isFaithful, isFirst⟩, holds⟩

/-- The pending flag of the user that an instruction dispatches is as the dispatch tells. -/
theorem Request.achieves_dispatched {known : Knowledge} (isFaithful : known.faithful)
    {request : Request} {list : UInt32} (selects : request.dispatchList? = some list)
    (policy : Policy) (level : UInt32) (memory : Memory) (cpu : Cpu) :
    (request.program policy level).microcode.Achieves known
      (fun completion after => completion = .dispatched → ∃ user,
        (∃ searched, Searches memory cpu request searched ∧ FirstRunnable searched list user) ∧
          after.TellsPending known.Spares user)
      (.before memory (request.program policy level) cpu) :=
  dispatches_of_loads isFaithful selects
    (fun user exits _ => loadUser_achieves isFaithful user exits) policy level memory cpu

namespace Journal

/-- Nothing has been stored into the region. -/
def Spares (journal : Journal) (region : Region) : Prop :=
  ∀ entry ∈ journal.entries, ¬region.Contains entry.1

instance (journal : Journal) (region : Region) : Decidable (journal.Spares region) :=
  decidable_of_iff (journal.entries.all fun entry => !decide (region.Contains entry.1))
    (by simp [Spares])

/-- Storage is known, and that stores go where the journal has bytes. -/
def knowledge (journal : Journal) : Knowledge where
  faithful := True
  stores := journal.Covers

theorem Spares.knowledge {journal : Journal} {region : Region} (spares : journal.Spares region) :
    journal.knowledge.Spares region := by
  intro stored covers place inStored inRegion
  obtain ⟨value, found⟩ := Option.isSome_iff_exists.mp (covers place inStored)
  obtain ⟨front, back, entries, -⟩ := List.lookup_eq_some_iff.mp found
  exact spares (Address.wrap place, value) (by simp [entries]) (Region.contains_wrap.mpr inRegion)

end Journal

variable {Machine Refusal : Type} {callouts : Callouts Machine Refusal}

theorem StorageView.shows_stores (view : StorageView callouts) (journal : Journal)
    (start : Machine) : callouts.Shows journal.knowledge view.memory start where
  keeps := (view.shows start).keeps
  fetches := (view.shows start).fetches
  translates := (view.shows start).translates

namespace System

variable {policy : Policy} {system : System Machine} {request : Request}

/-- When a user has been dispatched with its assists on, the entry of the dispatcher would find an
interruption of it under some system mask while the pending flag is off, if and only if the dispatch
has overlooked its I/O interruptions. -/
theorem overlooks_of_dispatched (view : StorageView callouts) {list : UInt32}
    (selects : request.dispatchList? = some list)
    (dispatched : (system.perform policy callouts request).result = .ok .dispatched)
    (assisted : (system.perform policy callouts request).system.cpu.assistControl.vmAssist = true)
    (aligned : (system.perform policy callouts request).system.cpu.control.read 6 &&& 7 = 0) :
    ∃ user,
      (∃ searched, Searches (view.memory system.machine) system.cpu request searched ∧
        FirstRunnable searched list user) ∧
      ((view.memory (system.perform policy callouts request).system.machine).DispatchLayout
          (system.ran policy callouts request).2.journal.Spares user
          (system.perform policy callouts request).system.cpu.assistControl.micblok →
        (((∃ mask, (view.memory
              (system.perform policy callouts request).system.machine).Delivers user mask) ∧
            (view.memory (system.perform policy callouts request).system.machine).pendingFlag
              (system.perform policy callouts request).system.cpu.assistControl.micblok = false) ↔
          (view.memory (system.perform policy callouts request).system.machine).Overlooks
            user)) := by
  have shows := view.shows_stores (system.ran policy callouts request).2.journal system.machine
  have done : (system.perform policy callouts request).result =
      .ok Completion.dispatched.outcome := dispatched
  obtain ⟨final, tells, cpu, memory⟩ := ensures_of_completed view shows (fun _ => id)
    (request.achieves_dispatched trivial selects policy system.registry.level
      (view.memory system.machine) system.cpu) done
  obtain ⟨user, isFirst, tells⟩ := tells rfl
  have control : final.committedCpu.control = final.cpu.control := by
    rw [Scene.committedCpu]
    split <;> rfl
  rw [cpu, Cpu.assistControl, control] at assisted
  rw [cpu, control] at aligned
  refine ⟨user, isFirst, ?_⟩
  rw [cpu, memory, Cpu.assistControl, control]
  exact fun layout => tells assisted aligned (layout.mono fun _ spares => spares.knowledge)

/-- A system whose first user that can run, at address 7000, is in extended-control mode and has an
I/O interruption pending on channel 0, which virtual control register 2 enables. -/
def overlookedUser : System Memory where
  registry := Registry.initial true false
  cpu :=
    { Cpu.initial with
      general := RegisterFile.zero.load 11 0x9000
      control := RegisterFile.zero.load 6 0x02000000 }
  machine :=
    ((((((((((((Memory.zero.put 0x6000 DispatchList.executionQueue 0x6000).put
      0x6000 DispatchList.requestQueue 0x6000).put
      0x6000 DispatchList.inQueue 0x6400).put
      0x6400 Vmblok.nextInQueue 0x7000).put
      0x7000 Vmblok.nextInQueue 0x6400).put
      0x7000 Vmblok.extension 0x7800).put
      0x7000 Vmblok.ioPending 0x8000).put
      0x7000 Vmblok.assistControl 0x7c00).put
      0x7000 Vmblok.psw
        { states := { extendedControl := true }, instructionAddress := 0xa000 }).put
      0x7000 Vmblok.dispatchStatus Vmblok.mayRun).put
      0x7000 Vmblok.processorStatus Vmblok.extendedMachine).put
      0x7000 Vmblok.extendedStatus Vmblok.extendedMode).put
      0x7800 (Ecblok.control.item 2) 0x80000000

/-- The system once that user has been dispatched. -/
def dispatchedUser : System Memory :=
  (overlookedUser.perform .splitKeys Memory.callouts (.disp2 0x6000 0x6800)).system

theorem overlookedUser_first {searched : Memory} {user : UInt32}
    (searches : Searches overlookedUser.machine overlookedUser.cpu (.disp2 0x6000 0x6800) searched)
    (isFirst : FirstRunnable searched 0x6000 user) : user = 0x7000 := by
  cases searches
  exact isFirst.eq_head (by decide +kernel) (by decide +kernel)

theorem dispatchedUser_controls :
    dispatchedUser.cpu.assistControl.vmAssist = true ∧
      dispatchedUser.cpu.control.read 6 &&& 7 = 0 ∧
      dispatchedUser.cpu.assistControl.micblok = 0x7c00 ∧
      dispatchedUser.machine.isExtended 0x7000 = true ∧
      dispatchedUser.machine.getAddress 0x7000 Vmblok.externalPending = 0 := by
  decide +kernel

theorem overlookedUser_pendingFlag :
    (∃ mask, dispatchedUser.machine.Delivers 0x7000 mask) ∧
      dispatchedUser.machine.pendingFlag 0x7c00 = false := by
  obtain ⟨assisted, aligned, sameMicblok, extended, noBlock⟩ := dispatchedUser_controls
  have dispatched : (overlookedUser.perform .splitKeys Memory.callouts
      (.disp2 0x6000 0x6800)).result = .ok .dispatched :=
    Response.result_eq_ok (by decide +kernel)
  have selects : (Request.disp2 0x6000 0x6800).dispatchList? = some 0x6000 := by decide
  obtain ⟨user, ⟨searched, searches, isFirst⟩, told⟩ :=
    overlooks_of_dispatched Memory.storageView selects dispatched assisted aligned
  obtain rfl := overlookedUser_first searches isFirst
  have layout : dispatchedUser.machine.DispatchLayout
      (overlookedUser.ran .splitKeys Memory.callouts (.disp2 0x6000 0x6800)).2.journal.Spares
      0x7000 dispatchedUser.cpu.assistControl.micblok := by
    rw [sameMicblok]
    have spared : (overlookedUser.ran .splitKeys Memory.callouts
        (.disp2 0x6000 0x6800)).2.journal.Spares (micblokAddressRegion 0x7000) ∧
        ∀ region ∈ dispatchedUser.machine.interruptionRegions 0x7000,
          (overlookedUser.ran .splitKeys Memory.callouts
            (.disp2 0x6000 0x6800)).2.journal.Spares region := by
      decide +kernel
    refine ⟨by decide +kernel, fun _ => extended, spared.1, spared.2, ?_⟩
    intro block chained
    rw [noBlock] at chained
    cases chained with
    | here some => exact absurd rfl some
    | next some _ => exact absurd rfl some
  have overlooks : dispatchedUser.machine.inExtendedMode 0x7000 = true ∧
      dispatchedUser.machine.waitingChannels 0x7000 &&&
        dispatchedUser.machine.virtualControl2 0x7000 ≠ 0 ∧
      dispatchedUser.machine.waitingChannels 0x7000 &&&
        dispatchedUser.machine.virtualControl0 0x7000 = 0 ∧
      dispatchedUser.machine.get 0x7000 Vmblok.pending &&& Vmblok.pagePending = 0 ∧
      dispatchedUser.machine.enabledExternal? 0x7000 = some none := by
    decide +kernel
  obtain ⟨mode, enabled, unnoticed, noPageFault, noExternal⟩ := overlooks
  have lost := (told layout).mpr ⟨mode, enabled, unnoticed, noPageFault, noExternal⟩
  refine ⟨lost.1, ?_⟩
  rw [← sameMicblok]
  exact lost.2

/-- The dispatch leaves the pending flag off, with the assists on, for an interruption that the
entry of the dispatcher finds as soon as the virtual PSW enables it. -/
theorem overlookedUser_deliverable :
    (overlookedUser.perform .splitKeys Memory.callouts (.disp2 0x6000 0x6800)).result =
        .ok .dispatched ∧
      dispatchedUser.cpu.assistControl.vmAssist = true ∧
      dispatchedUser.cpu.control.read 6 &&& 7 = 0 ∧
      dispatchedUser.machine.isExtended 0x7000 = true ∧
      dispatchedUser.machine.Delivers 0x7000 Psw.ioMask ∧
      dispatchedUser.machine.pendingFlag dispatchedUser.cpu.assistControl.micblok = false := by
  obtain ⟨assisted, aligned, -, extended, -⟩ := dispatchedUser_controls
  have found : (ioInterruptions 0x7000 (dispatchedUser.machine.maskedPsw 0x7000 Psw.ioMask)
        (dispatchedUser.machine.get 0x7000 Vmblok.processorStatus)).look dispatchedUser.machine =
      some 0x80000000 ∧
      dispatchedUser.machine.pendingFlag dispatchedUser.cpu.assistControl.micblok = false := by
    decide +kernel
  exact ⟨Response.result_eq_ok (by decide +kernel), assisted, aligned, extended,
    .io found.1 (by decide), found.2⟩

end System

end Assist370
