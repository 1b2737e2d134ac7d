import Assist370.Proofs.KeptControls
import Assist370.Proofs.PendingFlag

/-!
# Dispatches

The stores of a dispatch before it loads its user leave the blocks of that user where they are, as
long as no two blocks overlap that the dispatch works with (`Memory.BlocksApart`). So the processor
runs the user with what its control blocks hold then (`System.userRuns_or_kept`).
-/

namespace Assist370

namespace Memory

variable {α : Type} [Stored α] {memory other : Memory} {user current : UInt32} {field : Field α}

/-- The parts of a VMBLOK that tell where the other blocks of its user lie. -/
def layoutParts : List (UInt32 × Nat) :=
  [(Vmblok.processorStatus.offset, 1), (Vmblok.extension.offset, 4),
    (Vmblok.assistControl.offset, 4)]

/-- The blocks of a user lie where they do in another memory. -/
def SameLayout (memory other : Memory) (user : UInt32) : Prop :=
  ∀ region ∈ partRegions user layoutParts, memory.AgreesOn other region

theorem StartLayout.congr (layout : memory.StartLayout user) (same : other.SameLayout memory user) :
    other.StartLayout user := by
  have processor : other.get user Vmblok.processorStatus =
      memory.get user Vmblok.processorStatus :=
    AgreesOn.get_eq
      (same ⟨user + Vmblok.processorStatus.offset, 1⟩ (by simp [partRegions, layoutParts]))
  have sameExtension : other.getAddress user Vmblok.extension =
      memory.getAddress user Vmblok.extension :=
    AgreesOn.getAddress_eq
      (same ⟨user + Vmblok.extension.offset, 4⟩ (by simp [partRegions, layoutParts]))
  have sameMicblok : other.getAddress user Vmblok.assistControl =
      memory.getAddress user Vmblok.assistControl :=
    AgreesOn.getAddress_eq
      (same ⟨user + Vmblok.assistControl.offset, 4⟩ (by simp [partRegions, layoutParts]))
  refine ⟨layout.vmblok, ?_, ?_⟩
  · rw [sameMicblok]
    exact layout.flag
  · rw [isExtended, processor, sameExtension, sameMicblok]
    exact layout.shadow

theorem SameLayout.put_prefix (apart : prefixRegion.Apart (vmblokRegion user)) (value : α)
    (inside : field.offset.toNat + Stored.size α ≤ 0x380) (same : memory.SameLayout other user) :
    (memory.put PrefixArea.base field value).SameLayout other user := by
  have clear : ∀ region ∈ partRegions user layoutParts,
      region.Apart (.ofField PrefixArea.base field) :=
    partRegions_apart (by decide) (apart.mono (Dispatcher.prefix_within inside)).symm
  intro region region_mem
  exact (put_agreesOn value (clear region region_mem).symm).trans (same region region_mem)

theorem SameLayout.put_vmblok
    (others : current = user ∨ (vmblokRegion current).Apart (vmblokRegion user)) (value : α)
    (inside : field.offset.toNat + Stored.size α ≤ 0xc0)
    (clear : ∀ part ∈ layoutParts, part.2 ≤ Region.distance part.1 field.offset ∧
      Stored.size α ≤ Region.distance field.offset part.1)
    (same : memory.SameLayout other user) :
    (memory.put current field value).SameLayout other user := by
  have apart : ∀ region ∈ partRegions user layoutParts, region.Apart (.ofField current field) := by
    rcases others with rfl | apart
    · exact partRegions_apart_part clear
    · exact partRegions_apart (by decide)
        (apart.mono (Dispatcher.vmblok_within current inside)).symm
  intro region region_mem
  exact (put_agreesOn value (apart region region_mem).symm).trans (same region region_mem)

/-- Nothing overlaps that the processor is given to a user with: what the user is started with, and
the VMBLOK of the user that has the processor. -/
structure GivingLayout (memory : Memory) (user : UInt32) : Prop where
  start : memory.StartLayout user
  running : memory.getAddress PrefixArea.base PrefixArea.runUser = user ∨
    (vmblokRegion (memory.getAddress PrefixArea.base PrefixArea.runUser)).Apart (vmblokRegion user)

/-- Nothing overlaps that a dispatch of a user works with: what the processor is given to it with,
and the VMBLOK of the user that is charged. -/
structure BlocksApart (memory : Memory) (user current : UInt32) : Prop where
  giving : memory.GivingLayout user
  prefixApart : prefixRegion.Apart (vmblokRegion current)
  others : current = user ∨ (vmblokRegion current).Apart (vmblokRegion user)

theorem BlocksApart.put (blocks : memory.BlocksApart user current) (value : α)
    (inside : field.offset.toNat + Stored.size α ≤ 0xc0)
    (clear : ∀ part ∈ layoutParts, part.2 ≤ Region.distance part.1 field.offset ∧
      Stored.size α ≤ Region.distance field.offset part.1) :
    (memory.put current field value).BlocksApart user current := by
  have same : (memory.put current field value).SameLayout memory user :=
    SameLayout.put_vmblok blocks.others value inside clear fun _ _ _ _ => rfl
  have runUser : (memory.put current field value).getAddress PrefixArea.base PrefixArea.runUser =
      memory.getAddress PrefixArea.base PrefixArea.runUser :=
    congrArg Address.wrap (get_prefix_put blocks.prefixApart value inside (by decide))
  refine ⟨⟨blocks.giving.start.congr same, ?_⟩, blocks.prefixApart, blocks.others⟩
  rw [runUser]
  exact blocks.giving.running

theorem BlocksApart.departs {departed : Memory} (blocks : memory.BlocksApart user current)
    (departs : Dispatcher.Departs memory current departed) : departed.BlocksApart user current := by
  cases departs with
  | unchanged => exact blocks
  | loggedOff => exact (blocks.put _ (by decide) (by decide)).put _ (by decide) (by decide)

end Memory

namespace Dispatcher

open Microcode

variable {known : Knowledge} {scene : Scene} {user : UInt32}

theorem giveTo_achieves (isFaithful : known.faithful) {slice : UInt32}
    (layout : scene.memory.StartLayout user) {post : Unit → Scene → Prop}
    (achieves : ∀ after : Scene, after.memory.StartLayout user →
      after.memory.get PrefixArea.base PrefixArea.runUser = user →
      after.memory.get PrefixArea.base PrefixArea.lastUser = user → post () after) :
    (giveTo user slice).Achieves known post scene := by
  simp only [Achieves, giveTo, startCharging, setTimerFrom, ensures_bind, ensures_store,
    ensures_fetch_iff isFaithful, ensures_setTimer]
  intro _ _ _
  refine achieves _ (layout.congr ?_) (Memory.get_put_self _ _ _ _) ?_
  · iterate 3 refine Memory.SameLayout.put_prefix layout.vmblok _ (by decide) ?_
    exact fun _ _ _ _ => rfl
  · simp (disch := decide) only [Memory.get_put_field, Memory.get_put_self]

theorem takeFrom_achieves {runUser systemUser : UInt32} {memory : Memory}
    (others : runUser = user ∨ (vmblokRegion runUser).Apart (vmblokRegion user))
    (same : scene.memory.SameLayout memory user) :
    (takeFrom runUser user systemUser).Achieves known
      (fun _ after => after.memory.SameLayout memory user) scene := by
  simp only [Achieves, takeFrom, clearBits, ensures_bind]
  refine ensures_fetch _ _ fun status _ => (ensures_store _ _ _).mpr fun _ => ?_
  have stored : (scene.memory.put runUser Vmblok.dispatchStatus
      (status &&& ~~~Vmblok.dispatched)).SameLayout memory user :=
    same.put_vmblok others _ (by decide) (by decide)
  refine ensures_fetchAddress _ _ fun lastUser _ => ?_
  simp only [ensures_ite, ensures_bind, ensures_handOff, ensures_decline, ensures_pure]
  exact ⟨fun _ => ensures_testBits _ _ _ fun _ _ => ⟨fun _ => trivial, fun _ => stored⟩,
    fun _ => stored⟩

theorem dispatchUser_runs (isFaithful : known.faithful) (list exits systemUser : UInt32)
    (layout : scene.memory.GivingLayout user) :
    (dispatchUser list exits user systemUser).Achieves known
      (fun completion after => completion = .dispatched → UserRuns after.memory after.cpu user)
      scene := by
  have gives : ∀ (running : Bool) (rest : UInt32) (before : Scene),
      before.memory.SameLayout scene.memory user →
      (do
        let slice ← timeSlice list user running rest
        giveTo user slice
        loadUser user exits).Achieves known
          (fun completion after => completion = Completion.dispatched →
            UserRuns after.memory after.cpu user) before := by
    intro running rest before same
    have looks : (timeSlice list user running rest).Takes Action.OnlyLooks := by
      simp [timeSlice]
    simp only [Achieves, ensures_bind]
    refine looks.ensures_of_looks (fun slice => ?_) fun _ => trivial
    refine giveTo_achieves isFaithful (layout.start.congr same) ?_
    exact fun given layout runUser lastUser =>
      loadUser_runs isFaithful exits layout runUser lastUser
  simp only [Achieves, dispatchUser, ensures_bind]
  refine ensures_fetch _ _ fun refuses _ => ?_
  simp only [ensures_ite, ensures_bind, ensures_handOff, ensures_decline]
  refine ⟨fun _ => trivial, fun _ => ?_⟩
  refine ensures_fetchAddress _ _ fun runUser isRunning => ?_
  obtain rfl := isRunning isFaithful
  refine ensures_fetch _ _ fun rest _ => ?_
  have unchanged : scene.memory.SameLayout scene.memory user := fun _ _ _ _ => rfl
  refine ⟨fun _ => ?_, fun _ => ?_⟩
  · refine (takeFrom_achieves layout.running unchanged).mono (fun _ after same => ?_) fun _ _ => id
    simpa only [Achieves, ensures_bind] using gives _ rest after same
  · simpa only [Achieves, ensures_bind] using gives _ rest scene unchanged

theorem select_runs (isFaithful : known.faithful) (list exits : UInt32) :
    (select list exits).Achieves known
      (fun completion after => completion = .dispatched →
        ∃ user, FirstRunnable (charged scene).memory list user ∧
          ((charged scene).memory.GivingLayout user → UserRuns after.memory after.cpu user))
      scene := by
  refine select_leads list exits (fun _ => trivial) (fun _ goesOn _ => goesOn.achieves_dispatched)
    fun user systemUser isFirst _ => ?_
  refine (achieves_of_imp (dispatchUser_runs isFaithful list exits systemUser)).mono ?_
    fun _ _ => id
  exact fun _ _ runs dispatched => ⟨user, isFirst isFaithful, fun layout => runs layout dispatched⟩

end Dispatcher

/-- What is true of the registers that a program leaves is true of those that it is committed
with. -/
theorem UserRuns.committed {scene : Scene} {user : UInt32}
    (runs : UserRuns scene.memory scene.cpu user) :
    UserRuns scene.memory scene.committedCpu user := by
  rw [Scene.committedCpu]
  split
  · exact { runs with }
  · exact runs

open Microcode Dispatcher in
theorem Request.runs_of_selects {known : Knowledge} (isFaithful : known.faithful)
    {request : Request} {list : UInt32} (selects : request.dispatchList? = some list)
    (policy : Policy) (level : UInt32) (memory : Memory) (cpu : Cpu) :
    (request.program policy level).microcode.Achieves known
      (fun completion after => completion = .dispatched → ∃ user,
        (∃ searched, Searches memory cpu request searched ∧ FirstRunnable searched list user) ∧
          (memory.BlocksApart user (Address.wrap (cpu.general.read 11)) →
            UserRuns after.memory after.cpu user))
      (.before memory (request.program policy level) cpu) := by
  refine Request.ensures_of_selects selects (fun _ _ _ => trivial) (fun _ => nofun) ?_
  intro exits before _ sameCpu departs searches
  refine (select_runs isFaithful list exits).mono ?_ fun _ _ => id
  intro _ after runs dispatched
  obtain ⟨user, isFirst, runs⟩ := runs dispatched
  refine ⟨user, ⟨_, searches isFaithful, isFirst⟩, fun blocks => runs ?_⟩
  have departed := blocks.departs (departs isFaithful)
  rw [← sameCpu] at departed
  exact (departed.put _ (by decide) (by decide)).giving

namespace System

open Dispatcher in
/-- Once a dispatch is done, the processor runs the first user that can run with what its control
blocks hold, and the lookaside buffer has been emptied once. Any other instruction, and a dispatch
that comes to nothing, leaves control registers and lookaside buffer alone, but for what LOAD
CONTROL loads into control registers 12 and 13. -/
theorem userRuns_or_kept (policy : Policy) (callouts : Callouts Machine Refusal)
    (system : System Machine) (request : Request) :
    ((system.perform policy callouts request).result = .ok .dispatched →
      ∀ list, request.dispatchList? = some list →
        (system.calloutsMade policy callouts request).count .purgeTlb = 1 ∧
        ∀ view : StorageView callouts, ∃ user,
          (∃ searched, Searches (view.memory system.machine) system.cpu request searched ∧
            FirstRunnable searched list user) ∧
          ((view.memory system.machine).BlocksApart user
              (Address.wrap (system.cpu.general.read 11)) →
            UserRuns (view.memory (system.perform policy callouts request).system.machine)
              (system.perform policy callouts request).system.cpu user)) ∧
    ((system.perform policy callouts request).result ≠ .ok .dispatched →
      .purgeTlb ∉ system.calloutsMade policy callouts request ∧
      ∀ register, register ≠ 12 → register ≠ 13 →
        (system.perform policy callouts request).system.cpu.control.read register =
          system.cpu.control.read register) := by
  refine ⟨fun dispatched list selects => ⟨?_, fun view => ?_⟩, control_of_not_dispatched⟩
  · have conduct := perform_conduct policy callouts system request
    have done : (system.perform policy callouts request).result =
        .ok Completion.dispatched.outcome := dispatched
    obtain ⟨isDone, -⟩ := conduct.done_of_completed done
    refine conduct.count_purge done ?_
    exact ensures_of_ran (callouts.shows_constant Memory.zero system.machine) (fun _ _ => trivial)
      (request.purges_of_selects selects policy system.registry.level Memory.zero system.cpu)
      (Prod.ext isDone rfl) rfl
  · obtain ⟨final, runs, cpu, memory⟩ := @ensures_of_completed _ _ callouts policy system request
      view .ofStorage (view.shows system.machine) (fun _ _ => trivial) _ _
      (request.runs_of_selects trivial selects policy system.registry.level
        (view.memory system.machine) system.cpu) .dispatched dispatched
    obtain ⟨user, isFirst, runs⟩ := runs rfl
    refine ⟨user, isFirst, fun blocks => ?_⟩
    rw [cpu, memory]
    exact (runs blocks).committed

theorem overlookedUser_runs :
    (overlookedUser.calloutsMade .splitKeys Memory.callouts (.disp2 0x6000 0x6800)).count
        .purgeTlb = 1 ∧
      UserRuns dispatchedUser.machine dispatchedUser.cpu 0x7000 ∧
      (overlookedUser.perform .splitKeys Memory.callouts
        (.stevl 0x5000)).system.cpu.control.read 6 = overlookedUser.cpu.control.read 6 := by
  have dispatched : (overlookedUser.perform .splitKeys Memory.callouts
      (.disp2 0x6000 0x6800)).result = .ok .dispatched :=
    Response.result_eq_ok (by decide +kernel)
  have completed : (overlookedUser.perform .splitKeys Memory.callouts (.stevl 0x5000)).result =
      .ok .completed :=
    Response.result_eq_ok (by decide +kernel)
  have blocks : overlookedUser.machine.BlocksApart 0x7000
      (Address.wrap (overlookedUser.cpu.general.read 11)) :=
    { giving :=
        { start := ⟨by decide +kernel, by decide +kernel, by decide +kernel⟩
          running := .inr (by decide +kernel) }
      prefixApart := by decide +kernel
      others := .inr (by decide +kernel) }
  obtain ⟨purged, runs⟩ := (userRuns_or_kept .splitKeys Memory.callouts overlookedUser
    (.disp2 0x6000 0x6800)).1 dispatched 0x6000 (by decide)
  obtain ⟨user, ⟨searched, searches, isFirst⟩, runs⟩ := runs Memory.storageView
  obtain rfl := overlookedUser_first searches isFirst
  obtain ⟨-, kept⟩ := (userRuns_or_kept .splitKeys Memory.callouts overlookedUser
    (.stevl 0x5000)).2 (by simp [completed])
  exact ⟨purged, runs blocks, kept 6 (by decide) (by decide)⟩

end System

end Assist370
