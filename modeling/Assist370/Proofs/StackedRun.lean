import Assist370.Proofs.CallRun
import Assist370.Proofs.StackedForm

/-!
# Runs of the selection through stacked work

A selection runs the first of the stacked work and leaves the rest in form
(`StackedWork.select_runs`). So along every run of selections each block is run once, the requests
before the execution requests and each kind in the order of its ring, and no count of a user falls
below zero (`System.stackedWork_runs`). Once all work has been run, users are dispatched.
-/

namespace Assist370

namespace StackedWork

open Dispatcher

variable {place : WorkPlace} {work : StackedWork} {memory after : Memory} {block user : UInt32}

/-- The registers with which the routine of an execution request is entered. -/
def routineRegisters (memory : Memory) (block : UInt32) : RegisterFile :=
  (savedRegisters memory block).push (memory.get block Cpexblok.routine)

theorem savedRegisters_congr (agrees : after.AgreesOn memory (WorkQueue.executions.region block)) :
    savedRegisters after block = savedRegisters memory block := by
  have inBlock : ∀ index : Fin 15, (Region.ofField block (Cpexblok.registers.item index)).Within
      (WorkQueue.executions.region block) := fun index =>
    Region.ofField_within _ (by revert index; decide) (by revert index; decide)
  exact congrArg Vector.ofFn (funext fun index => (agrees.mono (inBlock index)).get_eq)

/-- The registers with which the routine of a request is entered. -/
structure EntersRequest (memory : Memory) (block : UInt32) (cpu : Cpu) : Prop where
  register10 : cpu.general.read 10 = block
  register11 : cpu.general.read 11 = WorkQueue.requests.named memory block
  register12 : cpu.general.read 12 = memory.get block Trqblok.routine
  entered : cpu.psw.instructionAddress = Address.wrap (memory.get block Trqblok.routine)

/-- The block of an execution request is put in front of the chain of a subpool and its routine is
entered with the saved registers, or the block is left to software, which finds it in the registers
and the rest of the saved registers and the routine in the save area. -/
inductive SettlesExecution (place : WorkPlace) (exits block : UInt32) (memory after : Memory)
    (found cpu : Cpu) : Prop where
  | entered (index : UInt8)
      (returned : after.get place.sizeTable (FreeStorage.head index) = block)
      (chained : after.get block (Field.first : Field UInt32) =
        memory.get place.sizeTable (FreeStorage.head index))
      (general : cpu.general = routineRegisters memory block)
      (entered : cpu.psw.instructionAddress =
        Address.wrap (memory.get block Cpexblok.routine))
  | releaseLeft
      (general : cpu.general = releaseRegisters block (routineRegisters memory block) found)
      (kept : ∀ index : Fin 6, after.get place.list (DispatchList.saveArea.item index) =
        (releaseSaved (routineRegisters memory block)).get index)
      (exited : cpu.psw.instructionAddress =
        Address.wrap (after.get exits DispatchExit.releaseLeft.place))

theorem EntersRequest.congr {before : Memory} {cpu : Cpu}
    (enters : EntersRequest memory block cpu)
    (agrees : memory.AgreesOn before (WorkQueue.requests.region block)) :
    EntersRequest before block cpu := by
  have named : WorkQueue.requests.named memory block = WorkQueue.requests.named before block :=
    Memory.AgreesOn.getAddress_eq (agrees.mono (WorkQueue.requests_sound.user_within block))
  have routine : memory.get block Trqblok.routine = before.get block Trqblok.routine :=
    (agrees.mono (Region.ofField_within block (by decide) (by decide))).get_eq
  obtain ⟨register10, register11, register12, entered⟩ := enters
  rw [named] at register11
  rw [routine] at register12 entered
  exact ⟨register10, register11, register12, entered⟩

theorem SettlesExecution.congr {exits : UInt32} {before : Memory} {found cpu : Cpu}
    (settles : SettlesExecution place exits block memory after found cpu)
    (agrees : memory.AgreesOn before (WorkQueue.executions.region block))
    (heads : memory.AgreesOn before (FreeStorage.headsRegion place.sizeTable)) :
    SettlesExecution place exits block before after found cpu := by
  have routine : memory.get block Cpexblok.routine = before.get block Cpexblok.routine :=
    (agrees.mono (Region.ofField_within block (by decide) (by decide))).get_eq
  have registers : routineRegisters memory block = routineRegisters before block := by
    rw [routineRegisters, savedRegisters_congr agrees, routine, routineRegisters]
  cases settles with
  | entered index returned chained general entered =>
      rw [(heads.mono (FreeStorage.head_within _ index)).get_eq] at chained
      rw [registers] at general
      rw [routine] at entered
      exact .entered index returned chained general entered
  | releaseLeft general kept exited =>
      rw [registers] at general kept
      exact .releaseLeft general kept exited

/-- The first work has been run, if there is any, and the rest is left in form. -/
structure RunsFirst (place : WorkPlace) (exits : UInt32) (work : StackedWork)
    (memory after : Memory) (found cpu : Cpu) : Prop where
  follows : Follows place work memory after
  request : ∀ block, work.requests.head? = some block → EntersRequest memory block cpu
  execution : work.requests = [] → ∀ block, work.executions.head? = some block →
    SettlesExecution place exits block memory after found cpu

/-- What a selection comes to can be told by other storage with the same work. -/
theorem RunsFirst.congr {exits : UInt32} {before : Memory} {found cpu : Cpu}
    (runs : RunsFirst place exits work memory after found cpu)
    (blocks : ∀ region ∈ work.regions, memory.AgreesOn before region)
    (heads : memory.AgreesOn before (FreeStorage.headsRegion place.sizeTable)) :
    RunsFirst place exits work before after found cpu where
  follows := ⟨runs.follows.formed, by rw [runs.follows.names, namedUsers_congr blocks]⟩
  request block isFirst := (runs.request block isFirst).congr
    (blocks _ (mem_regions_request (List.mem_of_head? isFirst)))
  execution noRequest block isFirst := (runs.execution noRequest block isFirst).congr
    (blocks _ (mem_regions_execution (List.mem_of_head? isFirst))) heads

/-- What a selection comes to can be told by other registers with the same general registers and
the same PSW. -/
theorem RunsFirst.registers {exits : UInt32} {found cpu left : Cpu}
    (runs : RunsFirst place exits work memory after found cpu)
    (general : left.general = cpu.general) (psw : left.psw = cpu.psw) :
    RunsFirst place exits work memory after found left where
  follows := runs.follows
  request block isFirst := by
    obtain ⟨register10, register11, register12, entered⟩ := runs.request block isFirst
    rw [← general] at register10 register11 register12
    rw [← psw] at entered
    exact ⟨register10, register11, register12, entered⟩
  execution noRequest block isFirst := by
    cases runs.execution noRequest block isFirst with
    | entered index returned chained same entered =>
        rw [← general] at same
        rw [← psw] at entered
        exact .entered index returned chained same entered
    | releaseLeft same kept exited =>
        rw [← general] at same
        rw [← psw] at exited
        exact .releaseLeft same kept exited

section Selection

open Microcode

variable {known : Knowledge} {scene : Scene} {exits : UInt32}
  {declined : Decline → Scene → Prop}

theorem request_runs (isFaithful : known.faithful) {requests executions : List UInt32}
    (formed : Formed place ⟨block :: requests, executions⟩ scene.memory) :
    (runRequest block).Ensures known declined
      (fun completion after => completion = .completed ∧
        RunsFirst place exits ⟨block :: requests, executions⟩ scene.memory after.memory scene.cpu
          after.cpu) scene := by
  have leads : Leads .requests block ⟨block :: requests, executions⟩ := .request ..
  refine (runRequest_runs isFaithful block).mono ?_ fun _ _ => id
  rintro completion after ⟨completed, stored, register10, register11, register12, entered⟩
  have user : (scene.memory.unlink block Trqblok.next Trqblok.previous).getAddress block
      Trqblok.user = WorkQueue.requests.named scene.memory block :=
    leads.named_unlink formed.toQueued
  rw [user] at stored register11
  have stackUser : (Region.ofField PrefixArea.base PrefixArea.stackUser).Within prefixRegion :=
    prefix_within (by decide)
  have inBlock : (Region.ofField block Trqblok.routine).Within (WorkQueue.requests.region block) :=
    Region.ofField_within _ (by decide) (by decide)
  have prefixApart := formed.laidOut.apart place.prefix_mem leads.region_mem
  have routine : after.memory.get block Trqblok.routine =
      scene.memory.get block Trqblok.routine := by
    rw [stored]
    exact ((Memory.put_agreesOn _ (prefixApart.parts stackUser inBlock)).trans
      ((leads.taken_agreesOn_block formed).mono inBlock)).get_eq
  rw [routine] at register12 entered
  refine ⟨completed, ?_, ?_, nofun⟩
  · rw [stored]
    exact (leads.follows formed).congr fun told told_mem =>
      Memory.put_agreesOn _ (prefix_clear formed.laidOut.rest stackUser told told_mem)
  · rintro _ ⟨rfl⟩
    exact ⟨register10, register11, register12, entered⟩

/-- Once the first execution request has been taken, the rest is in form, and its own block and the
heads of the subpools are what they were. -/
structure TakesExecution (place : WorkPlace) (memory : Memory) (block : UInt32)
    (executions : List UInt32) : Prop where
  follows : Follows place ⟨[], block :: executions⟩ memory (executionTaken memory block)
  routine : (executionTaken memory block).get block Cpexblok.routine =
    memory.get block Cpexblok.routine
  registers : executionRegisters memory block = routineRegisters memory block
  heads : ∀ index : UInt8,
    (executionTaken memory block).get place.sizeTable (FreeStorage.head index) =
      memory.get place.sizeTable (FreeStorage.head index)

theorem Formed.takesExecution {executions : List UInt32}
    (formed : Formed place ⟨[], block :: executions⟩ memory) :
    TakesExecution place memory block executions := by
  have leads : Leads .executions block ⟨[], block :: executions⟩ := .execution ..
  have taken : executionTaken memory block =
      (WorkQueue.executions.unlink memory block).unstack
        (WorkQueue.executions.named memory block) :=
    congrArg (Memory.unstack _) (leads.named_unlink formed.toQueued)
  have saved : savedRegisters (memory.unlink block Cpexblok.next Cpexblok.previous) block =
      savedRegisters memory block :=
    savedRegisters_congr (leads.unlink_agreesOn_block formed.toQueued)
  have routine : (executionTaken memory block).get block Cpexblok.routine =
      memory.get block Cpexblok.routine := by
    rw [taken]
    exact ((leads.taken_agreesOn_block formed).mono
      (Region.ofField_within _ (by decide) (by decide))).get_eq
  refine ⟨taken ▸ leads.follows formed, routine, ?_, fun index => ?_⟩
  · rw [executionRegisters, saved, routine, routineRegisters]
  · rw [taken]
    exact ((leads.taken_agreesOn_heads formed).mono (FreeStorage.head_within _ index)).get_eq

/-- A run of the first execution request settles it and leaves the rest in form. -/
theorem Formed.runsExecution {executions : List UInt32} {cpu : Cpu} {after : Scene}
    (formed : Formed place ⟨[], block :: executions⟩ memory)
    (runs : RunsExecution memory place.list exits block cpu after) :
    RunsFirst place exits ⟨[], block :: executions⟩ memory after.memory cpu after.cpu := by
  have leads : Leads .executions block ⟨[], block :: executions⟩ := .execution ..
  obtain ⟨follows, routine, registers, heads⟩ := formed.takesExecution
  have table := follows.formed.table
  have noRequest : ∀ other, ([] : List UInt32).head? = some other →
      EntersRequest memory other after.cpu := by
    simp
  cases runs with
  | entered index stored general entered =>
      rw [table] at stored
      rw [registers] at general
      rw [routine] at entered
      have first : (Region.ofField block (Field.first : Field UInt32)).Within
          (WorkQueue.executions.region block) :=
        Region.ofField_within _ (by decide) (by decide)
      have headWithin := FreeStorage.head_within place.sizeTable index
      have headApart := formed.laidOut.apart place.heads_mem leads.region_mem
      refine ⟨follows.congr fun told told_mem => ?_, noRequest, ?_⟩
      · rw [stored, Memory.returned]
        exact (Memory.put_agreesOn _ (leads.block_clear formed.laidOut first told told_mem)).trans
          (Memory.put_agreesOn _ (heads_clear formed.laidOut.rest headWithin told told_mem))
      · rintro _ _ ⟨rfl⟩
        refine .entered index ?_ ?_ general entered
        · rw [stored, Memory.returned,
            (Memory.put_agreesOn _ (headApart.parts headWithin first).symm).get_eq,
            Memory.get_put_self]
        · rw [stored, Memory.returned, Memory.get_put_self, heads]
  | releaseLeft stored general exited =>
      rw [registers] at general stored
      refine ⟨follows.congr fun told told_mem => ?_, noRequest, ?_⟩
      · rw [stored]
        exact Memory.putRow_agreesOn _ fun index index_lt =>
          saveArea_clear formed.laidOut.rest index_lt told told_mem
      · rintro _ _ ⟨rfl⟩
        have apart : ∀ first < 6, ∀ second < 6, first ≠ second →
            4 ≤ Region.distance (DispatchList.saveArea.item first).offset
              (DispatchList.saveArea.item second).offset := by
          decide
        refine .releaseLeft general (fun index => ?_) exited
        rw [stored]
        exact Memory.get_putRow (releaseSaved (routineRegisters memory block)) apart
          index.isLt

theorem execution_runs (isFaithful : known.faithful) {executions : List UInt32}
    (formed : Formed place ⟨[], block :: executions⟩ scene.memory) :
    (runExecution place.list exits block).Ensures known declined
      (fun completion after => completion = .completed ∧
        RunsFirst place exits ⟨[], block :: executions⟩ scene.memory after.memory scene.cpu
          after.cpu) scene :=
  (runExecution_runs isFaithful place.list exits block).mono
    (fun _ _ runs => ⟨runs.1, formed.runsExecution runs.2⟩) fun _ _ => id

/-- While no work is stacked, a user that is dispatched is one of the users, and so is the one that
had the processor, and its MICBLOK lies apart from the control blocks. -/
structure SparesDispatch (place : WorkPlace) (memory : Memory) : Prop where
  running : memory.runningUser ∈ place.users
  user : ∀ user, FirstRunnable memory place.list user → user ∈ place.users ∧
    ∀ flag ∈ memory.flagRegions user, ∀ block ∈ place.blocks, flag.Apart block

/-- One of the users has the processor, and the in-queue is empty. -/
def NobodyWaits (place : WorkPlace) (memory : Memory) : Prop :=
  memory.runningUser ∈ place.users ∧
    memory.getAddress (memory.getAddress place.list DispatchList.inQueue)
      (Field.first : Field UInt32) = memory.getAddress place.list DispatchList.inQueue

instance (place : WorkPlace) (memory : Memory) : Decidable (NobodyWaits place memory) :=
  inferInstanceAs (Decidable (_ ∧ _))

theorem NobodyWaits.sparesDispatch (waits : NobodyWaits place memory) :
    SparesDispatch place memory :=
  ⟨waits.1, fun _ isFirst => absurd isFirst (not_firstRunnable_of_empty waits.2)⟩

/-- A dispatch leaves the rings empty and the users without stacked work. -/
theorem Formed.dispatches {completion : Completion}
    (formed : Formed place ⟨[], []⟩ memory) (running : memory.runningUser ∈ place.users)
    (user_mem : user ∈ place.users)
    (flag : ∀ flag ∈ memory.flagRegions user, ∀ block ∈ place.blocks, flag.Apart block)
    (dispatches : Dispatches memory user completion after) :
    Formed place ⟨[], []⟩ after := by
  have laidOut := formed.laidOut
  have prefixApart := laidOut.users.prefixApart user_mem
  have listApart := laidOut.list_apart_user user_mem
  have clearPrefix : ∀ told ∈ toldBy place ⟨[], []⟩, prefixRegion.Apart told :=
    prefix_clear laidOut fun _ inside => inside
  refine formed.congr fun told told_mem => dispatches.kept told ?_
  have handover : ∀ stored ∈ handoverRegions memory.runningUser, stored.Apart told := by
    simp only [handoverRegions, List.forall_mem_cons]
    refine ⟨vmblok_clear laidOut running _ (by decide) (by decide) told told_mem, ?_, ?_, ?_,
      by simp⟩
    all_goals exact prefix_clear laidOut (prefix_within (by decide)) told told_mem
  have load : (∀ stored ∈ startRegions user, stored.Apart told) ∧
      ∃ block ∈ place.blocks, told.Within block := by
    rcases mem_toldBy.mp told_mem with rfl | rfl | ⟨other, other_mem, rfl⟩ | work_mem
    · have within := LaidOut.anchor_within place.list
      exact ⟨startRegions_apart (clearPrefix _ told_mem) (listApart.mono within).symm,
        _, List.mem_cons_self .., within⟩
    · have within : (Region.ofField place.list DispatchList.sizeTable).Within ⟨place.list, 72⟩ :=
        Region.ofField_within _ (by decide) (by decide)
      exact ⟨startRegions_apart (clearPrefix _ told_mem) (listApart.mono within).symm,
        _, List.mem_cons_self .., within⟩
    · have within : (Region.ofField other Vmblok.stackCount).Within (vmblokRegion other) :=
        vmblok_within other (by decide)
      refine ⟨?_, _, WorkPlace.user_mem other_mem, within⟩
      by_cases same : user = other
      -- The dispatch stores into the VMBLOK of its user, but not into the count of stacked work.
      · rw [same] at prefixApart ⊢
        exact startRegions_apart_ofVmblok prefixApart (by decide) (by decide)
      · exact startRegions_apart (clearPrefix _ told_mem)
          ((laidOut.users.others user_mem other_mem same).mono_right within)
    · simp [regions] at work_mem
  obtain ⟨start, block, block_mem, within⟩ := load
  refine List.forall_mem_append.mpr ⟨handover, List.forall_mem_append.mpr ⟨?_, start⟩⟩
  exact fun stored stored_mem => (flag stored stored_mem block block_mem).mono_right within

theorem dispatchUser_formed (isFaithful : known.faithful) (list systemUser : UInt32)
    (formed : Formed place ⟨[], []⟩ scene.memory)
    (running : scene.memory.runningUser ∈ place.users) (user_mem : user ∈ place.users)
    (flag : ∀ flag ∈ scene.memory.flagRegions user, ∀ block ∈ place.blocks, flag.Apart block) :
    (dispatchUser list exits user systemUser).Achieves known
      (fun _ after => Formed place ⟨[], []⟩ after.memory) scene := by
  have layout : HandoverLayout scene.memory user := by
    refine .ofUsersApart formed.laidOut.users running user_mem fun region region_mem => ⟨?_, ?_⟩
    · have prefixApart := flag region region_mem _ place.prefix_mem
      exact prefixApart.mono_right (prefix_within (by decide))
    · have vmblokApart := flag region region_mem _ (WorkPlace.user_mem running)
      exact vmblokApart.mono_right (vmblok_within _ (by decide))
  refine (dispatchUser_dispatches isFaithful list exits systemUser layout).mono ?_ fun _ _ => id
  exact fun completion after dispatches => formed.dispatches running user_mem flag dispatches

theorem Queued.noRequests (queued : Queued place work memory)
    (empty : memory.getAddress place.list DispatchList.requestQueue = place.list) :
    work.requests = [] :=
  queued.requests.eq_nil WorkQueue.requests_sound queued.laidOut.requests empty

theorem Queued.noExecutions (queued : Queued place work memory)
    (empty : memory.getAddress place.list DispatchList.executionQueue = place.list) :
    work.executions = [] :=
  queued.executions.eq_nil WorkQueue.executions_sound queued.laidOut.executions empty

/-- The charge of the current user leaves what bars a selection. -/
theorem barsSelection_charged (laidOut : LaidOut place work)
    (current_mem : Address.wrap (scene.cpu.general.read 11) ∈ place.users)
    (barred : (charged scene).memory.BarsSelection) : scene.memory.BarsSelection := by
  have prefixApart := laidOut.users.prefixApart current_mem
  have kept : ∀ field : Field UInt8, field.offset.toNat + 1 ≤ 0x380 →
      (charged scene).memory.get PrefixArea.base field =
        scene.memory.get PrefixArea.base field := fun field inside =>
    Memory.get_prefix_put prefixApart _ (by decide) inside
  rwa [Memory.BarsSelection, kept _ (by decide), kept _ (by decide)] at barred

/-- What a selection comes to from the storage in which the current user has been charged, it comes
to from the storage before. -/
theorem RunsFirst.of_charged {after : Memory} {cpu : Cpu} (laidOut : LaidOut place work)
    (current_mem : Address.wrap (scene.cpu.general.read 11) ∈ place.users)
    (runs : RunsFirst place exits work (charged scene).memory after scene.cpu cpu) :
    RunsFirst place exits work scene.memory after scene.cpu cpu := by
  have spared : ∀ region, (vmblokRegion (Address.wrap (scene.cpu.general.read 11))).Apart region →
      (charged scene).memory.AgreesOn scene.memory region := fun region apart =>
    Memory.put_agreesOn _ (apart.mono (vmblok_within _ (by decide)))
  exact runs.congr
    (fun region region_mem => spared region (laidOut.user_apart current_mem region_mem))
    (spared _ (laidOut.heads_apart current_mem).symm)

/-- A selection runs the first of the stacked work. Where there is none, it may decline. -/
theorem select_runs (isFaithful : known.faithful) (formed : Formed place work scene.memory)
    (current_mem : Address.wrap (scene.cpu.general.read 11) ∈ place.users)
    (unbarred : ¬scene.memory.BarsSelection)
    (spares : work = ⟨[], []⟩ → SparesDispatch place (charged scene).memory) :
    (select place.list exits).Ensures known (fun _ _ => work = ⟨[], []⟩)
      (fun completion after => (work ≠ ⟨[], []⟩ → completion = .completed) ∧
        RunsFirst place exits work scene.memory after.memory scene.cpu after.cpu) scene := by
  have laidOut := formed.laidOut
  have clear := vmblok_clear laidOut current_mem Vmblok.totalTime (by decide) (by decide)
  have charges : Formed place work (charged scene).memory :=
    formed.congr fun told told_mem => Memory.put_agreesOn _ (clear told told_mem)
  have settles : ∀ (completion : Completion) (after : Scene), completion = .completed ∧
      RunsFirst place exits work (charged scene).memory after.memory scene.cpu after.cpu →
      (work ≠ ⟨[], []⟩ → completion = .completed) ∧
        RunsFirst place exits work scene.memory after.memory scene.cpu after.cpu :=
    fun completion after runs => ⟨fun _ => runs.1, runs.2.of_charged laidOut current_mem⟩
  rcases work with ⟨requests, executions⟩
  refine select_cases isFaithful place.list exits ?_ ?_ ?_ ?_
  · exact fun barred => absurd (barsSelection_charged laidOut current_mem barred) unbarred
  · rintro block isFirst queued
    cases requests with
    | nil => exact absurd (isFirst.symm.trans charges.requests.1) queued
    | cons first requests =>
        obtain rfl : block = first := isFirst.symm.trans charges.requests.1
        exact (request_runs isFaithful charges).mono settles fun _ _ => id
  · rintro noRequest block isFirst queued
    obtain rfl : requests = [] := charges.noRequests noRequest
    cases executions with
    | nil => exact absurd (isFirst.symm.trans charges.executions.1) queued
    | cons first executions =>
        obtain rfl : block = first := isFirst.symm.trans charges.executions.1
        exact (execution_runs isFaithful charges).mono settles fun _ _ => id
  · intro noRequest noExecution
    obtain rfl : requests = [] := charges.noRequests noRequest
    obtain rfl : executions = [] := charges.noExecutions noExecution
    have idles : ∀ (completion : Completion) (after : Scene),
        Formed place ⟨[], []⟩ after.memory →
        (StackedWork.mk [] [] ≠ ⟨[], []⟩ → completion = .completed) ∧
          RunsFirst place exits ⟨[], []⟩ scene.memory after.memory scene.cpu after.cpu :=
      fun _ _ formed => ⟨fun some => absurd rfl some, ⟨formed, rfl⟩, nofun, fun _ => nofun⟩
    obtain ⟨running, users⟩ := spares rfl
    refine ⟨fun _ => rfl, (takeExit_achieves exits _).mono ?_ fun _ _ _ => rfl, ?_⟩
    · rintro completion after ⟨-, same⟩
      exact idles completion after (by rwa [same])
    · intro user systemUser isFirst
      obtain ⟨user_mem, flag⟩ := users user isFirst
      exact (dispatchUser_formed isFaithful place.list systemUser charges running user_mem
        flag).mono idles fun _ _ _ => rfl

end Selection

end StackedWork

section Calls

variable {Machine Refusal : Type} {policy : Policy} {callouts : Callouts Machine Refusal}
  {system : System Machine} {call : Call} {place : WorkPlace} {work : StackedWork}

open Dispatcher StackedWork

/-- The call is a selection by the data list. It comes from a user, passes its gate, is not barred,
and is refused no callout. Where no work is stacked, a dispatch spares the control blocks. -/
structure Call.SelectsWork (policy : Policy) (callouts : Callouts Machine Refusal)
    (view : StorageView callouts) (place : WorkPlace) (work : StackedWork) (system : System Machine)
    (call : Call) : Prop where
  selects : ∃ word exits, call.request = .disp2 word exits ∧ Address.wrap word = place.list
  current : Address.wrap (call.cpu.general.read 11) ∈ place.users
  passed : system.registry.cpGate call.request.assist call.cpu = .passed
  unbarred : ¬(view.memory system.machine).BarsSelection
  answered : (system.call policy callouts call).Answered
  spares : work = ⟨[], []⟩ → ∀ searched,
    Searches (view.memory system.machine) call.cpu call.request searched →
      SparesDispatch place searched

/-- The call completes while work is stacked, runs the first work with the rest left in form, and
takes it off the count of its user. -/
structure Call.RunsWork (policy : Policy) (callouts : Callouts Machine Refusal)
    (view : StorageView callouts) (place : WorkPlace) (work : StackedWork) (system : System Machine)
    (call : Call) : Prop where
  completed : work ≠ ⟨[], []⟩ → (system.call policy callouts call).result = .ok .completed
  runs : ∀ word exits, call.request = .disp2 word exits →
    RunsFirst place (Address.wrap exits) work (view.memory system.machine)
      (view.memory (system.call policy callouts call).system.machine) call.cpu
      (system.call policy callouts call).system.cpu
  counted : ∀ user, (work.namedUsers (view.memory system.machine)).head? = some user →
    ((view.memory system.machine).get user Vmblok.stackCount).toNat =
      ((view.memory (system.call policy callouts call).system.machine).get user
        Vmblok.stackCount).toNat + 1

theorem Call.SelectsWork.runsFirst {view : StorageView callouts} {cpu : Cpu} {word exits : UInt32}
    (formed : Formed place work (view.memory system.machine))
    (selects : Call.SelectsWork policy callouts view place work system ⟨cpu, .disp2 word exits⟩) :
    (work ≠ ⟨[], []⟩ →
        (system.call policy callouts ⟨cpu, .disp2 word exits⟩).result = .ok .completed) ∧
      RunsFirst place (Address.wrap exits) work (view.memory system.machine)
        (view.memory (system.call policy callouts ⟨cpu, .disp2 word exits⟩).system.machine) cpu
        (system.call policy callouts ⟨cpu, .disp2 word exits⟩).system.cpu := by
  obtain ⟨⟨_, _, ⟨rfl, rfl⟩, isList⟩, current, passed, unbarred, answered, spares⟩ := selects
  have idles : work = ⟨[], []⟩ → SparesDispatch place
      (charged { memory := view.memory system.machine, cpu }).memory := fun isEmpty =>
    spares isEmpty _ (.select word exits)
  have selected : (select (Address.wrap word) (Address.wrap exits)).Ensures
      (.ofMachine callouts system.machine) (fun _ _ => work = ⟨[], []⟩)
      (fun completion after => (work ≠ ⟨[], []⟩ → completion = .completed) ∧
        RunsFirst place (Address.wrap exits) work (view.memory system.machine) after.memory cpu
          after.cpu)
      { memory := view.memory system.machine, cpu } := by
    rw [isList]
    exact select_runs trivial formed current unbarred idles
  cases System.call_settles view rfl answered selected with
  | stopped gate _ _ _ => exact absurd passed gate
  | left _ _ isEmpty _ same =>
      obtain rfl := isEmpty
      refine ⟨absurd rfl, ⟨?_, rfl⟩, nofun, fun _ => nofun⟩
      rw [same]
      exact formed
  | performed completion final holds completed left stored =>
      obtain ⟨completes, runs⟩ := holds
      refine ⟨fun some => ?_, ?_⟩
      · rw [completed, completes some]
        rfl
      · rw [stored, left]
        exact runs.registers final.committedCpu_general final.committedCpu_psw

theorem Call.SelectsWork.runs {view : StorageView callouts}
    (formed : Formed place work (view.memory system.machine))
    (selects : call.SelectsWork policy callouts view place work system) :
    call.RunsWork policy callouts view place work system ∧
      Formed place work.rest
        (view.memory (system.call policy callouts call).system.machine) := by
  rcases call with ⟨cpu, request⟩
  obtain ⟨word, exits, isSelection, isList⟩ := selects.selects
  obtain rfl : request = .disp2 word exits := isSelection
  obtain ⟨completed, runs⟩ := selects.runsFirst formed
  refine ⟨⟨completed, ?_, fun user => runs.follows.counted formed⟩, runs.follows.formed⟩
  rintro _ _ ⟨rfl, rfl⟩
  exact runs

namespace System

theorem account_rest (policy : Policy) (callouts : Callouts Machine Refusal)
    (system : System Machine) (work : StackedWork) (calls : List Call) :
    system.account policy callouts (fun work _ _ => work.rest) work calls =
      work.drop calls.length := by
  induction calls generalizing system work with
  | nil => simp [account, drop]
  | cons call rest ih => rw [account, ih, drop_rest, List.length_cons]

/-- Along every run of selections each stacked work is run once, the requests before the execution
requests and each kind in the order of its ring, and what is left stays in form. -/
theorem stackedWork_runs (view : StorageView callouts) {calls : List Call}
    (formed : Formed place work (view.memory system.machine))
    (selects : system.Throughout policy callouts (fun work _ _ => work.rest)
      (fun work before call => call.SelectsWork policy callouts view place work before) work
      calls) :
    system.Throughout policy callouts (fun work _ _ => work.rest)
        (fun work before call => call.RunsWork policy callouts view place work before) work calls ∧
      Formed place (work.drop calls.length)
        (view.memory (system.callAll policy callouts calls).machine) := by
  have runs := throughout_of_invariant (fun _ _ _ _ formed selects => selects.runs formed) formed
    selects
  rwa [account_rest] at runs

/-- A system with a request for the user at 7000 and an execution request for the user at 9000. -/
def stackedSystem : System Memory where
  registry := Registry.initial true false
  cpu := Cpu.initial
  machine :=
    ((((((((((((((((Memory.zero.put 0x6000 DispatchList.sizeTable 0x8000).put
      0x6000 DispatchList.inQueue 0x6400).put
      0x6400 Field.first (0x6400 : UInt32)).put
      0x6000 DispatchList.requestQueue 0xa000).put
      0x6000 Trqblok.previous 0xa000).put
      0xa000 Trqblok.next 0x6000).put
      0xa000 Trqblok.previous 0x6000).put
      0xa000 Trqblok.user 0x7000).put
      0xa000 Trqblok.routine 0xc000).put
      0x6000 DispatchList.executionQueue 0xb000).put
      0x6000 Cpexblok.previous 0xb000).put
      0xb000 Cpexblok.next 0x6000).put
      0xb000 Cpexblok.previous 0x6000).put
      0xb000 (Cpexblok.registers.item 11) 0x9000).put
      0x7000 Vmblok.stackCount 1).put
      0x9000 Vmblok.stackCount 1).put
      PrefixArea.base PrefixArea.runUser 0x9000

def stackedPlace : WorkPlace where
  list := 0x6000
  sizeTable := 0x8000
  users := [0x7000, 0x9000]

/-- The third selection finds no work. -/
def stackedCalls : List Call :=
  List.replicate 3 (.forUser 0x9000 (.disp2 0x6000 0x6800))

/-- The request and the execution request are run, and no work is left. -/
theorem stackedSystem_runs :
    stackedSystem.Throughout .splitKeys Memory.callouts (fun work _ _ => work.rest)
        (fun work before call => call.RunsWork .splitKeys Memory.callouts Memory.storageView
          stackedPlace work before) ⟨[0xa000], [0xb000]⟩ stackedCalls ∧
      Formed stackedPlace ⟨[], []⟩
        (Memory.storageView.memory
          (stackedSystem.callAll .splitKeys Memory.callouts stackedCalls).machine) := by
  have formed : Formed stackedPlace ⟨[0xa000], [0xb000]⟩
      (Memory.storageView.memory stackedSystem.machine) := by
    decide +kernel
  have passes : stackedSystem.Throughout .splitKeys Memory.callouts
      (fun (work : StackedWork) _ _ => work.rest)
      (fun work before call =>
        before.registry.cpGate call.request.assist call.cpu = .passed ∧
          ¬before.machine.BarsSelection ∧
          (before.call .splitKeys Memory.callouts call).Answered ∧
          (work = ⟨[], []⟩ → NobodyWaits stackedPlace
            (charged { memory := before.machine, cpu := call.cpu }).memory))
      ⟨[0xa000], [0xb000]⟩ stackedCalls := by
    decide +kernel
  have selects : stackedSystem.Throughout .splitKeys Memory.callouts (fun work _ _ => work.rest)
      (fun work before call => call.SelectsWork .splitKeys Memory.callouts Memory.storageView
        stackedPlace work before) ⟨[0xa000], [0xb000]⟩ stackedCalls := by
    refine passes.mono fun work before call call_mem => ?_
    obtain rfl := List.eq_of_mem_replicate call_mem
    rintro ⟨passed, unbarred, answered, waits⟩
    refine ⟨⟨_, _, rfl, rfl⟩, by decide, passed, unbarred, answered, fun isEmpty searched => ?_⟩
    rintro ⟨⟩
    exact (waits isEmpty).sparesDispatch
  exact stackedWork_runs Memory.storageView formed selects

end System

end Calls

end Assist370
