import Assist370.Proofs.Departure
import Assist370.Proofs.RunTime

/-!
# The logging off of users

Between two calls of the departure and the selection the control program runs code of its own. A
user that is being logged off stays so through every such call: no store of theirs goes to its run
status, but when the user is dispatched, and then its run status is stored back as it was. So the
logoff exit is taken once for a user until other code takes it back that the user is being logged
off (`DispatcherVisit.departures_settle`).
-/

namespace Assist370

namespace Dispatcher

open Microcode

variable {known : Knowledge} {scene : Scene} {user : UInt32}

section

variable (apart : prefixRegion.Apart (vmblokRegion user))

theorem enableAssists_run {micblok extension : UInt32} {virtual : Psw} {status told : UserStatus}
    (yields : (enableAssists user micblok extension virtual status).Yields told) :
    told.run = status.run := by
  simp only [enableAssists, yields_bind] at yields
  obtain ⟨traced, -, yields⟩ := yields
  cases traced with
  | true =>
      obtain ⟨_, -, yields⟩ := yields_bind.mp yields
      rw [← yields_pure.mp yields]
  | false =>
      obtain ⟨_, -, yields⟩ := yields_bind.mp yields
      obtain ⟨_, -, yields⟩ := yields_bind.mp yields
      rw [← yields_pure.mp yields]
      rfl

include apart

theorem load_runStatus (micblok extension : UInt32) (status : UserStatus) (virtual : Psw)
    (controls : TranslationControls) :
    (load user micblok extension status virtual controls).Achieves known
      (fun _ after => after.memory.get user Vmblok.runStatus = status.run) scene := by
  have starts : ∀ (told : UserStatus) (before : Scene), told.run = status.run →
      (start user extension told virtual controls).Achieves known
        (fun _ after => after.memory.get user Vmblok.runStatus = status.run) before := by
    intro told before sameRun
    refine (start_status apart extension told virtual controls).mono ?_ fun _ _ => id
    exact fun _ _ stored => stored.2.trans sameRun
  simp only [Achieves, load, ensures_bind, ensures_require, ensures_ite, ensures_pure]
  refine ⟨fun _ => ⟨fun _ => starts _ _ rfl, fun _ => ?_⟩, fun _ => trivial⟩
  have assists : (enableAssists user micblok extension virtual status.asDispatched).Achieves known
      (fun _ _ => True) scene :=
    ensures_of_forall (fun _ _ => trivial) fun _ _ => trivial
  refine assists.mono_of_yields (fun told after yields _ => starts told after ?_) fun _ _ => id
  have sameRun : told.run = status.asDispatched.run := enableAssists_run yields
  exact sameRun

/-- The loading of a user stores its run status back as it was. -/
theorem loadUser_runStatus (isFaithful : known.faithful) (exits : UInt32) :
    (loadUser user exits).Achieves known
      (fun _ after => after.memory.get user Vmblok.runStatus =
        scene.memory.get user Vmblok.runStatus) scene := by
  simp only [Achieves, loadUser, ensures_bind]
  refine userStatus_achieves isFaithful user ?_
  refine ensures_fetchAddress _ _ fun micblok _ => ?_
  refine fetchRow_ensures isFaithful _ _ _ ?_
  simp only [ensures_modify, ownControls, shadowControls, ensures_bind, ensures_pure,
    ensures_fetch_iff isFaithful, ensures_ite, ensures_log]
  refine ⟨fun _ => ⟨fun _ => ?_, fun _ => ⟨fun _ => ?_, fun _ => ?_⟩⟩, fun _ => ?_⟩
  · refine (takeExit_achieves exits _).mono ?_ fun _ _ => id
    rintro completion after ⟨-, memory⟩
    rw [memory]
  · exact load_runStatus apart _ _ _ _ _
  · exact load_runStatus apart _ _ _ _ _
  · exact load_runStatus apart _ _ _ _ _

end

/-- A selection leaves the run status of a user to other code: stacked work and the MICBLOK of the
first user that can run are stored into elsewhere, and the users that it works with are members. -/
structure SparesRunStatus (members : List UInt32) (memory : Memory) (list user : UInt32) :
    Prop where
  running : memory.runningUser ∈ members
  work : ∀ region ∈ workRegions memory list, region.Apart (.ofField user Vmblok.runStatus)
  first : ∀ other, FirstRunnable memory list other → other ∈ members ∧
    ∀ flag ∈ memory.flagRegions other, flag.Apart (.ofField user Vmblok.runStatus)

/-- It does where the head of the in-queue can run and is such a member. -/
theorem SparesRunStatus.of_head {members : List UInt32} {memory : Memory} {list user head : UInt32}
    (spares : memory.runningUser ∈ members ∧
      (∀ region ∈ workRegions memory list, region.Apart (.ofField user Vmblok.runStatus)) ∧
      memory.getAddress (memory.getAddress list DispatchList.inQueue)
        (Field.first : Field UInt32) = head ∧
      Runnable memory head ∧ head ∈ members ∧
      ∀ flag ∈ memory.flagRegions head, flag.Apart (.ofField user Vmblok.runStatus)) :
    SparesRunStatus members memory list user := by
  obtain ⟨running, work, isHead, runnable, head_mem, flag⟩ := spares
  refine ⟨running, work, fun other isFirst => ?_⟩
  obtain rfl := isFirst.eq_head isHead runnable
  exact ⟨head_mem, flag⟩

section

variable {members : List UInt32} (apart : UsersApart members) (user_mem : user ∈ members)

include apart user_mem

theorem handover_apart {running : UInt32} (running_mem : running ∈ members) :
    ∀ stored ∈ handoverRegions running, stored.Apart (.ofField user Vmblok.runStatus) := by
  have fromPrefix : ∀ field : Field UInt32, field.offset.toNat + 4 ≤ 0x380 →
      (Region.ofField PrefixArea.base field).Apart (.ofField user Vmblok.runStatus) :=
    fun field inside => (apart.prefixApart user_mem).parts (prefix_within inside)
      (vmblok_within user (by decide))
  simp only [handoverRegions, List.forall_mem_cons]
  refine ⟨apart.fields_apart running_mem user_mem (by decide) (by decide) (by decide), ?_⟩
  exact ⟨fromPrefix _ (by decide), fromPrefix _ (by decide), fromPrefix _ (by decide), by simp⟩

/-- A dispatch of any member leaves the run status of a user as it was. -/
theorem dispatchUser_runStatus {other : UInt32} (isFaithful : known.faithful)
    (running_mem : scene.memory.runningUser ∈ members) (other_mem : other ∈ members)
    (flags : ∀ flag ∈ scene.memory.flagRegions other,
      flag.Apart (.ofField user Vmblok.runStatus)) (list exits systemUser : UInt32) :
    (dispatchUser list exits other systemUser).Achieves known
      (fun _ after => after.memory.get user Vmblok.runStatus =
        scene.memory.get user Vmblok.runStatus) scene := by
  refine dispatchUser_leads isFaithful list exits systemUser ?_
  intro taken slice before takes given _
  have kept : before.memory.get user Vmblok.runStatus = scene.memory.get user Vmblok.runStatus := by
    rw [given]
    exact (takes.givenTo_agreesOn slice (handover_apart apart user_mem running_mem)).get_eq
  by_cases same : other = user
  · subst same
    refine (loadUser_runStatus (apart.prefixApart user_mem) isFaithful exits).mono ?_ fun _ _ => id
    exact fun _ _ stored => stored.trans kept
  · have sameLayout : before.memory.SameLayout scene.memory other := by
      rw [given]
      refine takes.sameLayout slice (apart.prefixApart other_mem) ?_
      exact (em _).imp id fun another => apart.others running_mem other_mem another
    have inside : (Region.ofField user Vmblok.runStatus).Within (vmblokRegion user) :=
      vmblok_within user (by decide)
    refine (loadUser_loads isFaithful exits (apart.prefixApart other_mem)).mono ?_ fun _ _ => id
    intro _ after loads
    refine (loads.kept _ (List.forall_mem_append.mpr ⟨?_, ?_⟩)).get_eq.trans kept
    · rwa [Memory.flagRegions_congr sameLayout]
    · exact startRegions_apart ((apart.prefixApart user_mem).mono_right inside)
        ((apart.others other_mem user_mem same).mono_right inside)

variable (scene) in
/-- So does the selection. -/
theorem select_runStatus (isFaithful : known.faithful)
    (current_mem : Address.wrap (scene.cpu.general.read 11) ∈ members) (list exits : UInt32)
    (spares : SparesRunStatus members (charged scene).memory list user) :
    (select list exits).Achieves known
      (fun _ after => after.memory.get user Vmblok.runStatus =
        scene.memory.get user Vmblok.runStatus) scene := by
  have charge : (charged scene).memory.get user Vmblok.runStatus =
      scene.memory.get user Vmblok.runStatus :=
    (Memory.put_agreesOn _ (apart.fields_apart current_mem user_mem (by decide) (by decide)
      (by decide))).get_eq
  rw [← charge]
  have exit : (takeExit exits DispatchExit.idle.place).Achieves known
      (fun _ after => after.memory.get user Vmblok.runStatus =
        (charged scene).memory.get user Vmblok.runStatus) (charged scene) := by
    refine (takeExit_achieves exits _).mono ?_ fun _ _ => id
    rintro completion after ⟨-, memory⟩
    rw [memory]
  refine select_cases isFaithful list exits (fun _ _ => trivial) ?_ ?_ ?_
  · intro block isFirst queued
    have work := spares.work
    rw [workRegions, isFirst, if_pos queued] at work
    refine (runRequest_runs isFaithful block).mono ?_ fun _ _ => id
    rintro completion after ⟨-, runs⟩
    refine (runs.agreesOn work ?_).get_eq
    exact (apart.prefixApart user_mem).parts (prefix_within (by decide))
      (vmblok_within user (by decide))
  · intro noRequest block isFirst queued
    have work := spares.work
    rw [workRegions, noRequest, isFirst, if_neg (not_not_intro rfl), if_pos queued] at work
    refine (runExecution_runs isFaithful list exits block).mono ?_ fun _ _ => id
    rintro completion after ⟨-, runs⟩
    exact (runs.agreesOn work).get_eq
  · intro _ _
    refine ⟨fun _ => trivial, exit, fun other systemUser isFirst => ?_⟩
    obtain ⟨other_mem, flags⟩ := spares.first other isFirst
    exact dispatchUser_runStatus apart user_mem isFaithful spares.running other_mem flags list
      exits systemUser

variable (scene) in
theorem select_loggingOff (isFaithful : known.faithful)
    (current_mem : Address.wrap (scene.cpu.general.read 11) ∈ members) (list exits : UInt32)
    (spares : SparesRunStatus members (charged scene).memory list user)
    (loggingOff : scene.memory.IsLoggingOff user) :
    (select list exits).Achieves known (fun _ after => after.memory.IsLoggingOff user) scene := by
  refine (select_runStatus scene apart user_mem isFaithful current_mem list exits spares).mono ?_
    fun _ _ => id
  intro _ final kept
  rwa [Memory.IsLoggingOff, kept]

/-- A user that is being logged off stays so when a member departs. -/
theorem depart_loggingOff
    (current_mem : Address.wrap (scene.cpu.general.read 11) ∈ members) (list exits : UInt32)
    (loggingOff : scene.memory.IsLoggingOff user) :
    (depart list exits).Ensures known (fun _ _ => True)
      (fun _ after => after.memory.IsLoggingOff user) scene := by
  have leaves : ∀ (place : Field UInt32) (before : Scene), before.memory.IsLoggingOff user →
      (takeExit exits place).Achieves known (fun _ after => after.memory.IsLoggingOff user)
        before := by
    intro place before loggingOff
    refine (takeExit_achieves exits place).mono ?_ fun _ _ => id
    rintro completion after ⟨-, memory⟩
    rwa [memory]
  simp only [depart, currentUser, ensures_bind, ensures_general, ensures_pure]
  generalize Address.wrap (scene.cpu.general.read 11) = current at current_mem
  refine skipsScheduler_ensures current list fun skips => ?_
  simp only [ensures_ite, ensures_bind, ensures_pure]
  refine ⟨fun _ => loggingOff, fun _ => ensures_fetch _ _ fun operating _ => ?_⟩
  refine ⟨fun _ => leaves _ scene loggingOff, fun _ => ensures_fetch _ _ fun queue _ => ?_⟩
  refine ⟨fun _ => leaves _ scene loggingOff, fun _ => ?_⟩
  have noted : ((scene.memory.put current Vmblok.queueStatus (queue &&& ~~~Vmblok.consoleRead)).put
      current Vmblok.operatingStatus (operating &&& ~~~Vmblok.killed)).IsLoggingOff user := by
    refine (Memory.isLoggingOff_congr ?_).mpr loggingOff
    exact (Memory.put_agreesOn _ (apart.fields_apart current_mem user_mem (by decide) (by decide)
      (by decide))).trans (Memory.put_agreesOn _ (apart.fields_apart current_mem user_mem
        (by decide) (by decide) (by decide)))
  simp only [logOff, ensures_bind, ensures_store]
  refine fun _ _ => ensures_fetch _ _ fun run _ => ?_
  simp only [ensures_ite, ensures_bind, ensures_pure, ensures_store]
  refine ⟨fun _ => noted, fun _ _ => leaves _ _ ?_⟩
  -- The member that departs may be the user itself, which is then marked once more.
  by_cases same : current = user
  · rw [same]
    exact Memory.isLoggingOff_put _ user run
  · refine (Memory.isLoggingOff_congr (Memory.put_agreesOn _ ?_)).mpr noted
    exact (apart.others current_mem user_mem same).parts (vmblok_within current (by decide))
      (vmblok_within user (by decide))

variable (scene) in
/-- It does so with the selection behind that. -/
theorem departAndSelect_loggingOff (isFaithful : known.faithful) (clean : scene.handOffs = [])
    (current_mem : Address.wrap (scene.cpu.general.read 11) ∈ members) (list exits : UInt32)
    (spares : ∀ departed,
      Departs scene.memory (Address.wrap (scene.cpu.general.read 11)) departed →
      SparesRunStatus members (departed.put (Address.wrap (scene.cpu.general.read 11))
        Vmblok.totalTime scene.cpu.cpuTimer.toUInt64) list user)
    (loggingOff : scene.memory.IsLoggingOff user) :
    (departAndSelect list exits).Achieves known
      (fun _ after => after.memory.IsLoggingOff user) scene := by
  simp only [Achieves, departAndSelect, ensures_bind]
  refine ((depart_ensures list exits clean).and
    (depart_loggingOff apart user_mem current_mem list exits loggingOff)).mono ?_
      fun _ _ _ => trivial
  rintro departure after ⟨rfl | ⟨rfl, -, sameCpu, departs⟩, loggingOff⟩
  · exact (ensures_pure _).mpr loggingOff
  · have spares := spares after.memory (departs isFaithful)
    rw [← sameCpu] at spares current_mem
    exact select_loggingOff after apart user_mem isFaithful current_mem list exits spares loggingOff

end

end Dispatcher

open Dispatcher

/-- A call of the departure or the selection of a user, with the system that it finds. -/
structure DispatcherVisit (Machine : Type) where
  found : System Machine
  request : Request
  list : UInt32
  selects : request.dispatchList? = some list

namespace DispatcherVisit

variable {Machine Refusal : Type} {callouts : Callouts Machine Refusal} (policy : Policy)
  (view : StorageView callouts)

/-- Storage as the visit finds it. -/
def before (visit : DispatcherVisit Machine) : Memory :=
  view.memory visit.found.machine

/-- Storage as the visit leaves it, whatever it comes to. -/
def after (visit : DispatcherVisit Machine) : Memory :=
  view.memory (visit.found.perform policy callouts visit.request).system.machine

/-- The visit takes the logoff exit for a user: the user departs, is to be logged off and has not
been logged off before, and the instruction completes. -/
structure LogsOff (user : UInt32) (visit : DispatcherVisit Machine) : Prop where
  current : visit.found.currentUser = user
  departs : ∃ list exits, visit.request = .disp1 list exits
  heeds : ¬(visit.before view).SkipsScheduler user visit.list
  toLogOff : (visit.before view).IsToLogOff user
  begins : ¬(visit.before view).IsLoggingOff user
  completed : (visit.found.perform policy callouts visit.request).result = .ok .completed

/-- The visit works with VMBLOKs of members, and stores into the run status of a user only by a
departure or a dispatch of that user. -/
structure LaidOut (members : List UInt32) (user : UInt32) (visit : DispatcherVisit Machine) :
    Prop where
  current : visit.found.currentUser ∈ members
  spares : ∀ searched, Searches (visit.before view) visit.found.cpu visit.request searched →
    SparesRunStatus members searched visit.list user

variable {policy view} {members : List UInt32} {user : UInt32} {visit : DispatcherVisit Machine}

/-- A user that is being logged off stays so. -/
theorem LaidOut.keeps (laidOut : visit.LaidOut view members user) (apart : UsersApart members)
    (user_mem : user ∈ members) (loggingOff : (visit.before view).IsLoggingOff user) :
    (visit.after policy view).IsLoggingOff user := by
  obtain ⟨found, request, list, selects⟩ := visit
  have current : Address.wrap (found.cpu.general.read 11) ∈ members := laidOut.current
  have achieves : (request.program policy found.registry.level).microcode.Achieves
      (.ofMachine callouts found.machine) (fun _ after => after.memory.IsLoggingOff user)
      (.before (view.memory found.machine) (request.program policy found.registry.level)
        found.cpu) := by
    cases request with
    | disp1 word exits =>
        cases selects
        have departs : (departAndSelect (Address.wrap word) (Address.wrap exits)).Achieves
            (.ofMachine callouts found.machine) (fun _ after => after.memory.IsLoggingOff user)
            { memory := view.memory found.machine, cpu := found.cpu } :=
          departAndSelect_loggingOff _ apart user_mem trivial rfl current _ _
            (fun departed departs => laidOut.spares _ (.departAndSelect word exits departs))
            loggingOff
        exact departs
    | disp2 word exits =>
        cases selects
        have selects : (Dispatcher.select (Address.wrap word) (Address.wrap exits)).Achieves
            (.ofMachine callouts found.machine) (fun _ after => after.memory.IsLoggingOff user)
            { memory := view.memory found.machine, cpu := found.cpu } :=
          select_loggingOff _ apart user_mem trivial current _ _
            (laidOut.spares _ (.select word exits)) loggingOff
        exact selects
    | _ => nomatch selects
  have byte := System.byte_perform view found policy request (user + Vmblok.runStatus.offset)
  rw [Memory.IsLoggingOff, after, Memory.get_byte]
  rcases byte with same | ⟨completion, final, ran, -, seen⟩
  · rw [same, ← Memory.get_byte]
    exact loggingOff
  · rw [seen, ← Memory.get_byte]
    exact System.ensures_of_ran (view.shows_ofMachine found.machine) (fun _ _ => trivial) achieves
      ran

/-- A user that the logoff exit has been taken for is being logged off. -/
theorem LogsOff.leaves (logsOff : visit.LogsOff policy view user) :
    (visit.after policy view).IsLoggingOff user := by
  obtain ⟨found, request, list, selects⟩ := visit
  obtain ⟨rfl, ⟨word, exits, isDeparture⟩, heeds, toLogOff, begins, completed⟩ := logsOff
  simp only at isDeparture
  subst isDeparture
  cases selects
  have completed : (found.departed policy callouts word exits).result =
      .ok Completion.completed.outcome := completed
  have answered : (found.departed policy callouts word exits).Answered := by
    simp [Response.Answered, completed, Except.isOk, Except.toBool]
  have leaves := System.leaves_of_logsOff heeds toLogOff begins
    (System.passed_of_performed completed) answered
  have stored : after policy view ⟨found, .disp1 word exits, Address.wrap word, rfl⟩ =
      (view.memory found.machine).logOffBegun found.currentUser := leaves.memory
  rw [stored]
  exact Memory.isLoggingOff_put _ _ _

/-- In a run of visits the logoff exit is taken once for a user, unless other code takes it back in
between that the user is being logged off. -/
theorem logsOff_once (apart : UsersApart members) (user_mem : user ∈ members)
    {visits : List (DispatcherVisit Machine)}
    (laidOut : ∀ visit ∈ visits, visit.LaidOut view members user)
    (keptBetween : visits.IsChain fun earlier later =>
      (earlier.after policy view).IsLoggingOff user → (later.before view).IsLoggingOff user) :
    visits.Pairwise fun earlier later =>
      earlier.LogsOff policy view user → ¬later.LogsOff policy view user := by
  induction visits with
  | nil => exact .nil
  | cons first rest ih =>
      refine List.pairwise_cons.mpr ⟨fun later later_mem logsOff again => ?_, ?_⟩
      · have found := found_of_left keptBetween
          (fun visit visit_mem => (laidOut visit (by simp [visit_mem])).keeps apart user_mem)
          logsOff.leaves
        exact again.begins (found later later_mem)
      · exact ih (fun visit visit_mem => laidOut visit (by simp [visit_mem])) keptBetween.tail

/-- A departure is the selection behind a change of storage, or takes an exit without a selection,
and the logoff exit is taken once for a user until other code takes it back that the user is being
logged off. -/
theorem departures_settle (policy : Policy) (view : StorageView callouts) :
    (∀ (system : System Machine) (list exits : UInt32), system.registry.isEnabled .disp1 →
      system.registry.isEnabled .disp2 → system.DepartureSettles policy view list exits) ∧
    ∀ (members : List UInt32) (user : UInt32) (visits : List (DispatcherVisit Machine)),
      UsersApart members → user ∈ members →
      (∀ visit ∈ visits, visit.LaidOut view members user) →
      (visits.IsChain fun earlier later =>
        (earlier.after policy view).IsLoggingOff user → (later.before view).IsLoggingOff user) →
      visits.Pairwise fun earlier later =>
        earlier.LogsOff policy view user → ¬later.LogsOff policy view user :=
  ⟨fun system list exits => system.departure_settles policy view list exits,
    fun _ _ _ apart user_mem => logsOff_once apart user_mem⟩

/-- A user that is to be logged off leaves the processor. -/
def firstVisit : DispatcherVisit Memory where
  found :=
    { System.busySystem with
      cpu := (Call.forUser 0x9000 (.disp1 0x6000 0x6800)).cpu
      machine := (System.busySystem.machine.put 0x9000 Vmblok.operatingStatus Vmblok.killed).put
        0x6000 DispatchList.statusMatch 1 }
  request := .disp1 0x6000 0x6800
  list := 0x6000
  selects := rfl

/-- The order to log it off has been repeated when it leaves the processor again. -/
def secondVisit : DispatcherVisit Memory :=
  { firstVisit with
    found :=
      { firstVisit.found with
        machine := (firstVisit.after .splitKeys Memory.storageView).put 0x9000
          Vmblok.operatingStatus Vmblok.killed } }

theorem secondVisit_chains :
    firstVisit.LogsOff .splitKeys Memory.storageView 0x9000 ∧
      ¬secondVisit.LogsOff .splitKeys Memory.storageView 0x9000 ∧
      secondVisit.found.Chains .splitKeys Memory.storageView 0x6000 0x6800
        (secondVisit.found.machine.orderTaken 0x9000) := by
  obtain ⟨settles, once⟩ := departures_settle .splitKeys Memory.storageView
  have logsOff : firstVisit.LogsOff .splitKeys Memory.storageView 0x9000 :=
    ⟨by decide, ⟨_, _, rfl⟩, by decide +kernel, by decide +kernel, by decide +kernel,
      Response.result_eq_ok (by decide +kernel)⟩
  have laidOut : ∀ visit ∈ [firstVisit, secondVisit],
      visit.LaidOut Memory.storageView [0x7000, 0x9000] 0x9000 := by
    simp only [List.forall_mem_cons]
    refine ⟨⟨by decide, ?_⟩, ⟨by decide, ?_⟩, by simp⟩
    all_goals
      intro searched searches
      cases searches with
      | departAndSelect _ _ departs =>
          cases departs
          · exact @SparesRunStatus.of_head _ _ _ _ 0x7000 (by decide +kernel)
          · exact @SparesRunStatus.of_head _ _ _ _ 0x7000 (by decide +kernel)
  have keptBetween : [firstVisit, secondVisit].IsChain fun earlier later =>
      (earlier.after .splitKeys Memory.storageView).IsLoggingOff 0x9000 →
        (later.before Memory.storageView).IsLoggingOff 0x9000 :=
    List.isChain_cons_cons.mpr ⟨fun _ => by decide +kernel, .singleton _⟩
  have pairwise := once [0x7000, 0x9000] 0x9000 _ (by decide +kernel) (by decide) laidOut
    keptBetween
  have notAgain := (List.pairwise_cons.mp pairwise).1 secondVisit (by simp) logsOff
  refine ⟨logsOff, notAgain, ?_⟩
  exact (settles secondVisit.found 0x6000 0x6800 (by decide) (by decide)).loggedOff
    (by decide +kernel) (by decide +kernel) (by decide +kernel) _ rfl (by decide +kernel)
    (by decide +kernel)

end DispatcherVisit

end Assist370
