import Assist370.Proofs.HandOff
import Assist370.Proofs.ProgramLogic

/-!
# Selection of a user

The user that the dispatcher looks for is the first in the in-queue that can run
(`Dispatcher.FirstRunnable`). The selection declines in two ways with registers handed to software,
and in any other way without (`Dispatcher.select_ensures`).
-/

namespace Assist370

namespace Microcode

variable {known : Knowledge} {declined : Decline → Scene → Prop} {scene : Scene}

/-- A program that hands nothing off keeps what has been handed off before. -/
theorem KeepsHandOffs.ensures {α : Type} {program : Microcode α} (keeps : program.KeepsHandOffs)
    {post : α → Scene → Prop}
    (holds : ∀ value after, program.Yields value → after.handOffs = scene.handOffs →
      post value after)
    (declinedHolds : ∀ reason after, after.handOffs = scene.handOffs → declined reason after) :
    program.Ensures known declined post scene := by
  have kept : ∀ (action : Action) (before : Scene), action.KeepsHandOffs →
      before.handOffs = scene.handOffs →
      action.Ensures known (fun _ after => after.handOffs = scene.handOffs) before := by
    intro action before allowed kept
    cases action with
    | handOff _ _ => exact allowed.elim
    | fetch _ _ => exact fun _ _ => kept
    | storageKey _ => exact fun _ => kept
    | translate _ => exact fun _ _ => kept
    | store _ _ => exact fun _ => kept
    | registers | modify _ | setTimer _ | purgeTlb | log _ => exact kept
  exact (Takes.ensures keeps kept rfl).mono_of_yields holds declinedHolds

end Microcode

namespace Dispatcher

open Microcode

/-- A user can run: its virtual PSW is no wait PSW, the scheduler lets it run, and it waits for
nothing. -/
structure Runnable (memory : Memory) (user : UInt32) : Prop where
  noWait : (memory.get user Vmblok.psw).isWait = false
  mayRun : memory.get user Vmblok.dispatchStatus &&& Vmblok.mayRun ≠ 0
  waitsForNothing : memory.get user Vmblok.runStatus &&& Vmblok.waitsForCp = 0

/-- From a member of a queue on, up to the anchor of the queue, a user is the first that can run. -/
inductive QueueLeads (memory : Memory) (anchor : UInt32) : UInt32 → UInt32 → Prop where
  | here {user : UInt32} (inQueue : user ≠ anchor) (runnable : Runnable memory user) :
      QueueLeads memory anchor user user
  | next {member user : UInt32} (inQueue : member ≠ anchor) (passed : ¬Runnable memory member)
      (rest : QueueLeads memory anchor (memory.getAddress member Vmblok.nextInQueue) user) :
      QueueLeads memory anchor member user

/-- A user is the first in the in-queue that can run. -/
def FirstRunnable (memory : Memory) (list user : UInt32) : Prop :=
  QueueLeads memory (memory.getAddress list DispatchList.inQueue)
    (memory.getAddress (memory.getAddress list DispatchList.inQueue) Field.first) user

instance (memory : Memory) (user : UInt32) : Decidable (Runnable memory user) :=
  decidable_of_iff
    ((memory.get user Vmblok.psw).isWait = false ∧
      memory.get user Vmblok.dispatchStatus &&& Vmblok.mayRun ≠ 0 ∧
      memory.get user Vmblok.runStatus &&& Vmblok.waitsForCp = 0)
    ⟨fun ⟨noWait, mayRun, waitsForNothing⟩ => ⟨noWait, mayRun, waitsForNothing⟩,
      fun runnable => ⟨runnable.noWait, runnable.mayRun, runnable.waitsForNothing⟩⟩

/-- If the head of the in-queue can run, then it is the first user that can. -/
theorem FirstRunnable.eq_head {memory : Memory} {list user head : UInt32}
    (isFirst : FirstRunnable memory list user)
    (isHead : memory.getAddress (memory.getAddress list DispatchList.inQueue)
      (Field.first : Field UInt32) = head)
    (runnable : Runnable memory head) : user = head := by
  rw [FirstRunnable, isHead] at isFirst
  cases isFirst with
  | here _ _ => rfl
  | next _ passed _ => exact absurd runnable passed

/-- Nobody can run while the in-queue is empty. -/
theorem not_firstRunnable_of_empty {memory : Memory} {list user : UInt32}
    (empty : memory.getAddress (memory.getAddress list DispatchList.inQueue)
      (Field.first : Field UInt32) = memory.getAddress list DispatchList.inQueue) :
    ¬FirstRunnable memory list user := by
  intro isFirst
  rw [FirstRunnable, empty] at isFirst
  cases isFirst with
  | here inQueue _ => exact inQueue rfl
  | next inQueue _ _ => exact inQueue rfl

/-- Memory once the processor has been taken from the user that had it. -/
def takenFrom (memory : Memory) (runUser : UInt32) : Memory :=
  memory.put runUser Vmblok.dispatchStatus
    (memory.get runUser Vmblok.dispatchStatus &&& ~~~Vmblok.dispatched)

/-- What the selection hands to software when it declines, where `memory` is that in which the
queue is looked through. -/
inductive HandsOver (faithful : Prop) (memory : Memory) (list : UInt32) :
    List (RegisterNumber × UInt32) → Prop where
  /-- The first user that can run is not to be dispatched by assist. -/
  | notAssistable {user systemUser : UInt32}
      (isFirst : faithful → FirstRunnable memory list user)
      (isSystem : faithful →
        systemUser = memory.getAddress PrefixArea.base PrefixArea.systemUser)
      (refuses : faithful → memory.get user Vmblok.notAssistable ≠ 0) :
      HandsOver faithful memory list [(1, user), (11, systemUser)]
  /-- The user before it, neither the system nor the same user, ran a shared system. -/
  | lastUserShared {user lastUser runUser : UInt32}
      (isFirst : faithful → FirstRunnable memory list user)
      (isRunning : faithful → runUser = memory.getAddress PrefixArea.base PrefixArea.runUser)
      (isLast : faithful → lastUser =
        (takenFrom memory runUser).getAddress PrefixArea.base PrefixArea.lastUser)
      (notSystem : faithful →
        lastUser ≠ memory.getAddress PrefixArea.base PrefixArea.systemUser)
      (another : lastUser ≠ user)
      (shared : faithful →
        (takenFrom memory runUser).get lastUser Vmblok.operatingStatus &&&
          Vmblok.runsShared ≠ 0) :
      HandsOver faithful memory list [(10, user), (11, lastUser)]

/-- The program goes on without dispatching a user: it hands nothing off, and once it is done the
instruction has completed. -/
structure GoesOn (program : Microcode Completion) : Prop where
  keepsHandOffs : program.KeepsHandOffs
  completes : ∀ completion, program.Yields completion → completion = .completed

theorem takeExit_goesOn (exits : UInt32) (place : Field UInt32) :
    GoesOn (takeExit exits place) where
  keepsHandOffs := by simp
  completes _ yields := by
    simp only [takeExit, yields_bind, yields_pure] at yields
    grind

theorem runRequest_goesOn (block : UInt32) : GoesOn (runRequest block) where
  keepsHandOffs := by simp
  completes _ yields := by
    simp only [runRequest, yields_bind, yields_pure] at yields
    grind

theorem runExecution_goesOn (list exits block : UInt32) :
    GoesOn (runExecution list exits block) where
  keepsHandOffs := by simp
  completes completion yields := by
    simp only [runExecution, yields_bind] at yields
    obtain ⟨_, -, saved, -, _, -, routine, -, _, -, _, -, released, -, yields⟩ := yields
    cases released with
    | ok _ =>
        simp only [enterRoutine, yields_bind, yields_pure] at yields
        grind
    | error reason =>
        simp only [leaveRelease, yields_bind] at yields
        obtain ⟨_, -, _, -, _, -, yields⟩ := yields
        exact (takeExit_goesOn _ _).completes completion yields

section

variable {known : Knowledge} {declined : Decline → Scene → Prop} {scene : Scene}

theorem isRunnable_ensures (user : UInt32) {post : Bool → Scene → Prop}
    (ensures : ∀ runnable, (known.faithful → (runnable = true ↔ Runnable scene.memory user)) →
      post runnable scene) :
    (isRunnable user).Ensures known declined post scene := by
  simp only [isRunnable, ensures_bind]
  refine ensures_fetch _ _ fun psw knownPsw => ?_
  simp only [ensures_ite, ensures_bind, ensures_pure]
  refine ⟨fun isWait => ensures false fun isFaithful => ?_, fun noWait => ?_⟩
  · rw [knownPsw isFaithful] at isWait
    simp only [Bool.false_eq_true, false_iff]
    exact fun runnable => by simp [runnable.noWait] at isWait
  · refine ensures_testBits _ _ _ fun mayRun knownMayRun => ?_
    refine ⟨fun notMayRun => ensures false fun isFaithful => ?_, fun mayRun => ?_⟩
    · simp only [knownMayRun isFaithful] at notMayRun
      simp only [Bool.false_eq_true, false_iff]
      exact fun runnable => by simp [runnable.mayRun] at notMayRun
    · refine ensures_testBits _ _ _ fun waits knownWaits => ?_
      refine ensures _ fun isFaithful => ?_
      rw [knownPsw isFaithful] at noWait
      simp only [knownMayRun isFaithful] at mayRun
      simp only [knownWaits isFaithful]
      constructor
      · intro waitsForNothing
        exact ⟨by simpa using noWait, by simpa using mayRun, by simpa using waitsForNothing⟩
      · intro runnable
        simp [runnable.waitsForNothing]

/-- The user that the search finds is the first that can run. -/
theorem firstRunnable_ensures (anchor : UInt32) (limit : Nat) (member : UInt32)
    {post : Option UInt32 → Scene → Prop}
    (ensures : ∀ found, (known.faithful → ∀ user, found = some user →
      QueueLeads scene.memory anchor member user) → post found scene)
    (declinedHolds : ∀ reason, declined reason scene) :
    (firstRunnable anchor limit member).Ensures known declined post scene := by
  induction limit generalizing member with
  | zero =>
      simp only [firstRunnable, ensures_ite, ensures_pure, ensures_decline]
      exact ⟨fun _ => ensures none (by simp), fun _ => declinedHolds _⟩
  | succ limit ih =>
      simp only [firstRunnable, ensures_ite, ensures_bind, ensures_pure, beq_iff_eq]
      refine ⟨fun _ => ensures none (by simp), fun inQueue => ?_⟩
      refine isRunnable_ensures member fun runnable known => ?_
      refine ⟨fun isRunnable => ensures (some member) fun isFaithful user found => ?_,
        fun notRunnable => ?_⟩
      · cases found
        exact .here inQueue ((known isFaithful).mp isRunnable)
      · refine ensures_fetchAddress _ _ fun next knownNext => ?_
        refine ih next fun found leads => ensures found fun isFaithful user isUser => ?_
        rw [knownNext isFaithful] at leads
        exact .next inQueue (fun runnable => notRunnable ((known isFaithful).mpr runnable))
          (leads isFaithful user isUser)

/-- What has been handed off when the selection from some memory declines. -/
def Declines (faithful : Prop) (memory : Memory) (list : UInt32) (_ : Decline)
    (after : Scene) : Prop :=
  after.handOffs = [] ∨ HandsOver faithful memory list after.handOffs

theorem takeFrom_ensures {list runUser user systemUser : UInt32} (clean : scene.handOffs = [])
    (isFirst : known.faithful → FirstRunnable scene.memory list user)
    (isRunning : known.faithful →
      runUser = scene.memory.getAddress PrefixArea.base PrefixArea.runUser)
    (isSystem : known.faithful →
      systemUser = scene.memory.getAddress PrefixArea.base PrefixArea.systemUser) :
    (takeFrom runUser user systemUser).Ensures known
      (Declines known.faithful scene.memory list) (fun _ after => after.handOffs = []) scene := by
  simp only [takeFrom, clearBits, ensures_bind]
  refine ensures_fetch _ _ fun status knownStatus => ?_
  refine (ensures_store _ _ _).mpr fun _ => ?_
  refine ensures_fetchAddress _ _ fun lastUser knownLast => ?_
  simp only [ensures_ite, ensures_pure]
  refine ⟨fun other => ?_, fun _ => clean⟩
  simp only [ensures_bind]
  refine ensures_testBits _ _ _ fun shared knownShared => ?_
  simp only [ensures_ite, ensures_bind, ensures_handOff, ensures_decline, ensures_pure]
  refine ⟨fun isShared => .inr ?_, fun _ => clean⟩
  simp only [clean, List.nil_append, List.cons_append]
  simp only [Bool.and_eq_true, bne_iff_ne, ne_eq] at other
  refine .lastUserShared isFirst isRunning (fun isFaithful => ?_) (fun isFaithful => ?_) other.2
    fun isFaithful => ?_
  · rw [knownLast isFaithful, knownStatus isFaithful, takenFrom]
  · rw [← isSystem isFaithful]
    exact other.1
  · have isOn := knownShared isFaithful
    rw [isShared, knownStatus isFaithful] at isOn
    simpa [takenFrom] using isOn.symm

theorem dispatchUser_ensures {list exits user systemUser : UInt32} (scene : Scene)
    (clean : scene.handOffs = [])
    (isFirst : known.faithful → FirstRunnable scene.memory list user)
    (isSystem : known.faithful →
      systemUser = scene.memory.getAddress PrefixArea.base PrefixArea.systemUser) :
    (dispatchUser list exits user systemUser).Ensures known
      (Declines known.faithful scene.memory list) (fun _ _ => True) scene := by
  have goesOn : ∀ (running : Bool) (rest : UInt32) (after : Scene), after.handOffs = [] →
      (do
        let slice ← timeSlice list user running rest
        giveTo user slice
        loadUser user exits).Ensures known (Declines known.faithful scene.memory list)
          (fun _ _ => True) after := by
    intro running rest after afterClean
    have keeps : (do
        let slice ← timeSlice list user running rest
        giveTo user slice
        loadUser user exits).KeepsHandOffs := by
      simp [timeSlice, giveTo, loadUser_keepsHandOffs]
    exact keeps.ensures (fun _ _ _ _ => trivial) fun _ _ kept => .inl (kept.trans afterClean)
  simp only [dispatchUser, ensures_bind]
  refine ensures_fetch _ _ fun refuses knownRefuses => ?_
  simp only [ensures_ite, ensures_bind, ensures_handOff, ensures_decline]
  refine ⟨fun isRefused => .inr ?_, fun _ => ?_⟩
  · simp only [clean, List.nil_append, List.cons_append]
    refine .notAssistable isFirst isSystem fun isFaithful => ?_
    rw [← knownRefuses isFaithful]
    simpa using isRefused
  · refine ensures_fetchAddress _ _ fun runUser knownRunning => ?_
    refine ensures_fetch _ _ fun rest _ => ?_
    refine ⟨fun _ => ?_, fun _ => ?_⟩
    · refine (takeFrom_ensures clean isFirst knownRunning isSystem).mono ?_ fun _ _ => id
      intro _ after afterClean
      simpa only [ensures_bind] using goesOn (user == runUser) rest after afterClean
    · simpa only [ensures_bind] using goesOn (user == runUser) rest scene clean

/-- The scene in which a user is selected: the current user's time has been charged. -/
def charged (scene : Scene) : Scene :=
  { scene with
    memory := scene.memory.put (Address.wrap (scene.cpu.general.read 11)) Vmblok.totalTime
      scene.cpu.cpuTimer.toUInt64 }

/-- The selection ensures what the dispatch of the first user that can run ensures, and what holds
when it goes on without a user. -/
theorem select_leads (list exits : UInt32) {post : Completion → Scene → Prop}
    (declines : ∀ reason, declined reason (charged scene))
    (goesOn : ∀ program, GoesOn program → program.IsPlain →
      program.Ensures known declined post (charged scene))
    (dispatches : ∀ user systemUser,
      (known.faithful → FirstRunnable (charged scene).memory list user) →
      (known.faithful →
        systemUser = (charged scene).memory.getAddress PrefixArea.base PrefixArea.systemUser) →
      (dispatchUser list exits user systemUser).Ensures known declined post (charged scene)) :
    (select list exits).Ensures known declined post scene := by
  simp only [select, currentUser, stopCharging, ensures_bind, ensures_general, ensures_pure,
    ensures_registers]
  refine (ensures_store _ _ _).mpr fun _ => ?_
  refine ensures_fetch _ _ fun extendLock _ => ?_
  rw [ensures_require]
  refine ⟨fun _ => ?_, fun _ => declines _⟩
  refine ensures_testBits _ _ _ fun recovering _ => ?_
  simp only [ensures_require]
  refine ⟨fun _ => ?_, fun _ => declines _⟩
  refine ensures_fetchAddress _ _ fun systemUser knownSystem => ?_
  refine ensures_fetchAddress _ _ fun request _ => ?_
  simp only [ensures_ite, ensures_bind]
  refine ⟨fun _ => goesOn _ (runRequest_goesOn request) (by simp), fun _ => ?_⟩
  refine ensures_fetchAddress _ _ fun execution _ => ?_
  refine ⟨fun _ => goesOn _ (runExecution_goesOn list exits execution) (by simp), fun _ => ?_⟩
  refine ensures_testBits _ _ _ fun locked _ => ?_
  simp only [dispatchFirst, ensures_bind]
  refine ⟨fun _ => goesOn _ (takeExit_goesOn _ _) (by simp), fun _ => ?_⟩
  refine ensures_fetchAddress _ _ fun anchor knownAnchor => ?_
  refine ensures_fetchAddress _ _ fun first knownFirst => ?_
  refine firstRunnable_ensures anchor chainLimit first (fun found leads => ?_)
    fun _ => declines _
  cases found with
  | none => exact goesOn _ (takeExit_goesOn _ _) (by simp)
  | some user =>
      refine dispatches user systemUser (fun isFaithful => ?_) knownSystem
      have isFirst := leads isFaithful user rfl
      rwa [knownAnchor isFaithful, knownFirst isFaithful, knownAnchor isFaithful] at isFirst

/-- What the selection hands to software when it declines. -/
theorem select_ensures (list exits : UInt32) (clean : scene.handOffs = []) :
    (select list exits).Ensures known
      (Declines known.faithful (charged scene).memory list) (fun _ _ => True) scene := by
  refine select_leads list exits (fun _ => .inl clean) (fun program goesOn _ => ?_) ?_
  · exact goesOn.keepsHandOffs.ensures (fun _ _ _ _ => trivial) fun _ _ kept =>
      .inl (kept.trans clean)
  · exact fun _ _ => dispatchUser_ensures (charged scene) clean

/-- Memory as the departure of a user leaves it when the next user is dispatched at once: as it
was, or with the order to log the user off taken note of. -/
inductive Departs (memory : Memory) (user : UInt32) : Memory → Prop where
  | unchanged : Departs memory user memory
  | loggedOff :
      Departs memory user
        ((memory.put user Vmblok.queueStatus
          (memory.get user Vmblok.queueStatus &&& ~~~Vmblok.consoleRead)).put user
            Vmblok.operatingStatus
            (memory.get user Vmblok.operatingStatus &&& ~~~Vmblok.killed))

theorem skipsScheduler_ensures (user list : UInt32) {post : Bool → Scene → Prop}
    (ensures : ∀ skips, post skips scene) :
    (skipsScheduler user list).Ensures known declined post scene := by
  simp only [skipsScheduler, ensures_bind]
  refine ensures_fetch _ _ fun status _ => ensures_fetch _ _ fun mask _ =>
    ensures_fetch _ _ fun expected _ => ?_
  simp only [ensures_ite, ensures_bind, ensures_pure]
  exact ⟨fun _ => ensures true, fun _ => ensures_fetchAddress _ _ fun system _ => ensures _⟩

/-- A departure completes the instruction, or the next user is dispatched at once with the registers
as they were before. -/
theorem depart_ensures (list exits : UInt32) (clean : scene.handOffs = []) :
    (depart list exits).Ensures known (fun _ after => after.handOffs = [])
      (fun departure after => departure = .left .completed ∨
        departure = .dispatchNext ∧ after.handOffs = [] ∧ after.cpu = scene.cpu ∧
          (known.faithful →
            Departs scene.memory (Address.wrap (scene.cpu.general.read 11)) after.memory))
      scene := by
  simp only [depart, currentUser, ensures_bind, ensures_general, ensures_pure]
  generalize Address.wrap (scene.cpu.general.read 11) = user
  have leaves : ∀ (place : Field UInt32) (before : Scene), before.handOffs = [] →
      (takeExit exits place).Ensures known (fun _ after => after.handOffs = [])
        (fun completion after => Departure.left completion = .left .completed ∨
          Departure.left completion = .dispatchNext ∧ after.handOffs = [] ∧
            after.cpu = scene.cpu ∧ (known.faithful → Departs scene.memory user after.memory))
        before := by
    intro place before beforeClean
    have goesOn := takeExit_goesOn exits place
    refine goesOn.keepsHandOffs.ensures (fun completion _ yields _ => .inl ?_)
      fun _ _ kept => kept.trans beforeClean
    rw [goesOn.completes completion yields]
  refine skipsScheduler_ensures user list fun skips => ?_
  simp only [ensures_ite, ensures_bind, ensures_pure]
  refine ⟨fun _ => .inr ⟨trivial, clean, trivial, fun _ => .unchanged⟩, fun _ => ?_⟩
  refine ensures_fetch _ _ fun operating knownOperating => ?_
  refine ⟨fun _ => leaves _ scene clean, fun _ => ?_⟩
  refine ensures_fetch _ _ fun queue knownQueue => ?_
  refine ⟨fun _ => leaves _ scene clean, fun _ => ?_⟩
  simp only [logOff, ensures_bind]
  refine (ensures_store _ _ _).mpr fun _ => (ensures_store _ _ _).mpr fun _ => ?_
  refine ensures_fetch _ _ fun run _ => ?_
  simp only [ensures_ite, ensures_bind, ensures_pure]
  refine ⟨fun _ => .inr ⟨trivial, clean, trivial, fun isFaithful => ?_⟩, fun _ => ?_⟩
  · rw [knownQueue isFaithful, knownOperating isFaithful]
    exact .loggedOff
  · exact (ensures_store _ _ _).mpr fun _ => leaves _ _ clean

/-- A departure with the selection behind it ensures what the selection ensures from the scene after
a departure, and what holds of the completion when an exit is taken. -/
theorem departAndSelect_leads (list exits : UInt32) (clean : scene.handOffs = [])
    {post : Completion → Scene → Prop}
    (declines : ∀ reason after, after.handOffs = [] → declined reason after)
    (completes : ∀ after, post .completed after)
    (selects : ∀ after : Scene, after.handOffs = [] → after.cpu = scene.cpu →
      (known.faithful →
        Departs scene.memory (Address.wrap (scene.cpu.general.read 11)) after.memory) →
      (select list exits).Ensures known declined post after) :
    (departAndSelect list exits).Ensures known declined post scene := by
  simp only [departAndSelect, ensures_bind]
  refine (depart_ensures list exits clean).mono ?_ declines
  rintro departure after (rfl | ⟨rfl, afterClean, sameCpu, departs⟩)
  · exact (ensures_pure _).mpr (completes after)
  · exact selects after afterClean sameCpu departs

end

end Dispatcher

end Assist370
