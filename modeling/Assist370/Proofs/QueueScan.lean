import Mathlib.Data.List.Find
import Assist370.Proofs.InterruptionChain

/-!
# The search of the in-queue

The selection looks through the in-queue for the first user that can run (`Memory.QueueScan`). The
search ends on every queue: one that neither leads back to its anchor nor to a user that can run
within as many members as may be looked at is given up (`Memory.Endless`). In a queue in form the
search finds the first of its users that can run. The selection then comes to the dispatch of that
user and to nothing else, whatever the dispatch comes to, or to the idle exit if there is none
(`System.first_runnable_considered`).
-/

namespace Assist370

open Dispatcher

namespace Memory

variable (memory : Memory)

/-- The member at some place of a queue, counted from one of its members on. -/
def memberAfter : UInt32 → Nat → UInt32
  | member, 0 => member
  | member, place + 1 => memberAfter (memory.getAddress member Vmblok.nextInQueue) place

/-- Up to some place a queue has not come back to its anchor, nor to a user that can run. -/
def Passes (anchor member : UInt32) (place : Nat) : Prop :=
  ∀ earlier < place, memory.memberAfter member earlier ≠ anchor ∧
    ¬Runnable memory (memory.memberAfter member earlier)

/-- A queue goes on beyond the members that may be looked at, and none of these can run. -/
structure Endless (anchor member : UInt32) (limit : Nat) : Prop where
  goesOn : memory.memberAfter member limit ≠ anchor
  passes : memory.Passes anchor member limit

/-- What the search of a queue comes to: a user, no user, or no end. -/
inductive QueueScan (anchor member : UInt32) (limit : Nat) :
    Except Decline (Option UInt32) → Prop where
  | found {place : Nat} (place_lt : place < limit)
      (inQueue : memory.memberAfter member place ≠ anchor)
      (runnable : Runnable memory (memory.memberAfter member place))
      (passes : memory.Passes anchor member place) :
      QueueScan anchor member limit (.ok (some (memory.memberAfter member place)))
  | ended {place : Nat} (place_le : place ≤ limit)
      (ends : memory.memberAfter member place = anchor)
      (passes : memory.Passes anchor member place) : QueueScan anchor member limit (.ok none)
  | endless (goesOn : memory.Endless anchor member limit) :
      QueueScan anchor member limit (.error .inQueueEndless)

/-- Users are queued from one of them on, up to the anchor of the queue. -/
def InQueue (anchor : UInt32) : UInt32 → List UInt32 → Prop
  | member, [] => member = anchor
  | member, user :: rest =>
      member = user ∧ user ≠ anchor ∧
        InQueue anchor (memory.getAddress user Vmblok.nextInQueue) rest

instance InQueue.decidable (anchor : UInt32) :
    (member : UInt32) → (users : List UInt32) → Decidable (memory.InQueue anchor member users)
  | _, [] => inferInstanceAs (Decidable (_ = _))
  | _, user :: rest =>
      have := InQueue.decidable anchor (memory.getAddress user Vmblok.nextInQueue) rest
      inferInstanceAs (Decidable (_ ∧ _ ∧ _))

variable {memory} {anchor member : UInt32} {limit place : Nat}
  {scanned : Except Decline (Option UInt32)}

theorem Passes.step (inQueue : member ≠ anchor) (passed : ¬Runnable memory member)
    (passes : memory.Passes anchor (memory.getAddress member Vmblok.nextInQueue) place) :
    memory.Passes anchor member (place + 1) := by
  intro earlier earlier_lt
  cases earlier with
  | zero => exact ⟨inQueue, passed⟩
  | succ earlier => exact passes earlier (by omega)

namespace QueueScan

theorem anchored (isAnchor : member = anchor) :
    memory.QueueScan anchor member limit (.ok none) :=
  @ended _ _ _ _ 0 (Nat.zero_le _) isAnchor (fun _ earlier_lt => absurd earlier_lt (by omega))

theorem here (inQueue : member ≠ anchor) (runnable : Runnable memory member) :
    memory.QueueScan anchor member (limit + 1) (.ok (some member)) :=
  @found _ _ _ _ 0 (Nat.zero_lt_succ _) inQueue runnable
    (fun _ earlier_lt => absurd earlier_lt (by omega))

/-- The search goes on behind a member that cannot run. -/
theorem step (inQueue : member ≠ anchor) (passed : ¬Runnable memory member)
    (rest : memory.QueueScan anchor (memory.getAddress member Vmblok.nextInQueue) limit scanned) :
    memory.QueueScan anchor member (limit + 1) scanned := by
  cases rest with
  | @found place place_lt inBehind runnable passes =>
      exact @found _ _ _ _ (place + 1) (by omega) inBehind runnable (passes.step inQueue passed)
  | @ended place place_le ends passes =>
      exact @ended _ _ _ _ (place + 1) (by omega) ends (passes.step inQueue passed)
  | endless goesOn => exact .endless ⟨goesOn.goesOn, goesOn.passes.step inQueue passed⟩

/-- A search comes to one thing only. -/
theorem unique {other : Except Decline (Option UInt32)}
    (first : memory.QueueScan anchor member limit scanned)
    (second : memory.QueueScan anchor member limit other) : other = scanned := by
  -- Neither search can go beyond the place where the other has stopped.
  have stops : ∀ {place stop : Nat}, memory.Passes anchor member place →
      (memory.memberAfter member stop = anchor ∨
        Runnable memory (memory.memberAfter member stop)) → place ≤ stop := by
    intro place stop passes ends
    refine Nat.le_of_not_lt fun stop_lt => ?_
    obtain ⟨inQueue, passed⟩ := passes stop stop_lt
    exact ends.elim inQueue passed
  cases first with
  | @found place place_lt inQueue runnable passes =>
      cases second with
      | @found stop _ _ stops' stopPasses =>
          rw [Nat.le_antisymm (stops passes (.inr stops')) (stops stopPasses (.inr runnable))]
      | @ended stop _ ends stopPasses =>
          have same := Nat.le_antisymm (stops passes (.inl ends))
            (stops stopPasses (.inr runnable))
          exact absurd (same ▸ ends) inQueue
      | endless goesOn => exact absurd (stops goesOn.passes (.inr runnable)) (by omega)
  | @ended place place_le ends passes =>
      cases second with
      | @found stop _ inQueue runnable stopPasses =>
          have same := Nat.le_antisymm (stops passes (.inr runnable))
            (stops stopPasses (.inl ends))
          exact absurd (same ▸ ends) inQueue
      | ended _ _ _ => rfl
      | endless goesOn =>
          have same := Nat.le_antisymm (stops goesOn.passes (.inl ends)) place_le
          exact absurd (same ▸ ends) goesOn.goesOn
  | endless goesOn =>
      cases second with
      | found place_lt _ runnable _ =>
          exact absurd (stops goesOn.passes (.inr runnable)) (by omega)
      | ended place_le ends _ =>
          have same := Nat.le_antisymm (stops goesOn.passes (.inl ends)) place_le
          exact absurd (same ▸ ends) goesOn.goesOn
      | endless _ => rfl

end QueueScan

/-- In a queue in form the search finds the first user that can run. -/
theorem InQueue.scan {users : List UInt32} (queue : memory.InQueue anchor member users)
    (length_le : users.length ≤ limit) :
    memory.QueueScan anchor member limit (.ok (users.find? (Runnable memory ·))) := by
  induction users generalizing member limit with
  | nil => exact .anchored queue
  | cons user rest ih =>
      obtain ⟨rfl, inQueue, queue⟩ := queue
      cases limit with
      | zero => simp at length_le
      | succ limit =>
          by_cases runnable : Runnable memory member
          · rw [List.find?_cons_of_pos (by simpa using runnable)]
            exact .here inQueue runnable
          · rw [List.find?_cons_of_neg (by simpa using runnable)]
            exact .step inQueue runnable (ih queue (by simpa using length_le))

/-- A queue stays in form while its users keep their places. -/
theorem InQueue.congr {other : Memory} {users : List UInt32}
    (queue : memory.InQueue anchor member users)
    (kept : ∀ user ∈ users, other.getAddress user Vmblok.nextInQueue =
      memory.getAddress user Vmblok.nextInQueue) :
    other.InQueue anchor member users := by
  induction users generalizing member with
  | nil => exact queue
  | cons user rest ih =>
      obtain ⟨same, inQueue, queue⟩ := queue
      refine ⟨same, inQueue, ?_⟩
      rw [kept user (by simp)]
      exact ih queue fun user user_mem => kept user (by simp [user_mem])

/-- A selection comes to look for a user: nothing bars it, no work is stacked, and no shared system
is locked. -/
@[mk_iff]
structure LooksForUser (memory : Memory) (list : UInt32) : Prop where
  unbarred : ¬memory.BarsSelection
  noRequest : memory.getAddress list DispatchList.requestQueue = list
  noExecution : memory.getAddress list DispatchList.executionQueue = list
  unlocked : memory.get PrefixArea.base PrefixArea.cpStatus2 &&& PrefixArea.sharedLock = 0

instance (list : UInt32) : Decidable (memory.LooksForUser list) :=
  decidable_of_iff' _ (looksForUser_iff memory list)

/-- The segment tables of a user in extended-control mode are not to be used. -/
structure SegmentTablesInvalid (memory : Memory) (user : UInt32) : Prop where
  isExtended : memory.isExtended user = true
  inExtendedMode : memory.inExtendedMode user = true
  invalid : memory.get user Vmblok.extendedStatus &&&
      (Vmblok.segmentsInvalid ||| Vmblok.newControl) =
    Vmblok.segmentsInvalid ||| Vmblok.newControl

end Memory

namespace Microcode

variable {α : Type} {known : Knowledge} {declined : Decline → Scene → Prop} {scene : Scene}
  {program : Microcode α} {post : α → Scene → Prop}

/-- A program that never declines ensures what holds of all it yields. -/
theorem NeverDeclines.ensures (never : program.NeverDeclines)
    (holds : ∀ value after, program.Yields value → post value after) :
    program.Ensures known declined post scene := by
  induction program generalizing scene with
  | done value => exact (ensures_done value).mpr (holds value scene (yields_pure.mpr rfl))
  | decline reason => exact absurd never (by simp [NeverDeclines])
  | act action next ih =>
      refine (ensures_act _ _).mpr (Action.ensures_of_forall fun answer after => ?_)
      have rest := (neverDeclines_act action next).mp never answer
      refine ih answer rest fun value after yields => ?_
      exact holds value after ((yields_act action next).mpr ⟨answer, yields⟩)

/-- A program that only fetches finds what is to be found in memory, or gives up where nothing is to
be found. -/
theorem Takes.finds (isFaithful : known.faithful) (fetches : program.Takes Action.Fetches) :
    program.Ensures known (fun _ after => after = scene ∧ program.look scene.memory = none)
      (fun value after => after = scene ∧ program.look scene.memory = some value) scene := by
  induction program with
  | done value => exact (ensures_done value).mpr ⟨rfl, rfl⟩
  | decline reason => exact (ensures_decline reason).mpr ⟨rfl, rfl⟩
  | act action next ih =>
      have fetches := (takes_act action next).mp fetches
      cases action with
      | fetch address length =>
          refine (ensures_act _ _).mpr fun bytes isFetched => ?_
          obtain rfl := isFetched isFaithful
          exact ih _ (fetches.2 _)
      | _ => exact fetches.1.elim

/-- What a program ensures that storage and registers answer, its evaluation comes to. -/
theorem Ensures.eval (answers : Answers) (takes : program.Takes Action.FromStorage)
    (ensures : program.Ensures .ofStorage declined post scene) :
    match program.eval answers scene with
    | (.ok value, after) => post value after
    | (.error reason, after) => declined reason after := by
  induction program generalizing scene with
  | done value => exact (ensures_done value).mp ensures
  | decline reason => exact (ensures_decline reason).mp ensures
  | act action next ih =>
      have takes := (takes_act action next).mp takes
      have ensures := (ensures_act action next).mp ensures
      cases action with
      | fetch address length => exact ih _ (takes.2 _) (ensures _ fun _ => rfl)
      | store address bytes => exact ih _ (takes.2 _) (ensures trivial)
      | storageKey _ | translate _ => exact takes.1.elim
      | registers | modify _ | setTimer _ | purgeTlb | handOff _ _ | log _ =>
          exact ih _ (takes.2 _) ensures

end Microcode

namespace Dispatcher

open Microcode Memory

section Search

variable {answers : Answers} {scene : Scene} {list exits : UInt32}

theorem isRunnable_eval (user : UInt32) :
    (isRunnable user).eval answers scene = (.ok (decide (Runnable scene.memory user)), scene) := by
  simp only [isRunnable, testBits, eval_bind, eval_fetch, eval_ite, eval_pure]
  by_cases isWait : (scene.memory.get user Vmblok.psw).isWait = true
  · have stays : ¬Runnable scene.memory user := fun runnable => by simp [runnable.noWait] at isWait
    simp [isWait, stays]
  by_cases mayRun : scene.memory.get user Vmblok.dispatchStatus &&& Vmblok.mayRun = 0
  · have stays : ¬Runnable scene.memory user := fun runnable => runnable.mayRun mayRun
    simp [isWait, mayRun, stays]
  by_cases waits : scene.memory.get user Vmblok.runStatus &&& Vmblok.waitsForCp = 0
  · have runnable : Runnable scene.memory user := ⟨by simpa using isWait, mayRun, waits⟩
    simp [isWait, mayRun, waits, runnable]
  · have stays : ¬Runnable scene.memory user := fun runnable => waits runnable.waitsForNothing
    simp [isWait, mayRun, waits, stays]

/-- The search of a queue ends on every queue. -/
theorem firstRunnable_eval (anchor : UInt32) (limit : Nat) (member : UInt32) :
    ∃ scanned, scene.memory.QueueScan anchor member limit scanned ∧
      (firstRunnable anchor limit member).eval answers scene = (scanned, scene) := by
  induction limit generalizing member with
  | zero =>
      simp only [firstRunnable, eval_ite, eval_pure, eval_decline, beq_iff_eq]
      by_cases isAnchor : member = anchor
      · exact ⟨_, .anchored isAnchor, if_pos isAnchor⟩
      · exact ⟨_, .endless ⟨isAnchor, fun _ earlier_lt => absurd earlier_lt (by omega)⟩,
          if_neg isAnchor⟩
  | succ limit ih =>
      simp only [firstRunnable, eval_ite, eval_bind, isRunnable_eval, eval_pure,
        eval_fetchAddress, beq_iff_eq, decide_eq_true_eq]
      by_cases isAnchor : member = anchor
      · exact ⟨_, .anchored isAnchor, if_pos isAnchor⟩
      rw [if_neg isAnchor]
      by_cases runnable : Runnable scene.memory member
      · exact ⟨_, .here isAnchor runnable, if_pos runnable⟩
      · rw [if_neg runnable]
        obtain ⟨scanned, scan, evaluated⟩ := ih (scene.memory.getAddress member Vmblok.nextInQueue)
        exact ⟨scanned, scan.step isAnchor runnable, evaluated⟩

/-- How the selection ends by what the search of the in-queue comes to. -/
def scanEnds (list exits : UInt32) (scene : Scene) : Except Decline (Option UInt32) → Evaluation
  | .ok (some user) =>
      (dispatchUser list exits user
        (scene.memory.getAddress PrefixArea.base PrefixArea.systemUser)).eval default scene
  | .ok none => (.ok .completed, exited scene exits DispatchExit.idle.place)
  | .error reason => (.error reason, scene)

/-- What the search of the in-queue comes to. -/
def InQueueScan (memory : Memory) (list : UInt32) (scanned : Except Decline (Option UInt32)) :
    Prop :=
  memory.QueueScan (memory.getAddress list DispatchList.inQueue)
    (memory.getAddress (memory.getAddress list DispatchList.inQueue) Field.first) chainLimit scanned

/-- A selection that nothing bars runs the first of the stacked work. Where there is none, it looks
for a user unless a shared system is locked. -/
theorem select_eval_unbarred (unbarred : ¬(charged scene).memory.BarsSelection) :
    (select list exits).eval default scene =
      let memory := (charged scene).memory
      let request := memory.getAddress list DispatchList.requestQueue
      let execution := memory.getAddress list DispatchList.executionQueue
      if request ≠ list then (runRequest request).eval default (charged scene)
      else if execution ≠ list then
        (runExecution list exits execution).eval default (charged scene)
      else if memory.get PrefixArea.base PrefixArea.cpStatus2 &&& PrefixArea.sharedLock ≠ 0 then
        (.ok .completed, exited (charged scene) exits DispatchExit.idle.place)
      else
        (dispatchFirst list exits
          (memory.getAddress PrefixArea.base PrefixArea.systemUser)).eval default
            (charged scene) := by
  rw [BarsSelection, not_or, not_not] at unbarred
  obtain ⟨free, running⟩ := unbarred
  simp only [select, currentUser, stopCharging, testBits, eval_bind, eval_general, eval_pure,
    eval_registers, eval_store]
  rw [← charged]
  simp only [eval_fetch, eval_require, eval_fetchAddress, eval_ite, bne_iff_ne]
  simp [free, running, takeExit_eval]

/-- A selection that comes to look for a user comes to what its search tells. -/
theorem select_eval_scan (looks : (charged scene).memory.LooksForUser list) :
    ∃ scanned, InQueueScan (charged scene).memory list scanned ∧
      (select list exits).eval default scene = scanEnds list exits (charged scene) scanned := by
  obtain ⟨scanned, scan, evaluated⟩ := @firstRunnable_eval default (charged scene)
    ((charged scene).memory.getAddress list DispatchList.inQueue) chainLimit
    ((charged scene).memory.getAddress
      ((charged scene).memory.getAddress list DispatchList.inQueue) Field.first)
  refine ⟨scanned, scan, ?_⟩
  rw [select_eval_unbarred looks.unbarred]
  simp only [looks.noRequest, looks.noExecution, looks.unlocked, ne_eq, not_true_eq_false,
    if_false, dispatchFirst, eval_bind, eval_fetchAddress, evaluated]
  rcases scanned with reason | _ | user <;> rfl

end Search

/-- Why a user cannot be loaded: its shadow page tables have to be brought up to date, or more
external interruptions are chained than may be looked at. -/
inductive RefusesLoad (memory : Memory) (user : UInt32) : Decline → Prop where
  | stale (stale : memory.get user Vmblok.extendedStatus &&&
        (Vmblok.pagesInvalid ||| Vmblok.hasShadowTables) =
      Vmblok.pagesInvalid ||| Vmblok.hasShadowTables) :
      RefusesLoad memory user .shadowTablesStale
  | overlong (overlong : memory.PendingOverlong user) :
      RefusesLoad memory user .interruptionChainEndless

/-- Storage once the processor has been given to a user. -/
def Gives (memory : Memory) (user : UInt32) (given : Memory) : Prop :=
  ∃ taken slice, Taken memory user taken ∧ given = taken.givenTo user slice

/-- Why a user that can run is not dispatched by assist, and what is handed to software then. -/
inductive RefusesUser (memory : Memory) (user : UInt32) :
    Decline → List (RegisterNumber × UInt32) → Prop where
  | notAssistable (refuses : memory.get user Vmblok.notAssistable ≠ 0) :
      RefusesUser memory user .userNotAssistable
        [(1, user), (11, memory.getAddress PrefixArea.base PrefixArea.systemUser)]
  | lastUserShared {lastUser : UInt32} (another : user ≠ memory.runningUser)
      (isLast : lastUser =
        (takenFrom memory memory.runningUser).getAddress PrefixArea.base PrefixArea.lastUser)
      (notSystem : lastUser ≠ memory.getAddress PrefixArea.base PrefixArea.systemUser)
      (notSame : lastUser ≠ user)
      (shared : (takenFrom memory memory.runningUser).get lastUser Vmblok.operatingStatus &&&
        Vmblok.runsShared ≠ 0) :
      RefusesUser memory user .lastUserShared [(10, user), (11, lastUser)]
  | load {given : Memory} {reason : Decline} (gives : Gives memory user given)
      (refuses : RefusesLoad given user reason) : RefusesUser memory user reason []

/-- The exit for an abnormal end is taken for a user with invalid segment tables. -/
structure Abends (memory : Memory) (exits user : UInt32) (after : Scene) : Prop where
  invalid : memory.SegmentTablesInvalid user
  stored : after.memory = memory
  address : after.cpu.psw.instructionAddress = memory.getAddress exits DispatchExit.abend.place

/-- The dispatch of a user completes: the user is loaded, or the exit for an abnormal end is
taken. -/
inductive DispatchCompletes (memory : Memory) (exits user : UInt32) :
    Completion → Scene → Prop where
  | dispatched {given : Memory} {after : Scene} (gives : Gives memory user given)
      (loads : Loads given user .dispatched after.memory) :
      DispatchCompletes memory exits user .dispatched after
  | abended {given : Memory} {after : Scene} (gives : Gives memory user given)
      (abends : Abends given exits user after) :
      DispatchCompletes memory exits user .completed after

section Dispatch

variable {known : Knowledge} {scene : Scene} {user : UInt32}

theorem loadControls_neverDeclines (block : UInt32) (field : Field UInt32)
    (registers : List RegisterNumber) : (loadControls block field registers).NeverDeclines := by
  induction registers generalizing field with
  | nil => simp [loadControls]
  | cons register registers ih => simp [loadControls, ih]

theorem fetchRow_neverDeclines (block : UInt32) (field : Field UInt32) (count : Nat) :
    (fetchRow block field count).NeverDeclines := by
  induction count with
  | zero => simp [fetchRow]
  | succ count ih => simp [fetchRow, ih]

theorem start_neverDeclines (user extension : UInt32) (status : UserStatus) (virtual : Psw)
    (controls : TranslationControls) :
    (start user extension status virtual controls).NeverDeclines := by
  simp [start, loadTracing, startClocks, honourPurge, UserStatus.store, stopCharging,
    setTimerFrom, loadControls_neverDeclines, fetchRow_neverDeclines, purgeTlb, perform]

theorem start_yields {extension : UInt32} {status : UserStatus} {virtual : Psw}
    {controls : TranslationControls} {completion : Completion}
    (yields : (start user extension status virtual controls).Yields completion) :
    completion = .dispatched := by
  rw [start] at yields
  split at yields <;>
    · simp only [yields_bind, yields_pure] at yields
      grind

/-- The search of a chain declines for a chain without end alone. -/
theorem findEnabled_declines (control0 : UInt32) (limit : Nat) (link block : UInt32) :
    (findEnabled control0 limit link block).Ensures known
      (fun reason _ => reason = .interruptionChainEndless) (fun _ _ => True) scene := by
  induction limit generalizing link block scene with
  | zero => simp [findEnabled]
  | succ limit ih =>
      simp only [findEnabled, ensures_ite, ensures_bind, ensures_pure]
      refine ⟨fun _ => trivial, fun _ => ensures_fetch _ _ fun subclasses _ => ?_⟩
      exact ⟨fun _ => trivial, fun _ => ensures_fetchAddress _ _ fun next _ => ih _ _⟩

/-- So does the search for pending interruptions. -/
theorem interruptionPending_declines (user extension : UInt32) (status : UserStatus) :
    (interruptionPending user extension status).Ensures known
      (fun reason _ => reason = .interruptionChainEndless) (fun _ _ => True) scene := by
  have chained : ∀ control0 : UInt32,
      (do
        let block ← fetchAddress user Vmblok.externalPending
        let found ← findEnabled control0 chainLimit (user + Vmblok.externalPending.offset) block
        return found.isSome : Microcode Bool).Ensures known
          (fun reason _ => reason = .interruptionChainEndless) (fun _ _ => True) scene := by
    intro control0
    simp only [ensures_bind, ensures_pure]
    exact ensures_fetchAddress _ _ fun block _ => findEnabled_declines _ _ _ _
  simp only [ensures_bind, ensures_pure] at chained
  simp only [interruptionPending, ensures_bind, ensures_ite, ensures_pure]
  refine ensures_fetch _ _ fun waiting _ => ⟨fun _ => ⟨fun _ => trivial, fun _ => ?_⟩,
    fun _ => ⟨fun _ => ensures_fetch _ _ fun control0 _ => ⟨fun _ => trivial, fun _ => ?_⟩,
      fun _ => ⟨fun _ => trivial, fun _ => ?_⟩⟩⟩
  all_goals exact ⟨fun _ => ensures_fetch _ _ fun control0 _ => chained _, fun _ => chained _⟩

theorem load_ends (isFaithful : known.faithful) {micblok : UInt32} {status : UserStatus}
    (processor : status.processor = scene.memory.get user Vmblok.processorStatus)
    (extended : status.extended = scene.memory.get user Vmblok.extendedStatus) (virtual : Psw)
    (controls : TranslationControls) :
    (load user micblok (scene.memory.get user Vmblok.extension) status virtual controls).Ensures
      known (fun reason _ => RefusesLoad scene.memory user reason)
      (fun completion _ => completion = .dispatched) scene := by
  have starts : ∀ (other : UserStatus) (before : Scene),
      (start user (scene.memory.get user Vmblok.extension) other virtual controls).Ensures known
        (fun reason _ => RefusesLoad scene.memory user reason)
        (fun completion _ => completion = .dispatched) before :=
    fun other before => (start_neverDeclines _ _ _ _ _).ensures fun _ _ => start_yields
  simp only [load, ensures_bind, ensures_require, UserStatus.hasExtended, Bool.not_eq_true',
    Bool.not_eq_false', beq_iff_eq, extended]
  refine ⟨fun _ => ?_, fun stale => .stale stale⟩
  simp only [ensures_ite, ensures_bind, ensures_pure, enableAssists]
  refine ⟨fun _ => starts _ _, fun _ => ensures_testBits _ _ _ fun traced _ => ?_⟩
  simp only [ensures_store]
  refine ⟨fun _ _ => starts _ _, fun _ => ?_⟩
  rw [← assistedStatus]
  refine (((interruptionPending_fetches user _ _).finds isFaithful).and
    (interruptionPending_declines user _ _)).mono (fun pending _ _ _ => starts _ _) ?_
  rintro _ after ⟨⟨-, looked⟩, rfl⟩
  have processor : (assistedStatus virtual status.asDispatched).processor = _ := processor
  rw [look_interruptionPending_in processor] at looked
  split at looked
  · cases looked
  · exact .overlong (enabledExternal?_overlong_iff.mp (Option.map_eq_none_iff.mp looked))

theorem loadUser_ends (isFaithful : known.faithful) (exits : UInt32)
    (apart : prefixRegion.Apart (vmblokRegion user)) :
    (loadUser user exits).Ensures known
      (fun reason after => RefusesLoad scene.memory user reason ∧ after.handOffs = scene.handOffs)
      (fun completion after =>
        completion = .dispatched ∧ Loads scene.memory user .dispatched after.memory ∨
          completion = .completed ∧ Abends scene.memory exits user after) scene := by
  have ends : (loadUser user exits).Ensures known
      (fun reason _ => RefusesLoad scene.memory user reason)
      (fun completion after => completion = .dispatched ∨
        completion = .completed ∧ Abends scene.memory exits user after) scene := by
    have loads : ∀ (status : UserStatus) (controls : TranslationControls) (before : Scene),
        before.memory = scene.memory →
        status.processor = scene.memory.get user Vmblok.processorStatus →
        status.extended = scene.memory.get user Vmblok.extendedStatus → ∀ micblok virtual,
        (load user micblok (scene.memory.get user Vmblok.extension) status virtual
          controls).Ensures known (fun reason _ => RefusesLoad scene.memory user reason)
          (fun completion after => completion = .dispatched ∨
            completion = .completed ∧ Abends scene.memory exits user after) before := by
      rintro status controls before same processor extended micblok virtual
      rw [← same] at processor extended ⊢
      exact (load_ends isFaithful processor extended virtual controls).mono (fun _ _ => .inl)
        fun _ _ => id
    simp only [loadUser, UserStatus.fetch, ownControls, ensures_bind, ensures_pure,
      ensures_fetch_iff isFaithful]
    refine ensures_fetchAddress _ _ fun micblok _ => ?_
    refine fetchRow_ensures isFaithful _ _ _ ?_
    simp only [ensures_modify, ensures_bind, ensures_ite, Bool.and_eq_true, ensures_log]
    refine ⟨fun extended => ⟨fun invalid => ?_, fun _ => ⟨fun _ => ?_, fun _ => ?_⟩⟩, fun _ => ?_⟩
    · simp only [takeExit, branch, ensures_bind, ensures_fetch_iff isFaithful, ensures_modify,
        ensures_pure]
      exact .inr ⟨trivial, ⟨extended.1, extended.2, beq_iff_eq.mp invalid⟩, rfl, rfl⟩
    · simp only [shadowControls, ensures_bind, ensures_fetch_iff isFaithful, ensures_pure]
      refine loads _ _ _ ?_ ?_ ?_ _ _ <;> rfl
    · refine loads _ _ _ ?_ ?_ ?_ _ _ <;> rfl
    · refine loads _ _ _ ?_ ?_ ?_ _ _ <;> rfl
  refine ((ends.and (loadUser_loads isFaithful exits apart)).and
    ((loadUser_keepsHandOffs user exits).ensures (fun _ _ _ kept => kept)
      fun _ _ kept => kept)).mono ?_ fun reason after refuses => ⟨refuses.1.1, refuses.2⟩
  rintro completion after ⟨⟨rfl | ⟨rfl, abends⟩, loads⟩, -⟩
  · exact .inl ⟨rfl, loads⟩
  · exact .inr ⟨rfl, abends⟩

section Given

variable {memory : Memory}

/-- A user that has been given the processor is loaded, or is left to software. -/
theorem loadUser_completes (isFaithful : known.faithful) (exits : UInt32)
    (apart : prefixRegion.Apart (vmblokRegion user)) (clean : scene.handOffs = [])
    (gives : Gives memory user scene.memory) :
    (loadUser user exits).Ensures known
      (fun reason after => RefusesUser memory user reason after.handOffs)
      (DispatchCompletes memory exits user) scene := by
  refine (loadUser_ends isFaithful exits apart).mono ?_ ?_
  · rintro completion after (⟨rfl, loads⟩ | ⟨rfl, abends⟩)
    · exact .dispatched gives loads
    · exact .abended gives abends
  · rintro reason after ⟨refuses, kept⟩
    rw [kept, clean]
    exact .load gives refuses

theorem giveTo_completes (isFaithful : known.faithful) (exits slice : UInt32)
    (apart : prefixRegion.Apart (vmblokRegion user)) (clean : scene.handOffs = [])
    (takes : Taken memory user scene.memory) :
    (do giveTo user slice; loadUser user exits).Ensures known
      (fun reason after => RefusesUser memory user reason after.handOffs)
      (DispatchCompletes memory exits user) scene := by
  simp only [giveTo, startCharging, setTimerFrom, ensures_bind, ensures_store,
    ensures_fetch_iff isFaithful, ensures_setTimer]
  intro _ _ _
  refine loadUser_completes isFaithful exits apart ?_ ⟨_, slice, takes, ?_⟩
  · exact clean
  · rfl

/-- It is given the rest of its time slice, or a new one. -/
theorem timeSlice_completes (isFaithful : known.faithful) (list exits rest : UInt32)
    (running : Bool) (apart : prefixRegion.Apart (vmblokRegion user))
    (clean : scene.handOffs = []) (takes : Taken memory user scene.memory) :
    (do
      let slice ← timeSlice list user running rest
      giveTo user slice
      loadUser user exits).Ensures known
        (fun reason after => RefusesUser memory user reason after.handOffs)
        (DispatchCompletes memory exits user) scene := by
  have gives : ∀ slice, (do giveTo user slice; loadUser user exits).Ensures known
      (fun reason after => RefusesUser memory user reason after.handOffs)
      (DispatchCompletes memory exits user) scene :=
    fun slice => giveTo_completes isFaithful exits slice apart clean takes
  simp only [ensures_bind] at gives
  simp only [timeSlice, ensures_bind, ensures_ite, ensures_pure, ensures_fetch_iff isFaithful]
  exact ⟨fun _ => ensures_testBits _ _ _ fun _ _ => ⟨fun _ => gives _, fun _ => gives _⟩,
    fun _ => gives _⟩

end Given

/-- The dispatch of a user completes with that user, or leaves that user to software. -/
theorem dispatchUser_ends (isFaithful : known.faithful) (clean : scene.handOffs = [])
    (list exits : UInt32) (apart : prefixRegion.Apart (vmblokRegion user)) :
    (dispatchUser list exits user
        (scene.memory.getAddress PrefixArea.base PrefixArea.systemUser)).Ensures known
      (fun reason after => RefusesUser scene.memory user reason after.handOffs)
      (DispatchCompletes scene.memory exits user) scene := by
  have goesOn : ∀ (running : Bool) (rest : UInt32) (before : Scene), before.handOffs = [] →
      Taken scene.memory user before.memory →
      (do
        let slice ← timeSlice list user running rest
        giveTo user slice
        loadUser user exits).Ensures known
          (fun reason after => RefusesUser scene.memory user reason after.handOffs)
          (DispatchCompletes scene.memory exits user) before :=
    fun running rest _ => timeSlice_completes isFaithful list exits rest running apart
  simp only [dispatchUser, ensures_bind, ensures_fetch_iff isFaithful, ensures_ite,
    ensures_handOff, ensures_decline, bne_iff_ne]
  refine ⟨fun refuses => ?_, fun _ => ?_⟩
  · rw [clean]
    exact .notAssistable refuses
  refine ensures_fetchAddress _ _ fun runUser isRunning => ?_
  obtain rfl : runUser = scene.memory.runningUser := isRunning isFaithful
  simp only [ensures_bind] at goesOn
  refine ⟨fun another => ?_, fun same => ?_⟩
  · have takes : Taken scene.memory user (takenFrom scene.memory scene.memory.runningUser) :=
      .other another
    simp only [takeFrom, clearBits, ensures_bind, ensures_fetch_iff isFaithful, ensures_store]
    rw [← takenFrom]
    intro _
    refine ensures_fetchAddress _ _ fun lastUser isLast => ?_
    simp only [ensures_ite, ensures_bind, ensures_handOff, ensures_decline, ensures_pure,
      Bool.and_eq_true, bne_iff_ne]
    refine ⟨fun different => ensures_testBits _ _ _ fun shared isShared => ?_,
      fun _ => goesOn _ _ _ ?_ takes⟩
    · refine ⟨fun isOn => ?_, fun _ => goesOn _ _ _ ?_ takes⟩
      · rw [isShared isFaithful, bne_iff_ne] at isOn
        rw [clean]
        exact .lastUserShared another (isLast isFaithful) different.1 different.2 isOn
      · exact clean
    · exact clean
  · exact goesOn _ _ scene clean (.same (not_not.mp same))

theorem dispatchUser_eval (clean : scene.handOffs = []) (list exits : UInt32)
    (apart : prefixRegion.Apart (vmblokRegion user)) :
    match (dispatchUser list exits user
        (scene.memory.getAddress PrefixArea.base PrefixArea.systemUser)).eval default scene with
    | (.ok completion, after) => DispatchCompletes scene.memory exits user completion after
    | (.error reason, after) => RefusesUser scene.memory user reason after.handOffs := by
  have ends := (@dispatchUser_ends .ofStorage scene user trivial clean list exits apart).eval
    default (dispatchUser_fromStorage _ _ _ _)
  split <;> simp_all

end Dispatch

end Dispatcher

open Dispatcher

namespace Memory

/-- Users are queued in form, and nothing is in the way of looking for one that can run. The VMBLOKs
of the users and of the current one lie apart from each other, from the data list and from the
anchor of the queue. -/
@[mk_iff]
structure UsersQueued (memory : Memory) (list current : UInt32) (members users : List UInt32) :
    Prop where
  apart : UsersApart members
  current_mem : current ∈ members
  users_mem : ∀ user ∈ users, user ∈ members
  listApart : (vmblokRegion current).Apart ⟨list, 72⟩
  anchorApart : (vmblokRegion current).Apart
    (.ofField (memory.getAddress list DispatchList.inQueue) (Field.first : Field UInt32))
  looks : memory.LooksForUser list
  queue : memory.InQueue (memory.getAddress list DispatchList.inQueue)
    (memory.getAddress (memory.getAddress list DispatchList.inQueue) Field.first) users
  length_le : users.length ≤ chainLimit

instance (memory : Memory) (list current : UInt32) (members users : List UInt32) :
    Decidable (memory.UsersQueued list current members users) :=
  decidable_of_iff' _ (usersQueued_iff memory list current members users)

namespace UsersQueued

variable {memory : Memory} {list current user : UInt32} {members users : List UInt32}
  (queued : memory.UsersQueued list current members users) (time : UInt64)

include queued

theorem get_prefix {α : Type} [Stored α] (field : Field α)
    (inside : field.offset.toNat + Stored.size α ≤ 0x380) :
    (memory.put current Vmblok.totalTime time).get PrefixArea.base field =
      memory.get PrefixArea.base field :=
  get_prefix_put (queued.apart.prefixApart queued.current_mem) time (by decide) inside

theorem get_list (field : Field UInt32) (small : field.offset.toNat < Address.space)
    (inside : field.offset.toNat + 4 ≤ 72) :
    (memory.put current Vmblok.totalTime time).getAddress list field =
      memory.getAddress list field :=
  AgreesOn.getAddress_eq (put_agreesOn time (queued.listApart.parts
    (vmblok_within current (by decide)) (Region.ofField_within list inside small)))

/-- The part of a user's VMBLOK that holds no time is as it was. -/
theorem get_user {α : Type} [Stored α] (user_mem : user ∈ users) (field : Field α)
    (inside : field.offset.toNat + Stored.size α ≤ 0xc0)
    (clear : 8 ≤ Region.distance Vmblok.totalTime.offset field.offset ∧
      Stored.size α ≤ Region.distance field.offset Vmblok.totalTime.offset) :
    (memory.put current Vmblok.totalTime time).get user field = memory.get user field :=
  AgreesOn.get_eq (put_agreesOn time (queued.apart.fields_apart queued.current_mem
    (queued.users_mem user user_mem) (by decide) inside clear))

theorem get_first :
    (memory.put current Vmblok.totalTime time).getAddress
        (memory.getAddress list DispatchList.inQueue) Field.first =
      memory.getAddress (memory.getAddress list DispatchList.inQueue) Field.first :=
  AgreesOn.getAddress_eq (put_agreesOn time
    (queued.anchorApart.mono (vmblok_within current (by decide))))

theorem charged_looks : (memory.put current Vmblok.totalTime time).LooksForUser list := by
  obtain ⟨unbarred, noRequest, noExecution, unlocked⟩ := queued.looks
  refine ⟨?_, ?_, ?_, ?_⟩
  · rwa [BarsSelection, queued.get_prefix time PrefixArea.extendLock (by decide),
      queued.get_prefix time PrefixArea.processorStatus (by decide)]
  · exact (queued.get_list time _ (by decide) (by decide)).trans noRequest
  · exact (queued.get_list time _ (by decide) (by decide)).trans noExecution
  · rwa [queued.get_prefix time PrefixArea.cpStatus2 (by decide)]

theorem charged_runnable (user_mem : user ∈ users) :
    Runnable (memory.put current Vmblok.totalTime time) user ↔ Runnable memory user := by
  have psw := queued.get_user time user_mem Vmblok.psw (by decide) (by decide)
  have dispatch := queued.get_user time user_mem Vmblok.dispatchStatus (by decide) (by decide)
  have run := queued.get_user time user_mem Vmblok.runStatus (by decide) (by decide)
  constructor
  · rintro ⟨noWait, mayRun, waits⟩
    exact ⟨psw ▸ noWait, dispatch ▸ mayRun, run ▸ waits⟩
  · rintro ⟨noWait, mayRun, waits⟩
    exact ⟨psw.symm ▸ noWait, dispatch.symm ▸ mayRun, run.symm ▸ waits⟩

/-- The search of the queue finds the first user that can run, though the time of the current user
has been charged meanwhile. -/
theorem charged_scan :
    InQueueScan (memory.put current Vmblok.totalTime time) list
      (.ok (users.find? (Runnable memory ·))) := by
  have same : users.find? (Runnable memory ·) =
      users.find? (Runnable (memory.put current Vmblok.totalTime time) ·) :=
    List.find?_congr fun user user_mem =>
      decide_eq_decide.mpr (queued.charged_runnable time user_mem).symm
  rw [InQueueScan, queued.get_list time _ (by decide) (by decide), queued.get_first, same]
  refine InQueue.scan (queued.queue.congr fun user user_mem => ?_) queued.length_le
  exact congrArg Address.wrap (queued.get_user time user_mem _ (by decide) (by decide))

end UsersQueued

end Memory

namespace System

variable {Machine Refusal : Type} {callouts : Callouts Machine Refusal} (policy : Policy)
  (view : StorageView callouts) (system : System Machine) (list exits : UInt32)

/-- Storage once the time of the current user has been charged. -/
def chargedMemory : Memory :=
  (view.memory system.machine).put system.currentUser Vmblok.totalTime
    system.cpu.cpuTimer.toUInt64

/-- What the selection leaves in storage. -/
def selectedMemory : Memory :=
  view.memory (system.selected policy callouts list exits).system.machine

/-- The dispatch of a user once the time of the current user has been charged. -/
def dispatchOf (user : UInt32) : Evaluation :=
  (dispatchUser (Address.wrap list) (Address.wrap exits) user
    ((system.chargedMemory view).getAddress PrefixArea.base PrefixArea.systemUser)).eval default
      { memory := system.chargedMemory view, cpu := system.cpu }

/-- How a selection ends that considers one user: the user is dispatched, the exit for an abnormal
end is taken for it, or it is left to software. -/
inductive EndsWith (user : UInt32) : Prop where
  | dispatched {given : Memory}
      (result : (system.selected policy callouts list exits).result = .ok .dispatched)
      (gives : Gives (system.chargedMemory view) user given)
      (loads : Dispatcher.Loads given user .dispatched
        (system.selectedMemory policy view list exits))
      (runs : HandoverLayout (system.chargedMemory view) user →
        Dispatches (system.chargedMemory view) user .dispatched
          (system.selectedMemory policy view list exits)) :
      EndsWith user
  | abended {given : Memory}
      (result : (system.selected policy callouts list exits).result = .ok .completed)
      (gives : Gives (system.chargedMemory view) user given)
      (invalid : given.SegmentTablesInvalid user)
      (stored : system.selectedMemory policy view list exits = given)
      (address : (system.selected policy callouts list exits).system.cpu.psw.instructionAddress =
        given.getAddress (Address.wrap exits) DispatchExit.abend.place) :
      EndsWith user
  | declined {reason : Decline} {handOffs : List (RegisterNumber × UInt32)}
      (result : (system.selected policy callouts list exits).result = .ok .declined)
      (refuses : RefusesUser (system.chargedMemory view) user reason handOffs)
      (cpu : (system.selected policy callouts list exits).system.cpu =
        handOffs.foldl (fun cpu handOff => cpu.setGeneral handOff.1 handOff.2) system.cpu)
      (unchanged : system.selectedMemory policy view list exits = view.memory system.machine) :
      EndsWith user

/-- A selection comes to the dispatch of one user, and to that of no other. -/
structure Considers (user : UInt32) : Prop where
  comesTo : (system.selected policy callouts list exits).ComesTo view system
    (system.dispatchOf view list exits user)
  ends : prefixRegion.Apart (vmblokRegion user) →
    system.EndsWith policy view list exits user

/-- A selection finds nobody to dispatch: it takes the idle exit and charges the current user's
time. -/
structure Idles : Prop where
  result : (system.selected policy callouts list exits).result = .ok .completed
  cpu : (system.selected policy callouts list exits).system.cpu =
    system.cpu.goingOn
      ((system.chargedMemory view).get (Address.wrap exits) DispatchExit.idle.place)
  charges : system.selectedMemory policy view list exits = system.chargedMemory view

/-- A selection gives up: it leaves storage and registers as they were. -/
structure GivesUp : Prop where
  result : (system.selected policy callouts list exits).result = .ok .declined
  cpu : (system.selected policy callouts list exits).system.cpu = system.cpu
  unchanged : system.selectedMemory policy view list exits = view.memory system.machine

/-- A selection ends by what the search of the in-queue comes to. -/
inductive EndsBy : Except Decline (Option UInt32) → Prop where
  | found {user : UInt32} (considers : system.Considers policy view list exits user) :
      EndsBy (.ok (some user))
  | nobody (idles : system.Idles policy view list exits) : EndsBy (.ok none)
  | endless {reason : Decline} (givesUp : system.GivesUp policy view list exits) :
      EndsBy (.error reason)

/-- How the queue of some users settles a selection: it considers the first of them that can run,
or it idles if none can. -/
structure QueueSettles (users : List UInt32) : Prop where
  first : ∀ earlier user later, users = earlier ++ user :: later →
    (∀ other ∈ earlier, ¬Runnable (view.memory system.machine) other) →
    Runnable (view.memory system.machine) user →
    system.Considers policy view list exits user ∧ system.EndsWith policy view list exits user
  nobody : (∀ user ∈ users, ¬Runnable (view.memory system.machine) user) →
    system.Idles policy view list exits

/-- The queue goes on beyond the members that may be looked at once the time of the current user has
been charged. -/
def QueueEndless : Prop :=
  (system.chargedMemory view).Endless
    ((system.chargedMemory view).getAddress (Address.wrap list) DispatchList.inQueue)
    ((system.chargedMemory view).getAddress
      ((system.chargedMemory view).getAddress (Address.wrap list) DispatchList.inQueue)
      Field.first)
    chainLimit

variable {policy view system list exits}

theorem considers_of_comesTo {user : UInt32}
    (comesTo : (system.selected policy callouts list exits).ComesTo view system
      (system.dispatchOf view list exits user)) :
    system.Considers policy view list exits user := by
  refine ⟨comesTo, fun apart => ?_⟩
  have ends := @dispatchUser_eval { memory := system.chargedMemory view, cpu := system.cpu } user
    rfl (Address.wrap list) (Address.wrap exits) apart
  rw [dispatchOf] at comesTo
  generalize (dispatchUser (Address.wrap list) (Address.wrap exits) user _).eval default _ =
    evaluation at ends comesTo
  obtain ⟨result, cpu, memory⟩ := comesTo
  rcases evaluation with ⟨reason | completion, after⟩
  · exact .declined result ends cpu memory
  · cases ends with
    | @dispatched given _ gives loads =>
        rw [← show system.selectedMemory policy view list exits = after.memory from memory] at loads
        refine .dispatched result gives loads fun layout => ?_
        obtain ⟨taken, slice, takes, rfl⟩ := gives
        exact loads.dispatches layout takes
    | @abended given _ gives abends =>
        refine .abended result gives abends.invalid (memory.trans abends.stored) ?_
        rw [cpu]
        exact (congrArg Psw.instructionAddress (Scene.committedCpu_psw _)).trans abends.address

/-- A selection that comes to look for a user ends by its search, on every queue. -/
theorem selected_endsBy (passed : system.registry.cpGate .disp2 system.cpu = .passed)
    (answered : (system.selected policy callouts list exits).Answered)
    (looks : (system.chargedMemory view).LooksForUser (Address.wrap list)) :
    ∃ scanned, InQueueScan (system.chargedMemory view) (Address.wrap list) scanned ∧
      system.EndsBy policy view list exits scanned := by
  have comesTo := selected_comesTo view passed answered
  obtain ⟨scanned, scan, evaluated⟩ := @select_eval_scan
    { memory := view.memory system.machine, cpu := system.cpu } (Address.wrap list)
    (Address.wrap exits) looks
  refine ⟨scanned, scan, ?_⟩
  rw [evaluated] at comesTo
  rcases scanned with reason | _ | user
  · exact .endless ⟨comesTo.result, comesTo.cpu, comesTo.memory⟩
  · exact .nobody ⟨comesTo.result, comesTo.cpu, comesTo.memory⟩
  · exact .found (considers_of_comesTo comesTo)

/-- A selection that comes to look for a user ends on every queue, and gives up one that goes on
beyond the members that may be looked at. In a queue in form it considers the first user that can
run and nobody else, or it idles. -/
theorem first_runnable_considered (policy : Policy) (view : StorageView callouts)
    (system : System Machine) (list exits : UInt32)
    (passed : system.registry.cpGate .disp2 system.cpu = .passed)
    (answered : (system.selected policy callouts list exits).Answered) :
    ((system.chargedMemory view).LooksForUser (Address.wrap list) →
      (∃ scanned, InQueueScan (system.chargedMemory view) (Address.wrap list) scanned ∧
        system.EndsBy policy view list exits scanned) ∧
      (system.QueueEndless view list → system.GivesUp policy view list exits)) ∧
    ∀ members users, (view.memory system.machine).UsersQueued (Address.wrap list)
      system.currentUser members users → system.QueueSettles policy view list exits users := by
  have endsBy := fun looks => @selected_endsBy _ _ _ _ view _ list exits passed answered looks
  refine ⟨fun looks => ⟨endsBy looks, fun endless => ?_⟩, fun members users queued => ?_⟩
  · obtain ⟨scanned, scan, ends⟩ := endsBy looks
    obtain rfl := scan.unique (.endless endless)
    cases ends with
    | endless givesUp => exact givesUp
  · obtain ⟨scanned, scan, ends⟩ := endsBy (queued.charged_looks _)
    obtain rfl := (queued.charged_scan _).unique scan
    refine ⟨fun earlier user later isQueue passed runnable => ?_, fun passed => ?_⟩
    · have isFirst : users.find? (Runnable (view.memory system.machine) ·) = some user := by
        rw [isQueue, List.find?_append, List.find?_eq_none.mpr (by simpa using passed),
          Option.none_or, List.find?_cons_of_pos (by simpa using runnable)]
      have user_mem : user ∈ members := queued.users_mem user (by simp [isQueue])
      rw [isFirst] at ends
      cases ends with
      | found considers =>
          exact ⟨considers, considers.ends (queued.apart.prefixApart user_mem)⟩
    · rw [List.find?_eq_none.mpr (by simpa using passed)] at ends
      cases ends with
      | nobody idles => exact idles

/-- The user at 7000 stands first in the in-queue but waits, and the one at 9000 can run. -/
def waitingSystem : System Memory :=
  { busySystem with
    cpu := (Call.forUser 0x7000 (.disp2 0x6000 0x6800)).cpu
    machine := busySystem.machine.put 0x7000 Vmblok.runStatus Vmblok.waitsForCp }

theorem waitingSystem_considers :
    waitingSystem.Considers .splitKeys Memory.storageView 0x6000 0x6800 0x9000 ∧
      (waitingSystem.selected .splitKeys Memory.callouts 0x6000 0x6800).result =
        .ok .dispatched ∧
      (waitingSystem.selectedMemory .splitKeys Memory.storageView 0x6000 0x6800).runningUser =
        0x9000 := by
  obtain ⟨-, settles⟩ := first_runnable_considered .splitKeys Memory.storageView waitingSystem
    0x6000 0x6800 (by decide +kernel) (by decide +kernel)
  have queued : waitingSystem.machine.UsersQueued 0x6000 0x7000 [0x7000, 0x9000]
      [0x7000, 0x9000] := by
    decide +kernel
  obtain ⟨considers, -⟩ := (settles _ _ queued).first [0x7000] 0x9000 [] rfl
    (by decide +kernel) (by decide +kernel)
  exact ⟨considers, Response.result_eq_ok (by decide +kernel), by decide +kernel⟩

end System

end Assist370
