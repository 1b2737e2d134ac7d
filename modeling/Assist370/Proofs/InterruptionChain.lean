import Assist370.Proofs.Departure
import Assist370.Proofs.Reflection

/-!
# The chain of pending external interruptions

Pending external interruptions of a user stand in a chain of blocks. The entry of the dispatcher
looks for the first block with a subclass that virtual control register 0 enables
(`Memory.FirstEnabledAt`), and hands over the block together with the address of the word that
points to it, so that the block can be taken off the chain (`Memory.blockAfter_unlink`). The search
ends on every chain: one that goes round, or on for too long, is given up after as many blocks as
may be looked at (`Memory.Overlong`). The dispatch makes the same search, so that both find an
enabled interruption in the same chains (`DispatcherEntry.external_selected`).
-/

namespace Assist370

open Dispatcher

namespace Memory

variable (memory : Memory)

/-- The block at some place of a chain of pending external interruptions, counted from one of its
blocks on. Past the end of the chain it is zero. -/
def blockAfter : UInt32 → Nat → UInt32
  | block, 0 => block
  | block, place + 1 =>
      if block = 0 then 0 else blockAfter (memory.getAddress block Xintblok.next) place

/-- The address of the word that points to the block at some place of a chain. -/
def linkAfter (link block : UInt32) : Nat → UInt32
  | 0 => link
  | place + 1 => memory.blockAfter block place

/-- The subclasses of a block that virtual control register 0 enables. -/
def enabledSubclasses (control0 block : UInt32) : UInt16 :=
  memory.get block Xintblok.subclasses &&& control0.toUInt16

/-- The block at some place is the first of a chain that has a subclass enabled. -/
structure FirstEnabledAt (control0 block : UInt32) (place : Nat) : Prop where
  linked : memory.blockAfter block place ≠ 0
  enabled : memory.enabledSubclasses control0 (memory.blockAfter block place) ≠ 0
  passed : ∀ earlier < place,
    memory.enabledSubclasses control0 (memory.blockAfter block earlier) = 0

/-- A chain goes on beyond the blocks that may be looked at, and none of these has a subclass
enabled. -/
structure Overlong (control0 block : UInt32) (limit : Nat) : Prop where
  linked : memory.blockAfter block limit ≠ 0
  passed : ∀ earlier < limit,
    memory.enabledSubclasses control0 (memory.blockAfter block earlier) = 0

/-- The interruption of the block at some place of a chain. -/
def interruptionAt (control0 link block : UInt32) (place : Nat) : EnabledInterruption where
  link := memory.linkAfter link block place
  block := memory.blockAfter block place
  subclasses := memory.enabledSubclasses control0 (memory.blockAfter block place)

/-- What the search for an enabled interruption finds in a chain. -/
inductive ChainSearch (control0 link block : UInt32) (limit : Nat) :
    Option (Option EnabledInterruption) → Prop where
  | found {place : Nat} (place_lt : place < limit)
      (first : memory.FirstEnabledAt control0 block place) :
      ChainSearch control0 link block limit
        (some (some (memory.interruptionAt control0 link block place)))
  | ended {place : Nat} (place_le : place ≤ limit) (ends : memory.blockAfter block place = 0)
      (passed : ∀ earlier < place,
        memory.enabledSubclasses control0 (memory.blockAfter block earlier) = 0) :
      ChainSearch control0 link block limit (some none)
  | overlong (goesOn : memory.Overlong control0 block limit) :
      ChainSearch control0 link block limit none

variable {memory} {control0 link block : UInt32} {limit place : Nat}

@[simp]
theorem blockAfter_zero (block : UInt32) : memory.blockAfter block 0 = block :=
  rfl

theorem blockAfter_succ (linked : block ≠ 0) (place : Nat) :
    memory.blockAfter block (place + 1) =
      memory.blockAfter (memory.getAddress block Xintblok.next) place :=
  if_neg linked

theorem blockAfter_end (place : Nat) : memory.blockAfter 0 place = 0 := by
  cases place <;> rfl

/-- A chain is linked up to every block of it. -/
theorem blockAfter_ne_zero {place earlier : Nat} (linked : memory.blockAfter block place ≠ 0)
    (earlier_le : earlier ≤ place) : memory.blockAfter block earlier ≠ 0 := by
  induction earlier generalizing block place with
  | zero =>
      rintro rfl
      exact linked (blockAfter_end place)
  | succ earlier ih =>
      cases place with
      | zero => omega
      | succ place =>
          have some : block ≠ 0 := by
            rintro rfl
            exact linked (blockAfter_end _)
          rw [blockAfter_succ some] at linked ⊢
          exact ih linked (by omega)

theorem linkAfter_succ (linked : block ≠ 0) (place : Nat) :
    memory.linkAfter link block (place + 1) =
      memory.linkAfter block (memory.getAddress block Xintblok.next) place := by
  cases place with
  | zero => rfl
  | succ place => exact blockAfter_succ linked place

/-- The search goes through a chain block by block: what is found from the next block on is found
from a block on that has no subclass enabled. -/
theorem ChainSearch.step {found : Option (Option EnabledInterruption)} (linked : block ≠ 0)
    (off : memory.enabledSubclasses control0 block = 0)
    (rest : memory.ChainSearch control0 block (memory.getAddress block Xintblok.next) limit
      found) :
    memory.ChainSearch control0 link block (limit + 1) found := by
  have passedAll : ∀ {place : Nat}, (∀ earlier < place, memory.enabledSubclasses control0
        (memory.blockAfter (memory.getAddress block Xintblok.next) earlier) = 0) →
      ∀ earlier < place + 1,
        memory.enabledSubclasses control0 (memory.blockAfter block earlier) = 0 := by
    intro place passed earlier earlier_lt
    cases earlier with
    | zero => exact off
    | succ earlier =>
        rw [blockAfter_succ linked]
        exact passed earlier (by omega)
  cases rest with
  | @found place place_lt first =>
      have same : memory.interruptionAt control0 block
          (memory.getAddress block Xintblok.next) place =
            memory.interruptionAt control0 link block (place + 1) := by
        rw [interruptionAt, interruptionAt, blockAfter_succ linked, linkAfter_succ linked]
      rw [same]
      refine .found (by omega) ⟨?_, ?_, passedAll first.passed⟩
      · rw [blockAfter_succ linked]
        exact first.linked
      · rw [blockAfter_succ linked]
        exact first.enabled
  | @ended place place_le ends passed =>
      refine @ChainSearch.ended _ _ _ _ _ (place + 1) (by omega) ?_ (passedAll passed)
      rw [blockAfter_succ linked]
      exact ends
  | overlong goesOn =>
      refine .overlong ⟨?_, passedAll goesOn.passed⟩
      rw [blockAfter_succ linked]
      exact goesOn.linked

variable (memory control0 link block limit) in
/-- The search for an enabled interruption ends on every chain. -/
theorem chainSearch_look :
    memory.ChainSearch control0 link block limit
      ((findEnabled control0 limit link block).look memory) := by
  induction limit generalizing link block with
  | zero =>
      by_cases some : block = 0
      · subst some
        exact @ChainSearch.ended _ _ _ _ _ 0 (Nat.le_refl 0) rfl (by simp)
      · simp only [findEnabled, beq_iff_eq, if_neg some]
        exact .overlong ⟨some, by simp⟩
  | succ limit ih =>
      by_cases some : block = 0
      · subst some
        rw [findEnabled_zero]
        exact @ChainSearch.ended _ _ _ _ _ 0 (Nat.zero_le _) rfl (by simp)
      simp only [findEnabled, beq_iff_eq, if_neg some, Microcode.look_bind, Microcode.look_fetch,
        Option.bind_some, Microcode.look_ite, bne_iff_ne, Microcode.look_pure,
        Microcode.look_fetchAddress]
      rw [← enabledSubclasses]
      by_cases off : memory.enabledSubclasses control0 block = 0
      · rw [if_neg (not_not_intro off)]
        exact .step some off (ih block _)
      · rw [if_pos off]
        exact @ChainSearch.found _ _ _ _ _ 0 (Nat.zero_lt_succ _) ⟨some, off, by simp⟩

theorem FirstEnabledAt.unique {other : Nat} (first : memory.FirstEnabledAt control0 block place)
    (second : memory.FirstEnabledAt control0 block other) : other = place := by
  rcases Nat.lt_trichotomy other place with before | same | behind
  · exact absurd (first.passed other before) second.enabled
  · exact same
  · exact absurd (second.passed place behind) first.enabled

theorem FirstEnabledAt.not_overlong (first : memory.FirstEnabledAt control0 block place)
    (place_lt : place < limit) : ¬memory.Overlong control0 block limit :=
  fun overlong => first.enabled (overlong.passed place place_lt)

/-- Where a chain has ended without an enabled block, there is none. -/
theorem FirstEnabledAt.lt_of_ends {ending : Nat}
    (first : memory.FirstEnabledAt control0 block place)
    (ends : memory.blockAfter block ending = 0) : place < ending :=
  Nat.lt_of_not_le fun ending_le => blockAfter_ne_zero first.linked ending_le ends

theorem ChainSearch.found_iff {found : Option (Option EnabledInterruption)}
    (search : memory.ChainSearch control0 link block limit found)
    {interruption : EnabledInterruption} :
    found = some (some interruption) ↔
      ∃ place < limit, memory.FirstEnabledAt control0 block place ∧
        interruption = memory.interruptionAt control0 link block place := by
  constructor
  · rintro rfl
    cases search with
    | found place_lt first => exact ⟨_, place_lt, first, rfl⟩
  · rintro ⟨place, place_lt, first, rfl⟩
    cases search with
    | found _ other => rw [first.unique other]
    | ended _ ends passed => exact absurd (passed place (first.lt_of_ends ends)) first.enabled
    | overlong goesOn => exact absurd goesOn (first.not_overlong place_lt)

theorem ChainSearch.overlong_iff {found : Option (Option EnabledInterruption)}
    (search : memory.ChainSearch control0 link block limit found) :
    found = none ↔ memory.Overlong control0 block limit := by
  constructor
  · rintro rfl
    cases search with
    | overlong goesOn => exact goesOn
  · intro goesOn
    cases search with
    | found place_lt first => exact absurd goesOn (first.not_overlong place_lt)
    | ended place_le ends _ => exact absurd ends (blockAfter_ne_zero goesOn.linked place_le)
    | overlong _ => rfl

/-- A chain none of whose links lies where is stored stays as it is. -/
theorem blockAfter_put {stored value : UInt32}
    (apart : ∀ place, memory.blockAfter block place ≠ 0 →
      (Region.ofField stored (Field.first : Field UInt32)).Apart
        (.ofField (memory.blockAfter block place) (Field.first : Field UInt32)))
    (place : Nat) :
    (memory.put stored Field.first value).blockAfter block place =
      memory.blockAfter block place := by
  induction place generalizing block with
  | zero => rfl
  | succ place ih =>
      by_cases some : block = 0
      · rw [some, blockAfter_end, blockAfter_end]
      have next : (memory.put stored Field.first value).getAddress block Xintblok.next =
          memory.getAddress block Xintblok.next :=
        (put_agreesOn value (apart 0 some)).getAddress_eq
      rw [blockAfter_succ some, blockAfter_succ some, next]
      refine ih fun place linked => ?_
      have behind := apart (place + 1)
      rw [blockAfter_succ some] at behind
      exact behind linked

/-- The word at a link points to the block there. -/
theorem getAddress_linkAfter (points : memory.getAddress link Field.first = block)
    (linked : memory.blockAfter block place ≠ 0) :
    memory.getAddress (memory.linkAfter link block place) Field.first =
      memory.blockAfter block place := by
  induction place generalizing link block with
  | zero => exact points
  | succ place ih =>
      have some : block ≠ 0 := blockAfter_ne_zero linked (Nat.zero_le _)
      rw [blockAfter_succ some] at linked ⊢
      rw [linkAfter_succ some]
      exact ih rfl linked

/-- To store the link of a block where the block is pointed to takes just that block off its chain,
unless that word overlaps another link. -/
theorem blockAfter_unlink (points : memory.getAddress link Field.first = block)
    (linked : memory.blockAfter block place ≠ 0)
    (apart : ∀ other, other ≠ place → memory.linkAfter link block other ≠ 0 ∨ other = 0 →
      (Region.ofField (memory.linkAfter link block place) (Field.first : Field UInt32)).Apart
        (.ofField (memory.linkAfter link block other) (Field.first : Field UInt32)))
    (other : Nat) :
    let unlinked := memory.put (memory.linkAfter link block place) Field.first
      (memory.get (memory.blockAfter block place) Xintblok.next)
    unlinked.blockAfter (unlinked.getAddress link Field.first) other =
      memory.blockAfter block (if other < place then other else other + 1) := by
  induction place generalizing link block other with
  | zero =>
      have next : (memory.put link Field.first (memory.get block Xintblok.next)).getAddress link
          Field.first = memory.getAddress block Xintblok.next := by
        rw [getAddress, get_put_self, getAddress]
      simp only [linkAfter, blockAfter_zero, Nat.not_lt_zero, if_false] at linked apart ⊢
      rw [next, blockAfter_succ linked]
      refine blockAfter_put (fun behind some => ?_) other
      rw [← blockAfter_succ linked] at some ⊢
      exact apart (behind + 2) (by omega) (.inl some)
  | succ place ih =>
      have some : block ≠ 0 := blockAfter_ne_zero linked (Nat.zero_le _)
      have first : (memory.put (memory.linkAfter link block (place + 1)) Field.first
          (memory.get (memory.blockAfter block (place + 1)) Xintblok.next)).getAddress link
            Field.first = block :=
        (put_agreesOn _ (apart 0 (by omega) (.inr rfl))).getAddress_eq.trans points
      simp only [first]
      cases other with
      | zero => simp
      | succ other =>
          have behind : ∀ place, memory.linkAfter block (memory.getAddress block Xintblok.next)
              place = memory.linkAfter link block (place + 1) :=
            fun place => (linkAfter_succ some place).symm
          have rest := @ih block (memory.getAddress block Xintblok.next) rfl
            (by rwa [← blockAfter_succ some]) (fun other different linked => by
              rw [behind, behind]
              refine apart (other + 1) (by omega) (.inl ?_)
              rw [← behind]
              rcases linked with linked | rfl
              · exact linked
              · exact some) other
          simp only [blockAfter_succ some, linkAfter_succ some]
          refine rest.trans ?_
          by_cases before : other < place
          · rw [if_pos before, if_pos (by omega), blockAfter_succ some]
          · rw [if_neg before, if_neg (by omega), blockAfter_succ some]

section Users

variable (memory : Memory) (user : UInt32)

/-- The block at some place of the chain of a user's pending external interruptions. -/
def pendingBlock (place : Nat) : UInt32 :=
  memory.blockAfter (memory.getAddress user Vmblok.externalPending) place

/-- The address of the word that points to that block. -/
def pendingLink (place : Nat) : UInt32 :=
  memory.linkAfter (user + Vmblok.externalPending.offset)
    (memory.getAddress user Vmblok.externalPending) place

/-- The subclasses that a user has enabled of that block. -/
def pendingSubclasses (place : Nat) : UInt16 :=
  memory.enabledSubclasses (memory.virtualControl0 user) (memory.pendingBlock user place)

/-- The block at some place is the first of the chain that the user has a subclass enabled of. -/
abbrev FirstPendingAt (place : Nat) : Prop :=
  memory.FirstEnabledAt (memory.virtualControl0 user)
    (memory.getAddress user Vmblok.externalPending) place

/-- More blocks are chained than may be looked at, and the user has no subclass of these enabled. -/
abbrev PendingOverlong : Prop :=
  memory.Overlong (memory.virtualControl0 user) (memory.getAddress user Vmblok.externalPending)
    chainLimit

/-- A user comes to the search for an external interruption: nothing comes before, and its virtual
PSW enables external interruptions. -/
structure SearchesExternal : Prop where
  notWaiting : memory.get user Vmblok.runStatus &&& Vmblok.waitsForCp = 0
  noEvent : memory.get user Vmblok.pending &&& (Vmblok.eventPending ||| Vmblok.pagePending) = 0
  enabled : (memory.get user Vmblok.psw).externalEnabled = true

/-- What the search for an external interruption that can be presented finds for a user. -/
def presented? : Option (Option EnabledInterruption) :=
  if (memory.get user Vmblok.psw).externalEnabled then memory.enabledExternal? user else some none

/-- Memory once the run status of a user tells whether its virtual PSW is a wait PSW. -/
def notesWait : Memory :=
  memory.put user Vmblok.runStatus
    (if (memory.get user Vmblok.psw).isWait then
      (memory.get user Vmblok.runStatus &&& ~~~(Vmblok.waitsByPsw ||| Vmblok.idle)) |||
        Vmblok.waitsByPsw
    else
      memory.get user Vmblok.runStatus &&& ~~~(Vmblok.waitsByPsw ||| Vmblok.idle))

end Users

theorem enabledExternal?_found_iff {user : UInt32} {interruption : EnabledInterruption} :
    memory.enabledExternal? user = some (some interruption) ↔
      ∃ place < chainLimit, memory.FirstPendingAt user place ∧
        interruption = ⟨memory.pendingLink user place, memory.pendingBlock user place,
          memory.pendingSubclasses user place⟩ :=
  (chainSearch_look memory _ _ _ _).found_iff

theorem enabledExternal?_overlong_iff {user : UInt32} :
    memory.enabledExternal? user = none ↔ memory.PendingOverlong user :=
  (chainSearch_look memory _ _ _ _).overlong_iff

end Memory

namespace Dispatcher

open Microcode

@[simp]
theorem takeExit_neverDeclines (exits : UInt32) (place : Field UInt32) :
    (takeExit exits place).NeverDeclines := by
  simp [takeExit, branch]

theorem chargeIntervalTimer_neverDeclines (user previous list exits : UInt32) :
    (chargeIntervalTimer user previous list exits).NeverDeclines := by
  have address : (intervalTimerAddress user).NeverDeclines := by
    simp only [intervalTimerAddress, loadRealAddress, perform, neverDeclines_bind,
      neverDeclines_registers, neverDeclines_fetch, neverDeclines_modify, neverDeclines_act,
      neverDeclines_done, implies_true, true_and]
    intro _ _ _ _ _ _ translated _ _ _
    cases translated <;> simp
  simp [chargeIntervalTimer, countDown, address, setGeneral]

/-- The dispatcher's entry declines nowhere on its way to the look at a user. -/
theorem approach_neverDeclines (list exits : UInt32) : (approach list exits).NeverDeclines := by
  have charges : ∀ user, (chargeRunTime user list exits).NeverDeclines := by
    simp [chargeRunTime, stopCharging, startCharging, setTimerFrom, noteEnd, chargeProblemTime,
      chargeIntervalTimer_neverDeclines]
  simp only [approach, currentUser, neverDeclines_bind, neverDeclines_ite, neverDeclines_general,
    neverDeclines_pure, neverDeclines_fetch, takeExit_neverDeclines, charges, implies_true,
    true_and, and_true]
  intro user _ status _ runs charged _
  cases charged <;> simp [exitFor, setGeneral]

section Choice

variable {answers : Answers} {scene : Scene} {user : UInt32}

/-- The scene once an external interruption has been handed over. -/
def tellExternal (scene : Scene) (interruption : EnabledInterruption) : Scene :=
  { scene with
    cpu := ((scene.cpu.setGeneral 4 interruption.subclasses.toUInt32).setGeneral 5
      interruption.link).setGeneral 6 interruption.block }

/-- The registers once an external interruption has been handed over. -/
theorem told_registers (scene : Scene) (user : UInt32) (interruption : EnabledInterruption) :
    let told := ((tellExternal scene interruption).cpu.setGeneral 11 user).general
    told.read 4 = interruption.subclasses.toUInt32 ∧ told.read 5 = interruption.link ∧
      told.read 6 = interruption.block ∧ told.read 11 = user := by
  simp [tellExternal, Cpu.setGeneral, RegisterFile.read_load]

/-- How a search for an enabled interruption ends, by what it finds. -/
def searched {α : Type} (scene : Scene) : Option α → Except Decline α × Scene
  | some found => (.ok found, scene)
  | none => (.error .interruptionChainEndless, scene)

theorem findEnabled_eval (control0 : UInt32) (limit : Nat) (link block : UInt32) :
    (findEnabled control0 limit link block).eval answers scene =
      searched scene ((findEnabled control0 limit link block).look scene.memory) := by
  induction limit generalizing link block with
  | zero =>
      simp only [findEnabled]
      split <;> rfl
  | succ limit ih =>
      simp only [findEnabled, eval_ite, look_ite, eval_bind, look_bind, eval_fetch, look_fetch,
        Option.bind_some, eval_pure, look_pure, eval_fetchAddress, look_fetchAddress, ih]
      split
      · rfl
      · split <;> rfl

/-- A program that only fetches, and finds something, ends with it. -/
theorem eval_of_look {α : Type} {program : Microcode α} (fetches : program.Takes Action.Fetches)
    {value : α} (looked : program.look scene.memory = some value) :
    program.eval answers scene = (.ok value, scene) := by
  induction program with
  | done found =>
      obtain rfl : found = value := Option.some.inj looked
      rfl
  | decline reason => nomatch looked
  | act action next ih =>
      have fetches := (takes_act action next).mp fetches
      cases action with
      | fetch address length => exact ih _ (fetches.2 _) looked
      | _ => exact fetches.1.elim

theorem externalInterruption_eval (psw : Psw) :
    (externalInterruption user psw (scene.memory.get user Vmblok.processorStatus)).eval answers
        scene =
      searched scene (if psw.externalEnabled then scene.memory.enabledExternal? user
        else some none) := by
  have control0 : (virtualControl0 user (scene.memory.get user Vmblok.processorStatus)).eval
      answers scene = (.ok (scene.memory.virtualControl0 user), scene) :=
    eval_of_look (by simp [virtualControl0]) (look_virtualControl0 scene.memory user)
  rw [← look_externalInterruption]
  simp only [externalInterruption, eval_bind, look_bind, eval_fetchAddress, look_fetchAddress,
    Option.bind_some, eval_ite, look_ite, control0, look_virtualControl0, findEnabled_eval,
    eval_pure, look_pure]
  split <;> rfl

/-- The exit that is chosen for a user that no external interruption is presented to. -/
def withoutExternal (scene : Scene) (user : UInt32) : EntryExit × Scene :=
  if scene.memory.presentedChannels user ≠ 0 then
    (.io, { scene with cpu := scene.cpu.setGeneral 7 (scene.memory.presentedChannels user) })
  else
    (if (scene.memory.get user Vmblok.psw).isWait then .virtualWait else .dispatch,
      { scene with memory := scene.memory.notesWait user })

/-- The exit that is chosen for a user, by what the look at it finds. -/
theorem chooseExit_eval (user : UInt32) :
    (chooseExit user).eval answers scene =
      if scene.memory.get user Vmblok.runStatus &&& Vmblok.waitsForCp ≠ 0 then
        (.ok .waitsForCp, scene)
      else if scene.memory.get user Vmblok.pending &&&
          (Vmblok.eventPending ||| Vmblok.pagePending) ≠ 0 then
        (.ok .eventOrPage, scene)
      else
        match scene.memory.presented? user with
        | none => (.error .interruptionChainEndless, scene)
        | some (some interruption) => (.ok .external, tellExternal scene interruption)
        | some none => ((withoutExternal scene user).map .ok id) := by
  have io : (ioInterruptions user (scene.memory.get user Vmblok.psw)
      (scene.memory.get user Vmblok.processorStatus)).eval answers scene =
        (.ok (scene.memory.presentedChannels user), scene) := by
    refine eval_of_look (by simp [ioInterruptions, enabledChannels]) ?_
    rw [look_ioInterruptions, Memory.waitingChannels_and]
    rfl
  simp only [chooseExit, testBits, eval_bind, eval_fetch, eval_pure, eval_ite, bne_iff_ne,
    externalInterruption_eval]
  rw [← Memory.presented?]
  refine if_congr Iff.rfl rfl (if_congr Iff.rfl rfl ?_)
  rcases scene.memory.presented? user with _ | _ | interruption
  · rfl
  · simp only [searched, eval_bind, io, eval_ite, setGeneral, eval_modify, eval_pure, eval_fetch,
      eval_store, withoutExternal, Memory.notesWait]
    split
    · rfl
    · split <;> rfl
  · rfl

theorem chooseExit_fromStorage (user : UInt32) :
    (chooseExit user).Takes Action.FromStorage := by
  have reflects : (reflect user 0).Takes Action.FromStorage := by simp
  rw [reflect_eq, takes_bind] at reflects
  exact reflects.1

theorem withoutExternal_ne (user : UInt32) : (withoutExternal scene user).1 ≠ .external := by
  rw [withoutExternal]
  split
  · nofun
  · simp only
    split <;> nofun

/-- What is chosen for a user that the search for an external interruption is come to for. -/
theorem chooseExit_searches (searches : scene.memory.SearchesExternal user) :
    (chooseExit user).eval answers scene =
      match scene.memory.enabledExternal? user with
      | none => (.error .interruptionChainEndless, scene)
      | some (some interruption) => (.ok .external, tellExternal scene interruption)
      | some none => (withoutExternal scene user).map .ok id := by
  rw [chooseExit_eval, if_neg (not_not_intro searches.notWaiting),
    if_neg (not_not_intro searches.noEvent), Memory.presented?, if_pos searches.enabled]

/-- Without that search some other exit is chosen. -/
theorem chooseExit_passes (passes : ¬scene.memory.SearchesExternal user) :
    ∃ exit after, exit ≠ .external ∧
      (chooseExit user).eval answers scene = (.ok exit, after) := by
  rw [chooseExit_eval]
  by_cases waits : scene.memory.get user Vmblok.runStatus &&& Vmblok.waitsForCp ≠ 0
  · exact ⟨.waitsForCp, scene, nofun, if_pos waits⟩
  by_cases event : scene.memory.get user Vmblok.pending &&&
      (Vmblok.eventPending ||| Vmblok.pagePending) ≠ 0
  · exact ⟨.eventOrPage, scene, nofun, by rw [if_neg waits, if_pos event]⟩
  have masked : ¬(scene.memory.get user Vmblok.psw).externalEnabled = true := fun enabled =>
    passes ⟨not_not.mp waits, not_not.mp event, enabled⟩
  refine ⟨(withoutExternal scene user).1, (withoutExternal scene user).2,
    withoutExternal_ne user, ?_⟩
  rw [if_neg waits, if_neg event, Memory.presented?, if_neg masked]
  rfl

/-- The exit for an external interruption is chosen exactly if the search for one finds one. -/
theorem chooseExit_external_iff {after : Scene} :
    (chooseExit user).eval answers scene = (.ok .external, after) ↔
      scene.memory.SearchesExternal user ∧
        ∃ place < chainLimit, scene.memory.FirstPendingAt user place ∧
          after = tellExternal scene ⟨scene.memory.pendingLink user place,
            scene.memory.pendingBlock user place, scene.memory.pendingSubclasses user place⟩ := by
  by_cases searches : scene.memory.SearchesExternal user
  · have found : (∃ place < chainLimit, scene.memory.FirstPendingAt user place ∧
          after = tellExternal scene ⟨scene.memory.pendingLink user place,
            scene.memory.pendingBlock user place, scene.memory.pendingSubclasses user place⟩) ↔
        ∃ interruption, scene.memory.enabledExternal? user = some (some interruption) ∧
          after = tellExternal scene interruption := by
      simp only [Memory.enabledExternal?_found_iff]
      constructor
      · rintro ⟨place, place_lt, first, rfl⟩
        exact ⟨_, ⟨place, place_lt, first, rfl⟩, rfl⟩
      · rintro ⟨_, ⟨place, place_lt, first, rfl⟩, rfl⟩
        exact ⟨place, place_lt, first, rfl⟩
    rw [chooseExit_searches searches, and_iff_right searches, found]
    rcases scene.memory.enabledExternal? user with _ | _ | interruption
    · simp
    · have other : (withoutExternal scene user).1 ≠ .external := withoutExternal_ne user
      simp [Prod.ext_iff, other]
    · simp [eq_comm]
  · obtain ⟨exit, other, different, chosen⟩ := @chooseExit_passes answers _ _ searches
    rw [chosen]
    refine iff_of_false (fun same => ?_) fun leaves => searches leaves.1
    simp_all

/-- The choice of an exit declines exactly if the search for an external interruption is given
up. -/
theorem chooseExit_declines_iff {reason : Decline} {after : Scene} :
    (chooseExit user).eval answers scene = (.error reason, after) ↔
      (scene.memory.SearchesExternal user ∧ scene.memory.PendingOverlong user) ∧
        reason = .interruptionChainEndless ∧ after = scene := by
  by_cases searches : scene.memory.SearchesExternal user
  · rw [chooseExit_searches searches, and_iff_right searches,
      ← Memory.enabledExternal?_overlong_iff]
    rcases scene.memory.enabledExternal? user with _ | _ | interruption
    · simp [eq_comm]
    · simp [Prod.ext_iff]
    · simp
  · obtain ⟨exit, other, different, chosen⟩ := @chooseExit_passes answers _ _ searches
    rw [chosen]
    exact iff_of_false nofun fun leaves => searches leaves.1.1

end Choice

end Dispatcher

variable {Machine Refusal : Type}

/-- An external interruption of a user has been reflected: what the registers tell of the block at
some place of the chain. -/
structure ReflectsExternal (memory : Memory) (user exits : UInt32) (place : Nat) (cpu : Cpu) :
    Prop where
  first : memory.FirstPendingAt user place
  forUser : cpu.general.read 11 = user
  address : cpu.psw.instructionAddress = memory.getAddress exits EntryExit.external.place
  block : cpu.general.read 6 = memory.pendingBlock user place
  subclasses : cpu.general.read 4 = (memory.pendingSubclasses user place).toUInt32
  link : cpu.general.read 5 = memory.pendingLink user place
  points : memory.getAddress (cpu.general.read 5) Field.first = cpu.general.read 6
  /-- To store the link of the block into the word that points to it takes it off the chain, and no
  other block, unless that word overlaps another one that points to a block. -/
  unlinks : (∀ other, other ≠ place → memory.pendingLink user other ≠ 0 ∨ other = 0 →
      (Region.ofField (cpu.general.read 5) (Field.first : Field UInt32)).Apart
        (.ofField (memory.pendingLink user other) (Field.first : Field UInt32))) →
    ∀ other, (memory.put (cpu.general.read 5) Field.first
        (memory.get (cpu.general.read 6) Xintblok.next)).pendingBlock user other =
      memory.pendingBlock user (if other < place then other else other + 1)

/-- The first word of the chain is that of the VMBLOK. -/
theorem Memory.getAddress_externalPending (memory : Memory) (user : UInt32) :
    memory.getAddress (user + Vmblok.externalPending.offset) Field.first =
      memory.getAddress user Vmblok.externalPending := by
  simp [getAddress, get, Field.first]

theorem Memory.FirstEnabledAt.reflects {memory : Memory} {user exits : UInt32} {place : Nat}
    {cpu : Cpu} (first : memory.FirstPendingAt user place) (forUser : cpu.general.read 11 = user)
    (address : cpu.psw.instructionAddress = memory.getAddress exits EntryExit.external.place)
    (block : cpu.general.read 6 = memory.pendingBlock user place)
    (subclasses : cpu.general.read 4 = (memory.pendingSubclasses user place).toUInt32)
    (link : cpu.general.read 5 = memory.pendingLink user place) :
    ReflectsExternal memory user exits place cpu := by
  have points := memory.getAddress_externalPending user
  refine ⟨first, forUser, address, block, subclasses, link, ?_, fun apart other => ?_⟩
  · rw [link, block]
    exact Memory.getAddress_linkAfter points first.linked
  · rw [link] at apart ⊢
    rw [block, pendingBlock, ← Memory.getAddress_externalPending]
    exact Memory.blockAfter_unlink points first.linked apart other

namespace DispatcherEntry

section Looks

variable {callouts : Callouts Machine Refusal} {policy : Policy}
  {entry : DispatcherEntry Machine} {user : UInt32}

/-- What follows the look at a user: an exit is chosen for it and taken. -/
def conclusion (entry : DispatcherEntry Machine) (user entries : UInt32) :
    Microcode Completion := do
  let exit ← chooseExit user
  leave user (Address.wrap entry.list) (Address.wrap entry.exits) exit entries

/-- The run of an entry that looks at a user goes on with what follows the look. -/
theorem LooksAt.enter_run (looks : entry.LooksAt callouts user) :
    ∃ entries, (enter (Address.wrap entry.list) (Address.wrap entry.exits)).run callouts
        entry.start =
      (entry.conclusion user entries).run callouts (entry.arrived callouts).2 := by
  obtain ⟨entries, counted, fetched, approached⟩ := Microcode.run_bind_done looks.ran
  refine ⟨entries + 1, ?_⟩
  rw [enter, selectExit_eq, Microcode.bind_eq_bind, Microcode.run_bind, fetched]
  simp only [LawfulMonad.bind_assoc]
  rw [Microcode.bind_eq_bind, Microcode.run_bind, approached]
  simp only [LawfulMonad.bind_assoc]
  rfl

theorem response_of_passed
    (passed : entry.found.registry.cpGate .disp0 entry.found.cpu = .passed) :
    entry.response policy callouts =
      { entry.found with registry := entry.found.registry.recordCall .disp0 }.settle callouts
        .disp0 ((enter (Address.wrap entry.list) (Address.wrap entry.exits)).run callouts
          entry.start) := by
  rw [DispatcherEntry.response, System.perform]
  simp only [Request.program, System.performControlProgram, Request.assist, passed]
  rfl

/-- An entry that declines behind its gate has come to look at a user. -/
theorem looksAt_of_declined
    (passed : entry.found.registry.cpGate .disp0 entry.found.cpu = .passed)
    (declined : (entry.response policy callouts).result = .ok .declined) :
    ∃ user, entry.LooksAt callouts user := by
  rw [response_of_passed passed] at declined
  generalize ran : (enter (Address.wrap entry.list) (Address.wrap entry.exits)).run callouts
    entry.start = ended at declined
  rcases ended with ⟨completion | reason | error, after⟩
  · simp only [System.settle] at declined
    split at declined
    · cases declined
    · cases completion <;> cases declined
  · rw [enter, selectExit_eq] at ran
    simp only [LawfulMonad.bind_assoc] at ran
    -- Neither the count is refused, nor does the way to the look decline.
    rcases Microcode.run_bind_declined ran with ran | ⟨entries, counted, fetched, ran⟩
    · exact absurd ran (Microcode.neverDeclines_fetch _ _).run_ne
    rcases Microcode.run_bind_declined ran with ran | ⟨charged, middle, approached, ran⟩
    · exact absurd ran (approach_neverDeclines _ _).run_ne
    cases charged with
    | left completion =>
        simp only [pure_bind] at ran
        refine absurd ran (Microcode.NeverDeclines.run_ne ?_)
        simp
    | goesOn user =>
        refine ⟨user, ?_⟩
        rw [LooksAt, arrived, arrive, Microcode.bind_eq_bind, Microcode.run_bind, fetched]
        exact congrArg Prod.fst approached
  · cases declined

section View

variable (callouts) in
theorem arrived_looks (entry : DispatcherEntry Machine) :
    callouts.Reaches Callout.Looks entry.found.machine (entry.arrived callouts).2.machine :=
  Microcode.run_looks callouts _ entry.start

variable (view : StorageView callouts)

/-- The scene of an entry when it looks at a user. -/
def sightedScene (entry : DispatcherEntry Machine) : Scene :=
  (entry.arrived callouts).2.scene view.memory

theorem conclusion_fromStorage (entry : DispatcherEntry Machine) (entries : UInt32) :
    (entry.conclusion user entries).Takes Action.FromStorage := by
  simp [conclusion, chooseExit_fromStorage, leave, exitFor, Microcode.setGeneral]

/-- An answered entry that looks at a user comes to what follows the look. -/
theorem LooksAt.comesTo (looks : entry.LooksAt callouts user)
    (passed : entry.found.registry.cpGate .disp0 entry.found.cpu = .passed)
    (answered : (entry.response policy callouts).Answered) :
    ∃ entries, (entry.response policy callouts).ComesTo view entry.found
      ((entry.conclusion user entries).eval default (entry.sightedScene view)) := by
  obtain ⟨entries, ran⟩ := looks.enter_run
  have takes := @conclusion_fromStorage _ user entry entries
  have ignores : (entry.conclusion user entries).IgnoresReference :=
    (takes.mono fun _ fromStorage => fromStorage.isKeyless).ignoresReference
  have inSpace : (entry.arrived callouts).2.journal.InSpace :=
    Microcode.run_inSpace callouts _ Journal.inSpace_empty
  have settled := @System.settle_comesTo _ _ callouts default _ view
    { entry.found with registry := entry.found.registry.recordCall .disp0 }
    (view.tells default entry.found.machine) .disp0 _ takes ignores
    (entry.arrived callouts).2 (entry.arrived_looks callouts) inSpace
  rw [response_of_passed passed, ran] at answered ⊢
  obtain ⟨result, cpu, memory⟩ := settled answered
  exact ⟨entries, result, cpu, memory⟩

/-- The choice of an answered entry that looks at a user is told by its evaluation. -/
theorem LooksAt.chosen_eval (looks : entry.LooksAt callouts user)
    (passed : entry.found.registry.cpGate .disp0 entry.found.cpu = .passed)
    (answered : (entry.response policy callouts).Answered) :
    ∃ chosen after, (chooseExit user).eval default (entry.sightedScene view) = (chosen, after) ∧
      ∀ exit, (entry.chosen callouts user).1 = .done exit ↔ chosen = .ok exit := by
  have takes := chooseExit_fromStorage user
  have ignores : (chooseExit user).IgnoresReference :=
    (takes.mono fun _ fromStorage => fromStorage.isKeyless).ignoresReference
  have ends := Microcode.run_eval (view.tells default entry.found.machine) takes ignores
    (entry.arrived_looks callouts)
  obtain ⟨entries, ran⟩ := looks.enter_run
  rw [response_of_passed passed, ran, conclusion, Microcode.bind_eq_bind, Microcode.run_bind]
    at answered
  rw [← DispatcherEntry.chosen] at ends answered
  generalize entry.chosen callouts user = chosen at ends answered ⊢
  rcases chosen with ⟨exit | reason | error, after⟩
  · exact ⟨.ok exit, after.scene view.memory, ends, fun other => by simp⟩
  · exact ⟨.error reason, after.scene view.memory, ends, fun other => by simp⟩
  · simp [System.settle, Response.Answered, Except.isOk, Except.toBool] at answered

theorem LooksAt.chooses_iff (looks : entry.LooksAt callouts user)
    (passed : entry.found.registry.cpGate .disp0 entry.found.cpu = .passed)
    (answered : (entry.response policy callouts).Answered) {exit : EntryExit} :
    entry.Chooses callouts user exit ↔
      ∃ after, (chooseExit user).eval default (entry.sightedScene view) = (.ok exit, after) := by
  obtain ⟨chosen, after, evaluated, told⟩ := looks.chosen_eval view passed answered
  rw [evaluated]
  constructor
  · intro chooses
    exact ⟨after, by rw [(told exit).mp chooses.chooses]⟩
  · rintro ⟨other, same⟩
    exact ⟨looks, (told exit).mpr (congrArg Prod.fst same)⟩

theorem leave_eval {scene : Scene} (list exits entries : UInt32) (exit : EntryExit) :
    (leave user list exits exit entries).eval default scene =
      (.ok .completed,
        { exited { scene with cpu := scene.cpu.setGeneral 11 user } exits exit.place with
          memory := scene.memory.put list EntryList.entries entries }) :=
  rfl

variable (policy) in
/-- How the search for an external interruption settles an answered entry that looks at a user. -/
structure ExternalSettles (entry : DispatcherEntry Machine) (user : UInt32) : Prop where
  chooses : entry.Chooses callouts user .external ↔
    (entry.sighted view).SearchesExternal user ∧
      ∃ place < chainLimit, (entry.sighted view).FirstPendingAt user place
  reflects : entry.Chooses callouts user .external →
    entry.Completes policy callouts ∧
      (∃ place < chainLimit, ReflectsExternal (entry.sighted view) user (Address.wrap entry.exits)
        place (entry.response policy callouts).system.cpu) ∧
      ∀ region, entry.counter.Apart region →
        (entry.after policy view).AgreesOn (entry.sighted view) region
  declines : (entry.response policy callouts).result = .ok .declined ↔
    (entry.sighted view).SearchesExternal user ∧ (entry.sighted view).PendingOverlong user
  idle : ¬(entry.before view).ChargesUser → entry.sighted view = entry.before view
  kept : entry.Completes policy callouts → ∀ region,
    (entry.found.ran policy callouts (.disp0 entry.list entry.exits)).2.journal.Spares region →
      (entry.sighted view).AgreesOn (entry.before view) region

theorem LooksAt.chooses_external_iff (looks : entry.LooksAt callouts user)
    (passed : entry.found.registry.cpGate .disp0 entry.found.cpu = .passed)
    (answered : (entry.response policy callouts).Answered) :
    entry.Chooses callouts user .external ↔
      (entry.sighted view).SearchesExternal user ∧
        ∃ place < chainLimit, (entry.sighted view).FirstPendingAt user place := by
  simp only [looks.chooses_iff view passed answered, chooseExit_external_iff]
  constructor
  · rintro ⟨-, searches, place, place_lt, first, -⟩
    exact ⟨searches, place, place_lt, first⟩
  · rintro ⟨searches, place, place_lt, first⟩
    exact ⟨_, searches, place, place_lt, first, rfl⟩

theorem LooksAt.declined_iff (looks : entry.LooksAt callouts user)
    (passed : entry.found.registry.cpGate .disp0 entry.found.cpu = .passed)
    (answered : (entry.response policy callouts).Answered) :
    (entry.response policy callouts).result = .ok .declined ↔
      (entry.sighted view).SearchesExternal user ∧ (entry.sighted view).PendingOverlong user := by
  obtain ⟨entries, comesTo⟩ := looks.comesTo view passed answered
  have declines := @chooseExit_declines_iff default (entry.sightedScene view) user
  rw [comesTo.result, conclusion, Microcode.eval_bind]
  generalize (chooseExit user).eval default (entry.sightedScene view) = evaluated at declines
  rcases evaluated with ⟨reason | exit, after⟩
  · obtain ⟨stalls, -⟩ := declines.mp rfl
    exact iff_of_true rfl stalls
  · refine iff_of_false nofun fun stalls => ?_
    nomatch declines.mpr ⟨stalls, rfl, rfl⟩

theorem LooksAt.reflects_external (looks : entry.LooksAt callouts user)
    (passed : entry.found.registry.cpGate .disp0 entry.found.cpu = .passed)
    (answered : (entry.response policy callouts).Answered)
    (external : entry.Chooses callouts user .external) :
    entry.Completes policy callouts ∧
      (∃ place < chainLimit, ReflectsExternal (entry.sighted view) user (Address.wrap entry.exits)
        place (entry.response policy callouts).system.cpu) ∧
      ∀ region, entry.counter.Apart region →
        (entry.after policy view).AgreesOn (entry.sighted view) region := by
  obtain ⟨entries, comesTo⟩ := looks.comesTo view passed answered
  obtain ⟨after, evaluated⟩ := (looks.chooses_iff view passed answered).mp external
  have evaluated' := evaluated
  obtain ⟨-, place, place_lt, first, rfl⟩ := chooseExit_external_iff.mp evaluated
  simp only [conclusion, Microcode.eval_bind, evaluated', leave_eval] at comesTo
  obtain ⟨result, cpu, memory⟩ := comesTo
  have general : (entry.response policy callouts).system.cpu.general =
      ((tellExternal (entry.sightedScene view) _).cpu.setGeneral 11 user).general :=
    (congrArg Cpu.general cpu).trans (Scene.committedCpu_general _)
  obtain ⟨subclasses, link, block, forUser⟩ := told_registers (entry.sightedScene view) user
    ⟨(entry.sighted view).pendingLink user place, (entry.sighted view).pendingBlock user place,
      (entry.sighted view).pendingSubclasses user place⟩
  refine ⟨result, ⟨place, place_lt, first.reflects ?_ ?_ ?_ ?_ ?_⟩, fun region counter => ?_⟩
  · rw [general]
    exact forUser
  · rw [cpu]
    exact congrArg Psw.instructionAddress (Scene.committedCpu_psw _)
  · rw [general]
    exact block
  · rw [general]
    exact subclasses
  · rw [general]
    exact link
  · rw [DispatcherEntry.after, memory]
    exact Memory.put_agreesOn _ counter

theorem LooksAt.externalSettles (looks : entry.LooksAt callouts user)
    (passed : entry.found.registry.cpGate .disp0 entry.found.cpu = .passed)
    (answered : (entry.response policy callouts).Answered) :
    entry.ExternalSettles policy view user where
  chooses := looks.chooses_external_iff view passed answered
  reflects := looks.reflects_external view passed answered
  declines := looks.declined_iff view passed answered
  idle := looks.sighted_idle view
  kept := fun completes _ => looks.sighted_agreesOn view completes

end View

end Looks

section Selection

variable {callouts : Callouts Machine Refusal} (policy : Policy) (view : StorageView callouts)
  (entry : DispatcherEntry Machine)

/-- The dispatch finds an enabled external interruption in a user's chain just as the entry does,
unless it has noticed something else before. -/
structure DispatchSearches (memory : Memory) (user : UInt32) (status : UserStatus) : Prop where
  notices : NoticesIn memory user status →
    (interruptionPending user (memory.get user Vmblok.extension) status).look memory = some true
  finds : ¬NoticesIn memory user status →
    ((interruptionPending user (memory.get user Vmblok.extension) status).look memory =
        some true ↔
      ∃ place < chainLimit, memory.FirstPendingAt user place)
  givesUp : ¬NoticesIn memory user status →
    ((interruptionPending user (memory.get user Vmblok.extension) status).look memory = none ↔
      memory.PendingOverlong user)

theorem dispatchSearches {memory : Memory} {user : UInt32} {status : UserStatus}
    (processor : status.processor = memory.get user Vmblok.processorStatus) :
    DispatchSearches memory user status := by
  have looked := look_interruptionPending_in processor
  refine ⟨fun notices => ?_, fun unnoticed => ?_, fun unnoticed => ?_⟩
  · rw [looked, if_pos notices]
  · rw [looked, if_neg unnoticed]
    constructor
    · intro found
      obtain ⟨interruption, isFound, some⟩ := Option.map_eq_some_iff.mp found
      obtain ⟨interruption, rfl⟩ := Option.isSome_iff_exists.mp some
      obtain ⟨place, place_lt, first, -⟩ := Memory.enabledExternal?_found_iff.mp isFound
      exact ⟨place, place_lt, first⟩
    · rintro ⟨place, place_lt, first⟩
      rw [Memory.enabledExternal?_found_iff.mpr ⟨place, place_lt, first, rfl⟩]
      rfl
  · rw [looked, if_neg unnoticed, Option.map_eq_none_iff]
    exact Memory.enabledExternal?_overlong_iff

/-- An answered entry finds the first enabled external interruption of the user that it looks at, if
it stands among the blocks that may be looked at, and declines for no other reason than that a chain
goes on beyond these. The dispatch finds one in the same chains. -/
theorem external_selected
    (passed : entry.found.registry.cpGate .disp0 entry.found.cpu = .passed)
    (answered : (entry.response policy callouts).Answered) :
    (∀ user, entry.LooksAt callouts user → entry.ExternalSettles policy view user) ∧
      ((entry.response policy callouts).result = .ok .declined →
        ∃ user, entry.LooksAt callouts user ∧ (entry.sighted view).SearchesExternal user ∧
          (entry.sighted view).PendingOverlong user) ∧
      ∀ (memory : Memory) (user : UInt32) (status : UserStatus),
        status.processor = memory.get user Vmblok.processorStatus →
          DispatchSearches memory user status := by
  have settles : ∀ user, entry.LooksAt callouts user → entry.ExternalSettles policy view user :=
    fun user looks => looks.externalSettles view passed answered
  refine ⟨settles, fun declined => ?_, fun memory user status => dispatchSearches⟩
  obtain ⟨user, looks⟩ := looksAt_of_declined passed declined
  exact ⟨user, looks, (settles user looks).declines.mp declined⟩

end Selection

/-- An entry for a user with two external interruptions pending, the second of which is enabled. -/
def chainedEntry : DispatcherEntry Memory where
  found :=
    { registry := Registry.initial true false
      cpu := (Call.forUser 0x7000 (.disp0 0x5000 0x5800)).cpu
      machine :=
        (((((((Memory.zero.put 0x7000 Vmblok.externalPending 0x9000).put
          0x7000 Vmblok.psw { systemMask := 0x01, instructionAddress := 0xa000 }).put
          0x7000 Vmblok.extension 0x80).put
          0x9000 Xintblok.next 0x9800).put
          0x9000 Xintblok.subclasses 0x1000).put
          0x9800 Xintblok.next 0x9c00).put
          0x9800 Xintblok.subclasses 0x1080).put
          0x5800 EntryExit.external.place 0x1018 }
  list := 0x5000
  exits := 0x5800

theorem chainedEntry_unlinks :
    let left := (chainedEntry.response .splitKeys Memory.callouts).system.cpu.general
    chainedEntry.Chooses Memory.callouts 0x7000 .external ∧
      left.read 4 = 0x80 ∧ left.read 5 = 0x9000 ∧ left.read 6 = 0x9800 ∧
      ∃ place < chainLimit, ReflectsExternal (chainedEntry.before Memory.storageView) 0x7000 0x5800
        place (chainedEntry.response .splitKeys Memory.callouts).system.cpu := by
  have looks : chainedEntry.LooksAt Memory.callouts 0x7000 := by
    rw [LooksAt]
    decide +kernel
  obtain ⟨settles, -⟩ := external_selected .splitKeys Memory.storageView chainedEntry
    (by decide +kernel) (by decide +kernel)
  have chooses : chainedEntry.Chooses Memory.callouts 0x7000 .external :=
    ⟨looks, by decide +kernel⟩
  obtain ⟨-, reflects, -⟩ := (settles 0x7000 looks).reflects chooses
  rw [(settles 0x7000 looks).idle (by decide +kernel)] at reflects
  exact ⟨chooses, by decide +kernel, by decide +kernel, by decide +kernel, reflects⟩

end DispatcherEntry

end Assist370
