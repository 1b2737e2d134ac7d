import Mathlib.Tactic.MkIffOfInductiveProp
import Assist370.Proofs.Billing
import Assist370.Proofs.Isolation
import Assist370.Proofs.PendingFlag

/-!
# Reflection of I/O interruptions

Once run time has been charged, the entry of the dispatcher looks at a user and chooses an exit for
it (`Dispatcher.chooseExit`). It chooses the exit for an I/O interruption exactly if nothing comes
before and some channel with a pending interruption is let through. In basic-control mode channels
0 to 5 have a bit of the system mask each, and the bit of all others lets virtual control register 2
tell them apart. The entry takes that register whole, however, so that it lets one of the first six
channels through, too, whose own bit is off (`Memory.ChannelStrays`). Such strays are the only
difference (`DispatcherEntry.reflects_io`).
-/

namespace Assist370

open Dispatcher

namespace Memory

variable (memory : Memory) (user : UInt32)

/-- An I/O interruption of a channel is pending for a user. -/
def ChannelPending (channel : Nat) : Prop :=
  (memory.get user Vmblok.ioPending).toBitVec.getMsbD channel = true

/-- The system mask of a user lets virtual control register 2 enable channels. -/
def MasksByRegister : Prop :=
  (memory.get user Vmblok.psw).systemMask &&& Psw.ioMask ≠ 0

/-- Virtual control register 2 of a user has the bit of a channel. -/
def InControl2 (channel : Nat) : Prop :=
  (memory.virtualControl2 user).toBitVec.getMsbD channel = true

/-- The system mask of a user has a channel's own bit, where channels have one. -/
def InSystemMask (channel : Nat) : Prop :=
  (memory.get user Vmblok.psw).systemMask.toBitVec.getMsbD channel = true

/-- The virtual PSW and virtual control register 2 enable I/O interruptions of a channel: in
basic-control mode the first six channels by a bit of the system mask each. -/
def ChannelEnabled (channel : Nat) : Prop :=
  if memory.inExtendedMode user then
    memory.MasksByRegister user ∧ memory.InControl2 user channel
  else if channel < 6 then
    memory.InSystemMask user channel
  else
    memory.isExtended user ∧ memory.MasksByRegister user ∧ memory.InControl2 user channel

/-- One of the first six channels, masked by its own bit in basic-control mode, is let through by
virtual control register 2. -/
@[mk_iff]
structure ChannelStrays (channel : Nat) : Prop where
  basicMode : memory.inExtendedMode user = false
  isExtended : memory.isExtended user = true
  byRegister : memory.MasksByRegister user
  named : memory.InControl2 user channel
  first : channel < 6
  masked : ¬memory.InSystemMask user channel

/-- The entry of the dispatcher finds an I/O interruption of a channel that it can present. -/
def ChannelPresented (channel : Nat) : Prop :=
  memory.ChannelPending user channel ∧
    (memory.ChannelEnabled user channel ∨ memory.ChannelStrays user channel)

/-- A user leaves the dispatcher's entry for an I/O interruption: nothing comes before, and there is
one that can be presented. -/
structure LeavesForIo : Prop where
  notWaiting : memory.get user Vmblok.runStatus &&& Vmblok.waitsForCp = 0
  noEvent : memory.get user Vmblok.pending &&& (Vmblok.eventPending ||| Vmblok.pagePending) = 0
  noExternal : (memory.get user Vmblok.psw).externalEnabled = true →
    memory.enabledExternal? user = some none
  presented : ∃ channel, memory.ChannelPresented user channel

/-- The channels with an I/O interruption that can be presented, a bit each from the left. -/
def presentedChannels : UInt32 :=
  memory.waitingChannels user &&& channelsOf (memory.get user Vmblok.psw).systemMask
    (memory.isExtended user) (memory.inExtendedMode user) (memory.virtualControl2 user)

end Memory

theorem Dispatcher.getMsbD_directChannels (systemMask : UInt8) (channel : Nat) :
    (directChannels systemMask false).toBitVec.getMsbD channel = true ↔
      channel < 6 ∧ systemMask.toBitVec.getMsbD channel = true := by
  have lowBits : ∀ index < 8, Psw.lowChannelsMask.toBitVec.getLsbD index = decide (2 ≤ index) := by
    decide
  simp [directChannels, BitVec.getMsbD]
  grind

namespace Memory

variable {memory : Memory} {user : UInt32}

theorem getMsbD_waitingChannels (channel : Nat) :
    (memory.waitingChannels user).toBitVec.getMsbD channel = true ↔
      memory.ChannelPending user channel := by
  simp [waitingChannels, ChannelPending, BitVec.getMsbD]
  grind

/-- The channels that are let through are those that are enabled, and strays. -/
theorem getMsbD_channelsOf (channel : Nat) :
    (channelsOf (memory.get user Vmblok.psw).systemMask (memory.isExtended user)
        (memory.inExtendedMode user) (memory.virtualControl2 user)).toBitVec.getMsbD channel =
          true ↔
      memory.ChannelEnabled user channel ∨ memory.ChannelStrays user channel := by
  have named : (memory.virtualControl2 user).toBitVec.getMsbD channel = true ↔
      memory.InControl2 user channel := Iff.rfl
  rw [channelStrays_iff, ChannelEnabled, channelsOf]
  cases mode : memory.inExtendedMode user with
  | true =>
      by_cases byRegister : memory.MasksByRegister user
      · simp [directChannels, byRegister, bne_iff_ne.mpr byRegister, InControl2]
      · have off := Decidable.not_not.mp byRegister
        simp [directChannels, byRegister, off]
  | false =>
      have direct := getMsbD_directChannels (memory.get user Vmblok.psw).systemMask channel
      rw [← InSystemMask] at direct
      by_cases byRegister : memory.MasksByRegister user
      · cases extended : memory.isExtended user with
        | true =>
            simp [byRegister, bne_iff_ne.mpr byRegister, direct, named]
            grind
        | false =>
            simp [direct]
      · have off := Decidable.not_not.mp byRegister
        simp [byRegister, off, direct]

theorem getMsbD_presentedChannels (channel : Nat) :
    (memory.presentedChannels user).toBitVec.getMsbD channel = true ↔
      memory.ChannelPresented user channel := by
  rw [presentedChannels, UInt32.toBitVec_and, BitVec.getMsbD_and, Bool.and_eq_true,
    getMsbD_waitingChannels, getMsbD_channelsOf, ChannelPresented]

theorem ChannelStrays.not_enabled {channel : Nat} (strays : memory.ChannelStrays user channel) :
    ¬memory.ChannelEnabled user channel := by
  rw [ChannelEnabled, if_neg (by simp [strays.basicMode]), if_pos strays.first]
  exact strays.masked

/-- What is presented is just what is enabled, unless an interruption of a stray is pending. -/
theorem presented_enabled_iff :
    (∀ channel, memory.ChannelPresented user channel ↔
        memory.ChannelPending user channel ∧ memory.ChannelEnabled user channel) ↔
      ∀ channel, ¬(memory.ChannelPending user channel ∧ memory.ChannelStrays user channel) := by
  constructor
  · rintro enabled channel ⟨pending, strays⟩
    exact strays.not_enabled ((enabled channel).mp ⟨pending, .inr strays⟩).2
  · intro noStrays channel
    refine and_congr_right fun pending => or_iff_left fun strays => ?_
    exact noStrays channel ⟨pending, strays⟩

theorem presentedChannels_ne_zero_iff :
    memory.presentedChannels user ≠ 0 ↔ ∃ channel, memory.ChannelPresented user channel := by
  constructor
  · intro some
    by_contra none
    refine some (UInt32.toBitVec_inj.mp (BitVec.eq_of_getMsbD_eq fun channel _ => ?_))
    have off : ¬memory.ChannelPresented user channel := fun presented => none ⟨channel, presented⟩
    rw [← getMsbD_presentedChannels, Bool.not_eq_true] at off
    simp [off]
  · rintro ⟨channel, presented⟩ none
    rw [← getMsbD_presentedChannels, none] at presented
    simp at presented

end Memory

namespace Dispatcher

open Microcode

/-- Chooses the exit for a user whose time has been charged. -/
def chooseExit (user : UInt32) : Microcode EntryExit := do
  if ← testBits user Vmblok.runStatus Vmblok.waitsForCp then
    return .waitsForCp
  else if ← testBits user Vmblok.pending (Vmblok.eventPending ||| Vmblok.pagePending) then
    return .eventOrPage
  else
    let psw ← fetch user Vmblok.psw
    let processorStatus ← fetch user Vmblok.processorStatus
    match ← externalInterruption user psw processorStatus with
    | some interruption =>
        setGeneral 4 interruption.subclasses.toUInt32
        setGeneral 5 interruption.link
        setGeneral 6 interruption.block
        return .external
    | none =>
        let channels ← ioInterruptions user psw processorStatus
        if channels != 0 then
          setGeneral 7 channels
          return .io
        else
          let status := (← fetch user Vmblok.runStatus) &&&
            ~~~(Vmblok.waitsByPsw ||| Vmblok.idle)
          if psw.isWait then
            store user Vmblok.runStatus (status ||| Vmblok.waitsByPsw)
            return .virtualWait
          else
            store user Vmblok.runStatus status
            return .dispatch

/-- What comes before the look at a user: an exit is taken, or the entry goes on with a user whose
time has been charged. -/
def approach (list exits : UInt32) : Microcode Charged := do
  let user ← currentUser
  let status ← fetch PrefixArea.base PrefixArea.cpStatus
  if status &&& PrefixArea.cpRuns != 0 then
    match ← chargeRunTime user list exits with
    | .left completion => return .left completion
    | .goesOn user =>
        let status ← fetch user Vmblok.dispatchStatus
        let ioOld ← fetch PrefixArea.base PrefixArea.ioOldMask
        if ioOld &&& Psw.translationMask != 0 && status &&& Vmblok.dispatched != 0 then
          return .left (← exitFor user exits .clean)
        else
          return .goesOn user
  else if status &&& PrefixArea.cpWaits != 0 then
    return .left (← takeExit exits EntryExit.cpWait.place)
  else
    return .goesOn user

/-- The entry of the dispatcher up to its look at a user. -/
def arrive (list exits : UInt32) : Microcode Charged := do
  let _ ← fetch list EntryList.entries
  approach list exits

/-- Takes the exit that has been chosen for a user, and counts the entry. -/
def leave (user list exits : UInt32) (exit : EntryExit) (entries : UInt32) :
    Microcode Completion := do
  let completion ← exitFor user exits exit
  store list EntryList.entries entries
  return completion

variable {known : Knowledge} {scene : Scene} {user list exits : UInt32}

theorem reflect_eq : reflect user exits = chooseExit user >>= exitFor user exits := by
  simp only [reflect, chooseExit, LawfulMonad.bind_assoc]
  refine bind_congr fun waits => ?_
  split
  · rw [pure_bind]
  simp only [LawfulMonad.bind_assoc]
  refine bind_congr fun event => ?_
  split
  · rw [pure_bind]
  simp only [LawfulMonad.bind_assoc]
  refine bind_congr fun psw => bind_congr fun processorStatus => bind_congr fun found => ?_
  cases found with
  | some interruption => simp only [LawfulMonad.bind_assoc, pure_bind]
  | none =>
      simp only [LawfulMonad.bind_assoc]
      refine bind_congr fun channels => ?_
      split
      · simp only [LawfulMonad.bind_assoc, pure_bind]
      simp only [exitByPsw, LawfulMonad.bind_assoc]
      refine bind_congr fun status => ?_
      split <;> simp only [LawfulMonad.bind_assoc, pure_bind]

theorem selectExit_eq :
    selectExit list exits = (do
      match ← approach list exits with
      | .left completion => pure completion
      | .goesOn user => exitFor user exits (← chooseExit user)) := by
  simp only [selectExit, approach, LawfulMonad.bind_assoc]
  refine bind_congr fun user => bind_congr fun status => ?_
  split
  · simp only [LawfulMonad.bind_assoc]
    refine bind_congr fun charged => ?_
    cases charged with
    | left completion => simp only [pure_bind]
    | goesOn user =>
        simp only [exitRunning, LawfulMonad.bind_assoc]
        refine bind_congr fun status => bind_congr fun ioOld => ?_
        split
        · simp only [LawfulMonad.bind_assoc, pure_bind, bind_pure]
        · rw [pure_bind, reflect_eq]
  · split
    · simp only [LawfulMonad.bind_assoc, pure_bind, bind_pure]
    · rw [pure_bind, reflect_eq]

/-- The exit for an I/O interruption is chosen exactly if a user leaves for one. Then the channels
have been put into general register 7, and nothing else has changed. -/
theorem chooseExit_achieves (isFaithful : known.faithful) :
    (chooseExit user).Achieves known
      (fun exit after => (exit = .io ↔ scene.memory.LeavesForIo user) ∧
        (exit = .io → after =
          { scene with cpu := scene.cpu.setGeneral 7 (scene.memory.presentedChannels user) }))
      scene := by
  have externalFetches : (externalInterruption user (scene.memory.get user Vmblok.psw)
      (scene.memory.get user Vmblok.processorStatus)).Takes Action.Fetches :=
    takes_externalInterruption (fun _ _ => trivial) user _ _
  have ioFetches : (ioInterruptions user (scene.memory.get user Vmblok.psw)
      (scene.memory.get user Vmblok.processorStatus)).Takes Action.Fetches :=
    takes_ioInterruptions (fun _ _ => trivial) user _ _
  -- An exit other than that for I/O is right where something keeps the user from leaving for it.
  have other : ∀ (exit : EntryExit) (after : Scene), exit ≠ .io →
      ¬scene.memory.LeavesForIo user →
      (exit = .io ↔ scene.memory.LeavesForIo user) ∧ (exit = .io → after =
        { scene with cpu := scene.cpu.setGeneral 7 (scene.memory.presentedChannels user) }) :=
    fun exit after different stays =>
      ⟨iff_of_false different stays, fun same => absurd same different⟩
  simp only [Achieves, chooseExit, testBits, ensures_bind, ensures_fetch_iff isFaithful,
    ensures_pure, ensures_ite, bne_iff_ne]
  refine ⟨fun waits => other .waitsForCp _ (by decide) fun leaves => waits leaves.notWaiting,
    fun runs => ?_⟩
  refine ⟨fun event => other .eventOrPage _ (by decide) fun leaves => event leaves.noEvent,
    fun noEvent => ?_⟩
  refine (externalFetches.look isFaithful scene).mono ?_ fun _ _ => id
  rintro found after ⟨same, looked⟩
  subst after
  rw [look_externalInterruption] at looked
  cases found with
  | some interruption =>
      simp only [ensures_bind, setGeneral, ensures_modify, ensures_pure]
      refine other .external _ (by decide) fun leaves => ?_
      split at looked
      · rename_i enabled
        rw [leaves.noExternal enabled] at looked
        cases looked
      · cases looked
  | none =>
      have noExternal : (scene.memory.get user Vmblok.psw).externalEnabled = true →
          scene.memory.enabledExternal? user = some none := fun enabled => by
        rwa [if_pos enabled] at looked
      simp only [ensures_bind]
      refine (ioFetches.look isFaithful scene).mono ?_ fun _ _ => id
      rintro channels after ⟨same, found⟩
      subst after
      rw [look_ioInterruptions, Memory.waitingChannels_and] at found
      obtain rfl : scene.memory.presentedChannels user = channels := Option.some.inj found
      simp only [ensures_ite, ensures_bind, setGeneral, ensures_modify, ensures_pure,
        ensures_fetch_iff isFaithful, ensures_store]
      refine ⟨fun some => ?_, fun none => ?_⟩
      · have presented := Memory.presentedChannels_ne_zero_iff.mp some
        have leaves : scene.memory.LeavesForIo user :=
          ⟨Decidable.not_not.mp runs, Decidable.not_not.mp noEvent, noExternal, presented⟩
        exact ⟨iff_of_true trivial leaves, fun _ => trivial⟩
      · have stays : ¬scene.memory.LeavesForIo user := fun leaves =>
          none (Memory.presentedChannels_ne_zero_iff.mpr leaves.presented)
        exact ⟨fun _ _ => other .virtualWait _ (by decide) stays,
          fun _ _ => other .dispatch _ (by decide) stays⟩

/-- To come to the look at a user changes nothing in storage while no user runs. -/
theorem arrive_idle (isFaithful : known.faithful) (idle : ¬scene.memory.ChargesUser) :
    (arrive list exits).Achieves known (fun _ after => after.memory = scene.memory) scene := by
  simp only [Achieves, arrive, approach, currentUser, takeExit, branch, ensures_bind,
    ensures_general, ensures_pure, ensures_fetch_iff isFaithful, ensures_ite, ensures_modify,
    bne_iff_ne]
  exact ⟨fun charges => absurd charges idle, fun _ => ⟨fun _ => trivial, fun _ => trivial⟩⟩

/-- An exit that has been chosen is taken with the user in general register 11. -/
theorem leave_achieves (isFaithful : known.faithful) (exit : EntryExit) (entries : UInt32) :
    (leave user list exits exit entries).Achieves known
      (fun _ after => after.cpu.general = scene.cpu.general.load 11 user ∧
        after.cpu.psw.instructionAddress = scene.memory.getAddress exits exit.place) scene := by
  simp only [Achieves, leave, exitFor, takeExit, branch, setGeneral, ensures_bind, ensures_modify,
    ensures_fetch_iff isFaithful, ensures_store, ensures_pure]
  exact fun _ => ⟨rfl, rfl⟩

end Dispatcher

variable {Machine Refusal : Type}

namespace DispatcherEntry

section

variable (callouts : Callouts Machine Refusal) (entry : DispatcherEntry Machine)

/-- The staging area that an entry starts with. -/
def start : Staging Machine where
  machine := entry.found.machine
  cpu := entry.found.cpu

/-- The run of an entry up to its look at a user. -/
def arrived : Ending Refusal Charged × Staging Machine :=
  (arrive (Address.wrap entry.list) (Address.wrap entry.exits)).run callouts entry.start

/-- The run of the choice of an exit for a user that an entry looks at. -/
def chosen (user : UInt32) : Ending Refusal EntryExit × Staging Machine :=
  (chooseExit user).run callouts (entry.arrived callouts).2

/-- The entry comes to look at a user. -/
def LooksAt (user : UInt32) : Prop :=
  (entry.arrived callouts).1 = .done (.goesOn user)

/-- The entry looks at a user and chooses an exit for it. -/
structure Chooses (user : UInt32) (exit : EntryExit) : Prop where
  looks : entry.LooksAt callouts user
  chooses : (entry.chosen callouts user).1 = .done exit

variable {callouts} in
/-- Storage as an entry sees it when it looks at a user. -/
def sighted (view : StorageView callouts) : Memory :=
  view.seen (entry.arrived callouts).2

end

/-- An I/O interruption of a user has been reflected: what the registers tell of it. -/
structure ReflectsIo (memory : Memory) (user exits : UInt32) (cpu : Cpu) : Prop where
  forUser : cpu.general.read 11 = user
  address : cpu.psw.instructionAddress = memory.getAddress exits EntryExit.io.place
  channels : ∀ channel, (cpu.general.read 7).toBitVec.getMsbD channel = true ↔
    memory.ChannelPresented user channel
  noStrays : (∀ channel, (cpu.general.read 7).toBitVec.getMsbD channel = true ↔
      memory.ChannelPending user channel ∧ memory.ChannelEnabled user channel) ↔
    ∀ channel, ¬(memory.ChannelPending user channel ∧ memory.ChannelStrays user channel)

variable {callouts : Callouts Machine Refusal} {policy : Policy}
  {entry : DispatcherEntry Machine} {user : UInt32}

/-- A completed entry that looks at a user chooses an exit and takes it. -/
theorem Completes.takes (view : StorageView callouts)
    (completes : entry.Completes policy callouts) (looks : entry.LooksAt callouts user) :
    ∃ exit entries after, entry.Chooses callouts user exit ∧
      (leave user (Address.wrap entry.list) (Address.wrap entry.exits) exit entries).run callouts
        (entry.chosen callouts user).2 = (.done .completed, after) ∧
      (entry.response policy callouts).system.cpu = after.committedCpu ∧
      (entry.found.ran policy callouts (.disp0 entry.list entry.exits)).2 = after := by
  have completed : (entry.found.perform policy callouts (.disp0 entry.list entry.exits)).result =
      .ok Completion.completed.outcome := completes
  obtain ⟨after, isRan, cpu, -⟩ := System.ran_of_completed view completed
  have ran : (enter (Address.wrap entry.list) (Address.wrap entry.exits)).run callouts
      entry.start = (.done .completed, after) := isRan
  rw [enter, selectExit_eq] at ran
  simp only [LawfulMonad.bind_assoc] at ran
  obtain ⟨entries, counted, fetched, ran⟩ := Microcode.run_bind_done ran
  obtain ⟨charged, middle, approached, ran⟩ := Microcode.run_bind_done ran
  have arrived : entry.arrived callouts = (.done charged, middle) := by
    rw [DispatcherEntry.arrived, arrive, Microcode.bind_eq_bind, Microcode.run_bind, fetched]
    exact approached
  rw [LooksAt, arrived] at looks
  cases looks
  simp only [LawfulMonad.bind_assoc] at ran
  obtain ⟨exit, chosen, chose, ran⟩ := Microcode.run_bind_done ran
  have isChosen : entry.chosen callouts user = (.done exit, chosen) := by
    rw [DispatcherEntry.chosen, arrived, chose]
  refine ⟨exit, entries + 1, after, ⟨?_, ?_⟩, ?_, cpu, congrArg Prod.snd isRan⟩
  · rw [LooksAt, arrived]
  · rw [isChosen]
  · rw [isChosen]
    exact ran

theorem LooksAt.ran (looks : entry.LooksAt callouts user) :
    (arrive (Address.wrap entry.list) (Address.wrap entry.exits)).run callouts entry.start =
      (.done (.goesOn user), (entry.arrived callouts).2) :=
  Prod.ext looks rfl

section Sight

variable (view : StorageView callouts)

theorem Chooses.io_iff {exit : EntryExit} (chooses : entry.Chooses callouts user exit) :
    (exit = .io ↔ (entry.sighted view).LeavesForIo user) ∧
      (exit = .io → (entry.chosen callouts user).2.scene view.memory =
        { (entry.arrived callouts).2.scene view.memory with
          cpu := (entry.arrived callouts).2.cpu.setGeneral 7
            ((entry.sighted view).presentedChannels user) }) := by
  have achieves : (chooseExit user).Achieves .ofStorage _
      ((entry.arrived callouts).2.scene view.memory) := chooseExit_achieves trivial
  have ends := achieves.run (view.shows _) .refl fun _ _ => trivial
  have chose : (chooseExit user).run callouts (entry.arrived callouts).2 =
      (.done exit, (entry.chosen callouts user).2) := Prod.ext chooses.chooses rfl
  rw [chose] at ends
  exact ends

theorem scene_start : (entry.start.scene view.memory).memory = entry.before view :=
  Journal.onto_empty _

/-- While no user runs, a look at a user finds storage as the entry has found it. -/
theorem LooksAt.sighted_idle (looks : entry.LooksAt callouts user)
    (idle : ¬(entry.before view).ChargesUser) : entry.sighted view = entry.before view := by
  rw [← scene_start] at idle
  have achieves : (arrive (Address.wrap entry.list) (Address.wrap entry.exits)).Achieves .ofStorage
      _ (entry.start.scene view.memory) := arrive_idle trivial idle
  have ends := achieves.run (view.shows entry.found.machine) .refl fun _ _ => trivial
  rw [looks.ran, scene_start] at ends
  exact ends

/-- A look at a user finds storage as the entry has found it wherever the entry stores nothing. -/
theorem LooksAt.sighted_agreesOn (looks : entry.LooksAt callouts user)
    (completes : entry.Completes policy callouts) {region : Region}
    (spares : (entry.found.ran policy callouts
      (.disp0 entry.list entry.exits)).2.journal.Spares region) :
    (entry.sighted view).AgreesOn (entry.before view) region := by
  obtain ⟨exit, entries, after, -, rest, -, ran⟩ := completes.takes view looks
  rw [ran] at spares
  have covers : ∀ stored, (entry.arrived callouts).2.journal.Covers stored →
      after.journal.Covers stored := by
    intro stored covers
    have chosen := (chooseExit user).run_covers callouts covers
    have last := (leave user (Address.wrap entry.list) (Address.wrap entry.exits) exit
      entries).run_covers callouts chosen
    rw [← DispatcherEntry.chosen, rest] at last
    exact last
  have shows := view.shows_stores after.journal entry.found.machine
  have ends := (Microcode.ensures_spares (arrive (Address.wrap entry.list)
    (Address.wrap entry.exits)) (entry.start.scene view.memory)).run shows .refl covers
  rw [looks.ran, scene_start] at ends
  exact ends region spares.knowledge

/-- The exit for an I/O interruption is taken exactly if the look at a user finds that it leaves for
one. The channels in general register 7 are then those with a pending interruption that are enabled,
and strays. -/
theorem reflects_io (completes : entry.Completes policy callouts)
    (looks : entry.LooksAt callouts user) :
    (entry.Chooses callouts user .io ↔ (entry.sighted view).LeavesForIo user) ∧
      (entry.Chooses callouts user .io → ReflectsIo (entry.sighted view) user
        (Address.wrap entry.exits) (entry.response policy callouts).system.cpu) ∧
      (¬(entry.before view).ChargesUser → entry.sighted view = entry.before view) ∧
      ∀ region, (entry.found.ran policy callouts
          (.disp0 entry.list entry.exits)).2.journal.Spares region →
        (entry.sighted view).AgreesOn (entry.before view) region := by
  obtain ⟨exit, entries, after, chooses, rest, cpu, -⟩ := completes.takes view looks
  obtain ⟨leaves, chosen⟩ := chooses.io_iff view
  have isIo : entry.Chooses callouts user .io ↔ exit = .io := by
    constructor
    · intro io
      have same := chooses.chooses.symm.trans io.chooses
      simpa using same
    · rintro rfl
      exact chooses
  refine ⟨isIo.trans leaves, fun io => ?_, looks.sighted_idle view,
    fun region => looks.sighted_agreesOn view completes⟩
  obtain rfl := isIo.mp io
  have achieves : (leave user (Address.wrap entry.list) (Address.wrap entry.exits) .io
      entries).Achieves .ofStorage _ ((entry.chosen callouts user).2.scene view.memory) :=
    leave_achieves trivial .io entries
  have ends := achieves.run (view.shows _) .refl fun _ _ => trivial
  rw [rest, chosen rfl] at ends
  obtain ⟨general, address⟩ := ends
  have cpu : (entry.response policy callouts).system.cpu =
      (after.scene view.memory).committedCpu := cpu
  have general : (entry.response policy callouts).system.cpu.general =
      ((entry.arrived callouts).2.cpu.general.load 7
        ((entry.sighted view).presentedChannels user)).load 11 user := by
    rw [cpu, Scene.committedCpu_general]
    exact general
  have channels : (entry.response policy callouts).system.cpu.general.read 7 =
      (entry.sighted view).presentedChannels user := by
    rw [general, RegisterFile.read_load, if_neg (by decide), RegisterFile.read_load, if_pos rfl]
  refine ⟨?_, ?_, fun channel => ?_, ?_⟩
  · rw [general, RegisterFile.read_load, if_pos rfl]
  · rw [cpu, Scene.committedCpu_psw]
    exact address
  · rw [channels, Memory.getMsbD_presentedChannels]
  · simp only [channels, Memory.getMsbD_presentedChannels, Memory.presented_enabled_iff]

end Sight

/-- An entry for an extended virtual machine in basic-control mode with interruptions of channels 0,
1 and 7 pending. Its system mask has the bits of channel 1 and of all from 6 on, and virtual control
register 2 those of channels 0 and 7. -/
def strayEntry : DispatcherEntry Memory where
  found :=
    { registry := Registry.initial true false
      cpu := (Call.forUser 0x7000 (.disp0 0x5000 0x5800)).cpu
      machine :=
        (((((Memory.zero.put 0x7000 Vmblok.ioPending 0xc100).put
          0x7000 Vmblok.psw { systemMask := 0x42, instructionAddress := 0xa000 }).put
          0x7000 Vmblok.processorStatus Vmblok.extendedMachine).put
          0x7000 Vmblok.extension 0x7800).put
          0x7800 (Ecblok.control.item 2) 0x81000000).put
          0x5800 EntryExit.io.place 0x1018 }
  list := 0x5000
  exits := 0x5800

theorem strayEntry_completes : strayEntry.Completes .splitKeys Memory.callouts :=
  Response.result_eq_ok (by decide +kernel)

theorem strayEntry_looksAt : strayEntry.LooksAt Memory.callouts 0x7000 := by
  rw [LooksAt]
  decide +kernel

theorem strayEntry_reflectsIo :
    strayEntry.Chooses Memory.callouts 0x7000 .io ∧
      ReflectsIo (strayEntry.before Memory.storageView) 0x7000 0x5800
        (strayEntry.response .splitKeys Memory.callouts).system.cpu := by
  obtain ⟨-, reflects, idle, -⟩ :=
    reflects_io Memory.storageView strayEntry_completes strayEntry_looksAt
  have chooses : strayEntry.Chooses Memory.callouts 0x7000 .io :=
    ⟨strayEntry_looksAt, by decide +kernel⟩
  rw [← idle (by decide +kernel)]
  exact ⟨chooses, reflects chooses⟩

/-- The interruption of channel 0 is presented with the others, although the system mask has the bit
of that channel off. -/
theorem strayEntry_masked :
    strayEntry.Completes .splitKeys Memory.callouts ∧
      strayEntry.Chooses Memory.callouts 0x7000 .io ∧
      (strayEntry.response .splitKeys Memory.callouts).system.cpu.general.read 7 = 0xc1000000 ∧
      ¬∀ channel, (0xc1000000 : UInt32).toBitVec.getMsbD channel = true ↔
        (strayEntry.before Memory.storageView).ChannelPending 0x7000 channel ∧
          (strayEntry.before Memory.storageView).ChannelEnabled 0x7000 channel := by
  have basicMode : (strayEntry.before Memory.storageView).inExtendedMode 0x7000 = false ∧
      ((strayEntry.before Memory.storageView).get 0x7000
        Vmblok.psw).systemMask.toBitVec.getMsbD 0 = false := by
    decide +kernel
  have masked : ¬(strayEntry.before Memory.storageView).ChannelEnabled 0x7000 0 := by
    simp [Memory.ChannelEnabled, Memory.InSystemMask, basicMode]
  refine ⟨strayEntry_completes, ⟨strayEntry_looksAt, by decide +kernel⟩, by decide +kernel, ?_⟩
  exact fun enabled => masked ((enabled 0).mp (by decide)).2

end DispatcherEntry

end Assist370
