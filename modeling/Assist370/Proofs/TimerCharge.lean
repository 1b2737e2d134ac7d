import Assist370.Proofs.ExitOrder
import Assist370.Proofs.GuestEvaluation
import Assist370.Proofs.KeptControls

/-!
# The charge of virtual interval timers

An entry of the dispatcher charges the virtual interval timer of the running user with the time that
has run, unless an assist keeps that timer or it does not run. The time is signed: where it is
negative, no timer is charged and the exit tells so. Otherwise one timer is counted down, in the
user's storage while its page is resident and in the VMBLOK while it is not, and it has run out when
its sign changes (`DispatcherEntry.virtualTimer_charged`). Control register 1, which is borrowed to
translate the timer's address, is restored whatever becomes of the entry.
-/

namespace Assist370

open Dispatcher

namespace Memory

variable {memory : Memory} {timer : UInt32}

theorem toInt32_neg_iff (word : UInt32) : word.toInt32 < 0 ↔ 0x80000000 ≤ word.toNat := by
  rw [Int32.lt_iff_toInt_lt]
  change word.toBitVec.toInt < 0 ↔ _
  rw [← UInt32.toNat_toBitVec, BitVec.toInt_neg_iff]
  omega

/-- A virtual interval timer with time left changes its sign exactly if less is left than has
run. -/
theorem changesSign_iff_lt (counts : memory.CountsDown)
    (left : ¬(memory.get timer (Field.first : Field UInt32)).toInt32 < 0) :
    memory.ChangesSign timer ↔
      memory.get timer (Field.first : Field UInt32) < memory.timeRun := by
  have forwards := counts.2
  rw [ChangesSign, and_iff_right counts, iff_false_left left, not_not]
  rw [toInt32_neg_iff] at left forwards
  rw [toInt32_neg_iff, countedTimer, UInt32.toNat_sub, UInt32.lt_iff_toNat_lt]
  omega

/-- The chain of a block that is linked to itself does not end. -/
theorem overlong_of_selfLinked {control0 block : UInt32}
    (next : memory.getAddress block Xintblok.next = block) (some : block ≠ 0)
    (off : memory.enabledSubclasses control0 block = 0) (limit : Nat) :
    memory.Overlong control0 block limit := by
  have stays : ∀ place, memory.blockAfter block place = block := by
    intro place
    induction place with
    | zero => rfl
    | succ place ih => rw [blockAfter_succ some, next, ih]
  exact ⟨by rwa [stays], fun earlier _ => by rwa [stays]⟩

theorem relocating_refusesNothing (memory : Memory) (distance : UInt32) :
    (callouts.relocating distance).RefusesNothing memory where
  grants _ _ := ⟨fun _ _ _ => ⟨_, rfl⟩, fun _ _ _ => rfl⟩
  storageKey _ _ _ _ := ⟨_, rfl⟩
  translate _ _ _ _ _ _ := ⟨_, rfl⟩

end Memory

variable {Machine Refusal : Type}

namespace DispatcherEntry

section

variable {callouts : Callouts Machine Refusal} (policy : Policy) (view : StorageView callouts)
  (members : List UInt32) (entry : DispatcherEntry Machine)

/-- The word of the entry list that general register 9 is loaded from for a timer interruption. -/
def register9 : Region :=
  .ofField (Address.wrap entry.list) EntryList.timerRegister9

/-- The virtual interval timer of the running user lies apart from the control blocks, and these
from each other. -/
structure TimerApart : Prop where
  users : UsersApart members
  laidOut : entry.LaidOut view members
  exits : entry.ExitsApart view members
  register9 : entry.register9.Outside members
  timer : ∀ real, entry.HasTimerAt view real →
    (Region.ofField real (Field.first : Field UInt32)).Apart entry.register9

/-- The virtual interval timer of the running user is at an address. -/
def RunsTimerAt (timer : UInt32) : Prop :=
  TimerAt (.ofMachine callouts entry.found.machine) (entry.before view) entry.found.cpu timer

/-- A virtual interval timer is at an address: the running user's, or that in any user's VMBLOK. -/
inductive IsTimer : UInt32 → Prop where
  | running {timer : UInt32} (timerAt : entry.RunsTimerAt view timer) : IsTimer timer
  | inVmblok {member : UInt32} (member_mem : member ∈ members) :
      IsTimer (member + Vmblok.intervalTimer.offset)

/-- Storage is as the entry has found it, but for its count, for what the charge of run time and the
choice of an exit store, and for some regions. -/
def ChangesAtMost (regions : List Region) : Prop :=
  ∀ region : Region, entry.counter.Apart region →
    (Region.ofField (entry.billed view) Vmblok.runStatus).Apart region →
    (∀ stored ∈ (entry.before view).chargeRegions entry.user, stored.Apart region) →
    (∀ stored ∈ regions, stored.Apart region) →
    (entry.after policy view).AgreesOn (entry.before view) region

/-- The virtual interval timers that are apart from some regions are as the entry has found them. -/
def KeepsTimers (regions : List Region) : Prop :=
  ∀ timer, entry.IsTimer view members timer →
    (∀ stored ∈ regions, stored.Apart (.ofField timer (Field.first : Field UInt32))) →
    (entry.after policy view).get timer (Field.first : Field UInt32) =
      (entry.before view).get timer Field.first

/-- The entry has prepared the interruption by the virtual interval timer of the running user. -/
structure InterruptsTimer : Prop where
  tells : TellsTimer (Address.wrap entry.list) (entry.before view)
    (entry.response policy callouts).system.cpu
  forUser : (entry.response policy callouts).system.cpu.general.read 11 =
    (entry.before view).runningUser
  undispatched : ¬(entry.after policy view).IsDispatched (entry.before view).runningUser

/-- The entry has counted down one virtual interval timer, and no other. -/
structure CountsTimer (timer : UInt32) (exit : EntryExit) : Prop where
  timerAt : entry.RunsTimerAt view timer
  counted : (entry.after policy view).get timer (Field.first : Field UInt32) =
    (entry.before view).get timer Field.first - (entry.before view).timeRun
  kept : entry.ChangesAtMost policy view [.ofField timer (Field.first : Field UInt32)]
  others : entry.KeepsTimers policy view members [.ofField timer (Field.first : Field UInt32)]
  expires_iff : exit = .timerInterruption ↔
    ¬(((entry.before view).get timer (Field.first : Field UInt32)).toInt32 < 0 ↔
      ((entry.after policy view).get timer (Field.first : Field UInt32)).toInt32 < 0)
  expires_iff_lt : ¬((entry.before view).get timer (Field.first : Field UInt32)).toInt32 < 0 →
    (exit = .timerInterruption ↔
      (entry.before view).get timer (Field.first : Field UInt32) < (entry.before view).timeRun)
  interrupts : exit = .timerInterruption → entry.InterruptsTimer policy view

/-- The entry has charged the virtual interval timer of the running user and has taken an exit. -/
structure ChargesTimer (exit : EntryExit) : Prop where
  address : (entry.response policy callouts).system.cpu.psw.instructionAddress =
    (entry.before view).getAddress (Address.wrap entry.exits) exit.place
  backwards_iff : exit = .badTimer ↔ (entry.before view).timeRun.toInt32 < 0
  uncharged : exit = .badTimer →
    entry.ChangesAtMost policy view [] ∧ entry.KeepsTimers policy view members []
  charged : exit ≠ .badTimer → ∃ timer, entry.CountsTimer policy view members timer exit

end

section Charge

variable {callouts : Callouts Machine Refusal} {policy : Policy} {view : StorageView callouts}
  {members : List UInt32} {entry : DispatcherEntry Machine} {timer : UInt32} {exit : EntryExit}

namespace TimerApart

variable (apart : entry.TimerApart view members)

include apart

theorem accountingLayout : AccountingLayout (.ofMachine callouts entry.found.machine)
    (entry.before view) entry.found.cpu entry.user members where
  apart := apart.users
  user_mem := apart.laidOut.current
  running_mem := apart.laidOut.running
  outside real isTimer := (apart.laidOut.timer real isTimer).1

/-- Nothing but the counting down of a timer stores into a virtual interval timer. -/
theorem spares (isTimer : entry.IsTimer view members timer) :
    entry.counter.Apart (.ofField timer (Field.first : Field UInt32)) ∧
      (∀ member ∈ members, (Region.ofField member Vmblok.runStatus).Apart
        (.ofField timer (Field.first : Field UInt32))) ∧
      ∀ stored ∈ (entry.before view).chargeRegions entry.user,
        stored.Apart (.ofField timer (Field.first : Field UInt32)) := by
  have layout := apart.accountingLayout
  have inVmblok : ∀ member ∈ members, member + Vmblok.intervalTimer.offset = timer →
      entry.counter.Apart (.ofField timer (Field.first : Field UInt32)) ∧
        (∀ member ∈ members, (Region.ofField member Vmblok.runStatus).Apart
          (.ofField timer (Field.first : Field UInt32))) ∧
        ∀ stored ∈ (entry.before view).chargeRegions entry.user,
          stored.Apart (.ofField timer (Field.first : Field UInt32)) := by
    rintro member member_mem rfl
    have place : Region.ofField (member + Vmblok.intervalTimer.offset)
        (Field.first : Field UInt32) = .ofField member Vmblok.intervalTimer := by
      rw [Region.ofField, Region.ofField, Field.first, UInt32.add_zero]
    rw [place]
    refine ⟨?_, fun other other_mem => ?_, fun stored stored_mem => ?_⟩
    · exact (apart.laidOut.counter.fromVmblok member member_mem).mono_right
        (vmblok_within _ (by decide))
    · exact apart.users.fields_apart other_mem member_mem (by decide) (by decide) (by decide)
    · exact (Memory.charge_spares_member apart.users layout.user_mem layout.running_mem
        member_mem (by decide) (by decide) (by decide) stored stored_mem).symm
  cases isTimer with
  | inVmblok member_mem => exact inVmblok _ member_mem rfl
  | running timerAt =>
      cases timerAt with
      | inVmblok _ => exact inVmblok _ layout.running_mem rfl
      | resident told =>
          obtain ⟨outside, fromCounter⟩ := apart.laidOut.timer _ told
          refine ⟨fromCounter, fun member member_mem => ?_, fun stored stored_mem => ?_⟩
          · exact ((outside.fromVmblok member member_mem).mono_right
              (vmblok_within _ (by decide))).symm
          · exact (outside.charge layout.user_mem layout.running_mem stored stored_mem).symm

theorem keepsTimers {regions : List Region}
    (changes : entry.ChangesAtMost policy view regions) :
    entry.KeepsTimers policy view members regions := by
  intro timer isTimer fromRegions
  obtain ⟨fromCounter, fromStatus, fromCharge⟩ := apart.spares isTimer
  have status := fromStatus _ apart.laidOut.billed_mem
  exact (changes _ fromCounter status fromCharge fromRegions).get_eq

/-- The word for general register 9 is as the entry has found it when it is looked at. -/
theorem register9_kept (timerAt : entry.CountsTimerAt view timer) :
    (entry.accounted view timer).get (Address.wrap entry.list) EntryList.timerRegister9 =
      (entry.before view).get (Address.wrap entry.list) EntryList.timerRegister9 := by
  have layout := apart.accountingLayout
  have fromCharge : ∀ stored ∈ (entry.before view).chargeRegions entry.user,
      stored.Apart entry.register9 := fun stored stored_mem =>
    (apart.register9.charge layout.user_mem layout.running_mem stored stored_mem).symm
  have noted : (Region.ofField (entry.billed view) Vmblok.runStatus).Apart entry.register9 :=
    ((apart.register9.fromVmblok _ apart.laidOut.billed_mem).mono_right
      (vmblok_within _ (by decide))).symm
  have counted : (entry.before view).CountsDown →
      (Region.ofField timer (Field.first : Field UInt32)).Apart entry.register9 := fun counts =>
    apart.laidOut.timer_apart apart.register9 apart.timer (timerAt counts)
  -- The exit for a clean user stores nothing beyond the accounting.
  exact (exitMemory_agreesOn fromCharge counted noted .clean).get_eq

end TimerApart

namespace TakesFirst

variable (takes : entry.TakesFirst policy view timer exit)

include takes

/-- An entry that has taken its exit has changed at most the timer that it has counted down. -/
theorem changesAtMost {regions : List Region} (counted : (entry.before view).CountsDown →
      Region.ofField timer (Field.first : Field UInt32) ∈ regions) :
    entry.ChangesAtMost policy view regions := fun region counter status charge others =>
  (takes.kept region counter).trans
    (exitMemory_agreesOn charge (fun counts => others _ (counted counts)) status exit)

/-- Of an entry that charges, the exit for a bad timer is the first. -/
theorem badTimer_iff (charges : (entry.before view).ChargesTimer) :
    exit = .badTimer ↔ (entry.before view).timeRun.toInt32 < 0 := by
  constructor
  · rintro rfl
    exact takes.first.holds.2
  · intro backwards
    have due : ExitApplies Memory.PresentsIo (entry.before view) entry.found.cpu entry.user timer
        .badTimer := ⟨charges, backwards⟩
    exact takes.first.unique (.here due)

/-- The exit for a timer interruption comes next. -/
theorem timerInterruption_iff (forwards : ¬(entry.before view).timeRun.toInt32 < 0) :
    exit = .timerInterruption ↔ (entry.before view).ChangesSign timer := by
  constructor
  · rintro rfl
    exact takes.first.holds
  · intro changes
    have notBackwards : ¬ExitApplies Memory.PresentsIo (entry.before view) entry.found.cpu
        entry.user timer .badTimer := fun backwards => forwards backwards.2
    have due : ExitApplies Memory.PresentsIo (entry.before view) entry.found.cpu entry.user timer
        .timerInterruption := changes
    exact takes.first.unique (.next notBackwards (.here due))

variable (apart : entry.TimerApart view members)

include apart

/-- A timer that is counted down is left with the time that the entry has counted off. -/
theorem timer_counted (counts : (entry.before view).CountsDown) :
    (entry.after policy view).get timer (Field.first : Field UInt32) =
      (entry.before view).countedTimer timer := by
  obtain ⟨fromCounter, fromStatus, fromCharge⟩ := apart.spares (.running (takes.timerAt counts))
  have left : (exitMemory (entry.before view) entry.found.cpu entry.user timer exit).AgreesOn
      (entry.accounted view timer) (.ofField timer (Field.first : Field UInt32)) :=
    exitMemory_agreesOn_accounted (fromCharge _ (by simp [Memory.chargeRegions]))
      (fromStatus _ apart.laidOut.billed_mem) exit
  rw [((takes.kept _ fromCounter).trans left).get_eq, accounted, Memory.accounted,
    if_pos counts, Memory.get_put_self]

end TakesFirst

/-- An entry that has taken the exit for a timer interruption has prepared the interruption. -/
theorem TakesFirst.interruptsTimer (takes : entry.TakesFirst policy view timer .timerInterruption)
    (apart : entry.TimerApart view members) (charges : (entry.before view).ChargesTimer)
    (tells : TellsTimer (Address.wrap entry.list) (entry.accounted view timer)
      (entry.response policy callouts).system.cpu) :
    entry.InterruptsTimer policy view := by
  obtain ⟨cleared, code, fromList⟩ := tells
  rw [apart.register9_kept takes.timerAt] at fromList
  have billed : entry.billed view = (entry.before view).runningUser := if_pos charges.charges
  refine ⟨⟨cleared, code, fromList⟩, ?_, ?_⟩
  · rw [takes.forUser (by decide) (by decide), billed]
  · have status := apart.laidOut.left_agreesOn takes.kept
      (show Vmblok.dispatchStatus.offset.toNat + Stored.size UInt8 ≤ 0xc0 by decide)
    rw [billed] at status
    rw [Memory.isDispatched_congr status, Memory.IsDispatched, exitMemory, Memory.get_put_self,
      UInt8.and_assoc, UInt8.not_and_self, UInt8.and_zero]
    exact not_not_intro rfl

/-- An entry that charges the virtual interval timer and has taken its exit has charged it. -/
theorem TakesFirst.chargesTimer (takes : entry.TakesFirst policy view timer exit)
    (apart : entry.TimerApart view members) (charges : (entry.before view).ChargesTimer)
    (tells : exit = .timerInterruption → TellsTimer (Address.wrap entry.list)
      (entry.accounted view timer) (entry.response policy callouts).system.cpu) :
    entry.ChargesTimer policy view members exit := by
  have backwards_iff := takes.badTimer_iff charges
  refine ⟨takes.address, backwards_iff, fun isBad => ?_, fun notBad => ⟨timer, ?_⟩⟩
  · have changes : entry.ChangesAtMost policy view [] :=
      takes.changesAtMost fun counts => absurd (backwards_iff.mp isBad) counts.2
    exact ⟨changes, apart.keepsTimers changes⟩
  have forwards : ¬(entry.before view).timeRun.toInt32 < 0 := mt backwards_iff.mpr notBad
  have counts : (entry.before view).CountsDown := ⟨charges, forwards⟩
  have kept : entry.ChangesAtMost policy view [.ofField timer (Field.first : Field UInt32)] :=
    takes.changesAtMost fun _ => by simp
  have counted := takes.timer_counted apart counts
  have expires_iff := takes.timerInterruption_iff forwards
  refine ⟨takes.timerAt counts, counted, kept, apart.keepsTimers kept, ?_, fun left => ?_, ?_⟩
  · rw [expires_iff, Memory.ChangesSign, and_iff_right counts, counted]
  · rw [expires_iff, Memory.changesSign_iff_lt counts left]
  · rintro rfl
    exact takes.interruptsTimer apart charges (tells rfl)

end Charge

variable {callouts : Callouts Machine Refusal}

/-- The entry restores the control register that it borrows, whatever becomes of it. -/
theorem keepsControls (policy : Policy) (entry : DispatcherEntry Machine)
    (register : RegisterNumber) :
    (entry.response policy callouts).system.cpu.control.read register =
      entry.found.cpu.control.read register := by
  by_cases completes : ∃ completion : Completion,
      (entry.response policy callouts).result = .ok completion.outcome
  · obtain ⟨completion, completed⟩ := completes
    obtain ⟨isDone, cpu⟩ := (System.perform_conduct policy callouts entry.found
      (.disp0 entry.list entry.exits)).done_of_completed completed
    have kept := System.ensures_of_ran
      (callouts.shows_constant Memory.zero entry.found.machine) (fun _ _ => trivial)
      (enter_keepsControls (Address.wrap entry.list) (Address.wrap entry.exits) _ _)
      (Prod.ext isDone rfl)
    rw [response, cpu, Staging.control_committedCpu]
    exact kept.control register
  · rw [response, System.control_of_not_completed]
    exact fun completion completed => completes ⟨completion, completed⟩

/-- An answered entry behind its gate charges the virtual interval timer of the running user and
takes an exit, or it declines because it cannot tell which exit is due. -/
theorem TimerApart.settles {policy : Policy} {view : StorageView callouts} {members : List UInt32}
    {entry : DispatcherEntry Machine} (apart : entry.TimerApart view members)
    (charges : (entry.before view).ChargesTimer)
    (passed : entry.found.registry.cpGate .disp0 entry.found.cpu = .passed)
    (answered : (entry.response policy callouts).Answered) :
    ((entry.response policy callouts).result = .ok .declined ∧
        Stalls (.ofMachine callouts entry.found.machine) (entry.before view) entry.found.cpu
          entry.user ∧
        entry.after policy view = entry.before view) ∨
      entry.Completes policy callouts ∧ ∃ exit, entry.ChargesTimer policy view members exit := by
  let call : Call := ⟨entry.found.cpu, .disp0 entry.list entry.exits⟩
  have settles : call.Settles view entry.found _ _ (entry.response policy callouts) :=
    @System.call_settles _ _ _ policy view entry.found call _ rfl answered _ _
      (enter_tries trivial apart.accountingLayout)
  cases settles with
  | stopped gate => exact absurd passed gate
  | left _ _ stalls declined memory => exact .inl ⟨declined, stalls, memory⟩
  | performed completion final holds completed cpu memory =>
      obtain ⟨left, tries, sameCpu, counted⟩ := holds
      cases tries with
      | @left timer exit _ timerAt first left taken tells =>
          have general : (entry.response policy callouts).system.cpu.general =
              final.cpu.general := by rw [cpu, Scene.committedCpu_general]
          have takes : entry.TakesFirst policy view timer exit := by
            refine apart.laidOut.takesFirst apart.exits timerAt first left taken ?_ ?_ ?_
            · rw [cpu, Scene.committedCpu_psw, sameCpu]
            · rw [general, sameCpu]
            · rw [DispatcherEntry.after, memory]
              exact counted
          refine .inr ⟨completed, exit, takes.chargesTimer apart charges fun isTimer => ?_⟩
          obtain ⟨cleared, code, fromList⟩ := tells isTimer
          rw [← sameCpu, ← general] at cleared code fromList
          exact ⟨cleared, code, fromList⟩

/-- An entry keeps the control registers whatever becomes of it. An answered one behind its gate
charges the virtual interval timer of the running user where it is to be charged, unless it declines
because it cannot tell which exit is due. -/
theorem virtualTimer_charged (policy : Policy) (callouts : Callouts Machine Refusal)
    (entry : DispatcherEntry Machine) :
    (∀ register, (entry.response policy callouts).system.cpu.control.read register =
        entry.found.cpu.control.read register) ∧
      ∀ (view : StorageView callouts) (members : List UInt32), entry.TimerApart view members →
        (entry.before view).ChargesTimer →
        entry.found.registry.cpGate .disp0 entry.found.cpu = .passed →
        (entry.response policy callouts).Answered →
        ((entry.response policy callouts).result = .ok .declined ∧
            Stalls (.ofMachine callouts entry.found.machine) (entry.before view) entry.found.cpu
              entry.user ∧
            entry.after policy view = entry.before view) ∨
          entry.Completes policy callouts ∧
            ∃ exit, entry.ChargesTimer policy view members exit := by
  refine ⟨entry.keepsControls policy, fun view members apart charges passed answered => ?_⟩
  exact apart.settles charges passed answered

theorem HasTimerAt.of_relocating {entry : DispatcherEntry Memory} {distance real : UInt32}
    (isTimer : entry.HasTimerAt (Memory.storageView.relocating distance) real) :
    real = Address.wrap (PrefixArea.intervalTimer.offset + distance) := by
  obtain ⟨machine, found, -, answered, isReal⟩ := isTimer
  cases answered
  exact Except.ok.inj isReal

/-- The running user has less time left on its virtual interval timer than has run. -/
def runOutEntry : DispatcherEntry Memory :=
  { timedEntry with
    found :=
      { timedEntry.found with
        machine :=
          (((timedEntry.found.machine.put 0x10050 (Field.first : Field UInt32) 0x800).put
            0x5000 EntryList.timerRegister9 0x4400).put
            0x5800 EntryExit.timerInterruption.place 0x1008) } }

/-- Its timer interruption is prepared. -/
theorem runOutEntry_interrupts :
    let view := Memory.storageView.relocating 0x10000
    let response := runOutEntry.response .splitKeys (Memory.callouts.relocating 0x10000)
    runOutEntry.TimerApart view [0x7000, 0x9000] ∧ (runOutEntry.before view).ChargesTimer ∧
      response.system.cpu.control.read 1 = runOutEntry.found.cpu.control.read 1 ∧
      (∃ timer, runOutEntry.CountsTimer .splitKeys view [0x7000, 0x9000] timer
        .timerInterruption) ∧
      (runOutEntry.after .splitKeys view).get 0x10050 (Field.first : Field UInt32) = 0xfffff800 ∧
      response.system.cpu.general.read 4 = 0x00800080 ∧
      response.system.cpu.general.read 9 = 0x4400 ∧
      response.system.cpu.psw.instructionAddress = 0x1008 := by
  intro view response
  have isAt : ∀ real : UInt32, runOutEntry.HasTimerAt view real → real = 0x10050 := fun _ =>
    HasTimerAt.of_relocating
  have apart : runOutEntry.TimerApart view [0x7000, 0x9000] := by
    refine ⟨by decide +kernel, ⟨by decide +kernel, by decide +kernel, by decide +kernel, ?_⟩,
      ⟨by decide +kernel, ?_⟩, by decide +kernel, ?_⟩ <;>
    · intro real isTimer
      rw [isAt real isTimer]
      decide +kernel
  have charges : (runOutEntry.before view).ChargesTimer := by decide +kernel
  obtain ⟨control, charged⟩ := virtualTimer_charged .splitKeys
    (Memory.callouts.relocating 0x10000) runOutEntry
  rcases charged view [0x7000, 0x9000] apart charges (by decide +kernel) (by decide +kernel) with
    ⟨declined, -⟩ | ⟨-, exit, charged⟩
  · have completed : response.result = .ok .completed := Response.result_eq_ok (by decide +kernel)
    nomatch declined.symm.trans completed
  have forwards : exit ≠ .badTimer := fun isBad =>
    absurd (charged.backwards_iff.mp isBad) (by decide +kernel)
  obtain ⟨timer, counts⟩ := charged.charged forwards
  obtain rfl : timer = 0x10050 := by
    cases counts.timerAt with
    | resident told => exact isAt _ told
    | inVmblok told =>
        obtain ⟨machine, found, -, answered, isFault⟩ := told
        cases answered
        nomatch isFault
  obtain rfl : exit = .timerInterruption :=
    (counts.expires_iff_lt (by decide +kernel)).mpr (by decide +kernel)
  obtain ⟨⟨-, code, fromList⟩, -, -⟩ := counts.interrupts rfl
  refine ⟨apart, charges, control 1, ⟨_, counts⟩, ?_, code, ?_, ?_⟩
  · rw [counts.counted]
    decide +kernel
  · rw [fromList]
    decide +kernel
  · rw [charged.address]
    decide +kernel

/-- The running user has an external interruption pending that is not enabled and that is chained to
itself. -/
def endlessEntry : DispatcherEntry Memory :=
  { timedEntry with
    found :=
      { timedEntry.found with
        machine :=
          (((timedEntry.found.machine.put 0x9000 Vmblok.externalPending 0xa000).put
            0x9000 Vmblok.psw { systemMask := 0x01, instructionAddress := 0xb000 }).put
            0xa000 Xintblok.next 0xa000) } }

/-- Time has run, but the entry declines and its virtual interval timer is not counted down. -/
theorem endlessEntry_declines :
    let view := Memory.storageView.relocating 0x10000
    let response := endlessEntry.response .splitKeys (Memory.callouts.relocating 0x10000)
    endlessEntry.TimerApart view [0x7000, 0x9000] ∧ (endlessEntry.before view).ChargesTimer ∧
      endlessEntry.found.registry.cpGate .disp0 endlessEntry.found.cpu = .passed ∧
      response.Answered ∧ (endlessEntry.before view).timeRun = 0x1000 ∧
      response.result = .ok .declined ∧
      ∀ timer, endlessEntry.IsTimer view [0x7000, 0x9000] timer →
        (endlessEntry.after .splitKeys view).get timer (Field.first : Field UInt32) =
          (endlessEntry.before view).get timer Field.first := by
  intro view response
  have apart : endlessEntry.TimerApart view [0x7000, 0x9000] := by
    refine ⟨by decide +kernel, ⟨by decide +kernel, by decide +kernel, by decide +kernel, ?_⟩,
      ⟨by decide +kernel, ?_⟩, by decide +kernel, ?_⟩ <;>
    · intro real isTimer
      rw [isTimer.of_relocating]
      decide +kernel
  have charges : (endlessEntry.before view).ChargesTimer := by decide +kernel
  have passed : endlessEntry.found.registry.cpGate .disp0 endlessEntry.found.cpu = .passed := by
    decide +kernel
  have answered : response.Answered := System.answered_of_refusesNothing
    (Memory.relocating_refusesNothing endlessEntry.found.machine 0x10000)
  have looks : endlessEntry.LooksAt (Memory.callouts.relocating 0x10000) 0x9000 := by
    rw [LooksAt]
    decide +kernel
  have overlong : (endlessEntry.sighted view).PendingOverlong 0x9000 := by
    have first : (endlessEntry.sighted view).getAddress 0x9000 Vmblok.externalPending =
        0xa000 := by decide +kernel
    rw [Memory.PendingOverlong, first]
    exact Memory.overlong_of_selfLinked (by decide +kernel) (by decide) (by decide +kernel) _
  have declined : response.result = .ok .declined :=
    (looks.declined_iff view passed answered).mpr
      ⟨⟨by decide +kernel, by decide +kernel, by decide +kernel⟩, overlong⟩
  refine ⟨apart, charges, passed, answered, by decide +kernel, declined, fun timer _ => ?_⟩
  rcases apart.settles charges passed answered with ⟨-, -, same⟩ | ⟨completes, -⟩
  · rw [same]
  · nomatch declined.symm.trans completes

end DispatcherEntry

end Assist370
