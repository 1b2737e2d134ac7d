import Assist370.Proofs.InterruptionChain

/-!
# The order of the dispatcher's exits

The entry of the dispatcher tries its exits in a fixed order (`Dispatcher.exitOrder`) and takes the
first one whose condition holds. The conditions are about the user whose run time has been billed,
as storage is once it has been (`Memory.accounted`): what the accounting has changed counts, not
what it has found. The condition of the exit for I/O interruptions is that a channel is presented,
and not that it is enabled, so that the exit is out of its order exactly where strays alone are
presented (`DispatcherEntry.exits_in_order`).
-/

namespace Assist370

open Dispatcher

namespace Memory

section

variable (memory : Memory)

/-- The time that the interval timer tells to have run since the running user was dispatched. -/
def timeRun : UInt32 :=
  memory.get PrefixArea.base PrefixArea.quantum -
    memory.get PrefixArea.base PrefixArea.quantumLeft

/-- The virtual interval timer of the running user is to be charged: a user runs with such a timer,
and no assist keeps it. -/
@[mk_iff]
structure ChargesTimer : Prop where
  charges : memory.ChargesUser
  unassisted : memory.get memory.runningUser Vmblok.assistFlags &&&
    AssistControl.virtualTimerFlag = 0
  runs : memory.get memory.runningUser Vmblok.timerLevel &&& Vmblok.timerRuns ≠ 0

instance : Decidable memory.ChargesTimer :=
  decidable_of_iff' _ (chargesTimer_iff memory)

/-- The interval timer has run backwards while the virtual interval timer is to be charged. -/
def RunsBackwards : Prop :=
  memory.ChargesTimer ∧ memory.timeRun.toInt32 < 0

/-- The virtual interval timer of the running user is counted down. -/
def CountsDown : Prop :=
  memory.ChargesTimer ∧ ¬memory.timeRun.toInt32 < 0

instance : Decidable memory.CountsDown :=
  inferInstanceAs (Decidable (_ ∧ _))

/-- What is left on a virtual interval timer that is counted down. -/
def countedTimer (timer : UInt32) : UInt32 :=
  memory.get timer (Field.first : Field UInt32) - memory.timeRun

/-- A virtual interval timer changes its sign when it is counted down. -/
def ChangesSign (timer : UInt32) : Prop :=
  memory.CountsDown ∧
    ¬((memory.get timer (Field.first : Field UInt32)).toInt32 < 0 ↔
      (memory.countedTimer timer).toInt32 < 0)

/-- Memory once run time has been charged, when the dispatcher has been entered for a user. The
virtual interval timer of the running user is at some address. -/
def accounted (cpu : Cpu) (user timer : UInt32) : Memory :=
  if memory.CountsDown then
    (memory.charged cpu user).put timer Field.first (memory.countedTimer timer)
  else if memory.ChargesUser then
    memory.charged cpu user
  else
    memory

/-- The user that is billed: the running user, or else that for which the dispatcher has been
entered. -/
def billedUser (user : UInt32) : UInt32 :=
  if memory.ChargesUser then memory.runningUser else user

variable (user : UInt32)

/-- An external interruption can be presented to a user. -/
def PresentsExternal : Prop :=
  (memory.get user Vmblok.psw).externalEnabled = true ∧
    ∃ place < chainLimit, memory.FirstPendingAt user place

/-- I/O interruptions of a user are presented. -/
def PresentsIo : Prop :=
  ∃ channel, memory.ChannelPresented user channel

/-- I/O interruptions of a user are pending and enabled. -/
def EnablesIo : Prop :=
  ∃ channel, memory.ChannelPending user channel ∧ memory.ChannelEnabled user channel

end

/-- The search for an external interruption that can be presented finds one exactly if there is
one. -/
theorem presented?_found_iff {memory : Memory} {user : UInt32} :
    memory.PresentsExternal user ↔
      ∃ interruption, memory.presented? user = some (some interruption) := by
  rw [PresentsExternal, presented?]
  split
  · rename_i enabled
    simp only [enabled, true_and, enabledExternal?_found_iff]
    constructor
    · rintro ⟨place, place_lt, first⟩
      exact ⟨_, place, place_lt, first, rfl⟩
    · rintro ⟨_, place, place_lt, first, _⟩
      exact ⟨place, place_lt, first⟩
  · rename_i masked
    simp [masked]

theorem presented?_overlong_iff {memory : Memory} {user : UInt32} :
    memory.presented? user = none ↔
      (memory.get user Vmblok.psw).externalEnabled = true ∧ memory.PendingOverlong user := by
  rw [presented?]
  split
  · rename_i enabled
    simp only [enabled, true_and, enabledExternal?_overlong_iff]
  · rename_i masked
    simp [masked]

theorem EnablesIo.presents {memory : Memory} {user : UInt32} (enables : memory.EnablesIo user) :
    memory.PresentsIo user := by
  obtain ⟨channel, pending, enabled⟩ := enables
  exact ⟨channel, pending, .inl enabled⟩

end Memory

namespace Dispatcher

/-- Two words differ in their sign bits exactly if they differ in sign. -/
theorem signBit_xor_iff (word other : UInt32) :
    (word ^^^ other) &&& signBit ≠ 0 ↔ ¬(word.toInt32 < 0 ↔ other.toInt32 < 0) := by
  have msb : ∀ word : UInt32, word.toInt32 < 0 ↔ word.toBitVec.msb = true := by
    intro word
    rw [Int32.lt_iff_toInt_lt, BitVec.msb_eq_toInt, decide_eq_true_eq]
    exact Iff.rfl
  rw [signBit_iff, msb, msb, msb, UInt32.toBitVec_xor, BitVec.msb_xor]
  cases word.toBitVec.msb <;> cases other.toBitVec.msb <;> decide

/-- An exit is the first of a row whose condition holds. -/
inductive FirstOf (applies : EntryExit → Prop) : List EntryExit → EntryExit → Prop where
  | here {exit : EntryExit} {rest : List EntryExit} (holds : applies exit) :
      FirstOf applies (exit :: rest) exit
  | next {other exit : EntryExit} {rest : List EntryExit} (fails : ¬applies other)
      (first : FirstOf applies rest exit) : FirstOf applies (other :: rest) exit

/-- The exits that depend on the accounting of run time. -/
def accountingExits : List EntryExit :=
  [.badTimer, .timerInterruption, .clean, .cpWait]

/-- The exits that depend on the user whose run time has been billed. -/
def userExits : List EntryExit :=
  [.waitsForCp, .eventOrPage, .external, .io, .virtualWait, .dispatch]

/-- The exits of the dispatcher's entry in the order in which they are tried. -/
def exitOrder : List EntryExit :=
  accountingExits ++ userExits

/-- When an exit is due that depends on the billed user alone, by storage once run time has been
charged. `io` tells when I/O interruptions are due. -/
def UserExitApplies (io : Memory → UInt32 → Prop) (memory : Memory) (user : UInt32) :
    EntryExit → Prop
  | .waitsForCp => memory.get user Vmblok.runStatus &&& Vmblok.waitsForCp ≠ 0
  | .eventOrPage =>
      memory.get user Vmblok.pending &&& (Vmblok.eventPending ||| Vmblok.pagePending) ≠ 0
  | .external => memory.PresentsExternal user
  | .io => io memory user
  | .virtualWait => (memory.get user Vmblok.psw).isWait = true
  | .dispatch => True
  | .badTimer | .timerInterruption | .clean | .cpWait => False

/-- When an exit of the dispatcher's entry is due, by storage as the entry finds it. -/
def ExitApplies (io : Memory → UInt32 → Prop) (memory : Memory) (cpu : Cpu)
    (user timer : UInt32) : EntryExit → Prop
  | .badTimer => memory.RunsBackwards
  | .timerInterruption => memory.ChangesSign timer
  | .clean =>
      memory.ChargesUser ∧
        (memory.accounted cpu user timer).get PrefixArea.base PrefixArea.ioOldMask &&&
          Psw.translationMask ≠ 0 ∧
        (memory.accounted cpu user timer).IsDispatched memory.runningUser
  | .cpWait =>
      ¬memory.ChargesUser ∧
        memory.get PrefixArea.base PrefixArea.cpStatus &&& PrefixArea.cpWaits ≠ 0
  | exit => UserExitApplies io (memory.accounted cpu user timer) (memory.billedUser user) exit

/-- Storage when an exit has been chosen for a user. -/
def userExitMemory (memory : Memory) (user : UInt32) : EntryExit → Memory
  | .virtualWait | .dispatch => memory.notesWait user
  | _ => memory

/-- Storage when an exit of the dispatcher's entry is taken. -/
def exitMemory (memory : Memory) (cpu : Cpu) (user timer : UInt32) : EntryExit → Memory
  | .timerInterruption =>
      let accounted := memory.accounted cpu user timer
      accounted.put memory.runningUser Vmblok.dispatchStatus
        (accounted.get memory.runningUser Vmblok.dispatchStatus &&& ~~~Vmblok.dispatched)
  | exit => userExitMemory (memory.accounted cpu user timer) (memory.billedUser user) exit

namespace FirstOf

variable {applies other : EntryExit → Prop} {early late : List EntryExit} {exit : EntryExit}

theorem holds (first : FirstOf applies early exit) : applies exit := by
  induction first with
  | here holds => exact holds
  | next _ _ ih => exact ih

theorem unique {another : EntryExit} (first : FirstOf applies early exit)
    (second : FirstOf applies early another) : exit = another := by
  induction first with
  | here holds =>
      cases second with
      | here _ => rfl
      | next fails _ => exact absurd holds fails
  | next fails _ ih =>
      cases second with
      | here holds => exact absurd holds fails
      | next _ second => exact ih second

theorem append (first : FirstOf applies early exit) (late : List EntryExit) :
    FirstOf applies (early ++ late) exit := by
  induction first with
  | here holds => exact .here holds
  | next fails _ ih => exact .next fails ih

theorem skip (fails : ∀ other ∈ early, ¬applies other) (first : FirstOf applies late exit) :
    FirstOf applies (early ++ late) exit := by
  induction early with
  | nil => exact first
  | cons other early ih =>
      have others : ∀ other ∈ early, ¬applies other := fun other other_mem =>
        fails other (by simp [other_mem])
      exact .next (fails other (by simp)) (ih others)

theorem congr (first : FirstOf applies early exit)
    (same : ∀ exit ∈ early, (other exit ↔ applies exit)) : FirstOf other early exit := by
  induction first with
  | here holds => exact .here ((same _ (by simp)).mpr holds)
  | next fails _ ih =>
      exact .next (mt (same _ (by simp)).mp fails)
        (ih fun exit exit_mem => same exit (by simp [exit_mem]))

theorem fails (first : FirstOf applies (early ++ late) exit) (exit_notMem : exit ∉ early) :
    ∀ other ∈ early, ¬applies other := by
  induction early with
  | nil => simp
  | cons other early ih =>
      cases first with
      | here _ => simp at exit_notMem
      | next fails first =>
          refine List.forall_mem_cons.mpr ⟨fails, ih first ?_⟩
          exact fun exit_mem => exit_notMem (by simp [exit_mem])

/-- Under stronger conditions the first exit is the first one still if its own condition holds. -/
theorem strengthen_iff (first : FirstOf applies early exit)
    (implies : ∀ exit, other exit → applies exit) :
    FirstOf other early exit ↔ other exit := by
  refine ⟨holds, fun isDue => ?_⟩
  induction first with
  | here _ => exact .here isDue
  | next fails _ ih => exact .next (mt (implies _) fails) (ih isDue)

end FirstOf

open Microcode

section Choice

variable {known : Knowledge} {scene : Scene} {user : UInt32}

/-- The exit that is chosen for a user is the first that is due, and the choice declines for an
overlong chain alone. -/
theorem chooseExit_first (isFaithful : known.faithful) (user : UInt32) :
    (chooseExit user).Ensures known
      (fun _ _ => scene.memory.SearchesExternal user ∧ scene.memory.PendingOverlong user)
      (fun exit after =>
        FirstOf (UserExitApplies Memory.PresentsIo scene.memory user) userExits exit ∧
          after.memory = userExitMemory scene.memory user exit)
      scene := by
  refine ensures_of_eval isFaithful default (chooseExit_fromStorage user) ?_
  rw [chooseExit_eval]
  by_cases waits : scene.memory.get user Vmblok.runStatus &&& Vmblok.waitsForCp ≠ 0
  · rw [if_pos waits]
    exact ⟨.here waits, rfl⟩
  rw [if_neg waits]
  by_cases event : scene.memory.get user Vmblok.pending &&&
      (Vmblok.eventPending ||| Vmblok.pagePending) ≠ 0
  · rw [if_pos event]
    exact ⟨.next waits (.here event), rfl⟩
  rw [if_neg event]
  cases presented : scene.memory.presented? user with
  | none =>
      obtain ⟨enabled, overlong⟩ := Memory.presented?_overlong_iff.mp presented
      exact ⟨⟨not_not.mp waits, not_not.mp event, enabled⟩, overlong⟩
  | some search =>
      have external : scene.memory.PresentsExternal user ↔ _ := Memory.presented?_found_iff
      cases search with
      | some interruption =>
          exact ⟨.next waits (.next event (.here (external.mpr ⟨interruption, presented⟩))), rfl⟩
      | none =>
          have noExternal : ¬scene.memory.PresentsExternal user := by
            rw [external, presented]
            simp
          have first : ∀ {exit : EntryExit},
              FirstOf (UserExitApplies Memory.PresentsIo scene.memory user)
                [.io, .virtualWait, .dispatch] exit →
              FirstOf (UserExitApplies Memory.PresentsIo scene.memory user) userExits exit :=
            fun first => .next waits (.next event (.next noExternal first))
          simp only [withoutExternal]
          by_cases io : scene.memory.presentedChannels user ≠ 0
          · rw [if_pos io]
            exact ⟨first (.here (Memory.presentedChannels_ne_zero_iff.mp io)), rfl⟩
          have noIo : ¬scene.memory.PresentsIo user :=
            mt Memory.presentedChannels_ne_zero_iff.mpr io
          rw [if_neg io]
          by_cases isWait : (scene.memory.get user Vmblok.psw).isWait = true
          · simp only [if_pos isWait]
            exact ⟨first (.next noIo (.here isWait)), rfl⟩
          · simp only [if_neg isWait]
            exact ⟨first (.next noIo (.next isWait (.here trivial))), rfl⟩

end Choice

/-- An exit of the dispatcher's entry has been taken, for the user whose run time has been billed
where there is one. -/
structure TakesExit (exits billed : UInt32) (exit : EntryExit) (after : Scene) : Prop where
  address : after.cpu.psw.instructionAddress = after.memory.getAddress exits exit.place
  forUser : exit ≠ .cpWait → exit ≠ .badTimer → after.cpu.general.read 11 = billed

/-- The registers tell of an interruption by a virtual interval timer. -/
structure TellsTimer (list : UInt32) (memory : Memory) (cpu : Cpu) : Prop where
  cleared : cpu.general.read 3 = 0
  code : cpu.general.read 4 = timerInterruptionCode
  fromList : cpu.general.read 9 = memory.get list EntryList.timerRegister9

/-- The virtual interval timer of the running user is at an address: that which a machine has told,
or else that in the VMBLOK. -/
inductive TimerAt (known : Knowledge) (memory : Memory) (cpu : Cpu) : UInt32 → Prop where
  | resident {real : UInt32}
      (told : known.translates (cpu.control.read 0)
        (memory.get memory.runningUser Vmblok.segmentTable) PrefixArea.intervalTimer.offset
          (.ok real)) :
      TimerAt known memory cpu real
  | inVmblok {fault : TranslationFault}
      (told : known.translates (cpu.control.read 0)
        (memory.get memory.runningUser Vmblok.segmentTable) PrefixArea.intervalTimer.offset
          (.error fault)) :
      TimerAt known memory cpu (memory.runningUser + Vmblok.intervalTimer.offset)

/-- The current user and the running one are among users whose VMBLOKs lie apart from each other and
from where a machine tells that the virtual interval timer is. -/
structure AccountingLayout (known : Knowledge) (memory : Memory) (cpu : Cpu) (user : UInt32)
    (members : List UInt32) : Prop where
  apart : UsersApart members
  user_mem : user ∈ members
  running_mem : memory.runningUser ∈ members
  outside : ∀ real, known.translates (cpu.control.read 0)
      (memory.get memory.runningUser Vmblok.segmentTable) PrefixArea.intervalTimer.offset
        (.ok real) →
    (Region.ofField real (Field.first : Field UInt32)).Outside members

/-- The dispatcher's entry has tried some exits in their order: it has taken the first that is due,
or none of them is, and it goes on with the user whose run time has been billed. -/
inductive Tries (known : Knowledge) (memory : Memory) (cpu : Cpu) (user list exits : UInt32)
    (tried : List EntryExit) : Charged → Scene → Prop where
  | left {timer : UInt32} {exit : EntryExit} {after : Scene}
      (timerAt : memory.CountsDown → TimerAt known memory cpu timer)
      (first : FirstOf (ExitApplies Memory.PresentsIo memory cpu user timer) tried exit)
      (left : after.memory = exitMemory memory cpu user timer exit)
      (taken : TakesExit exits (memory.billedUser user) exit after)
      (tells : exit = .timerInterruption →
        TellsTimer list (memory.accounted cpu user timer) after.cpu) :
      Tries known memory cpu user list exits tried (.left .completed) after
  | goesOn {timer : UInt32} {after : Scene}
      (timerAt : memory.CountsDown → TimerAt known memory cpu timer)
      (fails : ∀ exit ∈ tried, ¬ExitApplies Memory.PresentsIo memory cpu user timer exit)
      (left : after.memory = memory.accounted cpu user timer) :
      Tries known memory cpu user list exits tried (.goesOn (memory.billedUser user)) after

section Accounting

variable {members : List UInt32} {memory : Memory} {cpu : Cpu} {user : UInt32}
  {known : Knowledge} {declined : Decline → Scene → Prop} {scene : Scene} {list exits : UInt32}

theorem takeExit_takes (isFaithful : known.faithful) {exit : EntryExit}
    (unbilled : exit = .cpWait ∨ exit = .badTimer) (billed : UInt32) :
    (takeExit exits exit.place).Ensures known declined
      (fun completion after => completion = .completed ∧ after.memory = scene.memory ∧
        TakesExit exits billed exit after) scene := by
  simp only [takeExit, branch, ensures_bind, ensures_fetch_iff isFaithful, ensures_modify,
    ensures_pure]
  refine ⟨trivial, trivial, rfl, fun notWait notBad => ?_⟩
  rcases unbilled with rfl | rfl
  · exact absurd rfl notWait
  · exact absurd rfl notBad

theorem exitFor_takes (isFaithful : known.faithful) (exit : EntryExit) (billed : UInt32) :
    (exitFor billed exits exit).Ensures known declined
      (fun completion after => completion = .completed ∧ after.memory = scene.memory ∧
        TakesExit exits billed exit after) scene := by
  simp only [exitFor, setGeneral, takeExit, branch, ensures_bind, ensures_fetch_iff isFaithful,
    ensures_modify, ensures_pure]
  refine ⟨trivial, trivial, rfl, fun _ _ => ?_⟩
  simp [Cpu.setGeneral, RegisterFile.read_load]

/-- While no user runs, nothing is charged, so that storage is as it has been found. -/
theorem accounted_of_idle (idle : ¬memory.ChargesUser) (timer : UInt32) :
    memory.accounted cpu user timer = memory := by
  rw [Memory.accounted, if_neg fun counts => idle counts.1.charges, if_neg idle]

theorem undue_of_idle (presents : Memory → UInt32 → Prop) (idle : ¬memory.ChargesUser)
    (timer : UInt32) :
    ∀ exit ∈ [EntryExit.badTimer, .timerInterruption, .clean],
      ¬ExitApplies presents memory cpu user timer exit := by
  simp only [List.forall_mem_cons]
  exact ⟨fun backwards => idle backwards.1.charges, fun changes => idle changes.1.1.charges,
    fun clean => idle clean.1, by simp⟩

/-- The virtual interval timer is apart from the charge. -/
theorem TimerAt.spares {timer : UInt32} (timerAt : TimerAt known memory cpu timer)
    (layout : AccountingLayout known memory cpu user members) :
    ∀ stored ∈ memory.chargeRegions user,
      (Region.ofField timer (Field.first : Field UInt32)).Apart stored := by
  cases timerAt with
  | resident told => exact (layout.outside _ told).charge layout.user_mem layout.running_mem
  | inVmblok told =>
      rw [Region.ofField, Field.first, UInt32.add_zero]
      exact Memory.charge_spares_vmblok layout.apart layout.user_mem layout.running_mem
        (show Vmblok.intervalTimer.offset.toNat + 4 ≤ 0xc0 by decide) (by decide) (by decide)

theorem intervalTimerAddress_found (isFaithful : known.faithful)
    (control : scene.cpu.control = cpu.control)
    (table : scene.memory.get memory.runningUser Vmblok.segmentTable =
      memory.get memory.runningUser Vmblok.segmentTable) :
    (intervalTimerAddress memory.runningUser).Ensures known declined
      (fun timer after => TimerAt known memory cpu timer ∧ after.memory = scene.memory) scene := by
  simp only [intervalTimerAddress, loadRealAddress, ensures_bind, ensures_registers,
    ensures_fetch_iff isFaithful, ensures_modify]
  refine (ensures_perform _).mpr fun answer isKnown => ?_
  simp only [Cpu.setControl, RegisterFile.read_load, control, table] at isKnown
  cases answer with
  | error fault => exact (ensures_pure _).mpr ⟨.inVmblok isKnown, rfl⟩
  | ok real => exact (ensures_pure _).mpr ⟨.resident isKnown, rfl⟩

theorem countDown_tries (isFaithful : known.faithful)
    (layout : AccountingLayout known memory cpu user members)
    (counts : memory.CountsDown) (control : scene.cpu.control = cpu.control)
    (charged : scene.memory = memory.charged cpu user) :
    (countDown memory.runningUser memory.timeRun list exits).Ensures known declined
      (Tries known memory cpu user list exits [.badTimer, .timerInterruption]) scene := by
  have table : scene.memory.get memory.runningUser Vmblok.segmentTable =
      memory.get memory.runningUser Vmblok.segmentTable := by
    rw [charged, Memory.charged_get_vmblok layout.apart layout.user_mem layout.running_mem
      (by decide) (by decide) (by decide)]
  simp only [countDown, ensures_bind]
  refine (intervalTimerAddress_found isFaithful control table).mono ?_ fun _ _ => id
  rintro timer timed ⟨timerAt, same⟩
  have old : timed.memory.get timer (Field.first : Field UInt32) =
      memory.get timer (Field.first : Field UInt32) := by
    rw [same, charged]
    exact (Memory.charged_agreesOn fun stored stored_mem =>
      (timerAt.spares layout stored stored_mem).symm).get_eq
  have billed : memory.billedUser user = memory.runningUser := if_pos counts.1.charges
  have accounted : memory.accounted cpu user timer =
      (memory.charged cpu user).put timer Field.first (memory.countedTimer timer) := if_pos counts
  have forwards : ¬ExitApplies Memory.PresentsIo memory cpu user timer .badTimer :=
    fun backwards => counts.2 backwards.2
  simp only [ensures_fetch_iff isFaithful, ensures_store, ensures_ite, ensures_bind, ensures_pure,
    setGeneral, ensures_modify, clearBits, takeExit, branch, old, bne_iff_ne]
  rw [same, charged, ← Memory.countedTimer, ← accounted, signBit_xor_iff]
  refine fun _ => ⟨fun changes _ => ?_, fun stays => ?_⟩
  · have due : ExitApplies Memory.PresentsIo memory cpu user timer .timerInterruption :=
      ⟨counts, changes⟩
    refine .left (fun _ => timerAt) (.next forwards (.here due)) rfl ⟨rfl, fun _ _ => ?_⟩
      fun _ => ⟨?_, ?_, ?_⟩ <;>
    simp [Cpu.setGeneral, RegisterFile.read_load, billed]
  · rw [← billed]
    refine .goesOn (fun _ => timerAt) ?_ rfl
    simp only [List.forall_mem_cons]
    exact ⟨forwards, fun changes => stays changes.2, by simp⟩

/-- Where the timer is not charged, neither exit is due, and storage is as the charge has left
it. -/
theorem Tries.of_untimed {after : Scene} (charges : memory.ChargesUser)
    (untimed : ¬memory.ChargesTimer) (charged : after.memory = memory.charged cpu user) :
    Tries known memory cpu user list exits [.badTimer, .timerInterruption]
      (.goesOn memory.runningUser) after := by
  have billed : memory.billedUser user = memory.runningUser := if_pos charges
  rw [← billed]
  refine @Tries.goesOn _ _ _ _ _ _ _ 0 _ (fun counts => absurd counts.1 untimed) ?_ ?_
  · simp only [List.forall_mem_cons]
    exact ⟨fun backwards => untimed backwards.1, fun changes => untimed changes.1.1, by simp⟩
  · rw [charged, Memory.accounted, if_neg fun counts => untimed counts.1, if_pos charges]

/-- Where the time since the last dispatch is negative, nothing is counted down, and the exit for a
bad timer is due. -/
theorem Tries.of_backwards {before after : Scene} (timed : memory.ChargesTimer)
    (backwards : memory.timeRun.toInt32 < 0) (charged : before.memory = memory.charged cpu user)
    (kept : after.memory = before.memory)
    (taken : TakesExit exits (memory.billedUser user) .badTimer after) :
    Tries known memory cpu user list exits [.badTimer, .timerInterruption] (.left .completed)
      after := by
  refine @Tries.left _ _ _ _ _ _ _ 0 .badTimer _ (fun counts => absurd backwards counts.2)
    (.here ⟨timed, backwards⟩) (kept.trans ?_) taken fun other => absurd other (by decide)
  rw [exitMemory, userExitMemory, Memory.accounted, if_neg fun counts => counts.2 backwards,
    if_pos timed.charges]
  · exact charged
  all_goals simp

theorem chargeIntervalTimer_tries (isFaithful : known.faithful)
    (layout : AccountingLayout known memory cpu user members)
    (charges : memory.ChargesUser) (control : scene.cpu.control = cpu.control)
    (charged : scene.memory = memory.charged cpu user) :
    (chargeIntervalTimer memory.runningUser (memory.get PrefixArea.base PrefixArea.quantum) list
      exits).Ensures known declined
        (Tries known memory cpu user list exits [.badTimer, .timerInterruption]) scene := by
  have inVmblok : ∀ field : Field UInt8, field.offset.toNat + 1 ≤ 0xc0 →
      (1 ≤ Region.distance field.offset Vmblok.totalTime.offset ∧
        8 ≤ Region.distance Vmblok.totalTime.offset field.offset) →
      (1 ≤ Region.distance field.offset Vmblok.dispatchStatus.offset ∧
        1 ≤ Region.distance Vmblok.dispatchStatus.offset field.offset) →
      scene.memory.get memory.runningUser field = memory.get memory.runningUser field := by
    intro field inside total status
    rw [charged]
    exact Memory.charged_get_vmblok layout.apart layout.user_mem layout.running_mem inside total
      status
  have left : scene.memory.get PrefixArea.base PrefixArea.quantumLeft =
      memory.get PrefixArea.base PrefixArea.quantumLeft := by
    rw [charged]
    exact Memory.charged_get_prefix layout.apart layout.user_mem layout.running_mem (by decide)
      (by decide) (by decide) (by decide)
  simp only [chargeIntervalTimer, testBits, ensures_bind, ensures_fetch_iff isFaithful,
    ensures_pure, ensures_ite, inVmblok Vmblok.assistFlags (by decide) (by decide) (by decide),
    inVmblok Vmblok.timerLevel (by decide) (by decide) (by decide),
    bne_iff_ne, left]
  rw [← Memory.timeRun, signBit_iff]
  refine ⟨fun kept => .of_untimed charges (fun timed => kept timed.unassisted) charged,
    fun unassisted => ⟨fun off => .of_untimed charges (fun timed => ?_) charged, fun on => ?_⟩⟩
  · simp [timed.runs] at off
  have timed : memory.ChargesTimer := ⟨charges, not_not.mp unassisted, by simpa using on⟩
  refine ⟨fun backwards => ?_, fun forwards => ?_⟩
  · rw [ensures_log]
    refine (takeExit_takes isFaithful (.inr rfl) (memory.billedUser user)).mono ?_ fun _ _ => id
    rintro _ after ⟨rfl, kept, taken⟩
    exact .of_backwards timed backwards charged kept taken
  · exact countDown_tries isFaithful layout ⟨timed, forwards⟩ control charged

/-- No exit is due that depends on the accounting, if those before the last are not and the last is
not either. -/
theorem accounting_undue {timer : UInt32}
    (fails : ∀ exit ∈ [EntryExit.badTimer, .timerInterruption, .clean],
      ¬ExitApplies Memory.PresentsIo memory cpu user timer exit)
    (works : ¬ExitApplies Memory.PresentsIo memory cpu user timer .cpWait) :
    ∀ exit ∈ accountingExits, ¬ExitApplies Memory.PresentsIo memory cpu user timer exit := by
  simp only [List.forall_mem_cons, accountingExits] at fails ⊢
  exact ⟨fails.1, fails.2.1, fails.2.2.1, works, by simp⟩

/-- What follows the charge of a running user: the entry leaves if the user need not be looked at,
and goes on otherwise. -/
theorem leaveClean_tries (isFaithful : known.faithful) (charges : memory.ChargesUser)
    {timer : UInt32} (timerAt : memory.CountsDown → TimerAt known memory cpu timer)
    (fails : ∀ exit ∈ [EntryExit.badTimer, .timerInterruption],
      ¬ExitApplies Memory.PresentsIo memory cpu user timer exit)
    (left : scene.memory = memory.accounted cpu user timer) :
    (do
      let status ← fetch (memory.billedUser user) Vmblok.dispatchStatus
      let ioOld ← fetch PrefixArea.base PrefixArea.ioOldMask
      if ioOld &&& Psw.translationMask != 0 && status &&& Vmblok.dispatched != 0 then
        return .left (← exitFor (memory.billedUser user) exits .clean)
      else
        return .goesOn (memory.billedUser user) : Microcode Charged).Ensures known declined
      (Tries known memory cpu user list exits accountingExits) scene := by
  have running : memory.billedUser user = memory.runningUser := if_pos charges
  simp only [ensures_bind, ensures_fetch_iff isFaithful, ensures_ite, ensures_pure, left,
    Bool.and_eq_true, bne_iff_ne]
  refine ⟨fun isClean => ?_, fun unclean => ?_⟩
  · rw [running] at isClean
    refine (exitFor_takes isFaithful .clean (memory.billedUser user)).mono ?_ fun _ _ => id
    rintro _ after ⟨rfl, kept, taken⟩
    exact .left timerAt (.skip fails (.here ⟨charges, isClean⟩)) (kept.trans left) taken
      fun other => absurd other (by decide)
  · rw [running] at unclean
    refine .goesOn timerAt (accounting_undue ?_ fun waits => waits.1 charges) left
    simp only [List.forall_mem_cons] at fails ⊢
    exact ⟨fails.1, fails.2.1, fun clean => unclean clean.2, by simp⟩

/-- Up to its look at a user the dispatcher's entry takes the first exit that is due of those that
depend on the accounting. -/
theorem approach_tries (isFaithful : known.faithful)
    (layout : AccountingLayout known scene.memory scene.cpu
      (Address.wrap (scene.cpu.general.read 11)) members) :
    (approach list exits).Ensures known declined
      (Tries known scene.memory scene.cpu (Address.wrap (scene.cpu.general.read 11)) list exits
        accountingExits) scene := by
  simp only [approach, currentUser, ensures_bind, ensures_general, ensures_pure,
    ensures_fetch_iff isFaithful, ensures_ite, bne_iff_ne]
  generalize Address.wrap (scene.cpu.general.read 11) = user at layout ⊢
  refine ⟨fun charges => ?_, fun idle => ⟨fun waits => ?_, fun works => ?_⟩⟩
  · refine chargeRunTime_ensures isFaithful layout.apart layout.user_mem layout.running_mem
      fun _ _ _ => ?_
    refine (chargeIntervalTimer_tries isFaithful layout charges ?_ ?_).mono
      (fun charged after tries => ?_) fun _ _ => id
    · rfl
    · rfl
    cases tries with
    | left timerAt first left taken tells =>
        exact (ensures_pure _).mpr
          (.left timerAt (first.append [.clean, .cpWait]) left taken tells)
    | @goesOn timer _ timerAt fails left =>
        exact leaveClean_tries isFaithful charges timerAt fails left
  · have same := @accounted_of_idle scene.memory scene.cpu user idle 0
    refine (takeExit_takes isFaithful (.inl rfl) (scene.memory.billedUser user)).mono ?_
      fun _ _ => id
    rintro _ after ⟨rfl, kept, taken⟩
    exact @Tries.left _ _ _ _ _ _ _ 0 .cpWait _ (fun counts => absurd counts.1.charges idle)
      (.skip (undue_of_idle _ idle 0) (.here ⟨idle, waits⟩)) (kept.trans same.symm) taken
      fun other => absurd other (by decide)
  · have same := @accounted_of_idle scene.memory scene.cpu user idle 0
    have undue := accounting_undue (@undue_of_idle scene.memory scene.cpu user _ idle 0)
      fun due => works due.2
    have unbilled : scene.memory.billedUser user = user := if_neg idle
    have goesOn : Tries known scene.memory scene.cpu user list exits accountingExits
        (.goesOn (scene.memory.billedUser user)) scene :=
      .goesOn (fun counts => absurd counts.1.charges idle) undue same.symm
    rwa [unbilled] at goesOn

/-- The entry cannot tell which exit is due: none of those is that depend on the accounting, and the
search for an external interruption of the user whose run time has been billed is given up. -/
def Stalls (known : Knowledge) (memory : Memory) (cpu : Cpu) (user : UInt32) : Prop :=
  ∃ timer, (memory.CountsDown → TimerAt known memory cpu timer) ∧
    (∀ exit ∈ accountingExits,
      ¬ExitApplies Memory.PresentsIo memory cpu user timer exit) ∧
    (memory.accounted cpu user timer).SearchesExternal (memory.billedUser user) ∧
    (memory.accounted cpu user timer).PendingOverlong (memory.billedUser user)

/-- The dispatcher's entry takes the first exit that is due, unless it cannot tell. -/
theorem selectExit_tries (isFaithful : known.faithful)
    (layout : AccountingLayout known scene.memory scene.cpu
      (Address.wrap (scene.cpu.general.read 11)) members) :
    (selectExit list exits).Ensures known
      (fun _ _ => Stalls known scene.memory scene.cpu (Address.wrap (scene.cpu.general.read 11)))
      (fun completion after => Tries known scene.memory scene.cpu
        (Address.wrap (scene.cpu.general.read 11)) list exits exitOrder (.left completion) after)
      scene := by
  rw [selectExit_eq, ensures_bind]
  refine (approach_tries isFaithful layout).mono ?_ fun _ _ => id
  generalize Address.wrap (scene.cpu.general.read 11) = user
  rintro charged after tries
  cases tries with
  | left timerAt first left taken tells =>
      exact (ensures_pure _).mpr (.left timerAt (first.append userExits) left taken tells)
  | @goesOn timer _ timerAt fails accounted =>
      simp only [ensures_bind]
      refine (chooseExit_first isFaithful _).mono ?_ fun _ _ stalls => ?_
      · rintro exit chosen ⟨first, left⟩
        rw [accounted] at first left
        -- The exits that depend on the user are due by storage as the accounting has left it.
        have due := first.congr fun exit exit_mem =>
          show ExitApplies Memory.PresentsIo scene.memory scene.cpu user timer exit ↔ _ by
            revert exit
            simp [userExits, ExitApplies]
        refine (exitFor_takes isFaithful exit _).mono ?_ fun _ _ => id
        rintro _ after ⟨rfl, kept, taken⟩
        have notTimer : exit ≠ .timerInterruption := by
          rintro rfl
          exact first.holds
        refine .left timerAt (due.skip fails) (kept.trans ?_) taken fun isTimer =>
          absurd isTimer notTimer
        rw [exitMemory]
        · exact left
        · exact notTimer
      · rw [accounted] at stalls
        exact ⟨timer, timerAt, fails, stalls⟩

/-- The dispatcher's entry takes the first exit that is due, and counts. -/
theorem enter_tries (isFaithful : known.faithful)
    (layout : AccountingLayout known scene.memory scene.cpu
      (Address.wrap (scene.cpu.general.read 11)) members) :
    (enter list exits).Ensures known
      (fun _ _ => Stalls known scene.memory scene.cpu (Address.wrap (scene.cpu.general.read 11)))
      (fun completion after => ∃ left, Tries known scene.memory scene.cpu
          (Address.wrap (scene.cpu.general.read 11)) list exits exitOrder (.left completion) left ∧
        after.cpu = left.cpu ∧
        ∀ region, (Region.ofField list EntryList.entries).Apart region →
          after.memory.AgreesOn left.memory region)
      scene := by
  simp only [enter, ensures_bind, ensures_fetch_iff isFaithful]
  refine (selectExit_tries isFaithful layout).mono ?_ fun _ _ => id
  intro completion left tries
  simp only [ensures_store, ensures_pure]
  exact fun _ => ⟨left, tries, rfl, fun region counter => Memory.put_agreesOn _ counter⟩

end Accounting

/-- Where an exit of the dispatcher's entry stores nothing, storage is as the accounting has left
it. -/
theorem exitMemory_agreesOn_accounted {memory : Memory} {cpu : Cpu} {user timer : UInt32}
    {region : Region}
    (status : (Region.ofField memory.runningUser Vmblok.dispatchStatus).Apart region)
    (noted : (Region.ofField (memory.billedUser user) Vmblok.runStatus).Apart region)
    (exit : EntryExit) :
    (exitMemory memory cpu user timer exit).AgreesOn (memory.accounted cpu user timer) region := by
  cases exit with
  | timerInterruption => exact Memory.put_agreesOn _ status
  | virtualWait | dispatch => exact Memory.put_agreesOn _ noted
  | _ => exact fun _ _ => rfl

/-- Where an exit of the dispatcher's entry stores nothing, storage is as it has been found. -/
theorem exitMemory_agreesOn {memory : Memory} {cpu : Cpu} {user timer : UInt32} {region : Region}
    (charge : ∀ stored ∈ memory.chargeRegions user, stored.Apart region)
    (counted : memory.CountsDown →
      (Region.ofField timer (Field.first : Field UInt32)).Apart region)
    (noted : (Region.ofField (memory.billedUser user) Vmblok.runStatus).Apart region)
    (exit : EntryExit) :
    (exitMemory memory cpu user timer exit).AgreesOn memory region := by
  have status : (Region.ofField memory.runningUser Vmblok.dispatchStatus).Apart region :=
    charge _ (by simp [Memory.chargeRegions])
  refine (exitMemory_agreesOn_accounted status noted exit).trans ?_
  rw [Memory.accounted]
  split
  · rename_i counts
    exact (Memory.put_agreesOn _ (counted counts)).trans (Memory.charged_agreesOn charge)
  · split
    · exact Memory.charged_agreesOn charge
    · exact fun _ _ => rfl

end Dispatcher

namespace Memory

/-- What tells of the interruptions of a user outside its VMBLOK lies apart from a region: the
extended control block that the user has or is noted to use, and the chained blocks. -/
structure InterruptionsApart (memory : Memory) (user : UInt32) (region : Region) : Prop where
  control : memory.isExtended user = true ∨ memory.inExtendedMode user = true →
    region.Apart (memory.ecblokRegion user)
  chained : ∀ block, memory.Chained (memory.getAddress user Vmblok.externalPending) block →
    region.Apart ⟨block, 12⟩

section Left

variable {memory other : Memory} {user : UInt32}

/-- What a user is in storage that agrees with other storage but for its run status. -/
structure SameBut (memory other : Memory) (user : UInt32) : Prop where
  fields : ∀ {α : Type} [Stored α] {field : Field α}, field.offset.toNat + Stored.size α ≤ 0xc0 →
    (1 ≤ Region.distance Vmblok.runStatus.offset field.offset ∧
      Stored.size α ≤ Region.distance field.offset Vmblok.runStatus.offset) →
    other.AgreesOn memory (.ofField user field)
  control : memory.isExtended user = true ∨ memory.inExtendedMode user = true →
    other.AgreesOn memory (memory.ecblokRegion user)
  chained : ∀ block, memory.Chained (memory.getAddress user Vmblok.externalPending) block →
    other.AgreesOn memory ⟨block, 12⟩

namespace SameBut

variable (same : SameBut memory other user)

include same

theorem isExtended : other.isExtended user = memory.isExtended user := by
  rw [Memory.isExtended, Memory.isExtended, (same.fields (by decide) (by decide)).get_eq]

theorem inExtendedMode : other.inExtendedMode user = memory.inExtendedMode user := by
  rw [Memory.inExtendedMode, Memory.inExtendedMode,
    (same.fields (by decide) (by decide)).get_eq]

theorem presentsExternal : other.PresentsExternal user ↔ memory.PresentsExternal user := by
  have kept : memory.InterruptionsKept user (other.AgreesOn memory) := by
    refine ⟨?_, same.chained⟩
    have vmblok : ∀ {α : Type} [Stored α] {field : Field α},
        field.offset.toNat + Stored.size α ≤ 0xc0 →
        (1 ≤ Region.distance Vmblok.runStatus.offset field.offset ∧
          Stored.size α ≤ Region.distance field.offset Vmblok.runStatus.offset) →
        other.AgreesOn memory (.ofField user field) := same.fields
    simp only [interruptionRegions, List.forall_mem_append, List.forall_mem_cons]
    refine ⟨⟨vmblok (by decide) (by decide), vmblok (by decide) (by decide),
      vmblok (by decide) (by decide), vmblok (by decide) (by decide), by simp⟩, ?_⟩
    split
    · rename_i extended
      simpa using same.control (.inl extended)
    · simp
  have psw : other.get user Vmblok.psw = memory.get user Vmblok.psw :=
    (same.fields (by decide) (by decide)).get_eq
  rw [presented?_found_iff, presented?_found_iff, presented?, presented?, psw,
    kept.enabledExternal? same.isExtended]

theorem presentsIo : other.PresentsIo user ↔ memory.PresentsIo user := by
  have psw : other.get user Vmblok.psw = memory.get user Vmblok.psw :=
    (same.fields (by decide) (by decide)).get_eq
  have pending : other.get user Vmblok.ioPending = memory.get user Vmblok.ioPending :=
    (same.fields (by decide) (by decide)).get_eq
  have channels : channelsOf (memory.get user Vmblok.psw).systemMask (memory.isExtended user)
        (memory.inExtendedMode user) (other.virtualControl2 user) =
      channelsOf (memory.get user Vmblok.psw).systemMask (memory.isExtended user)
        (memory.inExtendedMode user) (memory.virtualControl2 user) := by
    by_cases used : memory.isExtended user = true ∨ memory.inExtendedMode user = true
    · have extension : other.getAddress user Vmblok.extension =
          memory.getAddress user Vmblok.extension :=
        (same.fields (by decide) (by decide)).getAddress_eq
      have control : other.virtualControl2 user = memory.virtualControl2 user := by
        rw [virtualControl2, virtualControl2, extension]
        exact ((same.control used).mono (Region.ofField_within _ (by decide) (by decide))).get_eq
      rw [control]
    · rw [not_or, Bool.not_eq_true, Bool.not_eq_true] at used
      simp only [channelsOf, used, Bool.or_false, Bool.false_and, Bool.false_eq_true, if_false]
  rw [PresentsIo, PresentsIo, ← presentedChannels_ne_zero_iff, ← presentedChannels_ne_zero_iff,
    presentedChannels, presentedChannels, waitingChannels, waitingChannels, psw, pending,
    same.isExtended, same.inExtendedMode, channels]

end SameBut

/-- The run status of a user once it tells whether the virtual PSW is a wait PSW. -/
theorem notesWait_status (memory : Memory) (user : UInt32) :
    let status := (memory.notesWait user).get user Vmblok.runStatus
    status &&& Vmblok.idle = 0 ∧
      (status &&& Vmblok.waitsByPsw ≠ 0 ↔ (memory.get user Vmblok.psw).isWait = true) ∧
      status &&& Vmblok.waitsForCp = memory.get user Vmblok.runStatus &&& Vmblok.waitsForCp := by
  have bits : ∀ (status : UInt8) (isWait : Bool),
      let noted := if isWait then
          (status &&& ~~~(Vmblok.waitsByPsw ||| Vmblok.idle)) ||| Vmblok.waitsByPsw
        else status &&& ~~~(Vmblok.waitsByPsw ||| Vmblok.idle)
      noted &&& Vmblok.idle = 0 ∧ (noted &&& Vmblok.waitsByPsw ≠ 0 ↔ isWait = true) ∧
        noted &&& Vmblok.waitsForCp = status &&& Vmblok.waitsForCp := by
    rintro ⟨status⟩ isWait
    revert status
    cases isWait <;> decide +kernel
  rw [notesWait, get_put_self]
  exact bits _ _

end Left

end Memory

variable {Machine Refusal : Type}

namespace DispatcherEntry

section

variable {callouts : Callouts Machine Refusal} (policy : Policy) (view : StorageView callouts)
  (members : List UInt32) (entry : DispatcherEntry Machine)

/-- The exits lie apart from all that the entry stores into before it takes one. -/
structure ExitsApart : Prop where
  outside : Region.Outside ⟨Address.wrap entry.exits, 40⟩ members
  timer : ∀ real, entry.HasTimerAt view real →
    (Region.ofField real (Field.first : Field UInt32)).Apart ⟨Address.wrap entry.exits, 40⟩

/-- Storage once the entry has charged run time. -/
def accounted (timer : UInt32) : Memory :=
  (entry.before view).accounted entry.found.cpu entry.user timer

/-- The user whose run time the entry bills. -/
def billed : UInt32 :=
  (entry.before view).billedUser entry.user

/-- An exit is the first that is due. `io` tells when I/O interruptions are due. -/
def IsFirst (io : Memory → UInt32 → Prop) (timer : UInt32) (exit : EntryExit) : Prop :=
  FirstOf (ExitApplies io (entry.before view) entry.found.cpu entry.user timer) exitOrder exit

/-- The virtual interval timer of the running user, where it is counted down, is at an address. -/
def CountsTimerAt (timer : UInt32) : Prop :=
  (entry.before view).CountsDown →
    TimerAt (.ofMachine callouts entry.found.machine) (entry.before view) entry.found.cpu timer

/-- Nothing is left in storage that keeps a user from being dispatched. -/
structure LeavesDispatchable (memory : Memory) (user : UInt32) : Prop where
  noCpWait : memory.get user Vmblok.runStatus &&& Vmblok.waitsForCp = 0
  noWait : ¬(memory.get user Vmblok.psw).isWait = true
  noExternal : ¬memory.PresentsExternal user
  noIo : ¬memory.PresentsIo user

/-- A completed entry has taken the first exit that is due. -/
structure TakesFirst (timer : UInt32) (exit : EntryExit) : Prop where
  timerAt : entry.CountsTimerAt view timer
  first : entry.IsFirst view Memory.PresentsIo timer exit
  /-- The exit for I/O interruptions alone may be taken where none that is enabled is pending. -/
  enabled : entry.IsFirst view Memory.EnablesIo timer exit ↔
    (exit = .io → (entry.accounted view timer).EnablesIo (entry.billed view))
  address : (entry.response policy callouts).system.cpu.psw.instructionAddress =
    (entry.before view).getAddress (Address.wrap entry.exits) exit.place
  forUser : exit ≠ .cpWait → exit ≠ .badTimer →
    (entry.response policy callouts).system.cpu.general.read 11 = entry.billed view
  kept : ∀ region, entry.counter.Apart region →
    (entry.after policy view).AgreesOn
      (exitMemory (entry.before view) entry.found.cpu entry.user timer exit) region
  notIdle : exit = .virtualWait ∨ exit = .dispatch →
    (entry.after policy view).get (entry.billed view) Vmblok.runStatus &&& Vmblok.idle = 0
  waits : exit = .virtualWait ∨ exit = .dispatch →
    ((entry.after policy view).get (entry.billed view) Vmblok.runStatus &&&
        Vmblok.waitsByPsw ≠ 0 ↔
      ((entry.after policy view).get (entry.billed view) Vmblok.psw).isWait = true)
  dispatchable : exit = .dispatch →
    (∀ region ∈ [entry.counter, .ofField (entry.billed view) Vmblok.runStatus],
      (entry.accounted view timer).InterruptionsApart (entry.billed view) region) →
    LeavesDispatchable (entry.after policy view) (entry.billed view)

end

section Order

variable {callouts : Callouts Machine Refusal} {policy : Policy} {view : StorageView callouts}
  {members : List UInt32} {entry : DispatcherEntry Machine} {timer : UInt32} {exit : EntryExit}

theorem LaidOut.billed_mem (laidOut : entry.LaidOut view members) :
    entry.billed view ∈ members := by
  rw [billed, Memory.billedUser]
  split
  · exact laidOut.running
  · exact laidOut.current

/-- A virtual interval timer is apart from what is apart from the VMBLOKs and from where the machine
has it. -/
theorem LaidOut.timer_apart (laidOut : entry.LaidOut view members) {region : Region}
    (outside : region.Outside members)
    (resident : ∀ real, entry.HasTimerAt view real →
      (Region.ofField real (Field.first : Field UInt32)).Apart region)
    (timerAt : TimerAt (.ofMachine callouts entry.found.machine) (entry.before view)
      entry.found.cpu timer) :
    (Region.ofField timer (Field.first : Field UInt32)).Apart region := by
  cases timerAt with
  | resident told => exact resident _ told
  | inVmblok told =>
      refine ((outside.fromVmblok _ laidOut.running).mono_right ?_).symm
      rw [Region.ofField, Field.first, UInt32.add_zero]
      exact vmblok_within _ (show Vmblok.intervalTimer.offset.toNat + 4 ≤ 0xc0 by decide)

/-- The entry takes its exit by the exits that it has found. -/
theorem LaidOut.exitAddress (laidOut : entry.LaidOut view members)
    (exits : entry.ExitsApart view members) (timerAt : entry.CountsTimerAt view timer)
    (exit : EntryExit) :
    (exitMemory (entry.before view) entry.found.cpu entry.user timer exit).getAddress
        (Address.wrap entry.exits) exit.place =
      (entry.before view).getAddress (Address.wrap entry.exits) exit.place := by
  refine ((exitMemory_agreesOn ?_ ?_ ?_ exit).mono
    (Region.ofField_within _ (?_ : _ ≤ 40) ?_)).getAddress_eq
  · exact fun stored stored_mem =>
      (exits.outside.charge laidOut.current laidOut.running stored stored_mem).symm
  · exact fun counts => laidOut.timer_apart exits.outside exits.timer (timerAt counts)
  · exact ((exits.outside.fromVmblok _ laidOut.billed_mem).mono_right
      (vmblok_within _ (by decide))).symm
  · cases exit <;> decide
  · cases exit <;> decide

/-- What the entry leaves in the billed user's VMBLOK is what it has left there when it has taken
its exit. -/
theorem LaidOut.left_agreesOn (laidOut : entry.LaidOut view members)
    (kept : ∀ region, entry.counter.Apart region → (entry.after policy view).AgreesOn
      (exitMemory (entry.before view) entry.found.cpu entry.user timer exit) region)
    {α : Type} [Stored α] {field : Field α} (inside : field.offset.toNat + Stored.size α ≤ 0xc0) :
    (entry.after policy view).AgreesOn
      (exitMemory (entry.before view) entry.found.cpu entry.user timer exit)
      (.ofField (entry.billed view) field) :=
  kept _ ((laidOut.counter.fromVmblok _ laidOut.billed_mem).mono_right (vmblok_within _ inside))

theorem LaidOut.dispatchable (laidOut : entry.LaidOut view members)
    (kept : ∀ region, entry.counter.Apart region → (entry.after policy view).AgreesOn
      (exitMemory (entry.before view) entry.found.cpu entry.user timer .dispatch) region)
    (first : entry.IsFirst view Memory.PresentsIo timer .dispatch)
    (apart : ∀ region ∈ [entry.counter, .ofField (entry.billed view) Vmblok.runStatus],
      (entry.accounted view timer).InterruptionsApart (entry.billed view) region) :
    LeavesDispatchable (entry.after policy view) (entry.billed view) := by
  simp only [List.forall_mem_cons] at apart
  obtain ⟨fromCounter, fromStatus, -⟩ := apart
  have noted : exitMemory (entry.before view) entry.found.cpu entry.user timer .dispatch =
      (entry.accounted view timer).notesWait (entry.billed view) := rfl
  have left : ∀ region, entry.counter.Apart region →
      (Region.ofField (entry.billed view) Vmblok.runStatus).Apart region →
      (entry.after policy view).AgreesOn (entry.accounted view timer) region := by
    intro region counter status
    refine (kept region counter).trans ?_
    rw [noted]
    exact Memory.put_agreesOn _ status
  have same : Memory.SameBut (entry.accounted view timer) (entry.after policy view)
      (entry.billed view) := by
    refine ⟨fun inside clear => left _ ?_ (Region.ofField_apart _ clear.1 clear.2),
      fun used => left _ (fromCounter.control used) (fromStatus.control used),
      fun block chained => left _ (fromCounter.chained block chained)
        (fromStatus.chained block chained)⟩
    exact (laidOut.counter.fromVmblok _ laidOut.billed_mem).mono_right (vmblok_within _ inside)
  have early : ∀ other ∈ accountingExits ++ [.waitsForCp, .eventOrPage, .external, .io,
      .virtualWait], ¬ExitApplies Memory.PresentsIo (entry.before view) entry.found.cpu entry.user
        timer other :=
    FirstOf.fails (show FirstOf _ (_ ++ [.dispatch]) .dispatch from first) (by decide)
  have notDue : ∀ other ∈ [EntryExit.waitsForCp, .external, .io, .virtualWait],
      ¬UserExitApplies Memory.PresentsIo (entry.accounted view timer) (entry.billed view)
        other := by
    simp only [List.forall_mem_cons]
    exact ⟨early .waitsForCp (by decide), early .external (by decide), early .io (by decide),
      early .virtualWait (by decide), by simp⟩
  simp only [List.forall_mem_cons] at notDue
  obtain ⟨noCpWait, noExternal, noIo, noWait, -⟩ := notDue
  refine ⟨?_, ?_, mt same.presentsExternal.mp noExternal, mt same.presentsIo.mp noIo⟩
  · rw [(laidOut.left_agreesOn kept (by decide)).get_eq, noted,
      (Memory.notesWait_status _ _).2.2]
    exact not_not.mp noCpWait
  · rw [(same.fields (by decide) (by decide)).get_eq]
    exact noWait

/-- What the program of an entry has taken first, a completed entry has taken first. -/
theorem LaidOut.takesFirst (laidOut : entry.LaidOut view members)
    (exits : entry.ExitsApart view members) {left : Scene}
    (timerAt : entry.CountsTimerAt view timer)
    (first : entry.IsFirst view Memory.PresentsIo timer exit)
    (isLeft : left.memory =
      exitMemory (entry.before view) entry.found.cpu entry.user timer exit)
    (taken : TakesExit (Address.wrap entry.exits) (entry.billed view) exit left)
    (psw : (entry.response policy callouts).system.cpu.psw = left.cpu.psw)
    (general : (entry.response policy callouts).system.cpu.general = left.cpu.general)
    (counted : ∀ region, entry.counter.Apart region →
      (entry.after policy view).AgreesOn left.memory region) :
    entry.TakesFirst policy view timer exit := by
  rw [isLeft] at counted
  have noted : exit = .virtualWait ∨ exit = .dispatch →
      (entry.after policy view).get (entry.billed view) Vmblok.runStatus =
        ((entry.accounted view timer).notesWait (entry.billed view)).get (entry.billed view)
          Vmblok.runStatus := by
    intro last
    rw [(laidOut.left_agreesOn counted (by decide)).get_eq]
    rcases last with rfl | rfl <;> rfl
  have samePsw : exit = .virtualWait ∨ exit = .dispatch →
      (entry.after policy view).get (entry.billed view) Vmblok.psw =
        (entry.accounted view timer).get (entry.billed view) Vmblok.psw := by
    intro last
    rw [(laidOut.left_agreesOn counted (by decide)).get_eq]
    rcases last with rfl | rfl <;>
      exact (Memory.put_agreesOn _ (Region.ofField_apart _ (by decide) (by decide))).get_eq
  have status := (entry.accounted view timer).notesWait_status (entry.billed view)
  refine ⟨timerAt, first, ?_, ?_, ?_, counted, fun last => ?_, fun last => ?_, ?_⟩
  · refine (first.strengthen_iff fun exit isDue => ?_).trans ?_
    · cases exit with
      | io => exact Memory.EnablesIo.presents isDue
      | _ => exact isDue
    · have holds := first.holds
      cases exit with
      | io => exact ⟨fun isDue _ => isDue, fun isDue => isDue rfl⟩
      | _ => exact iff_of_true holds nofun
  · rw [psw, taken.address, isLeft, laidOut.exitAddress exits timerAt]
  · rw [general]
    exact taken.forUser
  · rw [noted last]
    exact status.1
  · rw [noted last, samePsw last]
    exact status.2.1
  · rintro rfl
    exact laidOut.dispatchable counted first

/-- An answered entry takes the first exit that is due once run time has been charged, with the user
whose run time it has been. It declines for no other reason than that a chain of external
interruptions goes on beyond the blocks that may be looked at. -/
theorem exits_in_order (policy : Policy) (view : StorageView callouts)
    (entry : DispatcherEntry Machine) (apart : UsersApart members)
    (laidOut : entry.LaidOut view members) (exits : entry.ExitsApart view members)
    (passed : entry.found.registry.cpGate .disp0 entry.found.cpu = .passed)
    (answered : (entry.response policy callouts).Answered) :
    (entry.response policy callouts).result = .ok .declined ∧
        Stalls (.ofMachine callouts entry.found.machine) (entry.before view) entry.found.cpu
          entry.user ∨
      entry.Completes policy callouts ∧ ∃ timer exit, entry.TakesFirst policy view timer exit := by
  let call : Call := ⟨entry.found.cpu, .disp0 entry.list entry.exits⟩
  have settles : call.Settles view entry.found _ _ (entry.response policy callouts) :=
    @System.call_settles _ _ _ policy view entry.found call _ rfl answered _ _
      (enter_tries trivial ⟨apart, laidOut.current, laidOut.running,
        fun real isTimer => (laidOut.timer real isTimer).1⟩)
  cases settles with
  | stopped gate => exact absurd passed gate
  | left _ _ stalls declined => exact .inl ⟨declined, stalls⟩
  | performed completion final holds completed cpu memory =>
      obtain ⟨left, tries, sameCpu, counted⟩ := holds
      cases tries with
      | @left timer exit _ timerAt first left taken =>
          refine .inr ⟨?_, timer, exit, laidOut.takesFirst exits timerAt first left taken ?_ ?_ ?_⟩
          · exact completed
          · rw [cpu, Scene.committedCpu_psw, sameCpu]
          · rw [cpu, Scene.committedCpu_general, sameCpu]
          · rw [DispatcherEntry.after, memory]
            exact counted

end Order

/-- The dispatcher is entered for another user than the running one, whose virtual interval timer
still runs. -/
def timedEntry : DispatcherEntry Memory where
  found :=
    { System.busySystem with
      cpu := (Call.forUser 0x7000 (.disp0 0x5000 0x5800)).cpu
      machine :=
        ((((System.busySystem.machine.put 0x9000 Vmblok.timerLevel Vmblok.timerRuns).put
          PrefixArea.base PrefixArea.quantum 0x2000).put
          PrefixArea.base PrefixArea.quantumLeft 0x1000).put
          0x10050 (Field.first : Field UInt32) 0x5000).put
          0x5800 EntryExit.dispatch.place 0x1000 }
  list := 0x5000
  exits := 0x5800

/-- The running user can be dispatched again, with its timer counted down. -/
theorem timedEntry_dispatches :
    let view := Memory.storageView.relocating 0x10000
    let response := timedEntry.response .splitKeys (Memory.callouts.relocating 0x10000)
    (timedEntry.before view).CountsDown ∧
      timedEntry.IsFirst view Memory.PresentsIo 0x10050 .dispatch ∧
      response.system.cpu.psw.instructionAddress = 0x1000 ∧
      response.system.cpu.general.read 11 = 0x9000 ∧
      (timedEntry.after .splitKeys view).get 0x10050 (Field.first : Field UInt32) = 0x4000 ∧
      LeavesDispatchable (timedEntry.after .splitKeys view) 0x9000 := by
  intro view response
  have isAt : ∀ real : UInt32, timedEntry.HasTimerAt view real → real = 0x10050 := by
    rintro real ⟨machine, found, -, answered, isReal⟩
    cases answered
    cases isReal
    decide
  have laidOut : timedEntry.LaidOut view [0x7000, 0x9000] := by
    refine ⟨by decide +kernel, by decide +kernel, by decide +kernel, fun real isTimer => ?_⟩
    rw [isAt real isTimer]
    decide +kernel
  have exits : timedEntry.ExitsApart view [0x7000, 0x9000] := by
    refine ⟨by decide +kernel, fun real isTimer => ?_⟩
    rw [isAt real isTimer]
    decide +kernel
  have counts : (timedEntry.before view).CountsDown := by decide +kernel
  have billed : timedEntry.billed view = 0x9000 := by decide +kernel
  have left : response.system.cpu.psw.instructionAddress = 0x1000 := by decide +kernel
  rcases exits_in_order .splitKeys view timedEntry (by decide +kernel) laidOut exits
    (by decide +kernel) (by decide +kernel) with ⟨declined, -⟩ | ⟨-, timer, exit, takes⟩
  · have completed : response.result = .ok .completed := Response.result_eq_ok (by decide +kernel)
    nomatch declined.symm.trans completed
  have isTimer : timer = 0x10050 := by
    cases takes.timerAt counts with
    | resident told => exact isAt _ told
    | inVmblok told =>
        obtain ⟨machine, found, -, answered, isFault⟩ := told
        cases answered
        nomatch isFault
  subst timer
  obtain rfl : exit = .dispatch := by
    have address := takes.address.symm.trans left
    revert address
    cases exit <;> decide +kernel
  have dispatchable := takes.dispatchable rfl
  have forUser := takes.forUser nofun nofun
  rw [billed] at dispatchable forUser
  refine ⟨counts, takes.first, left, forUser, by decide +kernel, dispatchable ?_⟩
  have unchained : ∀ block,
      ¬(timedEntry.accounted view 0x10050).Chained
        ((timedEntry.accounted view 0x10050).getAddress 0x9000 Vmblok.externalPending) block := by
    have none : (timedEntry.accounted view 0x10050).getAddress 0x9000
        Vmblok.externalPending = 0 := by decide +kernel
    rw [none]
    rintro block (⟨some⟩ | ⟨some⟩) <;> exact some rfl
  have basic : (timedEntry.accounted view 0x10050).isExtended 0x9000 = false ∧
      (timedEntry.accounted view 0x10050).inExtendedMode 0x9000 = false := by decide +kernel
  intro region _
  exact ⟨by simp [basic], fun block chained => absurd chained (unchained block)⟩

/-- An entry for an extended virtual machine in basic-control mode with an interruption of channel 0
pending. Its system mask has the bit of all channels from 6 on, and that of channel 0 off. Virtual
control register 2 has the bit of channel 0. -/
def loneStrayEntry : DispatcherEntry Memory :=
  { strayEntry with
    found :=
      { strayEntry.found with
        machine :=
          (((strayEntry.found.machine.put 0x7000 Vmblok.ioPending 0x8000).put
            0x7800 (Ecblok.control.item 2) 0x80000000).put
            0x5800 EntryExit.dispatch.place 0x1000) } }

/-- The exit for I/O interruptions is taken, although none that is enabled is pending, so that the
user could be dispatched. -/
theorem loneStrayEntry_leaves :
    loneStrayEntry.Completes .splitKeys Memory.callouts ∧
      (loneStrayEntry.response .splitKeys Memory.callouts).system.cpu.psw.instructionAddress =
        (loneStrayEntry.before Memory.storageView).getAddress 0x5800 EntryExit.io.place ∧
      (loneStrayEntry.response .splitKeys Memory.callouts).system.cpu.psw.instructionAddress ≠
        (loneStrayEntry.before Memory.storageView).getAddress 0x5800 EntryExit.dispatch.place ∧
      loneStrayEntry.IsFirst Memory.storageView Memory.EnablesIo 0 .dispatch := by
  have idle : ¬(loneStrayEntry.before Memory.storageView).ChargesUser := by decide +kernel
  have same : loneStrayEntry.accounted Memory.storageView 0 =
      loneStrayEntry.before Memory.storageView := by
    rw [accounted, accounted_of_idle idle]
  have billed : loneStrayEntry.billed Memory.storageView = 0x7000 := by decide +kernel
  have masked : ¬(loneStrayEntry.before Memory.storageView).EnablesIo 0x7000 := by
    have modes : (loneStrayEntry.before Memory.storageView).inExtendedMode 0x7000 = false ∧
        ((loneStrayEntry.before Memory.storageView).get 0x7000
          Vmblok.psw).systemMask.toBitVec.getMsbD 0 = false ∧
        (loneStrayEntry.before Memory.storageView).get 0x7000 Vmblok.ioPending = 0x8000 := by
      decide +kernel
    rintro ⟨channel, pending, enabled⟩
    have only : ∀ channel < 16, (0x8000 : UInt16).toBitVec.getMsbD channel = true →
        channel = 0 := by decide
    rw [Memory.ChannelPending, modes.2.2] at pending
    obtain rfl := only channel (BitVec.lt_of_getMsbD pending) pending
    simp [Memory.ChannelEnabled, Memory.InSystemMask, modes] at enabled
  have fails : ∀ other ∈ accountingExits ++ [.waitsForCp, .eventOrPage, .external, .io,
      .virtualWait], ¬ExitApplies Memory.EnablesIo (loneStrayEntry.before Memory.storageView)
        loneStrayEntry.found.cpu loneStrayEntry.user 0 other := by
    simp only [accountingExits, List.cons_append, List.nil_append, List.forall_mem_cons,
      ExitApplies, UserExitApplies]
    rw [← accounted, same, ← DispatcherEntry.billed, billed]
    refine ⟨fun backwards => idle backwards.1.charges, fun changes => idle changes.1.1.charges,
      fun clean => idle clean.1, fun waits => absurd waits.2 (by decide +kernel),
      by decide +kernel, by decide +kernel, fun external => absurd external.1 (by decide +kernel),
      masked, by decide +kernel, by simp⟩
  refine ⟨Response.result_eq_ok (by decide +kernel), by decide +kernel, by decide +kernel, ?_⟩
  exact show FirstOf _ (_ ++ [.dispatch]) .dispatch from .skip fails (.here trivial)

end DispatcherEntry

end Assist370
