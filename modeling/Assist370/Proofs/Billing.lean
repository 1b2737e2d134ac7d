import Assist370.Proofs.RunTime

/-!
# Entries of the dispatcher

Between two entries of the dispatcher the control program runs code of its own. Each completed
entry counts, and it bills the run time of the running user if the control program status tells of
one. Since a bill takes that status away, run time is billed once until a user is started again
(`DispatcherEntry.billed_once`).
-/

namespace Assist370

open Dispatcher

variable {Machine Refusal : Type}

/-- An entry of the dispatcher, with the system that it finds. -/
structure DispatcherEntry (Machine : Type) where
  found : System Machine
  list : UInt32
  exits : UInt32

namespace DispatcherEntry

/-- The user that the dispatcher is entered for. -/
def user (entry : DispatcherEntry Machine) : UInt32 :=
  Address.wrap (entry.found.cpu.general.read 11)

/-- The word that counts the entries. -/
def counter (entry : DispatcherEntry Machine) : Region :=
  .ofField (Address.wrap entry.list) EntryList.entries

section

variable (policy : Policy) (callouts : Callouts Machine Refusal)

/-- What the entry comes to. -/
def response (entry : DispatcherEntry Machine) : Response Machine Refusal :=
  entry.found.perform policy callouts (.disp0 entry.list entry.exits)

/-- The entry completes. -/
def Completes (entry : DispatcherEntry Machine) : Prop :=
  (entry.response policy callouts).result = .ok .completed

end

variable {callouts : Callouts Machine Refusal} (policy : Policy) (view : StorageView callouts)

/-- Storage as the entry finds it. -/
def before (entry : DispatcherEntry Machine) : Memory :=
  view.memory entry.found.machine

/-- Storage as the entry leaves it. -/
def after (entry : DispatcherEntry Machine) : Memory :=
  view.memory (entry.response policy callouts).system.machine

/-- The running user has its virtual interval timer at a real address. -/
def HasTimerAt (entry : DispatcherEntry Machine) (real : UInt32) : Prop :=
  (Knowledge.ofMachine callouts entry.found.machine).translates (entry.found.cpu.control.read 0)
    ((entry.before view).get (entry.before view).runningUser Vmblok.segmentTable)
    PrefixArea.intervalTimer.offset (.ok real)

/-- The VMBLOKs, the prefixed storage area, the count of entries and the virtual interval timer of
the running user lie apart from each other. -/
structure LaidOut (members : List UInt32) (entry : DispatcherEntry Machine) : Prop where
  current : entry.user ∈ members
  running : (entry.before view).runningUser ∈ members
  counter : entry.counter.Outside members
  timer : ∀ real, entry.HasTimerAt view real →
    (Region.ofField real (Field.first : Field UInt32)).Outside members ∧
      entry.counter.Apart (.ofField real (Field.first : Field UInt32))

/-- The entry has been counted. -/
def Counts (entry : DispatcherEntry Machine) : Prop :=
  (entry.after policy view).get (Address.wrap entry.list) EntryList.entries =
    (entry.before view).get (Address.wrap entry.list) EntryList.entries + 1

/-- The entry has billed the run time of the running user. -/
def Bills (entry : DispatcherEntry Machine) : Prop :=
  Billed (entry.before view) entry.found.cpu entry.user (entry.after policy view)
    (entry.response policy callouts).system.cpu.cpuTimer

/-- The entry has charged nothing to anybody: it has changed its count and one byte of the status of
the user that it is for, and no times. -/
structure ChargesNothing (members : List UInt32) (entry : DispatcherEntry Machine) : Prop where
  cpuTimer : (entry.response policy callouts).system.cpu.cpuTimer = entry.found.cpu.cpuTimer
  kept : ∀ region, entry.counter.Apart region →
    (Region.ofField entry.user Vmblok.runStatus).Apart region →
      (entry.after policy view).AgreesOn (entry.before view) region
  totalTime : ∀ member ∈ members, (entry.after policy view).get member Vmblok.totalTime =
    (entry.before view).get member Vmblok.totalTime
  quantum : (entry.after policy view).get PrefixArea.base PrefixArea.quantum =
    (entry.before view).get PrefixArea.base PrefixArea.quantum
  problemTime : (entry.after policy view).get PrefixArea.base PrefixArea.problemTime =
    (entry.before view).get PrefixArea.base PrefixArea.problemTime
  intervalTimer : ∀ real, entry.HasTimerAt view real →
    (entry.after policy view).get real (Field.first : Field UInt32) =
      (entry.before view).get real Field.first
  ownTimer : ∀ member ∈ members, (entry.after policy view).get member Vmblok.intervalTimer =
    (entry.before view).get member Vmblok.intervalTimer

variable {policy view} {members : List UInt32} {entry : DispatcherEntry Machine}

/-- What the program of the dispatcher's entry achieves, a completed entry has come to. -/
theorem Completes.achieves (completes : entry.Completes policy callouts)
    {post : Completion → Scene → Prop}
    (achieves : (enter (Address.wrap entry.list) (Address.wrap entry.exits)).Achieves
      (.ofMachine callouts entry.found.machine) post
      { memory := entry.before view, cpu := entry.found.cpu }) :
    ∃ final, post .completed final ∧
      (entry.response policy callouts).system.cpu = final.committedCpu ∧
      entry.after policy view = final.memory := by
  have completed : (entry.found.perform policy callouts (.disp0 entry.list entry.exits)).result =
      .ok Completion.completed.outcome := completes
  exact System.ensures_of_completed view (view.shows_ofMachine entry.found.machine)
    (fun _ _ => trivial) achieves completed

theorem Completes.counts (completes : entry.Completes policy callouts) :
    entry.Counts policy view := by
  obtain ⟨final, counted, -, after⟩ := completes.achieves (enter_counts trivial)
  rw [Counts, after]
  exact counted

theorem Completes.bills (completes : entry.Completes policy callouts) (apart : UsersApart members)
    (laidOut : entry.LaidOut view members) (charges : (entry.before view).ChargesUser) :
    entry.Bills policy view := by
  obtain ⟨final, billed, cpu, after⟩ := completes.achieves
    (enter_billed trivial apart laidOut.current laidOut.running
      (fun real isTimer => (laidOut.timer real isTimer).1) laidOut.counter charges)
  rw [Bills, after, cpu, Scene.committedCpu_cpuTimer]
  exact billed

theorem Completes.chargesNothing (completes : entry.Completes policy callouts)
    (apart : UsersApart members) (laidOut : entry.LaidOut view members)
    (idle : ¬(entry.before view).ChargesUser) : entry.ChargesNothing policy view members := by
  obtain ⟨final, ⟨cpuTimer, kept⟩, cpu, after⟩ := completes.achieves (enter_uncharged trivial idle)
  have kept : ∀ region, entry.counter.Apart region →
      (Region.ofField entry.user Vmblok.runStatus).Apart region →
      (entry.after policy view).AgreesOn (entry.before view) region := by
    intro region counter status
    rw [after]
    exact kept region counter status
  have statusWithin : (Region.ofField entry.user Vmblok.runStatus).Within
      (vmblokRegion entry.user) := vmblok_within _ (by decide)
  have inPrefix : ∀ {α : Type} [Stored α] {field : Field α},
      field.offset.toNat + Stored.size α ≤ 0x380 →
      (entry.after policy view).get PrefixArea.base field =
        (entry.before view).get PrefixArea.base field := fun inside =>
    (kept _ (laidOut.counter.fromPrefix.mono_right (prefix_within inside))
      ((apart.prefixApart laidOut.current).symm.parts statusWithin
        (prefix_within inside))).get_eq
  have inVmblok : ∀ member ∈ members, ∀ {α : Type} [Stored α] {field : Field α},
      field.offset.toNat + Stored.size α ≤ 0xc0 →
      1 ≤ Region.distance Vmblok.runStatus.offset field.offset ∧
        Stored.size α ≤ Region.distance field.offset Vmblok.runStatus.offset →
      (entry.after policy view).get member field = (entry.before view).get member field :=
    fun member member_mem _ _ _ inside clear =>
      (kept _ ((laidOut.counter.fromVmblok member member_mem).mono_right (vmblok_within _ inside))
        (apart.fields_apart laidOut.current member_mem (by decide) inside clear)).get_eq
  refine ⟨?_, kept, ?_, inPrefix (by decide), inPrefix (by decide), ?_, ?_⟩
  · rw [cpu, Scene.committedCpu_cpuTimer, cpuTimer]
  · exact fun member member_mem => inVmblok member member_mem (by decide) (by decide)
  · intro real isTimer
    obtain ⟨outside, fromCounter⟩ := laidOut.timer real isTimer
    exact (kept _ fromCounter
      ((outside.fromVmblok _ laidOut.current).symm.mono statusWithin)).get_eq
  · exact fun member member_mem => inVmblok member member_mem (by decide) (by decide)

theorem Completes.not_chargesUser (completes : entry.Completes policy callouts)
    (apart : UsersApart members) (laidOut : entry.LaidOut view members) :
    ¬(entry.after policy view).ChargesUser := by
  by_cases charges : (entry.before view).ChargesUser
  · exact (completes.bills apart laidOut charges).not_chargesUser
  · have kept := (completes.chargesNothing apart laidOut charges).kept
      (.ofField PrefixArea.base PrefixArea.cpStatus)
      (laidOut.counter.fromPrefix.mono_right (prefix_within (by decide)))
      ((apart.prefixApart laidOut.current).symm.parts (vmblok_within _ (by decide))
        (prefix_within (by decide)))
    rw [Memory.ChargesUser, kept.get_eq]
    exact charges

/-- In a run of completed entries every entry counts, and run time is billed by the first one at
most, unless a user is started in between. -/
theorem billed_once (apart : UsersApart members) {entries : List (DispatcherEntry Machine)}
    (completes : ∀ entry ∈ entries, entry.Completes policy callouts)
    (laidOut : ∀ entry ∈ entries, entry.LaidOut view members)
    (notStarted : entries.IsChain fun earlier later =>
      ¬(earlier.after policy view).ChargesUser → ¬(later.before view).ChargesUser) :
    (∀ entry ∈ entries, entry.Counts policy view ∧
        ((entry.before view).ChargesUser → entry.Bills policy view)) ∧
      ∀ entry ∈ entries.tail, entry.ChargesNothing policy view members := by
  refine ⟨fun entry entry_mem => ⟨(completes entry entry_mem).counts, ?_⟩, ?_⟩
  · exact (completes entry entry_mem).bills apart (laidOut entry entry_mem)
  cases entries with
  | nil => simp
  | cons first rest =>
      have settled : ∀ entry ∈ first :: rest, ¬(entry.after policy view).ChargesUser :=
        fun entry entry_mem =>
          (completes entry entry_mem).not_chargesUser apart (laidOut entry entry_mem)
      have idle := found_of_left notStarted
        (fun entry entry_mem _ => settled entry (by simp [entry_mem])) (settled first (by simp))
      exact fun entry entry_mem => (completes entry (by simp_all)).chargesNothing apart
        (laidOut entry (by simp_all)) (idle entry entry_mem)

/-- The dispatcher is entered for another user than the running one, whose slice has been used
up. -/
def firstEntry : DispatcherEntry Memory where
  found :=
    { System.busySystem with
      cpu := { (Call.forUser 0x7000 (.disp0 0x5000 0x5800)).cpu with cpuTimer := 0x1234 }
      machine :=
        (System.busySystem.machine.put 0x9000 Vmblok.totalTime 0x7000000).put PrefixArea.base
          PrefixArea.quantumLeft 0x80000000 }
  list := 0x5000
  exits := 0x5800

/-- The dispatcher is entered again for the same user. -/
def secondEntry : DispatcherEntry Memory :=
  { firstEntry with
    found :=
      { firstEntry.found with
        machine := (firstEntry.response .splitKeys
          (Memory.callouts.relocating 0x10000)).system.machine } }

theorem secondEntry_free :
    let view := Memory.storageView.relocating 0x10000
    firstEntry.Bills .splitKeys view ∧ (firstEntry.before view).SliceOver firstEntry.user ∧
      secondEntry.Counts .splitKeys view ∧
      secondEntry.ChargesNothing .splitKeys view [0x7000, 0x9000] := by
  intro view
  have completes : ∀ entry ∈ [firstEntry, secondEntry],
      entry.Completes .splitKeys (Memory.callouts.relocating 0x10000) := by
    simp only [List.forall_mem_cons]
    exact ⟨Response.result_eq_ok (by decide +kernel), Response.result_eq_ok (by decide +kernel),
      by simp⟩
  have isAt : ∀ (entry : DispatcherEntry Memory) (real : UInt32), entry.HasTimerAt view real →
      real = 0x10050 := by
    rintro entry real ⟨machine, found, -, answered, isReal⟩
    cases answered
    cases isReal
    decide
  have laidOut : ∀ entry ∈ [firstEntry, secondEntry], entry.LaidOut view [0x7000, 0x9000] := by
    simp only [List.forall_mem_cons]
    refine ⟨⟨by decide +kernel, by decide +kernel, by decide +kernel, ?_⟩,
      ⟨by decide +kernel, by decide +kernel, by decide +kernel, ?_⟩, by simp⟩
    all_goals
      intro real isTimer
      rw [isAt _ real isTimer]
      decide +kernel
  have notStarted : [firstEntry, secondEntry].IsChain fun earlier later =>
      ¬(earlier.after .splitKeys view).ChargesUser → ¬(later.before view).ChargesUser :=
    List.isChain_cons_cons.mpr ⟨id, .singleton _⟩
  obtain ⟨billed, free⟩ := billed_once (by decide +kernel) completes laidOut notStarted
  simp only [List.forall_mem_cons, List.tail_cons] at billed free
  exact ⟨billed.1.2 (by decide +kernel), by decide +kernel, billed.2.1.1, free.1⟩

end DispatcherEntry

end Assist370
