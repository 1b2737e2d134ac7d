import Assist370.Proofs.SoleDispatch

/-!
# The charge of run time

When the dispatcher is entered while a user runs, the run time is charged before anything else
(`Memory.charged`): the CPU timer goes to the user that the dispatcher is entered for, the rest of
the time slice becomes the quantum, the problem time is taken out of that of the system, and the
status of the running user tells which of its times have run out. Whatever exit the dispatcher
takes then leaves the charge as it is (`Billed`). While no user runs, nothing is charged at all.
-/

namespace Assist370

variable {members : List UInt32} {memory after : Memory} {cpu : Cpu} {user : UInt32}

theorem Dispatcher.sliceUnits_le_iff (time limit : UInt64) :
    time &&& sliceUnits ≤ limit &&& sliceUnits ↔
      time.toNat / 0x1000000 ≤ limit.toNat / 0x1000000 := by
  have above : ∀ index < 64, sliceUnits.toNat.testBit index = decide (24 ≤ index) := by
    decide
  have units : ∀ time : UInt64,
      (time &&& sliceUnits).toNat = time.toNat / 0x1000000 * 0x1000000 := by
    intro time
    apply Nat.eq_of_testBit_eq
    intro index
    rw [UInt64.toNat_and, Nat.testBit_and, Nat.testBit_mul_two_pow _ index 24,
      Nat.testBit_div_two_pow (n := 24)]
    by_cases index_lt : index < 64
    · rw [above index index_lt]
      by_cases high : 24 ≤ index <;> simp [high]
    · have beyond : time.toNat.testBit index = false :=
        Nat.testBit_lt_two_pow
          (Nat.lt_of_lt_of_le time.toNat_lt (Nat.pow_le_pow_right (by decide) (by omega)))
      have same : index - 24 + 24 = index := by omega
      simp [beyond, same]
  rw [UInt64.le_iff_toNat_le, units, units]
  omega

theorem Dispatcher.signBit_iff (word : UInt32) : word &&& signBit ≠ 0 ↔ word.toInt32 < 0 := by
  have masked : (word &&& signBit).toBitVec =
      if word.toBitVec.getLsbD 31 then BitVec.twoPow 32 31 else 0 :=
    BitVec.and_twoPow word.toBitVec 31
  have sign : word &&& signBit ≠ 0 ↔ word.toBitVec.msb = true := by
    rw [ne_eq, ← UInt32.toBitVec_inj, masked, BitVec.msb_eq_getLsbD_last]
    cases word.toBitVec.getLsbD 31 <;> decide
  rw [sign, Int32.lt_iff_toInt_lt, BitVec.msb_eq_toInt, decide_eq_true_eq]
  exact Iff.rfl

namespace Memory

/-- What is left of the running user's time slice when the dispatcher is entered for a user: what
the interval timer shows, unless the user has changed since. -/
def restOfSlice (memory : Memory) (user : UInt32) : UInt32 :=
  if user = memory.runningUser then
    memory.get PrefixArea.base PrefixArea.intervalTimer
  else
    memory.get PrefixArea.base PrefixArea.quantumLeft

/-- The total time of the running user once the CPU timer has gone to a user. -/
def runTime (memory : Memory) (cpu : Cpu) (user : UInt32) : UInt64 :=
  if user = memory.runningUser then
    cpu.cpuTimer.toUInt64
  else
    memory.get memory.runningUser Vmblok.totalTime

/-- The running user has used up its time slice. -/
def SliceOver (memory : Memory) (user : UInt32) : Prop :=
  (memory.restOfSlice user).toInt32 < 0

/-- The running user has had the time for which it may stay in its queue. -/
def StayOver (memory : Memory) (cpu : Cpu) (user : UInt32) : Prop :=
  (memory.runTime cpu user).toNat / 0x1000000 ≤
    (memory.get memory.runningUser Vmblok.sliceEnd).toNat / 0x1000000

instance (memory : Memory) (user : UInt32) : Decidable (memory.SliceOver user) :=
  inferInstanceAs (Decidable (_ < _))

instance (memory : Memory) (cpu : Cpu) (user : UInt32) : Decidable (memory.StayOver cpu user) :=
  inferInstanceAs (Decidable (_ ≤ _))

/-- Memory once the dispatch status of a user tells that a time has run out, if it has. -/
def noteEnd (memory : Memory) (ended : Prop) [Decidable ended] (user : UInt32) (flag : UInt8) :
    Memory :=
  if ended then
    memory.put user Vmblok.dispatchStatus
      ((memory.get user Vmblok.dispatchStatus &&& ~~~Vmblok.dispatched) ||| flag)
  else
    memory

/-- Memory once the problem time of a user has been taken out of that of the system. -/
def chargeProblem (memory : Memory) (user : UInt32) : Memory :=
  let now := memory.get user Vmblok.problemTime
  let start := memory.get PrefixArea.base PrefixArea.problemStart
  if now = start then
    memory
  else
    memory.put PrefixArea.base PrefixArea.problemTime
      (memory.get PrefixArea.base PrefixArea.problemTime - (start - now))

/-- Memory once the CPU timer has gone to a user. -/
def stopped (memory : Memory) (cpu : Cpu) (user : UInt32) : Memory :=
  (memory.put PrefixArea.base PrefixArea.cpStatus PrefixArea.cpExecutes).put user
    Vmblok.totalTime cpu.cpuTimer.toUInt64

/-- Memory once the dispatch status of the running user tells which of its times have run out. -/
def noted (memory : Memory) (cpu : Cpu) (user : UInt32) : Memory :=
  ((memory.stopped cpu user).noteEnd (memory.SliceOver user) memory.runningUser
    Vmblok.sliceEnded).noteEnd (memory.StayOver cpu user) memory.runningUser Vmblok.queueEnded

/-- Memory once run time has been charged, when the dispatcher has been entered for a user. -/
def charged (memory : Memory) (cpu : Cpu) (user : UInt32) : Memory :=
  ((memory.noted cpu user).chargeProblem memory.runningUser).put PrefixArea.base
    PrefixArea.quantum (memory.restOfSlice user)

theorem noteEnd_agreesOn (ended : Prop) [Decidable ended] {flag : UInt8} {region : Region}
    (apart : (Region.ofField user Vmblok.dispatchStatus).Apart region) :
    (memory.noteEnd ended user flag).AgreesOn memory region := by
  rw [noteEnd]
  split
  · exact put_agreesOn _ apart
  · exact fun _ _ => rfl

theorem chargeProblem_agreesOn {region : Region}
    (apart : (Region.ofField PrefixArea.base PrefixArea.problemTime).Apart region) :
    (memory.chargeProblem user).AgreesOn memory region := by
  simp only [chargeProblem]
  split
  · exact fun _ _ => rfl
  · exact put_agreesOn _ apart

theorem get_chargeProblem (memory : Memory) (user : UInt32) :
    (memory.chargeProblem user).get PrefixArea.base PrefixArea.problemTime =
      memory.get PrefixArea.base PrefixArea.problemTime -
        (memory.get PrefixArea.base PrefixArea.problemStart -
          memory.get user Vmblok.problemTime) := by
  simp only [chargeProblem]
  split
  · rename_i same
    rw [same, UInt64.sub_self, UInt64.sub_zero]
  · rw [get_put_self]

theorem get_noteEnd (memory : Memory) (ended : Prop) [Decidable ended] (user : UInt32)
    (flag : UInt8) :
    (memory.noteEnd ended user flag).get user Vmblok.dispatchStatus =
      if ended then
        (memory.get user Vmblok.dispatchStatus &&& ~~~Vmblok.dispatched) ||| flag
      else
        memory.get user Vmblok.dispatchStatus := by
  rw [noteEnd]
  split
  · rw [get_put_self]
  · rfl

theorem stopped_agreesOn {region : Region}
    (cpStatus : (Region.ofField PrefixArea.base PrefixArea.cpStatus).Apart region)
    (totalTime : (Region.ofField user Vmblok.totalTime).Apart region) :
    (memory.stopped cpu user).AgreesOn memory region :=
  (put_agreesOn _ totalTime).trans (put_agreesOn _ cpStatus)

theorem noted_agreesOn {region : Region}
    (cpStatus : (Region.ofField PrefixArea.base PrefixArea.cpStatus).Apart region)
    (totalTime : (Region.ofField user Vmblok.totalTime).Apart region)
    (status : (Region.ofField memory.runningUser Vmblok.dispatchStatus).Apart region) :
    (memory.noted cpu user).AgreesOn memory region :=
  ((noteEnd_agreesOn _ status).trans (noteEnd_agreesOn _ status)).trans
    (stopped_agreesOn cpStatus totalTime)

/-- Where the charge stores. -/
def chargeRegions (memory : Memory) (user : UInt32) : List Region :=
  [.ofField PrefixArea.base PrefixArea.cpStatus, .ofField user Vmblok.totalTime,
    .ofField memory.runningUser Vmblok.dispatchStatus,
    .ofField PrefixArea.base PrefixArea.problemTime, .ofField PrefixArea.base PrefixArea.quantum]

theorem charged_agreesOn {region : Region}
    (apart : ∀ stored ∈ memory.chargeRegions user, stored.Apart region) :
    (memory.charged cpu user).AgreesOn memory region := by
  simp only [chargeRegions, List.forall_mem_cons] at apart
  obtain ⟨cpStatus, totalTime, status, problemTime, quantum, -⟩ := apart
  refine (put_agreesOn _ quantum).trans ?_
  exact (chargeProblem_agreesOn problemTime).trans (noted_agreesOn cpStatus totalTime status)

end Memory

/-- The run time of the running user has been billed when the dispatcher was entered for a user:
what it has left in storage and in the CPU timer. -/
structure Billed (memory : Memory) (cpu : Cpu) (user : UInt32) (after : Memory) (timer : Int64) :
    Prop where
  totalTime : after.get user Vmblok.totalTime = cpu.cpuTimer.toUInt64
  cpuTimer : timer = if user = memory.runningUser then cpu.cpuTimer else
    (memory.get memory.runningUser Vmblok.totalTime).toInt64
  quantum : after.get PrefixArea.base PrefixArea.quantum = memory.restOfSlice user
  problemTime : after.get PrefixArea.base PrefixArea.problemTime =
    memory.get PrefixArea.base PrefixArea.problemTime -
      (memory.get PrefixArea.base PrefixArea.problemStart -
        memory.get memory.runningUser Vmblok.problemTime)
  sliceEnded : after.get memory.runningUser Vmblok.dispatchStatus &&& Vmblok.sliceEnded ≠ 0 ↔
    memory.get memory.runningUser Vmblok.dispatchStatus &&& Vmblok.sliceEnded ≠ 0 ∨
      memory.SliceOver user
  queueEnded : after.get memory.runningUser Vmblok.dispatchStatus &&& Vmblok.queueEnded ≠ 0 ↔
    memory.get memory.runningUser Vmblok.dispatchStatus &&& Vmblok.queueEnded ≠ 0 ∨
      memory.StayOver cpu user
  dispatched : memory.SliceOver user ∨ memory.StayOver cpu user →
    ¬after.IsDispatched memory.runningUser
  stopped : after.get PrefixArea.base PrefixArea.cpStatus &&&
    (PrefixArea.cpRuns ||| PrefixArea.cpWaits) = 0

namespace Billed

variable {timer : Int64} {other : Memory}

theorem congr (billed : Billed memory cpu user after timer)
    (same : ∀ region ∈ memory.chargeRegions user, other.AgreesOn after region) :
    Billed memory cpu user other timer := by
  simp only [Memory.chargeRegions, List.forall_mem_cons] at same
  obtain ⟨cpStatus, totalTime, status, problemTime, quantum, -⟩ := same
  obtain ⟨isTotal, isTimer, isQuantum, isProblem, slice, queue, mark, stopped⟩ := billed
  have sameMark := Memory.isDispatched_congr status
  rw [← totalTime.get_eq] at isTotal
  rw [← quantum.get_eq] at isQuantum
  rw [← problemTime.get_eq] at isProblem
  rw [← status.get_eq] at slice queue
  rw [← cpStatus.get_eq] at stopped
  exact ⟨isTotal, isTimer, isQuantum, isProblem, slice, queue,
    fun ended => mt sameMark.mp (mark ended), stopped⟩

/-- What the bits of a dispatch status tell once the ends of times have been noted in it. -/
theorem status_bits (status : UInt8) (slice queue : Bool) :
    let noted := if slice then (status &&& ~~~Vmblok.dispatched) ||| Vmblok.sliceEnded else status
    let final := if queue then (noted &&& ~~~Vmblok.dispatched) ||| Vmblok.queueEnded else noted
    (final &&& Vmblok.sliceEnded ≠ 0 ↔ status &&& Vmblok.sliceEnded ≠ 0 ∨ slice = true) ∧
      (final &&& Vmblok.queueEnded ≠ 0 ↔ status &&& Vmblok.queueEnded ≠ 0 ∨ queue = true) ∧
      (slice = true ∨ queue = true → final &&& Vmblok.dispatched = 0) := by
  obtain ⟨bits⟩ := status
  revert bits
  cases slice <;> cases queue <;> decide +kernel

end Billed

namespace Memory

section Blocks

variable (apart : UsersApart members) (user_mem : user ∈ members)
  (running_mem : memory.runningUser ∈ members)

include apart user_mem running_mem

/-- A part of a user's VMBLOK that does not tell its status or its total time is apart from the
charge. -/
theorem charge_spares_member {α : Type} [Stored α] {field : Field α} {member : UInt32}
    (member_mem : member ∈ members) (inside : field.offset.toNat + Stored.size α ≤ 0xc0)
    (total : Stored.size α ≤ Region.distance field.offset Vmblok.totalTime.offset ∧
      8 ≤ Region.distance Vmblok.totalTime.offset field.offset)
    (status : Stored.size α ≤ Region.distance field.offset Vmblok.dispatchStatus.offset ∧
      1 ≤ Region.distance Vmblok.dispatchStatus.offset field.offset) :
    ∀ stored ∈ memory.chargeRegions user, (Region.ofField member field).Apart stored := by
  have inPrefix : ∀ {β : Type} [Stored β] {part : Field β},
      part.offset.toNat + Stored.size β ≤ 0x380 →
      (Region.ofField member field).Apart (.ofField PrefixArea.base part) :=
    fun partInside => (apart.prefixApart member_mem).symm.parts
      (Dispatcher.vmblok_within _ inside) (Dispatcher.prefix_within partInside)
  simp only [chargeRegions, List.forall_mem_cons]
  refine ⟨inPrefix (by decide), ?_, ?_, inPrefix (by decide), inPrefix (by decide), by simp⟩
  · exact apart.fields_apart member_mem user_mem inside (by decide) total
  · exact apart.fields_apart member_mem running_mem inside (by decide) status

theorem charge_spares_vmblok {α : Type} [Stored α] {field : Field α}
    (inside : field.offset.toNat + Stored.size α ≤ 0xc0)
    (total : Stored.size α ≤ Region.distance field.offset Vmblok.totalTime.offset ∧
      8 ≤ Region.distance Vmblok.totalTime.offset field.offset)
    (status : Stored.size α ≤ Region.distance field.offset Vmblok.dispatchStatus.offset ∧
      1 ≤ Region.distance Vmblok.dispatchStatus.offset field.offset) :
    ∀ stored ∈ memory.chargeRegions user,
      (Region.ofField memory.runningUser field).Apart stored :=
  charge_spares_member apart user_mem running_mem running_mem inside total status

theorem charged_get_vmblok {α : Type} [Stored α] {field : Field α}
    (inside : field.offset.toNat + Stored.size α ≤ 0xc0)
    (total : Stored.size α ≤ Region.distance field.offset Vmblok.totalTime.offset ∧
      8 ≤ Region.distance Vmblok.totalTime.offset field.offset)
    (status : Stored.size α ≤ Region.distance field.offset Vmblok.dispatchStatus.offset ∧
      1 ≤ Region.distance Vmblok.dispatchStatus.offset field.offset) :
    (memory.charged cpu user).get memory.runningUser field =
      memory.get memory.runningUser field :=
  (charged_agreesOn fun stored stored_mem => (charge_spares_vmblok apart user_mem running_mem
    inside total status stored stored_mem).symm).get_eq

theorem noted_get_prefix {α : Type} [Stored α] {field : Field α}
    (inside : field.offset.toNat + Stored.size α ≤ 0x380)
    (clear : 1 ≤ Region.distance PrefixArea.cpStatus.offset field.offset ∧
      Stored.size α ≤ Region.distance field.offset PrefixArea.cpStatus.offset) :
    (memory.noted cpu user).get PrefixArea.base field = memory.get PrefixArea.base field := by
  refine (noted_agreesOn (Region.ofField_apart _ clear.1 clear.2) ?_ ?_).get_eq
  · exact (apart.prefixApart user_mem).symm.parts (Dispatcher.vmblok_within _ (by decide))
      (Dispatcher.prefix_within inside)
  · exact (apart.prefixApart running_mem).symm.parts (Dispatcher.vmblok_within _ (by decide))
      (Dispatcher.prefix_within inside)

theorem charged_get_prefix {α : Type} [Stored α] {field : Field α}
    (inside : field.offset.toNat + Stored.size α ≤ 0x380)
    (status : 1 ≤ Region.distance PrefixArea.cpStatus.offset field.offset ∧
      Stored.size α ≤ Region.distance field.offset PrefixArea.cpStatus.offset)
    (time : 8 ≤ Region.distance PrefixArea.problemTime.offset field.offset ∧
      Stored.size α ≤ Region.distance field.offset PrefixArea.problemTime.offset)
    (quantum : 4 ≤ Region.distance PrefixArea.quantum.offset field.offset ∧
      Stored.size α ≤ Region.distance field.offset PrefixArea.quantum.offset) :
    (memory.charged cpu user).get PrefixArea.base field = memory.get PrefixArea.base field := by
  rw [charged, get_put_field _ quantum.1 quantum.2,
    (chargeProblem_agreesOn (Region.ofField_apart _ time.1 time.2)).get_eq,
    noted_get_prefix apart user_mem running_mem inside status]

theorem stopped_get_vmblok {α : Type} [Stored α] {field : Field α}
    (inside : field.offset.toNat + Stored.size α ≤ 0xc0)
    (clear : 8 ≤ Region.distance Vmblok.totalTime.offset field.offset ∧
      Stored.size α ≤ Region.distance field.offset Vmblok.totalTime.offset) :
    (memory.stopped cpu user).get memory.runningUser field =
      memory.get memory.runningUser field := by
  refine (stopped_agreesOn ?_ ?_).get_eq
  · exact (apart.prefixApart running_mem).parts (Dispatcher.prefix_within (by decide))
      (Dispatcher.vmblok_within _ inside)
  · exact apart.fields_apart user_mem running_mem (by decide) inside clear

theorem stopped_get_totalTime :
    (memory.stopped cpu user).get memory.runningUser Vmblok.totalTime =
      memory.runTime cpu user := by
  rw [runTime]
  split
  · rename_i same
    rw [stopped, ← same, get_put_self]
  · rename_i different
    have inside : ∀ block, (Region.ofField block Vmblok.totalTime).Within (vmblokRegion block) :=
      fun block => Dispatcher.vmblok_within block (by decide)
    have others := (apart.others user_mem running_mem different).parts (inside user) (inside _)
    rw [stopped, (put_agreesOn _ others).get_eq,
      get_vmblok_put (apart.prefixApart running_mem) _ (by decide) (by decide)]

omit user_mem running_mem in
/-- What is charged after the ends of times have been noted lies outside the VMBLOKs. -/
theorem charged_get_member {member : UInt32} (member_mem : member ∈ members) {α : Type} [Stored α]
    (field : Field α) (inside : field.offset.toNat + Stored.size α ≤ 0xc0) :
    (memory.charged cpu user).get member field = (memory.noted cpu user).get member field := by
  have fromPrefix : ∀ {β : Type} [Stored β] {part : Field β},
      part.offset.toNat + Stored.size β ≤ 0x380 →
      (Region.ofField PrefixArea.base part).Apart (.ofField member field) := fun partInside =>
    (apart.prefixApart member_mem).parts (Dispatcher.prefix_within partInside)
      (Dispatcher.vmblok_within _ inside)
  rw [charged, (put_agreesOn _ (fromPrefix (by decide))).get_eq,
    (chargeProblem_agreesOn (fromPrefix (by decide))).get_eq]

theorem charged_get_totalTime :
    (memory.charged cpu user).get user Vmblok.totalTime = cpu.cpuTimer.toUInt64 := by
  have fromStatus : (Region.ofField memory.runningUser Vmblok.dispatchStatus).Apart
      (.ofField user Vmblok.totalTime) :=
    apart.fields_apart running_mem user_mem (by decide) (by decide) (by decide)
  rw [charged_get_member apart user_mem _ (by decide), noted,
    (noteEnd_agreesOn _ fromStatus).get_eq, (noteEnd_agreesOn _ fromStatus).get_eq, stopped,
    get_put_self]

theorem charged_get_problemTime :
    (memory.charged cpu user).get PrefixArea.base PrefixArea.problemTime =
      memory.get PrefixArea.base PrefixArea.problemTime -
        (memory.get PrefixArea.base PrefixArea.problemStart -
          memory.get memory.runningUser Vmblok.problemTime) := by
  rw [charged, get_put_field _ (by decide) (by decide), get_chargeProblem,
    noted_get_prefix apart user_mem running_mem (by decide) (by decide),
    noted_get_prefix apart user_mem running_mem (by decide) (by decide), noted,
    (noteEnd_agreesOn _ (Region.ofField_apart _ (by decide) (by decide))).get_eq,
    (noteEnd_agreesOn _ (Region.ofField_apart _ (by decide) (by decide))).get_eq,
    stopped_get_vmblok apart user_mem running_mem (by decide) (by decide)]

/-- The dispatch status of the running user tells which of its times have run out. -/
theorem charged_status :
    ((memory.charged cpu user).get memory.runningUser Vmblok.dispatchStatus &&&
          Vmblok.sliceEnded ≠ 0 ↔
        memory.get memory.runningUser Vmblok.dispatchStatus &&& Vmblok.sliceEnded ≠ 0 ∨
          memory.SliceOver user) ∧
      ((memory.charged cpu user).get memory.runningUser Vmblok.dispatchStatus &&&
          Vmblok.queueEnded ≠ 0 ↔
        memory.get memory.runningUser Vmblok.dispatchStatus &&& Vmblok.queueEnded ≠ 0 ∨
          memory.StayOver cpu user) ∧
      (memory.SliceOver user ∨ memory.StayOver cpu user →
        ¬(memory.charged cpu user).IsDispatched memory.runningUser) := by
  have bits := Billed.status_bits (memory.get memory.runningUser Vmblok.dispatchStatus)
    (decide (memory.SliceOver user)) (decide (memory.StayOver cpu user))
  simp only [decide_eq_true_eq] at bits
  rw [IsDispatched, not_not, charged_get_member apart running_mem _ (by decide), noted,
    get_noteEnd, get_noteEnd, stopped_get_vmblok apart user_mem running_mem (by decide) (by decide)]
  exact bits

theorem charged_get_cpStatus :
    (memory.charged cpu user).get PrefixArea.base PrefixArea.cpStatus = PrefixArea.cpExecutes := by
  have apartStatus : (Region.ofField memory.runningUser Vmblok.dispatchStatus).Apart
      (.ofField PrefixArea.base PrefixArea.cpStatus) :=
    (apart.prefixApart running_mem).symm.parts (Dispatcher.vmblok_within _ (by decide))
      (Dispatcher.prefix_within (by decide))
  rw [charged, get_put_field _ (by decide) (by decide),
    (chargeProblem_agreesOn (Region.ofField_apart _ (by decide) (by decide))).get_eq, noted,
    (noteEnd_agreesOn _ apartStatus).get_eq, (noteEnd_agreesOn _ apartStatus).get_eq, stopped,
    get_prefix_put (apart.prefixApart user_mem) _ (by decide) (by decide), get_put_self]

theorem charged_bills {timer : Int64}
    (cpuTimer : timer = if user = memory.runningUser then cpu.cpuTimer else
      (memory.get memory.runningUser Vmblok.totalTime).toInt64) :
    Billed memory cpu user (memory.charged cpu user) timer := by
  obtain ⟨sliceEnded, queueEnded, dispatched⟩ := charged_status apart user_mem running_mem
  refine ⟨charged_get_totalTime apart user_mem running_mem, cpuTimer, get_put_self _ _ _ _,
    charged_get_problemTime apart user_mem running_mem, sliceEnded, queueEnded, dispatched, ?_⟩
  rw [charged_get_cpStatus apart user_mem running_mem]
  decide

end Blocks

end Memory

namespace Dispatcher

open Microcode

variable {known : Knowledge} {declined : Decline → Scene → Prop} {scene : Scene}
  {list exits : UInt32}

section Programs

variable (isFaithful : known.faithful)

include isFaithful

theorem ensures_noteEnd {condition ended : Prop} [Decidable condition] [Decidable ended]
    (same : condition ↔ ended) {flag : UInt8} {rest : Microcode Charged}
    {post : Charged → Scene → Prop}
    (ensures : rest.Ensures known declined post
      { scene with memory := scene.memory.noteEnd ended user flag }) :
    (if condition then do noteEnd user flag; rest else rest).Ensures known declined post scene := by
  simp only [ensures_ite, ensures_bind, noteEnd, ensures_fetch_iff isFaithful, ensures_store]
  refine ⟨fun holds _ => ?_, fun fails => ?_⟩
  · rwa [Memory.noteEnd, if_pos (same.mp holds)] at ensures
  · rwa [Memory.noteEnd, if_neg (mt same.mpr fails)] at ensures

theorem chargeProblemTime_ensures {post : Unit → Scene → Prop}
    (ensures : post () { scene with memory := scene.memory.chargeProblem user }) :
    (chargeProblemTime user).Ensures known declined post scene := by
  simp only [Memory.chargeProblem] at ensures
  simp only [chargeProblemTime, ensures_bind, ensures_fetch_iff isFaithful, ensures_ite,
    ensures_pure, ensures_store, beq_iff_eq]
  refine ⟨fun same => ?_, fun different _ => ?_⟩
  · rwa [if_pos same] at ensures
  · rwa [if_neg different] at ensures

variable (apart : UsersApart members) (user_mem : user ∈ members)
  (running_mem : memory.runningUser ∈ members)

include apart user_mem running_mem

theorem chargeInterval_ensures {post : Charged → Scene → Prop}
    (stopped : scene.memory = memory.stopped cpu user)
    (ensures : (chargeIntervalTimer memory.runningUser
        (memory.get PrefixArea.base PrefixArea.quantum) list exits).Ensures known declined post
      { scene with memory := memory.charged cpu user }) :
    (chargeInterval memory.runningUser (memory.restOfSlice user) list exits).Ensures known declined
      post scene := by
  have noEffect : ∀ {α : Type} [Stored α] {field : Field α},
      (1 ≤ Region.distance Vmblok.dispatchStatus.offset field.offset ∧
        Stored.size α ≤ Region.distance field.offset Vmblok.dispatchStatus.offset) →
      (scene.memory.noteEnd (memory.SliceOver user) memory.runningUser Vmblok.sliceEnded).get
        memory.runningUser field = (memory.stopped cpu user).get memory.runningUser field := by
    intro α _ field clear
    rw [← stopped, (Memory.noteEnd_agreesOn _
      (Region.ofField_apart _ clear.1 clear.2)).get_eq]
  have slice : (memory.restOfSlice user &&& signBit != 0) = true ↔ memory.SliceOver user := by
    rw [bne_iff_ne, signBit_iff, Memory.SliceOver]
  have previous : ((memory.noted cpu user).chargeProblem memory.runningUser).get PrefixArea.base
      PrefixArea.quantum = memory.get PrefixArea.base PrefixArea.quantum := by
    rw [(Memory.chargeProblem_agreesOn (Region.ofField_apart _ (by decide) (by decide))).get_eq,
      Memory.noted_get_prefix apart user_mem running_mem (by decide) (by decide)]
  rw [chargeInterval]
  refine ensures_noteEnd isFaithful slice ?_
  simp only [ensures_bind, ensures_fetch_iff isFaithful]
  refine ensures_noteEnd isFaithful (?_ : _ ↔ memory.StayOver cpu user) ?_
  · rw [sliceUnits_le_iff, noEffect (by decide), noEffect (by decide),
      Memory.stopped_get_totalTime apart user_mem running_mem,
      Memory.stopped_get_vmblok apart user_mem running_mem (by decide) (by decide),
      Memory.StayOver]
  · simp only [ensures_bind]
    refine chargeProblemTime_ensures isFaithful ?_
    simp only [ensures_fetch_iff isFaithful, ensures_store]
    intro _
    simp only [stopped]
    rw [← previous] at ensures
    exact ensures

omit running_mem in
/-- The charge of run time leaves the virtual interval timer to be counted down. -/
theorem chargeRunTime_ensures (running_mem : scene.memory.runningUser ∈ members)
    {post : Charged → Scene → Prop}
    (ensures : ∀ timer timerSet,
      (timer = if user = scene.memory.runningUser then scene.cpu.cpuTimer else
        (scene.memory.get scene.memory.runningUser Vmblok.totalTime).toInt64) →
      (chargeIntervalTimer scene.memory.runningUser
        (scene.memory.get PrefixArea.base PrefixArea.quantum) list exits).Ensures known declined
          post
        { scene with
          memory := scene.memory.charged scene.cpu user
          cpu := { scene.cpu with cpuTimer := timer }
          timerSet }) :
    (chargeRunTime user list exits).Ensures known declined post scene := by
  have prefixApart := apart.prefixApart user_mem
  simp only [chargeRunTime_eq, ensures_bind]
  refine ensures_fetchAddress _ _ fun runUser isRunning => ?_
  obtain rfl : runUser = scene.memory.runningUser := isRunning isFaithful
  simp only [ensures_store, stopCharging, startCharging, setTimerFrom, ensures_bind,
    ensures_registers, ensures_ite, ensures_fetch_iff isFaithful, ensures_setTimer, bne_iff_ne]
  intro _ _
  have kept : ∀ {field : Field UInt32}, field.offset.toNat + 4 ≤ 0x380 →
      (1 ≤ Region.distance PrefixArea.cpStatus.offset field.offset ∧
        4 ≤ Region.distance field.offset PrefixArea.cpStatus.offset) →
      (scene.memory.stopped scene.cpu user).get PrefixArea.base field =
        scene.memory.get PrefixArea.base field := by
    intro field inside clear
    rw [Memory.stopped, Memory.get_prefix_put prefixApart _ (by decide) inside,
      Memory.get_put_field _ clear.1 clear.2]
  refine ⟨fun different => ?_, fun same => ?_⟩
  · have passed : ((scene.memory.stopped scene.cpu user).get scene.memory.runningUser
        Vmblok.totalTime) = scene.memory.runTime scene.cpu user :=
      Memory.stopped_get_totalTime apart user_mem running_mem
    have rest : (scene.memory.stopped scene.cpu user).get PrefixArea.base
        PrefixArea.quantumLeft = scene.memory.restOfSlice user := by
      rw [Memory.restOfSlice, if_neg different, kept (by decide) (by decide)]
    rw [Memory.runTime, if_neg different] at passed
    refine rest.symm ▸ chargeInterval_ensures isFaithful apart user_mem running_mem rfl ?_
    exact ensures _ true (by rw [if_neg different, ← passed]; rfl)
  · have unchanged : user = scene.memory.runningUser := Decidable.not_not.mp same
    have rest : (scene.memory.stopped scene.cpu user).get PrefixArea.base
        PrefixArea.intervalTimer = scene.memory.restOfSlice user := by
      rw [Memory.restOfSlice, if_pos unchanged, kept (by decide) (by decide)]
    refine rest.symm ▸ chargeInterval_ensures isFaithful apart user_mem running_mem rfl ?_
    exact ensures _ scene.timerSet (by rw [if_pos unchanged])

end Programs

end Dispatcher

/-- The action stores into one region at most and leaves the CPU timer alone. -/
@[simp]
def Action.ChargesNothing (place : Region) : Action → Prop
  | store address bytes => place = ⟨address, bytes.length⟩
  | modify change => ∀ cpu, (change cpu).cpuTimer = cpu.cpuTimer
  | setTimer _ => False
  | _ => True

/-- What a program leaves that charges nothing. -/
structure Scene.Uncharged (place : Region) (scene after : Scene) : Prop where
  memory : ∀ region, place.Apart region → after.memory.AgreesOn scene.memory region
  cpuTimer : after.cpu.cpuTimer = scene.cpu.cpuTimer

namespace Microcode

variable {known : Knowledge} {scene : Scene} {place : Region}

theorem Takes.uncharged {α : Type} {program : Microcode α}
    (takes : program.Takes (Action.ChargesNothing place)) :
    program.Achieves known (fun _ after => scene.Uncharged place after) scene := by
  have kept : ∀ (action : Action) (before : Scene), action.ChargesNothing place →
      scene.Uncharged place before →
      action.Ensures known (fun _ after => scene.Uncharged place after) before := by
    intro action before allowed uncharged
    cases action with
    | store address bytes =>
        intro _
        refine ⟨fun region apart => ?_, uncharged.cpuTimer⟩
        rw [show place = ⟨address, bytes.length⟩ from allowed] at apart
        exact (Memory.store_agreesOn address bytes apart).trans
          (uncharged.memory region (by rwa [show place = ⟨address, bytes.length⟩ from allowed]))
    | modify change => exact ⟨uncharged.memory, (allowed _).trans uncharged.cpuTimer⟩
    | setTimer _ => exact allowed.elim
    | fetch _ _ => exact fun _ _ => uncharged
    | storageKey _ => exact fun _ => uncharged
    | translate _ => exact fun _ _ => uncharged
    | registers => exact uncharged
    | purgeTlb | handOff _ _ | log _ => exact ⟨uncharged.memory, uncharged.cpuTimer⟩
  exact (takes.ensures kept ⟨fun _ _ _ _ => rfl, rfl⟩).mono (fun _ _ => id) fun _ _ _ => trivial

end Microcode

@[simp]
theorem Action.chargesNothing_allowsRoutine {place : Region} :
    Microcode.AllowsRoutine (ChargesNothing place) where
  fetch _ _ := trivial
  log _ := trivial
  modify _ same cpu := (same cpu).cpuTimer

/-- All that the exit of the running user stores is its run status. -/
theorem Dispatcher.exitRunning_chargesNothing (exits : UInt32) :
    (exitRunning user exits).Takes (Action.ChargesNothing (.ofField user Vmblok.runStatus)) := by
  simp [Region.ofField]

theorem Billed.uncharged {scene after : Scene} {place : Region}
    (billed : Billed memory cpu user scene.memory scene.cpu.cpuTimer)
    (uncharged : scene.Uncharged place after)
    (spared : ∀ stored ∈ memory.chargeRegions user, place.Apart stored) :
    Billed memory cpu user after.memory after.cpu.cpuTimer := by
  rw [uncharged.cpuTimer]
  exact billed.congr fun region region_mem => uncharged.memory region (spared region region_mem)

theorem Microcode.Takes.billed {α : Type} {known : Knowledge} {scene : Scene} {place : Region}
    {program : Microcode α} (takes : program.Takes (Action.ChargesNothing place))
    (spared : ∀ stored ∈ memory.chargeRegions user, place.Apart stored)
    (billed : Billed memory cpu user scene.memory scene.cpu.cpuTimer) :
    program.Achieves known
      (fun _ after => Billed memory cpu user after.memory after.cpu.cpuTimer) scene :=
  takes.uncharged.mono (fun _ _ uncharged => billed.uncharged uncharged spared) fun _ _ => id

/-- The region lies outside the prefixed storage area and the VMBLOKs of users. -/
structure Region.Outside (region : Region) (members : List UInt32) : Prop where
  fromPrefix : region.Apart prefixRegion
  fromVmblok : ∀ member ∈ members, region.Apart (vmblokRegion member)

instance (region : Region) (members : List UInt32) : Decidable (region.Outside members) :=
  decidable_of_iff
    (region.Apart prefixRegion ∧ ∀ member ∈ members, region.Apart (vmblokRegion member))
    ⟨fun ⟨fromPrefix, fromVmblok⟩ => ⟨fromPrefix, fromVmblok⟩,
      fun outside => ⟨outside.fromPrefix, outside.fromVmblok⟩⟩

section Exits

variable (apart : UsersApart members) (user_mem : user ∈ members)
  (running_mem : memory.runningUser ∈ members)

include user_mem running_mem

theorem Region.Outside.charge {region : Region} (outside : region.Outside members) :
    ∀ stored ∈ memory.chargeRegions user, region.Apart stored := by
  have inPrefix : ∀ {α : Type} [Stored α] {field : Field α},
      field.offset.toNat + Stored.size α ≤ 0x380 →
      region.Apart (.ofField PrefixArea.base field) :=
    fun inside => outside.fromPrefix.mono_right (Dispatcher.prefix_within inside)
  simp only [Memory.chargeRegions, List.forall_mem_cons]
  refine ⟨inPrefix (by decide), ?_, ?_, inPrefix (by decide), inPrefix (by decide), by simp⟩
  · exact (outside.fromVmblok _ user_mem).mono_right (Dispatcher.vmblok_within _ (by decide))
  · exact (outside.fromVmblok _ running_mem).mono_right (Dispatcher.vmblok_within _ (by decide))

include apart

namespace Billed

variable {timer : Int64}

theorem clearMark (billed : Billed memory cpu user after timer) :
    Billed memory cpu user (after.put memory.runningUser Vmblok.dispatchStatus
      (after.get memory.runningUser Vmblok.dispatchStatus &&& ~~~Vmblok.dispatched)) timer := by
  have bits : ∀ status : UInt8,
      status &&& ~~~Vmblok.dispatched &&& Vmblok.sliceEnded = status &&& Vmblok.sliceEnded ∧
      status &&& ~~~Vmblok.dispatched &&& Vmblok.queueEnded = status &&& Vmblok.queueEnded := by
    rintro ⟨bits⟩
    revert bits
    decide +kernel
  have fromPrefix := apart.prefixApart running_mem
  have fromTotal : (Region.ofField memory.runningUser Vmblok.dispatchStatus).Apart
      (.ofField user Vmblok.totalTime) :=
    apart.fields_apart running_mem user_mem (by decide) (by decide) (by decide)
  obtain ⟨totalTime, cpuTimer, quantum, problemTime, slice, queue, mark, stopped⟩ := billed
  constructor
  · rw [(Memory.put_agreesOn _ fromTotal).get_eq, totalTime]
  · exact cpuTimer
  · rw [Memory.get_prefix_put fromPrefix _ (by decide) (by decide), quantum]
  · rw [Memory.get_prefix_put fromPrefix _ (by decide) (by decide), problemTime]
  · rw [Memory.get_put_self, (bits _).1, slice]
  · rw [Memory.get_put_self, (bits _).2, queue]
  · exact fun _ => Memory.not_isDispatched_put (by simp [UInt8.and_assoc])
  · rw [Memory.get_prefix_put fromPrefix _ (by decide) (by decide), stopped]

end Billed

namespace Dispatcher

open Microcode

variable {known : Knowledge} {scene : Scene} {list exits : UInt32}

/-- The charge has come to its end with the bill in storage. -/
def ChargesBilled (memory : Memory) (cpu : Cpu) (user : UInt32) (charged : Charged)
    (after : Scene) : Prop :=
  (charged = .goesOn memory.runningUser ∨ ∃ completion, charged = .left completion) ∧
    Billed memory cpu user after.memory after.cpu.cpuTimer

omit apart user_mem running_mem in
theorem leave_billed (place : Field UInt32)
    (billed : Billed memory cpu user scene.memory scene.cpu.cpuTimer) :
    (takeExit exits place).Achieves known
      (fun completion after => ChargesBilled memory cpu user (.left completion) after) scene := by
  have nowhere : ∀ stored ∈ memory.chargeRegions user, Region.Apart ⟨0, 0⟩ stored :=
    fun _ _ _ inside => absurd inside (Nat.not_lt_zero _)
  refine ((takes_takeExit Action.chargesNothing_allowsRoutine exits place).billed nowhere
    billed).mono ?_ fun _ _ => id
  exact fun completion after billed => ⟨.inr ⟨completion, rfl⟩, billed⟩

section Timer

variable (isFaithful : known.faithful)
  (timer : ∀ real, known.translates (cpu.control.read 0)
    (memory.get memory.runningUser Vmblok.segmentTable) PrefixArea.intervalTimer.offset
      (.ok real) →
    (Region.ofField real (Field.first : Field UInt32)).Outside members)

include isFaithful timer

theorem intervalTimerAddress_billed (control : scene.cpu.control = cpu.control)
    (table : scene.memory.get memory.runningUser Vmblok.segmentTable =
      memory.get memory.runningUser Vmblok.segmentTable)
    (billed : Billed memory cpu user scene.memory scene.cpu.cpuTimer) :
    (intervalTimerAddress memory.runningUser).Achieves known
      (fun address after => Billed memory cpu user after.memory after.cpu.cpuTimer ∧
        ∀ stored ∈ memory.chargeRegions user,
          (Region.ofField address (Field.first : Field UInt32)).Apart stored) scene := by
  have inVmblok : ∀ stored ∈ memory.chargeRegions user,
      (Region.ofField (memory.runningUser + Vmblok.intervalTimer.offset)
        (Field.first : Field UInt32)).Apart stored := by
    rw [Region.ofField, Field.first, UInt32.add_zero]
    exact Memory.charge_spares_vmblok apart user_mem running_mem
      (show Vmblok.intervalTimer.offset.toNat + 4 ≤ 0xc0 by decide) (by decide) (by decide)
  simp only [Achieves, intervalTimerAddress, loadRealAddress, ensures_bind, ensures_registers,
    ensures_fetch_iff isFaithful, ensures_modify]
  refine (ensures_perform _).mpr fun answer isKnown => ?_
  simp only [Cpu.setControl, RegisterFile.read_load, control, table] at isKnown
  cases answer with
  | error _ => exact (ensures_pure _).mpr ⟨billed, inVmblok⟩
  | ok real => exact (ensures_pure _).mpr ⟨billed, (timer real isKnown).charge user_mem running_mem⟩

theorem countDown_billed (elapsed : UInt32) (control : scene.cpu.control = cpu.control)
    (table : scene.memory.get memory.runningUser Vmblok.segmentTable =
      memory.get memory.runningUser Vmblok.segmentTable)
    (billed : Billed memory cpu user scene.memory scene.cpu.cpuTimer) :
    (countDown memory.runningUser elapsed list exits).Achieves known
      (ChargesBilled memory cpu user) scene := by
  simp only [Achieves, countDown, ensures_bind]
  refine (intervalTimerAddress_billed apart user_mem running_mem isFaithful timer control table
    billed).mono ?_ fun _ _ => id
  rintro address timed ⟨billed, spared⟩
  simp only [ensures_fetch_iff isFaithful, ensures_store, ensures_ite, ensures_bind, ensures_pure,
    setGeneral, ensures_modify, clearBits]
  intro _
  have counted := billed.congr fun region region_mem =>
    Memory.put_agreesOn (timed.memory.get address Field.first - elapsed) (spared region region_mem)
  refine ⟨fun _ _ => ?_, fun _ => ⟨.inl rfl, counted⟩⟩
  exact leave_billed _ (counted.clearMark apart user_mem running_mem)

theorem chargeIntervalTimer_billed (previous : UInt32)
    (control : scene.cpu.control = cpu.control)
    (table : scene.memory.get memory.runningUser Vmblok.segmentTable =
      memory.get memory.runningUser Vmblok.segmentTable)
    (billed : Billed memory cpu user scene.memory scene.cpu.cpuTimer) :
    (chargeIntervalTimer memory.runningUser previous list exits).Achieves known
      (ChargesBilled memory cpu user) scene := by
  simp only [Achieves, chargeIntervalTimer, ensures_bind]
  refine ensures_testBits _ _ _ fun kept _ => ?_
  simp only [ensures_ite, ensures_pure]
  refine ⟨fun _ => ⟨.inl rfl, billed⟩, fun _ => ?_⟩
  simp only [ensures_bind]
  refine ensures_testBits _ _ _ fun runs _ => ?_
  simp only [ensures_ite, ensures_pure]
  refine ⟨fun _ => ⟨.inl rfl, billed⟩, fun _ => ?_⟩
  simp only [ensures_bind]
  refine ensures_fetch _ _ fun left _ => ?_
  simp only [ensures_ite, ensures_bind, ensures_log, ensures_pure]
  refine ⟨fun _ => leave_billed _ billed, fun _ => ?_⟩
  exact countDown_billed apart user_mem running_mem isFaithful timer _ control table billed

end Timer

end Dispatcher

end Exits

namespace Memory

/-- A user runs whose time has not been charged yet. -/
def ChargesUser (memory : Memory) : Prop :=
  memory.get PrefixArea.base PrefixArea.cpStatus &&& PrefixArea.cpRuns ≠ 0

instance (memory : Memory) : Decidable memory.ChargesUser :=
  inferInstanceAs (Decidable (_ ≠ _))

end Memory

/-- Once a bill has been written no user runs whose time has not been charged. -/
theorem Billed.not_chargesUser {timer : Int64} (billed : Billed memory cpu user after timer) :
    ¬after.ChargesUser := by
  have bits : ∀ status : UInt8, status &&& (PrefixArea.cpRuns ||| PrefixArea.cpWaits) = 0 →
      status &&& PrefixArea.cpRuns = 0 := by
    rintro ⟨bits⟩
    revert bits
    decide +kernel
  exact not_not_intro (bits _ billed.stopped)

namespace Dispatcher

open Microcode

variable {known : Knowledge} {scene : Scene} {list exits : UInt32}

/-- The dispatcher's entry adds one to its count. -/
theorem enter_counts (isFaithful : known.faithful) :
    (enter list exits).Achieves known
      (fun _ after => after.memory.get list EntryList.entries =
        scene.memory.get list EntryList.entries + 1) scene := by
  simp only [Achieves, enter, ensures_bind, ensures_fetch_iff isFaithful]
  refine ensures_of_forall (fun completion after => ?_) fun _ _ => trivial
  simp only [ensures_store, ensures_pure]
  exact fun _ => Memory.get_put_self _ _ _ _

/-- Whatever exit the dispatcher's entry takes while a user runs, the run time has been billed. -/
theorem enter_billed (isFaithful : known.faithful) (apart : UsersApart members)
    (user_mem : Address.wrap (scene.cpu.general.read 11) ∈ members)
    (running_mem : scene.memory.runningUser ∈ members)
    (timer : ∀ real, known.translates (scene.cpu.control.read 0)
      (scene.memory.get scene.memory.runningUser Vmblok.segmentTable)
        PrefixArea.intervalTimer.offset (.ok real) →
      (Region.ofField real (Field.first : Field UInt32)).Outside members)
    (entries : (Region.ofField list EntryList.entries).Outside members)
    (charges : scene.memory.ChargesUser) :
    (enter list exits).Achieves known
      (fun _ after => Billed scene.memory scene.cpu (Address.wrap (scene.cpu.general.read 11))
        after.memory after.cpu.cpuTimer) scene := by
  have selected : (selectExit list exits).Achieves known
      (fun _ after => Billed scene.memory scene.cpu (Address.wrap (scene.cpu.general.read 11))
        after.memory after.cpu.cpuTimer) scene := by
    simp only [Achieves, selectExit, currentUser, ensures_bind, ensures_general, ensures_pure,
      ensures_fetch_iff isFaithful, ensures_ite, bne_iff_ne]
    refine ⟨fun _ => ?_, fun idle => absurd charges idle⟩
    refine chargeRunTime_ensures isFaithful apart user_mem running_mem ?_
    intro timerValue timerSet isTimer
    refine (chargeIntervalTimer_billed apart user_mem running_mem isFaithful timer _ ?_ ?_
      ?_).mono ?_ fun _ _ => id
    · rfl
    · exact Memory.charged_get_vmblok apart user_mem running_mem (by decide) (by decide)
        (by decide)
    · exact Memory.charged_bills apart user_mem running_mem isTimer
    · rintro charged after ⟨rfl | ⟨completion, rfl⟩, billed⟩
      · exact (exitRunning_chargesNothing exits).billed (Memory.charge_spares_vmblok apart user_mem
          running_mem (by decide) (by decide) (by decide)) billed
      · exact (ensures_pure _).mpr billed
  simp only [Achieves, enter, ensures_bind, ensures_fetch_iff isFaithful]
  refine selected.mono (fun completion after billed => ?_) fun _ _ => id
  simp only [ensures_store, ensures_pure]
  exact fun _ => billed.congr fun region region_mem =>
    Memory.put_agreesOn _ (entries.charge user_mem running_mem region region_mem)

/-- While no user runs, the dispatcher's entry changes its count and the run status of the user that
it is entered for. -/
theorem enter_uncharged (isFaithful : known.faithful) (idle : ¬scene.memory.ChargesUser) :
    (enter list exits).Achieves known
      (fun _ after => after.cpu.cpuTimer = scene.cpu.cpuTimer ∧
        ∀ region, (Region.ofField list EntryList.entries).Apart region →
          (Region.ofField (Address.wrap (scene.cpu.general.read 11)) Vmblok.runStatus).Apart
            region →
          after.memory.AgreesOn scene.memory region) scene := by
  have selected : (selectExit list exits).Achieves known
      (fun _ after => scene.Uncharged
        (.ofField (Address.wrap (scene.cpu.general.read 11)) Vmblok.runStatus) after) scene := by
    simp only [Achieves, selectExit, currentUser, ensures_bind, ensures_general, ensures_pure,
      ensures_fetch_iff isFaithful, ensures_ite, bne_iff_ne]
    refine ⟨fun charges => absurd charges idle, fun _ => ⟨fun _ => ?_, fun _ => ?_⟩⟩
    · exact (takes_takeExit Action.chargesNothing_allowsRoutine exits _).uncharged
    · apply Takes.uncharged
      simp [Region.ofField]
  simp only [Achieves, enter, ensures_bind, ensures_fetch_iff isFaithful]
  refine selected.mono (fun completion after uncharged => ?_) fun _ _ => id
  simp only [ensures_store, ensures_pure]
  exact fun _ => ⟨uncharged.cpuTimer, fun region counter status =>
    (Memory.put_agreesOn _ counter).trans (uncharged.memory region status)⟩

end Dispatcher

end Assist370
