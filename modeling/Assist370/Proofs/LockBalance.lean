import Assist370.Proofs.AddressSpace
import Assist370.Proofs.CallRun

/-!
# The balance of page locks

The control program's assists lock and unlock the frames of pages by their entries in the core
table. Each of them changes one entry, and of that only the count of locks and two flags
(`Memory.setEntry`). So along every run of locks and unlocks the count of a frame is the balance of
its locks, and the flag says whether there is one (`System.locks_balance`).
-/

namespace Assist370

namespace CoreTable

variable {table address other : UInt32}

/-- The core table with an entry for each frame. -/
def whole (table : UInt32) : Region :=
  ⟨table, 0x10000⟩

/-- The entry of the frame that holds an address. -/
def entryRegion (table address : UInt32) : Region :=
  ⟨entry table address, 16⟩

theorem toNat_entry (table address : UInt32) : (entry table address).toNat =
    (table.toNat + 16 * (address.toNat / 0x1000 % 0x1000)) % Address.space := by
  have table_lt := table.toNat_lt
  have shifted : (Address.frame address >>> 8).toNat = (Address.frame address).toNat / 256 := by
    simp [Nat.shiftRight_eq_div_pow]
  rw [entry, Address.toNat_wrap, UInt32.toNat_add, shifted, Address.toNat_frame, Address.space]
  omega

/-- Addresses in one frame have one entry. -/
theorem entry_congr (table : UInt32) (same : Address.frame other = Address.frame address) :
    entry table other = entry table address := by
  rw [entry, entry, same]

/-- Different frames have entries apart. -/
theorem entryRegion_apart (table : UInt32)
    (different : Address.frame other ≠ Address.frame address) :
    (entryRegion table address).Apart (entryRegion table other) := by
  have differentNat : other.toNat / 0x1000 % 0x1000 ≠ address.toNat / 0x1000 % 0x1000 := by
    intro same
    apply different
    apply UInt32.toNat_inj.mp
    rw [Address.toNat_frame, Address.toNat_frame, same]
  apply Region.apart_of_distance
  all_goals
    simp only [entryRegion, Region.distance_eq, toNat_entry, Address.space]
    omega

theorem entryRegion_within (table address : UInt32) :
    (entryRegion table address).Within (whole table) := by
  have table_lt := table.toNat_lt
  apply Region.within_of_distance
  simp only [entryRegion, whole, Region.distance_eq, toNat_entry, Address.space]
  omega

theorem lockCount_within (table address : UInt32) :
    (Region.ofField (entry table address) lockCount).Within (entryRegion table address) :=
  Region.ofField_within _ (by decide) (by decide)

theorem flags_within (table address : UInt32) :
    (Region.ofField (entry table address) flags).Within (entryRegion table address) :=
  Region.ofField_within _ (by decide) (by decide)

/-- The parts of an entry beside the count and the flags. -/
def otherParts (table address : UInt32) : List Region :=
  [.ofField (entry table address) descriptor, ⟨entry table address + 9, 7⟩]

/-- To turn on the flag of a locked frame changes nothing. -/
theorem or_locked {value : UInt8} (isOn : value &&& locked ≠ 0) : value ||| locked = value := by
  obtain ⟨bits⟩ := value
  revert bits
  decide +kernel

theorem or_locked_and (value : UInt8) : (value ||| locked) &&& locked ≠ 0 := by
  obtain ⟨bits⟩ := value
  revert bits
  decide +kernel

theorem or_locked_kept (value : UInt8) :
    (value ||| locked) &&& ~~~(locked ||| freeStorage) =
      value &&& ~~~(locked ||| freeStorage) := by
  obtain ⟨bits⟩ := value
  revert bits
  decide +kernel

theorem or_locked_freeStorage (value : UInt8) :
    (value ||| locked) &&& freeStorage = value &&& freeStorage := by
  obtain ⟨bits⟩ := value
  revert bits
  decide +kernel

theorem and_not_kept (value : UInt8) :
    (value &&& ~~~(locked ||| freeStorage)) &&& ~~~(locked ||| freeStorage) =
      value &&& ~~~(locked ||| freeStorage) := by
  rw [UInt8.and_assoc, UInt8.and_self]

theorem and_not_locked (value : UInt8) :
    (value &&& ~~~(locked ||| freeStorage)) &&& locked = 0 ∧
      (value &&& ~~~(locked ||| freeStorage)) &&& freeStorage = 0 := by
  obtain ⟨bits⟩ := value
  revert bits
  decide +kernel

end CoreTable

namespace Memory

variable {memory : Memory} {table address other : UInt32}

/-- How many locks the frame that holds an address has. -/
def lockCount (memory : Memory) (table address : UInt32) : UInt32 :=
  memory.get (CoreTable.entry table address) CoreTable.lockCount

/-- The flags of the frame that holds an address. -/
def frameFlags (memory : Memory) (table address : UInt32) : UInt8 :=
  memory.get (CoreTable.entry table address) CoreTable.flags

theorem get_lockCount (memory : Memory) (table address : UInt32) :
    memory.get (CoreTable.entry table address) CoreTable.lockCount =
      memory.lockCount table address :=
  rfl

theorem get_frameFlags (memory : Memory) (table address : UInt32) :
    memory.get (CoreTable.entry table address) CoreTable.flags =
      memory.frameFlags table address :=
  rfl

/-- The flag of every frame says whether the frame has locks. -/
def LocksFlagged (memory : Memory) (table : UInt32) : Prop :=
  ∀ address, memory.frameFlags table address &&& CoreTable.locked ≠ 0 ↔
    memory.lockCount table address ≠ 0

/-- Gives the frame that holds an address new flags and a new count of locks. -/
def setEntry (memory : Memory) (table address : UInt32) (flags : UInt8) (count : UInt32) :
    Memory :=
  (memory.put (CoreTable.entry table address) CoreTable.flags flags).put
    (CoreTable.entry table address) CoreTable.lockCount count

/-- Locks the frame that holds an address once more. -/
def takeLock (memory : Memory) (table address : UInt32) : Memory :=
  memory.setEntry table address (memory.frameFlags table address ||| CoreTable.locked)
    (memory.lockCount table address + 1)

/-- Takes one lock off the frame that holds an address. -/
def returnLock (memory : Memory) (table address : UInt32) : Memory :=
  let count := memory.lockCount table address - 1
  let flags := memory.frameFlags table address
  memory.setEntry table address
    (if count = 0 then flags &&& ~~~(CoreTable.locked ||| CoreTable.freeStorage) else flags) count

theorem setEntry_agreesOn (flags : UInt8) (count : UInt32) {region : Region}
    (apart : (CoreTable.entryRegion table address).Apart region) :
    (memory.setEntry table address flags count).AgreesOn memory region :=
  (put_agreesOn count (apart.mono (CoreTable.lockCount_within table address))).trans
    (put_agreesOn flags (apart.mono (CoreTable.flags_within table address)))

/-- The parts of an entry beside the count and the flags stay as they are. -/
theorem setEntry_otherParts (flags : UInt8) (count : UInt32) :
    ∀ part ∈ CoreTable.otherParts table address,
      (memory.setEntry table address flags count).AgreesOn memory part := by
  have countApart : ∀ part ∈ CoreTable.otherParts table address,
      (Region.ofField (CoreTable.entry table address) CoreTable.lockCount).Apart part := by
    simp only [CoreTable.otherParts, List.forall_mem_cons, List.not_mem_nil, false_implies,
      implies_true, and_true]
    exact ⟨Region.ofField_apart _ (by decide) (by decide),
      Region.apart_add _ (by decide) (by decide)⟩
  have flagsApart : ∀ part ∈ CoreTable.otherParts table address,
      (Region.ofField (CoreTable.entry table address) CoreTable.flags).Apart part := by
    simp only [CoreTable.otherParts, List.forall_mem_cons, List.not_mem_nil, false_implies,
      implies_true, and_true]
    exact ⟨Region.ofField_apart _ (by decide) (by decide),
      Region.apart_add _ (by decide) (by decide)⟩
  intro part part_mem
  exact (put_agreesOn count (countApart part part_mem)).trans
    (put_agreesOn flags (flagsApart part part_mem))

@[simp]
theorem lockCount_setEntry (flags : UInt8) (count : UInt32) :
    (memory.setEntry table address flags count).lockCount table address = count := by
  rw [lockCount, setEntry, get_put_self]

@[simp]
theorem frameFlags_setEntry (flags : UInt8) (count : UInt32) :
    (memory.setEntry table address flags count).frameFlags table address = flags := by
  rw [frameFlags, setEntry, get_put_field _ (by decide) (by decide), get_put_self]

/-- Other frames keep their entries. -/
theorem setEntry_other (flags : UInt8) (count : UInt32)
    (different : Address.frame other ≠ Address.frame address) :
    (memory.setEntry table address flags count).AgreesOn memory
      (CoreTable.entryRegion table other) :=
  setEntry_agreesOn flags count (CoreTable.entryRegion_apart table different)

theorem AgreesOn.lockCount_eq {now : Memory}
    (agrees : now.AgreesOn memory (CoreTable.entryRegion table address)) :
    now.lockCount table address = memory.lockCount table address :=
  (agrees.mono (CoreTable.lockCount_within table address)).get_eq

theorem AgreesOn.frameFlags_eq {now : Memory}
    (agrees : now.AgreesOn memory (CoreTable.entryRegion table address)) :
    now.frameFlags table address = memory.frameFlags table address :=
  (agrees.mono (CoreTable.flags_within table address)).get_eq

/-- The flag is on before a lock and stays so, or the frame has got its first lock. -/
theorem takeLock_eq (flagged : memory.LocksFlagged table) :
    memory.takeLock table address =
      if memory.frameFlags table address &&& CoreTable.locked ≠ 0 then
        memory.put (CoreTable.entry table address) CoreTable.lockCount
          (memory.lockCount table address + 1)
      else
        memory.setEntry table address (memory.frameFlags table address ||| CoreTable.locked) 1 := by
  simp only [takeLock]
  split
  · rename_i isOn
    rw [setEntry, CoreTable.or_locked isOn, frameFlags, put_get]
  · rename_i isOff
    have none : memory.lockCount table address = 0 := by
      simpa using (not_congr (flagged address)).mp isOff
    rw [none]
    rfl

/-- A flag is taken off only with the last lock. -/
theorem returnLock_eq :
    memory.returnLock table address =
      if memory.lockCount table address - 1 = 0 then
        memory.setEntry table address (memory.frameFlags table address &&&
          ~~~(CoreTable.locked ||| CoreTable.freeStorage)) (memory.lockCount table address - 1)
      else
        memory.put (CoreTable.entry table address) CoreTable.lockCount
          (memory.lockCount table address - 1) := by
  simp only [returnLock]
  split
  · rfl
  · rw [setEntry, frameFlags, put_get]

end Memory

namespace PageLock

open Microcode

variable {known : Knowledge} {declined : Decline → Scene → Prop} {scene : Scene} {table : UInt32}

theorem requireUnchanged_looks (blocks : List UInt32) :
    (requireUnchanged blocks).Takes Action.OnlyLooks := by
  induction blocks with
  | nil => simp [requireUnchanged]
  | cons block blocks ih => simp [requireUnchanged, perform, ih]

theorem translateUnchanged_looks (policy : Policy) (pointer : UInt32) :
    (translateUnchanged policy pointer).Takes Action.OnlyLooks := by
  simp only [translateUnchanged, loadRealAddress, perform, takes_bind]
  refine ⟨by simp, fun address _ => ⟨by simp, fun answer _ => ?_⟩⟩
  cases answer <;> simp [entryThrough, requireUnchanged_looks]

theorem lockFrame_ensures (isFaithful : known.faithful) {pointer : UInt32}
    (isTable : scene.memory.getAddress pointer Field.first = table)
    (flagged : scene.memory.LocksFlagged table) (address : UInt32) {post : Unit → Scene → Prop}
    (holds : post () { scene with memory := scene.memory.takeLock table address }) :
    (lockFrame pointer address).Ensures known declined post scene := by
  rw [Memory.takeLock_eq flagged] at holds
  rw [Memory.getAddress] at isTable
  simp only [lockFrame, entryThrough, fetchAddress, ensures_bind, ensures_pure,
    ensures_fetch_iff isFaithful, ensures_ite, ensures_store, isTable, Memory.get_lockCount,
    Memory.get_frameFlags, bne_iff_ne]
  refine ⟨fun isOn _ => ?_, fun isOff _ _ => ?_⟩
  · rwa [if_pos isOn] at holds
  · rwa [if_neg isOff] at holds

theorem lock_achieves (scene : Scene) (isFaithful : known.faithful) {pointer : UInt32}
    (isTable : scene.memory.getAddress pointer Field.first = table)
    (flagged : scene.memory.LocksFlagged table) (page : UInt32) :
    (lock pointer page).Achieves known
      (fun completion after => completion = .completed ∧
        after.memory = scene.memory.takeLock table page) scene := by
  simp only [lock, ensures_bind]
  refine lockFrame_ensures isFaithful isTable flagged page ?_
  simp [setConditionCode, returnToCaller, branch]

/-- A page that lies in real storage is unlocked unless it has no locks. -/
theorem unlock_ensures (scene : Scene) (isFaithful : known.faithful) {parameters : UInt32}
    (isTable : scene.memory.getAddress parameters coreTable = table)
    (flagged : scene.memory.LocksFlagged table) (page : UInt32) :
    (unlock parameters page).Ensures known
      (fun _ _ => page + (Address.pageSize - 1) ≤ scene.memory.get parameters storageSize →
        scene.memory.lockCount table page = 0)
      (fun completion after => completion = .completed ∧ scene.memory.lockCount table page ≠ 0 ∧
        after.memory = scene.memory.returnLock table page) scene := by
  have isFlagged := flagged page
  rw [Memory.getAddress] at isTable
  simp only [unlock, fetchAddress, ensures_bind, ensures_pure, ensures_fetch_iff isFaithful,
    ensures_require, ensures_ite, ensures_store, isTable, Memory.get_lockCount,
    Memory.get_frameFlags, bne_iff_ne, beq_iff_eq, decide_eq_true_eq, decide_eq_false_iff_not,
    bne_eq_false_iff_eq, Memory.returnLock_eq]
  refine ⟨fun _ => ⟨fun isOn => ?_, fun isOff _ => ?_⟩, fun beyond within => absurd within beyond⟩
  · have some : scene.memory.lockCount table page ≠ 0 := isFlagged.mp isOn
    refine ⟨fun isLast _ _ => ?_, fun notLast _ => ?_⟩
    · simp [returnToCaller, branch, some, isLast, Memory.setEntry]
    · simp [returnToCaller, branch, some, notLast]
  · have none := (not_congr isFlagged).mp fun isOn => isOn isOff
    exact Decidable.not_not.mp none

/-- A page is translated without a change, and then its frame is locked. -/
theorem translateAndLock_achieves (scene : Scene) (isFaithful : known.faithful) {pointer : UInt32}
    (isTable : scene.memory.getAddress pointer Field.first = table)
    (flagged : scene.memory.LocksFlagged table) (policy : Policy) (target : UInt32) :
    (translateAndLock policy pointer target).Achieves known
      (fun completion after => completion = .completed ∧ after.timerSet = scene.timerSet ∧
        after.memory = scene.memory.takeLock table (after.cpu.general.read 2)) scene := by
  simp only [translateAndLock, ensures_bind]
  refine (translateUnchanged_looks policy pointer).ensures_of_looks (fun real => ?_)
    fun _ => trivial
  refine lockFrame_ensures isFaithful isTable flagged real ?_
  simp [returnTranslated, setGeneral, setConditionCode, branch, Cpu.setGeneral,
    RegisterFile.read_load, ensures_map]

end PageLock

/-- The instruction locks or unlocks a page by a core table. The words where it finds the table and
the size of real storage lie apart from the table. -/
def Request.LocksBy (table : UInt32) (memory : Memory) : Request → Prop
  | lckpg pointer _ | trlok pointer _ =>
      memory.getAddress (Address.wrap pointer) Field.first = table ∧
        (CoreTable.whole table).Apart (.ofField (Address.wrap pointer) (Field.first : Field UInt32))
  | ulkpg parameters _ =>
      memory.getAddress (Address.wrap parameters) PageLock.coreTable = table ∧
        (CoreTable.whole table).Apart (.ofField (Address.wrap parameters) PageLock.coreTable) ∧
        (CoreTable.whole table).Apart (.ofField (Address.wrap parameters) PageLock.storageSize)
  | _ => False

section Account

variable {Machine Refusal : Type}

/-- The frame that a call has locked, if it has locked one. -/
def Call.lockedFrame? (call : Call) (response : Response Machine Refusal) : Option UInt32 :=
  match call.request, response.result with
  | .lckpg _ page, .ok .completed => some (Address.frame page)
  | .trlok _ _, .ok .completed => some (Address.frame (response.system.cpu.general.read 2))
  | _, _ => none

/-- The frame that a call has unlocked, if it has unlocked one. -/
def Call.unlockedFrame? (call : Call) (response : Response Machine Refusal) : Option UInt32 :=
  match call.request, response.result with
  | .ulkpg _ page, .ok .completed => some (Address.frame page)
  | _, _ => none

/-- The frames for which calls have taken and returned locks, once for each lock. -/
structure LockAccount where
  taken : List UInt32 := []
  returned : List UInt32 := []

/-- Enters a call with what it has come to. -/
def LockAccount.enter (policy : Policy) (callouts : Callouts Machine Refusal)
    (account : LockAccount) (system : System Machine) (call : Call) : LockAccount where
  taken := (call.lockedFrame? (system.call policy callouts call)).toList ++ account.taken
  returned := (call.unlockedFrame? (system.call policy callouts call)).toList ++ account.returned

/-- The locks of the frame that holds an address are fewer than a count can tell. -/
def LockAccount.Fits (account : LockAccount) (initial : Memory) (table address : UInt32) : Prop :=
  (initial.lockCount table address).toNat + account.taken.count (Address.frame address) <
    UInt32.size + account.returned.count (Address.frame address)

/-- The entry of the frame that holds an address has kept the balance of its locks, and otherwise
is as it was at first. -/
structure LockAccount.Balances (account : LockAccount) (initial now : Memory)
    (table address : UInt32) : Prop where
  count : (now.lockCount table address).toNat + account.returned.count (Address.frame address) =
    (initial.lockCount table address).toNat + account.taken.count (Address.frame address)
  flagged : now.frameFlags table address &&& CoreTable.locked ≠ 0 ↔
    now.lockCount table address ≠ 0
  otherFlags :
    now.frameFlags table address &&& ~~~(CoreTable.locked ||| CoreTable.freeStorage) =
      initial.frameFlags table address &&& ~~~(CoreTable.locked ||| CoreTable.freeStorage)
  otherParts : ∀ part ∈ CoreTable.otherParts table address, now.AgreesOn initial part

/-- Storage as runs of locks and unlocks leave it. -/
structure LockAccount.Holds (account : LockAccount) (initial now : Memory) (table : UInt32) :
    Prop where
  balances : ∀ address, account.Balances initial now table address
  outside : ∀ region, (CoreTable.whole table).Apart region → now.AgreesOn initial region

end Account

namespace LockAccount

variable {account : LockAccount} {initial now : Memory} {table address other : UInt32}

theorem Holds.flagged (holds : account.Holds initial now table) : now.LocksFlagged table :=
  fun address => (holds.balances address).flagged

/-- At first there is nothing to balance. -/
theorem holds_initial (flagged : initial.LocksFlagged table) :
    LockAccount.Holds {} initial initial table where
  balances address :=
    { count := rfl, flagged := flagged address, otherFlags := rfl, otherParts _ _ _ _ := rfl }
  outside _ _ _ _ := rfl

theorem otherParts_within (table address : UInt32) :
    ∀ part ∈ CoreTable.otherParts table address,
      part.Within (CoreTable.entryRegion table address) := by
  simp only [CoreTable.otherParts, List.forall_mem_cons, List.not_mem_nil, false_implies,
    implies_true, and_true]
  exact ⟨Region.ofField_within _ (by decide) (by decide),
    Region.within_block _ (by decide) (by decide)⟩

/-- A frame whose entry is left alone keeps its balance. -/
theorem Balances.of_agreesOn {later : Memory} {entered : LockAccount}
    (balances : account.Balances initial now table address)
    (agrees : later.AgreesOn now (CoreTable.entryRegion table address))
    (taken : entered.taken.count (Address.frame address) =
      account.taken.count (Address.frame address))
    (returned : entered.returned.count (Address.frame address) =
      account.returned.count (Address.frame address)) :
    entered.Balances initial later table address where
  count := by rw [agrees.lockCount_eq, taken, returned, balances.count]
  flagged := by rw [agrees.lockCount_eq, agrees.frameFlags_eq, balances.flagged]
  otherFlags := by rw [agrees.frameFlags_eq, balances.otherFlags]
  otherParts part part_mem :=
    (agrees.mono (otherParts_within table address part part_mem)).trans
      (balances.otherParts part part_mem)

/-- Addresses in one frame have one balance. -/
theorem Balances.congr (balances : account.Balances initial now table address)
    (same : Address.frame other = Address.frame address) :
    account.Balances initial now table other := by
  obtain ⟨count, flagged, otherFlags, otherParts⟩ := balances
  simp only [Memory.lockCount, Memory.frameFlags, CoreTable.otherParts,
    ← CoreTable.entry_congr table same, ← same] at count flagged otherFlags otherParts
  exact ⟨count, flagged, otherFlags, otherParts⟩

/-- A new entry of a frame keeps the account if it keeps the balance of that frame. -/
theorem Holds.setEntry {entered : LockAccount} {flags : UInt8} {count : UInt32}
    (holds : account.Holds initial now table)
    (taken : ∀ frame, frame ≠ Address.frame address →
      entered.taken.count frame = account.taken.count frame)
    (returned : ∀ frame, frame ≠ Address.frame address →
      entered.returned.count frame = account.returned.count frame)
    (balanced : count.toNat + entered.returned.count (Address.frame address) =
      (initial.lockCount table address).toNat + entered.taken.count (Address.frame address))
    (flagged : flags &&& CoreTable.locked ≠ 0 ↔ count ≠ 0)
    (otherFlags : flags &&& ~~~(CoreTable.locked ||| CoreTable.freeStorage) =
      now.frameFlags table address &&& ~~~(CoreTable.locked ||| CoreTable.freeStorage)) :
    entered.Holds initial (now.setEntry table address flags count) table where
  outside region apart :=
    (Memory.setEntry_agreesOn flags count
      (apart.mono (CoreTable.entryRegion_within table address))).trans
        (holds.outside region apart)
  balances other := by
    by_cases same : Address.frame other = Address.frame address
    · refine Balances.congr ?_ same
      have before := holds.balances address
      exact {
        count := by rw [Memory.lockCount_setEntry, balanced]
        flagged := by rw [Memory.lockCount_setEntry, Memory.frameFlags_setEntry, flagged]
        otherFlags := by rw [Memory.frameFlags_setEntry, otherFlags, before.otherFlags]
        otherParts part part_mem :=
          (Memory.setEntry_otherParts flags count part part_mem).trans
            (before.otherParts part part_mem) }
    · exact (holds.balances other).of_agreesOn (Memory.setEntry_other flags count same)
        (taken _ same) (returned _ same)

/-- A lock is entered for its frame. -/
theorem Holds.takeLock (holds : account.Holds initial now table)
    (fits : Fits { account with taken := Address.frame address :: account.taken } initial table
      address) :
    Holds { account with taken := Address.frame address :: account.taken } initial
      (now.takeLock table address) table := by
  have balanced := (holds.balances address).count
  simp only [Fits, UInt32.size, List.count_cons_self] at fits
  have successor : (now.lockCount table address + 1).toNat =
      (now.lockCount table address).toNat + 1 :=
    UInt32.toNat_succ (by simp only [UInt32.size]; omega)
  refine holds.setEntry ?_ (fun _ _ => rfl) ?_ ?_ ?_
  · intro frame different
    rw [List.count_cons_of_ne (Ne.symm different)]
  · rw [successor, List.count_cons_self, Nat.add_right_comm, balanced, Nat.add_assoc]
  · have some : now.lockCount table address + 1 ≠ 0 := by
      intro none
      simp [none] at successor
    exact iff_of_true (CoreTable.or_locked_and _) some
  · rw [CoreTable.or_locked_kept]

/-- A lock that is returned is entered for its frame. -/
theorem Holds.returnLock (holds : account.Holds initial now table)
    (some : now.lockCount table address ≠ 0) :
    Holds { account with returned := Address.frame address :: account.returned } initial
      (now.returnLock table address) table := by
  have balanced := (holds.balances address).count
  have predecessor : (now.lockCount table address - 1).toNat + 1 =
      (now.lockCount table address).toNat := by
    have positive : (now.lockCount table address).toNat ≠ 0 :=
      fun none => some (UInt32.toNat_inj.mp none)
    have below := (now.lockCount table address).toNat_lt
    rw [UInt32.toNat_sub]
    simp
    omega
  refine holds.setEntry (fun _ _ => rfl) ?_ ?_ ?_ ?_
  · intro frame different
    rw [List.count_cons_of_ne (Ne.symm different)]
  · rw [List.count_cons_self, ← balanced, ← predecessor, Nat.add_assoc, Nat.add_comm 1]
  · split
    · rename_i none
      rw [none]
      simp [CoreTable.and_not_locked]
    · rename_i more
      exact iff_of_true ((holds.flagged address).mpr some) more
  · split
    · exact CoreTable.and_not_kept _
    · rfl

/-- The words where an instruction finds the core table keep what they held at first. -/
theorem Holds.locksBy (holds : account.Holds initial now table) {request : Request}
    (byTable : request.LocksBy table initial) : request.LocksBy table now := by
  have kept : ∀ (block : UInt32) (field : Field UInt32),
      (CoreTable.whole table).Apart (.ofField block field) →
      now.get block field = initial.get block field :=
    fun block field apart => (holds.outside _ apart).get_eq
  cases request with
  | lckpg pointer page =>
      exact ⟨by rw [Memory.getAddress, kept _ _ byTable.2, ← byTable.1, Memory.getAddress],
        byTable.2⟩
  | trlok pointer target =>
      exact ⟨by rw [Memory.getAddress, kept _ _ byTable.2, ← byTable.1, Memory.getAddress],
        byTable.2⟩
  | ulkpg parameters page =>
      exact ⟨by rw [Memory.getAddress, kept _ _ byTable.2.1, ← byTable.1, Memory.getAddress],
        byTable.2⟩
  | _ => exact byTable.elim

end LockAccount

namespace Memory

variable {memory : Memory} {table address : UInt32}

/-- The free-storage flag of a frame is only ever turned off, and that by the unlock that takes off
the frame's last lock. -/
def FreesWithLastLock (before after : Memory) (table : UInt32) (unlocked : Option UInt32) : Prop :=
  ∀ address,
    after.frameFlags table address &&& CoreTable.freeStorage =
        before.frameFlags table address &&& CoreTable.freeStorage ∨
      (after.frameFlags table address &&& CoreTable.freeStorage = 0 ∧
        unlocked = some (Address.frame address) ∧ after.lockCount table address = 0)

theorem frameFlags_congr (memory : Memory) {other : UInt32}
    (same : Address.frame other = Address.frame address) :
    memory.frameFlags table other = memory.frameFlags table address := by
  rw [frameFlags, frameFlags, CoreTable.entry_congr table same]

theorem lockCount_congr (memory : Memory) {other : UInt32}
    (same : Address.frame other = Address.frame address) :
    memory.lockCount table other = memory.lockCount table address := by
  rw [lockCount, lockCount, CoreTable.entry_congr table same]

theorem freesWithLastLock_takeLock :
    memory.FreesWithLastLock (memory.takeLock table address) table none := by
  intro other
  left
  by_cases same : Address.frame other = Address.frame address
  · rw [frameFlags_congr _ same, frameFlags_congr _ same, takeLock, frameFlags_setEntry,
      CoreTable.or_locked_freeStorage]
  · rw [takeLock, (setEntry_other _ _ same).frameFlags_eq]

theorem freesWithLastLock_returnLock :
    memory.FreesWithLastLock (memory.returnLock table address) table
      (some (Address.frame address)) := by
  intro other
  by_cases same : Address.frame other = Address.frame address
  · rw [frameFlags_congr _ same, frameFlags_congr _ same, lockCount_congr _ same, same, returnLock,
      frameFlags_setEntry, lockCount_setEntry]
    split
    · rename_i isLast
      exact .inr ⟨(CoreTable.and_not_locked _).2, rfl, isLast⟩
    · exact .inl rfl
  · left
    rw [returnLock, (setEntry_other _ _ same).frameFlags_eq]

end Memory

section Calls

variable {Machine Refusal : Type} {policy : Policy} {callouts : Callouts Machine Refusal}
  {initial : Memory} {table : UInt32} {system : System Machine} {call : Call}

/-- What a call does to the locks: nothing, or it takes or returns one lock of a frame. -/
inductive Call.LockEffect (call : Call) (table : UInt32) (before after : Memory)
    (response : Response Machine Refusal) : Prop where
  | kept (locked : call.lockedFrame? response = none)
      (unlocked : call.unlockedFrame? response = none) (memory : after = before)
  | taken (address : UInt32) (locked : call.lockedFrame? response = some (Address.frame address))
      (unlocked : call.unlockedFrame? response = none)
      (memory : after = before.takeLock table address)
  | returned (address : UInt32) (locked : call.lockedFrame? response = none)
      (unlocked : call.unlockedFrame? response = some (Address.frame address))
      (some : before.lockCount table address ≠ 0)
      (memory : after = before.returnLock table address)

theorem Call.LockEffect.of_unperformed {before after : Memory} {response : Response Machine Refusal}
    (unperformed : response.result = .ok .declined ∨ response.result = .ok .operationException)
    (memory : after = before) : call.LockEffect table before after response := by
  refine .kept ?_ ?_ memory <;> rcases unperformed with result | result <;>
    cases request : call.request <;> simp [lockedFrame?, unlockedFrame?, result, request]

theorem System.call_lockEffect (view : StorageView callouts)
    (flagged : (view.memory system.machine).LocksFlagged table)
    (byTable : call.request.LocksBy table (view.memory system.machine))
    (answered : (system.call policy callouts call).Answered) :
    call.LockEffect table (view.memory system.machine)
      (view.memory (system.call policy callouts call).system.machine)
      (system.call policy callouts call) := by
  obtain ⟨cpu, request⟩ := call
  cases request with
  | lckpg pointer page =>
      cases System.call_settles view rfl answered
        (PageLock.lock_achieves { memory := view.memory system.machine, cpu } trivial byTable.1
          flagged (Address.wrap page)) with
      | stopped _ unperformed _ same => exact .of_unperformed unperformed same
      | left _ _ _ unperformed same => exact .of_unperformed (.inl unperformed) same
      | performed completion final holds completed _ memory =>
          obtain ⟨rfl, locked⟩ := holds
          refine .taken (Address.wrap page) ?_ ?_ (memory.trans locked) <;>
            simp [Call.lockedFrame?, Call.unlockedFrame?, completed, Completion.outcome,
              Address.frame_wrap]
  | trlok pointer target =>
      cases System.call_settles view rfl answered
        (PageLock.translateAndLock_achieves { memory := view.memory system.machine, cpu } trivial
          byTable.1 flagged policy (Address.wrap target)) with
      | stopped _ unperformed _ same => exact .of_unperformed unperformed same
      | left _ _ _ unperformed same => exact .of_unperformed (.inl unperformed) same
      | performed completion final holds completed cpuLeft memory =>
          obtain ⟨rfl, notSet, locked⟩ := holds
          rw [Scene.committedCpu, notSet] at cpuLeft
          refine .taken (final.cpu.general.read 2) ?_ ?_ (memory.trans locked) <;>
            simp [Call.lockedFrame?, Call.unlockedFrame?, completed, Completion.outcome, cpuLeft]
  | ulkpg parameters page =>
      cases System.call_settles view rfl answered
        (PageLock.unlock_ensures { memory := view.memory system.machine, cpu } trivial byTable.1
          flagged (Address.wrap page)) with
      | stopped _ unperformed _ same => exact .of_unperformed unperformed same
      | left _ _ _ unperformed same => exact .of_unperformed (.inl unperformed) same
      | performed completion final holds completed _ memory =>
          obtain ⟨rfl, some, unlocked⟩ := holds
          refine .returned (Address.wrap page) ?_ ?_ some (memory.trans unlocked) <;>
            simp [Call.lockedFrame?, Call.unlockedFrame?, completed, Completion.outcome,
              Address.frame_wrap]
  | _ => exact byTable.elim

/-- Past the gate, an unlock of a page that lies in real storage is left to software if and only if
the page has no locks. -/
theorem System.unlock_declined_iff (view : StorageView callouts) {parameters page : UInt32}
    (isUnlock : call.request = .ulkpg parameters page)
    (flagged : (view.memory system.machine).LocksFlagged table)
    (byTable : call.request.LocksBy table (view.memory system.machine))
    (answered : (system.call policy callouts call).Answered)
    (gate : system.registry.cpGate .ulkpg call.cpu = .passed)
    (inStorage : (Address.wrap page).toNat + 0xfff ≤
      ((view.memory system.machine).get (Address.wrap parameters) PageLock.storageSize).toNat) :
    (system.call policy callouts call).result = .ok .declined ↔
      (view.memory system.machine).lockCount table page = 0 := by
  obtain ⟨cpu, request⟩ := call
  cases isUnlock
  have within : Address.wrap page + (Address.pageSize - 1) ≤
      (view.memory system.machine).get (Address.wrap parameters) PageLock.storageSize := by
    have page_lt := Address.wrap_lt page
    rw [UInt32.le_iff_toNat_le, UInt32.toNat_add]
    simp [Address.space, Address.pageSize] at page_lt ⊢
    omega
  have samePage : (view.memory system.machine).lockCount table (Address.wrap page) =
      (view.memory system.machine).lockCount table page :=
    Memory.lockCount_congr _ (Address.frame_wrap page)
  rw [← samePage]
  cases System.call_settles view rfl answered
    (PageLock.unlock_ensures { memory := view.memory system.machine, cpu } trivial byTable.1
      flagged (Address.wrap page)) with
  | stopped stopped _ _ _ => exact absurd gate stopped
  | left _ _ none unperformed _ => exact iff_of_true unperformed (none within)
  | performed completion final holds completed _ memory =>
      obtain ⟨rfl, some, -⟩ := holds
      exact iff_of_false (by simp [completed, Completion.outcome]) some

variable {account : LockAccount}

/-- A call keeps the balance of the locks. -/
theorem LockAccount.Holds.ofCall (view : StorageView callouts)
    (holds : account.Holds initial (view.memory system.machine) table)
    (byTable : call.request.LocksBy table initial)
    (answered : (system.call policy callouts call).Answered)
    (fits : ∀ address, (account.enter policy callouts system call).Fits initial table address) :
    (account.enter policy callouts system call).Holds initial
        (view.memory (system.call policy callouts call).system.machine) table ∧
      (view.memory system.machine).FreesWithLastLock
        (view.memory (system.call policy callouts call).system.machine) table
        (call.unlockedFrame? (system.call policy callouts call)) := by
  have effect := System.call_lockEffect view holds.flagged (holds.locksBy byTable) answered
  simp only [LockAccount.enter] at fits ⊢
  generalize system.call policy callouts call = response at effect fits
  cases effect with
  | kept locked unlocked memory =>
      rw [locked, unlocked, memory]
      exact ⟨holds, fun _ => .inl rfl⟩
  | taken address locked unlocked memory =>
      rw [locked, unlocked] at fits ⊢
      rw [memory]
      exact ⟨holds.takeLock (fits address), Memory.freesWithLastLock_takeLock⟩
  | returned address locked unlocked some memory =>
      rw [locked, unlocked, memory]
      exact ⟨holds.returnLock some, Memory.freesWithLastLock_returnLock⟩

/-- What a call shows of the locks: after it every frame has kept the balance and only a last unlock
has turned off a free-storage flag, and an unlock declines just when there is no lock. -/
structure LockAccount.Shows (policy : Policy) (callouts : Callouts Machine Refusal)
    (view : StorageView callouts) (initial : Memory) (table : UInt32) (account : LockAccount)
    (system : System Machine) (call : Call) : Prop where
  balances : ∀ address, (account.enter policy callouts system call).Balances initial
    (view.memory (system.call policy callouts call).system.machine) table address
  frees : (view.memory system.machine).FreesWithLastLock
    (view.memory (system.call policy callouts call).system.machine) table
    (call.unlockedFrame? (system.call policy callouts call))
  declines : ∀ parameters page, call.request = .ulkpg parameters page →
    system.registry.cpGate .ulkpg call.cpu = .passed →
    (Address.wrap page).toNat + 0xfff ≤
      ((view.memory system.machine).get (Address.wrap parameters) PageLock.storageSize).toNat →
    ((system.call policy callouts call).result = .ok .declined ↔
      (view.memory system.machine).lockCount table page = 0)

namespace System

/-- Along every run of locks and unlocks by a core table the count of each frame is the balance of
its locks, and its flag says whether there is one. -/
theorem locks_balance (view : StorageView callouts) {calls : List Call}
    (flagged : (view.memory system.machine).LocksFlagged table)
    (byTable : ∀ call ∈ calls, call.request.LocksBy table (view.memory system.machine))
    (fits : system.Throughout policy callouts (LockAccount.enter policy callouts)
      (fun account before call =>
        (before.call policy callouts call).Answered ∧
          ∀ address, (account.enter policy callouts before call).Fits
            (view.memory system.machine) table address) {} calls) :
    system.Throughout policy callouts (LockAccount.enter policy callouts)
      (LockAccount.Shows policy callouts view (view.memory system.machine) table) {} calls := by
  have step : ∀ (account : LockAccount) (before : System Machine), ∀ call ∈ calls,
      account.Holds (view.memory system.machine) (view.memory before.machine) table →
      ((before.call policy callouts call).Answered ∧
        ∀ address, (account.enter policy callouts before call).Fits (view.memory system.machine)
          table address) →
      LockAccount.Shows policy callouts view (view.memory system.machine) table account before
          call ∧
        (account.enter policy callouts before call).Holds (view.memory system.machine)
          (view.memory (before.call policy callouts call).system.machine) table := by
    intro account before call call_mem holds ⟨answered, fits⟩
    have byTable := byTable call call_mem
    obtain ⟨kept, frees⟩ := holds.ofCall view byTable answered fits
    refine ⟨⟨kept.balances, frees, fun parameters page isUnlock gate inStorage => ?_⟩, kept⟩
    exact unlock_declined_iff view isUnlock holds.flagged (holds.locksBy byTable) answered gate
      inStorage
  exact (throughout_of_invariant step (LockAccount.holds_initial flagged) fits).1

/-- A system with a core table at 20000. -/
def lockingSystem : System Memory where
  registry := Registry.initial true false
  cpu := Cpu.initial
  machine := (Memory.zero.store 0x1000 [0, 0x02, 0, 0]).store 0x1010 [0, 0x10, 0, 0, 0, 0x02, 0, 0]

/-- A call of the control program that has the address 5432 in general register 1. -/
def lockingCall (request : Request) : Call where
  cpu :=
    { Cpu.initial with
      general := (RegisterFile.zero.load 1 0x5432).load 14 0x400
      control := RegisterFile.zero.load 6 0x02000000 }
  request

/-- Two locks of the frame at 5000 and one of the next, and then one unlock too many. -/
def lockingCalls : List Call :=
  [.lckpg 0x1000 0x5000, .trlok 0x1000 0x800, .lckpg 0x1000 0x6000, .ulkpg 0x1010 0x5000,
    .ulkpg 0x1010 0x5000, .ulkpg 0x1010 0x5000].map lockingCall

/-- The core table is empty. -/
theorem lockingSystem_agreesOn :
    (Memory.storageView.memory lockingSystem.machine).AgreesOn Memory.zero
      (CoreTable.whole 0x20000) :=
  (Memory.store_agreesOn 0x1010 [0, 0x10, 0, 0, 0, 0x02, 0, 0] (by decide)).trans
    (Memory.store_agreesOn 0x1000 [0, 0x02, 0, 0] (by decide))

theorem lockingSystem_lockCount (address : UInt32) :
    (Memory.storageView.memory lockingSystem.machine).lockCount 0x20000 address = 0 :=
  (lockingSystem_agreesOn.mono (CoreTable.entryRegion_within 0x20000 address)).lockCount_eq.trans
    (Memory.zero_word _ _)

theorem lockingSystem_frameFlags (address : UInt32) :
    (Memory.storageView.memory lockingSystem.machine).frameFlags 0x20000 address = 0 :=
  (lockingSystem_agreesOn.mono (CoreTable.entryRegion_within 0x20000 address)).frameFlags_eq

/-- As long as there are not too many locks at all, no frame has too many. -/
theorem lockingSystem_fits (account : LockAccount) (few : account.taken.length < UInt32.size)
    (address : UInt32) :
    account.Fits (Memory.storageView.memory lockingSystem.machine) 0x20000 address := by
  have some := List.count_le_length (a := Address.frame address) (l := account.taken)
  rw [LockAccount.Fits, lockingSystem_lockCount, UInt32.toNat_zero]
  omega

/-- The run keeps the balance: three locks are taken and two returned, and the last unlock
declines. -/
theorem lockingSystem_balances :
    lockingSystem.Throughout .splitKeys Memory.callouts
        (LockAccount.enter .splitKeys Memory.callouts)
        (LockAccount.Shows .splitKeys Memory.callouts Memory.storageView
          (Memory.storageView.memory lockingSystem.machine) 0x20000) {} lockingCalls ∧
      (lockingSystem.account .splitKeys Memory.callouts
        (LockAccount.enter .splitKeys Memory.callouts) {} lockingCalls).taken =
          [0x6000, 0x5000, 0x5000] ∧
      (lockingSystem.account .splitKeys Memory.callouts
        (LockAccount.enter .splitKeys Memory.callouts) {} lockingCalls).returned =
          [0x5000, 0x5000] := by
  have flagged : (Memory.storageView.memory lockingSystem.machine).LocksFlagged 0x20000 := by
    intro address
    rw [lockingSystem_lockCount, lockingSystem_frameFlags]
    decide
  have byTable : ∀ call ∈ lockingCalls,
      call.request.LocksBy 0x20000 (Memory.storageView.memory lockingSystem.machine) := by
    simp only [lockingCalls, List.map_cons, List.map_nil, lockingCall, List.forall_mem_cons,
      List.not_mem_nil, false_implies, implies_true, and_true, Request.LocksBy]
    decide +kernel
  have few : lockingSystem.Throughout .splitKeys Memory.callouts
      (LockAccount.enter .splitKeys Memory.callouts)
      (fun account before call =>
        (before.call .splitKeys Memory.callouts call).Answered ∧
          (account.enter .splitKeys Memory.callouts before call).taken.length < UInt32.size)
      {} lockingCalls := by
    decide +kernel
  refine ⟨locks_balance Memory.storageView flagged byTable ?_, ?_, ?_⟩
  · exact few.mono fun account before call _ holds => ⟨holds.1, lockingSystem_fits _ holds.2⟩
  · decide +kernel
  · decide +kernel

end System

end Calls

end Assist370
