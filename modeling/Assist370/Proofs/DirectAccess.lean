import Assist370.Proofs.Completion
import Assist370.Proofs.PlainMachine

/-!
# Staged access and direct access

Whatever a program fetches and stores in turn, it is answered as if every store had gone straight to
storage, byte by byte, and its completion leaves what direct access would have left
(`Access.staged_eq_direct`). Both are compared with accesses to a memory, where an access is one
equation (`Access.onMemory`).
-/

namespace Assist370

variable {Machine Refusal : Type}

/-- The machine refuses no fetch and no store, whatever callouts have been made before. -/
def Callouts.Grants (callouts : Callouts Machine Refusal) (start : Machine) : Prop :=
  ∀ machine, callouts.Reaches Callout.InSpace start machine →
    (∀ (address : UInt32) (length : Nat), address.toNat + length ≤ Address.space →
      ∃ bytes, (callouts.readReal address length machine).1 = .ok bytes) ∧
    ∀ (address : UInt32) (bytes : List UInt8), address.toNat + bytes.length ≤ Address.space →
      (callouts.writeReal address bytes machine).1 = .ok ()

namespace Callouts.Grants

variable {callouts : Callouts Machine Refusal} {start : Machine}

theorem later (grants : callouts.Grants start) {machine : Machine}
    (reached : callouts.Reaches Callout.InSpace start machine) : callouts.Grants machine :=
  fun _ further => grants _ (reached.trans further)

theorem looked (grants : callouts.Grants start) {machine : Machine}
    (looked : callouts.Reaches Callout.Looks start machine) : callouts.Grants machine :=
  grants.later (looked.mono fun _ => Callout.Looks.inSpace)

theorem fetchRun (grants : callouts.Grants start) (journal : Journal) {address : UInt32}
    {length : Nat} (inSpace : address.toNat + length ≤ Address.space) :
    ∃ bytes, (journal.fetchRun callouts address length start).1 = .ok bytes := by
  obtain ⟨bytes, answered⟩ := (grants start .refl).1 address length inSpace
  simp only [Journal.fetchRun]
  generalize callouts.readReal address length start = result at answered
  rcases result with ⟨_ | _, _⟩
  · simp at answered
  · exact ⟨_, rfl⟩

theorem fetch (grants : callouts.Grants start) (journal : Journal) (address : UInt32)
    (length : Nat) : ∃ bytes, (journal.fetch callouts address length start).1 = .ok bytes := by
  fun_induction Journal.fetch callouts journal address length start with
  | case1 address length before first room fits =>
      have first_lt : first.toNat < Address.space := Address.wrap_lt address
      exact grants.fetchRun journal (by omega)
  | case2 address length before first room beyond first_lt shorter error middle fetched =>
      have granted := grants.fetchRun journal
        (show first.toNat + room ≤ Address.space by omega)
      simp [fetched] at granted
  | case3 address length before first room beyond first_lt shorter low middle fetched error after
      failed ih =>
      have looked := journal.fetchRun_looks callouts before
        (show first.toNat + room ≤ Address.space by omega)
      rw [fetched] at looked
      simpa [failed] using ih (grants.looked looked)
  | case4 => exact ⟨_, rfl⟩

theorem probeAll (grants : callouts.Grants start) {runs : List Journal.Run}
    (inSpace : ∀ run ∈ runs, run.InSpace) :
    (Journal.Run.probeAll callouts runs start).1 = .ok () := by
  induction runs generalizing start with
  | nil => rfl
  | cons run runs ih =>
      have first : run.start.toNat + run.bytes.length ≤ Address.space := inSpace run (by simp)
      have looked : callouts.Reaches Callout.Looks start
          (callouts.readReal run.start run.bytes.length start).2 :=
        Callouts.Reaches.refl.step (.readReal _ _) first
      obtain ⟨bytes, answered⟩ := (grants start .refl).1 run.start run.bytes.length first
      simp only [Journal.Run.probeAll]
      generalize callouts.readReal run.start run.bytes.length start = result at answered looked
      rcases result with ⟨_ | _, middle⟩
      · simp at answered
      · exact ih (grants.looked looked) fun other other_mem => inSpace other (by simp [other_mem])

theorem writeAll (grants : callouts.Grants start) {runs : List Journal.Run}
    (inSpace : ∀ run ∈ runs, run.InSpace) :
    (Journal.Run.writeAll callouts runs start).1 = .ok () := by
  induction runs generalizing start with
  | nil => rfl
  | cons run runs ih =>
      have first : run.start.toNat + run.bytes.length ≤ Address.space := inSpace run (by simp)
      have reached : callouts.Reaches Callout.InSpace start
          (callouts.writeReal run.start run.bytes start).2 :=
        Callouts.Reaches.refl.step (.writeReal _ _) first
      have answered := (grants start .refl).2 run.start run.bytes first
      simp only [Journal.Run.writeAll]
      generalize callouts.writeReal run.start run.bytes start = result at answered reached
      rcases result with ⟨_ | _, middle⟩
      · simp at answered
      · exact ih (grants.later reached) fun other other_mem => inSpace other (by simp [other_mem])

theorem commit {staging : Staging Machine} (grants : callouts.Grants staging.machine)
    (inSpace : staging.journal.InSpace) :
    (staging.commit callouts).1 = .ok staging.committedCpu := by
  have runs_inSpace := Journal.inSpace_of_mem_runs inSpace
  have looked := Journal.Run.probeAll_looks callouts runs_inSpace staging.machine
  have probed := grants.probeAll runs_inSpace
  simp only [Staging.commit]
  generalize Journal.Run.probeAll callouts staging.journal.runs staging.machine = result
    at looked probed
  rcases result with ⟨_ | _, middle⟩
  · simp at probed
  · have written := (grants.looked looked).writeAll runs_inSpace
    dsimp only
    generalize Journal.Run.writeAll callouts staging.journal.runs middle = result at written
    rcases result with ⟨_ | _, after⟩
    · simp at written
    · rfl

end Callouts.Grants

/-- An access to storage. -/
inductive Access where
  | fetch (address : UInt32) (length : Nat)
  | store (address : UInt32) (bytes : List UInt8)
  deriving DecidableEq, Repr

/-- The bytes from an address on are the byte there and those behind it. -/
theorem Memory.toList_bytes_succ (memory : Memory) (address : UInt32) (length : Nat) :
    (memory.bytes address (length + 1)).toList =
      memory.byte address :: (memory.bytes (address + 1) length).toList := by
  apply List.ext_getElem
  · simp
  · intro index index_lt _
    cases index with
    | zero => simp [bytes]
    | succ index =>
        have successor : address + (UInt32.ofNat index + 1) = address + 1 + UInt32.ofNat index := by
          grind
        simp [bytes, successor]

namespace Access

/-- The addresses that the access stores to. -/
def StoresTo : Access → UInt32 → Prop
  | fetch _ _, _ => False
  | store address bytes, place => Region.Contains ⟨address, bytes.length⟩ place

instance (access : Access) (place : UInt32) : Decidable (access.StoresTo place) :=
  match access with
  | fetch _ _ => inferInstanceAs (Decidable False)
  | store address bytes =>
      inferInstanceAs (Decidable (Region.Contains ⟨address, bytes.length⟩ place))

/-- The program that makes accesses one after the other and ends with what they have fetched. -/
def program : List Access → Microcode (List (List UInt8))
  | [] => pure []
  | fetch address length :: rest => do
      let bytes ← Microcode.perform (.fetch address length)
      return bytes.toList :: (← program rest)
  | store address bytes :: rest => do
      Microcode.perform (.store address bytes)
      program rest

/-- What the accesses fetch from a memory, and the memory that they leave. -/
def onMemory : List Access → Memory → List (List UInt8) × Memory
  | [], memory => ([], memory)
  | fetch address length :: rest, memory =>
      let (fetched, after) := onMemory rest memory
      ((memory.bytes address length).toList :: fetched, after)
  | store address bytes :: rest, memory => onMemory rest (memory.store address bytes)

section

variable (callouts : Callouts Machine Refusal)

/-- Fetches bytes one by one. -/
def fetchEach : UInt32 → Nat → Machine → Except (AccessError Refusal) (List UInt8) × Machine
  | _, 0, machine => (.ok [], machine)
  | address, length + 1, machine =>
      match callouts.readReal (Address.wrap address) 1 machine with
      | (.error refusal, machine) =>
          (.error (.storage (Address.wrap address) .read refusal), machine)
      | (.ok byte, machine) =>
          match fetchEach (address + 1) length machine with
          | (.error error, machine) => (.error error, machine)
          | (.ok bytes, machine) => (.ok (byte[0] :: bytes), machine)

/-- Stores bytes one by one. -/
def storeEach : UInt32 → List UInt8 → Machine → Except (AccessError Refusal) Unit × Machine
  | _, [], machine => (.ok (), machine)
  | address, byte :: bytes, machine =>
      match callouts.writeReal (Address.wrap address) [byte] machine with
      | (.error refusal, machine) =>
          (.error (.storage (Address.wrap address) .write refusal), machine)
      | (.ok _, machine) => storeEach (address + 1) bytes machine

/-- Makes accesses one after the other, straight to storage, and ends with what they have
fetched. -/
def direct : List Access → Machine →
    Except (AccessError Refusal) (List (List UInt8)) × Machine
  | [], machine => (.ok [], machine)
  | fetch address length :: rest, machine =>
      match fetchEach callouts address length machine with
      | (.error error, machine) => (.error error, machine)
      | (.ok bytes, machine) =>
          match direct rest machine with
          | (.error error, machine) => (.error error, machine)
          | (.ok fetched, machine) => (.ok (bytes :: fetched), machine)
  | store address bytes :: rest, machine =>
      match storeEach callouts address bytes machine with
      | (.error error, machine) => (.error error, machine)
      | (.ok _, machine) => direct rest machine

end

/-- What no access stores to is kept. -/
theorem onMemory_byte {accesses : List Access} {place : UInt32}
    (outside : ∀ access ∈ accesses, ¬access.StoresTo place) (memory : Memory) :
    (onMemory accesses memory).2.byte place = memory.byte place := by
  induction accesses generalizing memory with
  | nil => rfl
  | cons access rest ih =>
      have first := outside access (by simp)
      have later := ih fun other other_mem => outside other (by simp [other_mem])
      cases access with
      | fetch address length => exact later memory
      | store address bytes =>
          exact (later _).trans (memory.byte_store_of_not_contains address bytes first)

section

variable {callouts : Callouts Machine Refusal} (view : StorageView callouts)

/-- A program that makes accesses is answered as a memory is that is the storage seen. -/
theorem run_program (accesses : List Access) {staging : Staging Machine}
    (grants : callouts.Grants staging.machine) :
    ∃ after, (program accesses).run callouts staging =
        (.done (onMemory accesses (view.seen staging)).1, after) ∧
      view.seen after = (onMemory accesses (view.seen staging)).2 ∧
      after.committedCpu = staging.committedCpu := by
  induction accesses generalizing staging with
  | nil => exact ⟨staging, rfl, rfl, rfl⟩
  | cons access rest ih =>
      cases access with
      | fetch address length =>
          obtain ⟨bytes, fetched⟩ := grants.fetch staging.journal address length
          have isSeen := view.fetch_ok staging.journal address length staging.machine bytes fetched
          have looked := staging.journal.fetch_looks callouts address length staging.machine
          obtain ⟨after, ran, seen, cpu⟩ := @ih { staging with
              machine := (staging.journal.fetch callouts address length staging.machine).2 }
            (grants.looked looked)
          have sameSeen : view.seen { staging with
              machine := (staging.journal.fetch callouts address length staging.machine).2 } =
              view.seen staging := by
            simp only [StorageView.seen, view.memory_of_looks looked]
          rw [sameSeen] at ran seen
          refine ⟨after, ?_, seen, cpu⟩
          have answered : Action.run callouts (.fetch address length) staging =
              (.ok ((view.seen staging).bytes address length),
                { staging with
                  machine := (staging.journal.fetch callouts address length
                    staging.machine).2 }) := by
            simp only [Action.run, fetched, isSeen, StorageView.seen]
          simp only [program, Microcode.bind_eq_bind, Microcode.run_bind, Microcode.perform,
            Microcode.run, answered, ran, Microcode.pure_eq_done, onMemory]
      | store address bytes =>
          obtain ⟨after, ran, seen, cpu⟩ :=
            @ih { staging with journal := staging.journal.store address bytes } grants
          have stored : view.seen { staging with journal := staging.journal.store address bytes } =
              (view.seen staging).store address bytes :=
            Journal.onto_store _ _ _ _
          rw [stored] at ran seen
          exact ⟨after, ran, seen, cpu⟩

theorem fetchEach_eq (address : UInt32) (length : Nat) {machine : Machine}
    (grants : callouts.Grants machine) :
    ∃ after, fetchEach callouts address length machine =
        (.ok ((view.memory machine).bytes address length).toList, after) ∧
      callouts.Reaches Callout.Looks machine after := by
  induction length generalizing address machine with
  | zero => exact ⟨machine, rfl, .refl⟩
  | succ length ih =>
      have inSpace : (Address.wrap address).toNat + 1 ≤ Address.space := Address.wrap_lt address
      have looked : callouts.Reaches Callout.Looks machine
          (callouts.readReal (Address.wrap address) 1 machine).2 :=
        Callouts.Reaches.refl.step (.readReal (Address.wrap address) 1) inSpace
      obtain ⟨byte, answered⟩ := (grants machine .refl).1 (Address.wrap address) 1 inSpace
      have isStored := view.readReal (Address.wrap address) 1 machine byte inSpace answered
      obtain ⟨after, fetched, further⟩ := ih (address + 1) (grants.looked looked)
      rw [view.memory_of_looks looked] at fetched
      refine ⟨after, ?_, looked.trans further⟩
      generalize readAnswer : callouts.readReal (Address.wrap address) 1 machine = result
        at answered fetched
      obtain ⟨_, middle⟩ := result
      obtain rfl := answered
      have first : byte[0] = (view.memory machine).byte address := by
        simp [isStored, Memory.bytes, Memory.byte]
      simp only [fetchEach, readAnswer, fetched, first, Memory.toList_bytes_succ]

theorem storeEach_eq (address : UInt32) (bytes : List UInt8) {machine : Machine}
    (grants : callouts.Grants machine) :
    ∃ after, storeEach callouts address bytes machine = (.ok (), after) ∧
      callouts.Reaches Callout.InSpace machine after ∧
      view.memory after = (view.memory machine).store address bytes := by
  induction bytes generalizing address machine with
  | nil => exact ⟨machine, rfl, .refl, rfl⟩
  | cons byte bytes ih =>
      have inSpace : (Address.wrap address).toNat + [byte].length ≤ Address.space :=
        Address.wrap_lt address
      have reached : callouts.Reaches Callout.InSpace machine
          (callouts.writeReal (Address.wrap address) [byte] machine).2 :=
        Callouts.Reaches.refl.step (.writeReal (Address.wrap address) [byte]) inSpace
      have answered := (grants machine .refl).2 (Address.wrap address) [byte] inSpace
      have isStored := view.writeReal (Address.wrap address) [byte] machine inSpace answered
      obtain ⟨after, stored, further, memory⟩ := ih (address + 1) (grants.later reached)
      rw [isStored] at memory
      refine ⟨after, ?_, reached.trans further, ?_⟩
      · simp only [storeEach]
        generalize callouts.writeReal (Address.wrap address) [byte] machine = result
          at answered stored
        obtain ⟨_, middle⟩ := result
        obtain rfl := answered
        exact stored
      · have single : (view.memory machine).store (Address.wrap address) [byte] =
            (view.memory machine).set address byte := by
          funext place
          simp only [Memory.store, Memory.set, Address.wrap_wrap]
        rw [memory, single, Memory.store]

/-- Direct accesses are answered as a memory is that is the storage, and leave what it leaves. -/
theorem direct_eq (accesses : List Access) {machine : Machine}
    (grants : callouts.Grants machine) :
    ∃ after, direct callouts accesses machine =
        (.ok (onMemory accesses (view.memory machine)).1, after) ∧
      view.memory after = (onMemory accesses (view.memory machine)).2 := by
  induction accesses generalizing machine with
  | nil => exact ⟨machine, rfl, rfl⟩
  | cons access rest ih =>
      cases access with
      | fetch address length =>
          obtain ⟨middle, fetched, looked⟩ := fetchEach_eq view address length grants
          obtain ⟨after, isDirect, memory⟩ := ih (grants.looked looked)
          rw [view.memory_of_looks looked] at isDirect memory
          exact ⟨after, by simp only [direct, fetched, isDirect, onMemory], memory⟩
      | store address bytes =>
          obtain ⟨middle, stored, reached, isStored⟩ := storeEach_eq view address bytes grants
          obtain ⟨after, isDirect, memory⟩ := ih (grants.later reached)
          rw [isStored] at isDirect memory
          exact ⟨after, by simp only [direct, stored, isDirect, onMemory], memory⟩

/-- Whatever a program fetches and stores in turn, on a machine that refuses nothing it is answered
as if its stores had gone straight to storage, and its completion leaves the storage that direct
accesses leave, where no byte has changed that was not stored to. -/
theorem staged_eq_direct (accesses : List Access) {machine : Machine} (cpu : Cpu)
    (grants : callouts.Grants machine) :
    ∃ answers staging directly committed,
      direct callouts accesses machine = (.ok answers, directly) ∧
      (program accesses).run callouts { machine, cpu } = (.done answers, staging) ∧
      staging.commit callouts = (.ok cpu, committed) ∧
      view.memory committed = view.memory directly ∧
      ∀ place, (∀ access ∈ accesses, ¬access.StoresTo place) →
        (view.memory committed).byte place = (view.memory machine).byte place := by
  obtain ⟨directly, isDirect, directMemory⟩ := direct_eq view accesses grants
  let start : Staging Machine := { machine, cpu }
  have granted : callouts.Grants start.machine := grants
  have empty : start.journal.InSpace := Journal.inSpace_empty
  obtain ⟨staging, ran, seen, committedCpu⟩ := run_program view accesses granted
  have sameSeen : view.seen start = view.memory machine := Journal.onto_empty _
  have looked := (program accesses).run_looks callouts start
  have inSpace := (program accesses).run_inSpace callouts empty
  rw [ran] at looked inSpace
  have committed := (grants.looked looked).commit inSpace
  obtain ⟨-, memory⟩ := view.commit_ok inSpace committed
  rw [seen, sameSeen] at memory
  rw [sameSeen] at ran
  refine ⟨_, staging, directly, (staging.commit callouts).2, isDirect, ran, ?_, ?_, ?_⟩
  · rw [committedCpu] at committed
    exact Prod.ext committed rfl
  · rw [memory, directMemory]
  · intro place outside
    rw [memory]
    exact onMemory_byte outside _

end

/-- Accesses that overlap, in front of the end of the address space and behind it. -/
def overlapping : List Access :=
  [.store 0xfffffe [1, 2, 3, 4], .fetch 0xffffff 3, .store 0 [5], .fetch 0xfffffe 4]

theorem grants_plain (memory : Memory) : Memory.callouts.Grants memory :=
  fun _ _ => ⟨fun _ _ _ => ⟨_, rfl⟩, fun _ _ _ => rfl⟩

theorem overlapping_staged :
    ∃ staging committed,
      (program overlapping).run Memory.callouts { machine := Memory.zero, cpu := .initial } =
        (.done [[2, 3, 4], [1, 2, 5, 4]], staging) ∧
      staging.commit Memory.callouts = (.ok .initial, committed) ∧
      committed = (direct Memory.callouts overlapping Memory.zero).2 ∧
      committed.byte 0x1000 = 0 := by
  obtain ⟨answers, staging, directly, committed, isDirect, ran, isCommitted, same, kept⟩ :=
    staged_eq_direct Memory.storageView overlapping .initial (grants_plain Memory.zero)
  have fetched : (direct Memory.callouts overlapping Memory.zero).1.toOption =
      some [[2, 3, 4], [1, 2, 5, 4]] := by
    decide +kernel
  rw [isDirect, Except.toOption, Option.some.injEq] at fetched
  subst fetched
  refine ⟨staging, committed, ran, isCommitted, ?_, kept 0x1000 (by decide +kernel)⟩
  rw [isDirect]
  exact same

end Access

end Assist370
