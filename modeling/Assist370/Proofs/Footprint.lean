import Assist370.Execution
import Assist370.Microcode.Logical

/-!
# Actions that a program takes

A program that takes actions of a kind only, whatever it is answered, keeps what no action of that
kind changes (`Microcode.Takes.keeps`). The actions of a compound program are those of its parts,
so that they are found by rewriting.
-/

namespace Assist370

/-- The action only looks at the machine and the registers. -/
@[simp]
def Action.OnlyLooks : Action → Prop
  | fetch _ _ | storageKey _ | translate _ | registers => True
  | _ => False

/-- The registers after are those before, but for general, floating-point and control registers and
the PSW. -/
structure Cpu.SameTimers (before after : Cpu) : Prop where
  cpuTimer : after.cpuTimer = before.cpuTimer
  timerPending : after.timerPending = before.timerPending
  sieActive : after.sieActive = before.sieActive
  virtualTimerPending : after.virtualTimerPending = before.virtualTimerPending
  virtualTimerAddress : after.virtualTimerAddress = before.virtualTimerAddress

/-- The registers after are those before, but for general and floating-point registers and the
PSW. -/
structure Cpu.SameSystem (before after : Cpu) : Prop extends before.SameTimers after where
  control : after.control = before.control

namespace Microcode

variable {α β : Type} {allowed : Action → Prop}

/-- All actions that only look at the machine and the registers are allowed. -/
structure AllowsLooks (allowed : Action → Prop) : Prop where
  fetch : ∀ address length, allowed (.fetch address length)
  storageKey : ∀ address, allowed (.storageKey address)
  translate : ∀ address, allowed (.translate address)
  registers : allowed .registers

@[simp]
theorem onlyLooks_allowsLooks : AllowsLooks Action.OnlyLooks :=
  ⟨fun _ _ => trivial, fun _ => trivial, fun _ => trivial, trivial⟩

/-- All stores are allowed. -/
def AllowsStores (allowed : Action → Prop) : Prop :=
  ∀ address bytes, allowed (.store address bytes)

/-- Fetches, events and changes of registers that keep the control registers and the timers are
allowed. -/
structure AllowsRoutine (allowed : Action → Prop) : Prop where
  fetch : ∀ address length, allowed (.fetch address length)
  log : ∀ event, allowed (.log event)
  modify : ∀ change : Cpu → Cpu,
    (∀ cpu : Cpu, cpu.SameSystem (change cpu)) → allowed (.modify change)

/-- All changes of registers that keep the timers are allowed. -/
def AllowsControls (allowed : Action → Prop) : Prop :=
  ∀ change : Cpu → Cpu, (∀ cpu : Cpu, cpu.SameTimers (change cpu)) → allowed (.modify change)

/-- The program takes allowed actions only, whatever it is answered. -/
def Takes (allowed : Action → Prop) : Microcode α → Prop
  | done _ => True
  | decline _ => True
  | act action next => allowed action ∧ ∀ answer, (next answer).Takes allowed

/-- There are answers that lead the program to a result. -/
def Yields : Microcode α → α → Prop
  | done value, result => value = result
  | decline _, _ => False
  | act _ next, result => ∃ answer, (next answer).Yields result

theorem takes_of_forall (program : Microcode α) (all : ∀ action, allowed action) :
    program.Takes allowed := by
  induction program with
  | done value => trivial
  | decline reason => trivial
  | act action next ih => exact ⟨all action, ih⟩

theorem Takes.mono {wider : Action → Prop} {program : Microcode α} (takes : program.Takes allowed)
    (implies : ∀ action, allowed action → wider action) : program.Takes wider := by
  induction program with
  | done value => trivial
  | decline reason => trivial
  | act action next ih => exact ⟨implies action takes.1, fun answer => ih answer (takes.2 answer)⟩

@[simp]
theorem takes_pure (value : α) : (pure value : Microcode α).Takes allowed :=
  trivial

@[simp]
theorem takes_decline (reason : Decline) : (decline reason : Microcode α).Takes allowed :=
  trivial

@[simp]
theorem takes_act (action : Action) (next : action.Answer → Microcode α) :
    (act action next).Takes allowed ↔
      allowed action ∧ ∀ answer, (next answer).Takes allowed :=
  Iff.rfl

@[simp]
theorem takes_done (value : α) : (done value).Takes allowed :=
  trivial

@[simp]
theorem takes_bind (program : Microcode α) (next : α → Microcode β) :
    (program >>= next).Takes allowed ↔
      program.Takes allowed ∧ ∀ value, program.Yields value → (next value).Takes allowed := by
  rw [bind_eq_bind]
  induction program with
  | done value => simp [Microcode.bind, Takes, Yields]
  | decline reason => simp [Microcode.bind, Takes, Yields]
  | act action answer ih =>
      simp only [Microcode.bind, Takes, Yields, ih]
      constructor
      · rintro ⟨isAllowed, rest⟩
        refine ⟨⟨isAllowed, fun value => (rest value).1⟩, fun result yields => ?_⟩
        obtain ⟨value, yields⟩ := yields
        exact (rest value).2 result yields
      · rintro ⟨⟨isAllowed, first⟩, rest⟩
        exact ⟨isAllowed, fun value =>
          ⟨first value, fun result yields => rest result ⟨value, yields⟩⟩⟩

theorem yields_pure {value result : α} :
    (pure value : Microcode α).Yields result ↔ value = result :=
  Iff.rfl

theorem yields_act (action : Action) (next : action.Answer → Microcode α) {result : α} :
    (act action next).Yields result ↔ ∃ answer, (next answer).Yields result :=
  Iff.rfl

theorem yields_bind {program : Microcode β} {next : β → Microcode α} {result : α} :
    (program >>= next).Yields result ↔
      ∃ value, program.Yields value ∧ (next value).Yields result := by
  rw [bind_eq_bind]
  induction program with
  | done value => simp [Microcode.bind, Yields]
  | decline reason => simp [Microcode.bind, Yields]
  | act action answer ih =>
      simp only [Microcode.bind, Yields, ih]
      constructor
      · rintro ⟨answer, value, yields, rest⟩
        exact ⟨value, ⟨answer, yields⟩, rest⟩
      · rintro ⟨value, ⟨answer, yields⟩, rest⟩
        exact ⟨answer, value, yields, rest⟩

@[simp]
theorem takes_map (change : α → β) (program : Microcode α) :
    (change <$> program).Takes allowed ↔ program.Takes allowed := by
  rw [← bind_pure_comp, takes_bind]
  simp only [takes_pure, implies_true, and_true]

@[simp]
theorem takes_attempt (program : Microcode α) :
    program.attempt.Takes allowed ↔ program.Takes allowed := by
  induction program with
  | done value => exact Iff.rfl
  | decline reason => exact Iff.rfl
  | act action next ih => simp only [attempt, Takes, ih]

@[simp]
theorem takes_ite (condition : Prop) [Decidable condition] (yes no : Microcode α) :
    (if condition then yes else no).Takes allowed ↔
      (condition → yes.Takes allowed) ∧ (¬condition → no.Takes allowed) := by
  split <;> simp_all

@[simp]
theorem takes_require (check : Bool) (reason : Decline) :
    (require check reason).Takes allowed := by
  unfold require
  split <;> trivial

section Primitives

variable [Stored α]

@[simp]
theorem takes_fetch (block : UInt32) (field : Field α) :
    (fetch block field).Takes allowed ↔
      allowed (.fetch (block + field.offset) (Stored.size α)) := by
  simp [fetch, perform]

@[simp]
theorem takes_fetchAddress (block : UInt32) (field : Field UInt32) :
    (fetchAddress block field).Takes allowed ↔ allowed (.fetch (block + field.offset) 4) := by
  simp [fetchAddress, Stored.size]

@[simp]
theorem takes_testBits (block : UInt32) (field : Field UInt8) (bits : UInt8) :
    (testBits block field bits).Takes allowed ↔ allowed (.fetch (block + field.offset) 1) := by
  simp [testBits, Stored.size]

@[simp]
theorem takes_store (block : UInt32) (field : Field α) (value : α) :
    (store block field value).Takes allowed ↔
      allowed (.store (block + field.offset) (Stored.encode value).toList) := by
  simp [store, perform]

@[simp]
theorem takes_registers : registers.Takes allowed ↔ allowed .registers := by
  simp [registers, perform]

@[simp]
theorem takes_modify (change : Cpu → Cpu) :
    (modify change).Takes allowed ↔ allowed (.modify change) := by
  simp [modify, perform]

@[simp]
theorem takes_general (register : RegisterNumber) :
    (general register).Takes allowed ↔ allowed .registers := by
  simp [general]

@[simp]
theorem takes_setTimer (value : Int64) :
    (setTimer value).Takes allowed ↔ allowed (.setTimer value) := by
  simp [setTimer, perform]

@[simp]
theorem takes_purgeTlb : purgeTlb.Takes allowed ↔ allowed .purgeTlb := by
  simp [purgeTlb, perform]

@[simp]
theorem takes_handOff (register : RegisterNumber) (value : UInt32) :
    (handOff register value).Takes allowed ↔ allowed (.handOff register value) := by
  simp [handOff, perform]

@[simp]
theorem takes_log (event : Event) : (log event).Takes allowed ↔ allowed (.log event) := by
  simp [log, perform]

end Primitives

section Loops

@[simp]
theorem takes_clearBits (stores : AllowsStores allowed) (block : UInt32) (field : Field UInt8)
    (bits : UInt8) :
    (clearBits block field bits).Takes allowed ↔ allowed (.fetch (block + field.offset) 1) := by
  simp [clearBits, stores _ _, Stored.size]

/-- A row of fetches is allowed where fetches are. -/
theorem takes_fetchRow_of_fetches [Stored α]
    (fetches : ∀ address length, allowed (.fetch address length)) (block : UInt32)
    (field : Field α) (count : Nat) : (fetchRow block field count).Takes allowed := by
  induction count with
  | zero => simp [fetchRow]
  | succ count ih => simpa [fetchRow, fetches] using ih

@[simp]
theorem takes_fetchRow [Stored α] (looks : AllowsLooks allowed) (block : UInt32)
    (field : Field α) (count : Nat) : (fetchRow block field count).Takes allowed :=
  takes_fetchRow_of_fetches looks.fetch block field count

@[simp]
theorem takes_storeRow [Stored α] (stores : AllowsStores allowed) (block : UInt32)
    (field : Field α) (values : List α) : (storeRow block field values).Takes allowed := by
  induction values generalizing field with
  | nil => simp [storeRow]
  | cons value values ih => simp [storeRow, stores _ _, ih]

theorem takes_realAddress (looksAtRegisters : allowed .registers)
    (translates : ∀ address, allowed (.translate address)) (address : UInt32) :
    (realAddress address).Takes allowed := by
  simp only [realAddress, loadRealAddress, perform, takes_bind, takes_registers, takes_ite,
    takes_act, takes_done, takes_pure]
  refine ⟨looksAtRegisters, fun cpu _ => ⟨fun _ => ⟨⟨translates _, by simp⟩, ?_⟩, by simp⟩⟩
  intro answer _
  cases answer <;> simp

theorem takes_resolve (looks : AllowsLooks allowed) (admits : StorageKey → Bool)
    (pieces : List Piece) : (resolve admits pieces).Takes allowed := by
  induction pieces with
  | nil => simp [resolve]
  | cons piece pieces ih =>
      simp [resolve, perform, takes_realAddress looks.registers looks.translate, looks.storageKey,
        ih]

theorem takes_fetchPieces (fetches : ∀ address length, allowed (.fetch address length))
    (pieces : List Piece) : (fetchPieces pieces).Takes allowed := by
  induction pieces with
  | nil => simp [fetchPieces]
  | cons piece pieces ih => simp [fetchPieces, perform, fetches, ih]

theorem takes_storePieces (stores : AllowsStores allowed) (pieces : List Piece)
    (bytes : List UInt8) : (storePieces pieces bytes).Takes allowed := by
  induction pieces generalizing bytes with
  | nil => simp [storePieces]
  | cons piece pieces ih => simp [storePieces, perform, stores _ _, ih]

@[simp]
theorem takes_fetchLogical [Stored α] (looks : AllowsLooks allowed) (policy : Policy)
    (address : UInt32) (protection : BitVec 4) :
    (fetchLogical policy address protection : Microcode α).Takes allowed := by
  simp [fetchLogical, fetchLogicalBytes, takes_resolve looks, takes_fetchPieces looks.fetch]

@[simp]
theorem takes_storeLogical [Stored α] (looks : AllowsLooks allowed)
    (stores : AllowsStores allowed) (policy : Policy) (address : UInt32) (value : α)
    (protection : BitVec 4) :
    (storeLogical policy address value protection).Takes allowed := by
  simp [storeLogical, storeLogicalBytes, takes_resolve looks, takes_storePieces stores]

end Loops

section Routine

variable (routine : AllowsRoutine allowed)

include routine

@[simp]
theorem takes_branch (address : UInt32) : (branch address).Takes allowed := by
  rw [branch, takes_modify]
  exact routine.modify _ fun cpu => ⟨⟨rfl, rfl, rfl, rfl, rfl⟩, rfl⟩

@[simp]
theorem takes_setConditionCode (code : UInt8) : (setConditionCode code).Takes allowed := by
  rw [setConditionCode, takes_modify]
  exact routine.modify _ fun cpu => ⟨⟨rfl, rfl, rfl, rfl, rfl⟩, rfl⟩

@[simp]
theorem takes_setGeneral (register : RegisterNumber) (value : UInt32) :
    (setGeneral register value).Takes allowed := by
  rw [setGeneral, takes_modify]
  exact routine.modify _ fun cpu => ⟨⟨rfl, rfl, rfl, rfl, rfl⟩, rfl⟩

@[simp]
theorem takes_returnToCaller : returnToCaller.Takes allowed ↔ allowed .registers := by
  simp [returnToCaller, routine]

end Routine

/-- A program that takes actions of a kind keeps what no action of the kind changes. -/
theorem Takes.keeps {Machine Refusal View : Type} {callouts : Callouts Machine Refusal}
    {program : Microcode α} (takes : program.Takes allowed) (view : Staging Machine → View)
    (kept : ∀ action staging, allowed action →
      view (action.run callouts staging).2 = view staging)
    (staging : Staging Machine) : view (program.run callouts staging).2 = view staging := by
  induction program generalizing staging with
  | done value => rfl
  | decline reason => rfl
  | act action next ih =>
      have first := kept action staging takes.1
      simp only [run]
      split
      · rename_i answer middle ran
        rw [ran] at first
        exact (ih answer (takes.2 answer) middle).trans first
      · rename_i error middle ran
        rw [ran] at first
        exact first

/-- The program declines nowhere, whatever it is answered. -/
def NeverDeclines : Microcode α → Prop
  | done _ => True
  | decline _ => False
  | act _ next => ∀ answer, (next answer).NeverDeclines

@[simp]
theorem neverDeclines_pure (value : α) : (pure value : Microcode α).NeverDeclines :=
  trivial

@[simp]
theorem neverDeclines_done (value : α) : (done value).NeverDeclines :=
  trivial

@[simp]
theorem neverDeclines_act (action : Action) (next : action.Answer → Microcode α) :
    (act action next).NeverDeclines ↔ ∀ answer, (next answer).NeverDeclines :=
  Iff.rfl

@[simp]
theorem neverDeclines_bind (program : Microcode α) (next : α → Microcode β) :
    (program >>= next).NeverDeclines ↔
      program.NeverDeclines ∧ ∀ value, program.Yields value → (next value).NeverDeclines := by
  rw [bind_eq_bind]
  induction program with
  | done value => simp [Microcode.bind, NeverDeclines, ← pure_eq_done, yields_pure]
  | decline reason => simp [Microcode.bind, NeverDeclines]
  | act action answer ih =>
      simp only [Microcode.bind, NeverDeclines, ih, yields_act]
      constructor
      · intro never
        refine ⟨fun given => (never given).1, ?_⟩
        rintro value ⟨given, yields⟩
        exact (never given).2 value yields
      · rintro ⟨first, rest⟩ given
        exact ⟨first given, fun value yields => rest value ⟨given, yields⟩⟩

@[simp]
theorem neverDeclines_ite (condition : Prop) [Decidable condition] (yes no : Microcode α) :
    (if condition then yes else no).NeverDeclines ↔
      (condition → yes.NeverDeclines) ∧ (¬condition → no.NeverDeclines) := by
  split <;> simp_all

@[simp]
theorem neverDeclines_map (change : α → β) (program : Microcode α) :
    (change <$> program).NeverDeclines ↔ program.NeverDeclines := by
  simp [← bind_pure_comp]

section NeverDeclines

variable [Stored α]

@[simp]
theorem neverDeclines_fetch (block : UInt32) (field : Field α) :
    (fetch block field).NeverDeclines := by
  simp [fetch, perform]

@[simp]
theorem neverDeclines_fetchAddress (block : UInt32) (field : Field UInt32) :
    (fetchAddress block field).NeverDeclines := by
  simp [fetchAddress]

@[simp]
theorem neverDeclines_testBits (block : UInt32) (field : Field UInt8) (bits : UInt8) :
    (testBits block field bits).NeverDeclines := by
  simp [testBits]

@[simp]
theorem neverDeclines_store (block : UInt32) (field : Field α) (value : α) :
    (store block field value).NeverDeclines := by
  simp [store, perform]

@[simp]
theorem neverDeclines_clearBits (block : UInt32) (field : Field UInt8) (bits : UInt8) :
    (clearBits block field bits).NeverDeclines := by
  simp [clearBits]

@[simp]
theorem neverDeclines_registers : registers.NeverDeclines := by
  simp [registers, perform]

@[simp]
theorem neverDeclines_general (register : RegisterNumber) :
    (general register).NeverDeclines := by
  simp [general]

@[simp]
theorem neverDeclines_modify (change : Cpu → Cpu) : (modify change).NeverDeclines := by
  simp [modify, perform]

@[simp]
theorem neverDeclines_setTimer (value : Int64) : (setTimer value).NeverDeclines := by
  simp [setTimer, perform]

@[simp]
theorem neverDeclines_log (event : Event) : (log event).NeverDeclines := by
  simp [log, perform]

end NeverDeclines

theorem NeverDeclines.run_ne {Machine Refusal : Type} {callouts : Callouts Machine Refusal}
    {program : Microcode α} (never : program.NeverDeclines)
    {before after : Staging Machine} {reason : Decline} :
    program.run callouts before ≠ (.declined reason, after) := by
  induction program generalizing before with
  | done value => simp [run]
  | decline reason => exact never.elim
  | act action next ih =>
      simp only [run]
      split
      · exact ih _ (never _)
      · simp

/-- A program in two parts declines in the first or in the second. -/
theorem run_bind_declined {Machine Refusal : Type} {callouts : Callouts Machine Refusal}
    {program : Microcode β} {next : β → Microcode α}
    {before after : Staging Machine} {reason : Decline}
    (ran : (program >>= next).run callouts before = (.declined reason, after)) :
    program.run callouts before = (.declined reason, after) ∨
      ∃ first middle, program.run callouts before = (.done first, middle) ∧
        (next first).run callouts middle = (.declined reason, after) := by
  rw [bind_eq_bind, run_bind] at ran
  generalize program.run callouts before = firstRan at ran
  rcases firstRan with ⟨first | declined | error, middle⟩
  · exact .inr ⟨first, middle, rfl, ran⟩
  · refine .inl ?_
    simpa using ran
  · simp at ran

-- From here on programs are taken apart by the equations above, and never by computing.
attribute [irreducible] Takes Yields NeverDeclines

end Microcode

end Assist370
