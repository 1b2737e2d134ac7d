import Assist370.Proofs.GuestEvaluation
import Assist370.Proofs.RangeLoads

/-!
# LOAD CONTROL from its operand to the registers

LOAD CONTROL fetches one word for each register of its range before it loads any of them. So it is
done in one of two ways: there are words at its operand address that may be loaded, and then the
shadow registers of the range and the real registers 12 and 13 have their words and nothing else has
been changed, or it is left to software and nothing has been loaded (`System.loadControl_perform`).
-/

namespace Assist370

theorem UInt32.and_three_eq_zero_iff (word : UInt32) : word &&& 3 = 0 ↔ word.toNat % 4 = 0 := by
  have low := Nat.and_two_pow_sub_one_eq_mod word.toNat 2
  rw [← UInt32.toNat_inj, UInt32.toNat_and]
  exact iff_of_eq (congrArg (· = 0) low)

theorem Address.add_word (address : UInt32) (index : Nat) :
    address + 4 + 4 * UInt32.ofNat index = address + 4 * UInt32.ofNat (index + 1) := by
  rw [UInt32.ofNat_add]
  grind

namespace Answers

variable (answers : Answers) (scene : Scene) (address : UInt32) (count : Nat)

/-- Operand words are found one after the other from an address on. -/
def FindsWords (words : Nat → UInt32) : Prop :=
  ∀ index < count, ∃ real,
    answers.place scene.cpu (·.admitsFetch scene.cpu.psw.key)
      (address + 4 * UInt32.ofNat index) = .ok real ∧
    scene.memory.get real (Field.first : Field UInt32) = words index

/-- Some operand word is not found. -/
def MissesWord : Prop :=
  ∃ index < count, ∀ real,
    answers.place scene.cpu (·.admitsFetch scene.cpu.psw.key)
      (address + 4 * UInt32.ofNat index) ≠ .ok real

end Answers

namespace GuestContext

open Microcode

variable {answers : Answers} {scene : Scene} {policy : Policy}

section Operands

variable {range : List RegisterNumber} {address : UInt32}

theorem word_inBlock (aligned : address.toNat % 4 = 0) :
    (Address.wrap address).toNat % policy.keyBlock + Stored.size UInt32 ≤ policy.keyBlock := by
  have size : Stored.size UInt32 = 4 := rfl
  rw [size, Address.toNat_wrap, Address.space]
  cases policy <;> rw [Policy.keyBlock] <;> omega

theorem next_aligned (aligned : address.toNat % 4 = 0) : (address + 4).toNat % 4 = 0 := by
  have four : (4 : UInt32).toNat = 4 := rfl
  rw [UInt32.toNat_add, four]
  omega

/-- Operand words that can be fetched go to the registers of the range in their order. -/
theorem fetchOperands_eval_of_found (aligned : address.toNat % 4 = 0) {words : Nat → UInt32}
    (found : answers.FindsWords scene address range.length words)
    (operands : RegisterFile) :
    (fetchOperands policy address range operands).eval answers scene =
      (.ok (operands.loadRun range words), scene) := by
  induction range generalizing address words operands with
  | nil => rfl
  | cons register rest ih =>
      rw [Answers.FindsWords, List.length_cons, Nat.forall_lt_succ_left] at found
      rcases found with ⟨⟨real, placed, word⟩, later⟩
      have start : address + 4 * UInt32.ofNat 0 = address := UInt32.add_zero address
      rw [start] at placed
      simp only [← Address.add_word] at later
      simp only [fetchOperands, eval_bind, eval_registers,
        fetchLogical_eval (show 0 < Stored.size UInt32 by decide) (word_inBlock aligned), placed,
        Except.map, word]
      exact ih (next_aligned aligned) later _

/-- If some operand word cannot be fetched, nothing has been done. -/
theorem fetchOperands_eval_of_missing (aligned : address.toNat % 4 = 0)
    (missing : answers.MissesWord scene address range.length) (operands : RegisterFile) :
    ∃ reason, (fetchOperands policy address range operands).eval answers scene =
      (.error reason, scene) := by
  induction range generalizing address operands with
  | nil =>
      rcases missing with ⟨index, impossible, -⟩
      exact absurd impossible (Nat.not_lt_zero index)
  | cons register rest ih =>
      rcases missing with ⟨index, index_lt, missing⟩
      simp only [fetchOperands, eval_bind, eval_registers,
        fetchLogical_eval (show 0 < Stored.size UInt32 by decide) (word_inBlock aligned)]
      cases placed : answers.place scene.cpu (·.admitsFetch scene.cpu.psw.key) address with
      | error reason => exact ⟨reason, rfl⟩
      | ok real =>
          -- The first word can be fetched, so that the missing one is behind it.
          cases index with
          | zero =>
              have start : address + 4 * UInt32.ofNat 0 = address := UInt32.add_zero address
              rw [start] at missing
              exact absurd placed (missing real)
          | succ index =>
              rw [← Address.add_word] at missing
              exact ih (next_aligned aligned) ⟨index, Nat.lt_of_succ_lt_succ index_lt, missing⟩ _

end Operands

theorem fetchRow_eval {α : Type} [Stored α] (block : UInt32) (field : Field α) (count : Nat) :
    (fetchRow block field count).eval answers scene =
      (.ok (Vector.ofFn fun index => scene.memory.get block (field.item index)), scene) := by
  induction count with
  | zero => rfl
  | succ count ih =>
      rw [fetchRow, eval_bind, ih]
      simp only [eval_bind, eval_fetch, eval_pure, Vector.ofFn_succ]
      rfl

theorem fetchShadow_eval (extended : Bool) (address : UInt32) :
    (fetchShadow extended address).eval answers scene =
      (.ok (scene.memory.shadowRegisters extended address), scene) := by
  cases extended with
  | true => exact fetchRow_eval address Field.first 16
  | false => rfl

theorem storeShadow_eval (address : UInt32) (shadow : RegisterFile)
    (range : List RegisterNumber) :
    (storeShadow address shadow range).eval answers scene =
      (.ok (), { scene with memory := Memory.putShadow address shadow range scene.memory }) := by
  induction range generalizing scene with
  | nil => rfl
  | cons register rest ih =>
      rw [storeShadow, eval_bind, eval_store]
      exact ih

theorem replaceControls_eval (extended : Bool) (range : List RegisterNumber) (new : RegisterFile)
    (context : GuestContext) (shadowAddress : UInt32) :
    (context.replaceControls extended range new shadowAddress).eval answers scene =
      match ControlRegisters.load
        { shadow := scene.memory.shadowRegisters extended shadowAddress, real := scene.cpu.control }
        range new context.psw context.pending with
      | .ok loaded => (.ok .completed, { scene with
          cpu := { scene.cpu with control := loaded.real }
          memory := Memory.putShadow shadowAddress loaded.shadow range scene.memory })
      | .error reject => (.error (.loadRejected reject),
          { scene with log := scene.log ++ [.loadRejected reject] }) := by
  simp only [replaceControls, eval_bind, fetchShadow_eval, eval_registers]
  generalize ControlRegisters.load _ range new context.psw context.pending = answer
  cases answer with
  | ok loaded => simp only [eval_bind, eval_modify, storeShadow_eval, eval_pure]
  | error reject => rfl

section Loads

variable {first last : RegisterNumber} {address : UInt32} {context : GuestContext}

/-- A basic virtual machine loads its control register 0 alone. -/
def AllowsRange (memory : Memory) (context : GuestContext) (first last : RegisterNumber) : Prop :=
  memory.isExtended context.vmblok = true ∨ first = 0 ∧ last = 0

theorem testBits_eval (block : UInt32) (field : Field UInt8) (bits : UInt8) :
    (testBits block field bits).eval answers scene =
      (.ok (scene.memory.get block field &&& bits != 0), scene) :=
  rfl

/-- What LOAD CONTROL does with its operands, wherever the shadow registers are. -/
def replaceFound (context : GuestContext) (extended : Bool) (range : List RegisterNumber)
    (new : RegisterFile) : Microcode Completion :=
  if extended then
    fetchAddress context.vmblok Vmblok.extension >>= context.replaceControls extended range new
  else
    context.replaceControls extended range new (context.vmblok + Vmblok.extension.offset)

theorem replaceFound_eval (range : List RegisterNumber) (new : RegisterFile) :
    (context.replaceFound (scene.memory.isExtended context.vmblok) range new).eval answers scene =
      (context.replaceControls (scene.memory.isExtended context.vmblok) range new
        (context.shadowAddress scene.memory)).eval answers scene := by
  rw [replaceFound, shadowAddress]
  cases scene.memory.isExtended context.vmblok with
  | true => simp only [if_true, eval_bind, eval_fetchAddress]
  | false => rfl

theorem loadControl_eval (aligned : address.toNat % 4 = 0)
    (allows : context.AllowsRange scene.memory first last) :
    (context.loadControl policy first last address).eval answers scene =
      (fetchOperands policy address (RegisterNumber.range first last) RegisterFile.zero >>=
        context.replaceFound (scene.memory.isExtended context.vmblok)
          (RegisterNumber.range first last)).eval answers scene := by
  have isAligned := (UInt32.and_three_eq_zero_iff address).mpr aligned
  rw [loadControl_eq, eval_bind, eval_require, if_pos (beq_iff_eq.mpr isAligned)]
  dsimp only
  rw [eval_bind, testBits_eval, ← Memory.isExtended]
  dsimp only
  rw [eval_bind, eval_require, if_pos]
  · rfl
  · rcases allows with extended | ⟨rfl, rfl⟩
    · simp [extended]
    · simp

theorem loadControl_eval_of_found (aligned : address.toNat % 4 = 0)
    (allows : context.AllowsRange scene.memory first last) {words : Nat → UInt32}
    (found : answers.FindsWords scene address (RegisterNumber.rangeLength first last) words) :
    (context.loadControl policy first last address).eval answers scene =
      (context.replaceControls (scene.memory.isExtended context.vmblok)
        (RegisterNumber.range first last)
        (RegisterFile.zero.loadRun (RegisterNumber.range first last) words)
        (context.shadowAddress scene.memory)).eval answers scene := by
  rw [← RegisterNumber.length_range] at found
  rw [loadControl_eval aligned allows, eval_bind, fetchOperands_eval_of_found aligned found]
  exact replaceFound_eval _ _

theorem loadControl_eval_of_missing
    (missing : address.toNat % 4 ≠ 0 ∨ ¬context.AllowsRange scene.memory first last ∨
      answers.MissesWord scene address (RegisterNumber.rangeLength first last)) :
    ∃ reason, (context.loadControl policy first last address).eval answers scene =
      (.error reason, scene) := by
  by_cases aligned : address.toNat % 4 = 0
  · by_cases allows : context.AllowsRange scene.memory first last
    · have nowhere := (missing.resolve_left (not_not.mpr aligned)).resolve_left
        (not_not.mpr allows)
      rw [← RegisterNumber.length_range] at nowhere
      rw [loadControl_eval aligned allows, eval_bind]
      rcases @fetchOperands_eval_of_missing answers scene policy _ _ aligned nowhere
        RegisterFile.zero with ⟨reason, refused⟩
      exact ⟨reason, by rw [refused]⟩
    · have basic :
          (scene.memory.isExtended context.vmblok || (first == 0 && last == 0)) = false := by
        simpa [AllowsRange] using allows
      have isAligned := (UInt32.and_three_eq_zero_iff address).mpr aligned
      refine ⟨.basicModeRange, ?_⟩
      rw [loadControl_eq, eval_bind, eval_require, if_pos (beq_iff_eq.mpr isAligned)]
      dsimp only
      rw [eval_bind, testBits_eval, ← Memory.isExtended]
      dsimp only
      rw [eval_bind, eval_require, basic]
      rfl
  · have isUnaligned := mt (UInt32.and_three_eq_zero_iff address).mp aligned
    refine ⟨.operandNotAligned, ?_⟩
    rw [loadControl_eq, eval_bind, eval_require, if_neg (mt beq_iff_eq.mp isUnaligned)]

/-- The words may be loaded into the registers of a range: it has none that has to be left to
software, and no word changes a mode or enables an interruption while one is pending. -/
structure MayLoad (memory : Memory) (context : GuestContext) (first last : RegisterNumber)
    (words : Nat → UInt32) : Prop where
  basic : memory.isExtended context.vmblok = false → RegisterNumber.range first last = [0]
  extended : memory.isExtended context.vmblok = true →
    RegisterNumber.range first last = [2] ∨ RegisterNumber.range first last = [6] ∨
      RegisterNumber.range first last <:+: [12, 13, 14, 15, 0]
  masks : ∀ index < RegisterNumber.rangeLength first last,
    ControlRegisters.KeepsMasks context.psw (context.pending &&& Micblok.pendingFlag != 0)
      (.ofNat (first.val + index))
      (memory.get (context.shadowAddress memory) (Field.first.item
        (RegisterNumber.ofNat (first.val + index)).val))
      (words index)

variable {memory : Memory} {words : Nat → UInt32}

theorem MayLoad.allowsRange (mayLoad : context.MayLoad memory first last words) :
    context.AllowsRange memory first last := by
  rw [AllowsRange]
  cases extended : memory.isExtended context.vmblok with
  | true => exact .inl rfl
  | false => exact .inr ((RegisterNumber.range_eq_zero_iff first last).mp (mayLoad.basic extended))

theorem AllowsRange.isPresent (allows : context.AllowsRange memory first last) :
    ∀ register ∈ RegisterNumber.range first last,
      memory.isExtended context.vmblok = true ∨ register = 0 := by
  intro register inRange
  rcases allows with extended | isZero
  · exact .inl extended
  · rw [(RegisterNumber.range_eq_zero_iff first last).mpr isZero, List.mem_singleton] at inRange
    exact .inr inRange

theorem mayLoad_iff (allows : context.AllowsRange memory first last) :
    context.MayLoad memory first last words ↔
      ∀ register ∈ RegisterNumber.range first last, register ∈ ControlRegisters.loadable ∧
        ControlRegisters.KeepsMasks context.psw (context.pending &&& Micblok.pendingFlag != 0)
          register
          ((memory.shadowRegisters (memory.isExtended context.vmblok)
            (context.shadowAddress memory)).read register)
          ((RegisterFile.zero.loadRun (RegisterNumber.range first last) words).read register) := by
  have shadow_eq : ∀ index < RegisterNumber.rangeLength first last,
      (memory.shadowRegisters (memory.isExtended context.vmblok)
          (context.shadowAddress memory)).read (.ofNat (first.val + index)) =
        memory.get (context.shadowAddress memory) (Field.first.item
          (RegisterNumber.ofNat (first.val + index)).val) :=
    fun index inRange => Memory.read_shadowRegisters
      (RegisterNumber.forall_mem_range.mp allows.isPresent index inRange)
  rw [RegisterNumber.forall_mem_range]
  constructor
  · intro mayLoad index inRange
    rw [shadow_eq index inRange, RegisterNumber.read_loadRun_range inRange]
    refine ⟨?_, mayLoad.masks index inRange⟩
    apply RegisterNumber.forall_mem_range.mp ?_ index inRange
    rw [RegisterNumber.range_loadable_iff]
    cases extended : memory.isExtended context.vmblok with
    | true => exact mayLoad.extended extended
    | false =>
        rw [mayLoad.basic extended]
        decide
  · intro admitted
    constructor
    · intro basic
      rw [RegisterNumber.range_eq_zero_iff]
      rcases allows with extended | isZero
      · rw [basic] at extended
        cases extended
      · exact isZero
    · intro _
      rw [← RegisterNumber.range_loadable_iff, RegisterNumber.forall_mem_range]
      exact fun index inRange => (admitted index inRange).1
    · intro index inRange
      have keeps := (admitted index inRange).2
      rwa [shadow_eq index inRange, RegisterNumber.read_loadRun_range inRange] at keeps

/-- The registers of the processor and the shadow registers once the words have been loaded. -/
def loadedRegisters (context : GuestContext) (memory : Memory) (real : RegisterFile)
    (range : List RegisterNumber) (words : Nat → UInt32) : ControlRegisters :=
  ControlRegisters.withAll
    { shadow := memory.shadowRegisters (memory.isExtended context.vmblok)
        (context.shadowAddress memory)
      real }
    range (RegisterFile.zero.loadRun range words)

theorem loadControl_eval_of_mayLoad (aligned : address.toNat % 4 = 0)
    (found : answers.FindsWords scene address (RegisterNumber.rangeLength first last) words)
    (mayLoad : context.MayLoad scene.memory first last words) :
    (context.loadControl policy first last address).eval answers scene =
      let loaded := context.loadedRegisters scene.memory scene.cpu.control
        (RegisterNumber.range first last) words
      (.ok .completed, { scene with
        cpu := { scene.cpu with control := loaded.real }
        memory := Memory.putShadow (context.shadowAddress scene.memory) loaded.shadow
          (RegisterNumber.range first last) scene.memory }) := by
  have isLoaded : ControlRegisters.load
      { shadow := scene.memory.shadowRegisters (scene.memory.isExtended context.vmblok)
          (context.shadowAddress scene.memory)
        real := scene.cpu.control }
      (RegisterNumber.range first last)
      (RegisterFile.zero.loadRun (RegisterNumber.range first last) words) context.psw
      context.pending = .ok (context.loadedRegisters scene.memory scene.cpu.control
        (RegisterNumber.range first last) words) := by
    rw [ControlRegisters.load_eq_ok_iff (RegisterNumber.range_nodup first last)]
    exact ⟨(mayLoad_iff mayLoad.allowsRange).mp mayLoad, rfl⟩
  rw [loadControl_eval_of_found aligned mayLoad.allowsRange found, replaceControls_eval, isLoaded]

/-- LOAD CONTROL loads nothing if some register may not be loaded. -/
theorem loadControl_eval_of_not_mayLoad (aligned : address.toNat % 4 = 0)
    (allows : context.AllowsRange scene.memory first last)
    (found : answers.FindsWords scene address (RegisterNumber.rangeLength first last) words)
    (refused : ¬context.MayLoad scene.memory first last words) :
    ∃ reason log, (context.loadControl policy first last address).eval answers scene =
      (.error reason, { scene with log }) := by
  rw [loadControl_eval_of_found aligned allows found, replaceControls_eval]
  cases isLoaded : ControlRegisters.load
      { shadow := scene.memory.shadowRegisters (scene.memory.isExtended context.vmblok)
          (context.shadowAddress scene.memory)
        real := scene.cpu.control }
      (RegisterNumber.range first last)
      (RegisterFile.zero.loadRun (RegisterNumber.range first last) words) context.psw
      context.pending with
  | error reject => exact ⟨_, _, rfl⟩
  | ok loaded =>
      rw [ControlRegisters.load_eq_ok_iff (RegisterNumber.range_nodup first last)] at isLoaded
      exact absurd ((mayLoad_iff allows).mpr isLoaded.1) refused

theorem fetchOperands_ignoresReference (policy : Policy) (address : UInt32)
    (range : List RegisterNumber) (operands : RegisterFile) :
    (fetchOperands policy address range operands).IgnoresReference := by
  induction range generalizing address operands with
  | nil => trivial
  | cons register rest ih =>
      have registers_keyless : registers.Takes Action.IsKeyless := by simp
      apply registers_keyless.ignoresReference.bind
      intro cpu
      apply (fetchLogical_ignoresReference policy address _).bind
      intro operand
      exact ih _ _

theorem loadControl_ignoresReference (policy : Policy) (first last : RegisterNumber)
    (address : UInt32) (context : GuestContext) :
    (context.loadControl policy first last address).IgnoresReference := by
  have keyless : ∀ {α : Type} {program : Microcode α}, program.Takes Action.IsKeyless →
      program.IgnoresReference := Takes.ignoresReference
  rw [loadControl_eq]
  apply (keyless (takes_require _ _)).bind
  intro _
  apply (keyless (by simp)).bind
  intro extended
  apply (keyless (takes_require _ _)).bind
  intro _
  apply (fetchOperands_ignoresReference policy address _ _).bind
  intro new
  exact keyless (by simp [replaceControls_isKeyless])

end Loads

end GuestContext

namespace System

variable {Machine Refusal : Type} {callouts : Callouts Machine Refusal} {policy : Policy}
  {system : System Machine} {first last : RegisterNumber} {address : UInt32}
  {words : Nat → UInt32}

/-- Words can be fetched one after the other from an operand address on. -/
def FetchesWords (system : System Machine) (view : KeyedView callouts) (address : UInt32)
    (count : Nat) (words : Nat → UInt32) : Prop :=
  ∀ index < count, ∃ real,
    view.CanFetch system.machine system.cpu system.cpu.psw.key
      (address + 4 * UInt32.ofNat index) real ∧
    (view.memory system.machine).get real (Field.first : Field UInt32) = words index

/-- LOAD CONTROL has words at its operand address that may be loaded. -/
structure LoadsControl (system : System Machine) (view : KeyedView callouts)
    (first last : RegisterNumber) (address : UInt32) (words : Nat → UInt32) : Prop where
  aligned : address.toNat % 4 = 0
  fetches : system.FetchesWords view address (RegisterNumber.rangeLength first last) words
  mayLoad : (system.virtualMachine view.toStorageView).MayLoad (view.memory system.machine) first
    last words

/-- The address of the running virtual machine's shadow registers. -/
def shadowAddress (system : System Machine) (view : StorageView callouts) : UInt32 :=
  (system.virtualMachine view).shadowAddress (view.memory system.machine)

/-- Words have been loaded into shadow registers and into the real registers 12 and 13, and nothing
else has been changed. -/
structure ControlLoaded (system : System Machine) (view : StorageView callouts)
    (first last : RegisterNumber) (words : Nat → UInt32) (after : System Machine) : Prop where
  shadow : ∀ index < RegisterNumber.rangeLength first last,
    (view.memory after.machine).get (system.shadowAddress view)
      (Field.first.item (RegisterNumber.ofNat (first.val + index)).val) = words index
  shadowKept : ∀ register ∉ RegisterNumber.range first last,
    (view.memory after.machine).get (system.shadowAddress view)
        ((Field.first : Field UInt32).item register) =
      (view.memory system.machine).get (system.shadowAddress view)
        ((Field.first : Field UInt32).item register)
  storageKept : ∀ place,
    (∀ register ∈ RegisterNumber.range first last, ¬Region.Contains
      (.ofField (system.shadowAddress view) ((Field.first : Field UInt32).item register)) place) →
    (view.memory after.machine).byte place = (view.memory system.machine).byte place
  real : ∀ index < RegisterNumber.rangeLength first last,
    RegisterNumber.ofNat (first.val + index) = 12 ∨
      RegisterNumber.ofNat (first.val + index) = 13 →
    after.cpu.control.read (.ofNat (first.val + index)) = words index
  realKept : ∀ register, (register ∈ RegisterNumber.range first last →
      register ≠ 12 ∧ register ≠ 13) →
    after.cpu.control.read register = system.cpu.control.read register
  cpuKept : after.cpu = { system.cpu.lookedUp (view.memory system.machine) with
    control := after.cpu.control }

theorem shadowAddress_of_basic (view : StorageView callouts)
    (basic : (view.memory system.machine).isExtended (system.virtualMachine view).vmblok = false) :
    system.shadowAddress view =
      (system.virtualMachine view).vmblok + Vmblok.extension.offset := by
  rw [shadowAddress, GuestContext.shadowAddress, basic]
  rfl

theorem controlLoaded_of_memory {view : StorageView callouts} {after : System Machine}
    (cpu : after.cpu = { system.cpu.lookedUp (view.memory system.machine) with
      control := ((system.virtualMachine view).loadedRegisters (view.memory system.machine)
        system.cpu.control (RegisterNumber.range first last) words).real })
    (memory : view.memory after.machine = Memory.putShadow (system.shadowAddress view)
      ((system.virtualMachine view).loadedRegisters (view.memory system.machine)
        system.cpu.control (RegisterNumber.range first last) words).shadow
      (RegisterNumber.range first last) (view.memory system.machine)) :
    system.ControlLoaded view first last words after := by
  have inRange : ∀ index < RegisterNumber.rangeLength first last,
      RegisterNumber.ofNat (first.val + index) ∈ RegisterNumber.range first last :=
    RegisterNumber.forall_mem_range.mp fun _ mem => mem
  constructor
  · intro index index_lt
    rw [memory, Memory.get_putShadow_of_mem (inRange index index_lt),
      GuestContext.loadedRegisters,
      ControlRegisters.read_shadow_withAll_of_mem (inRange index index_lt),
      RegisterNumber.read_loadRun_range index_lt]
  · intro register outside
    rw [memory, Memory.get_putShadow_of_not_mem outside]
  · intro place outside
    rw [memory]
    apply Memory.putShadow_agreesOn
    · intro register register_mem
      exact Region.apart_one (outside register register_mem)
    · exact Region.contains_one.mpr rfl
  · intro index index_lt forwarded
    rw [cpu, GuestContext.loadedRegisters,
      ControlRegisters.read_real_withAll_of_mem (inRange index index_lt) forwarded,
      RegisterNumber.read_loadRun_range index_lt]
  · intro register spared
    rw [cpu, GuestContext.loadedRegisters, ControlRegisters.read_real_withAll_of_spared spared]
  · rw [cpu]

theorem FetchesWords.found {view : KeyedView callouts} {count : Nat}
    (fetches : system.FetchesWords view address count words) :
    (view.answers system.machine).FindsWords (system.guestScene view.toStorageView) address count
      words := by
  intro index inRange
  rcases fetches index inRange with ⟨real, canFetch, word⟩
  exact ⟨real, KeyedView.place_fetch_iff.mpr canFetch, word⟩

theorem loadControl_eval_of_not_loads {view : KeyedView callouts}
    (refused : ∀ words, ¬system.LoadsControl view first last address words) :
    ∃ reason log, ((system.virtualMachine view.toStorageView).loadControl policy first last
        address).eval (view.answers system.machine) (system.guestScene view.toStorageView) =
      (.error reason, { system.guestScene view.toStorageView with log }) := by
  have missing_declines := @GuestContext.loadControl_eval_of_missing (view.answers system.machine)
    (system.guestScene view.toStorageView) policy first last address
    (system.virtualMachine view.toStorageView)
  by_cases aligned : address.toNat % 4 = 0
  · by_cases allows : (system.virtualMachine view.toStorageView).AllowsRange
        (view.memory system.machine) first last
    · by_cases found : ∀ index < RegisterNumber.rangeLength first last, ∃ real,
          view.CanFetch system.machine system.cpu system.cpu.psw.key
            (address + 4 * UInt32.ofNat index) real
      · -- All words can be fetched, and one of them may not be loaded.
        have fetched : ∀ index, ∃ word, index < RegisterNumber.rangeLength first last → ∃ real,
            view.CanFetch system.machine system.cpu system.cpu.psw.key
              (address + 4 * UInt32.ofNat index) real ∧
            (view.memory system.machine).get real (Field.first : Field UInt32) = word := by
          intro index
          by_cases inRange : index < RegisterNumber.rangeLength first last
          · rcases found index inRange with ⟨real, canFetch⟩
            exact ⟨_, fun _ => ⟨real, canFetch, rfl⟩⟩
          · exact ⟨0, fun isIn => absurd isIn inRange⟩
        choose words fetches using fetched
        apply @GuestContext.loadControl_eval_of_not_mayLoad (view.answers system.machine)
          (system.guestScene view.toStorageView) policy first last address
          (system.virtualMachine view.toStorageView) words aligned allows
        · exact FetchesWords.found fetches
        · exact fun mayLoad => refused words ⟨aligned, fetches, mayLoad⟩
      · push Not at found
        rcases found with ⟨index, inRange, nowhere⟩
        rcases missing_declines (.inr (.inr ⟨index, inRange, fun real placed =>
          nowhere real (KeyedView.place_fetch_iff.mp placed)⟩)) with ⟨reason, declined⟩
        exact ⟨reason, _, declined⟩
    · rcases missing_declines (.inr (.inl allows)) with ⟨reason, declined⟩
      exact ⟨reason, _, declined⟩
  · rcases missing_declines (.inl aligned) with ⟨reason, declined⟩
    exact ⟨reason, _, declined⟩

/-- LOAD CONTROL that is answered completes if there are words at its operand address that may be
loaded, and then loads them and does nothing else. Otherwise it loads nothing. -/
theorem loadControl_perform (view : KeyedView callouts) (runs : system.RunsGuest .lctl)
    (answered : (system.perform policy callouts (.lctl first last address)).Answered) :
    ((system.perform policy callouts (.lctl first last address)).result = .ok .completed ↔
      ∃ words, system.LoadsControl view first last address words) ∧
    (∀ words, system.LoadsControl view first last address words →
      system.ControlLoaded view.toStorageView first last words
        (system.perform policy callouts (.lctl first last address)).system) ∧
    ((¬∃ words, system.LoadsControl view first last address words) →
      (system.perform policy callouts (.lctl first last address)).result = .ok .declined ∧
      (system.perform policy callouts (.lctl first last address)).system.cpu =
        system.cpu.lookedUp (view.memory system.machine) ∧
      view.memory (system.perform policy callouts (.lctl first last address)).system.machine =
        view.memory system.machine) ∧
    ((view.memory system.machine).isExtended
        (system.virtualMachine view.toStorageView).vmblok = false →
      system.shadowAddress view.toStorageView =
        (system.virtualMachine view.toStorageView).vmblok + Vmblok.extension.offset) := by
  have comesTo := perform_guest_comesTo view rfl
    (fun context => context.loadControl_ignoresReference policy first last address) runs answered
  have completes : ∀ words, system.LoadsControl view first last address words →
      (system.perform policy callouts (.lctl first last address)).result = .ok .completed ∧
        system.ControlLoaded view.toStorageView first last words
          (system.perform policy callouts (.lctl first last address)).system := by
    rintro words ⟨aligned, fetches, mayLoad⟩
    have evaluated := @GuestContext.loadControl_eval_of_mayLoad (view.answers system.machine)
      (system.guestScene view.toStorageView) policy first last address
      (system.virtualMachine view.toStorageView) words aligned fetches.found mayLoad
    rw [evaluated] at comesTo
    exact ⟨comesTo.result, controlLoaded_of_memory comesTo.cpu comesTo.memory⟩
  have declines : (¬∃ words, system.LoadsControl view first last address words) →
      (system.perform policy callouts (.lctl first last address)).result = .ok .declined ∧
      (system.perform policy callouts (.lctl first last address)).system.cpu =
        system.cpu.lookedUp (view.memory system.machine) ∧
      view.memory (system.perform policy callouts (.lctl first last address)).system.machine =
        view.memory system.machine := by
    intro refused
    rcases @loadControl_eval_of_not_loads _ _ _ policy _ _ _ _ _ (not_exists.mp refused) with
      ⟨reason, log, declined⟩
    rw [declined] at comesTo
    exact ⟨comesTo.result, comesTo.cpu, comesTo.memory⟩
  refine ⟨⟨fun completed => ?_, fun ⟨words, loads⟩ => (completes words loads).1⟩,
    fun words loads => (completes words loads).2, declines, shadowAddress_of_basic _⟩
  by_contra refused
  rw [(declines refused).1] at completed
  cases completed

/-- An extended virtual machine whose VMBLOK is that at address 2000, with its shadow registers at
address 2800 and words for registers 13 to 0 at address 4000. -/
def wrappingLoad : System PagedStorage where
  registry := Registry.initial true false
  cpu :=
    { Cpu.initial with
      control := RegisterFile.zero.load 6 0x80001000
      psw := { states := { problemState := true }, instructionAddress := 0x402 } }
  machine :=
    { memory :=
        (((((Memory.zero.store 0x1004 [0, 0, 0x30, 0]).store 0x1008 [0x80, 0, 0x20, 0xa8]).store
          0x200c [0, 0, 0x28, 0]).store
          (0x2000 + Vmblok.processorStatus.offset) [Vmblok.extendedMachine]).store
          0x2800 [0, 0, 0, 0xff]).store
          0x4000 [0, 0, 0, 0xd, 0, 0, 0, 0xe, 0, 0, 0, 0xf, 0, 0, 0, 0xf0]
      keys := fun _ => ⟨0⟩
      frames := fun _ => none }

theorem wrappingLoad_loads :
    wrappingLoad.RunsGuest .lctl ∧
      (wrappingLoad.perform .pageKeys PagedStorage.callouts (.lctl 13 0 0x4000)).Answered ∧
      ∃ words, wrappingLoad.LoadsControl PagedStorage.keyedView 13 0 0x4000 words ∧
        wrappingLoad.ControlLoaded PagedStorage.keyedView.toStorageView 13 0 words
          (wrappingLoad.perform .pageKeys PagedStorage.callouts (.lctl 13 0 0x4000)).system := by
  have runs : wrappingLoad.RunsGuest .lctl := by decide +kernel
  have answered := @answered_of_refusesNothing _ _ _ .pageKeys _ (.lctl 13 0 0x4000)
    wrappingLoad.machine.refusesNothing
  have performed := loadControl_perform PagedStorage.keyedView runs answered
  have completed : (wrappingLoad.perform .pageKeys PagedStorage.callouts
      (.lctl 13 0 0x4000)).result = .ok .completed := Response.result_eq_ok (by decide +kernel)
  rcases performed.1.mp completed with ⟨words, loads⟩
  exact ⟨runs, answered, words, loads, performed.2.1 words loads⟩

end System

end Assist370
