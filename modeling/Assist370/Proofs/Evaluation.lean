import Assist370.Proofs.CallRun

/-!
# Evaluation of programs

Where every question of a program has one answer, the program ends in one way, which can be
evaluated without a machine (`Microcode.eval`). A run on a machine that gives those answers and
refuses nothing ends just so (`Microcode.run_eval`), and an answered instruction comes to what the
evaluation tells (`System.settle_comesTo`). So two instructions come to the same if their programs
evaluate to the same. Accesses to storage are recorded in reference bits, so that a machine gives
the same storage key again but for its reference bit.
-/

namespace Assist370

namespace StorageKey

/-- The keys are the same but for the record of accesses. -/
structure Alike (key other : StorageKey) : Prop where
  change : key.change = other.change
  fetchProtect : key.fetchProtect = other.fetchProtect
  accessKey : key.accessKey = other.accessKey

variable {key other third : StorageKey}

theorem Alike.refl (key : StorageKey) : key.Alike key :=
  ⟨rfl, rfl, rfl⟩

theorem Alike.symm (alike : key.Alike other) : other.Alike key :=
  ⟨alike.change.symm, alike.fetchProtect.symm, alike.accessKey.symm⟩

theorem Alike.trans (first : key.Alike other) (second : other.Alike third) : key.Alike third :=
  ⟨first.change.trans second.change, first.fetchProtect.trans second.fetchProtect,
    first.accessKey.trans second.accessKey⟩

theorem Alike.admitsStore (alike : key.Alike other) (protection : BitVec 4) :
    key.admitsStore protection = other.admitsStore protection := by
  rw [StorageKey.admitsStore, StorageKey.admitsStore, alike.accessKey]

theorem Alike.admitsFetch (alike : key.Alike other) (protection : BitVec 4) :
    key.admitsFetch protection = other.admitsFetch protection := by
  rw [StorageKey.admitsFetch, StorageKey.admitsFetch, alike.admitsStore, alike.fetchProtect]

end StorageKey

/-- The answers to the questions that storage and registers do not answer. -/
structure Answers where
  /-- The storage key at a real address. -/
  key : UInt32 → StorageKey
  /-- The translation of a virtual address under control registers 0 and 1. -/
  translation : UInt32 → UInt32 → UInt32 → Except TranslationFault UInt32

instance : Inhabited Answers :=
  ⟨{ key := fun _ => default, translation := fun _ _ => .ok }⟩

namespace Action

/-- Storage and registers answer the action. -/
@[simp]
def FromStorage : Action → Prop
  | storageKey _ | translate _ => False
  | _ => True

/-- The action looks at no storage key. -/
@[simp]
def IsKeyless : Action → Prop
  | storageKey _ => False
  | _ => True

/-- Two answers are the same, but for the record of accesses in a storage key. -/
def AnswersAlike : (action : Action) → action.Answer → action.Answer → Prop
  | storageKey _, answer, other => StorageKey.Alike answer other
  | _, answer, other => answer = other

/-- The answer to an action, and the scene after it. -/
def eval (answers : Answers) : (action : Action) → Scene → action.Answer × Scene
  | fetch address length, scene => (scene.memory.bytes address length, scene)
  | store address bytes, scene => ((), { scene with memory := scene.memory.store address bytes })
  | storageKey address, scene => (answers.key (Address.wrap address), scene)
  | translate address, scene =>
      ((answers.translation (scene.cpu.control.read 0) (scene.cpu.control.read 1)
        (Address.wrap address)).map Address.wrap, scene)
  | registers, scene => (scene.cpu, scene)
  | modify change, scene => ((), { scene with cpu := change scene.cpu })
  | setTimer value, scene =>
      ((), { scene with cpu := { scene.cpu with cpuTimer := value }, timerSet := true })
  | purgeTlb, scene => ((), { scene with purge := true })
  | handOff register value, scene =>
      ((), { scene with handOffs := scene.handOffs ++ [(register, value)] })
  | log event, scene => ((), { scene with log := scene.log ++ [event] })

@[simp]
theorem fromStorage_allowsStores : Microcode.AllowsStores FromStorage :=
  fun _ _ => trivial

@[simp]
theorem isKeyless_allowsStores : Microcode.AllowsStores IsKeyless :=
  fun _ _ => trivial

theorem FromStorage.isKeyless {action : Action} (fromStorage : action.FromStorage) :
    action.IsKeyless := by
  cases action <;> first | exact fromStorage | trivial

end Action

namespace Microcode

variable {α β : Type} {answers : Answers} {scene : Scene}

/-- How a program ends, and the scene then. -/
def eval (answers : Answers) : Microcode α → Scene → Except Decline α × Scene
  | done value, scene => (.ok value, scene)
  | decline reason, scene => (.error reason, scene)
  | act action next, scene =>
      (next (action.eval answers scene).1).eval answers (action.eval answers scene).2

@[simp]
theorem eval_pure (value : α) :
    (pure value : Microcode α).eval answers scene = (.ok value, scene) :=
  rfl

@[simp]
theorem eval_decline (reason : Decline) :
    (decline reason : Microcode α).eval answers scene = (.error reason, scene) :=
  rfl

theorem eval_perform (action : Action) :
    (perform action).eval answers scene =
      (.ok (action.eval answers scene).1, (action.eval answers scene).2) :=
  rfl

@[simp]
theorem eval_bind (program : Microcode β) (next : β → Microcode α) :
    (program >>= next).eval answers scene =
      match program.eval answers scene with
      | (.ok value, after) => (next value).eval answers after
      | (.error reason, after) => (.error reason, after) := by
  rw [bind_eq_bind]
  induction program generalizing scene with
  | done value => rfl
  | decline reason => rfl
  | act action answer ih => simp only [Microcode.bind, eval, ih]

@[simp]
theorem eval_ite (condition : Prop) [Decidable condition] (yes no : Microcode α) :
    (if condition then yes else no).eval answers scene =
      if condition then yes.eval answers scene else no.eval answers scene := by
  split <;> rfl

@[simp]
theorem eval_general (register : RegisterNumber) :
    (general register).eval answers scene = (.ok (scene.cpu.general.read register), scene) :=
  rfl

@[simp]
theorem eval_registers : registers.eval answers scene = (.ok scene.cpu, scene) :=
  rfl

@[simp]
theorem eval_require (check : Bool) (reason : Decline) :
    (require check reason).eval answers scene =
      (if check then .ok () else .error reason, scene) := by
  cases check <;> rfl

theorem eval_require_bind (check : Bool) (reason : Decline) (next : Unit → Microcode α) :
    (require check reason >>= next).eval answers scene =
      if check = false then (.error reason, scene) else (next ()).eval answers scene := by
  cases check <;> rfl

theorem eval_storageKey (address : UInt32) :
    (perform (.storageKey address)).eval answers scene =
      (.ok (answers.key (Address.wrap address)), scene) :=
  rfl

@[simp]
theorem eval_modify (change : Cpu → Cpu) :
    (modify change).eval answers scene = (.ok (), { scene with cpu := change scene.cpu }) :=
  rfl

section Fields

variable [Stored α] (block : UInt32) (field : Field α)

@[simp]
theorem eval_fetch :
    (fetch block field).eval answers scene = (.ok (scene.memory.get block field), scene) :=
  rfl

@[simp]
theorem eval_fetchAddress (field : Field UInt32) :
    (fetchAddress block field).eval answers scene =
      (.ok (scene.memory.getAddress block field), scene) :=
  rfl

@[simp]
theorem eval_store (value : α) :
    (store block field value).eval answers scene =
      (.ok (), { scene with memory := scene.memory.put block field value }) :=
  rfl

end Fields

/-- Whether a block has been accessed is of no account for how a program goes on. -/
def IgnoresReference : Microcode α → Prop
  | done _ => True
  | decline _ => True
  | act action next =>
      (∀ answer other, action.AnswersAlike answer other → next answer = next other) ∧
        ∀ answer, (next answer).IgnoresReference

theorem IgnoresReference.bind {program : Microcode β} {next : β → Microcode α}
    (first : program.IgnoresReference) (rest : ∀ value, (next value).IgnoresReference) :
    (program >>= next).IgnoresReference := by
  rw [bind_eq_bind]
  induction program with
  | done value => exact rest value
  | decline reason => trivial
  | act action answer ih =>
      refine ⟨fun given other alike => ?_, fun given => ih given (first.2 given)⟩
      exact congrArg (·.bind next) (first.1 given other alike)

theorem ignoresReference_storageKey (address : UInt32) {next : StorageKey → Microcode α}
    (same : ∀ key other : StorageKey, key.Alike other → next key = next other)
    (rest : ∀ key, (next key).IgnoresReference) :
    (perform (.storageKey address) >>= next).IgnoresReference :=
  ⟨same, rest⟩

theorem Takes.ignoresReference {program : Microcode α} (takes : program.Takes Action.IsKeyless) :
    program.IgnoresReference := by
  induction program with
  | done value => trivial
  | decline reason => trivial
  | act action next ih =>
      have takes := (takes_act action next).mp takes
      refine ⟨fun answer other alike => ?_, fun answer => ih answer (takes.2 answer)⟩
      cases action with
      | storageKey address => exact takes.1.elim
      | fetch _ _ | translate _ | registers | store _ _ | modify _ | setTimer _ | purgeTlb
      | handOff _ _ | log _ => exact congrArg next alike

/-- Where storage is known, a program that asks for nothing else ensures what its evaluation
tells. -/
theorem ensures_of_eval {known : Knowledge} {declined : Decline → Scene → Prop}
    {program : Microcode α} (isFaithful : known.faithful) (answers : Answers)
    (takes : program.Takes Action.FromStorage) {post : α → Scene → Prop}
    (ensures : match program.eval answers scene with
      | (.ok value, after) => post value after
      | (.error reason, after) => declined reason after) :
    program.Ensures known declined post scene := by
  induction program generalizing scene with
  | done value => exact (ensures_done value).mpr ensures
  | decline reason => exact (ensures_decline reason).mpr ensures
  | act action next ih =>
      have takes := (takes_act action next).mp takes
      refine (ensures_act action next).mpr ?_
      cases action with
      | fetch address length =>
          intro bytes isBytes
          obtain rfl := isBytes isFaithful
          exact ih _ (takes.2 _) ensures
      | store address bytes => exact fun _ => ih _ (takes.2 _) ensures
      | storageKey _ => exact takes.1.elim
      | translate _ => exact takes.1.elim
      | registers | modify _ | setTimer _ | purgeTlb | handOff _ _ | log _ =>
          exact ih _ (takes.2 _) ensures

end Microcode

section Runs

variable {Machine Refusal : Type} {callouts : Callouts Machine Refusal} {answers : Answers}
  {asked : Action → Prop} {memory : Machine → Memory} {start : Machine}

/-- While a machine is only looked at, its memory stays, fetches answer with it, and the other
questions that are asked get the answers that are given. -/
structure Callouts.Tells (callouts : Callouts Machine Refusal) (answers : Answers)
    (asked : Action → Prop) (memory : Machine → Memory) (start : Machine) : Prop where
  keeps : ∀ machine, callouts.Reaches Callout.Looks start machine →
    memory machine = memory start
  fetches : ∀ (journal : Journal) (address : UInt32) (length : Nat) (machine : Machine)
    (bytes : Bytes length), (journal.fetch callouts address length machine).1 = .ok bytes →
    bytes = (journal.onto (memory machine)).bytes address length
  storageKey : ∀ machine, callouts.Reaches Callout.Looks start machine →
    ∀ address, asked (.storageKey address) → ∀ key,
      (callouts.storageKey (Address.wrap address) machine).1 = .ok key →
      key.Alike (answers.key (Address.wrap address))
  translate : ∀ machine, callouts.Reaches Callout.Looks start machine →
    ∀ address, asked (.translate address) → ∀ control0 control1 found,
      (callouts.translate control0 control1 (Address.wrap address) machine).1 = .ok found →
      found = answers.translation control0 control1 (Address.wrap address)

theorem StorageView.tells (view : StorageView callouts) (answers : Answers) (start : Machine) :
    callouts.Tells answers Action.FromStorage view.memory start where
  keeps _ looked := view.memory_of_looks looked
  fetches journal address length machine := view.fetch_ok journal address length machine
  storageKey _ _ _ unasked := unasked.elim
  translate _ _ _ unasked := unasked.elim

/-- An action that is not refused does what its evaluation tells. -/
theorem Action.run_eval (tells : callouts.Tells answers asked memory start) {action : Action}
    (isAsked : asked action) {staging : Staging Machine}
    (reached : callouts.Reaches Callout.Looks start staging.machine) {answer : action.Answer}
    {after : Staging Machine} (ran : action.run callouts staging = (.ok answer, after)) :
    action.AnswersAlike answer (action.eval answers (staging.scene memory)).1 ∧
      after.scene memory = (action.eval answers (staging.scene memory)).2 := by
  have kept := (tells.keeps _ (reached.trans (action.run_looks callouts staging))).trans
    (tells.keeps _ reached).symm
  rw [ran] at kept
  cases action with
  | fetch address length =>
      have fetched := tells.fetches staging.journal address length staging.machine answer
      simp only [Action.run, Prod.mk.injEq] at ran
      obtain ⟨answered, rfl⟩ := ran
      exact ⟨fetched answered, by simp only [Staging.scene, kept, eval]⟩
  | storageKey address =>
      have keyed := tells.storageKey staging.machine reached address isAsked
      simp only [Action.run] at ran
      split at ran <;> simp only [Prod.mk.injEq, reduceCtorEq, false_and, Except.ok.injEq] at ran
      rename_i answered
      obtain ⟨rfl, rfl⟩ := ran
      exact ⟨keyed _ (congrArg Prod.fst answered), by simp only [Staging.scene, kept, eval]⟩
  | translate address =>
      have translated := tells.translate staging.machine reached address isAsked
      simp only [Action.run] at ran
      split at ran <;> simp only [Prod.mk.injEq, reduceCtorEq, false_and, Except.ok.injEq] at ran
      rename_i answered
      obtain ⟨rfl, rfl⟩ := ran
      rw [translated _ _ _ (congrArg Prod.fst answered)]
      exact ⟨rfl, by simp only [Staging.scene, kept, eval]⟩
  | store address bytes =>
      simp only [Action.run, Prod.mk.injEq] at ran
      obtain ⟨-, rfl⟩ := ran
      exact ⟨rfl, by simp only [Staging.scene, Journal.onto_store, eval]⟩
  | registers =>
      simp only [Action.run, Prod.mk.injEq, Except.ok.injEq] at ran
      obtain ⟨rfl, rfl⟩ := ran
      exact ⟨rfl, rfl⟩
  | modify _ | setTimer _ | purgeTlb | handOff _ _ | log _ =>
      simp only [Action.run, Prod.mk.injEq] at ran
      obtain ⟨-, rfl⟩ := ran
      exact ⟨rfl, rfl⟩

/-- A run that is not refused ends as its evaluation tells. -/
theorem Microcode.run_eval {α : Type} (tells : callouts.Tells answers asked memory start)
    {program : Microcode α} (takes : program.Takes asked) (ignores : program.IgnoresReference)
    {staging : Staging Machine} (reached : callouts.Reaches Callout.Looks start staging.machine) :
    match program.run callouts staging with
    | (.done value, after) =>
        program.eval answers (staging.scene memory) = (.ok value, after.scene memory)
    | (.declined reason, after) =>
        program.eval answers (staging.scene memory) = (.error reason, after.scene memory)
    | (.failed _, _) => True := by
  induction program generalizing staging with
  | done value => rfl
  | decline reason => rfl
  | act action next ih =>
      have takes := (takes_act action next).mp takes
      have looked := reached.trans (action.run_looks callouts staging)
      simp only [Microcode.run, eval]
      cases ran : action.run callouts staging with
      | mk answer middle =>
          rw [ran] at looked
          cases answer with
          | error error => trivial
          | ok answer =>
              obtain ⟨alike, same⟩ := Action.run_eval tells takes.1 reached ran
              rw [← ignores.1 _ _ alike, ← same]
              exact ih answer (takes.2 answer) (ignores.2 answer) looked

end Runs

/-- How the program of an instruction ends, and the scene then. -/
abbrev Evaluation : Type :=
  Except Decline Completion × Scene

namespace Evaluation

/-- The outcome of the instruction. -/
def outcome : Evaluation → Outcome
  | (.ok completion, _) => completion.outcome
  | (.error _, _) => .declined

/-- The registers that the instruction leaves, by those that it finds. -/
def cpu (found : Cpu) : Evaluation → Cpu
  | (.ok _, scene) => scene.committedCpu
  | (.error _, scene) =>
      scene.handOffs.foldl (fun cpu handOff => cpu.setGeneral handOff.1 handOff.2) found

/-- The memory that the instruction leaves, by the one that it finds. -/
def memory (found : Memory) : Evaluation → Memory
  | (.ok _, scene) => scene.memory
  | (.error _, _) => found

end Evaluation

section Instructions

variable {Machine Refusal : Type} {callouts : Callouts Machine Refusal}

/-- A response is what an instruction comes to, by the end of its program and what it has found. -/
structure Response.ComesTo (response : Response Machine Refusal) (view : StorageView callouts)
    (found : System Machine) (evaluation : Evaluation) : Prop where
  result : response.result = .ok evaluation.outcome
  cpu : response.system.cpu = evaluation.cpu found.cpu
  memory : view.memory response.system.machine = evaluation.memory (view.memory found.machine)

/-- The responses are of the same outcome, registers and storage. -/
structure Response.SameAs (response other : Response Machine Refusal)
    (view : StorageView callouts) : Prop where
  result : response.result = other.result
  cpu : response.system.cpu = other.system.cpu
  memory : view.memory response.system.machine = view.memory other.system.machine

theorem Response.ComesTo.sameAs {response other : Response Machine Refusal}
    {view : StorageView callouts} {found : System Machine} {evaluation : Evaluation}
    (comesTo : response.ComesTo view found evaluation)
    (otherComesTo : other.ComesTo view found evaluation) : response.SameAs other view :=
  ⟨comesTo.result.trans otherComesTo.result.symm, comesTo.cpu.trans otherComesTo.cpu.symm,
    comesTo.memory.trans otherComesTo.memory.symm⟩

namespace System

/-- An answered instruction comes to what the evaluation of its program tells. -/
theorem settle_comesTo {answers : Answers} {asked : Action → Prop} (view : StorageView callouts)
    {system : System Machine} (tells : callouts.Tells answers asked view.memory system.machine)
    (assist : Assist) {program : Microcode Completion} (takes : program.Takes asked)
    (ignores : program.IgnoresReference) {staging : Staging Machine}
    (reached : callouts.Reaches Callout.Looks system.machine staging.machine)
    (inSpace : staging.journal.InSpace)
    (answered : (system.settle callouts assist (program.run callouts staging)).Answered) :
    (system.settle callouts assist (program.run callouts staging)).ComesTo view system
      (program.eval answers (staging.scene view.memory)) := by
  have ends := Microcode.run_eval tells takes ignores reached
  have looked := view.memory_of_looks (reached.trans (program.run_looks callouts staging))
  have inSpace := program.run_inSpace callouts inSpace
  generalize program.run callouts staging = ran at ends looked inSpace answered
  rcases ran with ⟨completion | reason | error, after⟩
  · simp only at ends
    rw [ends]
    cases committed : after.commit callouts with
    | mk answer machine =>
        rcases answer with error | cpu
        · simp [settle, committed, Response.Answered, Except.isOk, Except.toBool] at answered
        · obtain ⟨sameCpu, seen⟩ := view.commit_ok inSpace (congrArg Prod.fst committed)
          rw [committed] at seen
          constructor
          all_goals simp only [settle, committed]
          · rfl
          · exact sameCpu
          · exact seen
  · simp only at ends
    rw [ends]
    exact ⟨rfl, rfl, looked⟩
  · simp [settle, Response.Answered, Except.isOk, Except.toBool] at answered

end System

end Instructions

end Assist370
