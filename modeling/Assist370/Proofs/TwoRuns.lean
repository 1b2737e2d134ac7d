import Assist370.Proofs.Outcome

/-!
# Two runs side by side

Two runs of a program start from the same machine with different registers. As long as the program
goes on in the same way whichever of the registers it looks at, both runs take the same actions and
get the same answers, so that they differ in registers alone. `Microcode.Couples` says this along
the tree of the program together with what holds of both in the end, where the scene is that of the
one run and the registers of the other are carried along.
-/

namespace Assist370

namespace Action

/-- The registers after an action. -/
def registersAfter : Action → Cpu → Cpu
  | modify change, cpu => change cpu
  | setTimer value, cpu => { cpu with cpuTimer := value }
  | _, cpu => cpu

/-- An action and what follows it do not tell the registers of two processors apart. -/
def Overlooks {α : Type} (cpu other : Cpu) :
    (action : Action) → (action.Answer → Microcode α) → Prop
  | registers, next => next other = next cpu
  | translate _, _ =>
      other.control.read 0 = cpu.control.read 0 ∧ other.control.read 1 = cpu.control.read 1
  | _, _ => True

/-- The action does not look at registers. -/
@[simp]
def IsBlind : Action → Prop
  | registers | translate _ => False
  | _ => True

/-- The action neither looks at registers nor changes them. -/
@[simp]
def IgnoresRegisters : Action → Prop
  | registers | translate _ | modify _ | setTimer _ => False
  | _ => True

@[simp]
theorem isBlind_allowsStores : Microcode.AllowsStores IsBlind :=
  fun _ _ => trivial

@[simp]
theorem ignoresRegisters_allowsStores : Microcode.AllowsStores IgnoresRegisters :=
  fun _ _ => trivial

end Action

namespace Microcode

variable {α β : Type} {known : Knowledge}

@[simp]
theorem fetchRow_isBlind [Stored β] (block : UInt32) (field : Field β) (count : Nat) :
    (fetchRow block field count).Takes Action.IsBlind :=
  takes_fetchRow_of_fetches (fun _ _ => trivial) block field count

@[simp]
theorem fetchRow_ignoresRegisters [Stored β] (block : UInt32) (field : Field β) (count : Nat) :
    (fetchRow block field count).Takes Action.IgnoresRegisters :=
  takes_fetchRow_of_fetches (fun _ _ => trivial) block field count

/-- Two runs of a program go the same way, and in the end a postcondition holds of the result, the
scene of the one run and the registers of the other. -/
def Couples (known : Knowledge) (post : α → Scene → Cpu → Prop) :
    Microcode α → Scene → Cpu → Prop
  | done value, scene, other => post value scene other
  | decline _, _, _ => True
  | act action next, scene, other =>
      action.Overlooks scene.cpu other next ∧
        action.Ensures known
          (fun answer after => (next answer).Couples known post after (action.registersAfter other))
          scene

variable {post : α → Scene → Cpu → Prop} {scene : Scene} {other : Cpu}

@[simp]
theorem couples_pure (value : α) :
    (pure value : Microcode α).Couples known post scene other ↔ post value scene other :=
  Iff.rfl

@[simp]
theorem couples_decline (reason : Decline) :
    (decline reason : Microcode α).Couples known post scene other :=
  trivial

@[simp]
theorem couples_decline_bind (reason : Decline) (next : β → Microcode α) :
    ((decline reason : Microcode β) >>= next).Couples known post scene other :=
  trivial

@[simp]
theorem couples_ite (condition : Prop) [Decidable condition] (yes no : Microcode α) :
    (if condition then yes else no).Couples known post scene other ↔
      (condition → yes.Couples known post scene other) ∧
        (¬condition → no.Couples known post scene other) := by
  split <;> simp_all

/-- Runs of a program in two parts go the same way if those of each part do. -/
theorem couples_bind {program : Microcode β} {next : β → Microcode α}
    (couples : program.Couples known
      (fun value after other => (next value).Couples known post after other) scene other) :
    (program >>= next).Couples known post scene other := by
  rw [bind_eq_bind]
  induction program generalizing scene other with
  | done value => exact couples
  | decline reason => trivial
  | act action answer ih =>
      refine ⟨?_, couples.2.mono fun _ _ => ih _⟩
      have overlooks := couples.1
      cases action with
      | registers => exact congrArg (·.bind next) overlooks
      | translate _ => exact overlooks
      | _ => trivial

/-- A postcondition may be weakened for the results that the program can have. -/
theorem Couples.mono {weaker : α → Scene → Cpu → Prop} {program : Microcode α}
    (couples : program.Couples known post scene other)
    (implies : ∀ value after otherAfter, post value after otherAfter →
      weaker value after otherAfter) :
    program.Couples known weaker scene other := by
  induction program generalizing scene other with
  | done value => exact implies value scene other couples
  | decline reason => trivial
  | act action next ih => exact ⟨couples.1, couples.2.mono fun answer _ => ih answer⟩

/-- A program that does not look at registers couples its runs, whatever the registers are. -/
theorem couples_of_blind {program : Microcode α} (blind : program.Takes Action.IsBlind)
    (holds : ∀ value after otherAfter, program.Yields value → post value after otherAfter) :
    program.Couples known post scene other := by
  induction program generalizing scene other with
  | done value => exact holds value scene other (yields_pure.mpr rfl)
  | decline reason => trivial
  | act action next ih =>
      have blind := (takes_act action next).mp blind
      have later : ∀ answer after otherAfter,
          (next answer).Couples known post after otherAfter := by
        intro answer after otherAfter
        refine ih answer (blind.2 answer) fun value final otherFinal yields => ?_
        exact holds value final otherFinal ((yields_act action next).mpr ⟨answer, yields⟩)
      refine ⟨?_, Action.ensures_of_forall fun answer after => later answer after _⟩
      cases action with
      | registers | translate _ => exact blind.1.elim
      | _ => trivial

/-- What follows a program that neither looks at registers nor changes them starts with the
registers as they were. -/
theorem couples_bind_of_ignores {program : Microcode β} {next : β → Microcode α}
    (ignores : program.Takes Action.IgnoresRegisters)
    (achieves : program.Achieves known
      (fun value after => after.cpu = scene.cpu → (next value).Couples known post after other)
      scene) :
    (program >>= next).Couples known post scene other := by
  refine couples_bind ?_
  have later : ∀ cpu, scene.cpu = cpu → program.Achieves known
      (fun value after => after.cpu = cpu → (next value).Couples known post after other) scene →
      program.Couples known
        (fun value after other => (next value).Couples known post after other) scene other := by
    clear achieves
    intro cpu same achieves
    induction program generalizing scene with
    | done value => exact (ensures_pure value).mp achieves same
    | decline reason => trivial
    | act action answer ih =>
        have ignores := (takes_act action answer).mp ignores
        have achieves := (ensures_act action answer).mp achieves
        have going : ∀ given (after : Scene), after.cpu = cpu →
            (answer given).Achieves known
              (fun value after => after.cpu = cpu → (next value).Couples known post after other)
              after →
            (answer given).Couples known
              (fun value after other => (next value).Couples known post after other) after other :=
          fun given after sameAfter => ih given (ignores.2 given) sameAfter
        cases action with
        | registers | translate _ | modify _ | setTimer _ => exact ignores.1.elim
        | fetch _ _ =>
            exact ⟨trivial, fun bytes isKnown => going bytes scene same (achieves bytes isKnown)⟩
        | storageKey _ => exact ⟨trivial, fun key => going key scene same (achieves key)⟩
        | store _ _ => exact ⟨trivial, fun isStored => going () _ same (achieves isStored)⟩
        | purgeTlb | handOff _ _ | log _ => exact ⟨trivial, going () _ same achieves⟩
  exact later scene.cpu rfl achieves

/-- What follows a program that neither looks at registers nor changes them may be taken apart for
any result and any scene with the registers as they were. -/
theorem couples_after_ignored {program : Microcode β} {next : β → Microcode α}
    (ignores : program.Takes Action.IgnoresRegisters)
    (couples : ∀ value after, after.cpu = scene.cpu →
      (next value).Couples known post after other) :
    (program >>= next).Couples known post scene other :=
  couples_bind_of_ignores ignores (ensures_of_forall couples fun _ _ => trivial)

@[simp]
theorem couples_modify (change : Cpu → Cpu) (next : Unit → Microcode α) :
    (modify change >>= next).Couples known post scene other ↔
      (next ()).Couples known post { scene with cpu := change scene.cpu } (change other) :=
  Iff.of_eq (true_and _)

@[simp]
theorem couples_setTimer (value : Int64) (next : Unit → Microcode α) :
    (setTimer value >>= next).Couples known post scene other ↔
      (next ()).Couples known post
        { scene with cpu := { scene.cpu with cpuTimer := value }, timerSet := true }
        { other with cpuTimer := value } :=
  Iff.of_eq (true_and _)

/-- Looking at registers is of no account where the program goes on in the same way. -/
theorem couples_registers {next : Cpu → Microcode α} (same : next other = next scene.cpu)
    (couples : (next scene.cpu).Couples known post scene other) :
    (registers >>= next).Couples known post scene other :=
  ⟨same, couples⟩

/-- What the one run achieves holds beside what couples the runs. -/
theorem Couples.and_achieves {achieved : α → Scene → Prop} {program : Microcode α}
    (couples : program.Couples known post scene other)
    (achieves : program.Achieves known achieved scene) :
    program.Couples known (fun value after otherAfter => post value after otherAfter ∧
      achieved value after) scene other := by
  induction program generalizing scene other with
  | done value => exact ⟨couples, (ensures_done value).mp achieves⟩
  | decline reason => trivial
  | act action next ih =>
      have achieves := (ensures_act action next).mp achieves
      exact ⟨couples.1, (couples.2.and achieves).mono fun answer _ both => ih answer both.1 both.2⟩

end Microcode

section Runs

variable {Machine Refusal : Type} {callouts : Callouts Machine Refusal} {known : Knowledge}
  {memory : Machine → Memory} {start : Machine}

/-- An action that does not look at registers does the same whatever they are. -/
theorem Action.run_registers (callouts : Callouts Machine Refusal) {action : Action} {α : Type}
    {next : action.Answer → Microcode α} {staging : Staging Machine} {other : Cpu}
    (overlooks : action.Overlooks staging.cpu other next) :
    (∃ error after, action.run callouts staging = (.error error, after) ∧
      action.run callouts { staging with cpu := other } =
        (.error error, { after with cpu := action.registersAfter other })) ∨
    ∃ answer otherAnswer after, action.run callouts staging = (.ok answer, after) ∧
      action.run callouts { staging with cpu := other } =
        (.ok otherAnswer, { after with cpu := action.registersAfter other }) ∧
      next otherAnswer = next answer := by
  cases action with
  | fetch address length =>
      simp only [run]
      rcases staging.journal.fetch callouts address length staging.machine with
        ⟨_ | answer, machine⟩
      · exact .inl ⟨_, _, rfl, rfl⟩
      · exact .inr ⟨_, _, _, rfl, rfl, rfl⟩
  | storageKey address =>
      simp only [run]
      rcases callouts.storageKey (Address.wrap address) staging.machine with ⟨_ | key, machine⟩
      · exact .inl ⟨_, _, rfl, rfl⟩
      · exact .inr ⟨_, _, _, rfl, rfl, rfl⟩
  | translate address =>
      simp only [run, overlooks.1, overlooks.2]
      rcases callouts.translate (staging.cpu.control.read 0) (staging.cpu.control.read 1)
        (Address.wrap address) staging.machine with ⟨_ | real, machine⟩
      · exact .inl ⟨_, _, rfl, rfl⟩
      · exact .inr ⟨_, _, _, rfl, rfl, rfl⟩
  | registers => exact .inr ⟨_, _, _, rfl, rfl, overlooks⟩
  | store _ _ | modify _ | setTimer _ | purgeTlb | handOff _ _ | log _ =>
      exact .inr ⟨_, _, _, rfl, rfl, rfl⟩

/-- Coupled runs end in the same way and differ in registers alone. -/
theorem Microcode.Couples.run {α : Type} {post : α → Scene → Cpu → Prop} {program : Microcode α}
    {staging : Staging Machine} {other : Cpu} (shows : callouts.Shows known memory start)
    (reached : callouts.Reaches Callout.Looks start staging.machine)
    (stores : ∀ region, (program.run callouts staging).2.journal.Covers region →
      known.stores region)
    (couples : program.Couples known post (staging.scene memory) other) :
    ∃ otherAfter, program.run callouts { staging with cpu := other } =
        ((program.run callouts staging).1,
          { (program.run callouts staging).2 with cpu := otherAfter }) ∧
      ∀ value after, program.run callouts staging = (.done value, after) →
        post value (after.scene memory) otherAfter := by
  induction program generalizing staging other with
  | done value =>
      refine ⟨other, rfl, fun _ _ done => ?_⟩
      cases done
      exact couples
  | decline reason => exact ⟨other, rfl, fun _ _ done => by simp [Microcode.run] at done⟩
  | act action next ih =>
      obtain ⟨overlooks, ensures⟩ := couples
      have looked := reached.trans (action.run_looks callouts staging)
      rcases Action.run_registers callouts overlooks with
        ⟨error, after, ran, otherRan⟩ | ⟨answer, otherAnswer, after, ran, otherRan, same⟩
      · refine ⟨action.registersAfter other, ?_, fun value final done => ?_⟩
        · simp only [Microcode.run, ran, otherRan]
        · simp [Microcode.run, ran] at done
      · simp only [Microcode.run, ran, otherRan, same] at stores looked ⊢
        have later :=
          Action.Ensures.run shows action staging reached ensures ran fun region covers =>
            stores region ((next answer).run_covers callouts covers)
        exact ih answer looked stores later

end Runs

attribute [irreducible] Microcode.Couples

end Assist370
