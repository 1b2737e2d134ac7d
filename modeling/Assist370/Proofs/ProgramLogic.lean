import Assist370.Proofs.Footprint
import Assist370.Proofs.Completion

/-!
# Reasoning about programs

`Microcode.Ensures` says what holds when a program ends, computed along the tree from what each
action does to a `Scene`: the registers and the storage that the assist sees. What fetches answer is
known if storage is faithful, what stores there are can be known from the journal of a run, and what
keys and translations there are is left open. Where the callouts have a storage view, or none is
asked for, what a program ensures holds of its runs (`Ensures.run`).
-/

namespace Assist370

/-- What an assist has before it, as far as its own actions change it. -/
structure Scene where
  memory : Memory
  cpu : Cpu
  purge : Bool := false
  timerSet : Bool := false
  handOffs : List (RegisterNumber × UInt32) := []
  log : List Event := []

/-- What is known of a run: whether fetches answer with the bytes of memory, which answers there are
to translations of an address under control registers 0 and 1, and where stores go. -/
structure Knowledge where
  faithful : Prop
  translates : UInt32 → UInt32 → UInt32 → Except TranslationFault UInt32 → Prop :=
    fun _ _ _ _ => True
  stores : Region → Prop := fun _ => True

namespace Knowledge

/-- Nothing is known. -/
def none : Knowledge where
  faithful := False

/-- Storage is known. -/
def ofStorage : Knowledge where
  faithful := True

/-- Wherever stores go, they do not go into a region. -/
def Spares (known : Knowledge) (region : Region) : Prop :=
  ∀ stored, known.stores stored → stored.Apart region

end Knowledge

/-- What an action answers and does to a scene has to meet a postcondition, as far as the answer is
known. -/
def Action.Ensures (known : Knowledge) :
    (action : Action) → (action.Answer → Scene → Prop) → Scene → Prop
  | fetch address length, post, scene =>
      ∀ bytes, (known.faithful → bytes = scene.memory.bytes address length) → post bytes scene
  | store address bytes, post, scene =>
      known.stores ⟨address, bytes.length⟩ →
        post () { scene with memory := scene.memory.store address bytes }
  | storageKey _, post, scene => ∀ key, post key scene
  | translate address, post, scene =>
      ∀ answer, known.translates (scene.cpu.control.read 0) (scene.cpu.control.read 1)
        (Address.wrap address) answer → post answer scene
  | registers, post, scene => post scene.cpu scene
  | modify change, post, scene => post () { scene with cpu := change scene.cpu }
  | setTimer value, post, scene =>
      post () { scene with cpu := { scene.cpu with cpuTimer := value }, timerSet := true }
  | purgeTlb, post, scene => post () { scene with purge := true }
  | handOff register value, post, scene =>
      post () { scene with handOffs := scene.handOffs ++ [(register, value)] }
  | log event, post, scene => post () { scene with log := scene.log ++ [event] }

theorem Action.Ensures.mono {known : Knowledge} {action : Action}
    {post weaker : action.Answer → Scene → Prop} {scene : Scene}
    (ensures : action.Ensures known post scene)
    (implies : ∀ answer after, post answer after → weaker answer after) :
    action.Ensures known weaker scene := by
  cases action with
  | fetch _ _ => exact fun bytes known => implies bytes scene (ensures bytes known)
  | storageKey _ => exact fun key => implies key scene (ensures key)
  | translate _ => exact fun answer isKnown => implies answer scene (ensures answer isKnown)
  | store _ _ => exact fun isKnown => implies () _ (ensures isKnown)
  | registers | modify _ | setTimer _ | purgeTlb | handOff _ _ | log _ =>
      exact implies _ _ ensures

/-- An action ensures whatever holds always. -/
theorem Action.ensures_of_forall {known : Knowledge} {action : Action}
    {post : action.Answer → Scene → Prop} {scene : Scene}
    (holds : ∀ answer after, post answer after) : action.Ensures known post scene := by
  cases action with
  | fetch _ _ => exact fun bytes _ => holds bytes scene
  | storageKey _ => exact fun key => holds key scene
  | translate _ => exact fun answer _ => holds answer scene
  | store _ _ => exact fun _ => holds () _
  | registers | modify _ | setTimer _ | purgeTlb | handOff _ _ | log _ => exact holds _ _

/-- An action ensures together what it ensures of each. -/
theorem Action.Ensures.and {known : Knowledge} {action : Action}
    {post other : action.Answer → Scene → Prop} {scene : Scene}
    (first : action.Ensures known post scene) (second : action.Ensures known other scene) :
    action.Ensures known (fun answer after => post answer after ∧ other answer after) scene := by
  cases action with
  | fetch _ _ => exact fun bytes isKnown => ⟨first bytes isKnown, second bytes isKnown⟩
  | storageKey _ => exact fun key => ⟨first key, second key⟩
  | translate _ => exact fun answer isKnown => ⟨first answer isKnown, second answer isKnown⟩
  | store _ _ => exact fun isKnown => ⟨first isKnown, second isKnown⟩
  | registers | modify _ | setTimer _ | purgeTlb | handOff _ _ | log _ => exact ⟨first, second⟩

namespace Microcode

variable {α β : Type} {known : Knowledge} {declined : Decline → Scene → Prop}

/-- What holds when a program ends: a postcondition of its result, or one of its decline. -/
def Ensures (known : Knowledge) (declined : Decline → Scene → Prop) :
    Microcode α → (α → Scene → Prop) → Scene → Prop
  | done value, post, scene => post value scene
  | decline reason, _, scene => declined reason scene
  | act action next, post, scene =>
      action.Ensures known
        (fun answer after => (next answer).Ensures known declined post after) scene

/-- What holds when a program is done. -/
abbrev Achieves {α : Type} (known : Knowledge) (program : Microcode α)
    (post : α → Scene → Prop) (scene : Scene) : Prop :=
  program.Ensures known (fun _ _ => True) post scene

variable {post : α → Scene → Prop} {scene : Scene}

@[simp]
theorem ensures_pure (value : α) :
    (pure value : Microcode α).Ensures known declined post scene ↔ post value scene :=
  Iff.rfl

@[simp]
theorem ensures_decline (reason : Decline) :
    (decline reason : Microcode α).Ensures known declined post scene ↔
      declined reason scene :=
  Iff.rfl

@[simp]
theorem ensures_done (value : α) :
    (done value).Ensures known declined post scene ↔ post value scene :=
  Iff.rfl

@[simp]
theorem ensures_act (action : Action) (next : action.Answer → Microcode α) :
    (act action next).Ensures known declined post scene ↔
      action.Ensures known
        (fun answer after => (next answer).Ensures known declined post after) scene :=
  Iff.rfl

theorem ensures_perform (action : Action) {post : action.Answer → Scene → Prop} :
    (perform action).Ensures known declined post scene ↔ action.Ensures known post scene :=
  Iff.rfl

@[simp]
theorem ensures_bind (program : Microcode β) (next : β → Microcode α) :
    (program >>= next).Ensures known declined post scene ↔
      program.Ensures known declined
        (fun value after => (next value).Ensures known declined post after) scene := by
  rw [bind_eq_bind]
  induction program generalizing scene with
  | done value => exact Iff.rfl
  | decline reason => exact Iff.rfl
  | act action answer ih => simp only [Microcode.bind, Ensures, ih]

theorem ensures_map (change : β → α) (program : Microcode β) :
    (change <$> program).Ensures known declined post scene ↔
      program.Ensures known declined (fun value after => post (change value) after) scene := by
  rw [← bind_pure_comp, ensures_bind]
  simp only [ensures_pure]

@[simp]
theorem ensures_attempt (program : Microcode β) {post : Except Decline β → Scene → Prop} :
    program.attempt.Ensures known declined post scene ↔
      program.Ensures known (fun reason after => post (.error reason) after)
        (fun value after => post (.ok value) after) scene := by
  induction program generalizing scene with
  | done value => exact Iff.rfl
  | decline reason => exact Iff.rfl
  | act action answer ih => simp only [attempt, Ensures, ih]

@[simp]
theorem ensures_ite (condition : Prop) [Decidable condition] (yes no : Microcode α) :
    (if condition then yes else no).Ensures known declined post scene ↔
      (condition → yes.Ensures known declined post scene) ∧
        (¬condition → no.Ensures known declined post scene) := by
  split <;> simp_all

@[simp]
theorem ensures_require (check : Bool) (reason : Decline) {post : Unit → Scene → Prop} :
    (require check reason).Ensures known declined post scene ↔
      (check = true → post () scene) ∧ (check = false → declined reason scene) := by
  cases check <;> simp [require]

@[simp]
theorem ensures_registers {post : Cpu → Scene → Prop} :
    registers.Ensures known declined post scene ↔ post scene.cpu scene :=
  Iff.rfl

@[simp]
theorem ensures_general (register : RegisterNumber) {post : UInt32 → Scene → Prop} :
    (general register).Ensures known declined post scene ↔
      post (scene.cpu.general.read register) scene := by
  simp [general, ensures_map]

section Actions

variable {post : Unit → Scene → Prop}

@[simp]
theorem ensures_modify (change : Cpu → Cpu) :
    (modify change).Ensures known declined post scene ↔
      post () { scene with cpu := change scene.cpu } :=
  Iff.rfl

@[simp]
theorem ensures_setTimer (value : Int64) :
    (setTimer value).Ensures known declined post scene ↔
      post () { scene with cpu := { scene.cpu with cpuTimer := value }, timerSet := true } :=
  Iff.rfl

@[simp]
theorem ensures_purgeTlb :
    purgeTlb.Ensures known declined post scene ↔ post () { scene with purge := true } :=
  Iff.rfl

@[simp]
theorem ensures_handOff (register : RegisterNumber) (value : UInt32) :
    (handOff register value).Ensures known declined post scene ↔
      post () { scene with handOffs := scene.handOffs ++ [(register, value)] } :=
  Iff.rfl

@[simp]
theorem ensures_log (event : Event) :
    (log event).Ensures known declined post scene ↔
      post () { scene with log := scene.log ++ [event] } :=
  Iff.rfl

@[simp]
theorem ensures_store [Stored β] (block : UInt32) (field : Field β) (value : β) :
    (store block field value).Ensures known declined post scene ↔
      (known.stores (.ofField block field) →
        post () { scene with memory := scene.memory.put block field value }) := by
  refine (ensures_perform _).trans ?_
  simp only [Action.Ensures, Vector.length_toList, Memory.put, Region.ofField]

end Actions

/-- A fetch answers with the value of the field. -/
theorem ensures_fetch [Stored β] (block : UInt32) (field : Field β)
    {post : β → Scene → Prop}
    (ensures : ∀ value, (known.faithful → value = scene.memory.get block field) →
      post value scene) :
    (fetch block field).Ensures known declined post scene := by
  intro bytes known
  refine ensures _ fun isFaithful => ?_
  rw [known isFaithful, Memory.get]

/-- Where storage is faithful, a fetch answers with the value of the field and no other. -/
theorem ensures_fetch_iff [Stored β] (isFaithful : known.faithful) (block : UInt32)
    (field : Field β) {post : β → Scene → Prop} :
    (fetch block field).Ensures known declined post scene ↔
      post (scene.memory.get block field) scene := by
  constructor
  · intro ensures
    exact ensures _ fun _ => rfl
  · intro holds
    exact ensures_fetch block field fun value isValue => isValue isFaithful ▸ holds

/-- A postcondition may be weakened for the results that the program can have. -/
theorem Ensures.mono_of_yields {weaker : α → Scene → Prop}
    {declinedWeaker : Decline → Scene → Prop} {program : Microcode α}
    (ensures : program.Ensures known declined post scene)
    (implies : ∀ value after, program.Yields value → post value after → weaker value after)
    (declinedImplies : ∀ reason after, declined reason after → declinedWeaker reason after) :
    program.Ensures known declinedWeaker weaker scene := by
  induction program generalizing scene with
  | done value => exact implies value scene (yields_pure.mpr rfl) ensures
  | decline reason => exact declinedImplies reason scene ensures
  | act action next ih =>
      exact Action.Ensures.mono ensures fun answer after later =>
        ih answer later fun value final yields =>
          implies value final ((yields_act action next).mpr ⟨answer, yields⟩)

theorem Ensures.mono {weaker : α → Scene → Prop} {declinedWeaker : Decline → Scene → Prop}
    {program : Microcode α} (ensures : program.Ensures known declined post scene)
    (implies : ∀ value after, post value after → weaker value after)
    (declinedImplies : ∀ reason after, declined reason after → declinedWeaker reason after) :
    program.Ensures known declinedWeaker weaker scene :=
  ensures.mono_of_yields (fun value after _ => implies value after) declinedImplies

/-- A program ensures together what it ensures of each. -/
theorem Ensures.and {other : α → Scene → Prop} {declinedOther : Decline → Scene → Prop}
    {program : Microcode α} (first : program.Ensures known declined post scene)
    (second : program.Ensures known declinedOther other scene) :
    program.Ensures known (fun reason after => declined reason after ∧ declinedOther reason after)
      (fun value after => post value after ∧ other value after) scene := by
  induction program generalizing scene with
  | done value => exact ⟨first, second⟩
  | decline reason => exact ⟨first, second⟩
  | act action next ih =>
      exact (Action.Ensures.and first second).mono fun answer after both => ih answer both.1 both.2

/-- A program that takes actions of a kind ensures what holds before it and is kept by every action
of the kind. -/
theorem Takes.ensures {allowed : Action → Prop} {invariant : Scene → Prop}
    {program : Microcode α} (takes : program.Takes allowed)
    (kept : ∀ action scene, allowed action → invariant scene →
      action.Ensures known (fun _ after => invariant after) scene)
    (holds : invariant scene) :
    program.Ensures known (fun _ after => invariant after) (fun _ after => invariant after)
      scene := by
  induction program generalizing scene with
  | done value => exact holds
  | decline reason => exact holds
  | act action next ih =>
      have takes := (takes_act action next).mp takes
      exact (kept action scene takes.1 holds).mono fun answer after =>
        ih answer (takes.2 answer)

/-- A program that only looks ends with some result in the scene that it starts with. -/
theorem Takes.ensures_of_looks {program : Microcode α} (looks : program.Takes Action.OnlyLooks)
    (holds : ∀ value, post value scene) (declinedHolds : ∀ reason, declined reason scene) :
    program.Ensures known declined post scene := by
  have kept : ∀ (action : Action) (before : Scene), action.OnlyLooks → before = scene →
      action.Ensures known (fun _ after => after = scene) before := by
    intro action before allowed same
    cases action with
    | fetch _ _ => exact fun _ _ => same
    | storageKey _ => exact fun _ => same
    | translate _ => exact fun _ _ => same
    | registers => exact same
    | store _ _ | modify _ | setTimer _ | purgeTlb | handOff _ _ | log _ => exact allowed.elim
  refine (looks.ensures kept rfl).mono ?_ ?_
  · rintro value after rfl
    exact holds value
  · rintro reason after rfl
    exact declinedHolds reason

/-- A program ensures whatever holds always. -/
theorem ensures_of_forall {program : Microcode α} (holds : ∀ value after, post value after)
    (declinedHolds : ∀ reason after, declined reason after) :
    program.Ensures known declined post scene := by
  induction program generalizing scene with
  | done value => exact holds value scene
  | decline reason => exact declinedHolds reason scene
  | act action next ih => exact Action.ensures_of_forall fun answer after => ih answer

/-- The first part of a program is of no account where the rest achieves something in any scene. -/
theorem achieves_skip {program : Microcode β} {next : β → Microcode α}
    (achieves : ∀ value after, (next value).Achieves known post after) :
    (program >>= next).Achieves known post scene :=
  (ensures_bind _ _).mpr (ensures_of_forall achieves fun _ _ => trivial)

/-- A premise of a program is one of what it achieves. -/
theorem achieves_of_imp {premise : Prop} {program : Microcode α} {post : α → Scene → Prop}
    (achieves : premise → program.Achieves known post scene) :
    program.Achieves known (fun value after => premise → post value after) scene := by
  by_cases holds : premise
  · exact (achieves holds).mono (fun _ _ achieved _ => achieved) fun _ _ => id
  · exact ensures_of_forall (fun _ _ impossible => absurd impossible holds) fun _ _ => trivial

/-- A region stays as it is that no store goes into. -/
theorem ensures_spares (program : Microcode α) (scene : Scene) :
    program.Ensures known
      (fun _ after => ∀ region, known.Spares region → after.memory.AgreesOn scene.memory region)
      (fun _ after => ∀ region, known.Spares region → after.memory.AgreesOn scene.memory region)
      scene := by
  have kept : ∀ (action : Action) (before : Scene), True →
      (∀ region, known.Spares region → before.memory.AgreesOn scene.memory region) →
      action.Ensures known
        (fun _ after => ∀ region, known.Spares region → after.memory.AgreesOn scene.memory region)
        before := by
    intro action before _ agrees
    cases action with
    | store address bytes =>
        intro isStored region spares
        exact (Memory.store_agreesOn address bytes (spares _ isStored)).trans (agrees region spares)
    | fetch _ _ => exact fun _ _ => agrees
    | storageKey _ => exact fun _ => agrees
    | translate _ => exact fun _ _ => agrees
    | registers | modify _ | setTimer _ | purgeTlb | handOff _ _ | log _ => exact agrees
  have takes : program.Takes fun _ => True := program.takes_of_forall fun _ => trivial
  exact takes.ensures kept fun _ _ _ _ => rfl

theorem ensures_fetchAddress (block : UInt32) (field : Field UInt32)
    {post : UInt32 → Scene → Prop}
    (ensures : ∀ address, (known.faithful → address = scene.memory.getAddress block field) →
      post address scene) :
    (fetchAddress block field).Ensures known declined post scene := by
  simp only [fetchAddress, ensures_bind, ensures_pure]
  refine ensures_fetch block field fun word isWord => ?_
  exact ensures _ fun isFaithful => by rw [isWord isFaithful, Memory.getAddress]

theorem fetchRow_ensures {α : Type} [Stored α] (isFaithful : known.faithful) (block : UInt32)
    (field : Field α) (count : Nat) {post : Vector α count → Scene → Prop}
    (ensures : post (Vector.ofFn fun index => scene.memory.get block (field.item index)) scene) :
    (fetchRow block field count).Ensures known declined post scene := by
  induction count with
  | zero => exact (ensures_pure _).mpr ensures
  | succ count ih =>
      simp only [fetchRow, ensures_bind, ensures_pure, ensures_fetch_iff isFaithful]
      apply ih
      rw [Vector.ofFn_succ] at ensures
      exact ensures

theorem ensures_testBits (block : UInt32) (field : Field UInt8) (bits : UInt8)
    {post : Bool → Scene → Prop}
    (ensures : ∀ some,
      (known.faithful → some = (scene.memory.get block field &&& bits != 0)) → post some scene) :
    (testBits block field bits).Ensures known declined post scene := by
  simp only [testBits, ensures_bind, ensures_pure]
  refine ensures_fetch block field fun byte isByte => ?_
  exact ensures _ fun isFaithful => by rw [isByte isFaithful]

end Microcode

section Runs

variable {Machine Refusal : Type} {callouts : Callouts Machine Refusal}

/-- The scene of a staging area whose machine has some memory. -/
def Staging.scene (memory : Machine → Memory) (staging : Staging Machine) : Scene where
  memory := staging.journal.onto (memory staging.machine)
  cpu := staging.cpu
  purge := staging.purge
  timerSet := staging.timerSet
  handOffs := staging.handOffs
  log := staging.log

/-- While a machine is only looked at, its memory stays, and its answers are as they are known to
be. -/
structure Callouts.Shows (callouts : Callouts Machine Refusal) (known : Knowledge)
    (memory : Machine → Memory) (start : Machine) : Prop where
  keeps : ∀ machine, callouts.Reaches Callout.Looks start machine →
    memory machine = memory start
  fetches : known.faithful → ∀ (journal : Journal) (address : UInt32) (length : Nat)
    (machine : Machine) (bytes : Bytes length),
    (journal.fetch callouts address length machine).1 = .ok bytes →
    bytes = (journal.onto (memory machine)).bytes address length
  translates : ∀ machine, callouts.Reaches Callout.Looks start machine →
    ∀ control0 control1 address answer,
      (callouts.translate control0 control1 address machine).1 = .ok answer →
      known.translates control0 control1 address (answer.map Address.wrap)

theorem StorageView.shows (view : StorageView callouts) (start : Machine) :
    callouts.Shows .ofStorage view.memory start where
  keeps _ looked := view.memory_of_looks looked
  fetches _ journal address length machine := view.fetch_ok journal address length machine
  translates _ _ _ _ _ _ _ := trivial

/-- Where nothing is known, any memory will do. -/
theorem Callouts.shows_constant (callouts : Callouts Machine Refusal) (memory : Memory)
    (start : Machine) : callouts.Shows .none (fun _ => memory) start where
  keeps _ _ := rfl
  fetches impossible := impossible.elim
  translates _ _ _ _ _ _ _ := trivial

/-- What has been stored stays stored. -/
theorem Microcode.run_covers {α : Type} (callouts : Callouts Machine Refusal)
    (program : Microcode α) {staging : Staging Machine} {region : Region}
    (covers : staging.journal.Covers region) :
    (program.run callouts staging).2.journal.Covers region := by
  induction program generalizing staging with
  | done value => exact covers
  | decline reason => exact covers
  | act action next ih =>
      have first : (action.run callouts staging).2.journal.Covers region := by
        cases action with
        | store address bytes => exact covers.store address bytes
        | storageKey _ | translate _ =>
            simp only [Action.run]
            split <;> exact covers
        | fetch _ _ | registers | modify _ | setTimer _ | purgeTlb | handOff _ _ | log _ =>
            exact covers
      simp only [run]
      generalize action.run callouts staging = ran at first
      rcases ran with ⟨error | answer, middle⟩
      · exact first
      · exact ih answer first

variable {known : Knowledge} {memory : Machine → Memory} {start : Machine}

theorem Action.Ensures.run (shows : callouts.Shows known memory start) (action : Action)
    (staging : Staging Machine) (reached : callouts.Reaches Callout.Looks start staging.machine)
    {post : action.Answer → Scene → Prop}
    (ensures : action.Ensures known post (staging.scene memory)) {answer : action.Answer}
    {after : Staging Machine} (ran : action.run callouts staging = (.ok answer, after))
    (stores : ∀ region, after.journal.Covers region → known.stores region) :
    post answer (after.scene memory) := by
  have kept := (shows.keeps _ (reached.trans (action.run_looks callouts staging))).trans
    (shows.keeps _ reached).symm
  rw [ran] at kept
  cases action with
  | fetch address length =>
      have fetched := fun isFaithful => shows.fetches isFaithful staging.journal address length
        staging.machine answer
      simp only [Action.run, Prod.mk.injEq] at ran
      obtain ⟨answered, rfl⟩ := ran
      have holds := ensures answer fun isFaithful => fetched isFaithful answered
      simpa only [Staging.scene, kept] using holds
  | storageKey address =>
      simp only [Action.run] at ran
      split at ran <;> simp only [Prod.mk.injEq, reduceCtorEq, false_and] at ran
      obtain ⟨-, rfl⟩ := ran
      have holds := ensures answer
      simpa only [Staging.scene, kept] using holds
  | translate address =>
      have isKnown := shows.translates staging.machine reached (staging.cpu.control.read 0)
        (staging.cpu.control.read 1) (Address.wrap address)
      simp only [Action.run] at ran
      split at ran <;> simp only [Prod.mk.injEq, reduceCtorEq, false_and, Except.ok.injEq] at ran
      rename_i answered
      obtain ⟨rfl, rfl⟩ := ran
      have holds := ensures _ (isKnown _ (congrArg Prod.fst answered))
      simpa only [Staging.scene, kept] using holds
  | store address bytes =>
      simp only [Action.run, Prod.mk.injEq] at ran
      obtain ⟨-, rfl⟩ := ran
      have holds := ensures (stores _ (staging.journal.covers_store address bytes))
      simpa only [Staging.scene, Journal.onto_store] using holds
  | registers =>
      simp only [Action.run, Prod.mk.injEq, Except.ok.injEq] at ran
      obtain ⟨rfl, rfl⟩ := ran
      exact ensures
  | modify _ | setTimer _ | purgeTlb | handOff _ _ | log _ =>
      simp only [Action.run, Prod.mk.injEq] at ran
      obtain ⟨-, rfl⟩ := ran
      exact ensures

/-- What a program ensures holds when a run of it ends. -/
theorem Microcode.Ensures.run {α : Type} {declined : Decline → Scene → Prop}
    {post : α → Scene → Prop} {program : Microcode α} {staging : Staging Machine}
    (shows : callouts.Shows known memory start)
    (reached : callouts.Reaches Callout.Looks start staging.machine)
    (stores : ∀ region, (program.run callouts staging).2.journal.Covers region →
      known.stores region)
    (ensures : program.Ensures known declined post (staging.scene memory)) :
    match program.run callouts staging with
    | (.done value, after) => post value (after.scene memory)
    | (.declined reason, after) => declined reason (after.scene memory)
    | (.failed _, _) => True := by
  induction program generalizing staging with
  | done value => exact ensures
  | decline reason => exact ensures
  | act action next ih =>
      have stepped : ∀ answer after, action.run callouts staging = (.ok answer, after) →
          (∀ region, after.journal.Covers region → known.stores region) →
          (next answer).Ensures known declined post (after.scene memory) :=
        fun answer after ran stores =>
          Action.Ensures.run shows action staging reached ensures ran stores
      have looked := reached.trans (action.run_looks callouts staging)
      simp only [Microcode.run] at stores ⊢
      generalize action.run callouts staging = ran at stepped looked stores
      rcases ran with ⟨error | answer, middle⟩
      · trivial
      · refine ih answer looked stores (stepped answer middle rfl fun region covers => ?_)
        exact stores region ((next answer).run_covers callouts covers)

end Runs

attribute [irreducible] Microcode.Ensures

end Assist370
