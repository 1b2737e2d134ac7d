import Assist370.Proofs.JournalRuns
import Assist370.Proofs.LogicalAccess

/-!
# Change bits

A machine that records stores in the change bits of its storage keys records those that it is asked
for. Nothing but the stores of a completion asks it for any, so that an assist that completes has
set the change bits of those key blocks that hold a byte it has stored, and one that declines has
set none (`System.stores_exactly`).
-/

namespace Assist370

variable {Machine Refusal : Type}

/-- Runs have been stored, one after the other, and otherwise the machine has been looked at and its
lookaside buffer emptied. Further stores have been refused only if `refusing` holds. -/
inductive Callouts.HasStored (callouts : Callouts Machine Refusal) (refusing : Prop)
    (before : Machine) : List Journal.Run → Machine → Prop where
  | refl : HasStored callouts refusing before [] before
  | looked {runs : List Journal.Run} {machine : Machine}
      (earlier : HasStored callouts refusing before runs machine) (callout : Callout)
      (looks : callout.Looks) :
      HasStored callouts refusing before runs (callout.after callouts machine)
  | purged {runs : List Journal.Run} {machine : Machine}
      (earlier : HasStored callouts refusing before runs machine) :
      HasStored callouts refusing before runs (callouts.purgeTlb machine)
  | answered {runs : List Journal.Run} {machine : Machine}
      (earlier : HasStored callouts refusing before runs machine) (run : Journal.Run)
      (inSpace : run.InSpace) (nonempty : run.bytes ≠ [])
      (isAnswered : (callouts.writeReal run.start run.bytes machine).1 = .ok ()) :
      HasStored callouts refusing before (runs ++ [run])
        (callouts.writeReal run.start run.bytes machine).2
  | refused {runs : List Journal.Run} {machine : Machine}
      (earlier : HasStored callouts refusing before runs machine) (run : Journal.Run)
      (inSpace : run.InSpace) {refusal : Refusal}
      (isRefused : (callouts.writeReal run.start run.bytes machine).1 = .error refusal)
      (mayRefuse : refusing) :
      HasStored callouts refusing before runs (callouts.writeReal run.start run.bytes machine).2

namespace Callouts.HasStored

variable {callouts : Callouts Machine Refusal} {refusing : Prop} {before middle after : Machine}
  {stored runs : List Journal.Run}

theorem look (earlier : callouts.HasStored refusing before stored middle)
    (reached : callouts.Reaches Callout.Looks middle after) :
    callouts.HasStored refusing before stored after := by
  induction reached with
  | refl => exact earlier
  | step _ callout looks ih => exact ih.looked callout looks

/-- The runs are stored up to the first one that is refused. -/
theorem writeAll (inSpace : ∀ run ∈ runs, run.InSpace) (nonempty : ∀ run ∈ runs, run.bytes ≠ [])
    (refuses : ∀ error, (Journal.Run.writeAll callouts runs middle).1 = .error error → refusing)
    (earlier : callouts.HasStored refusing before stored middle) :
    ∃ front, front <+: runs ∧
      ((Journal.Run.writeAll callouts runs middle).1 = .ok () → front = runs) ∧
      callouts.HasStored refusing before (stored ++ front)
        (Journal.Run.writeAll callouts runs middle).2 := by
  induction runs generalizing stored middle with
  | nil =>
      refine ⟨[], List.nil_prefix, fun _ => rfl, ?_⟩
      rw [List.append_nil]
      exact earlier
  | cons run runs ih =>
      rcases List.forall_mem_cons.mp inSpace with ⟨run_inSpace, rest_inSpace⟩
      rcases List.forall_mem_cons.mp nonempty with ⟨run_nonempty, rest_nonempty⟩
      have accepted := fun isAnswered =>
        earlier.answered run run_inSpace run_nonempty isAnswered
      have declined := fun refusal isRefused =>
        @refused _ _ callouts refusing before stored middle earlier run run_inSpace refusal
          isRefused
      simp only [Journal.Run.writeAll] at refuses ⊢
      generalize callouts.writeReal run.start run.bytes middle = answer
        at refuses accepted declined
      rcases answer with ⟨refusal | _, next⟩
      · refine ⟨[], List.nil_prefix, by simp, ?_⟩
        rw [List.append_nil]
        exact declined refusal rfl (refuses _ rfl)
      · rcases ih rest_inSpace rest_nonempty refuses (accepted rfl) with
          ⟨front, isFront, whole, reached⟩
        refine ⟨run :: front, (List.prefix_cons_inj run).mpr isFront, fun written => ?_, ?_⟩
        · rw [whole written]
        · rw [List.append_assoc] at reached
          exact reached

theorem commit {staging : Staging Machine} (inSpace : staging.journal.InSpace)
    (refuses : ∀ error, (staging.commit callouts).1 = .error error → refusing)
    (earlier : callouts.HasStored refusing before [] staging.machine) :
    ∃ front, front <+: staging.journal.runs ∧
      (∀ cpu, (staging.commit callouts).1 = .ok cpu → front = staging.journal.runs) ∧
      callouts.HasStored refusing before front (staging.commit callouts).2 := by
  have runs_inSpace := Journal.inSpace_of_mem_runs inSpace
  have nonempty := (Journal.runs_partition inSpace).nonempty
  have probed := Journal.Run.probeAll_looks callouts runs_inSpace staging.machine
  simp only [Staging.commit] at refuses ⊢
  generalize Journal.Run.probeAll callouts staging.journal.runs staging.machine = answer
    at refuses probed
  have ready := earlier.look probed
  rcases answer with ⟨error | _, middle⟩
  · exact ⟨[], List.nil_prefix, by simp, ready⟩
  · have written := @writeAll _ _ callouts refusing before middle [] _ runs_inSpace nonempty
    dsimp only at refuses ready ⊢
    generalize Journal.Run.writeAll callouts staging.journal.runs middle = answer
      at refuses written
    rcases answer with ⟨error | _, after⟩
    · rcases written (fun error failed => refuses error (by cases failed; rfl)) ready with
        ⟨front, isFront, -, reached⟩
      exact ⟨front, isFront, by simp, reached⟩
    · rcases written (fun error failed => by cases failed) ready with
        ⟨front, isFront, whole, reached⟩
      refine ⟨front, isFront, fun _ _ => whole rfl, ?_⟩
      dsimp only
      split
      · exact reached.purged
      · exact reached

end Callouts.HasStored

namespace System

variable {callouts : Callouts Machine Refusal} {policy : Policy} {system : System Machine}
  {request : Request}

/-- An instruction has stored runs of a journal: all of them if it has been performed, none if it
has been left to software, and the first ones if it fails. -/
structure StoresRuns (callouts : Callouts Machine Refusal) (before : Machine)
    (runs : List Journal.Run) (response : Response Machine Refusal) (stored : List Journal.Run) :
    Prop where
  reached : callouts.HasStored (¬response.Answered) before stored response.system.machine
  fromRuns : stored <+: runs
  all : response.Performed → stored = runs
  none : response.result = .ok .declined ∨ response.result = .ok .operationException →
    stored = []

theorem settle_storesRuns (system : System Machine) (assist : Assist) {before : Machine}
    {ran : Ending Refusal Completion × Staging Machine} (inSpace : ran.2.journal.InSpace)
    (looked : callouts.Reaches Callout.Looks before ran.2.machine) :
    ∃ stored, StoresRuns callouts before ran.2.journal.runs (system.settle callouts assist ran)
      stored := by
  have start := fun refusing => (@Callouts.HasStored.refl _ _ callouts refusing before).look looked
  rcases ran with ⟨completion | reason | error, after⟩
  · have committed := @Callouts.HasStored.commit _ _ callouts
      (¬(system.settle callouts assist (.done completion, after)).Answered) before after inSpace
    have ready := start (¬(system.settle callouts assist (.done completion, after)).Answered)
    simp only [settle] at committed ready ⊢
    generalize after.commit callouts = answer at committed ready
    rcases answer with ⟨error | cpu, machine⟩
    · rcases committed (fun _ _ => Bool.false_ne_true) ready with ⟨front, isFront, -, reached⟩
      exact ⟨front, reached, isFront, by simp [Response.Performed], by simp⟩
    · rcases committed (fun error failed => by cases failed) ready with
        ⟨front, isFront, whole, reached⟩
      refine ⟨front, reached, isFront, fun _ => whole cpu rfl, ?_⟩
      cases completion <;> simp [Completion.outcome]
  · refine ⟨[], start _, List.nil_prefix, ?_, fun _ => rfl⟩
    simp [settle, decline, Response.Performed]
  · refine ⟨[], start _, List.nil_prefix, ?_, fun _ => rfl⟩
    simp [settle, Response.Performed]

theorem perform_storesRuns (policy : Policy) (callouts : Callouts Machine Refusal)
    (system : System Machine) (request : Request) :
    ∃ stored, StoresRuns callouts system.machine
      (system.ran policy callouts request).2.journal.runs
      (system.perform policy callouts request) stored := by
  have course := system.perform_course policy callouts request
  generalize system.perform policy callouts request = response at course
  cases course with
  | refused _ _ _ =>
      refine ⟨[], .refl, List.nil_prefix, ?_, fun _ => rfl⟩
      simp [decline, Response.Performed]
  | missing =>
      refine ⟨[], .refl, List.nil_prefix, ?_, fun _ => rfl⟩
      simp [Response.Performed]
  | controlProgram body isProgram =>
      rw [ran, staging, isProgram]
      exact settle_storesRuns _ _ (body.run_inSpace callouts Journal.inSpace_empty)
        (body.run_looks callouts { machine := system.machine, cpu := system.cpu })
  | virtualMachine body timer isProgram _ =>
      rw [ran, staging, isProgram]
      exact settle_storesRuns _ _
        ((GuestContext.lookUp.bind body).run_inSpace callouts Journal.inSpace_empty)
        ((GuestContext.lookUp.bind body).run_looks callouts
          { machine := system.machine
            cpu := { system.cpu with virtualTimerAddress := none } })

end System

section Staged

variable (callouts : Callouts Machine Refusal)

/-- The store that an action stages. -/
def Action.staged : Action → List StagedStore
  | .store address bytes => [⟨address, bytes⟩]
  | _ => []

/-- The stores that a program stages as it runs, in their order. -/
def Microcode.staged {α : Type} : Microcode α → Staging Machine → List StagedStore
  | .done _, _ => []
  | .decline _, _ => []
  | .act action next, staging =>
      action.staged ++
        match action.run callouts staging with
        | (.ok answer, staging) => (next answer).staged staging
        | (.error _, _) => []

/-- The stores that the program of an instruction stages. -/
def System.staged (system : System Machine) (policy : Policy) (request : Request) :
    List StagedStore :=
  (request.program policy system.registry.level).microcode.staged callouts
    (system.staging policy request)

theorem Action.run_journal (action : Action) (staging : Staging Machine) :
    (action.run callouts staging).2.journal = staging.journal.stage action.staged := by
  cases action with
  | storageKey _ | translate _ =>
      simp only [run]
      split <;> rfl
  | store _ _ | fetch _ _ | registers | modify _ | setTimer _ | purgeTlb | handOff _ _ | log _ =>
      rfl

/-- The journal that a program leaves has the stores that it has staged. -/
theorem Microcode.run_journal {α : Type} (program : Microcode α) (staging : Staging Machine) :
    (program.run callouts staging).2.journal =
      staging.journal.stage (program.staged callouts staging) := by
  induction program generalizing staging with
  | done value => rfl
  | decline reason => rfl
  | act action next ih =>
      have first := action.run_journal callouts staging
      have stage_append : ∀ rest, staging.journal.stage (action.staged ++ rest) =
          (staging.journal.stage action.staged).stage rest := fun rest => List.foldl_append
      simp only [run, staged, stage_append, ← first]
      rcases action.run callouts staging with ⟨error | answer, middle⟩
      · rfl
      · exact ih answer middle

theorem System.ran_journal (system : System Machine) (policy : Policy) (request : Request) :
    (system.ran policy callouts request).2.journal =
      Journal.ofStores (system.staged callouts policy request) :=
  Microcode.run_journal callouts _ _

end Staged

/-- The run has a byte in a key block. -/
def Journal.Run.Touches (run : Journal.Run) (policy : Policy) (block : Nat) : Prop :=
  ∃ place, run.Has place ∧ place.toNat / policy.keyBlock = block

/-- The store puts a byte into a key block. -/
def StagedStore.Touches (store : StagedStore) (policy : Policy) (block : Nat) : Prop :=
  ∃ place ∈ store.places.map Prod.fst, place.toNat / policy.keyBlock = block

/-- A run comes to the halves of pages between its first and its last byte. -/
theorem Journal.Run.touches_splitKeys (run : Run) (inSpace : run.InSpace)
    (nonempty : run.bytes ≠ []) {half : Nat} :
    run.Touches .splitKeys half ↔
      run.start.toNat < 0x800 * (half + 1) ∧ 0x800 * half < run.start.toNat + run.bytes.length := by
  have length_pos := List.length_pos_iff.mpr nonempty
  simp only [Touches, Has, stop, Policy.keyBlock, InSpace, Address.space] at inSpace ⊢
  constructor
  · rintro ⟨place, has, inHalf⟩
    omega
  · rintro ⟨start_lt, lt_stop⟩
    rcases Nat.lt_or_ge run.start.toNat (0x800 * half) with before | within
    · have fits : 0x800 * half < UInt32.size := by
        simp only [UInt32.size]
        omega
      refine ⟨UInt32.ofNat (0x800 * half), ?_⟩
      rw [UInt32.toNat_ofNat_of_lt' fits]
      omega
    · exact ⟨run.start, by omega, by omega⟩

theorem Journal.Run.HoldStores.touches_iff {runs : List Run} {stores : List StagedStore}
    (holdStores : HoldStores runs stores) {policy : Policy} {block : Nat} :
    (∃ run ∈ runs, run.Touches policy block) ↔ ∃ store ∈ stores, store.Touches policy block := by
  constructor
  · rintro ⟨run, run_mem, place, has, inBlock⟩
    rcases (holdStores.has place).mp ⟨run, run_mem, has⟩ with ⟨store, store_mem, place_mem⟩
    exact ⟨store, store_mem, place, place_mem, inBlock⟩
  · rintro ⟨store, store_mem, place, place_mem, inBlock⟩
    rcases (holdStores.has place).mpr ⟨store, store_mem, place_mem⟩ with ⟨run, run_mem, has⟩
    exact ⟨run, run_mem, place, has, inBlock⟩

/-- The change bits of a machine, one for each key block. A store sets those of the key blocks that
it touches. -/
structure ChangeView (callouts : Callouts Machine Refusal) (policy : Policy) where
  changed : Machine → Nat → Bool
  looks_keep : ∀ (callout : Callout) (machine : Machine), callout.Looks →
    changed (callout.after callouts machine) = changed machine
  purge_keep : ∀ machine, changed (callouts.purgeTlb machine) = changed machine
  writeReal : ∀ (run : Journal.Run) (machine : Machine) (block : Nat),
    run.InSpace → run.bytes ≠ [] →
    (callouts.writeReal run.start run.bytes machine).1 = .ok () →
    (changed (callouts.writeReal run.start run.bytes machine).2 block ↔
      changed machine block ∨ run.Touches policy block)

namespace ChangeView

variable {callouts : Callouts Machine Refusal} {policy : Policy}
  (view : ChangeView callouts policy)

/-- A store that is refused sets no change bit. -/
def RefusesWhole : Prop :=
  ∀ (run : Journal.Run) (machine : Machine) (refusal : Refusal), run.InSpace →
    (callouts.writeReal run.start run.bytes machine).1 = .error refusal →
    view.changed (callouts.writeReal run.start run.bytes machine).2 = view.changed machine

theorem changed_iff {refusing : Prop} (whole : refusing → view.RefusesWhole)
    {before after : Machine} {runs : List Journal.Run}
    (hasStored : callouts.HasStored refusing before runs after) (block : Nat) :
    view.changed after block ↔
      view.changed before block ∨ ∃ run ∈ runs, run.Touches policy block := by
  induction hasStored with
  | refl => simp
  | looked _ callout looks ih => rw [view.looks_keep callout _ looks, ih]
  | purged _ ih => rw [view.purge_keep, ih]
  | answered _ run inSpace nonempty isAnswered ih =>
      rw [view.writeReal run _ block inSpace nonempty isAnswered, ih]
      simp only [List.mem_append, List.mem_singleton, or_and_right, exists_or, exists_eq_left,
        or_assoc]
  | refused _ run inSpace isRefused mayRefuse ih =>
      rw [whole mayRefuse run _ _ inSpace isRefused, ih]

end ChangeView

/-- What a response comes to in the change bits, where stores had been staged. An instruction that
is performed sets those of the key blocks that it has stored a byte in, and one that fails those of
the key blocks of the runs that have been stored before a callout was refused. -/
structure Response.Marks {callouts : Callouts Machine Refusal} {policy : Policy}
    (response : Response Machine Refusal) (view : ChangeView callouts policy) (before : Machine)
    (staged : List StagedStore) : Prop where
  performed : response.Performed → ∀ block, view.changed response.system.machine block ↔
    view.changed before block ∨ ∃ store ∈ staged, store.Touches policy block
  left : response.result = .ok .declined ∨ response.result = .ok .operationException →
    ∀ block, view.changed response.system.machine block = view.changed before block
  failed : ¬response.Answered → view.RefusesWhole → ∃ stored,
    callouts.HasStored (¬response.Answered) before stored response.system.machine ∧
      stored <+: (Journal.ofStores staged).runs ∧
      ∀ block, view.changed response.system.machine block ↔
        view.changed before block ∨ ∃ run ∈ stored, run.Touches policy block

namespace System

theorem perform_marks {callouts : Callouts Machine Refusal} {policy : Policy}
    (view : ChangeView callouts policy) (system : System Machine) (request : Request) :
    (system.perform policy callouts request).Marks view system.machine
      (system.staged callouts policy request) := by
  rcases system.perform_storesRuns policy callouts request with ⟨stored, stores⟩
  rw [ran_journal] at stores
  have answered : ∀ outcome, (system.perform policy callouts request).result = .ok outcome →
      ¬(system.perform policy callouts request).Answered → view.RefusesWhole :=
    fun outcome result unanswered => absurd (Response.answered_iff.mpr ⟨outcome, result⟩) unanswered
  constructor
  · intro performed block
    have whole := performed.elim (answered _) (answered _)
    rw [view.changed_iff whole stores.reached, stores.all performed,
      (Journal.runs_holdStores _).touches_iff]
  · intro left block
    have whole := left.elim (answered _) (answered _)
    have same := view.changed_iff whole stores.reached block
    simp only [stores.none left, List.not_mem_nil, false_and, exists_false, or_false] at same
    exact Bool.eq_iff_iff.mpr same
  · intro _ whole
    have marked := view.changed_iff (fun _ => whole) stores.reached
    exact ⟨stored, stores.reached, stores.fromRuns, marked⟩

/-- An assist stores its journal and nothing else. A completion that succeeds probes runs that
ascend, with a gap between any two, and have the last byte stored at each address, and then stores
them. So it sets the change bits of the key blocks that it has stored into, and no others. -/
theorem stores_exactly (callouts : Callouts Machine Refusal) :
    (∀ (stores : List StagedStore) (staging : Staging (Machine × List Callout)) (cpu : Cpu),
      staging.journal = Journal.ofStores stores →
      (staging.commit callouts.recorded).1 = .ok cpu →
      ∃ runs, Journal.Run.HoldStores runs stores ∧
        (staging.commit callouts.recorded).2.2 =
          staging.machine.2 ++ runs.map Journal.Run.probing ++ runs.map Journal.Run.storing ++
            if staging.purge then [.purgeTlb] else []) ∧
      ∀ (policy : Policy) (view : ChangeView callouts policy) (system : System Machine)
        (request : Request),
        (system.perform policy callouts request).Marks view system.machine
          (system.staged callouts policy request) :=
  ⟨fun _ _ _ journal committed => Staging.commit_stores journal committed,
    fun _ view system request => perform_marks view system request⟩

end System

namespace PagedStorage

theorem change_record_reference (storage : PagedStorage) (address : UInt32) (length half : Nat) :
    ((storage.record StorageKey.referenceField address length).keys half).change =
      (storage.keys half).change := by
  simp only [record]
  split
  · generalize storage.keys half = key
    rcases key with ⟨bits⟩
    revert bits
    decide +kernel
  · rfl

theorem change_record_change (storage : PagedStorage) (address : UInt32) (length half : Nat) :
    ((storage.record StorageKey.changeField address length).keys half).change ↔
      (storage.keys half).change ∨
        address.toNat < 0x800 * (half + 1) ∧ 0x800 * half < address.toNat + length := by
  have sets : ∀ bits : BitVec 8,
      StorageKey.change ⟨StorageKey.changeField.set bits (.allOnes _)⟩ = true := by
    decide +kernel
  simp only [record]
  split
  · rename_i touched
    exact iff_of_true (sets _) (.inr touched)
  · rename_i apart
    exact ⟨.inl, fun either => either.resolve_right apart⟩

/-- The change bits of paged storage, where a key covers half a page. -/
def changeView : ChangeView callouts .splitKeys where
  changed storage half := (storage.keys half).change
  looks_keep callout storage looks := by
    cases callout with
    | readReal address length =>
        funext half
        exact storage.change_record_reference address length half
    | storageKey _ | translate _ _ _ => rfl
    | writeReal _ _ | purgeTlb => exact looks.elim
  purge_keep _ := rfl
  writeReal run storage half inSpace nonempty _ := by
    simp only [callouts]
    rw [change_record_change, change_record_reference,
      run.touches_splitKeys inSpace nonempty]

end PagedStorage

namespace System

/-- A system that stores the level of the facility across the end of real storage. -/
def levelAcross : System PagedStorage where
  registry := Registry.initial true false
  cpu := { Cpu.initial with control := RegisterFile.zero.load 6 0x02000000 }
  machine := { memory := Memory.zero, keys := fun _ => ⟨0⟩, frames := fun _ => none }

/-- The store of the level. -/
def acrossStore : StagedStore :=
  ⟨0xfffffe, [0, 0, 0, 20]⟩

/-- The staging area with that store, over a machine whose callouts are recorded. -/
def acrossStaging : Staging (PagedStorage × List Callout) where
  machine := (levelAcross.machine, [])
  cpu := levelAcross.cpu
  journal := Journal.ofStores [acrossStore]

/-- The first and the last key block have been changed, and the one behind the first has not. -/
theorem levelAcross_marked :
    (∃ runs, Journal.Run.HoldStores runs [acrossStore] ∧
      (acrossStaging.commit PagedStorage.callouts.recorded).2.2 =
        runs.map Journal.Run.probing ++ runs.map Journal.Run.storing) ∧
      let keys := (levelAcross.perform .splitKeys PagedStorage.callouts
        (.stevl 0xfffffe)).system.machine.keys
      (keys 0).change ∧ (keys 0x1fff).change ∧ ¬(keys 1).change := by
  rcases stores_exactly PagedStorage.callouts with ⟨commits, marks⟩
  have inSpace := Journal.inSpace_stage Journal.inSpace_empty [acrossStore]
  have committed : (acrossStaging.commit PagedStorage.callouts.recorded).1 =
      .ok acrossStaging.committedCpu := by
    have forgotten := Staging.commit_map PagedStorage.callouts.forgetRecord acrossStaging
    have granted := @Callouts.Grants.commit _ _ PagedStorage.callouts (acrossStaging.map Prod.fst)
      levelAcross.machine.refusesNothing.grants inSpace
    exact (congrArg Prod.fst forgotten).symm.trans granted
  have staged : levelAcross.staged PagedStorage.callouts .splitKeys (.stevl 0xfffffe) =
      [acrossStore] := by
    decide +kernel
  have performed : (levelAcross.perform .splitKeys PagedStorage.callouts
      (.stevl 0xfffffe)).Performed := by
    decide +kernel
  have marked := (marks .splitKeys PagedStorage.changeView levelAcross (.stevl 0xfffffe)).performed
    performed
  simp only [staged, List.mem_singleton, exists_eq_left] at marked
  refine ⟨?_, (marked 0).mpr (.inr ?_), (marked 0x1fff).mpr (.inr ?_), fun changed => ?_⟩
  · rcases commits [acrossStore] acrossStaging _ rfl committed with ⟨runs, holdStores, record⟩
    exact ⟨runs, holdStores, record.trans (List.append_nil _)⟩
  · exact ⟨0, by decide, rfl⟩
  · exact ⟨0xfffffe, by decide, rfl⟩
  · rcases (marked 1).mp changed with before | ⟨place, place_mem, inHalf⟩
    · cases before
    · have ends : ∀ place ∈ acrossStore.places.map Prod.fst, place.toNat / 0x800 ≠ 1 := by decide
      exact ends place place_mem inHalf

end System

end Assist370
