import Assist370.Proofs.DirectAccess
import Assist370.Proofs.KeyBlocks

/-!
# Logical storage byte by byte

A program that is refused no callout ends as its evaluation tells (`Microcode.run_ending`). So an
access to logical storage is one access for each byte of the operand, to the block of storage where
the byte lies: it is made if every byte admits it, it fetches or stores just those bytes, and
otherwise it does nothing (`KeyedView.logical_bytewise`). That needs no more of a machine than that
a key block has one key and that pages are translated as a whole.
-/

namespace Assist370

section Answers

variable {Machine Refusal : Type} {callouts : Callouts Machine Refusal} {start : Machine}

/-- The machine refuses no callout, whatever callouts have been made before. -/
structure Callouts.RefusesNothing (callouts : Callouts Machine Refusal) (start : Machine) :
    Prop where
  grants : callouts.Grants start
  storageKey : ∀ machine, callouts.Reaches Callout.InSpace start machine →
    ∀ address : UInt32, address.toNat < Address.space →
      ∃ key, (callouts.storageKey address machine).1 = .ok key
  translate : ∀ machine, callouts.Reaches Callout.InSpace start machine →
    ∀ control0 control1 address : UInt32, address.toNat < Address.space →
      ∃ found, (callouts.translate control0 control1 address machine).1 = .ok found

theorem Callouts.RefusesNothing.looked (refusesNothing : callouts.RefusesNothing start)
    {machine : Machine} (looked : callouts.Reaches Callout.Looks start machine) :
    callouts.RefusesNothing machine := by
  have reached := looked.mono fun _ => Callout.Looks.inSpace
  constructor
  · exact refusesNothing.grants.later reached
  · intro other further
    exact refusesNothing.storageKey other (reached.trans further)
  · intro other further
    exact refusesNothing.translate other (reached.trans further)

theorem Action.run_answers {staging : Staging Machine}
    (refusesNothing : callouts.RefusesNothing staging.machine) (action : Action) :
    ∃ answer, (action.run callouts staging).1 = .ok answer := by
  cases action with
  | fetch address length => exact refusesNothing.grants.fetch staging.journal address length
  | storageKey address =>
      have answers := refusesNothing.storageKey staging.machine .refl _ (Address.wrap_lt address)
      simp only [run]
      generalize callouts.storageKey _ _ = result at answers
      rcases result with ⟨refusal | key, after⟩
      · simp at answers
      · exact ⟨key, rfl⟩
  | translate address =>
      have answers := refusesNothing.translate staging.machine .refl
        (staging.cpu.control.read 0) (staging.cpu.control.read 1) _ (Address.wrap_lt address)
      simp only [run]
      generalize callouts.translate _ _ _ _ = result at answers
      rcases result with ⟨refusal | found, after⟩
      · simp at answers
      · exact ⟨_, rfl⟩
  | store _ _ | registers | modify _ | setTimer _ | purgeTlb | handOff _ _ | log _ =>
      exact ⟨_, rfl⟩

theorem Microcode.run_not_failed {α : Type} (program : Microcode α) {staging : Staging Machine}
    (refusesNothing : callouts.RefusesNothing staging.machine) (error : AccessError Refusal) :
    (program.run callouts staging).1 ≠ .failed error := by
  induction program generalizing staging with
  | done value => simp [run]
  | decline reason => simp [run]
  | act action next ih =>
      have looked := action.run_looks callouts staging
      rcases action.run_answers refusesNothing with ⟨answer, answered⟩
      simp only [run]
      generalize action.run callouts staging = ran at looked answered
      rcases ran with ⟨_ | given, middle⟩
      · simp at answered
      · exact ih given (refusesNothing.looked looked)

/-- How a program ends that is refused no callout. -/
def Ending.ofExcept {α : Type} : Except Decline α → Ending Refusal α
  | .ok value => .done value
  | .error reason => .declined reason

/-- A program that is refused no callout ends as its evaluation tells. -/
theorem Microcode.run_ending {α : Type} {answers : Answers} {memory : Machine → Memory}
    {staging : Staging Machine}
    (tells : callouts.Tells answers (fun _ => True) memory staging.machine)
    (refusesNothing : callouts.RefusesNothing staging.machine) {program : Microcode α}
    (ignores : program.IgnoresReference) :
    (program.run callouts staging).1 =
      Ending.ofExcept (program.eval answers (staging.scene memory)).1 := by
  have ends := run_eval tells (takes_of_forall program fun _ => trivial) ignores .refl
  have not_failed := program.run_not_failed refusesNothing
  generalize program.run callouts staging = ran at ends not_failed
  rcases ran with ⟨value | reason | error, after⟩
  · rw [ends]
    rfl
  · rw [ends]
    rfl
  · exact absurd rfl (not_failed error)

/-- A program that only looks leaves all of the staging area but the machine as it was. -/
theorem Microcode.Takes.staging_eq (callouts : Callouts Machine Refusal) {α : Type}
    {program : Microcode α} (takes : program.Takes Action.OnlyLooks) (staging : Staging Machine) :
    (program.run callouts staging).2 =
      { staging with machine := (program.run callouts staging).2.machine } := by
  have kept : ({ (program.run callouts staging).2 with machine := staging.machine } :
      Staging Machine) = staging := by
    refine takes.keeps (fun after => ({ after with machine := staging.machine } :
      Staging Machine)) ?_ staging
    intro action before looks
    cases action with
    | storageKey _ | translate _ =>
        simp only [Action.run]
        split <;> rfl
    | fetch _ _ | registers => rfl
    | store _ _ | modify _ | setTimer _ | purgeTlb | handOff _ _ | log _ => exact looks.elim
  generalize (program.run callouts staging).2 = after at kept ⊢
  exact congrArg (fun same : Staging Machine => { same with machine := after.machine }) kept

/-- Pieces of storage are stored into by the journal alone, which shows their bytes. -/
theorem Microcode.storePieces_run (callouts : Callouts Machine Refusal) (pieces : List Piece)
    (bytes : List UInt8) (staging : Staging Machine) :
    ∃ journal, (storePieces pieces bytes).run callouts staging =
        (.done (), { staging with journal }) ∧
      ∀ memory, journal.onto memory =
        (staging.journal.onto memory).storeAt (pieces.flatMap Piece.places) bytes := by
  induction pieces generalizing bytes staging with
  | nil => exact ⟨staging.journal, rfl, fun _ => rfl⟩
  | cons piece pieces ih =>
      rcases ih (bytes.drop piece.length)
        { staging with
          journal := staging.journal.store piece.address (bytes.take piece.length) } with
        ⟨journal, ran, shows⟩
      refine ⟨journal, ran, fun memory => ?_⟩
      rw [shows, Journal.onto_store, List.flatMap_cons, Memory.storeAt_append, Piece.length_places,
        Memory.store_take]

end Answers

namespace Answers

variable {answers : Answers} {cpu : Cpu} {admits : StorageKey → Bool}

/-- All of an operand is found where each of its bytes is. -/
theorem places_isOk_iff (address : UInt32) (length : Nat) :
    (∃ places, answers.places cpu admits address length = .ok places) ↔
      ∀ index < length, ∃ real,
        answers.place cpu admits (address + UInt32.ofNat index) = .ok real := by
  induction length generalizing address with
  | zero => simp [places, pure, Except.pure]
  | succ length ih =>
      have later := ih (address + 1)
      have start : address + UInt32.ofNat 0 = address := UInt32.add_zero address
      simp only [Address.add_one_add] at later
      rw [Nat.forall_lt_succ_left, ← later, start, places]
      cases answers.place cpu admits address with
      | error reason => simp [bind, Except.bind]
      | ok first =>
          cases answers.places cpu admits (address + 1) length with
          | error reason => simp [bind, Except.bind]
          | ok rest => simp [bind, Except.bind, pure, Except.pure]

/-- The places of an operand are those of its bytes, in their order. -/
theorem place_of_places {address : UInt32} {length : Nat} {found : List UInt32}
    (located : answers.places cpu admits address length = .ok found) :
    found.length = length ∧ ∀ index real, found[index]? = some real →
      answers.place cpu admits (address + UInt32.ofNat index) = .ok real := by
  induction length generalizing address found with
  | zero =>
      rw [← Except.ok.inj located]
      simp
  | succ length ih =>
      rw [places] at located
      cases head : answers.place cpu admits address with
      | error reason => simp [head, bind, Except.bind] at located
      | ok first =>
          cases tail : answers.places cpu admits (address + 1) length with
          | error reason => simp [head, tail, bind, Except.bind] at located
          | ok rest =>
              simp only [head, tail, bind, Except.bind, pure, Except.pure,
                Except.ok.injEq] at located
              rcases ih tail with ⟨length_eq, placed⟩
              subst located
              refine ⟨by rw [List.length_cons, length_eq], fun index real found => ?_⟩
              cases index with
              | zero =>
                  have start : address + UInt32.ofNat 0 = address := UInt32.add_zero address
                  rw [start, head]
                  exact congrArg Except.ok (Option.some.inj found)
              | succ index =>
                  rw [← Address.add_one_add]
                  exact placed index real found

end Answers

namespace KeyedView

open Microcode

variable {Machine Refusal : Type} {callouts : Callouts Machine Refusal} (view : KeyedView callouts)

/-- The byte at a logical address lies at a real address. It is translated through control registers
0 and 1 if the PSW is in extended-control mode with translation on. -/
def Locates (machine : Machine) (cpu : Cpu) (logical real : UInt32) : Prop :=
  if cpu.psw.isExtended ∧ cpu.psw.masks Psw.translationMask then
    ∃ found, view.translation machine (cpu.control.read 0) (cpu.control.read 1)
      (Address.wrap logical) = .ok found ∧ Address.wrap found = real
  else
    Address.wrap logical = real

/-- The key of the block that holds a real address. -/
def keyAt (machine : Machine) (real : UInt32) : StorageKey :=
  view.key machine (real.toNat / 0x800)

/-- The byte at a logical address lies at a real address, whose block is open to a fetch. -/
def CanFetch (machine : Machine) (cpu : Cpu) (protection : BitVec 4) (logical real : UInt32) :
    Prop :=
  view.Locates machine cpu logical real ∧
    (protection = 0 ∨ (view.keyAt machine real).accessKey = protection ∨
      (view.keyAt machine real).fetchProtect = false)

/-- The byte at a logical address lies at a real address, whose block is open to a store. -/
def CanStore (machine : Machine) (cpu : Cpu) (protection : BitVec 4) (logical real : UInt32) :
    Prop :=
  view.Locates machine cpu logical real ∧
    (protection = 0 ∨ (view.keyAt machine real).accessKey = protection)

variable {view} {policy : Policy} {machine : Machine} {cpu : Cpu} {logical real : UInt32}

theorem Locates.wrap_eq (located : view.Locates machine cpu logical real) :
    Address.wrap real = real := by
  rw [Locates] at located
  split at located
  · rcases located with ⟨found, -, rfl⟩
    exact Address.wrap_wrap found
  · rw [← located, Address.wrap_wrap]

theorem Locates.unique {other : UInt32} (located : view.Locates machine cpu logical real)
    (locatedOther : view.Locates machine cpu logical other) : real = other := by
  rw [Locates] at located locatedOther
  split at located
  · rename_i translates
    rw [if_pos translates] at locatedOther
    rcases located with ⟨found, translated, rfl⟩
    rcases locatedOther with ⟨foundOther, translatedOther, rfl⟩
    rw [translated] at translatedOther
    rw [Except.ok.inj translatedOther]
  · rename_i direct
    rw [if_neg direct] at locatedOther
    rw [← located, locatedOther]

theorem realAddress_eq_ok :
    (view.answers machine).realAddress cpu logical = .ok real ↔
      view.Locates machine cpu logical real := by
  have translates : cpu.psw.translates = true ↔
      cpu.psw.isExtended ∧ cpu.psw.masks Psw.translationMask := by
    rw [Psw.translates, Bool.and_eq_true]
  simp only [Answers.realAddress, Locates, answers, translates, Address.wrap_wrap]
  split
  · generalize view.translation _ _ _ (Address.wrap logical) = found
    rcases found with fault | found
    · simp
    · simp
  · simp

theorem place_eq_ok {admits : StorageKey → Bool} :
    (view.answers machine).place cpu admits logical = .ok real ↔
      view.Locates machine cpu logical real ∧ admits (view.keyAt machine real) := by
  rw [Answers.place]
  constructor
  · intro placed
    cases found : (view.answers machine).realAddress cpu logical with
    | error reason => simp [found] at placed
    | ok place =>
        have located := realAddress_eq_ok.mp found
        simp only [found] at placed
        split at placed
        · rename_i admitted
          rw [← Except.ok.inj placed]
          simp only [answers, located.wrap_eq] at admitted
          exact ⟨located, admitted⟩
        · cases placed
  · rintro ⟨located, admitted⟩
    have admitted : admits ((view.answers machine).key real) = true := by
      simpa only [answers, keyAt, located.wrap_eq] using admitted
    rw [realAddress_eq_ok.mpr located]
    exact if_pos admitted

theorem place_fetch_iff {protection : BitVec 4} :
    (view.answers machine).place cpu (·.admitsFetch protection) logical = .ok real ↔
      view.CanFetch machine cpu protection logical real := by
  rw [place_eq_ok, CanFetch]
  simp [StorageKey.admitsFetch, StorageKey.admitsStore, or_assoc]

theorem place_fetch_cases (view : KeyedView callouts) (machine : Machine) (cpu : Cpu)
    (protection : BitVec 4) (logical : UInt32) :
    (∃ real, view.CanFetch machine cpu protection logical real ∧
      (view.answers machine).place cpu (·.admitsFetch protection) logical = .ok real) ∨
    ∃ reason, (∀ real, ¬view.CanFetch machine cpu protection logical real) ∧
      (view.answers machine).place cpu (·.admitsFetch protection) logical = .error reason := by
  cases placed : (view.answers machine).place cpu (·.admitsFetch protection) logical with
  | ok real => exact .inl ⟨real, place_fetch_iff.mp placed, rfl⟩
  | error reason =>
      refine .inr ⟨reason, fun real canFetch => ?_, rfl⟩
      rw [place_fetch_iff.mpr canFetch] at placed
      cases placed

theorem place_store_iff {protection : BitVec 4} :
    (view.answers machine).place cpu (·.admitsStore protection) logical = .ok real ↔
      view.CanStore machine cpu protection logical real := by
  rw [place_eq_ok, CanStore]
  simp [StorageKey.admitsStore]

variable (view) in
/-- What a fetch of bytes from logical storage comes to. -/
structure FetchesBytes (staging : Staging Machine) (address : UInt32) (length : Nat)
    (protection : BitVec 4) (ran : Ending Refusal (List UInt8) × Staging Machine) : Prop where
  answers : ∀ error, ran.1 ≠ .failed error
  succeeds : (∃ bytes, ran.1 = .done bytes) ↔ ∀ index < length, ∃ real,
    view.CanFetch staging.machine staging.cpu protection (address + UInt32.ofNat index) real
  fetched : ∀ bytes, ran.1 = .done bytes → bytes.length = length ∧
    ∀ index < length, ∀ real,
      view.Locates staging.machine staging.cpu (address + UInt32.ofNat index) real →
      bytes[index]? = some ((staging.journal.onto (view.memory staging.machine)).byte real)
  kept : ran.2 = { staging with machine := ran.2.machine }
  storage : view.memory ran.2.machine = view.memory staging.machine

variable (view) in
/-- What a store of bytes into logical storage comes to. The bytes go into the journal alone. -/
structure StoresBytes (staging : Staging Machine) (address : UInt32) (bytes : List UInt8)
    (protection : BitVec 4) (ran : Ending Refusal Unit × Staging Machine) : Prop where
  answers : ∀ error, ran.1 ≠ .failed error
  succeeds : ran.1 = .done () ↔ ∀ index < bytes.length, ∃ real,
    view.CanStore staging.machine staging.cpu protection (address + UInt32.ofNat index) real
  stored : ran.1 = .done () → ∃ places : List UInt32, places.length = bytes.length ∧
    (∀ index real, places[index]? = some real →
      view.Locates staging.machine staging.cpu (address + UInt32.ofNat index) real) ∧
    ∀ memory, ran.2.journal.onto memory = (staging.journal.onto memory).storeAt places bytes
  refused : ran.1 ≠ .done () → ran.2.journal = staging.journal
  kept : ran.2 = { staging with machine := ran.2.machine, journal := ran.2.journal }
  storage : view.memory ran.2.machine = view.memory staging.machine

variable {staging : Staging Machine} (refusesNothing : callouts.RefusesNothing staging.machine)
  (byBlock : view.KeysByBlock policy staging.machine)
  (byPage : view.TranslatesByPage staging.machine)

include refusesNothing byBlock byPage

theorem fetchLogicalBytes_run (address : UInt32) (length : Nat) (protection : BitVec 4) :
    view.FetchesBytes staging address length protection
      ((fetchLogicalBytes policy address length protection).run callouts staging) := by
  have ignores := fetchLogicalBytes_ignoresReference policy address length protection
  have looks : (fetchLogicalBytes policy address length protection).Takes Action.OnlyLooks := by
    simp [fetchLogicalBytes, takes_resolve, takes_fetchPieces onlyLooks_allowsLooks.fetch]
  have ending := run_ending (view.tells staging.machine) refusesNothing ignores
  rw [fetchLogicalBytes_eval (answers_uniformOn byBlock byPage)] at ending
  have found_iff := @Answers.places_isOk_iff (view.answers staging.machine) staging.cpu
    (·.admitsFetch protection) address length
  simp only [place_fetch_iff] at found_iff
  refine ⟨run_not_failed _ refusesNothing, ?_, ?_, looks.staging_eq callouts staging,
    view.memory_of_looks (run_looks callouts _ staging)⟩
  · rw [← found_iff, ending, Staging.scene]
    cases (view.answers staging.machine).places staging.cpu _ address length with
    | error reason => simp [Except.map, Ending.ofExcept]
    | ok places => simp [Except.map, Ending.ofExcept]
  · intro bytes ended
    rw [ending, Staging.scene] at ended
    cases located : (view.answers staging.machine).places staging.cpu
        (·.admitsFetch protection) address length with
    | error reason => simp [located, Except.map, Ending.ofExcept] at ended
    | ok places =>
        simp only [located, Except.map, Ending.ofExcept, Ending.done.injEq] at ended
        rcases Answers.place_of_places located with ⟨length_eq, placed⟩
        subst ended
        refine ⟨by rw [Memory.bytesAt, List.length_map, length_eq], ?_⟩
        intro index index_lt real at_real
        have inPlaces : index < places.length := by omega
        have admitted := placed index _ (List.getElem?_eq_getElem inPlaces)
        rw [place_fetch_iff] at admitted
        rw [Memory.bytesAt, List.getElem?_map, List.getElem?_eq_getElem inPlaces,
          admitted.1.unique at_real]
        rfl

omit byBlock byPage in
/-- The pieces of an operand are found without a change of the staging area but to the machine. -/
theorem resolve_run {admits : StorageKey → Bool}
    (ofAlike : ∀ key other : StorageKey, key.Alike other → admits key = admits other)
    (pieces : List Piece) :
    ∃ machine, view.memory machine = view.memory staging.machine ∧
      (resolve admits pieces).run callouts staging =
        (Ending.ofExcept ((view.answers staging.machine).located staging.cpu admits pieces),
          { staging with machine }) := by
  have ending := run_ending (view.tells staging.machine) refusesNothing
    (resolve_ignoresReference ofAlike pieces)
  have kept := (takes_resolve onlyLooks_allowsLooks admits pieces).staging_eq
    callouts staging
  have looked := view.memory_of_looks (run_looks callouts (resolve admits pieces) staging)
  rw [resolve_eval] at ending
  exact ⟨_, looked, Prod.ext ending kept⟩

theorem storeLogicalBytes_run (address : UInt32) (bytes : List UInt8) (protection : BitVec 4) :
    view.StoresBytes staging address bytes protection
      ((storeLogicalBytes policy address bytes protection).run callouts staging) := by
  have ofAlike : ∀ key other : StorageKey, key.Alike other →
      key.admitsStore protection = other.admitsStore protection :=
    fun _ _ alike => alike.admitsStore protection
  have located_eq := @Answers.located_split (view.answers staging.machine) staging.cpu
    (·.admitsStore protection) policy (answers_uniformOn byBlock byPage) ofAlike address
    bytes.length
  have found_iff := @Answers.places_isOk_iff (view.answers staging.machine) staging.cpu
    (·.admitsStore protection) address bytes.length
  simp only [place_store_iff] at found_iff
  -- All pieces are found before anything is stored.
  rcases resolve_run refusesNothing ofAlike (Piece.split policy address bytes.length) with
    ⟨machine, looked, resolved⟩
  rw [storeLogicalBytes, bind_eq_bind, run_bind, resolved]
  cases located : (view.answers staging.machine).located staging.cpu (·.admitsStore protection)
      (Piece.split policy address bytes.length) with
  | error reason =>
      have nowhere : ¬∃ places, (view.answers staging.machine).places staging.cpu
          (·.admitsStore protection) address bytes.length = .ok places := by
        simp [← located_eq, located, Except.map]
      rw [found_iff] at nowhere
      dsimp only [Ending.ofExcept]
      refine ⟨by simp, ?_, by simp, fun _ => rfl, rfl, looked⟩
      simpa using nowhere
  | ok pieces =>
      rw [located] at located_eq
      have everywhere := found_iff.mp ⟨_, located_eq.symm⟩
      rcases Answers.place_of_places located_eq.symm with ⟨length_eq, placed⟩
      rcases storePieces_run callouts pieces bytes { staging with machine } with
        ⟨journal, ran, shows⟩
      dsimp only [Ending.ofExcept]
      rw [ran]
      refine ⟨by simp, ⟨fun _ => everywhere, fun _ => rfl⟩, fun _ => ?_, by simp, rfl, looked⟩
      refine ⟨pieces.flatMap Piece.places, length_eq, fun index real found => ?_, shows⟩
      exact (place_store_iff.mp (placed index real found)).1

/-- An access to logical storage is one access for each byte of the operand. -/
theorem logical_bytewise (address : UInt32) (protection : BitVec 4) :
    (∀ length, (Piece.split policy address length).length ≤ length ∧
      view.FetchesBytes staging address length protection
        ((fetchLogicalBytes policy address length protection).run callouts staging)) ∧
    ∀ bytes, view.StoresBytes staging address bytes protection
      ((storeLogicalBytes policy address bytes protection).run callouts staging) := by
  refine ⟨fun length => ⟨Piece.length_split_le policy address length, ?_⟩, fun bytes => ?_⟩
  · exact fetchLogicalBytes_run refusesNothing byBlock byPage address length protection
  · exact storeLogicalBytes_run refusesNothing byBlock byPage address bytes protection

end KeyedView

namespace PagedStorage

theorem refusesNothing (storage : PagedStorage) : callouts.RefusesNothing storage where
  grants _ _ := ⟨fun _ _ _ => ⟨_, rfl⟩, fun _ _ _ => rfl⟩
  storageKey _ _ _ _ := ⟨_, rfl⟩
  translate _ _ _ _ _ _ := ⟨_, rfl⟩

/-- The first half of a page with a key of its own, which protects it from fetches too, and the
second half with another key. The page is that at address 4000. -/
def splitPage : Staging PagedStorage where
  machine :=
    { memory := Memory.zero.store 0x147fe [1, 2, 3, 4]
      keys := fun half => if half = 0x28 then ⟨0x38⟩ else ⟨0x50⟩
      frames := fun page => if page = 4 then some 0x14 else none }
  cpu :=
    { Cpu.initial with
      psw :=
        { systemMask := Psw.translationMask
          states := { problemState := true, extendedControl := true, key := 3 } } }

/-- With the key of the first half, the bytes of both can be fetched, but not be stored into. -/
theorem splitPage_bytewise :
    ((Microcode.fetchLogicalBytes .splitKeys 0x47fe 4 3).run callouts splitPage).1 =
        .done [1, 2, 3, 4] ∧
      ((Microcode.storeLogicalBytes .splitKeys 0x47fe [5, 6, 7, 8] 3).run callouts
        splitPage).1 = .declined .protectionException ∧
      keyedView.FetchesBytes splitPage 0x47fe 4 3
        ((Microcode.fetchLogicalBytes .splitKeys 0x47fe 4 3).run callouts splitPage) ∧
      keyedView.StoresBytes splitPage 0x47fe [5, 6, 7, 8] 3
        ((Microcode.storeLogicalBytes .splitKeys 0x47fe [5, 6, 7, 8] 3).run callouts
          splitPage) := by
  have byBlock := keyedView.keysByBlock_splitKeys splitPage.machine
  have bytewise := KeyedView.logical_bytewise splitPage.machine.refusesNothing byBlock
    splitPage.machine.translatesByPage 0x47fe 3
  exact ⟨by decide +kernel, by decide +kernel, (bytewise.1 4).2, bytewise.2 [5, 6, 7, 8]⟩

end PagedStorage

end Assist370
