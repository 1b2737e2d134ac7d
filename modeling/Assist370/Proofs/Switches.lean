import Mathlib.Data.List.Forall2
import Mathlib.Data.List.Nodup
import Assist370.Proofs.Counting

/-!
# Switches over runs

An operator selects assists by name, in letters of either case, by class, or all at once, and orders
switches to be moved. An order with an unknown name is refused and changes nothing. Between orders
the engines of the machine are called, which moves no switch (`Registry.switch_call`). So a switch
is as the last order for its assist says, and without any as the configuration has built it
(`Registry.switches_ordered`).
-/

namespace Assist370

/-- A capital ASCII letter with its small letter. -/
def CapitalOf (capital small : Char) : Prop :=
  'A'.toNat ≤ capital.toNat ∧ capital.toNat ≤ 'Z'.toNat ∧ small.toNat = capital.toNat + 32

/-- Two characters are the same but for the case of an ASCII letter. -/
def SameLetter (first second : Char) : Prop :=
  first = second ∨ CapitalOf first second ∨ CapitalOf second first

theorem toNat_toLower (letter : Char) :
    letter.toLower.toNat =
      if 'A'.toNat ≤ letter.toNat ∧ letter.toNat ≤ 'Z'.toNat then letter.toNat + 32
      else letter.toNat := by
  have bounds : letter.val ≥ 'A'.val ∧ letter.val ≤ 'Z'.val ↔
      'A'.toNat ≤ letter.toNat ∧ letter.toNat ≤ 'Z'.toNat := Iff.rfl
  by_cases isCapital : 'A'.toNat ≤ letter.toNat ∧ letter.toNat ≤ 'Z'.toNat
  · have small : letter.toLower.val = letter.val + 32 :=
      congrArg Char.val (dif_pos (bounds.mpr isCapital))
    have fits : letter.toNat + 32 < 2 ^ 32 := by
      have : 'Z'.toNat = 90 := rfl
      omega
    rw [if_pos isCapital]
    exact (congrArg UInt32.toNat small).trans ((UInt32.toNat_add _ _).trans (Nat.mod_eq_of_lt fits))
  · have same : letter.toLower = letter := dif_neg (mt bounds.mp isCapital)
    rw [same, if_neg isCapital]

theorem toLower_eq_iff {first second : Char} :
    first.toLower = second.toLower ↔ SameLetter first second := by
  have capitalA : 'A'.toNat = 65 := rfl
  have capitalZ : 'Z'.toNat = 90 := rfl
  rw [← Char.toNat_inj, toNat_toLower, toNat_toLower, SameLetter, ← Char.toNat_inj, CapitalOf,
    CapitalOf]
  split <;> split <;> omega

namespace Assist

/-- The text is the mnemonic of the assist, in ASCII letters of either case. -/
def IsNamed (assist : Assist) (name : String) : Prop :=
  List.Forall₂ SameLetter assist.name.toList name.toList

variable {assist other : Assist} {name : String}

theorem foldCase_eq_iff : foldCase assist.name = foldCase name ↔ assist.IsNamed name := by
  rw [foldCase, foldCase, ← List.forall₂_eq_eq_eq, List.forall₂_map_left_iff,
    List.forall₂_map_right_iff]
  simp only [toLower_eq_iff]
  rfl

instance (assist : Assist) (name : String) : Decidable (assist.IsNamed name) :=
  decidable_of_iff _ foldCase_eq_iff

/-- No two mnemonics are the same but for case. -/
theorem IsNamed.unique (first : assist.IsNamed name) (second : other.IsNamed name) :
    assist = other := by
  have nodup : (all.map fun assist => foldCase assist.name).Nodup := by decide +kernel
  apply List.inj_on_of_nodup_map nodup (mem_all assist) (mem_all other)
  exact (foldCase_eq_iff.mpr first).trans (foldCase_eq_iff.mpr second).symm

theorem ofName_of_isNamed (isNamed : assist.IsNamed name) : ofName name = .ok assist := by
  rw [ofName]
  cases found : ofName? name with
  | some other =>
      rw [ofName?] at found
      have same := List.find?_some found
      rw [beq_iff_eq, foldCase_eq_iff] at same
      exact congrArg Except.ok (IsNamed.unique same isNamed)
  | none =>
      rw [ofName?, List.find?_eq_none] at found
      have differs := found assist (mem_all assist)
      rw [beq_iff_eq, foldCase_eq_iff] at differs
      exact absurd isNamed differs

theorem ofName_of_unknown (unknown : ∀ assist : Assist, ¬assist.IsNamed name) :
    ofName name = .error ⟨name⟩ := by
  have notFound : ofName? name = none := by
    rw [ofName?, List.find?_eq_none]
    intro assist _
    rw [beq_iff_eq, foldCase_eq_iff]
    exact unknown assist
  rw [ofName, notFound]

end Assist

namespace Selector

/-- The selector is for the assist. -/
def Covers : Selector → Assist → Prop
  | all, _ => True
  | family chosen, assist => assist.family = chosen
  | named name, assist => assist.IsNamed name

instance : (selector : Selector) → (assist : Assist) → Decidable (selector.Covers assist)
  | all, _ => inferInstanceAs (Decidable True)
  | family chosen, assist => inferInstanceAs (Decidable (assist.family = chosen))
  | named name, assist => inferInstanceAs (Decidable (assist.IsNamed name))

/-- The assists that the selector is for, of which there are some, each once. -/
structure Lists (selector : Selector) (assists : List Assist) : Prop where
  nonempty : assists ≠ []
  nodup : assists.Nodup
  mem_iff : ∀ assist, assist ∈ assists ↔ selector.Covers assist

/-- What a selector selects: the assists that it is for, or nothing if its name is unknown. -/
inductive Selects (selector : Selector) : Except UnknownAssist (List Assist) → Prop where
  | lists {assists : List Assist} (lists : selector.Lists assists) : Selects selector (.ok assists)
  | unknown {name : String} (isName : selector = .named name)
      (noAssist : ∀ assist : Assist, ¬assist.IsNamed name) : Selects selector (.error ⟨name⟩)

theorem assists_selects (selector : Selector) : selector.Selects selector.assists := by
  have nodup : Assist.all.Nodup := by decide
  cases selector with
  | all => exact .lists ⟨by decide, nodup, fun assist => iff_of_true assist.mem_all trivial⟩
  | family chosen =>
      refine .lists ⟨by cases chosen <;> decide, nodup.filter _, fun assist => ?_⟩
      rw [List.mem_filter, beq_iff_eq, and_iff_right assist.mem_all, Covers]
  | named name =>
      by_cases known : ∃ assist : Assist, assist.IsNamed name
      · rcases known with ⟨assist, isNamed⟩
        rw [assists, Assist.ofName_of_isNamed isNamed]
        refine .lists ⟨by simp, List.nodup_singleton assist, fun other => ?_⟩
        rw [List.mem_singleton]
        constructor
        · rintro rfl
          exact isNamed
        · exact fun otherNamed => Assist.IsNamed.unique otherNamed isNamed
      · have noAssist := not_exists.mp known
        rw [assists, Assist.ofName_of_unknown noAssist]
        exact .unknown rfl noAssist

end Selector

namespace Registry

variable {registry after : Registry} {selector : Selector} {change : Entry → Entry}

/-- A change has been made to the assists of a selector, and to nothing else. -/
structure Changed (registry : Registry) (selector : Selector) (change : Entry → Entry)
    (after : Registry) : Prop where
  covered : ∀ assist, selector.Covers assist →
    after.entry assist = change (registry.entry assist)
  kept : ∀ assist, ¬selector.Covers assist → after.entry assist = registry.entry assist

/-- A change that is made to one assist after the other has been made to each, where none comes
twice. -/
theorem entry_foldl_modify {assists : List Assist} (nodup : assists.Nodup) (registry : Registry)
    (assist : Assist) :
    (assists.foldl (fun changed assist => changed.modify assist change) registry).entry assist =
      if assist ∈ assists then change (registry.entry assist) else registry.entry assist := by
  induction assists generalizing registry with
  | nil => simp
  | cons first rest ih =>
      rcases List.nodup_cons.mp nodup with ⟨notInRest, restNodup⟩
      rw [List.foldl_cons, ih restNodup, entry_modify]
      by_cases same : first = assist
      · subst same
        rw [if_neg notInRest, if_pos rfl, if_pos List.mem_cons_self]
      · simp only [if_neg same, List.mem_cons, Ne.symm same, false_or]

theorem changed_foldl {assists : List Assist} (lists : selector.Lists assists) :
    registry.Changed selector change
      (assists.foldl (fun changed assist => changed.modify assist change) registry) := by
  refine ⟨fun assist covers => ?_, fun assist spared => ?_⟩
  · rw [entry_foldl_modify lists.nodup, if_pos ((lists.mem_iff assist).mpr covers)]
  · rw [entry_foldl_modify lists.nodup, if_neg (mt (lists.mem_iff assist).mp spared)]

/-- How an operation on the assists of a selector is answered. -/
inductive Answers (registry : Registry) (selector : Selector) (change : Entry → Entry) :
    Except UnknownAssist (Registry × Nat) → Prop where
  | done {after : Registry} {assists : List Assist} (lists : selector.Lists assists)
      (changed : registry.Changed selector change after) :
      Answers registry selector change (.ok (after, assists.length))
  | unknown {name : String} (isName : selector = .named name)
      (noAssist : ∀ assist : Assist, ¬assist.IsNamed name) :
      Answers registry selector change (.error ⟨name⟩)

theorem update_answers (registry : Registry) (selector : Selector) (change : Entry → Entry) :
    registry.Answers selector change (registry.update selector change) := by
  have selects := selector.assists_selects
  rw [update]
  generalize selector.assists = selected at selects ⊢
  cases selects with
  | lists lists => exact .done lists (changed_foldl lists)
  | unknown isName noAssist => exact .unknown isName noAssist

/-- An operation that fails leaves the registry, and is for no assist. -/
theorem changed_update (registry : Registry) (selector : Selector) (change : Entry → Entry) :
    registry.Changed selector change
      (((registry.update selector change).map Prod.fst).toOption.getD registry) := by
  have answers := registry.update_answers selector change
  generalize registry.update selector change = answer at answers ⊢
  cases answers with
  | done _ changed => exact changed
  | unknown isName noAssist =>
      subst isName
      exact ⟨fun assist covers => absurd covers (noAssist assist), fun _ _ => rfl⟩

/-- What an operator is told of a command: the number of assists that it has been for, or that a
name is unknown. Of the facility as a whole nothing is told. -/
def answer? (registry : Registry) : Command → Option (Except UnknownAssist Nat)
  | .enable selector => some ((registry.enable selector).map Prod.snd)
  | .disable selector => some ((registry.disable selector).map Prod.snd)
  | .setDebug selector debug => some ((registry.setDebug selector debug).map Prod.snd)
  | .setAvailable _ | .setLevel _ => none

/-- The assists that a command is for. -/
def Command.selector? : Command → Option Selector
  | enable selector | disable selector | setDebug selector _ => some selector
  | setAvailable _ | setLevel _ => none

/-- What is told of a command for the assists of a selector, and why. -/
inductive Told (registry : Registry) (command : Command) (selector : Selector) :
    Except UnknownAssist Nat → Prop where
  | count {assists : List Assist} (lists : selector.Lists assists) :
      Told registry command selector (.ok assists.length)
  | unknown {name : String} (isName : selector = .named name)
      (noAssist : ∀ assist : Assist, ¬assist.IsNamed name)
      (unchanged : registry.obey command = registry) :
      Told registry command selector (.error ⟨name⟩)

theorem told (registry : Registry) {command : Command} {selector : Selector}
    (isFor : command.selector? = some selector) :
    ∃ answer, registry.answer? command = some answer ∧ registry.Told command selector answer := by
  have tells : ∀ change, (∃ answer, registry.answer? command = some (answer.map Prod.snd) ∧
      registry.obey command = (answer.map Prod.fst).toOption.getD registry ∧
      answer = registry.update selector change) →
      ∃ answer, registry.answer? command = some answer ∧
        registry.Told command selector answer := by
    rintro change ⟨answer, isTold, obeyed, isAnswer⟩
    have answers := registry.update_answers selector change
    rw [← isAnswer] at answers
    refine ⟨_, isTold, ?_⟩
    cases answers with
    | done lists _ => exact .count lists
    | unknown isName noAssist => exact .unknown isName noAssist obeyed
  cases command with
  | enable _ | disable _ | setDebug _ _ =>
      cases isFor
      exact tells _ ⟨_, rfl, rfl, rfl⟩
  | setAvailable _ | setLevel _ => nomatch isFor

end Registry

section Runs

variable {Machine Refusal : Type}

/-- The turn orders that the assist be switched on or off. -/
inductive Turn.Orders (assist : Assist) : Turn Machine Refusal → Bool → Prop where
  | enable {selector : Selector} (covers : selector.Covers assist) :
      Orders assist (.command (.enable selector)) true
  | disable {selector : Selector} (covers : selector.Covers assist) :
      Orders assist (.command (.disable selector)) false

/-- The turn orders whether the assist is debugged. -/
inductive Turn.OrdersDebug (assist : Assist) : Turn Machine Refusal → Bool → Prop where
  | setDebug {selector : Selector} {debug : Bool} (covers : selector.Covers assist) :
      OrdersDebug assist (.command (.setDebug selector debug)) debug

/-- A switch is as the last order says, or as it was at first if there is none. -/
structure Follows (orders : Turn Machine Refusal → Bool → Prop)
    (turns : List (Turn Machine Refusal)) (atFirst now : Bool) : Prop where
  last : ∀ earlier turn later on, turns = earlier ++ turn :: later → orders turn on →
    (∀ other ∈ later, ∀ value, ¬orders other value) → now = on
  untouched : (∀ turn ∈ turns, ∀ on, ¬orders turn on) → now = atFirst

namespace Registry

/-- A turn with an order leaves the switch so, and any other turn leaves it alone. -/
structure Heeds (orders : Turn Machine Refusal → Bool → Prop) (switch : Registry → Bool) :
    Prop where
  moves : ∀ (registry : Registry) turn on, orders turn on → switch (registry.run turn) = on
  leaves : ∀ (registry : Registry) turn, (∀ on, ¬orders turn on) →
    switch (registry.run turn) = switch registry

theorem Heeds.follows {orders : Turn Machine Refusal → Bool → Prop} {switch : Registry → Bool}
    (heeds : Heeds orders switch) (start : Registry) (turns : List (Turn Machine Refusal)) :
    Follows orders turns (switch start) (switch (start.runAll turns)) := by
  have untouched : ∀ (turns : List (Turn Machine Refusal)) (start : Registry),
      (∀ turn ∈ turns, ∀ on, ¬orders turn on) → switch (start.runAll turns) = switch start := by
    intro turns
    induction turns with
    | nil => exact fun _ _ => rfl
    | cons turn rest ih =>
        intro start noOrder
        have kept := heeds.leaves start turn (noOrder turn (by simp))
        rw [← kept]
        exact ih (start.run turn) fun other other_mem => noOrder other (by simp [other_mem])
  refine ⟨?_, untouched turns start⟩
  rintro earlier turn later on rfl isOrder noLater
  rw [← heeds.moves (start.runAll earlier) turn on isOrder]
  have split : start.runAll (earlier ++ turn :: later) =
      ((start.runAll earlier).run turn).runAll later := by
    rw [runAll, List.foldl_append]
    rfl
  rw [split]
  exact untouched later _ noLater

/-- A call counts, and moves no switch. -/
theorem switch_call (switch : Entry → Bool)
    (calls : ∀ entry calls, switch { entry with calls } = switch entry)
    (hits : ∀ entry hits, switch { entry with hits } = switch entry) (registry : Registry)
    (engine : Engine Machine Refusal) (cpu : Cpu) (machine : Machine) (request : Request)
    (assist : Assist) :
    switch ((registry.run (.call engine cpu machine request)).entry assist) =
      switch (registry.entry assist) := by
  have counted : ∀ change : Entry → Entry, (∀ entry, switch (change entry) = switch entry) →
      ∀ (registry : Registry) called,
        switch ((registry.modify called change).entry assist) = switch (registry.entry assist) := by
    intro change keeps registry called
    rw [entry_modify]
    split
    · rename_i same
      rw [keeps, same]
    · rfl
  have recordCall := counted (fun entry => { entry with calls := entry.calls + 1 })
    fun entry => calls entry _
  have recordHit := counted (fun entry => { entry with hits := entry.hits + 1 })
    fun entry => hits entry _
  have outcome := System.perform_counted engine.policy engine.callouts { registry, cpu, machine }
    request
  rw [run, respond]
  cases outcome with
  | shut _ _ _ same | missing _ _ same => rw [same]
  | called _ _ _ same =>
      rw [same]
      exact recordCall registry request.assist
  | hit _ _ same =>
      rw [same]
      exact (recordHit _ request.assist).trans (recordCall registry request.assist)

section Heeding

variable {assist : Assist}

/-- A switch that is moved by changes of one kind heeds the orders for them. -/
theorem Changed.switch {registry after : Registry} {selector : Selector} {change : Entry → Entry}
    (changed : registry.Changed selector change after) (switch : Entry → Bool) {on : Bool}
    (moves : ∀ entry, switch (change entry) = on) (covers : selector.Covers assist) :
    switch (after.entry assist) = on := by
  rw [changed.covered assist covers, moves]

theorem Changed.switch_kept {registry after : Registry} {selector : Selector}
    {change : Entry → Entry} (changed : registry.Changed selector change after)
    (switch : Entry → Bool)
    (spared : selector.Covers assist → ∀ entry, switch (change entry) = switch entry) :
    switch (after.entry assist) = switch (registry.entry assist) := by
  by_cases covers : selector.Covers assist
  · rw [changed.covered assist covers, spared covers]
  · rw [changed.kept assist covers]

theorem heeds_orders (assist : Assist) :
    @Heeds Machine Refusal (Turn.Orders assist) (·.isEnabled assist) := by
  constructor
  · rintro registry _ _ (covers | covers)
    · exact (registry.changed_update _ _).switch Entry.enabled (fun _ => rfl) covers
    · exact (registry.changed_update _ _).switch Entry.enabled (fun _ => rfl) covers
  · intro registry turn noOrder
    cases turn with
    | call engine cpu machine request =>
        exact switch_call Entry.enabled (fun _ _ => rfl) (fun _ _ => rfl) registry engine cpu
          machine request assist
    | command command =>
        cases command with
        | enable selector =>
            apply (registry.changed_update selector _).switch_kept Entry.enabled
            exact fun covers => absurd (.enable covers) (noOrder true)
        | disable selector =>
            apply (registry.changed_update selector _).switch_kept Entry.enabled
            exact fun covers => absurd (.disable covers) (noOrder false)
        | setDebug selector debug =>
            exact (registry.changed_update selector _).switch_kept Entry.enabled fun _ _ => rfl
        | setAvailable _ | setLevel _ => rfl

theorem heeds_ordersDebug (assist : Assist) :
    @Heeds Machine Refusal (Turn.OrdersDebug assist) (·.isDebug assist) := by
  constructor
  · rintro registry _ _ ⟨covers⟩
    exact (registry.changed_update _ _).switch Entry.debug (fun _ => rfl) covers
  · intro registry turn noOrder
    cases turn with
    | call engine cpu machine request =>
        exact switch_call Entry.debug (fun _ _ => rfl) (fun _ _ => rfl) registry engine cpu
          machine request assist
    | command command =>
        cases command with
        | setDebug selector debug =>
            apply (registry.changed_update selector _).switch_kept Entry.debug
            exact fun covers => absurd (.setDebug covers) (noOrder debug)
        | enable selector | disable selector =>
            exact (registry.changed_update selector _).switch_kept Entry.debug fun _ _ => rfl
        | setAvailable _ | setLevel _ => rfl

end Heeding

end Registry

end Runs

section Construction

/-- The first of the names that is no mnemonic. -/
def FirstUnknown (names : List String) (name : String) : Prop :=
  ∃ earlier later, names = earlier ++ name :: later ∧
    (∀ other ∈ earlier, ∃ assist : Assist, assist.IsNamed other) ∧
    ∀ assist : Assist, ¬assist.IsNamed name

theorem FirstUnknown.not_known {names : List String} {name : String}
    (first : FirstUnknown names name) :
    ¬∀ other ∈ names, ∃ assist : Assist, assist.IsNamed other := by
  rcases first with ⟨earlier, later, rfl, -, noAssist⟩
  intro known
  rcases known name (by simp) with ⟨assist, isNamed⟩
  exact noAssist assist isNamed

/-- A registry after the assists of some names have been switched off. -/
structure Registry.SwitchedOff (registry : Registry) (names : List String) (after : Registry) :
    Prop where
  enabled : ∀ assist, after.isEnabled assist = true ↔
    registry.isEnabled assist = true ∧ ∀ name ∈ names, ¬assist.IsNamed name
  debug : ∀ assist, after.isDebug assist = registry.isDebug assist

namespace Registry

/-- What becomes of switching off the assists of some names: all of them are known, or the first
unknown one is reported. -/
inductive DisablesAll (registry : Registry) (names : List String) :
    Except UnknownAssist Registry → Prop where
  | done {after : Registry} (known : ∀ name ∈ names, ∃ assist : Assist, assist.IsNamed name)
      (switchedOff : registry.SwitchedOff names after) : DisablesAll registry names (.ok after)
  | unknown {name : String} (first : FirstUnknown names name) :
      DisablesAll registry names (.error ⟨name⟩)

theorem SwitchedOff.cons {registry middle after : Registry} {name : String} {rest : List String}
    (changed : registry.Changed (.named name) (fun entry => { entry with enabled := false }) middle)
    (later : middle.SwitchedOff rest after) : registry.SwitchedOff (name :: rest) after := by
  refine ⟨fun assist => ?_, fun assist => ?_⟩
  · rw [later.enabled, List.forall_mem_cons]
    by_cases isNamed : assist.IsNamed name
    · have off : middle.isEnabled assist = false :=
        changed.switch Entry.enabled (fun _ => rfl) isNamed
      simp [off, isNamed]
    · have kept : middle.isEnabled assist = registry.isEnabled assist :=
        congrArg Entry.enabled (changed.kept assist isNamed)
      simp [kept, isNamed]
  · rw [later.debug]
    exact changed.switch_kept Entry.debug fun _ _ => rfl

theorem disableAll_disablesAll (registry : Registry) (names : List String) :
    registry.DisablesAll names (registry.disableAll names) := by
  induction names generalizing registry with
  | nil => exact .done (by simp) ⟨fun assist => by simp, fun _ => rfl⟩
  | cons name rest ih =>
      have answers := registry.update_answers (.named name) fun entry =>
        { entry with enabled := false }
      rw [disableAll, List.foldlM_cons, disable, setEnabled]
      generalize registry.update _ _ = answer at answers ⊢
      cases answers with
      | unknown isName noAssist =>
          cases isName
          exact .unknown ⟨[], rest, rfl, by simp, noAssist⟩
      | @done middle assists lists changed =>
          have known : ∃ assist : Assist, assist.IsNamed name := by
            rcases List.exists_mem_of_ne_nil _ lists.nonempty with ⟨assist, assist_mem⟩
            exact ⟨assist, (lists.mem_iff assist).mp assist_mem⟩
          have later := ih middle
          change registry.DisablesAll (name :: rest) (middle.disableAll rest)
          generalize middle.disableAll rest = answer at later ⊢
          cases later with
          | done restKnown switchedOff =>
              exact .done (List.forall_mem_cons.mpr ⟨known, restKnown⟩)
                (switchedOff.cons changed)
          | unknown first =>
              rcases first with ⟨earlier, later, rfl, earlierKnown, noAssist⟩
              exact .unknown ⟨name :: earlier, later, rfl,
                List.forall_mem_cons.mpr ⟨known, earlierKnown⟩, noAssist⟩

/-- What becomes of a configuration. -/
inductive Builds (config : Config) : Except UnknownAssist (Registry × List Event) → Prop where
  | done {start : Registry} {events : List Event}
      (known : ∀ name ∈ config.disabled, ∃ assist : Assist, assist.IsNamed name)
      (enabled : ∀ assist, start.isEnabled assist = true ↔
        assist.isSupported = true ∧ ∀ name ∈ config.disabled, ¬assist.IsNamed name)
      (debug : ∀ assist, start.isDebug assist = config.debug) :
      Builds config (.ok (start, events))
  | unknown {name : String} (first : FirstUnknown config.disabled name) :
      Builds config (.error ⟨name⟩)

theorem ofConfig_builds (config : Config) : Builds config (ofConfig config) := by
  have atFirst : ∀ assist,
      (initial config.available config.debug).isEnabled assist = assist.isSupported ∧
        (initial config.available config.debug).isDebug assist = config.debug := by
    intro assist
    simp [initial, isEnabled, isDebug, entry]
  have disables := (initial config.available config.debug).disableAll_disablesAll config.disabled
  rw [ofConfig]
  generalize (initial config.available config.debug).disableAll config.disabled = answer
    at disables ⊢
  cases disables with
  | unknown first => exact .unknown first
  | @done before known switchedOff =>
      refine .done known (fun assist => ?_) fun assist => ?_
      · rw [← (atFirst assist).1]
        exact switchedOff.enabled assist
      · rw [← (atFirst assist).2]
        exact switchedOff.debug assist

end Registry

end Construction

namespace Registry

variable {Machine Refusal : Type}

/-- A registry is built if all names that its configuration disables are known, and from then on
each switch is as the last order for it says. Before any order an assist is enabled if it is
supported and not disabled by the configuration. A command with an unknown name changes nothing, any
other is answered by the number of assists that it is for, and none changes a counter. -/
theorem switches_ordered (config : Config) :
    ((∃ built, ofConfig config = .ok built) ↔
      ∀ name ∈ config.disabled, ∃ assist : Assist, assist.IsNamed name) ∧
    (∀ unknown, ofConfig config = .error unknown →
      FirstUnknown config.disabled unknown.name) ∧
    (∀ (registry : Registry) (command : Command),
      registry.KeepsCounters (registry.obey command) ∧
      ∀ selector, command.selector? = some selector →
        ∃ answer, registry.answer? command = some answer ∧
          registry.Told command selector answer) ∧
    ∀ start events, ofConfig config = .ok (start, events) →
      ∀ (turns : List (Turn Machine Refusal)) (assist : Assist),
        Follows (Turn.Orders assist) turns (start.isEnabled assist)
          ((start.runAll turns).isEnabled assist) ∧
        Follows (Turn.OrdersDebug assist) turns config.debug
          ((start.runAll turns).isDebug assist) ∧
        (start.isEnabled assist = true ↔
          assist.isSupported = true ∧ ∀ name ∈ config.disabled, ¬assist.IsNamed name) := by
  have builds := ofConfig_builds config
  generalize ofConfig config = answer at builds ⊢
  refine ⟨?_, ?_, fun registry command => ⟨keepsCounters_obey registry command, ?_⟩, ?_⟩
  · cases builds with
    | done known _ _ => exact iff_of_true ⟨_, rfl⟩ known
    | unknown first => exact iff_of_false (fun ⟨_, built⟩ => nomatch built) first.not_known
  · rintro unknown rfl
    cases builds with
    | unknown first => exact first
  · exact fun selector isFor => told registry isFor
  · rintro start events rfl turns assist
    cases builds with
    | done known enabled debug =>
        have follows := (@heeds_ordersDebug Machine Refusal assist).follows start turns
        simp only [debug] at follows
        exact ⟨(heeds_orders assist).follows start turns, follows, enabled assist⟩

/-- Disables, enables and debugs, and among them an order for an unknown assist. -/
def orderedTurns : List (Turn Memory Empty) :=
  [.command (.disable (.family .vm)), .command (.enable (.named "lpsw")),
    .command (.enable (.named "BOGUS")), .command (.setDebug .all true)]

theorem orderedTurns_followed :
    ∃ start events, ofConfig { disabled := ["DISP0", "ssm"] } = .ok (start, events) ∧
      (start.runAll orderedTurns).isEnabled .lpsw = true ∧
      (start.runAll orderedTurns).isEnabled .lctl = false ∧
      (start.runAll orderedTurns).isEnabled .disp0 = false ∧
      (start.runAll orderedTurns).isDebug .trbrg = true ∧
      start.obey (.enable (.named "BOGUS")) = start := by
  rcases @switches_ordered Memory Empty { disabled := ["DISP0", "ssm"] } with
    ⟨built_iff, -, commands, follows⟩
  have known : ∀ name ∈ ["DISP0", "ssm"], ∃ assist : Assist, assist.IsNamed name := by
    simp only [List.forall_mem_cons]
    exact ⟨⟨.disp0, by decide⟩, ⟨.ssm, by decide⟩, by simp⟩
  rcases built_iff.mpr known with ⟨⟨start, events⟩, built⟩
  have follows := follows start events built orderedTurns
  refine ⟨start, events, built, ?_, ?_, ?_, ?_, ?_⟩
  · refine (follows .lpsw).1.last [_] _ [_, _] true rfl (.enable (by decide)) ?_
    rintro other (_ | ⟨_, _ | ⟨_, ⟨⟩⟩⟩) value (covers | covers)
    exact absurd covers (by decide)
  · refine (follows .lctl).1.last [] _ [_, _, _] false rfl (.disable (by decide)) ?_
    rintro other (_ | ⟨_, _ | ⟨_, _ | ⟨_, ⟨⟩⟩⟩⟩) value (covers | covers) <;>
      exact absurd covers (by decide)
  · have noOrder : ∀ turn ∈ orderedTurns, ∀ on, ¬Turn.Orders .disp0 turn on := by
      rintro turn (_ | ⟨_, _ | ⟨_, _ | ⟨_, _ | ⟨_, ⟨⟩⟩⟩⟩⟩) value (covers | covers) <;>
        exact absurd covers (by decide)
    rw [(follows .disp0).1.untouched noOrder, Bool.eq_false_iff]
    intro enabled
    exact ((follows .disp0).2.2.mp enabled).2 "DISP0" (by simp) (by decide)
  · exact (follows .trbrg).2.1.last [_, _, _] _ [] true rfl (.setDebug trivial) (by simp)
  · have noAssist : ∀ assist, ¬(Selector.named "BOGUS").Covers assist := by
      intro assist
      cases assist <;> decide
    rcases (commands start (.enable (.named "BOGUS"))).2 _ rfl with ⟨answer, -, isTold⟩
    cases isTold with
    | unknown _ _ unchanged => exact unchanged
    | count lists =>
        rcases List.exists_mem_of_ne_nil _ lists.nonempty with ⟨assist, assist_mem⟩
        exact absurd ((lists.mem_iff assist).mp assist_mem) (noAssist assist)

end Registry

end Assist370
