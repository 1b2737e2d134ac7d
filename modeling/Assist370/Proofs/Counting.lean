import Assist370.Proofs.Admission
import Assist370.Statistics

/-!
# Counters over runs

The engines of a machine share one registry, which is commanded by operators while the engines are
called. A run is a list of such turns, and each call in it has the engine, the registers and the
machine that it finds. Commands move switches and leave the counters alone, so that a counter says
how often along a run its assist has been admitted or performed (`Registry.calls_runAll`,
`Registry.hits_runAll`). Every performance is of an admitted call and of an assist that is
supported, and so ratios are percentages.
-/

namespace Assist370

namespace Registry

/-- A command of an operator. -/
inductive Command where
  | enable (selector : Selector)
  | disable (selector : Selector)
  | setDebug (selector : Selector) (debug : Bool)
  | setAvailable (available : Bool)
  | setLevel (level : UInt32)
  deriving DecidableEq, Repr

/-- The registry after a command. A command for an unknown assist changes nothing. -/
def obey (registry : Registry) : Command → Registry
  | .enable selector => ((registry.enable selector).map Prod.fst).toOption.getD registry
  | .disable selector => ((registry.disable selector).map Prod.fst).toOption.getD registry
  | .setDebug selector debug =>
      ((registry.setDebug selector debug).map Prod.fst).toOption.getD registry
  | .setAvailable available => registry.setAvailable available
  | .setLevel level => (registry.setLevel level).1

/-- The counters of all assists are as before. -/
structure KeepsCounters (before after : Registry) : Prop where
  calls : ∀ assist, (after.entry assist).calls = (before.entry assist).calls
  hits : ∀ assist, (after.entry assist).hits = (before.entry assist).hits

theorem KeepsCounters.refl (registry : Registry) : registry.KeepsCounters registry :=
  ⟨fun _ => rfl, fun _ => rfl⟩

theorem KeepsCounters.trans {before middle after : Registry} (first : before.KeepsCounters middle)
    (second : middle.KeepsCounters after) : before.KeepsCounters after where
  calls assist := (second.calls assist).trans (first.calls assist)
  hits assist := (second.hits assist).trans (first.hits assist)

section Switches

variable {change : Entry → Entry}
  (keeps : ∀ entry, (change entry).calls = entry.calls ∧ (change entry).hits = entry.hits)

include keeps

theorem keepsCounters_modify (registry : Registry) (changed : Assist) :
    registry.KeepsCounters (registry.modify changed change) := by
  constructor <;>
  · intro assist
    rw [entry_modify]
    grind

theorem keepsCounters_update (registry : Registry) (selector : Selector) :
    registry.KeepsCounters
      (((registry.update selector change).map Prod.fst).toOption.getD registry) := by
  have all : ∀ (assists : List Assist) (registry : Registry), registry.KeepsCounters
      (assists.foldl (fun changed assist => changed.modify assist change) registry) := by
    intro assists
    induction assists with
    | nil => exact .refl
    | cons assist rest ih =>
        exact fun registry => (keepsCounters_modify keeps registry assist).trans (ih _)
  rw [update]
  cases selector.assists with
  | error unknown => exact .refl registry
  | ok assists => exact all assists registry

end Switches

/-- Commands move switches, and leave the counters alone. -/
theorem keepsCounters_obey (registry : Registry) (command : Command) :
    registry.KeepsCounters (registry.obey command) := by
  cases command with
  | enable selector | disable selector | setDebug selector debug =>
      apply keepsCounters_update
      exact fun _ => ⟨rfl, rfl⟩
  | setAvailable available | setLevel level => exact ⟨fun _ => rfl, fun _ => rfl⟩

end Registry

/-- An engine: the addressing policy of its processor, and the callouts to its machine. -/
structure Engine (Machine Refusal : Type) where
  policy : Policy
  callouts : Callouts Machine Refusal

/-- What happens to a shared registry: an engine is called for an instruction, with the registers
and the machine that the call finds, or an operator gives a command. -/
inductive Turn (Machine Refusal : Type) where
  | call (engine : Engine Machine Refusal) (cpu : Cpu) (machine : Machine) (request : Request)
  | command (command : Registry.Command)

variable {Machine Refusal : Type} {registry : Registry}

namespace Registry

/-- What a call of an engine that shares the registry comes to. -/
def respond (registry : Registry) (engine : Engine Machine Refusal) (cpu : Cpu) (machine : Machine)
    (request : Request) : Response Machine Refusal :=
  System.perform engine.policy engine.callouts { registry, cpu, machine } request

/-- The registry after a turn. -/
def run (registry : Registry) : Turn Machine Refusal → Registry
  | .call engine cpu machine request =>
      (registry.respond engine cpu machine request).system.registry
  | .command command => registry.obey command

/-- The registry after turns. -/
def runAll (registry : Registry) (turns : List (Turn Machine Refusal)) : Registry :=
  turns.foldl run registry

/-- The turn is an admitted call of an assist. -/
def TurnAdmits (assist : Assist) (registry : Registry) : Turn Machine Refusal → Prop
  | .call _ cpu _ request => assist = request.assist ∧ registry.Admits cpu assist
  | .command _ => False

/-- The turn is a call of an assist that is performed to its end. -/
def TurnPerforms (assist : Assist) (registry : Registry) : Turn Machine Refusal → Prop
  | .call engine cpu machine request =>
      assist = request.assist ∧ (registry.respond engine cpu machine request).Performed
  | .command _ => False

instance (assist : Assist) (registry : Registry) :
    (turn : Turn Machine Refusal) → Decidable (registry.TurnAdmits assist turn)
  | .call _ _ _ _ => inferInstanceAs (Decidable (_ ∧ _))
  | .command _ => inferInstanceAs (Decidable False)

instance (assist : Assist) (registry : Registry) :
    (turn : Turn Machine Refusal) → Decidable (registry.TurnPerforms assist turn)
  | .call _ _ _ _ => inferInstanceAs (Decidable (_ ∧ _))
  | .command _ => inferInstanceAs (Decidable False)

/-- How often something happens along a run. -/
def tally (happens : Registry → Turn Machine Refusal → Prop)
    [∀ registry turn, Decidable (happens registry turn)] :
    Registry → List (Turn Machine Refusal) → Nat
  | _, [] => 0
  | registry, turn :: rest =>
      (if happens registry turn then 1 else 0) + tally happens (registry.run turn) rest

/-- A property of the registry so far and the turn that is taken next holds along a run. -/
def Throughout (property : Registry → Turn Machine Refusal → Prop) :
    Registry → List (Turn Machine Refusal) → Prop
  | _, [] => True
  | registry, turn :: rest =>
      property registry turn ∧ (registry.run turn).Throughout property rest

theorem throughout_of_forall {property : Registry → Turn Machine Refusal → Prop}
    (holds : ∀ registry turn, property registry turn) (registry : Registry)
    (turns : List (Turn Machine Refusal)) : registry.Throughout property turns := by
  induction turns generalizing registry with
  | nil => trivial
  | cons turn rest ih => exact ⟨holds registry turn, ih (registry.run turn)⟩

/-- What a turn does to the counters, and when a call finds that there is no such instruction. -/
structure Counts (registry : Registry) (turn : Turn Machine Refusal) : Prop where
  calls : ∀ assist, ((registry.run turn).entry assist).calls =
    (registry.entry assist).calls + if registry.TurnAdmits assist turn then 1 else 0
  hits : ∀ assist, ((registry.run turn).entry assist).hits =
    (registry.entry assist).hits + if registry.TurnPerforms assist turn then 1 else 0
  missing : ∀ engine cpu machine request, turn = .call engine cpu machine request →
    ((registry.respond engine cpu machine request).result = .ok .operationException ↔
      registry.Misses cpu request.assist)

theorem run_counts (registry : Registry) (turn : Turn Machine Refusal) : registry.Counts turn := by
  cases turn with
  | call engine cpu machine request =>
      have counted := System.perform_counted engine.policy engine.callouts
        { registry, cpu, machine } request
      refine ⟨fun assist => ?_, fun assist => ?_, ?_⟩
      · exact counted.calls assist
      · exact counted.hits assist
      · rintro _ _ _ _ ⟨⟩
        exact counted.missing_iff
  | command command =>
      have keeps := registry.keepsCounters_obey command
      exact ⟨keeps.calls, keeps.hits, fun _ _ _ _ => nofun⟩

/-- What each turn adds to a counter a run adds up. -/
theorem counter_runAll {counter : Registry → Nat}
    {happens : Registry → Turn Machine Refusal → Prop}
    [∀ registry turn, Decidable (happens registry turn)]
    (step : ∀ registry turn, counter (registry.run turn) =
      counter registry + if happens registry turn then 1 else 0)
    (registry : Registry) (turns : List (Turn Machine Refusal)) :
    counter (registry.runAll turns) = counter registry + registry.tally happens turns := by
  induction turns generalizing registry with
  | nil => rfl
  | cons turn rest ih =>
      calc counter (registry.runAll (turn :: rest))
        _ = counter (registry.run turn) + (registry.run turn).tally happens rest := ih _
        _ = counter registry + registry.tally happens (turn :: rest) := by
            rw [step, tally, Nat.add_assoc]

theorem calls_runAll (registry : Registry) (turns : List (Turn Machine Refusal)) (assist : Assist) :
    ((registry.runAll turns).entry assist).calls =
      (registry.entry assist).calls + registry.tally (TurnAdmits assist) turns :=
  @counter_runAll _ _ (fun registry => (registry.entry assist).calls) (TurnAdmits assist) _
    (fun registry turn => (run_counts registry turn).calls assist) registry turns

theorem hits_runAll (registry : Registry) (turns : List (Turn Machine Refusal)) (assist : Assist) :
    ((registry.runAll turns).entry assist).hits =
      (registry.entry assist).hits + registry.tally (TurnPerforms assist) turns :=
  @counter_runAll _ _ (fun registry => (registry.entry assist).hits) (TurnPerforms assist) _
    (fun registry turn => (run_counts registry turn).hits assist) registry turns

/-- No assist has more hits than calls, and those that are not supported have none. -/
structure Sound (registry : Registry) : Prop where
  hits_le : ∀ assist, (registry.entry assist).hits ≤ (registry.entry assist).calls
  unsupported : ∀ assist, assist.isSupported = false → (registry.entry assist).hits = 0

/-- Every performance is of an admitted call, and of an assist that is supported. -/
theorem turnAdmits_of_turnPerforms {assist : Assist} {turn : Turn Machine Refusal}
    (performs : registry.TurnPerforms assist turn) :
    registry.TurnAdmits assist turn ∧ assist.isSupported = true := by
  cases turn with
  | command command => exact performs.elim
  | call engine cpu machine request =>
      obtain ⟨rfl, performed⟩ := performs
      have counted := System.perform_counted engine.policy engine.callouts
        { registry, cpu, machine } request
      exact ⟨⟨rfl, counted.admits_of_performed performed⟩,
        System.isSupported_of_performed performed⟩

theorem Sound.run (sound : registry.Sound) (turn : Turn Machine Refusal) :
    (registry.run turn).Sound := by
  have counts := registry.run_counts turn
  have admits := fun assist => @turnAdmits_of_turnPerforms _ _ registry assist turn
  constructor
  · intro assist
    rw [counts.calls, counts.hits]
    have before := sound.hits_le assist
    by_cases performs : registry.TurnPerforms assist turn
    · rw [if_pos performs, if_pos (admits assist performs).1]
      omega
    · rw [if_neg performs]
      omega
  · intro assist unsupported
    have never : ¬registry.TurnPerforms assist turn := fun performs =>
      Bool.false_ne_true (unsupported.symm.trans (admits assist performs).2)
    rw [counts.hits, if_neg never, sound.unsupported assist unsupported]

theorem Sound.runAll (sound : registry.Sound) (turns : List (Turn Machine Refusal)) :
    (registry.runAll turns).Sound := by
  induction turns generalizing registry with
  | nil => exact sound
  | cons turn rest ih => exact ih (sound.run turn)

theorem keepsCounters_disable {after : Registry} {selector : Selector} {count : Nat}
    (disabled : registry.disable selector = .ok (after, count)) :
    registry.KeepsCounters after := by
  have keeps := keepsCounters_obey registry (.disable selector)
  rw [obey, disabled] at keeps
  exact keeps

theorem keepsCounters_disableAll {names : List String} {after : Registry}
    (disabled : registry.disableAll names = .ok after) : registry.KeepsCounters after := by
  induction names generalizing registry with
  | nil =>
      cases disabled
      exact .refl _
  | cons name rest ih =>
      rw [disableAll, List.foldlM_cons] at disabled
      cases first : registry.disable (.named name) with
      | error unknown =>
          rw [first] at disabled
          contradiction
      | ok result =>
          rw [first] at disabled
          exact (keepsCounters_disable first).trans (ih disabled)

/-- Every counter starts at zero. -/
theorem counters_of_ofConfig {config : Config} {events : List Event}
    (built : ofConfig config = .ok (registry, events)) (assist : Assist) :
    (registry.entry assist).calls = 0 ∧ (registry.entry assist).hits = 0 := by
  rw [ofConfig] at built
  cases disabled : (initial config.available config.debug).disableAll config.disabled with
  | error unknown =>
      rw [disabled] at built
      contradiction
  | ok before =>
      rw [disabled] at built
      cases built
      have keeps := keepsCounters_disableAll disabled
      have zero : ((initial config.available config.debug).entry assist).calls = 0 ∧
          ((initial config.available config.debug).entry assist).hits = 0 := by
        simp [initial, entry]
      exact ⟨(keeps.calls assist).trans zero.1, (keeps.hits assist).trans zero.2⟩

end Registry

/-! ### Ratios -/

/-- The ratio of two counters as words of 64 bits give it. -/
def wordRatio (calls hits : UInt64) : UInt64 :=
  if calls = 0 then 100 else hits * 100 / calls

/-- The ratio of two counters is a percentage, and words of 64 bits have room for computing it while
the calls are below `2 ^ 57`. For the totals of a class the counters are sums, which the bound is
on. -/
structure IsPercentage (calls hits : Nat) : Prop where
  le : ratio calls hits ≤ 100
  hasRoom : calls < Nat.pow 2 57 →
    (wordRatio (UInt64.ofNat calls) (UInt64.ofNat hits)).toNat = ratio calls hits

theorem isPercentage {calls hits : Nat} (hits_le : hits ≤ calls) : IsPercentage calls hits where
  le := by
    rw [ratio]
    split
    · exact Nat.le_refl 100
    · apply Nat.div_le_of_le_mul
      omega
  hasRoom bounded := by
    have callsFit : calls < UInt64.size := Nat.lt_trans bounded (by decide)
    have hitsFit : hits < UInt64.size := Nat.lt_of_le_of_lt hits_le callsFit
    have product : hits * 100 < UInt64.size := by
      have : Nat.pow 2 57 * 100 < UInt64.size := by decide
      omega
    have noCall : UInt64.ofNat calls = 0 ↔ calls = 0 := by
      rw [← UInt64.toNat_inj, UInt64.toNat_ofNat_of_lt' callsFit, UInt64.toNat_zero]
    rw [wordRatio, ratio, if_congr noCall rfl rfl]
    split
    · rfl
    · rw [UInt64.toNat_div, UInt64.toNat_mul, UInt64.toNat_ofNat_of_lt' callsFit,
        UInt64.toNat_ofNat_of_lt' hitsFit]
      exact congrArg (· / calls) (Nat.mod_eq_of_lt product)

theorem AssistStatistic.total_hits_le {statistics : List AssistStatistic}
    (each : ∀ statistic ∈ statistics, statistic.hits ≤ statistic.calls) :
    total hits statistics ≤ total calls statistics := by
  induction statistics with
  | nil => exact Nat.le_refl 0
  | cons statistic rest ih =>
      exact Nat.add_le_add (each statistic (by simp)) (ih fun other other_mem =>
        each other (by simp [other_mem]))

namespace Registry

theorem Sound.totalHits_le (sound : registry.Sound) (family : AssistClass) :
    (registry.statistics family).totalHits ≤ (registry.statistics family).totalCalls := by
  apply AssistStatistic.total_hits_le
  intro statistic statistic_mem
  simp only [statistics, List.mem_mergeSort, List.mem_filter, List.mem_map] at statistic_mem
  obtain ⟨⟨assist, -, rfl⟩, -⟩ := statistic_mem
  exact sound.hits_le assist

/-- From a new registry on, each turn of a run adds what it should to the counters. So the counters
of an assist are how often it has been admitted and performed, none has more hits than calls, none
that is not supported has a hit, and the ratios of the assists and of the totals in reports are
percentages. -/
theorem counted_runs {config : Config} {start : Registry} {events : List Event}
    (built : ofConfig config = .ok (start, events)) (turns : List (Turn Machine Refusal)) :
    let final := start.runAll turns
    start.Throughout Counts turns ∧
      (∀ assist,
        (final.entry assist).calls = start.tally (TurnAdmits assist) turns ∧
        (final.entry assist).hits = start.tally (TurnPerforms assist) turns ∧
        (final.entry assist).hits ≤ (final.entry assist).calls ∧
        (assist.isSupported = false → (final.entry assist).hits = 0) ∧
        IsPercentage (final.statistic assist).calls (final.statistic assist).hits) ∧
      ∀ family, IsPercentage (final.statistics family).totalCalls
        (final.statistics family).totalHits := by
  intro final
  have zero := counters_of_ofConfig built
  have sound : final.Sound := by
    refine Sound.runAll ⟨fun assist => ?_, fun assist _ => (zero assist).2⟩ turns
    exact Nat.le_of_eq ((zero assist).2.trans (zero assist).1.symm)
  refine ⟨throughout_of_forall run_counts start turns, fun assist => ⟨?_, ?_, sound.hits_le assist,
    sound.unsupported assist, isPercentage (sound.hits_le assist)⟩,
    fun family => isPercentage (sound.totalHits_le family)⟩
  · rw [calls_runAll, (zero assist).1, Nat.zero_add]
  · rw [hits_runAll, (zero assist).2, Nat.zero_add]

/-- A run in which STEVL is performed, then disabled, and LCSPG enabled and left to software. -/
def countedTurns : List (Turn Memory Empty) :=
  let engine : Engine Memory Empty := ⟨.splitKeys, Memory.callouts⟩
  let cpu := { Cpu.initial with control := RegisterFile.zero.load 6 0x02000000 }
  [.call engine cpu Memory.zero (.stevl 0x400),
    .command (.disable .all),
    .call engine cpu Memory.zero (.stevl 0x400),
    .command (.enable (.named "lcspg")),
    .call engine cpu Memory.zero (.unassisted .lcspg)]

theorem countedTurns_counted :
    let final := (initial true false).runAll countedTurns
    ((final.entry .stevl).calls = 1 ∧ (final.entry .stevl).hits = 1) ∧
      (final.entry .lcspg).calls = 1 ∧ (final.entry .lcspg).hits = 0 := by
  intro final
  have built : ofConfig { available := true } = .ok (initial true false, []) := rfl
  obtain ⟨-, counted, -⟩ := counted_runs built countedTurns
  obtain ⟨stevlCalls, stevlHits, -⟩ := counted .stevl
  obtain ⟨lcspgCalls, -, -, lcspgHits, -⟩ := counted .lcspg
  refine ⟨⟨stevlCalls.trans ?_, stevlHits.trans ?_⟩, lcspgCalls.trans ?_, lcspgHits rfl⟩ <;>
  decide +kernel

end Registry

end Assist370
