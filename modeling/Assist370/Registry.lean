import Assist370.Assist
import Assist370.Event

/-!
# The registry of assists

The registry holds what all processors of a machine share: whether the facility is installed, the
level that it reports, and for each assist its switches and counters. It starts out as a
configuration describes it. Administrative operations select assists by name, by class, or all at
once; they move switches and never touch a counter.
-/

namespace Assist370

/-- The level that the facility supports, and reports unless told otherwise. -/
def supportedLevel : UInt32 := 20

/-- What the facility starts with. -/
structure Config where
  /-- The facility is installed. -/
  available : Bool := false
  /-- The level that the facility reports. -/
  level : UInt32 := supportedLevel
  /-- The first setting of every assist's debug switch. -/
  debug : Bool := false
  /-- Assists, by mnemonic, that start out disabled. -/
  disabled : List String := []
  deriving DecidableEq, Repr, Inhabited

/-- The switches and counters of an assist. The counters are natural numbers. Words of 64 bits hold
the same counts as long as a counter stays below `2 ^ 64`. -/
structure Registry.Entry where
  enabled : Bool
  debug : Bool
  calls : Nat := 0
  hits : Nat := 0
  deriving DecidableEq, Repr, Inhabited

/-- What all processors of a machine share. -/
structure Registry where
  /-- The facility is installed. -/
  available : Bool
  /-- The level that the facility reports. -/
  level : UInt32
  /-- The switches and counters of each assist. -/
  entries : Vector Registry.Entry Assist.count
  deriving DecidableEq

/-- Which assists an administrative operation applies to. -/
inductive Selector where
  | all
  | family (family : AssistClass)
  | named (name : String)
  deriving DecidableEq, Repr

namespace Selector

/-- The assists that a selector covers. -/
def assists : Selector → Except UnknownAssist (List Assist)
  | .all => .ok Assist.all
  | .family chosen => .ok (Assist.all.filter fun assist => assist.family == chosen)
  | .named name => (Assist.ofName name).map fun assist => [assist]

end Selector

namespace Registry

/-- The switches and counters of an assist. -/
def entry (registry : Registry) (assist : Assist) : Entry :=
  registry.entries[assist.index]

/-- Changes the switches and counters of one assist. -/
def modify (registry : Registry) (assist : Assist) (change : Entry → Entry) : Registry :=
  { registry with
    entries := registry.entries.set assist.index (change (registry.entry assist)) }

@[simp]
theorem available_modify (registry : Registry) (assist : Assist) (change : Entry → Entry) :
    (registry.modify assist change).available = registry.available :=
  rfl

@[simp]
theorem level_modify (registry : Registry) (assist : Assist) (change : Entry → Entry) :
    (registry.modify assist change).level = registry.level :=
  rfl

theorem entry_modify (registry : Registry) (changed assist : Assist) (change : Entry → Entry) :
    (registry.modify changed change).entry assist =
      if changed = assist then change (registry.entry changed) else registry.entry assist := by
  by_cases equal : changed = assist
  · subst equal
    simp [modify, entry]
  · have apart : changed.index.val ≠ assist.index.val := fun same =>
      equal (Assist.index_injective (Fin.ext same))
    simp [modify, entry, equal, apart]

/-- Whether an assist is switched on. -/
def isEnabled (registry : Registry) (assist : Assist) : Bool :=
  (registry.entry assist).enabled

/-- Whether an assist's declines are logged for debugging. -/
def isDebug (registry : Registry) (assist : Assist) : Bool :=
  (registry.entry assist).debug

/-- Counts a call of an assist. -/
def recordCall (registry : Registry) (assist : Assist) : Registry :=
  registry.modify assist fun entry => { entry with calls := entry.calls + 1 }

/-- Counts a completion of an assist. -/
def recordHit (registry : Registry) (assist : Assist) : Registry :=
  registry.modify assist fun entry => { entry with hits := entry.hits + 1 }

/-- Applies a change to every assist that a selector covers, and counts these assists. -/
def update (registry : Registry) (selector : Selector) (change : Entry → Entry) :
    Except UnknownAssist (Registry × Nat) :=
  selector.assists.map fun assists =>
    (assists.foldl (fun changed assist => changed.modify assist change) registry,
      assists.length)

/-- Switches the selected assists on or off. -/
def setEnabled (registry : Registry) (selector : Selector) (enabled : Bool) :
    Except UnknownAssist (Registry × Nat) :=
  registry.update selector fun entry => { entry with enabled }

/-- Switches the selected assists on. -/
def enable (registry : Registry) (selector : Selector) : Except UnknownAssist (Registry × Nat) :=
  registry.setEnabled selector true

/-- Switches the selected assists off. -/
def disable (registry : Registry) (selector : Selector) :
    Except UnknownAssist (Registry × Nat) :=
  registry.setEnabled selector false

/-- Moves the debug switches of the selected assists. -/
def setDebug (registry : Registry) (selector : Selector) (debug : Bool) :
    Except UnknownAssist (Registry × Nat) :=
  registry.update selector fun entry => { entry with debug }

/-- Installs or removes the facility. -/
def setAvailable (registry : Registry) (available : Bool) : Registry :=
  { registry with available }

/-- What is amiss with a level that the facility is to report. -/
def levelEvents (level : UInt32) : List Event :=
  if level == supportedLevel then [] else [.unsupportedLevel]

/-- Sets the level that the facility reports, and says what is amiss with it. -/
def setLevel (registry : Registry) (level : UInt32) : Registry × List Event :=
  ({ registry with level }, levelEvents level)

/-- A registry in which exactly the supported assists are switched on. -/
def initial (available debug : Bool) : Registry where
  available
  level := supportedLevel
  entries := Vector.ofFn fun index =>
    { enabled := (Assist.ofIndex index).isSupported
      debug }

/-- Switches off the assists of a list of names. The first name that is no mnemonic fails. -/
def disableAll (registry : Registry) (names : List String) : Except UnknownAssist Registry :=
  names.foldlM (fun changed name => (changed.disable (.named name)).map Prod.fst) registry

/-- The registry that a configuration describes, and what is amiss with the configuration. -/
def ofConfig (config : Config) : Except UnknownAssist (Registry × List Event) :=
  ((initial config.available config.debug).disableAll config.disabled).map fun registry =>
    registry.setLevel config.level

end Registry

end Assist370
