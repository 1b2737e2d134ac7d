import Assist370.Cpu
import Assist370.Event
import Assist370.StorageKey
import Assist370.Translation

/-!
# Microcode

The program of an assist is a tree: it ends with a result or declines, or it takes an action and
goes on as the answer tells. What the actions do to a machine is said elsewhere, so that a fact
about all assists can be proved once, by induction on the tree.
-/

namespace Assist370

/-- A single action of an assist. Storage and registers are those that the assist has staged. -/
inductive Action where
  /-- Fetches bytes of real storage. -/
  | fetch (address : UInt32) (length : Nat)
  /-- Stores bytes into real storage. -/
  | store (address : UInt32) (bytes : List UInt8)
  /-- Looks at a storage key. -/
  | storageKey (address : UInt32)
  /-- Translates a virtual address through control registers 0 and 1. -/
  | translate (address : UInt32)
  /-- Looks at the registers. -/
  | registers
  /-- Changes registers. -/
  | modify (change : Cpu → Cpu)
  /-- Sets the CPU timer. -/
  | setTimer (value : Int64)
  /-- Asks for the translation lookaside buffer to be emptied when the assist completes. -/
  | purgeTlb
  /-- Hands a register to the software path in case the assist declines. -/
  | handOff (register : RegisterNumber) (value : UInt32)
  /-- Puts an event in the log. -/
  | log (event : Event)

namespace Action

/-- The kind of answer that an action gives. -/
abbrev Answer : Action → Type
  | fetch _ length => Bytes length
  | storageKey _ => StorageKey
  | translate _ => Except TranslationFault UInt32
  | registers => Cpu
  | store .. | modify _ | setTimer _ | purgeTlb | handOff .. | log _ => Unit

end Action

/-- The program of an assist. -/
inductive Microcode (α : Type) : Type where
  /-- The assist ends with a result. -/
  | done (value : α)
  /-- The assist declines. -/
  | decline (reason : Decline)
  /-- The assist takes an action and goes on with the answer. -/
  | act (action : Action) (next : action.Answer → Microcode α)

namespace Microcode

variable {α β γ : Type}

/-- Goes on with the result of a program. -/
def bind : Microcode α → (α → Microcode β) → Microcode β
  | done value, next => next value
  | decline reason, _ => decline reason
  | act action answer, next => act action fun value => (answer value).bind next

instance : Monad Microcode where
  pure := done
  bind := bind

theorem pure_eq_done (value : α) : (pure value : Microcode α) = done value :=
  rfl

theorem bind_eq_bind (program : Microcode α) (next : α → Microcode β) :
    program >>= next = program.bind next :=
  rfl

@[simp]
theorem bind_done (program : Microcode α) : program.bind done = program := by
  induction program with
  | done value => rfl
  | decline reason => rfl
  | act action next ih => simp only [bind, ih]

theorem bind_assoc (program : Microcode α) (first : α → Microcode β)
    (second : β → Microcode γ) :
    (program.bind first).bind second = program.bind fun value => (first value).bind second := by
  induction program with
  | done value => rfl
  | decline reason => rfl
  | act action next ih => simp only [bind, ih]

instance : LawfulMonad Microcode :=
  LawfulMonad.mk' Microcode bind_done (fun _ _ => rfl) bind_assoc

/-- Turns a decline into a result, so that the program can go on after it. -/
def attempt : Microcode α → Microcode (Except Decline α)
  | done value => done (.ok value)
  | decline reason => done (.error reason)
  | act action next => act action fun value => (next value).attempt

/-- The program of a single action. -/
def perform (action : Action) : Microcode action.Answer :=
  act action done

/-- Declines unless a check is met. -/
def require (check : Bool) (reason : Decline) : Microcode Unit :=
  if check then done () else decline reason

/-- The registers as staged. -/
def registers : Microcode Cpu :=
  perform .registers

/-- Changes staged registers. -/
def modify (change : Cpu → Cpu) : Microcode Unit :=
  perform (.modify change)

/-- Loads a general register. -/
def setGeneral (register : RegisterNumber) (value : UInt32) : Microcode Unit :=
  modify fun cpu => cpu.setGeneral register value

/-- A general register as staged. -/
def general (register : RegisterNumber) : Microcode UInt32 := do
  return (← registers).general.read register

/-- Sets the CPU timer. -/
def setTimer (value : Int64) : Microcode Unit :=
  perform (.setTimer value)

/-- Asks for the translation lookaside buffer to be emptied when the assist completes. -/
def purgeTlb : Microcode Unit :=
  perform .purgeTlb

/-- Hands a register to the software path in case the assist declines. -/
def handOff (register : RegisterNumber) (value : UInt32) : Microcode Unit :=
  perform (.handOff register value)

/-- Puts an event in the log. -/
def log (event : Event) : Microcode Unit :=
  perform (.log event)

end Microcode

end Assist370
