import Assist370.Facility

/-!
# Callouts that are made

Whatever an assist does to a machine, it does by callouts. `Callouts.Reaches` says that callouts of
a kind lead from one machine to another. Callouts can also be recorded as they are made
(`Callouts.recorded`), and then every callout that led to a machine stands in its record.
-/

namespace Assist370

/-- A single callout to the machine. -/
inductive Callout where
  | readReal (address : UInt32) (length : Nat)
  | writeReal (address : UInt32) (bytes : List UInt8)
  | storageKey (address : UInt32)
  | translate (control0 control1 address : UInt32)
  | purgeTlb
  deriving DecidableEq, Repr

variable {Machine Refusal : Type}

namespace Callout

/-- The machine after a callout, whatever it answers. -/
def after (callouts : Callouts Machine Refusal) (machine : Machine) : Callout → Machine
  | readReal address length => (callouts.readReal address length machine).2
  | writeReal address bytes => (callouts.writeReal address bytes machine).2
  | storageKey address => (callouts.storageKey address machine).2
  | translate control0 control1 address =>
      (callouts.translate control0 control1 address machine).2
  | purgeTlb => callouts.purgeTlb machine

/-- The callout keeps to the addresses that there are. -/
def InSpace : Callout → Prop
  | readReal address length => address.toNat + length ≤ Address.space
  | writeReal address bytes => address.toNat + bytes.length ≤ Address.space
  | storageKey address => address.toNat < Address.space
  | translate _ _ address => address.toNat < Address.space
  | purgeTlb => True

/-- The callout only looks at the machine: it neither stores nor empties the lookaside buffer. -/
def Looks (callout : Callout) : Prop :=
  match callout with
  | readReal .. | storageKey _ | translate .. => callout.InSpace
  | writeReal .. | purgeTlb => False

theorem Looks.inSpace {callout : Callout} (looks : callout.Looks) : callout.InSpace := by
  cases callout with
  | readReal _ _ | storageKey _ | translate _ _ _ => exact looks
  | writeReal _ _ | purgeTlb => exact looks.elim

end Callout

namespace Callouts

variable (callouts : Callouts Machine Refusal)

/-- Callouts of a kind lead from one machine to another. -/
inductive Reaches (made : Callout → Prop) (before : Machine) : Machine → Prop where
  | refl : Reaches made before before
  | step {machine : Machine} (earlier : Reaches made before machine) (callout : Callout)
      (isMade : made callout) : Reaches made before (callout.after callouts machine)

namespace Reaches

variable {callouts} {made : Callout → Prop} {before middle after : Machine}

theorem trans (first : callouts.Reaches made before middle)
    (second : callouts.Reaches made middle after) : callouts.Reaches made before after := by
  induction second with
  | refl => exact first
  | step _ callout isMade ih => exact ih.step callout isMade

theorem mono {wider : Callout → Prop} (weaker : ∀ callout, made callout → wider callout)
    (reached : callouts.Reaches made before after) : callouts.Reaches wider before after := by
  induction reached with
  | refl => exact .refl
  | step _ callout isMade ih => exact ih.step callout (weaker callout isMade)

/-- What no single callout changes is the same on a machine that is reached. -/
theorem view_eq {View : Type} (view : Machine → View)
    (kept : ∀ callout machine, made callout → view (callout.after callouts machine) = view machine)
    (reached : callouts.Reaches made before after) : view after = view before := by
  induction reached with
  | refl => rfl
  | step _ callout isMade ih => rw [kept callout _ isMade, ih]

end Reaches

/-- Callouts to a machine that comes with a record of the callouts made so far. -/
def recorded : Callouts (Machine × List Callout) Refusal where
  readReal address length machine :=
    let (answer, after) := callouts.readReal address length machine.1
    (answer, after, machine.2 ++ [.readReal address length])
  writeReal address bytes machine :=
    let (answer, after) := callouts.writeReal address bytes machine.1
    (answer, after, machine.2 ++ [.writeReal address bytes])
  storageKey address machine :=
    let (answer, after) := callouts.storageKey address machine.1
    (answer, after, machine.2 ++ [.storageKey address])
  translate control0 control1 address machine :=
    let (answer, after) := callouts.translate control0 control1 address machine.1
    (answer, after, machine.2 ++ [.translate control0 control1 address])
  purgeTlb machine := (callouts.purgeTlb machine.1, machine.2 ++ [.purgeTlb])

theorem after_recorded (callout : Callout) (machine : Machine × List Callout) :
    callout.after callouts.recorded machine =
      (callout.after callouts machine.1, machine.2 ++ [callout]) := by
  cases callout <;> rfl

/-- The record of a machine that is reached has grown by exactly the callouts that were made. -/
theorem Reaches.record {made : Callout → Prop} {before after : Machine × List Callout}
    (reached : callouts.recorded.Reaches made before after) :
    ∃ calls, after.2 = before.2 ++ calls ∧ ∀ callout ∈ calls, made callout := by
  induction reached with
  | refl => exact ⟨[], by simp⟩
  | step _ callout isMade ih =>
      obtain ⟨calls, record, allMade⟩ := ih
      refine ⟨calls ++ [callout], ?_, ?_⟩
      · simp [after_recorded, record]
      · intro call call_mem
        rcases List.mem_append.mp call_mem with earlier | last
        · exact allMade call earlier
        · rw [List.mem_singleton.mp last]
          exact isMade

/-- Without the record, a machine is reached by callouts that stand in the record. -/
theorem Reaches.forget {made : Callout → Prop} {before after : Machine × List Callout}
    (reached : callouts.recorded.Reaches made before after) :
    callouts.Reaches (fun callout => callout ∈ after.2 ∧ made callout) before.1 after.1 := by
  induction reached with
  | refl => exact .refl
  | step _ callout isMade ih =>
      simp only [after_recorded]
      refine (ih.mono fun earlier made => ?_).step callout ⟨by simp, isMade⟩
      exact ⟨List.mem_append_left _ made.1, made.2⟩

/-- A map of machines under which two sets of callouts answer the same and lead to the same. -/
structure Hom {Source Target : Type} (source : Callouts Source Refusal)
    (target : Callouts Target Refusal) where
  map : Source → Target
  readReal : ∀ address length machine, target.readReal address length (map machine) =
    Prod.map id map (source.readReal address length machine)
  writeReal : ∀ address bytes machine, target.writeReal address bytes (map machine) =
    Prod.map id map (source.writeReal address bytes machine)
  storageKey : ∀ address machine, target.storageKey address (map machine) =
    Prod.map id map (source.storageKey address machine)
  translate : ∀ control0 control1 address machine,
    target.translate control0 control1 address (map machine) =
      Prod.map id map (source.translate control0 control1 address machine)
  purgeTlb : ∀ machine, target.purgeTlb (map machine) = map (source.purgeTlb machine)

/-- A record of callouts does not change what the callouts do. -/
def forgetRecord : Hom callouts.recorded callouts where
  map := Prod.fst
  readReal _ _ _ := rfl
  writeReal _ _ _ := rfl
  storageKey _ _ := rfl
  translate _ _ _ _ := rfl
  purgeTlb _ := rfl

end Callouts

end Assist370
