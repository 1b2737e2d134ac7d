import Assist370.Proofs.Enabling

/-!
# Loads of a range of control registers

The registers of a range are loaded one after the other, and each load is checked against the value
that the register has then. No register stands twice in a range, so that the checks are those of the
values before the load: a load is not refused if none of its words is, and then each register of the
range has its word and no other register has been changed (`ControlRegisters.load_eq_ok_iff`).
-/

namespace Assist370

namespace RegisterFile

/-- Loads registers one after the other with the words that are counted from zero. -/
def loadRun (registers : RegisterFile) : List RegisterNumber → (Nat → UInt32) → RegisterFile
  | [], _ => registers
  | register :: rest, words =>
      (registers.load register (words 0)).loadRun rest fun index => words (index + 1)

variable {registers : RegisterFile} {range : List RegisterNumber} {words : Nat → UInt32}

theorem read_loadRun_of_not_mem {register : RegisterNumber} (outside : register ∉ range) :
    (registers.loadRun range words).read register = registers.read register := by
  induction range generalizing registers words with
  | nil => rfl
  | cons head rest ih =>
      rw [List.mem_cons, not_or] at outside
      rw [loadRun, ih outside.2, read_load, if_neg (Ne.symm outside.1)]

theorem read_loadRun (nodup : range.Nodup) {index : Nat} {register : RegisterNumber}
    (atIndex : range[index]? = some register) :
    (registers.loadRun range words).read register = words index := by
  induction range generalizing registers words index with
  | nil => cases atIndex
  | cons head rest ih =>
      rw [List.nodup_cons] at nodup
      rw [loadRun]
      cases index with
      | zero =>
          cases atIndex
          rw [read_loadRun_of_not_mem nodup.1, read_load, if_pos rfl]
      | succ index => exact ih nodup.2 atIndex

end RegisterFile

namespace RegisterNumber

theorem range_nodup : ∀ first last, (range first last).Nodup := by
  decide +kernel

theorem range_eq_zero_iff : ∀ first last, range first last = [0] ↔ first = 0 ∧ last = 0 := by
  decide +kernel

theorem forall_mem_range {first last : RegisterNumber} {property : RegisterNumber → Prop} :
    (∀ register ∈ range first last, property register) ↔
      ∀ index < rangeLength first last, property (ofNat (first.val + index)) := by
  simp [range]

theorem getElem?_range {first last : RegisterNumber} {index : Nat}
    (inRange : index < rangeLength first last) :
    (range first last)[index]? = some (ofNat (first.val + index)) := by
  simp [range, inRange]

theorem read_loadRun_range {registers : RegisterFile} {words : Nat → UInt32}
    {first last : RegisterNumber} {index : Nat} (inRange : index < rangeLength first last) :
    (registers.loadRun (range first last) words).read (ofNat (first.val + index)) =
      words index :=
  RegisterFile.read_loadRun (range_nodup first last) (getElem?_range inRange)

/-- The registers of a range can all be loaded if they are a register that stands alone among those
that cannot, or if the range lies within the one from 12 to 0. -/
theorem range_loadable_iff : ∀ first last,
    (∀ register ∈ range first last, register ∈ ControlRegisters.loadable) ↔
      range first last = [2] ∨ range first last = [6] ∨
        range first last <:+: [12, 13, 14, 15, 0] := by
  decide +kernel

end RegisterNumber

theorem UInt32.newly_and (old value bits : UInt32) :
    ~~~(old &&& bits) &&& (value &&& bits) = ~~~old &&& value &&& bits := by
  apply UInt32.toBitVec_inj.mp
  apply BitVec.eq_of_getLsbD_eq
  intro index index_lt
  simp only [UInt32.toBitVec_and, UInt32.toBitVec_not, BitVec.getLsbD_and, BitVec.getLsbD_not]
  grind

namespace ControlRegisters

/-- The load of a register with a new value in the place of an old one changes no mode, and enables
no interruption while one is pending. -/
structure KeepsMasks (psw : Psw) (pending : Bool) (register : RegisterNumber)
    (old value : UInt32) : Prop where
  modes : register = 0 → old &&& modeMask = value &&& modeMask
  external : register = 0 → psw.masks Psw.externalMask = true → pending = true →
    ~~~old &&& value &&& subclassMask = 0
  io : register = 2 → psw.masks Psw.ioMask = true → pending = true → ~~~old &&& value = 0

/-- Both sets of registers with a register loaded. -/
def withOne (registers : ControlRegisters) (register : RegisterNumber) (value : UInt32) :
    ControlRegisters where
  shadow := registers.shadow.load register value
  real :=
    if register = 12 ∨ register = 13 then registers.real.load register value else registers.real

variable {registers loaded : ControlRegisters} {psw : Psw} {register : RegisterNumber}

theorem loadOne_eq_ok_iff {pending : Bool} {value : UInt32} :
    registers.loadOne psw pending register value = .ok loaded ↔
      (register ∈ loadable ∧
        KeepsMasks psw pending register (registers.shadow.read register) value) ∧
      registers.withOne register value = loaded := by
  constructor
  · intro isLoaded
    have loads := loadOne_loads isLoaded
    refine ⟨⟨loads.isLoadable, ?_, ?_, ?_⟩, ?_⟩
    · rintro rfl
      exact loads.modes rfl
    · rintro rfl external isPending
      rw [← UInt32.newly_and]
      exact loads.external rfl external isPending
    · rintro rfl
      exact loads.io rfl
    · rw [withOne, ← loads.shadow, ← loads.real]
  · rintro ⟨⟨isLoadable, keeps⟩, rfl⟩
    simp only [loadable, List.mem_cons, List.not_mem_nil, or_false] at isLoadable
    rcases isLoadable with rfl | rfl | rfl | rfl | rfl | rfl | rfl
    · have modes := keeps.modes rfl
      have external := keeps.external rfl
      rw [← UInt32.newly_and] at external
      simp only [loadOne, modes, bne_self_eq_false, Bool.false_eq_true, if_false]
      rw [if_neg]
      · rfl
      · simp only [Bool.and_eq_true, bne_iff_ne, not_and, Decidable.not_not, and_imp]
        exact external
    · have io := keeps.io rfl
      simp only [loadOne]
      rw [if_neg]
      · rfl
      · simp only [Bool.and_eq_true, bne_iff_ne, not_and, Decidable.not_not, and_imp]
        exact io
    all_goals rfl

/-- Both sets of registers with the registers of a range loaded. -/
def withAll (registers : ControlRegisters) (range : List RegisterNumber) (new : RegisterFile) :
    ControlRegisters :=
  range.foldl (fun before register => before.withOne register (new.read register)) registers

theorem read_shadow_withAll_of_not_mem {range : List RegisterNumber} {new : RegisterFile}
    (outside : register ∉ range) :
    (registers.withAll range new).shadow.read register = registers.shadow.read register := by
  induction range generalizing registers with
  | nil => rfl
  | cons head rest ih =>
      rw [List.mem_cons, not_or] at outside
      rw [withAll, List.foldl_cons, ← withAll, ih outside.2, withOne, RegisterFile.read_load,
        if_neg (Ne.symm outside.1)]

theorem read_shadow_withAll_of_mem {range : List RegisterNumber} {new : RegisterFile}
    (inRange : register ∈ range) :
    (registers.withAll range new).shadow.read register = new.read register := by
  induction range generalizing registers with
  | nil => cases inRange
  | cons head rest ih =>
      rw [withAll, List.foldl_cons, ← withAll]
      -- What is loaded last counts.
      by_cases inRest : register ∈ rest
      · exact ih inRest
      · have isHead := (List.mem_cons.mp inRange).resolve_right inRest
        rw [read_shadow_withAll_of_not_mem inRest, withOne, RegisterFile.read_load, isHead,
          if_pos rfl]

theorem read_real_withOne (loaded : RegisterNumber) (value : UInt32) :
    (registers.withOne loaded value).real.read register =
      if loaded = register ∧ (register = 12 ∨ register = 13) then value
      else registers.real.read register := by
  simp only [withOne]
  by_cases forwarded : loaded = 12 ∨ loaded = 13
  · rw [if_pos forwarded, RegisterFile.read_load]
    by_cases same : loaded = register
    · rw [if_pos same, if_pos ⟨same, same ▸ forwarded⟩]
    · rw [if_neg same, if_neg fun both => same both.1]
  · rw [if_neg forwarded, if_neg]
    rintro ⟨rfl, isForwarded⟩
    exact forwarded isForwarded

/-- The real registers that are not loaded are those outside the range and those other than 12 and
13. -/
theorem read_real_withAll_of_spared {range : List RegisterNumber} {new : RegisterFile}
    (spared : register ∈ range → register ≠ 12 ∧ register ≠ 13) :
    (registers.withAll range new).real.read register = registers.real.read register := by
  induction range generalizing registers with
  | nil => rfl
  | cons head rest ih =>
      rw [withAll, List.foldl_cons, ← withAll,
        ih fun inRest => spared (List.mem_cons_of_mem head inRest), read_real_withOne, if_neg]
      rintro ⟨rfl, forwarded⟩
      have others := spared (List.mem_cons_self ..)
      exact forwarded.elim others.1 others.2

theorem read_real_withAll_of_mem {range : List RegisterNumber} {new : RegisterFile}
    (inRange : register ∈ range) (forwarded : register = 12 ∨ register = 13) :
    (registers.withAll range new).real.read register = new.read register := by
  induction range generalizing registers with
  | nil => cases inRange
  | cons head rest ih =>
      rw [withAll, List.foldl_cons, ← withAll]
      by_cases inRest : register ∈ rest
      · exact ih inRest
      · have isHead := (List.mem_cons.mp inRange).resolve_right inRest
        rw [read_real_withAll_of_spared fun later => absurd later inRest, read_real_withOne,
          if_pos ⟨isHead.symm, forwarded⟩, isHead]

/-- A load of registers that stand once each is not refused if none of them is, as they are before
the load. -/
theorem load_eq_ok_iff {range : List RegisterNumber} (nodup : range.Nodup) {new : RegisterFile}
    {pending : UInt8} :
    registers.load range new psw pending = .ok loaded ↔
      (∀ register ∈ range, register ∈ loadable ∧
        KeepsMasks psw (pending &&& Micblok.pendingFlag != 0) register
          (registers.shadow.read register) (new.read register)) ∧
      registers.withAll range new = loaded := by
  induction range generalizing registers with
  | nil => simp [load, withAll, pure, Except.pure]
  | cons head rest ih =>
      rw [List.nodup_cons] at nodup
      -- The registers behind the first one are not changed by its load.
      have later : ∀ register ∈ rest,
          (registers.withOne head (new.read head)).shadow.read register =
            registers.shadow.read register := by
        intro register inRest
        rw [withOne, RegisterFile.read_load, if_neg]
        rintro rfl
        exact nodup.1 inRest
      have step := @ih (registers.withOne head (new.read head)) nodup.2
      rw [load] at step ⊢
      rw [List.foldlM_cons, List.forall_mem_cons, withAll, List.foldl_cons, ← withAll]
      cases one : registers.loadOne psw (pending &&& Micblok.pendingFlag != 0) head
          (new.read head) with
      | error reject =>
          have refused : ¬(head ∈ loadable ∧
              KeepsMasks psw (pending &&& Micblok.pendingFlag != 0) head
                (registers.shadow.read head) (new.read head)) := by
            intro admitted
            have isLoaded := loadOne_eq_ok_iff.mpr ⟨admitted, rfl⟩
            rw [one] at isLoaded
            cases isLoaded
          simp only [bind, Except.bind, reduceCtorEq, false_iff]
          exact fun both => refused both.1.1
      | ok middle =>
          rcases loadOne_eq_ok_iff.mp one with ⟨admitted, rfl⟩
          simp only [bind, Except.bind, step, admitted, true_and]
          apply and_congr_left
          intro _
          apply forall₂_congr
          intro register inRest
          rw [later register inRest]

end ControlRegisters

end Assist370
