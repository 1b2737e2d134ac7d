import Assist370.Proofs.Performance
import Assist370.Proofs.PlainMachine

/-!
# Operands and the address space

Addresses have 24 bits, and the words that hold them have 32. Whatever lies in an operand, in
storage or in the answer of a translation, a callout is made only for addresses that there are. Of
an operand address the high byte does not count: instructions whose operands have the same
significant parts (`Request.significant`) do the same by the same callouts.
-/

namespace Assist370

namespace Address

theorem wrap_eq_wrap_iff {word other : UInt32} :
    wrap word = wrap other ↔ word.toNat % space = other.toNat % space := by
  rw [← UInt32.toNat_inj, toNat_wrap, toNat_wrap]

theorem wrap_add_congr {word other : UInt32} (same : wrap word = wrap other) (distance : UInt32) :
    wrap (word + distance) = wrap (other + distance) := by
  rw [wrap_eq_wrap_iff] at same ⊢
  simp only [UInt32.toNat_add, space] at same ⊢
  omega

theorem frame_eq (address : UInt32) : frame address = ((address >>> 12) &&& 0xfff) <<< 12 := by
  have masks : ∀ index : Nat, index < 32 → (0xfff000#32).getLsbD index =
      (!decide (index < 12) && (0xfff#32).getLsbD (index - 12)) := by
    decide
  apply UInt32.toBitVec_inj.mp
  apply BitVec.eq_of_getLsbD_eq
  intro index index_lt
  have mask := masks index index_lt
  simp only [frame, frameMask, UInt32.toBitVec_and, UInt32.toBitVec_shiftLeft,
    UInt32.toBitVec_shiftRight, BitVec.getLsbD_and]
  by_cases low : index < 12
  · simp [index_lt, low] at mask ⊢
    simp [mask]
  · have back : 12 + (index - 12) = index := by omega
    simp [index_lt, low, back] at mask ⊢
    rw [mask, BitVec.getLsbD_eq_getElem]

/-- A frame starts at a multiple of the page size. -/
theorem toNat_frame (address : UInt32) :
    (frame address).toNat = 0x1000 * (address.toNat / 0x1000 % 0x1000) := by
  have low := Nat.and_two_pow_sub_one_eq_mod (address.toNat / 0x1000) 12
  have below := Nat.mod_lt (address.toNat / 0x1000) (show 2 ^ 12 > 0 by decide)
  simp [frame_eq, Nat.shiftRight_eq_div_pow, Nat.shiftLeft_eq] at low ⊢
  omega

theorem frame_wrap (address : UInt32) : frame (wrap address) = frame address := by
  have address_lt := address.toNat_lt
  apply UInt32.toNat_inj.mp
  rw [toNat_frame, toNat_frame, toNat_wrap, space]
  omega

/-- The low bits of a word are those of the address in it. -/
theorem wrap_and {bits : UInt32} (inAddress : mask &&& bits = bits) (word : UInt32) :
    wrap word &&& bits = word &&& bits := by
  rw [wrap, UInt32.and_assoc, inAddress]

end Address

/-- Bytes are stored at the same places from any word that holds the address. -/
theorem Journal.store_congr (journal : Journal) {address other : UInt32}
    (same : Address.wrap address = Address.wrap other) (bytes : List UInt8) :
    journal.store address bytes = journal.store other bytes := by
  induction bytes generalizing journal address other with
  | nil => rfl
  | cons byte bytes ih =>
      simp only [store, same]
      exact ih _ (Address.wrap_add_congr same 1)

/-- An operand is cut into the same pieces from any word that holds its address. -/
theorem Piece.split_congr (policy : Policy) {address other : UInt32}
    (same : Address.wrap address = Address.wrap other) (length : Nat) :
    split policy address length = split policy other length := by
  induction address, length using split.induct policy generalizing other with
  | case1 address => rw [split, split.eq_def policy other, dif_pos rfl, dif_pos rfl]
  | case2 address length nonempty positive size =>
      rename_i ih
      have sameSize : firstLength policy other length = size := by
        simp only [size, firstLength, same]
      have rest := ih (Address.wrap_add_congr same _)
      rw [split, split.eq_def policy other, dif_neg nonempty, dif_neg nonempty]
      simp only [sameSize, same]
      exact congrArg _ rest

namespace Microcode

theorem fetchLogical_congr {α : Type} [Stored α] (policy : Policy) {address other : UInt32}
    (same : Address.wrap address = Address.wrap other) (protection : BitVec 4) :
    (fetchLogical policy address protection : Microcode α) =
      fetchLogical policy other protection := by
  simp only [fetchLogical, fetchLogicalBytes, Piece.split_congr policy same]

end Microcode

theorem GuestContext.fetchOperands_congr (policy : Policy) {address other : UInt32}
    (same : Address.wrap address = Address.wrap other) (range : List RegisterNumber)
    (operands : RegisterFile) :
    fetchOperands policy address range operands = fetchOperands policy other range operands := by
  induction range generalizing address other operands with
  | nil => rfl
  | cons register rest ih =>
      simp only [fetchOperands, Microcode.fetchLogical_congr policy same,
        ih (Address.wrap_add_congr same 4)]

namespace Request

/-- The instruction with those parts of its operands alone that count: the address bits, and of a
real device number the low twelve. -/
def significant : Request → Request
  | ssm address => ssm (Address.wrap address)
  | svc code => svc code
  | lpsw address => lpsw (Address.wrap address)
  | lctl first last address => lctl first last (Address.wrap address)
  | stevl address => stevl (Address.wrap address)
  | freex sizeTable indexTable => freex (Address.wrap sizeTable) (Address.wrap indexTable)
  | fretx sizeTable releaseList => fretx (Address.wrap sizeTable) (Address.wrap releaseList)
  | lckpg pointer page => lckpg (Address.wrap pointer) (Address.wrap page)
  | ulkpg parameters page => ulkpg (Address.wrap parameters) (Address.wrap page)
  | trbrg pointer target => trbrg (Address.wrap pointer) (Address.wrap target)
  | trlok pointer target => trlok (Address.wrap pointer) (Address.wrap target)
  | scnvu indexTable bases => scnvu (Address.wrap indexTable) (Address.wrap bases)
  | scnru device tables => scnru (device &&& 0xfff) (Address.wrap tables)
  | disp0 list exits => disp0 (Address.wrap list) (Address.wrap exits)
  | disp1 list exits => disp1 (Address.wrap list) (Address.wrap exits)
  | disp2 list exits => disp2 (Address.wrap list) (Address.wrap exits)
  | unassisted assist => unassisted assist

@[simp]
theorem assist_significant (request : Request) : request.significant.assist = request.assist := by
  cases request <;> rfl

/-- Except for the one that stores the level of the facility, instructions whose operands have the
same significant parts have the same program. -/
theorem program_significant (policy : Policy) (level : UInt32) {request : Request}
    (notLevel : ∀ address, request ≠ .stevl address) :
    request.significant.program policy level = request.program policy level := by
  cases request with
  | ssm address =>
      refine congrArg AssistProgram.virtualMachine (funext fun context => ?_)
      simp only [GuestContext.setSystemMask,
        Microcode.fetchLogical_congr policy (Address.wrap_wrap address)]
  | lpsw address =>
      refine congrArg AssistProgram.virtualMachine (funext fun context => ?_)
      simp only [GuestContext.loadPsw,
        Microcode.fetchLogical_congr policy (Address.wrap_wrap address),
        Address.wrap_and (show Address.mask &&& 3 = 3 by decide)]
  | lctl first last address =>
      refine congrArg AssistProgram.virtualMachine (funext fun context => ?_)
      simp only [GuestContext.loadControl,
        GuestContext.fetchOperands_congr policy (Address.wrap_wrap address),
        Address.wrap_and (show Address.mask &&& 3 = 3 by decide)]
  | stevl address => exact absurd rfl (notLevel address)
  | scnru device tables =>
      simp only [significant, program, Address.wrap_wrap, UInt32.and_assoc, UInt32.and_self]
  | svc _ | unassisted _ => rfl
  | freex _ _ | fretx _ _ | lckpg _ _ | ulkpg _ _ | trbrg _ _ | trlok _ _ | scnvu _ _ | disp0 _ _
  | disp1 _ _ | disp2 _ _ =>
      simp only [significant, program, Address.wrap_wrap]

end Request

variable {Machine Refusal : Type}

/-- The level is stored at the same place from any word that holds the address. -/
theorem run_storeLevel_congr (callouts : Callouts Machine Refusal) (level : UInt32)
    {address other : UInt32} (same : Address.wrap address = Address.wrap other)
    (staging : Staging Machine) :
    (storeLevel level address).run callouts staging =
      (storeLevel level other).run callouts staging := by
  have stored := staging.journal.store_congr (Address.wrap_add_congr same 0)
    (Stored.encode level).toList
  simp only [storeLevel, Microcode.store, Microcode.bind_eq_bind, Microcode.perform,
    Microcode.bind, Microcode.run, Action.run, Field.first, stored]

namespace System

theorem perform_significant (policy : Policy) (callouts : Callouts Machine Refusal)
    (system : System Machine) (request : Request) :
    system.perform policy callouts request.significant =
      system.perform policy callouts request := by
  by_cases isLevel : ∃ address, request = .stevl address
  · obtain ⟨address, rfl⟩ := isLevel
    have stored := run_storeLevel_congr callouts system.registry.level
      (Address.wrap_wrap address) { machine := system.machine, cpu := system.cpu }
    simp only [perform, Request.significant, Request.program, Request.assist,
      performControlProgram, stored]
  · have sameProgram := request.program_significant policy system.registry.level
      fun address isStevl => isLevel ⟨address, isStevl⟩
    simp only [perform, sameProgram, Request.assist_significant]

theorem calloutsMade_significant (policy : Policy) (callouts : Callouts Machine Refusal)
    (system : System Machine) (request : Request) :
    system.calloutsMade policy callouts request.significant =
      system.calloutsMade policy callouts request := by
  simp only [calloutsMade, perform_significant]

theorem calloutsMade_inSpace (policy : Policy) (callouts : Callouts Machine Refusal)
    (system : System Machine) (request : Request) :
    ∀ callout ∈ system.calloutsMade policy callouts request, callout.InSpace := by
  have reached := (perform_course policy callouts.recorded
    (system.map fun machine => (machine, [])) request).inSpace
  obtain ⟨calls, record, allMade⟩ := reached.record
  intro callout callout_mem
  rw [calloutsMade, record] at callout_mem
  exact allMade callout callout_mem

/-- Every callout is for addresses that there are, and instructions whose operands have the same
significant parts come to the same by the same callouts. -/
theorem performs_within_space (policy : Policy) (callouts : Callouts Machine Refusal)
    (system : System Machine) {request other : Request}
    (same : request.significant = other.significant) :
    (∀ callout ∈ system.calloutsMade policy callouts request, callout.InSpace) ∧
      system.perform policy callouts request = system.perform policy callouts other ∧
      system.calloutsMade policy callouts request =
        system.calloutsMade policy callouts other := by
  refine ⟨calloutsMade_inSpace policy callouts system request, ?_, ?_⟩
  · rw [← perform_significant, same, perform_significant]
  · rw [← calloutsMade_significant, same, calloutsMade_significant]

/-- The facility on a processor of the control program, with its storage cleared. -/
def clearedSystem : System Memory where
  registry := Registry.initial true false
  cpu := { Cpu.initial with control := RegisterFile.zero.load 6 0x02000000 }
  machine := Memory.zero

/-- The level is stored around the end of the address space in two runs. -/
theorem level_within_space :
    let made := clearedSystem.calloutsMade .splitKeys Memory.callouts (.stevl 0x12fffffe)
    made =
        [.readReal 0 2, .readReal 0xfffffe 2, .writeReal 0 [0x00, 0x14],
          .writeReal 0xfffffe [0x00, 0x00]] ∧
      (∀ callout ∈ made, callout.InSpace) ∧
      made = clearedSystem.calloutsMade .splitKeys Memory.callouts (.stevl 0xfffffe) := by
  intro made
  obtain ⟨inSpace, -, sameCallouts⟩ :=
    performs_within_space .splitKeys Memory.callouts clearedSystem
      (show Request.significant (.stevl 0x12fffffe) = Request.significant (.stevl 0xfffffe) from
        rfl)
  exact ⟨by decide +kernel, inSpace, sameCallouts⟩

end System

end Assist370
