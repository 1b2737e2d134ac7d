import Mathlib.Data.Set.Operations
import Mathlib.Tactic.IntervalCases
import Assist370.Proofs.VirtualPsw

/-!
# The formats of a PSW

Encoding a PSW reduces each field to the width that it has in the format of the PSW
(`Psw.reduced`), and the two formats have no image in common. So two PSWs have the same bytes
exactly if they are reduced to the same (`Psw.toBytes_inj`), and those that are reduced already, the
canonical ones, are told apart by their bytes. In the other direction the bytes of a BC PSW come
back as they are, and those of an EC PSW without the bits that the format has no field for
(`Psw.significant`).
-/

namespace Assist370

namespace Bytes

theorem ofHalfword_halfword (bytes : Bytes 2) : ofHalfword (halfword bytes) = bytes := by
  apply Vector.ext
  intro index index_lt
  apply UInt8.toBitVec_inj.mp
  apply BitVec.eq_of_getLsbD_eq
  intro bit bit_lt
  obtain rfl | rfl : index = 0 ∨ index = 1 := by omega
  · simp [ofHalfword, halfword]
    grind
  · simp [ofHalfword, halfword]

theorem ofWord_word (bytes : Bytes 4) : ofWord (word bytes) = bytes := by
  apply Vector.ext
  intro index index_lt
  apply UInt8.toBitVec_inj.mp
  apply BitVec.eq_of_getLsbD_eq
  intro bit bit_lt
  obtain rfl | rfl | rfl | rfl : index = 0 ∨ index = 1 ∨ index = 2 ∨ index = 3 := by omega
  · simp [ofWord, word]
    grind
  · simp [ofWord, word]
    grind
  · simp [ofWord, word]
    grind
  · simp [ofWord, word]

end Bytes

namespace Psw

/-- The PSW with each field reduced to the width that it has in the format of the PSW. -/
def reduced (psw : Psw) : Psw :=
  { psw with
    interruptionCode := if psw.isExtended then 0 else psw.interruptionCode
    instructionLength := if psw.isExtended then 0 else psw.instructionLength % 4
    conditionCode := psw.conditionCode % 4
    programMask := psw.programMask % 16
    instructionAddress := psw.instructionAddress % 0x1000000 }

/-- Each field of the PSW fits the format that its mode bit selects. -/
def IsCanonical (psw : Psw) : Prop :=
  psw.reduced = psw

/-- The bytes of a PSW without the bits that their format has no field for: those are in
extended-control mode the first two bits of the third byte, and the fourth and the fifth byte. -/
def significant (bytes : Bytes 8) : Bytes 8 :=
  if bytes.byte 1 &&& 0x08 != 0 then
    #v[bytes.byte 0, bytes.byte 1, bytes.byte 2 &&& 0x3f, 0, 0, bytes.byte 5, bytes.byte 6,
      bytes.byte 7]
  else
    bytes

theorem isExtended_ofBytes (bytes : Bytes 8) :
    (ofBytes bytes).isExtended = (bytes.byte 1 &&& 0x08 != 0) := by
  have modeBit : ∀ byte : UInt8, (MachineStates.ofByte byte).extendedControl =
      (byte &&& 0x08 != 0) := by
    rintro ⟨bits⟩
    revert bits
    decide +kernel
  rw [← modeBit]
  simp only [ofBytes]
  split <;> rfl

/-! ### Decoding after encoding -/

theorem stored_eq_reduced (psw : Psw) : psw.stored = psw.reduced := by
  have narrow : ∀ byte : UInt8, byte &&& 3 = byte % 4 ∧ byte &&& 0xf = byte % 16 := by
    rintro ⟨bits⟩
    revert bits
    decide +kernel
  have address : Address.wrap psw.instructionAddress = psw.instructionAddress % 0x1000000 := by
    apply UInt32.toNat_inj.mp
    rw [Address.toNat_wrap, UInt32.toNat_mod]
    rfl
  have length : psw.instructionLength &&& (if psw.isExtended then 0 else 3) =
      if psw.isExtended then 0 else psw.instructionLength % 4 := by
    split
    · exact UInt8.and_zero
    · exact (narrow _).1
  rw [stored, reduced, length, (narrow _).1, (narrow _).2, address]

/-- A PSW comes back from its bytes with each field reduced to the width that it has there. -/
theorem ofBytes_toBytes_reduced (psw : Psw) : ofBytes psw.toBytes = psw.reduced :=
  psw.ofBytes_toBytes_eq.trans psw.stored_eq_reduced

theorem isCanonical_ofBytes (bytes : Bytes 8) : (ofBytes bytes).IsCanonical := by
  rw [IsCanonical, ← ofBytes_toBytes_reduced]
  exact ofBytes_toBytes_of_fits (fits_ofBytes bytes)

/-- The canonical PSWs are those that decoding gives. -/
theorem isCanonical_iff_decoded (psw : Psw) :
    psw.IsCanonical ↔ ∃ bytes, ofBytes bytes = psw := by
  constructor
  · intro canonical
    exact ⟨psw.toBytes, psw.ofBytes_toBytes_reduced.trans canonical⟩
  · rintro ⟨bytes, rfl⟩
    exact isCanonical_ofBytes bytes

/-! ### Encoding after decoding -/

/-- A byte is put together again from its instruction length code, its condition code and its
program mask, and its last six bits are from the latter two. -/
theorem codeByte_of_fields (byte : UInt8) :
    ((byte >>> 6 &&& 3) <<< 6 ||| ((byte >>> 4 &&& 3 &&& 3) <<< 4 ||| (byte &&& 0xf &&& 0xf))) =
        byte ∧
      ((byte >>> 4 &&& 3 &&& 3) <<< 4 ||| (byte &&& 0xf &&& 0xf)) = byte &&& 0x3f := by
  obtain ⟨bits⟩ := byte
  revert bits
  decide +kernel

/-- Bytes come back from the PSW in them but for the bits that their format has no field for. -/
theorem toBytes_ofBytes (bytes : Bytes 8) : (ofBytes bytes).toBytes = significant bytes := by
  have sameAddress : Bytes.ofWord (addressOfBytes bytes) =
      #v[0, bytes.byte 5, bytes.byte 6, bytes.byte 7] := Bytes.ofWord_word _
  have sameCode : Bytes.ofHalfword (bytes.halfwordAt 2) = #v[bytes.byte 2, bytes.byte 3] :=
    Bytes.ofHalfword_halfword _
  have mode := isExtended_ofBytes bytes
  have allBytes : #v[bytes.byte 0, bytes.byte 1, bytes.byte 2, bytes.byte 3, bytes.byte 4,
      bytes.byte 5, bytes.byte 6, bytes.byte 7] = bytes := by
    apply Vector.ext
    intro index index_lt
    rw [← Bytes.byte_eq_getElem bytes index index_lt]
    interval_cases index <;> rfl
  rw [significant, ← mode]
  cases extended : (MachineStates.ofByte (bytes.byte 1)).extendedControl with
  | true =>
      simp only [toBytes, ofBytes, isExtended, extended, if_true, sameAddress,
        (codeByte_of_fields _).2, MachineStates.toByte_ofByte]
      rfl
  | false =>
      simp only [toBytes, ofBytes, isExtended, extended, Bool.false_eq_true, if_false, sameAddress,
        sameCode, (codeByte_of_fields _).1, MachineStates.toByte_ofByte]
      exact allBytes

/-! ### Both directions together -/

/-- The bytes of a PSW have nothing on that their format has no field for. -/
theorem significant_toBytes (psw : Psw) : significant psw.toBytes = psw.toBytes := by
  have spread : ∀ left right bits : UInt8,
      (left ||| right) &&& bits = (left &&& bits) ||| (right &&& bits) := by
    intro left right bits
    apply UInt8.toBitVec_inj.mp
    simp [BitVec.and_or_distrib_right]
  have noLength : ∀ byte : UInt8,
      ((byte &&& 3) <<< (4 : UInt8)) &&& 0x3f = (byte &&& 3) <<< (4 : UInt8) ∧
        byte &&& 0xf &&& 0x3f = byte &&& 0xf := by
    rintro ⟨bits⟩
    revert bits
    decide +kernel
  have mode : (psw.toBytes.byte 1 &&& 0x08 != 0) = psw.isExtended := by
    rw [← isExtended_ofBytes, ofBytes_toBytes_reduced]
    rfl
  rw [significant, mode]
  split
  · rename_i extended
    simp [toBytes, extended, Bytes.byte, spread, noLength]
  · rfl

/-- Two PSWs have the same bytes exactly if they are reduced to the same. -/
theorem toBytes_inj (first second : Psw) :
    first.toBytes = second.toBytes ↔ first.reduced = second.reduced := by
  have encoded : ∀ psw : Psw, psw.reduced.toBytes = psw.toBytes := fun psw => by
    rw [← ofBytes_toBytes_reduced, toBytes_ofBytes, significant_toBytes]
  constructor
  · intro same
    rw [← ofBytes_toBytes_reduced, same, ofBytes_toBytes_reduced]
  · intro same
    rw [← encoded first, same, encoded]

/-- No two canonical PSWs, be they of one format or of both, have the same bytes. -/
theorem injOn_toBytes : Set.InjOn toBytes { psw | psw.IsCanonical } := by
  intro first canonical second otherCanonical same
  rw [← canonical, ← otherCanonical]
  exact (toBytes_inj first second).mp same

/-- Decoding after encoding reduces the fields, encoding after decoding drops the bits that are not
significant, the canonical PSWs are exactly those that have been decoded and are told apart by their
bytes, and whatever is reduced or dropped, the system mask and the machine states survive. -/
theorem codec :
    (∀ psw : Psw, ofBytes psw.toBytes = psw.reduced) ∧
      (∀ bytes : Bytes 8, (ofBytes bytes).toBytes = significant bytes) ∧
      (∀ psw : Psw, psw.IsCanonical ↔ ∃ bytes, ofBytes bytes = psw) ∧
      Set.InjOn toBytes { psw | psw.IsCanonical } ∧
      (∀ psw : Psw, ofBytes (ofBytes psw.toBytes).toBytes = ofBytes psw.toBytes) ∧
      ∀ psw : Psw, (ofBytes psw.toBytes).systemMask = psw.systemMask ∧
        (ofBytes psw.toBytes).states = psw.states := by
  refine ⟨ofBytes_toBytes_reduced, toBytes_ofBytes, isCanonical_iff_decoded, injOn_toBytes,
    fun psw => ?_, fun psw => ?_⟩
  · rw [toBytes_ofBytes, significant_toBytes]
  · rw [ofBytes_toBytes_reduced]
    exact ⟨rfl, rfl⟩

end Psw

end Assist370
