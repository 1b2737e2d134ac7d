/-!
# Real addresses

Real addresses have 24 bits and are held in words, whose high byte does not count. The machine
configurations that the assists run on differ in the size of the block that one storage key covers.
-/

namespace Assist370

theorem UInt32.toNat_succ {word : UInt32} (fits : word.toNat + 1 < UInt32.size) :
    (word + 1).toNat = word.toNat + 1 := by
  rw [UInt32.toNat_add, UInt32.toNat_one, Nat.mod_eq_of_lt fits]

namespace Address

/-- The address bits of a word. -/
def mask : UInt32 := 0x00ffffff

/-- The number of addresses. -/
def space : Nat := 0x1000000

/-- The bits of an address that select its page frame. -/
def frameMask : UInt32 := 0x00fff000

/-- The size of a page. -/
def pageSize : UInt32 := 0x1000

/-- The address in a word: its value modulo the size of the address space. -/
def wrap (word : UInt32) : UInt32 :=
  word &&& mask

/-- The address of the frame that holds an address. -/
def frame (address : UInt32) : UInt32 :=
  address &&& frameMask

theorem toNat_wrap (word : UInt32) : (wrap word).toNat = word.toNat % space := by
  have masked := Nat.and_two_pow_sub_one_eq_mod word.toNat 24
  simpa [wrap, mask, space] using masked

theorem wrap_lt (word : UInt32) : (wrap word).toNat < space := by
  rw [toNat_wrap]
  exact Nat.mod_lt _ (by decide)

theorem wrap_of_lt {word : UInt32} (inSpace : word.toNat < space) : wrap word = word := by
  apply UInt32.toNat_inj.mp
  rw [toNat_wrap, Nat.mod_eq_of_lt inSpace]

@[simp]
theorem wrap_wrap (word : UInt32) : wrap (wrap word) = wrap word := by
  apply UInt32.toNat_inj.mp
  simp [toNat_wrap]

end Address

/-- The addressing parameters of a machine configuration. -/
inductive Policy where
  /-- A storage key for each half of a page. -/
  | splitKeys
  /-- A storage key for each page. -/
  | pageKeys
  deriving DecidableEq, Repr

namespace Policy

/-- The name of the configuration. -/
def name : Policy → String
  | splitKeys => "S/370"
  | pageKeys => "S/370 (4K keys)"

/-- The size of the block that one storage key covers. -/
def keyBlock : Policy → Nat
  | splitKeys => 0x800
  | pageKeys => 0x1000

theorem keyBlock_pos (policy : Policy) : 0 < policy.keyBlock := by
  cases policy <;> decide

end Policy

end Assist370
