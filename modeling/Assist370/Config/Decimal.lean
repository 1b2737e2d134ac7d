/-!
# Decimal numbers of a configuration text

A number is kept as a significand of 64 bits and a power of ten. On either side of the point, the
digits from the first that does not fit into the significand are left out: each of them raises the
power by one before the point and counts for nothing behind it. Whether a number is too large is
judged in double precision, where the significand, the power of ten and the product of the two are
rounded one after the other.
-/

namespace Assist370.Config

/-- A decimal number, which is its significand times ten to its exponent. -/
structure Decimal where
  significand : UInt64
  exponent : Int
  deriving DecidableEq, Repr

namespace Decimal

/-- The value of a decimal digit. -/
def digitValue (digit : Char) : Nat :=
  digit.toNat - '0'.toNat

/-- A significand with one more digit, if it still has 64 bits. -/
def extend? (significand : UInt64) (digit : Char) : Option UInt64 :=
  let extended := significand.toNat * 10 + digitValue digit
  if extended < UInt64.size then some (UInt64.ofNat extended) else none

/-- A significand with the digits before the point behind it. -/
def ofWhole (significand : UInt64) : List Char → Decimal
  | [] => ⟨significand, 0⟩
  | digit :: digits =>
      match extend? significand digit with
      | some extended => ofWhole extended digits
      | none => ⟨significand, Int.ofNat (digits.length + 1)⟩

/-- A number with the digits behind the point added. -/
def addPlaces (number : Decimal) : List Char → Decimal
  | [] => number
  | digit :: digits =>
      match extend? number.significand digit with
      | some extended => addPlaces ⟨extended, number.exponent - 1⟩ digits
      | none => number

/-- The number with given digits before and behind the point and a given power of ten. -/
def ofDigits (whole places : List Char) (power : Int) : Decimal :=
  let number := (ofWhole 0 whole).addPlaces places
  { number with exponent := number.exponent + power }

/-- The number of bits of a significand in double precision. -/
def doubleBits : Nat := 53

/-- A natural number rounded to the bits of double precision. A number half way between two of
these goes to the one with an even significand. -/
def roundToDouble (value : Nat) : Nat :=
  let unit := Nat.pow 2 (value.log2 + 1 - doubleBits)
  let units := value / unit
  let doubledRest := 2 * (value % unit)
  if unit < doubledRest || (doubledRest == unit && units % 2 == 1) then
    (units + 1) * unit
  else
    units * unit

/-- The least number that is too large for double precision: a half unit above the largest number
of double precision. -/
def doubleLimit : Nat := Nat.pow 2 1024 - Nat.pow 2 970

/-- Whether a number is too large for double precision. A negative power of ten makes a significand
smaller, and the 309th power alone is too large. -/
def exceedsDouble (number : Decimal) : Bool :=
  if number.significand == 0 || number.exponent < 0 then
    false
  else if 309 ≤ number.exponent then
    true
  else
    decide (doubleLimit ≤ roundToDouble number.significand.toNat
      * roundToDouble (Nat.pow 10 number.exponent.toNat))

end Decimal

end Assist370.Config
