import Assist370.Config.Decimal

/-!
# Cutting a configuration text into tokens

A configuration is written as JSON. The text is cut into tokens first; a literal that is not
well-formed becomes a damaged token, which counts only when the reader comes to it.
-/

namespace Assist370

/-- Why a text is no configuration. -/
inductive ConfigFlaw where
  /-- The text is not JSON. -/
  | malformed
  /-- The text ends too early. -/
  | truncated
  /-- The text is JSON of another shape. -/
  | wrongShape
  deriving DecidableEq, Repr

/-- A token of a configuration text. -/
inductive ConfigToken where
  | openObject
  | closeObject
  | openList
  | closeList
  | comma
  | colon
  | null
  | bool (value : Bool)
  /-- A number, with its value if it is written as a natural number. -/
  | number (value : Option Nat)
  | string (text : String)
  /-- A literal other than a string that is not well-formed. -/
  | damagedLiteral (flaw : ConfigFlaw)
  /-- A string that is not well-formed. -/
  | damagedString (flaw : ConfigFlaw)
  /-- A character that starts no token. -/
  | stray
  deriving DecidableEq, Repr

namespace ConfigToken

/-- What is wrong with a token that stands in the place of a value of some other kind. -/
def valueFlaw : ConfigToken → ConfigFlaw
  | damagedLiteral flaw | damagedString flaw => flaw
  | closeObject | closeList | comma | colon | stray => .malformed
  | _ => .wrongShape

end ConfigToken

namespace Config.Lexer

/-- What a reading of characters gives: a result and the characters behind it. -/
abbrev Scan (α : Type) :=
  Except ConfigFlaw (α × List Char)

/-- The characters that may stand between tokens. -/
def isBlank (character : Char) : Bool :=
  character == ' ' || character == '\n' || character == '\t' || character == '\r'

/-- The value of a hexadecimal digit. -/
def hexDigit? (character : Char) : Option Nat :=
  if '0' ≤ character ∧ character ≤ '9' then
    some (character.toNat - '0'.toNat)
  else if 'a' ≤ character ∧ character ≤ 'f' then
    some (character.toNat - 'a'.toNat + 10)
  else if 'A' ≤ character ∧ character ≤ 'F' then
    some (character.toNat - 'A'.toNat + 10)
  else
    none

/-- The value of four hexadecimal digits. -/
def hexUnit? (first second third fourth : Char) : Option Nat := do
  let first ← hexDigit? first
  let second ← hexDigit? second
  let third ← hexDigit? third
  let fourth ← hexDigit? fourth
  pure (((first * 16 + second) * 16 + third) * 16 + fourth)

/-- What is wrong with less than four characters where four digits are expected: the text ends if
they have less than four bytes. -/
def shortUnitFlaw (characters : List Char) : ConfigFlaw :=
  if (String.ofList characters).utf8ByteSize < 4 then .truncated else .malformed

/-- Whether a unit is the first of a surrogate pair. -/
def isLeading (unit : Nat) : Bool :=
  0xd800 ≤ unit && unit ≤ 0xdbff

/-- Whether a unit is the second of a surrogate pair. -/
def isTrailing (unit : Nat) : Bool :=
  0xdc00 ≤ unit && unit ≤ 0xdfff

/-- The character of a surrogate pair. -/
def pairCharacter (leading trailing : Nat) : Char :=
  Char.ofNat ((leading - 0xd800) * 0x400 + (trailing - 0xdc00) + 0x10000)

/-- The character that a letter behind a backslash stands for. -/
def simpleEscape? : Char → Option Char
  | '"' => some '"'
  | '\\' => some '\\'
  | '/' => some '/'
  | 'b' => some '\x08'
  | 'f' => some '\x0c'
  | 'n' => some '\n'
  | 'r' => some '\r'
  | 't' => some '\t'
  | _ => none

/-- Puts a character in front of what has been read. -/
def prepend (character : Char) (scan : Scan (List Char)) : Scan (List Char) :=
  scan.map fun (text, rest) => (character :: text, rest)

/-- The contents of a string up to its closing quote. -/
def stringBody : List Char → Scan (List Char)
  | [] => .error .truncated
  | '"' :: rest => .ok ([], rest)
  | '\\' :: [] => .error .truncated
  | '\\' :: 'u' :: first :: second :: third :: fourth :: rest =>
      match hexUnit? first second third fourth with
      | none => .error .malformed
      | some unit =>
          if isTrailing unit then
            .error .malformed
          else if isLeading unit then
            match rest with
            | [] | '\\' :: [] => .error .truncated
            | '\\' :: 'u' :: first :: second :: third :: fourth :: rest =>
                match hexUnit? first second third fourth with
                | none => .error .malformed
                | some trailing =>
                    if isTrailing trailing then
                      prepend (pairCharacter unit trailing) (stringBody rest)
                    else
                      .error .malformed
            | '\\' :: 'u' :: short => .error (shortUnitFlaw short)
            | _ => .error .malformed
          else
            prepend (Char.ofNat unit) (stringBody rest)
  | '\\' :: 'u' :: short => .error (shortUnitFlaw short)
  | '\\' :: letter :: rest =>
      match simpleEscape? letter with
      | none => .error .malformed
      | some character => prepend character (stringBody rest)
  | character :: rest =>
      if character.toNat < 0x20 then
        .error .malformed
      else
        prepend character (stringBody rest)

/-- The letters of a word, all of which have to follow. -/
def word : List Char → List Char → Scan Unit
  | [], characters => .ok ((), characters)
  | _ :: _, [] => .error .truncated
  | letter :: letters, character :: characters =>
      if letter == character then word letters characters else .error .malformed

/-- The value of a row of decimal digits. -/
def digitsValue (digits : List Char) : Nat :=
  digits.foldl (fun value digit => value * 10 + Decimal.digitValue digit) 0

/-- The digits of a fraction, if there is one. There has to be a digit behind the point. -/
def fraction : List Char → Scan (List Char)
  | '.' :: rest =>
      match rest.takeWhile Char.isDigit, rest.dropWhile Char.isDigit with
      | [], [] => .error .truncated
      | [], _ :: _ => .error .malformed
      | digits, rest => .ok (digits, rest)
  | rest => .ok ([], rest)

/-- The digits of an exponent behind its sign. There has to be one. -/
def exponentDigits (negative : Bool) (characters : List Char) : Scan (Option Int) :=
  match characters.takeWhile Char.isDigit, characters.dropWhile Char.isDigit with
  | [], [] => .error .truncated
  | [], _ :: _ => .error .malformed
  | digits, rest =>
      let value := Int.ofNat (digitsValue digits)
      .ok (some (if negative then -value else value), rest)

/-- The exponent of a number, if there is one. -/
def exponent : List Char → Scan (Option Int)
  | 'e' :: '-' :: rest | 'E' :: '-' :: rest => exponentDigits true rest
  | 'e' :: '+' :: rest | 'E' :: '+' :: rest => exponentDigits false rest
  | 'e' :: rest | 'E' :: rest => exponentDigits false rest
  | rest => .ok (none, rest)

/-- The digits before the point. There has to be one, and no digit may follow a leading zero. -/
def wholeDigits (characters : List Char) : Scan (List Char) :=
  match characters.takeWhile Char.isDigit, characters.dropWhile Char.isDigit with
  | [], [] => .error .truncated
  | [], _ :: _ => .error .malformed
  | '0' :: _ :: _, _ => .error .malformed
  | digits, rest => .ok (digits, rest)

/-- A number behind its sign, with its value if it is written as a natural number. It must not be
too large for double precision. -/
def number (negative : Bool) (characters : List Char) :
    Except ConfigFlaw (Option Nat × List Char) := do
  let (whole, rest) ← wholeDigits characters
  let (places, rest) ← fraction rest
  let (power, rest) ← exponent rest
  if (Decimal.ofDigits whole places (power.getD 0)).exceedsDouble then
    throw .malformed
  let plain := !negative && places.isEmpty && power.isNone
  pure (if plain then some (digitsValue whole) else none, rest)

/-- The token of a scan, where a flaw makes a damaged token and ends the text. -/
def tokenOf {α : Type} (scan : Scan α) (sound : α → ConfigToken)
    (damaged : ConfigFlaw → ConfigToken) : ConfigToken × List Char :=
  match scan with
  | .ok (value, rest) => (sound value, rest)
  | .error flaw => (damaged flaw, [])

/-- The token that starts with a given character. -/
def token (character : Char) (rest : List Char) : ConfigToken × List Char :=
  match character with
  | '\x7b' => (.openObject, rest)
  | '\x7d' => (.closeObject, rest)
  | '[' => (.openList, rest)
  | ']' => (.closeList, rest)
  | ',' => (.comma, rest)
  | ':' => (.colon, rest)
  | '"' => tokenOf (stringBody rest) (fun text => .string (String.ofList text)) .damagedString
  | 'n' => tokenOf (word "ull".toList rest) (fun _ => .null) .damagedLiteral
  | 't' => tokenOf (word "rue".toList rest) (fun _ => .bool true) .damagedLiteral
  | 'f' => tokenOf (word "alse".toList rest) (fun _ => .bool false) .damagedLiteral
  | '-' => tokenOf (number true rest) .number .damagedLiteral
  | _ =>
      if character.isDigit then
        tokenOf (number false (character :: rest)) .number .damagedLiteral
      else
        (.stray, rest)

/-- The tokens of a text, given a bound on their number. -/
def tokensWithin : Nat → List Char → List ConfigToken
  | 0, _ => []
  | bound + 1, characters =>
      match characters.dropWhile isBlank with
      | [] => []
      | character :: rest =>
          let (first, rest) := token character rest
          first :: tokensWithin bound rest

/-- The tokens of a text. Each has at least one character. -/
def tokens (text : String) : List ConfigToken :=
  tokensWithin text.length text.toList

end Config.Lexer

end Assist370
