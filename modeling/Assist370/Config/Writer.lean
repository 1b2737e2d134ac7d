import Assist370.Registry

/-!
# Writing a configuration

A configuration is written as an object of its four members in their order, without blanks.
-/

namespace Assist370.Config

/-- The letter that stands behind a backslash for a character, if it has one. -/
def escapeLetter? : Char → Option Char
  | '"' => some '"'
  | '\\' => some '\\'
  | '\x08' => some 'b'
  | '\t' => some 't'
  | '\n' => some 'n'
  | '\x0c' => some 'f'
  | '\r' => some 'r'
  | _ => none

/-- What stands in a string for a character. A control without a letter is written by its number in
four digits. -/
def writeCharacter (character : Char) : List Char :=
  match escapeLetter? character with
  | some letter => ['\\', letter]
  | none =>
      if character.toNat < 0x20 then
        "\\u00".toList ++
          [Nat.digitChar (character.toNat / 16), Nat.digitChar (character.toNat % 16)]
      else
        [character]

/-- A string between its quotes. -/
def writeString (text : String) : String :=
  "\"" ++ String.ofList (text.toList.flatMap writeCharacter) ++ "\""

/-- A switch. -/
def writeBool (value : Bool) : String :=
  if value then "true" else "false"

/-- The configuration as text. -/
def toText (config : Config) : String :=
  "\x7b\"available\":" ++ writeBool config.available ++
    ",\"level\":" ++ toString config.level.toNat ++
    ",\"debug\":" ++ writeBool config.debug ++
    ",\"disabled\":[" ++ String.intercalate "," (config.disabled.map writeString) ++ "]\x7d"

end Assist370.Config
