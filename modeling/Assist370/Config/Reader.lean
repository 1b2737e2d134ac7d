import Assist370.Config.Lexer
import Assist370.Registry

/-!
# Reading a configuration

A configuration is written as an object with some of its members, each at most once, or as a list
of its first members' values. A member left out has its default. The first flaw from the left
counts.
-/

namespace Assist370.Config

/-- A member of a configuration. -/
inductive Member where
  | available
  | level
  | debug
  | disabled
  deriving DecidableEq, Repr

namespace Member

/-- The members in their order. -/
def all : List Member :=
  [available, level, debug, disabled]

/-- The name of the member. -/
def name : Member → String
  | available => "available"
  | level => "level"
  | debug => "debug"
  | disabled => "disabled"

end Member

/-- What a reading of tokens gives: a result and the tokens behind it. -/
abbrev Reading (α : Type) :=
  Except ConfigFlaw (α × List ConfigToken)

/-- Reads a switch. -/
def readBool : List ConfigToken → Reading Bool
  | .bool value :: rest => .ok (value, rest)
  | token :: _ => .error token.valueFlaw
  | [] => .error .truncated

/-- Reads a level, a natural number of at most 32 bits. -/
def readLevel : List ConfigToken → Reading UInt32
  | .number (some value) :: rest =>
      if value < UInt32.size then .ok (UInt32.ofNat value, rest) else .error .wrongShape
  | token :: _ => .error token.valueFlaw
  | [] => .error .truncated

/-- Reads the names behind the first name of a list. -/
def readMoreNames : List ConfigToken → Reading (List String)
  | .closeList :: rest => .ok ([], rest)
  | .comma :: .string name :: rest =>
      (readMoreNames rest).map fun (names, rest) => (name :: names, rest)
  | .comma :: token :: _ => .error token.valueFlaw
  | [] | .comma :: [] => .error .truncated
  | _ => .error .malformed

/-- Reads a list of names. -/
def readNames : List ConfigToken → Reading (List String)
  | .openList :: .closeList :: rest => .ok ([], rest)
  | .openList :: .string name :: rest =>
      (readMoreNames rest).map fun (names, rest) => (name :: names, rest)
  | .openList :: token :: _ => .error token.valueFlaw
  | [] | .openList :: [] => .error .truncated
  | token :: _ => .error token.valueFlaw

/-- Reads the value of a member into a configuration. -/
def readMember (config : Config) (tokens : List ConfigToken) : Member → Reading Config
  | .available =>
      (readBool tokens).map fun (available, rest) => ({ config with available }, rest)
  | .level => (readLevel tokens).map fun (level, rest) => ({ config with level }, rest)
  | .debug => (readBool tokens).map fun (debug, rest) => ({ config with debug }, rest)
  | .disabled => (readNames tokens).map fun (disabled, rest) => ({ config with disabled }, rest)

/-- Reads a colon. -/
def readColon : List ConfigToken → Reading Unit
  | .colon :: rest => .ok ((), rest)
  | [] => .error .truncated
  | _ => .error .malformed

/-- Reads the name of the next member of an object, if the object does not end before it. A comma
precedes every member but the first. -/
def readKey (first : Bool) : List ConfigToken → Reading (Option String)
  | .closeObject :: rest => .ok (none, rest)
  | [] => .error .truncated
  | .string name :: rest => if first then .ok (some name, rest) else .error .malformed
  | .damagedString flaw :: _ => .error (if first then flaw else .malformed)
  | .comma :: rest =>
      if first then
        .error .malformed
      else
        match rest with
        | .string name :: rest => .ok (some name, rest)
        | .damagedString flaw :: _ => .error flaw
        | [] => .error .truncated
        | _ => .error .malformed
  | _ => .error .malformed

/-- Reads the members of an object, each of which has to be one of those not read yet. -/
def readMembers (first : Bool) (remaining : List Member) (config : Config)
    (tokens : List ConfigToken) : Except ConfigFlaw (Config × List ConfigToken) := do
  match ← readKey first tokens with
  | (none, rest) => pure (config, rest)
  | (some key, rest) =>
      match found : remaining.find? fun member => member.name == key with
      | none => throw .wrongShape
      | some member =>
          have shorter : (remaining.erase member).length < remaining.length := by
            have mem := List.mem_of_find?_eq_some found
            have pos := List.length_pos_of_mem mem
            rw [List.length_erase_of_mem mem]
            omega
          let ((), rest) ← readColon rest
          let (config, rest) ← readMember config rest member
          readMembers false (remaining.erase member) config rest
termination_by remaining.length

/-- Reads the values of members in their order up to the end of a list. A comma precedes every
value but the first. -/
def readPositions (first : Bool) (config : Config) (tokens : List ConfigToken) :
    List Member → Except ConfigFlaw (Config × List ConfigToken)
  | [] =>
      match tokens with
      | .closeList :: rest => .ok (config, rest)
      | [] => .error .truncated
      | _ => .error .malformed
  | member :: members =>
      match tokens with
      | .closeList :: rest => .ok (config, rest)
      | [] => .error .truncated
      | .comma :: rest =>
          if first then
            .error .malformed
          else do
            let (config, rest) ← readMember config rest member
            readPositions false config rest members
      | _ =>
          if first then do
            let (config, rest) ← readMember config tokens member
            readPositions false config rest members
          else
            .error .malformed

/-- Reads a configuration off the tokens of a text. -/
def ofTokens : List ConfigToken → Except ConfigFlaw Config
  | tokens => do
      let (config, rest) ←
        match tokens with
        | .openObject :: rest => readMembers true Member.all {} rest
        | .openList :: rest => readPositions true {} rest Member.all
        | token :: _ => .error token.valueFlaw
        | [] => .error .truncated
      if rest.isEmpty then pure config else throw .malformed

/-- Reads a configuration off a text. -/
def ofText (text : String) : Except ConfigFlaw Config :=
  ofTokens (Lexer.tokens text)

end Assist370.Config
