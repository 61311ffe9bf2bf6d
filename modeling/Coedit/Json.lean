import Coedit.Bytes

/-!
# JSON values

The values of JSON text and their compact printed form.  Members of an object
keep their order and may repeat a name; numbers keep their literal, so that
nothing is lost before a reader decides what it needs.
-/

namespace Coedit.Json

/-- A JSON value.  The content of a text, or the name of a member, is absent if
its characters are well delimited but encode no text. -/
inductive Value where
  | null
  | bool (value : Bool)
  | number (literal : String)
  | text (content : Option String)
  | array (items : List Value)
  | object (members : List (Option String × Value))

/-- Letters for the control characters that have one. -/
def shortEscape? (char : Char) : Option Char :=
  if char = '\x08' then some 'b'
  else if char = '\t' then some 't'
  else if char = '\n' then some 'n'
  else if char = '\x0c' then some 'f'
  else if char = '\r' then some 'r'
  else none

/-- A character inside a printed text. -/
def escapeChar (char : Char) : List Char :=
  if char = '"' || char = '\\' then ['\\', char]
  else
    match shortEscape? char with
    | some letter => ['\\', letter]
    | none =>
        if char.toNat < 0x20 then
          ['\\', 'u', '0', '0', Bytes.hexDigit (char.toNat / 16), Bytes.hexDigit char.toNat]
        else
          [char]

def renderText (content : String) : String :=
  String.ofList (['"'] ++ content.toList.flatMap escapeChar ++ ['"'])

/-- An object from members that are printed already. -/
def renderMembers (members : List (String × String)) : String :=
  "\x7b" ++ ",".intercalate (members.map fun member => renderText member.1 ++ ":" ++ member.2) ++
    "\x7d"

namespace Value

/-- The number, if its literal is that of an integer.  A negative zero is none. -/
def integer? : Value → Option Int
  | .number literal =>
      match literal.toList with
      | ['-', '0'] => none
      | '-' :: digits =>
          if digits.all Char.isDigit then some (-(Nat.ofDigitChars 10 digits 0 : Nat)) else none
      | digits =>
          if digits.all Char.isDigit then some (Nat.ofDigitChars 10 digits 0 : Nat) else none
  | _ => none

def text? : Value → Option String
  | .text content => content
  | _ => none

/-- The values of the named fields of a record.  A record is an object that has
each field once, and beside them any others, or an array that has just the
fields in order. -/
def fields? (names : List String) : Value → Option (List Value)
  | .object members =>
      if members.all (fun member => member.1.isSome) then
        names.mapM fun name =>
          match members.filter fun member => member.1 == some name with
          | [member] => some member.2
          | _ => none
      else none
  | .array items => if items.length = names.length then some items else none
  | _ => none

end Value

end Coedit.Json
