import Coedit.Json

/-!
# Reading JSON text

Strict JSON from bytes: no comments, no trailing commas, no leading zeros, no
bare control characters in texts.  `Value.ofBytes?` accepts a value with nothing
but blanks around it.
-/

namespace Coedit.Json

def isBlank (byte : UInt8) : Bool :=
  byte == 0x20 || byte == 0x0a || byte == 0x0d || byte == 0x09

def skipBlanks (input : Bytes) : Bytes := input.dropWhile isBlank

/-- What the inside of a text is made of. -/
inductive Piece where
  | byte (value : UInt8)
  /-- A UTF-16 unit given by its number. -/
  | unit (value : Nat)

/-- The four digits of a unit. -/
def readUnit? : Bytes → Option (Nat × Bytes)
  | d0 :: d1 :: d2 :: d3 :: rest => do
      let v0 ← Bytes.hexValue? (Char.ofNat d0.toNat)
      let v1 ← Bytes.hexValue? (Char.ofNat d1.toNat)
      let v2 ← Bytes.hexValue? (Char.ofNat d2.toNat)
      let v3 ← Bytes.hexValue? (Char.ofNat d3.toNat)
      return (((v0 * 16 + v1) * 16 + v2) * 16 + v3, rest)
  | _ => none

/-- The byte a one-letter escape stands for. -/
def unescape? (letter : UInt8) : Option UInt8 :=
  match Char.ofNat letter.toNat with
  | '"' => some 0x22
  | '\\' => some 0x5c
  | '/' => some 0x2f
  | 'b' => some 0x08
  | 'f' => some 0x0c
  | 'n' => some 0x0a
  | 'r' => some 0x0d
  | 't' => some 0x09
  | _ => none

/-- The pieces up to the closing quote, latest first, and what follows it. -/
def readPieces (fuel : Nat) (found : List Piece) (input : Bytes) : Option (List Piece × Bytes) :=
  match fuel, input with
  | 0, _ => none
  | _, [] => none
  | fuel + 1, byte :: rest =>
      if byte == 0x22 then some (found, rest)
      else if byte == 0x5c then
        match rest with
        | [] => none
        | letter :: after =>
            if letter == 0x75 then
              match readUnit? after with
              | some (unit, beyond) => readPieces fuel (.unit unit :: found) beyond
              | none => none
            else
              match unescape? letter with
              | some value => readPieces fuel (.byte value :: found) after
              | none => none
      else if byte < 0x20 then none
      else readPieces fuel (.byte byte :: found) rest

/-- The UTF-8 bytes of a code point that is no surrogate. -/
def codePointBytes (code : Nat) : Bytes := Bytes.ofText (String.singleton (Char.ofNat code))

/-- Join the pieces of a text; two surrogates in the right order are one
character, a lone one is none. -/
def joinPieces : List Piece → Option Bytes
  | [] => some []
  | .byte value :: rest => (joinPieces rest).map (value :: ·)
  | .unit high :: rest =>
      if 0xdc00 ≤ high && high ≤ 0xdfff then none
      else if 0xd800 ≤ high && high ≤ 0xdbff then
        match rest with
        | .unit low :: after =>
            if 0xdc00 ≤ low && low ≤ 0xdfff then
              (joinPieces after).map
                (codePointBytes (0x10000 + (high - 0xd800) * 0x400 + (low - 0xdc00)) ++ ·)
            else none
        | _ => none
      else (joinPieces rest).map (codePointBytes high ++ ·)

/-- The rest of a text after its opening quote. -/
def readText? (input : Bytes) : Option (Option String × Bytes) :=
  match readPieces (input.length + 1) [] input with
  | some (found, rest) => some ((joinPieces found.reverse).bind Bytes.toText?, rest)
  | none => none

def isDigit (byte : UInt8) : Bool := 0x30 ≤ byte && byte ≤ 0x39

/-- One digit or more. -/
def readDigits? (input : Bytes) : Option (Bytes × Bytes) :=
  match input.takeWhile isDigit with
  | [] => none
  | digits => some (digits, input.dropWhile isDigit)

/-- The whole part of a number: a zero stands alone. -/
def readWhole? : Bytes → Option (Bytes × Bytes)
  | [] => none
  | byte :: rest => if byte == 0x30 then some ([byte], rest) else readDigits? (byte :: rest)

def readFraction? : Bytes → Option (Bytes × Bytes)
  | 0x2e :: rest => (readDigits? rest).map fun found => (0x2e :: found.1, found.2)
  | input => some ([], input)

def readExponent? : Bytes → Option (Bytes × Bytes)
  | [] => some ([], [])
  | mark :: rest =>
      if mark == 0x65 || mark == 0x45 then
        match rest with
        | sign :: after =>
            if sign == 0x2b || sign == 0x2d then
              (readDigits? after).map fun found => (mark :: sign :: found.1, found.2)
            else
              (readDigits? rest).map fun found => (mark :: found.1, found.2)
        | [] => none
      else some ([], mark :: rest)

/-- A number and what follows it. -/
def readNumber? (input : Bytes) : Option (String × Bytes) := do
  let (sign, unsigned) := match input with
    | 0x2d :: rest => ([0x2d], rest)
    | _ => (([] : Bytes), input)
  let (whole, afterWhole) ← readWhole? unsigned
  let (fraction, afterFraction) ← readFraction? afterWhole
  let (exponent, rest) ← readExponent? afterFraction
  let literal := sign ++ whole ++ fraction ++ exponent
  return (String.ofList (literal.map fun byte => Char.ofNat byte.toNat), rest)

/-- Drop a word from the start. -/
def dropWord? (word input : Bytes) : Option Bytes :=
  if word.isPrefixOf input then some (input.drop word.length) else none

mutual

/-- A value and what follows it. -/
def readValue (fuel : Nat) (input : Bytes) : Option (Value × Bytes) :=
  match fuel with
  | 0 => none
  | fuel + 1 =>
      match skipBlanks input with
      | [] => none
      | byte :: rest =>
          match Char.ofNat byte.toNat with
          | 'n' => (dropWord? [0x75, 0x6c, 0x6c] rest).map fun after => (.null, after)
          | 't' => (dropWord? [0x72, 0x75, 0x65] rest).map fun after => (.bool true, after)
          | 'f' => (dropWord? [0x61, 0x6c, 0x73, 0x65] rest).map fun after => (.bool false, after)
          | '"' => (readText? rest).map fun found => (.text found.1, found.2)
          | '[' =>
              match skipBlanks rest with
              | 0x5d :: after => some (.array [], after)
              | first => (readItems fuel first).map fun found => (.array found.1, found.2)
          | '\x7b' =>
              match skipBlanks rest with
              | 0x7d :: after => some (.object [], after)
              | first => (readMembers fuel first).map fun found => (.object found.1, found.2)
          | _ => (readNumber? (byte :: rest)).map fun found => (.number found.1, found.2)

/-- The items of an array that has some, up to its closing bracket. -/
def readItems (fuel : Nat) (input : Bytes) : Option (List Value × Bytes) :=
  match fuel with
  | 0 => none
  | fuel + 1 =>
      match readValue fuel input with
      | none => none
      | some (item, rest) =>
          match skipBlanks rest with
          | 0x5d :: after => some ([item], after)
          | 0x2c :: more =>
              (readItems fuel more).map fun found => (item :: found.1, found.2)
          | _ => none

/-- The members of an object that has some, up to its closing brace. -/
def readMembers (fuel : Nat) (input : Bytes) :
    Option (List (Option String × Value) × Bytes) :=
  match fuel with
  | 0 => none
  | fuel + 1 =>
      match skipBlanks input with
      | 0x22 :: afterQuote =>
          match readText? afterQuote with
          | none => none
          | some (name, afterName) =>
              match skipBlanks afterName with
              | 0x3a :: afterColon =>
                  match readValue fuel afterColon with
                  | none => none
                  | some (value, rest) =>
                      match skipBlanks rest with
                      | 0x7d :: after => some ([(name, value)], after)
                      | 0x2c :: more =>
                          (readMembers fuel more).map fun found =>
                            ((name, value) :: found.1, found.2)
                      | _ => none
              | _ => none
      | _ => none

end

/-- The value this text writes; nothing but blanks may follow it. -/
def Value.ofBytes? (input : Bytes) : Option Value :=
  match readValue (2 * input.length + 2) input with
  | some (value, rest) => if (skipBlanks rest).isEmpty then some value else none
  | none => none

end Coedit.Json
