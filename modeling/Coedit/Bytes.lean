/-!
# Byte strings

Byte strings as lists, their hexadecimal text, their text content, and numbers
written low byte first.
-/

namespace Coedit

/-- A string of bytes. -/
abbrev Bytes := List UInt8

namespace Bytes

/-- One digit in base sixteen, in lower case. -/
def hexDigit (value : Nat) : Char := Nat.digitChar (value % 16)

/-- Two lower-case digits per byte. -/
def toHex (bytes : Bytes) : String :=
  String.ofList (bytes.flatMap fun byte =>
    [hexDigit (byte.toNat / 16), hexDigit byte.toNat])

/-- The value of a digit in base sixteen. -/
def hexValue? (char : Char) : Option Nat :=
  if '0' ≤ char && char ≤ '9' then some (char.toNat - 48)
  else if 'a' ≤ char && char ≤ 'f' then some (char.toNat - 87)
  else if 'A' ≤ char && char ≤ 'F' then some (char.toNat - 55)
  else none

/-- The bytes that pairs of digits write. -/
def ofHexDigits? : List Char → Option Bytes
  | [] => some []
  | [_] => none
  | high :: low :: rest => do
      let byte := UInt8.ofNat (16 * (← hexValue? high) + (← hexValue? low))
      return byte :: (← ofHexDigits? rest)

/-- The bytes whose digits a text shows, if it does. -/
def ofHex? (text : String) : Option Bytes := ofHexDigits? text.toList

/-- The UTF-8 bytes of a text. -/
def ofText (text : String) : Bytes := text.toUTF8.data.toList

/-- The text these bytes encode in UTF-8, if they do. -/
def toText? (bytes : Bytes) : Option String :=
  String.fromUTF8? ⟨bytes.toArray⟩

/-- The number as exactly `width` bytes, low byte first; what does not fit is
dropped. -/
def ofNatLE : (width : Nat) → (number : Nat) → Bytes
  | 0, _ => []
  | width + 1, number => UInt8.ofNat number :: ofNatLE width (number / 256)

/-- The number these bytes write, low byte first. -/
def toNatLE : Bytes → Nat
  | [] => 0
  | byte :: rest => byte.toNat + 256 * toNatLE rest

@[simp] theorem length_ofNatLE (width number : Nat) :
    (ofNatLE width number).length = width := by
  induction width generalizing number with
  | zero => rfl
  | succ width ih => simp [ofNatLE, ih]

end Bytes

end Coedit
