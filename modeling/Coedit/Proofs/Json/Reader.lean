import Coedit.Json.Reader
import Mathlib.Data.Nat.Notation

/-!
# Written JSON is read back

Members with plain names, whole numbers and plain texts are read as they were written.
Every reader is told what follows the part it reads, since that is where it has to stop.
-/

namespace Coedit

namespace Bytes

theorem ofText_append (left right : String) : ofText (left ++ right) = ofText left ++ ofText right := by
  simp [ofText]

theorem toText?_ofText (text : String) : toText? (ofText text) = some text := by
  have valid : text.toByteArray.IsValidUTF8 := text.isValidUTF8
  have whole : (⟨(ofText text).toArray⟩ : ByteArray) = text.toByteArray := by
    simp [ofText]
  rw [toText?, whole, String.fromUTF8?, dif_pos valid]
  rfl

/-- Characters of one byte each. -/
theorem ofText_ofList {chars : List Char} (narrow : ∀ char ∈ chars, char.toNat < 0x80) :
    ofText (String.ofList chars) = chars.map fun char => UInt8.ofNat char.toNat := by
  rw [ofText, String.toUTF8_eq_toByteArray, String.toByteArray_ofList, List.utf8Encode,
    List.toList_data_toByteArray]
  induction chars with
  | nil => rfl
  | cons char chars ih =>
      have single : String.utf8EncodeChar char = [UInt8.ofNat char.toNat] :=
        if_pos (Nat.le_of_lt_succ (narrow char List.mem_cons_self))
      rw [List.flatMap_cons, List.map_cons, single,
        ih fun other mem => narrow other (List.mem_cons_of_mem char mem)]
      rfl

end Bytes

namespace Json

/-- Characters that are written as they are, in one byte. -/
def IsPlain (char : Char) : Prop :=
  0x20 ≤ char.toNat ∧ char.toNat < 0x80 ∧ char ≠ '"' ∧ char ≠ '\\'

instance (char : Char) : Decidable (IsPlain char) := inferInstanceAs (Decidable (_ ∧ _))

/-- Texts of such characters. -/
def IsPlainText (text : String) : Prop := ∀ char ∈ text.toList, IsPlain char

instance (text : String) : Decidable (IsPlainText text) :=
  List.decidableBAll IsPlain text.toList

theorem escapeChar_of_plain {char : Char} (plain : IsPlain char) : escapeChar char = [char] := by
  obtain ⟨printing, narrow, no_quote, no_slash⟩ := plain
  have control {other : Char} (low : other.toNat < 0x20) : char ≠ other := by
    intro same
    rw [same] at printing
    omega
  have letter : shortEscape? char = none := by
    rw [shortEscape?, if_neg (control (by decide)), if_neg (control (by decide)),
      if_neg (control (by decide)), if_neg (control (by decide)), if_neg (control (by decide))]
  simp [escapeChar, no_quote, no_slash, letter, Nat.not_lt.mpr printing]

theorem renderText_of_plain {text : String} (plain : IsPlainText text) :
    renderText text = "\"" ++ text ++ "\"" := by
  have whole (chars : List Char) (plain : ∀ char ∈ chars, IsPlain char) :
      chars.flatMap escapeChar = chars := by
    induction chars with
    | nil => rfl
    | cons char chars ih =>
        rw [List.flatMap_cons, escapeChar_of_plain (plain char List.mem_cons_self),
          ih fun other mem => plain other (List.mem_cons_of_mem char mem)]
        rfl
  rw [renderText, whole text.toList plain, String.ofList_append, String.ofList_append,
    String.ofList_toList]

/-- Bytes that stand for themselves inside a text. -/
def IsPlainByte (byte : UInt8) : Prop := 0x20 ≤ byte ∧ byte ≠ 0x22 ∧ byte ≠ 0x5c

theorem isPlainByte_of_mem {text : String} (plain : IsPlainText text) {byte : UInt8}
    (mem : byte ∈ Bytes.ofText text) : IsPlainByte byte := by
  rw [← String.ofList_toList (s := text),
    Bytes.ofText_ofList fun char mem => (plain char mem).2.1, List.mem_map] at mem
  obtain ⟨char, mem, rfl⟩ := mem
  obtain ⟨printing, narrow, no_quote, no_slash⟩ := plain char mem
  have number : (UInt8.ofNat char.toNat).toNat = char.toNat := by
    rw [UInt8.toNat_ofNat']
    omega
  refine ⟨?_, ?_, ?_⟩
  · rw [UInt8.le_iff_toNat_le, number]
    exact printing
  · intro same
    rw [same] at number
    exact no_quote (Char.toNat_inj.mp number.symm)
  · intro same
    rw [same] at number
    exact no_slash (Char.toNat_inj.mp number.symm)

/-- Up to its closing quote a plain text is read byte by byte. -/
theorem readPieces_append {text : Bytes} (plain : ∀ byte ∈ text, IsPlainByte byte) {fuel : Nat}
    (enough : text.length < fuel) (found : List Piece) (rest : Bytes) :
    readPieces fuel found (text ++ 0x22 :: rest) =
      some ((text.map Piece.byte).reverse ++ found, rest) := by
  induction text generalizing fuel found with
  | nil =>
      cases fuel with
      | zero => contradiction
      | succ fuel => rfl
  | cons byte text ih =>
      cases fuel with
      | zero => contradiction
      | succ fuel =>
          obtain ⟨printing, no_quote, no_slash⟩ := plain byte List.mem_cons_self
          have step : readPieces (fuel + 1) found (byte :: (text ++ 0x22 :: rest)) =
              readPieces fuel (.byte byte :: found) (text ++ 0x22 :: rest) := by
            rw [readPieces.eq_def]
            simp [no_quote, no_slash, UInt8.not_lt.mpr printing]
          rw [List.cons_append, step,
            ih (fun other mem => plain other (List.mem_cons_of_mem byte mem))
              (Nat.lt_of_succ_lt_succ enough)]
          simp

theorem joinPieces_bytes (text : Bytes) : joinPieces (text.map Piece.byte) = some text := by
  induction text with
  | nil => rfl
  | cons byte text ih => rw [List.map_cons, joinPieces, ih, Option.map_some]

theorem readText?_append {text : String} (plain : IsPlainText text) (rest : Bytes) :
    readText? (Bytes.ofText text ++ 0x22 :: rest) = some (some text, rest) := by
  rw [readText?, readPieces_append (fun _ => isPlainByte_of_mem plain)
    (Nat.lt_succ_of_le (by rw [List.length_append]; exact Nat.le_add_right ..))]
  simp [joinPieces_bytes, Bytes.toText?_ofText]

theorem head?_toDigits {number : Nat} (positive : 0 < number) :
    (Nat.toDigits 10 number).head? ≠ some '0' := by
  induction number using Nat.strongRecOn with
  | ind number ih =>
      by_cases small : number < 10
      · rw [Nat.toDigits_of_lt_base small]
        intro zero
        have : number.digitChar = '0' := Option.some.inj zero
        rw [Nat.digitChar_eq_zero] at this
        omega
      · rw [Nat.toDigits_of_base_le (by decide) (by omega), List.head?_append]
        have leading := ih (number / 10) (by omega) (by omega)
        cases digits : (Nat.toDigits 10 (number / 10)).head? with
        | none => simp at digits
        | some digit =>
            rw [digits] at leading
            exact leading

/-- What may follow a member of an object. -/
def Follows (rest : Bytes) : Prop := ∀ byte ∈ rest.head?, byte = 0x2c ∨ byte = 0x7d

theorem ofText_toString (number : Nat) :
    Bytes.ofText (toString number) =
      (Nat.toDigits 10 number).map fun char => UInt8.ofNat char.toNat := by
  rw [Nat.toString_eq_ofList_toDigits]
  apply Bytes.ofText_ofList
  intro char mem
  have digit := Nat.isDigit_of_mem_toDigits (by decide) (by decide) mem
  exact Nat.lt_of_le_of_lt (Char.isDigit_iff_toNat.mp digit).2 (by decide)

theorem isDigit_of_mem_ofText {number : Nat} {byte : UInt8}
    (mem : byte ∈ Bytes.ofText (toString number)) : isDigit byte := by
  rw [ofText_toString, List.mem_map] at mem
  obtain ⟨char, mem, rfl⟩ := mem
  have digit := Nat.isDigit_of_mem_toDigits (by decide) (by decide) mem
  obtain ⟨low, high⟩ := Char.isDigit_iff_toNat.mp digit
  have : '0'.toNat = 0x30 := rfl
  have : '9'.toNat = 0x39 := rfl
  have number : (UInt8.ofNat char.toNat).toNat = char.toNat := by
    rw [UInt8.toNat_ofNat']
    omega
  have printing : (0x30 : UInt8) ≤ UInt8.ofNat char.toNat := by
    rw [UInt8.le_iff_toNat_le, number]
    exact low
  have narrow : UInt8.ofNat char.toNat ≤ (0x39 : UInt8) := by
    rw [UInt8.le_iff_toNat_le, number]
    exact high
  simp [isDigit, printing, narrow]

/-- Only zero begins with a zero. -/
theorem head?_ofText {number : Nat} (positive : 0 < number) :
    (Bytes.ofText (toString number)).head? ≠ some 0x30 := by
  have leading := head?_toDigits positive
  rw [ofText_toString, List.head?_map]
  cases digits : (Nat.toDigits 10 number).head? with
  | none => nofun
  | some char =>
      intro same
      have digit : char.isDigit :=
        Nat.isDigit_of_mem_toDigits (by decide) (by decide) (List.mem_of_head? digits)
      have high := (Char.isDigit_iff_toNat.mp digit).2
      have : '9'.toNat = 0x39 := rfl
      have byte : UInt8.ofNat char.toNat = 0x30 := Option.some.inj same
      have code : char.toNat % 256 = 0x30 := by
        rw [← UInt8.toNat_ofNat', byte]
        rfl
      have : '0'.toNat = 0x30 := rfl
      have zero : char = '0' := Char.toNat_inj.mp (by omega)
      rw [digits, zero] at leading
      exact leading rfl

theorem takeWhile_of_follows {rest : Bytes} (follows : Follows rest) :
    rest.takeWhile isDigit = [] := by
  cases rest with
  | nil => rfl
  | cons byte rest =>
      apply List.takeWhile_cons_of_neg
      cases follows byte rfl with
      | inl comma => rw [comma]; decide
      | inr brace => rw [brace]; decide

theorem dropWhile_of_follows {rest : Bytes} (follows : Follows rest) :
    rest.dropWhile isDigit = rest := by
  have parts := List.takeWhile_append_dropWhile (p := isDigit) (l := rest)
  rw [takeWhile_of_follows follows, List.nil_append] at parts
  exact parts

/-- A whole number is read up to where its digits end. -/
theorem readWhole?_append (number : Nat) {rest : Bytes} (follows : Follows rest) :
    readWhole? (Bytes.ofText (toString number) ++ rest) =
      some (Bytes.ofText (toString number), rest) := by
  have digits : ∀ byte ∈ Bytes.ofText (toString number), isDigit byte :=
    fun _ => isDigit_of_mem_ofText
  cases Nat.eq_zero_or_pos number with
  | inl zero =>
      rw [zero]
      rfl
  | inr positive =>
      have leading := head?_ofText positive
      have taken : (Bytes.ofText (toString number) ++ rest).takeWhile isDigit =
          Bytes.ofText (toString number) := by
        rw [List.takeWhile_append_of_pos digits, takeWhile_of_follows follows, List.append_nil]
      have dropped : (Bytes.ofText (toString number) ++ rest).dropWhile isDigit = rest := by
        rw [List.dropWhile_append_of_pos digits, dropWhile_of_follows follows]
      have shown : Bytes.ofText (toString number) ≠ [] := by
        rw [ofText_toString]
        simp
      generalize Bytes.ofText (toString number) = bytes at *
      cases bytes with
      | nil => exact absurd rfl shown
      | cons byte bytes =>
          have nonzero : (byte == 0x30) = false := beq_false_of_ne fun zero => by
            rw [zero] at leading
            exact leading rfl
          rw [List.cons_append] at taken dropped ⊢
          rw [readWhole?, nonzero, readDigits?, taken, dropped]
          rfl

/-- The first byte of a whole number is a digit. -/
theorem ofText_toString_eq_cons (number : Nat) : ∃ byte bytes,
    Bytes.ofText (toString number) = byte :: bytes ∧ isDigit byte := by
  cases shown : Bytes.ofText (toString number) with
  | nil =>
      rw [ofText_toString, List.map_eq_nil_iff] at shown
      exact absurd shown Nat.toDigits_ne_nil
  | cons byte bytes =>
      refine ⟨byte, bytes, rfl, ?_⟩
      apply isDigit_of_mem_ofText
      rw [shown]
      exact List.mem_cons_self

theorem text_of_ofText_toString (number : Nat) :
    String.ofList ((Bytes.ofText (toString number)).map fun byte => Char.ofNat byte.toNat) =
      toString number := by
  have back (char : Char) (mem : char ∈ Nat.toDigits 10 number) :
      Char.ofNat (UInt8.ofNat char.toNat).toNat = char := by
    have digit := Nat.isDigit_of_mem_toDigits (by decide) (by decide) mem
    have high := (Char.isDigit_iff_toNat.mp digit).2
    have : '9'.toNat = 0x39 := rfl
    rw [UInt8.toNat_ofNat', Nat.mod_eq_of_lt (by omega), Char.ofNat_toNat]
  rw [ofText_toString, List.map_map, Nat.toString_eq_ofList_toDigits]
  congr 1
  calc
    _ = (Nat.toDigits 10 number).map id := List.map_congr_left back
    _ = Nat.toDigits 10 number := List.map_id _

theorem readFraction?_of_follows {rest : Bytes} (follows : Follows rest) :
    readFraction? rest = some ([], rest) := by
  cases rest with
  | nil => rfl
  | cons byte rest =>
      cases follows byte rfl with
      | inl comma => rw [comma]; rfl
      | inr brace => rw [brace]; rfl

theorem readExponent?_of_follows {rest : Bytes} (follows : Follows rest) :
    readExponent? rest = some ([], rest) := by
  cases rest with
  | nil => rfl
  | cons byte rest =>
      cases follows byte rfl with
      | inl comma => rw [comma]; rfl
      | inr brace => rw [brace]; rfl

/-- A number that does not start with a sign is read from its first digit on. -/
theorem readNumber?_cons {byte : UInt8} {bytes : Bytes} (unsigned : byte ≠ 0x2d) :
    readNumber? (byte :: bytes) = (do
      let (whole, afterWhole) ← readWhole? (byte :: bytes)
      let (fraction, afterFraction) ← readFraction? afterWhole
      let (exponent, rest) ← readExponent? afterFraction
      return (String.ofList
        ((whole ++ fraction ++ exponent).map fun byte => Char.ofNat byte.toNat), rest)) := by
  rw [readNumber?]
  · rfl
  · intro after same
    cases same
    exact absurd rfl unsigned

theorem readNumber?_append (number : Nat) {rest : Bytes} (follows : Follows rest) :
    readNumber? (Bytes.ofText (toString number) ++ rest) = some (toString number, rest) := by
  obtain ⟨byte, bytes, shown, digit⟩ := ofText_toString_eq_cons number
  have unsigned : byte ≠ 0x2d := by
    rintro rfl
    exact absurd digit (by decide)
  have whole := readWhole?_append number follows
  rw [shown, List.cons_append] at whole ⊢
  rw [readNumber?_cons unsigned, whole]
  simp only [Option.bind_eq_bind, Option.bind_some, readFraction?_of_follows follows,
    readExponent?_of_follows follows, List.append_nil, ← shown, text_of_ofText_toString]
  rfl

theorem integer?_number (number : Nat) :
    (Value.number (toString number)).integer? = some (number : Int) := by
  have digits : (Nat.toDigits 10 number).all Char.isDigit = true :=
    List.all_eq_true.mpr fun char mem => Nat.isDigit_of_mem_toDigits (by decide) (by decide) mem
  rw [Value.integer?, Nat.toString_eq_ofList_toDigits, String.toList_ofList]
  split
  · next same =>
      rw [same] at digits
      exact absurd digits (by decide)
  · next rest _ same =>
      rw [same] at digits
      simp at digits
  · rw [if_pos digits, Nat.ofDigitChars_ten_toDigits]

/-- This text is read as this value wherever it stands in an object. -/
def Prints (shown : String) (value : Value) : Prop :=
  ∀ (fuel : Nat) (rest : Bytes), Follows rest →
    readValue (fuel + 1) (Bytes.ofText shown ++ rest) = some (value, rest)

theorem readValue_digit {byte : UInt8} (digit : isDigit byte) (fuel : Nat) (rest : Bytes) :
    readValue (fuel + 1) (byte :: rest) =
      (readNumber? (byte :: rest)).map fun found => (.number found.1, found.2) := by
  simp only [isDigit, Bool.and_eq_true, decide_eq_true_eq, UInt8.le_iff_toNat_le] at digit
  have codes : byte = 0x30 ∨ byte = 0x31 ∨ byte = 0x32 ∨ byte = 0x33 ∨ byte = 0x34 ∨
      byte = 0x35 ∨ byte = 0x36 ∨ byte = 0x37 ∨ byte = 0x38 ∨ byte = 0x39 := by
    simp only [← UInt8.toNat_inj]
    change 48 ≤ byte.toNat ∧ byte.toNat ≤ 57 at digit
    simp only [UInt8.reduceToNat]
    omega
  rcases codes with rfl | rfl | rfl | rfl | rfl | rfl | rfl | rfl | rfl | rfl <;> rfl

theorem prints_number (number : Nat) : Prints (toString number) (.number (toString number)) := by
  intro fuel rest follows
  obtain ⟨byte, bytes, shown, digit⟩ := ofText_toString_eq_cons number
  have read := readNumber?_append number follows
  rw [shown, List.cons_append] at read ⊢
  rw [readValue_digit digit, read]
  rfl

theorem prints_text {text : String} (plain : IsPlainText text) :
    Prints (renderText text) (.text (some text)) := by
  intro fuel rest follows
  have quote : Bytes.ofText "\"" = [0x22] := rfl
  have opened (input : Bytes) : readValue (fuel + 1) (0x22 :: input) =
      (readText? input).map fun found => (.text found.1, found.2) := rfl
  rw [renderText_of_plain plain, Bytes.ofText_append, Bytes.ofText_append, quote,
    List.append_assoc, List.append_assoc, List.singleton_append, List.singleton_append,
    opened, readText?_append plain]
  rfl

/-- A member of an object: its name, its value, and the text of the value. -/
structure Member where
  name : String
  shown : String
  value : Value

namespace Member

/-- The member can be read back. -/
structure IsPlain (member : Member) : Prop where
  name : IsPlainText member.name
  shown : Prints member.shown member.value

def render (member : Member) : String := renderText member.name ++ ":" ++ member.shown

/-- What is read of the member. -/
def content (member : Member) : Option String × Value := (some member.name, member.value)

theorem ofText_render {member : Member} (plain : member.IsPlain) :
    Bytes.ofText member.render =
      0x22 :: (Bytes.ofText member.name ++ 0x22 :: 0x3a :: Bytes.ofText member.shown) := by
  have quote : Bytes.ofText "\"" = [0x22] := rfl
  have colon : Bytes.ofText ":" = [0x3a] := rfl
  rw [render, renderText_of_plain plain.name]
  simp only [Bytes.ofText_append, quote, colon, List.append_assoc, List.cons_append,
    List.nil_append]

end Member

/-- A member is its name, a colon and its value. -/
theorem readMembers_cons (fuel : Nat) (input : Bytes) :
    readMembers (fuel + 2) (0x22 :: input) =
      match readText? input with
      | none => none
      | some (name, afterName) =>
          match skipBlanks afterName with
          | 0x3a :: afterColon =>
              match readValue (fuel + 1) afterColon with
              | none => none
              | some (value, rest) =>
                  match skipBlanks rest with
                  | 0x7d :: after => some ([(name, value)], after)
                  | 0x2c :: more =>
                      (readMembers (fuel + 1) more).map fun found =>
                        ((name, value) :: found.1, found.2)
                  | _ => none
          | _ => none :=
  rfl

/-- The first member is read, and then what follows it decides. -/
theorem readMembers_render {member : Member} (plain : member.IsPlain) (fuel : Nat) {rest : Bytes}
    (follows : Follows rest) :
    readMembers (fuel + 2) (Bytes.ofText member.render ++ rest) =
      match skipBlanks rest with
      | 0x7d :: after => some ([member.content], after)
      | 0x2c :: more =>
          (readMembers (fuel + 1) more).map fun found => (member.content :: found.1, found.2)
      | _ => none := by
  have colon (input : Bytes) : skipBlanks (0x3a :: input) = 0x3a :: input := rfl
  rw [Member.ofText_render plain, List.cons_append, List.append_assoc, readMembers_cons,
    List.cons_append, List.cons_append, readText?_append plain.name]
  simp only [colon, plain.shown fuel rest follows]
  rfl

theorem readMembers_intercalate {members : List Member} (filled : members ≠ [])
    (plain : ∀ member ∈ members, member.IsPlain) {fuel : Nat} (enough : members.length < fuel)
    (rest : Bytes) :
    readMembers fuel
        (Bytes.ofText (",".intercalate (members.map Member.render)) ++ 0x7d :: rest) =
      some (members.map Member.content, rest) := by
  induction members generalizing fuel with
  | nil => contradiction
  | cons member members ih =>
      obtain ⟨fuel, rfl⟩ : ∃ less, fuel = less + 2 := ⟨fuel - 2, by simp at enough; omega⟩
      have first := plain member List.mem_cons_self
      cases members with
      | nil =>
          rw [List.map_singleton, String.intercalate_singleton,
            readMembers_render first fuel (by rintro _ ⟨⟩; exact .inr rfl)]
          rfl
      | cons next members =>
          have comma : Bytes.ofText "," = [0x2c] := rfl
          have more := ih (List.cons_ne_nil _ _)
            (fun other mem => plain other (List.mem_cons_of_mem member mem))
            (Nat.lt_of_succ_lt_succ enough)
          rw [List.map_cons] at more
          rw [List.map_cons, List.map_cons, String.intercalate_cons_cons, Bytes.ofText_append,
            Bytes.ofText_append, comma, List.append_assoc, List.append_assoc,
            List.singleton_append, readMembers_render first fuel (by rintro _ ⟨⟩; exact .inl rfl)]
          show (readMembers (fuel + 1) _).map _ = _
          rw [more]
          rfl

/-- Written members begin with a quote and are longer than they are many. -/
theorem ofText_intercalate {member : Member} {members : List Member} (first : member.IsPlain)
    (plain : ∀ other ∈ members, other.IsPlain) :
    ∃ bytes, Bytes.ofText (",".intercalate ((member :: members).map Member.render)) =
      0x22 :: bytes ∧ members.length ≤ bytes.length := by
  induction members generalizing member with
  | nil =>
      rw [List.map_singleton, String.intercalate_singleton, Member.ofText_render first]
      exact ⟨_, rfl, Nat.zero_le _⟩
  | cons next members ih =>
      obtain ⟨bytes, shown, long⟩ := ih (plain next List.mem_cons_self)
        fun other mem => plain other (List.mem_cons_of_mem next mem)
      rw [List.map_cons] at shown
      rw [List.map_cons, List.map_cons, String.intercalate_cons_cons, Bytes.ofText_append, shown,
        Bytes.ofText_append, Member.ofText_render first]
      refine ⟨_, rfl, ?_⟩
      simp
      omega

/-- An object is read member by member, as it was written. -/
theorem ofBytes?_renderMembers {members : List Member} (filled : members ≠ [])
    (plain : ∀ member ∈ members, member.IsPlain) :
    Value.ofBytes? (Bytes.ofText
        (renderMembers (members.map fun member => (member.name, member.shown)))) =
      some (.object (members.map Member.content)) := by
  have open_brace : Bytes.ofText "\x7b" = [0x7b] := rfl
  have close_brace : Bytes.ofText "\x7d" = [0x7d] := rfl
  have opened (fuel : Nat) (input : Bytes) : readValue (fuel + 1) (0x7b :: 0x22 :: input) =
      (readMembers fuel (0x22 :: input)).map fun found => (.object found.1, found.2) := rfl
  have rendered : (members.map fun member => (member.name, member.shown)).map
      (fun member => renderText member.1 ++ ":" ++ member.2) = members.map Member.render := by
    rw [List.map_map]
    rfl
  have written : Bytes.ofText
      (renderMembers (members.map fun member => (member.name, member.shown))) =
      0x7b :: (Bytes.ofText (",".intercalate (members.map Member.render)) ++ [0x7d]) := by
    rw [renderMembers, rendered, Bytes.ofText_append, Bytes.ofText_append, open_brace, close_brace]
    rfl
  have read (fuel : Nat) (enough : members.length < fuel) :=
    readMembers_intercalate filled plain enough []
  rw [written, Value.ofBytes?]
  cases members with
  | nil => contradiction
  | cons member members =>
      obtain ⟨bytes, shown, long⟩ := ofText_intercalate (plain member List.mem_cons_self)
        fun other mem => plain other (List.mem_cons_of_mem member mem)
      rw [shown] at read ⊢
      rw [List.cons_append] at read ⊢
      rw [opened, read _ (by simp; omega)]
      rfl

end Json

end Coedit
