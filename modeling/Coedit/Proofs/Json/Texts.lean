import Coedit.Proofs.Json.Reader

/-!
# Written texts are read back

Whatever its characters are, a text is read as it was written: characters with a meaning in
the notation are escaped, and all others stand for themselves.  Whole numbers below zero are
read back as well.
-/

namespace Coedit

namespace Bytes

theorem ofText_ofList_eq_flatMap (chars : List Char) :
    ofText (String.ofList chars) = chars.flatMap String.utf8EncodeChar := by
  rw [ofText, String.toUTF8_eq_toByteArray, String.toByteArray_ofList, List.utf8Encode,
    List.toList_data_toByteArray]

end Bytes

namespace Json

/-! ## Spelling -/

/-- Whether these bytes are read as the text `meant` wherever they stand inside a text. -/
def Spells (shown meant : Bytes) : Prop :=
  ∃ pieces : List Piece, pieces.length ≤ shown.length ∧
    (∀ later, joinPieces (pieces ++ later) = (joinPieces later).map (meant ++ ·)) ∧
    ∀ fuel found rest, pieces.length ≤ fuel →
      readPieces fuel found (shown ++ rest) =
        readPieces (fuel - pieces.length) (pieces.reverse ++ found) rest

theorem spells_nil : Spells [] [] := by
  refine ⟨[], Nat.le_refl 0, ?_, fun fuel found rest _ => rfl⟩
  intro later
  cases joined : joinPieces later with
  | none => rw [List.nil_append, joined]; rfl
  | some meant => rw [List.nil_append, joined]; rfl

theorem Spells.append {shown shown' meant meant' : Bytes} (first : Spells shown meant)
    (second : Spells shown' meant') : Spells (shown ++ shown') (meant ++ meant') := by
  obtain ⟨pieces, few, joins, reads⟩ := first
  obtain ⟨pieces', few', joins', reads'⟩ := second
  refine ⟨pieces ++ pieces', ?_, ?_, ?_⟩
  · rw [List.length_append, List.length_append]
    exact Nat.add_le_add few few'
  · intro later
    rw [List.append_assoc, joins, joins', Option.map_map]
    congr 1
    funext rest
    exact (List.append_assoc ..).symm
  · intro fuel found rest enough
    rw [List.length_append] at enough
    rw [List.append_assoc, reads fuel found _ (by omega), reads' _ _ rest (by omega),
      List.length_append, List.reverse_append, List.append_assoc, Nat.sub_sub]

/-- Bytes without a meaning of their own. -/
theorem spells_plain {text : Bytes} (plain : ∀ byte ∈ text, IsPlainByte byte) :
    Spells text text := by
  refine ⟨text.map .byte, Nat.le_of_eq (List.length_map _), ?_, ?_⟩
  · intro later
    induction text with
    | nil => cases joined : joinPieces later <;> simp [joined]
    | cons byte text ih =>
        have rest := ih fun other mem => plain other (List.mem_cons_of_mem byte mem)
        rw [List.map_cons, List.cons_append, joinPieces, rest, Option.map_map]
        rfl
  · intro fuel found rest enough
    rw [List.length_map] at enough ⊢
    induction text generalizing fuel found with
    | nil => rfl
    | cons byte text ih =>
        obtain ⟨fuel, rfl⟩ : ∃ less, fuel = less + 1 := ⟨fuel - 1, by simp at enough; omega⟩
        obtain ⟨printing, no_quote, no_slash⟩ := plain byte List.mem_cons_self
        have step : readPieces (fuel + 1) found (byte :: (text ++ rest)) =
            readPieces fuel (.byte byte :: found) (text ++ rest) := by
          rw [readPieces.eq_def]
          simp [no_quote, no_slash, UInt8.not_lt.mpr printing]
        rw [List.cons_append, step,
          ih (fun other mem => plain other (List.mem_cons_of_mem byte mem)) fuel _
            (Nat.le_of_succ_le_succ enough)]
        simp

/-- A slash and a letter for one byte. -/
theorem spells_letter {letter byte : UInt8} (not_unit : letter ≠ 0x75)
    (stands : unescape? letter = some byte) : Spells [0x5c, letter] [byte] := by
  refine ⟨[.byte byte], by simp, fun later => rfl, ?_⟩
  intro fuel found rest enough
  obtain ⟨fuel, rfl⟩ : ∃ less, fuel = less + 1 := ⟨fuel - 1, by simp at enough; omega⟩
  rw [readPieces.eq_def]
  simp [not_unit, stands]

/-- A slash, a mark and the four digits of a unit that is no surrogate. -/
theorem spells_unit {digits : Bytes} {unit : Nat} (low : unit < 0xd800)
    (stands : ∀ rest, readUnit? (digits ++ rest) = some (unit, rest)) :
    Spells (0x5c :: 0x75 :: digits) (codePointBytes unit) := by
  refine ⟨[.unit unit], by simp, ?_, ?_⟩
  · intro later
    have : ¬ (0xdc00 ≤ unit ∧ unit ≤ 0xdfff) := by omega
    have : ¬ (0xd800 ≤ unit ∧ unit ≤ 0xdbff) := by omega
    rw [List.singleton_append, joinPieces.eq_def]
    simp [*]
  · intro fuel found rest enough
    obtain ⟨fuel, rfl⟩ : ∃ less, fuel = less + 1 := ⟨fuel - 1, by simp at enough; omega⟩
    rw [readPieces.eq_def]
    simp [stands]

/-! ## Characters -/

/-- The bytes of a character beyond the narrow ones stand for themselves. -/
theorem isPlainByte_of_wide {char : Char} (wide : 0x80 ≤ char.toNat) {byte : UInt8}
    (mem : byte ∈ String.utf8EncodeChar char) : IsPlainByte byte := by
  have high : 0x80 ≤ byte.toNat := by
    rw [String.utf8EncodeChar] at mem
    have number : char.val.toNat = char.toNat := rfl
    rw [number, if_neg (by omega)] at mem
    split at mem
    · simp only [List.mem_cons, List.not_mem_nil, or_false] at mem
      rcases mem with rfl | rfl <;> rw [UInt8.toNat_ofNat'] <;> omega
    · split at mem
      · simp only [List.mem_cons, List.not_mem_nil, or_false] at mem
        rcases mem with rfl | rfl | rfl <;> rw [UInt8.toNat_ofNat'] <;> omega
      · simp only [List.mem_cons, List.not_mem_nil, or_false] at mem
        rcases mem with rfl | rfl | rfl | rfl <;> rw [UInt8.toNat_ofNat'] <;> omega
  refine ⟨?_, ?_, ?_⟩
  · rw [UInt8.le_iff_toNat_le]
    exact Nat.le_trans (by decide) high
  · rintro rfl
    exact absurd high (by decide)
  · rintro rfl
    exact absurd high (by decide)

/-- A character that is written as it is. -/
theorem spells_self {char : Char} (printing : 0x20 ≤ char.toNat) (no_quote : char ≠ '"')
    (no_slash : char ≠ '\\') :
    Spells (String.utf8EncodeChar char) (String.utf8EncodeChar char) := by
  apply spells_plain
  intro byte mem
  by_cases narrow : char.toNat < 0x80
  · have alone : IsPlainText (String.ofList [char]) := by
      intro other member
      rw [String.toList_ofList, List.mem_singleton] at member
      rw [member]
      exact ⟨printing, narrow, no_quote, no_slash⟩
    refine isPlainByte_of_mem alone ?_
    rwa [Bytes.ofText_ofList_eq_flatMap, List.flatMap_singleton]
  · exact isPlainByte_of_wide (Nat.not_lt.mp narrow) mem

/-- The two digits of a small number are read as that number. -/
theorem readUnit?_control {number : Nat} (small : number < 0x20) (rest : Bytes) :
    readUnit? ((['0', '0', Bytes.hexDigit (number / 16), Bytes.hexDigit number].flatMap
      String.utf8EncodeChar) ++ rest) = some (number, rest) := by
  have every : ∀ low : Fin 0x20, ['0', '0', Bytes.hexDigit (low.val / 16),
      Bytes.hexDigit low.val].flatMap String.utf8EncodeChar =
        [0x30, 0x30, UInt8.ofNat (Bytes.hexDigit (low.val / 16)).toNat,
          UInt8.ofNat (Bytes.hexDigit low.val).toNat] ∧
      Bytes.hexValue? (Char.ofNat (UInt8.ofNat (Bytes.hexDigit (low.val / 16)).toNat).toNat) =
        some (low.val / 16) ∧
      Bytes.hexValue? (Char.ofNat (UInt8.ofNat (Bytes.hexDigit low.val).toNat).toNat) =
        some (low.val % 16) := by decide
  obtain ⟨shown, upper, lower⟩ := every ⟨number, small⟩
  have zero : Bytes.hexValue? (Char.ofNat (0x30 : UInt8).toNat) = some 0 := by decide
  rw [shown]
  simp only [List.cons_append, List.nil_append, readUnit?, zero, upper, lower,
    Option.bind_eq_bind, Option.bind_some]
  rw [show ((0 * 16 + 0) * 16 + number / 16) * 16 + number % 16 = number by omega]
  rfl

/-- However a character is written, it is read as itself. -/
theorem spells_char (char : Char) :
    Spells ((escapeChar char).flatMap String.utf8EncodeChar) (String.utf8EncodeChar char) := by
  by_cases quote : char = '"'
  · rw [quote]
    exact spells_letter (by decide) (by decide)
  by_cases slash : char = '\\'
  · rw [slash]
    exact spells_letter (by decide) (by decide)
  have unquoted : (decide (char = '"') || decide (char = '\\')) = false := by simp [quote, slash]
  rw [escapeChar, unquoted, if_neg Bool.false_ne_true]
  cases short : shortEscape? char with
  | some letter =>
      unfold shortEscape? at short
      repeat' split at short
      all_goals
        cases short <;> next same => rw [same]; exact spells_letter (by decide) (by decide)
  | none =>
      dsimp only
      split
      · next small =>
          have own : String.utf8EncodeChar char = codePointBytes char.toNat := by
            rw [codePointBytes, Char.ofNat_toNat, String.singleton_eq_ofList,
              Bytes.ofText_ofList_eq_flatMap, List.flatMap_singleton]
          rw [own]
          exact spells_unit (by omega) (readUnit?_control small)
      · next printing =>
          rw [List.flatMap_singleton]
          exact spells_self (Nat.not_lt.mp printing) quote slash

/-! ## Texts -/

theorem spells_escaped (chars : List Char) :
    Spells ((chars.flatMap escapeChar).flatMap String.utf8EncodeChar)
      (chars.flatMap String.utf8EncodeChar) := by
  induction chars with
  | nil => exact spells_nil
  | cons char chars ih =>
      rw [List.flatMap_cons, List.flatMap_append, List.flatMap_cons]
      exact (spells_char char).append ih

/-- Up to its closing quote a spelled text is read as what is meant. -/
theorem readText?_spells {shown : Bytes} {text : String}
    (spells : Spells shown (Bytes.ofText text)) (rest : Bytes) :
    readText? (shown ++ 0x22 :: rest) = some (some text, rest) := by
  obtain ⟨pieces, few, joins, reads⟩ := spells
  have joined : joinPieces pieces = some (Bytes.ofText text) := by
    have whole := joins []
    rw [List.append_nil] at whole
    rw [whole, joinPieces, Option.map_some, List.append_nil]
  obtain ⟨fuel, left⟩ : ∃ fuel,
      (shown ++ 0x22 :: rest).length + 1 - pieces.length = fuel + 1 := by
    refine ⟨(shown ++ 0x22 :: rest).length - pieces.length, ?_⟩
    rw [List.length_append, List.length_cons]
    omega
  have read : readPieces ((shown ++ 0x22 :: rest).length + 1) [] (shown ++ 0x22 :: rest) =
      some (pieces.reverse ++ [], rest) := by
    rw [reads _ [] _ (by rw [List.length_append]; omega), left]
    rfl
  rw [readText?, read]
  simp [joined, Bytes.toText?_ofText]

/-- Any text is read as it was written. -/
theorem prints_renderText (text : String) : Prints (renderText text) (.text (some text)) := by
  intro fuel rest follows
  have quote : Bytes.ofText (String.ofList ['"']) = [0x22] := rfl
  have opened (input : Bytes) : readValue (fuel + 1) (0x22 :: input) =
      (readText? input).map fun found => (.text found.1, found.2) := rfl
  have spells : Spells ((text.toList.flatMap escapeChar).flatMap String.utf8EncodeChar)
      (Bytes.ofText text) := by
    have own := Bytes.ofText_ofList_eq_flatMap text.toList
    rw [String.ofList_toList] at own
    rw [own]
    exact spells_escaped text.toList
  rw [renderText, String.ofList_append, String.ofList_append, Bytes.ofText_append,
    Bytes.ofText_append, quote, Bytes.ofText_ofList_eq_flatMap, List.append_assoc,
    List.append_assoc, List.singleton_append, List.singleton_append, opened,
    readText?_spells spells]
  rfl

/-! ## Whole numbers -/

theorem readNumber?_signed (unsigned : Bytes) :
    readNumber? (0x2d :: unsigned) = (do
      let (whole, afterWhole) ← readWhole? unsigned
      let (fraction, afterFraction) ← readFraction? afterWhole
      let (exponent, rest) ← readExponent? afterFraction
      return (String.ofList
        ((([0x2d] : Bytes) ++ whole ++ fraction ++ exponent).map fun byte =>
          Char.ofNat byte.toNat),
        rest)) := rfl

/-- A number after a minus sign is read like one without. -/
theorem readNumber?_minus (number : Nat) {rest : Bytes} (follows : Follows rest) :
    readNumber? (0x2d :: (Bytes.ofText (toString number) ++ rest)) =
      some ("-" ++ toString number, rest) := by
  have minus : ([0x2d] : Bytes).map (fun byte : UInt8 => Char.ofNat byte.toNat) = ['-'] := by
    decide
  rw [readNumber?_signed, readWhole?_append number follows]
  simp only [Option.bind_eq_bind, Option.bind_some, readFraction?_of_follows follows,
    readExponent?_of_follows follows, List.append_nil]
  rw [List.map_append, minus, String.ofList_append, text_of_ofText_toString]
  rfl

theorem prints_integer (number : Int) : Prints (toString number) (.number (toString number)) := by
  cases number with
  | ofNat number => exact prints_number number
  | negSucc number =>
      intro fuel rest follows
      have minus : Bytes.ofText "-" = [0x2d] := rfl
      have shown : toString (Int.negSucc number) = "-" ++ toString (number + 1) := rfl
      have opened (input : Bytes) : readValue (fuel + 1) (0x2d :: input) =
          (readNumber? (0x2d :: input)).map fun found => (.number found.1, found.2) := rfl
      rw [shown, Bytes.ofText_append, minus, List.append_assoc, List.singleton_append, opened,
        readNumber?_minus (number + 1) follows]
      rfl

theorem integer?_integer (number : Int) :
    (Value.number (toString number)).integer? = some number := by
  cases number with
  | ofNat number => exact integer?_number number
  | negSucc number =>
      have digits : (Nat.toDigits 10 (number + 1)).all Char.isDigit = true :=
        List.all_eq_true.mpr fun char mem =>
          Nat.isDigit_of_mem_toDigits (by decide) (by decide) mem
      have leading := head?_toDigits (Nat.succ_pos number)
      have shown : (toString (Int.negSucc number)).toList =
          '-' :: Nat.toDigits 10 (number + 1) := by
        change ("-" ++ toString (number + 1)).toList = _
        rw [String.toList_append, Nat.toString_eq_ofList_toDigits, String.toList_ofList,
          String.toList_ofList]
        rfl
      rw [Value.integer?, shown]
      split
      · next same =>
          rw [List.cons.injEq] at same
          rw [same.2] at leading
          exact absurd rfl leading
      · next rest apart same =>
          obtain rfl : Nat.toDigits 10 (number + 1) = rest := (List.cons.inj same).2
          rw [if_pos digits, Nat.ofDigitChars_ten_toDigits]
          rfl
      · next others => exact absurd rfl (others _)

end Json

end Coedit
