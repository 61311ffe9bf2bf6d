import Coedit.Proofs.Timestamp.Calendar

/-!
# Written timestamps are read back

Every part of a written timestamp is a number of known width, so what reads it stops where
it ends; the calendar then says that the parts make up the moment that was written.
-/

namespace Coedit.Timestamp

variable {width number : Nat} {rest : Rest}

theorem isBlank_of_isDigit {char : Char} (digit : char.isDigit) : isBlank char = false := by
  obtain ⟨low, high⟩ := Char.isDigit_iff_toNat.mp digit
  have : '0'.toNat = 48 := rfl
  have : '9'.toNat = 57 := rfl
  rw [← Bool.not_eq_true]
  simp only [isBlank, Bool.or_eq_true, Bool.and_eq_true, decide_eq_true_eq, beq_iff_eq]
  omega

theorem toList_padded (width number : Nat) :
    (padded width number).toList =
      List.replicate (width - (Nat.toDigits 10 number).length) '0' ++ Nat.toDigits 10 number := by
  have zeros (count : Nat) : ("".pushn '0' count).toList = List.replicate count '0' := by
    rw [String.pushn_eq_repeat_push]
    induction count with
    | zero => rfl
    | succ count ih => rw [Nat.repeat, String.toList_push, ih, ← List.replicate_succ']
  rw [padded, String.toList_append, zeros, ← String.length_toList,
    Nat.toString_eq_ofList_toDigits, String.toList_ofList]

theorem isDigit_of_mem_padded {char : Char} (mem : char ∈ (padded width number).toList) :
    char.isDigit := by
  rw [toList_padded, List.mem_append] at mem
  cases mem with
  | inl zero => rw [List.eq_of_mem_replicate zero]; rfl
  | inr digit => exact Nat.isDigit_of_mem_toDigits (by decide) (by decide) digit

theorem ofDigitChars_padded (width number : Nat) :
    Nat.ofDigitChars 10 (padded width number).toList 0 = number := by
  rw [toList_padded, Nat.ofDigitChars_append, Nat.ofDigitChars_replicate_zero, Nat.mul_zero,
    Nat.ofDigitChars_ten_toDigits]

theorem length_padded (positive : 0 < width) (fits : number < 10 ^ width) :
    (padded width number).toList.length = width := by
  have := (Nat.length_toDigits_le_iff (by decide : 1 < 10) positive).mpr fits
  rw [toList_padded, List.length_append, List.length_replicate]
  omega

/-- No digit comes next. -/
def Ends (rest : Rest) : Prop := ∀ char ∈ rest.head?, char.isDigit = false

/-- Digits are read up to where the number ends, or where no more may be read. -/
theorem readDigits?_append {most : Nat} {digits : List Char} (all : ∀ char ∈ digits, char.isDigit)
    (some_digit : digits ≠ []) (fits : digits.length ≤ most)
    (ends : digits.length = most ∨ Ends rest) :
    readDigits? most (digits ++ rest) = some (Nat.ofDigitChars 10 digits 0, rest) := by
  have taken : ((digits ++ rest).take most).takeWhile Char.isDigit = digits := by
    rw [List.take_append, List.take_of_length_le fits, List.takeWhile_append_of_pos all]
    suffices none_left : (rest.take (most - digits.length)).takeWhile Char.isDigit = [] by
      rw [none_left, List.append_nil]
    cases ends with
    | inl full => rw [full, Nat.sub_self]; rfl
    | inr ends =>
        cases rest with
        | nil => simp
        | cons char rest =>
            cases most - digits.length with
            | zero => rfl
            | succ left =>
                rw [List.take_succ_cons, List.takeWhile_cons_of_neg]
                rw [ends char rfl]
                decide
  simp [readDigits?, taken, some_digit]

theorem skipBlanks_append {digits : List Char} (all : ∀ char ∈ digits, char.isDigit)
    (some_digit : digits ≠ []) (rest : Rest) : skipBlanks (digits ++ rest) = digits ++ rest := by
  cases digits with
  | nil => exact absurd rfl some_digit
  | cons digit digits =>
      have : isBlank digit = false := isBlank_of_isDigit (all digit List.mem_cons_self)
      rw [skipBlanks, List.cons_append, List.dropWhile_cons_of_neg (by simp [this])]

theorem padded_ne_nil : (padded width number).toList ≠ [] := by
  rw [toList_padded]
  simp

theorem readPair?_padded (fits : number < 100) (rest : Rest) :
    readPair? ((padded 2 number).toList ++ rest) = some (number, rest) := by
  have length : (padded 2 number).toList.length = 2 := length_padded (by decide) fits
  rw [readPair?, skipBlanks_append (fun _ => isDigit_of_mem_padded) padded_ne_nil,
    readDigits?_append (fun _ => isDigit_of_mem_padded) padded_ne_nil
      length.le (.inl length), ofDigitChars_padded]

theorem readYear?_renderYear (year : Nat) (ends : Ends rest) :
    readYear? ((renderYear year).toList ++ rest) = some ((year : Int), rest) := by
  by_cases small : year ≤ 9999
  · have length : (padded 4 year).toList.length = 4 := length_padded (by decide) (by omega)
    have read : readDigits? 4 ((padded 4 year).toList ++ rest) = some (year, rest) := by
      rw [readDigits?_append (fun _ => isDigit_of_mem_padded) padded_ne_nil length.le
        (.inl length), ofDigitChars_padded]
    have digits : ∀ char ∈ (padded 4 year).toList, char.isDigit :=
      fun _ => isDigit_of_mem_padded
    rw [renderYear, if_pos small]
    generalize (padded 4 year).toList = shown at *
    cases shown with
    | nil => contradiction
    | cons char shown =>
        have digit := digits char List.mem_cons_self
        rw [List.cons_append] at read ⊢
        unfold readYear?
        split
        · next same =>
            cases same
            exact absurd digit (by decide)
        · next same =>
            cases same
            exact absurd digit (by decide)
        · rw [read]
          rfl
  · have read : readDigits? (Nat.toDigits 10 year ++ rest).length (Nat.toDigits 10 year ++ rest) =
        some (year, rest) := by
      rw [readDigits?_append
        (fun _ mem => Nat.isDigit_of_mem_toDigits (by decide) (by decide) mem)
        Nat.toDigits_ne_nil (by simp) (.inr ends), Nat.ofDigitChars_ten_toDigits]
    have signed (input : Rest) : readYear? ('+' :: input) =
        (readDigits? input.length input).map fun found => ((found.1 : Int), found.2) := rfl
    have sign : "+".toList = ['+'] := rfl
    rw [renderYear, if_neg small, String.toList_append, sign, Nat.toString_eq_ofList_toDigits,
      String.toList_ofList, List.singleton_append, List.cons_append, signed, read]
    rfl

theorem readFraction?_renderFraction {nanos : Nat} (fits : nanos < 1000000000)
    (ends : Ends rest) (pointless : rest.head? ≠ some '.') :
    readFraction? ((renderFraction nanos).toList ++ rest) = some rest := by
  have read (width number : Nat) (narrow : width ≤ 9) (positive : 0 < width)
      (fits : number < 10 ^ width) :
      readFraction? (("." ++ padded width number).toList ++ rest) = some rest := by
    have length : (padded width number).toList.length = width := length_padded positive fits
    have pointed (input : Rest) : readFraction? ('.' :: input) =
        (readDigits? 9 input).map fun found => found.2.dropWhile Char.isDigit := rfl
    have point : ".".toList = ['.'] := rfl
    rw [String.toList_append, point, List.singleton_append, List.cons_append, pointed,
      readDigits?_append (fun _ => isDigit_of_mem_padded) padded_ne_nil
      (by omega) (.inr ends)]
    cases rest with
    | nil => rfl
    | cons char rest =>
        rw [Option.map_some, List.dropWhile_cons_of_neg]
        rw [ends char rfl]
        decide
  rw [renderFraction]
  split
  · cases rest with
    | nil => rfl
    | cons char rest =>
        have absent : "".toList = [] := rfl
        rw [absent, List.nil_append]
        unfold readFraction?
        split
        · next same =>
            cases same
            exact absurd rfl pointless
        · rfl
  · split
    · exact read 3 _ (by decide) (by decide) (by omega)
    · split
      · exact read 6 _ (by decide) (by decide) (by omega)
      · exact read 9 _ (by decide) (by decide) (by omega)

theorem skipBlanks_renderYear (year : Nat) (rest : Rest) :
    skipBlanks ((renderYear year).toList ++ rest) = (renderYear year).toList ++ rest := by
  rw [renderYear]
  split
  · exact skipBlanks_append (fun _ => isDigit_of_mem_padded) padded_ne_nil rest
  · rw [String.toList_append]
    rfl

theorem readMark?_cons {char : Char} (solid : isBlank char = false) (rest : Rest) :
    readMark? char (char :: rest) = some rest := by
  rw [readMark?, skipBlanks, List.dropWhile_cons_of_neg (by simp [solid])]
  simp

theorem readMark?_bind {mark : Char} (solid : isBlank mark = false) (fits : number < 100)
    (rest : Rest) :
    (readMark? mark (mark :: ((padded 2 number).toList ++ rest)) >>= readPair?) =
      some (number, rest) := by
  rw [readMark?_cons solid, Option.bind_eq_bind, Option.bind_some, readPair?_padded fits]

theorem guard_of {condition : Prop} [Decidable condition] (holds : condition) :
    (guard condition : Option Unit) = some () :=
  if_pos holds

/-- Instants whose year has a date. -/
def InCalendar (instant : Instant) : Prop :=
  ((instant.nanos / 1000000000 : Nat) : Int) < (daysFromCivil lastYear 12 31 + 1) * 86400

instance (instant : Instant) : Decidable (InCalendar instant) :=
  inferInstanceAs (Decidable (_ < _))

/-- The characters of a timestamp. -/
theorem toList_render {instant : Instant} {year month day : Nat}
    (named : civilFromDays (instant.nanos / 1000000000 / 86400) = (year, month, day)) :
    (render instant).toList = (renderYear year).toList ++
      '-' :: ((padded 2 month).toList ++ '-' :: ((padded 2 day).toList ++
      'T' :: ((padded 2 (instant.nanos / 1000000000 % 86400 / 3600)).toList ++
      ':' :: ((padded 2 (instant.nanos / 1000000000 % 86400 / 60 % 60)).toList ++
      ':' :: ((padded 2 (instant.nanos / 1000000000 % 86400 % 60)).toList ++
      ((renderFraction (instant.nanos % 1000000000)).toList ++ ['Z'])))))) := by
  have dash : "-".toList = ['-'] := rfl
  have colon : ":".toList = [':'] := rfl
  have tee : "T".toList = ['T'] := rfl
  have zulu : "Z".toList = ['Z'] := rfl
  rw [render]
  simp only [named, String.toList_append, dash, colon, tee, zulu, List.append_assoc,
    List.cons_append, List.nil_append]

/-- Digits and the marks and letters of timestamps lie in this range. -/
def IsMark (char : Char) : Prop := '+'.toNat ≤ char.toNat ∧ char.toNat ≤ 'Z'.toNat

instance (char : Char) : Decidable (IsMark char) := inferInstanceAs (Decidable (_ ∧ _))

theorem isMark_of_isDigit {char : Char} (digit : char.isDigit) : IsMark char := by
  obtain ⟨low, high⟩ := Char.isDigit_iff_toNat.mp digit
  exact ⟨Nat.le_trans (by decide) low, Nat.le_trans high (by decide)⟩

theorem isMark_of_mem_padded {char : Char} (mem : char ∈ (padded width number).toList) :
    IsMark char :=
  isMark_of_isDigit (isDigit_of_mem_padded mem)

theorem isMark_of_mem_renderYear {year : Nat} {char : Char}
    (mem : char ∈ (renderYear year).toList) : IsMark char := by
  rw [renderYear] at mem
  split at mem
  · exact isMark_of_mem_padded mem
  · have sign : "+".toList = ['+'] := rfl
    rw [String.toList_append, List.mem_append, sign, Nat.toString_eq_ofList_toDigits,
      String.toList_ofList] at mem
    cases mem with
    | inl sign =>
        rw [List.mem_singleton.mp sign]
        decide
    | inr shown =>
        exact isMark_of_isDigit (Nat.isDigit_of_mem_toDigits (by decide) (by decide) shown)

theorem isMark_of_mem_renderFraction {nanos : Nat} {char : Char}
    (mem : char ∈ (renderFraction nanos).toList) : IsMark char := by
  have pointed {width number : Nat} (mem : char ∈ ("." ++ padded width number).toList) :
      IsMark char := by
    have point : ".".toList = ['.'] := rfl
    rw [String.toList_append, List.mem_append, point] at mem
    cases mem with
    | inl point =>
        rw [List.mem_singleton.mp point]
        decide
    | inr shown => exact isMark_of_mem_padded shown
  rw [renderFraction] at mem
  split at mem
  · cases mem
  · split at mem
    · exact pointed mem
    · split at mem
      · exact pointed mem
      · exact pointed mem

/-- Timestamps are plain text. -/
theorem isMark_of_mem_render {instant : Instant} {char : Char}
    (mem : char ∈ (render instant).toList) : IsMark char := by
  rw [toList_render rfl] at mem
  simp only [List.mem_append, List.mem_cons, List.not_mem_nil, or_false] at mem
  rcases mem with year | rfl | month | rfl | day | rfl | hour | rfl | minute | rfl | second |
    fraction | rfl
  · exact isMark_of_mem_renderYear year
  · decide
  · exact isMark_of_mem_padded month
  · decide
  · exact isMark_of_mem_padded day
  · decide
  · exact isMark_of_mem_padded hour
  · decide
  · exact isMark_of_mem_padded minute
  · decide
  · exact isMark_of_mem_padded second
  · exact isMark_of_mem_renderFraction fraction
  · decide

/-- A written timestamp names the moment that was written, to the second. -/
theorem parse?_render {instant : Instant} (within : InCalendar instant) :
    parse? (render instant) = some ((instant.nanos / 1000000000 : Nat) : Int) := by
  unfold InCalendar at within
  cases named : civilFromDays (instant.nanos / 1000000000 / 86400) with
  | mk year date =>
  cases date with
  | mk month day =>
      obtain ⟨month_range, day_range, counted⟩ := civilFromDays_spec named
      have day_fits : day < 100 := by
        have : daysInMonth year month ≤ 31 := by
          unfold daysInMonth
          split <;> grind
        omega
      rw [parse?, toList_render named, skipBlanks_renderYear]
      generalize instant.nanos / 1000000000 = seconds at *
      rw [readYear?_renderYear year (by rintro _ ⟨⟩; rfl)]
      rw [Option.bind_eq_bind, Option.bind_some]
      dsimp only
      rw [readMark?_bind (rfl : isBlank '-' = false) (by omega : month < 100),
        Option.bind_eq_bind, Option.bind_some]
      dsimp only
      rw [readMark?_bind (rfl : isBlank '-' = false) day_fits, Option.bind_eq_bind,
        Option.bind_some]
      dsimp only
      simp only [Option.bind_eq_bind, Option.bind_some,
        readPair?_padded (by omega : seconds % 86400 / 3600 < 100),
        readMark?_cons (rfl : isBlank ':' = false),
        readPair?_padded (by omega : seconds % 86400 / 60 % 60 < 100),
        readPair?_padded (by omega : seconds % 86400 % 60 < 100)]
      have zone : readZone? (skipBlanks ['Z']) = some (0, []) := rfl
      have year_le : (year : Int) ≤ lastYear :=
        year_le_of_days month_range day_range.1 (by omega)
      have year_ge : firstYear ≤ (year : Int) := by
        have : firstYear = -262143 := rfl
        omega
      have first : daysFromCivil firstYear 1 1 ≤ 0 := by decide
      have clock : seconds % 86400 / 3600 * 3600 + seconds % 86400 / 60 % 60 * 60 +
          min (seconds % 86400 % 60) 59 = seconds % 86400 := by omega
      have moment : daysFromCivil year month day * 86400 + ((seconds % 86400 : Nat) : Int) - 0 =
          seconds := by omega
      rw [readFraction?_renderFraction (by omega) (by rintro _ ⟨⟩; rfl) (by decide)]
      simp only [Option.bind_some, zone, clock, moment]
      have years : (decide (firstYear ≤ (year : Int)) && decide ((year : Int) ≤ lastYear)) = true := by
        simp only [year_ge, year_le, decide_true, Bool.and_self]
      have dates : (decide (1 ≤ month) && decide (month ≤ 12) && decide (1 ≤ day) &&
          decide (day ≤ daysInMonth year month)) = true := by
        simp only [month_range, day_range, decide_true, Bool.and_self]
      have times : (decide (seconds % 86400 / 3600 ≤ 23) &&
          decide (seconds % 86400 / 60 % 60 ≤ 59) && decide (seconds % 86400 % 60 ≤ 60)) = true := by
        have : seconds % 86400 / 3600 ≤ 23 := by omega
        have : seconds % 86400 / 60 % 60 ≤ 59 := by omega
        have : seconds % 86400 % 60 ≤ 60 := by omega
        simp only [*, decide_true, Bool.and_self]
      have nothing : (skipBlanks []).isEmpty = true := rfl
      have near : (0 : Int).natAbs < 86400 := by decide
      have late : daysFromCivil firstYear 1 1 * 86400 ≤ (seconds : Int) := by omega
      rw [guard_of nothing, guard_of years, guard_of dates, guard_of times, guard_of near,
        guard_of late, guard_of within]
      rfl

end Coedit.Timestamp
