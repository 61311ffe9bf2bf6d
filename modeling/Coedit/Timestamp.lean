import Coedit.Time

/-!
# Timestamps

Moments of the civil calendar as text.  Reading follows the internet profile of
ISO 8601 in its lenient form: a blank may stand for the `T`, blanks may stand
between the parts, and the zone is `Z`, `UTC` or an offset in hours and minutes.
Writing gives the strict form in UTC.
-/

namespace Coedit.Timestamp

/-- Unicode white space. -/
def isBlank (char : Char) : Bool :=
  let code := char.toNat
  (0x09 ≤ code && code ≤ 0x0d) || code == 0x20 || code == 0x85 || code == 0xa0 ||
    code == 0x1680 || (0x2000 ≤ code && code ≤ 0x200a) || code == 0x2028 || code == 0x2029 ||
    code == 0x202f || code == 0x205f || code == 0x3000

def isLeapYear (year : Int) : Bool :=
  year % 4 == 0 && (year % 100 != 0 || year % 400 == 0)

def daysInMonth (year : Int) (month : Nat) : Nat :=
  if month == 2 then (if isLeapYear year then 29 else 28)
  else if month == 4 || month == 6 || month == 9 || month == 11 then 30
  else 31

/-- Days from 1 January 1970 to a date of the Gregorian calendar. -/
def daysFromCivil (year : Int) (month day : Nat) : Int :=
  let shifted := if month ≤ 2 then year - 1 else year
  let era := shifted.fdiv 400
  let yearOfEra := shifted - era * 400
  let monthFromMarch : Int := ((month + 9) % 12 : Nat)
  let dayOfYear := (153 * monthFromMarch + 2) / 5 + (day : Int) - 1
  let dayOfEra := yearOfEra * 365 + yearOfEra / 4 - yearOfEra / 100 + dayOfYear
  era * 146097 + dayOfEra - 719468

/-- The year of an era of 400 years in which a day of it lies; years begin in March. -/
def yearOfEra (dayOfEra : Nat) : Nat :=
  (dayOfEra - dayOfEra / 1460 + dayOfEra / 36524 - dayOfEra / 146096) / 365

/-- The days of an era before a year of it. -/
def daysBefore (year : Nat) : Nat := 365 * year + year / 4 - year / 100

/-- The year, month and day that many days after 1 January 1970. -/
def civilFromDays (days : Nat) : Nat × Nat × Nat :=
  let shifted := days + 719468
  let era := shifted / 146097
  let dayOfEra := shifted % 146097
  let year := yearOfEra dayOfEra
  let dayOfYear := dayOfEra - daysBefore year
  let monthFromMarch := (5 * dayOfYear + 2) / 153
  let day := dayOfYear - (153 * monthFromMarch + 2) / 5 + 1
  let month := if monthFromMarch < 10 then monthFromMarch + 3 else monthFromMarch - 9
  (year + era * 400 + (if month ≤ 2 then 1 else 0), month, day)

/-- The number with leading zeros up to `width` digits. -/
def padded (width number : Nat) : String :=
  let digits := toString number
  "".pushn '0' (width - digits.length) ++ digits

/-- The fraction of a second in as many groups of three digits as it needs. -/
def renderFraction (nanos : Nat) : String :=
  if nanos == 0 then ""
  else if nanos % 1000000 == 0 then "." ++ padded 3 (nanos / 1000000)
  else if nanos % 1000 == 0 then "." ++ padded 6 (nanos / 1000)
  else "." ++ padded 9 nanos

/-- Four digits; a year that needs more has a sign. -/
def renderYear (year : Nat) : String :=
  if year ≤ 9999 then padded 4 year else "+" ++ toString year

/-- An instant counted from 1 January 1970, in UTC. -/
def render (instant : Instant) : String :=
  let seconds := instant.nanos / 1000000000
  let (year, month, day) := civilFromDays (seconds / 86400)
  let ofDay := seconds % 86400
  renderYear year ++ "-" ++ padded 2 month ++ "-" ++ padded 2 day ++ "T" ++
    padded 2 (ofDay / 3600) ++ ":" ++ padded 2 (ofDay / 60 % 60) ++ ":" ++ padded 2 (ofDay % 60) ++
    renderFraction (instant.nanos % 1000000000) ++ "Z"

/-- What is left of a text once a part of it has been read. -/
abbrev Rest := List Char

def skipBlanks (input : Rest) : Rest := input.dropWhile isBlank

/-- A number of at least one and at most `most` digits. -/
def readDigits? (most : Nat) (input : Rest) : Option (Nat × Rest) :=
  let digits := (input.take most).takeWhile Char.isDigit
  if digits.isEmpty then none
  else some (Nat.ofDigitChars 10 digits 0, input.drop digits.length)

/-- A year: four digits, or a sign and any number of digits. -/
def readYear? (input : Rest) : Option (Int × Rest) :=
  match input with
  | '-' :: rest => (readDigits? rest.length rest).map fun found => (-(found.1 : Int), found.2)
  | '+' :: rest => (readDigits? rest.length rest).map fun found => ((found.1 : Int), found.2)
  | _ => (readDigits? 4 input).map fun found => ((found.1 : Int), found.2)

/-- One expected character, with blanks before it. -/
def readMark? (mark : Char) (input : Rest) : Option Rest :=
  match skipBlanks input with
  | char :: rest => if char == mark then some rest else none
  | [] => none

/-- A two-digit number with blanks before it. -/
def readPair? (input : Rest) : Option (Nat × Rest) := readDigits? 2 (skipBlanks input)

/-- A fraction of a second; digits beyond the ninth do not count. -/
def readFraction? (input : Rest) : Option Rest :=
  match input with
  | '.' :: rest => (readDigits? 9 rest).map fun found => found.2.dropWhile Char.isDigit
  | _ => some input

/-- Two digits, the first of them at most `high`. -/
def readFixedPair? (high : Char) (input : Rest) : Option (Nat × Rest) :=
  match input with
  | tens :: ones :: rest =>
      if '0' ≤ tens && tens ≤ high && ones.isDigit then
        some ((tens.toNat - 48) * 10 + (ones.toNat - 48), rest)
      else none
  | _ => none

/-- The hours and minutes of an offset, after its sign, in seconds. -/
def readOffset? (input : Rest) : Option (Int × Rest) := do
  let (hours, afterHours) ← readFixedPair? '9' input
  let afterMark := afterHours.dropWhile fun char => char == ':' || isBlank char
  let (minutes, rest) ← readFixedPair? '5' afterMark
  return ((hours * 3600 + minutes * 60 : Nat), rest)

/-- The offset from UTC, in seconds. -/
def readZone? (input : Rest) : Option (Int × Rest) :=
  match input with
  | [] => none
  | first :: rest =>
      if first == 'Z' || first == 'z' then some (0, rest)
      else if (input.take 3).map Char.toUpper == ['U', 'T', 'C'] then some (0, input.drop 3)
      else if first == '+' then readOffset? rest
      else if first == '-' || first == '−' then
        (readOffset? rest).map fun found => (-found.1, found.2)
      else none

/-- Years that have a date. -/
def firstYear : Int := -262143

def lastYear : Int := 262142

/-- The seconds from 1 January 1970 to the moment a text names.  The moment has to
lie in a year that has a date both where its zone is and in UTC. -/
def parse? (text : String) : Option Int := do
  let (year, afterYear) ← readYear? (skipBlanks text.toList)
  let (month, afterMonth) ← readMark? '-' afterYear >>= readPair?
  let (day, afterDay) ← readMark? '-' afterMonth >>= readPair?
  let time ← match afterDay with
    | 'T' :: rest => some rest
    | 't' :: rest => some rest
    | ' ' :: rest => some rest
    | _ => none
  let (hour, afterHour) ← readPair? time
  let (minute, afterMinute) ← readMark? ':' afterHour >>= readPair?
  let (second, afterSecond) ← readMark? ':' afterMinute >>= readPair?
  let afterTime ← readFraction? afterSecond
  let (offset, rest) ← readZone? (skipBlanks afterTime)
  guard (skipBlanks rest).isEmpty
  guard (firstYear ≤ year && year ≤ lastYear)
  guard (1 ≤ month && month ≤ 12 && 1 ≤ day && day ≤ daysInMonth year month)
  guard (hour ≤ 23 && minute ≤ 59 && second ≤ 60)
  guard (offset.natAbs < 86400)
  let clock : Nat := hour * 3600 + minute * 60 + min second 59
  let moment := daysFromCivil year month day * 86400 + clock - offset
  guard (daysFromCivil firstYear 1 1 * 86400 ≤ moment)
  guard (moment < (daysFromCivil lastYear 12 31 + 1) * 86400)
  return moment

end Coedit.Timestamp
