/-!
# Durations and instants

Lengths of time and points in time, both counted in whole nanoseconds.  A
difference never goes below zero: time that has already run out is the empty
duration.
-/

namespace Coedit

/-- A length of time. -/
structure Duration where
  nanos : Nat
  deriving DecidableEq, Repr, Inhabited

/-- A point in time, as the time that passed since a fixed origin. -/
structure Instant where
  nanos : Nat
  deriving DecidableEq, Repr, Inhabited

namespace Duration

/-- The empty duration. -/
def zero : Duration := ⟨0⟩

def ofSecs (secs : Nat) : Duration := ⟨secs * 1000000000⟩

def ofMillis (millis : Nat) : Duration := ⟨millis * 1000000⟩

/-- A duration given as whole seconds and further nanoseconds. -/
def ofParts (secs nanos : Nat) : Duration := ⟨secs * 1000000000 + nanos⟩

/-- Whole seconds. -/
def secs (duration : Duration) : Nat := duration.nanos / 1000000000

/-- Nanoseconds beyond the whole seconds. -/
def subsecNanos (duration : Duration) : Nat := duration.nanos % 1000000000

/-- Whole milliseconds. -/
def millis (duration : Duration) : Nat := duration.nanos / 1000000

/-- Whole seconds, counting a started second as a full one. -/
def ceilSecs (duration : Duration) : Nat := (duration.nanos + 999999999) / 1000000000

def isZero (duration : Duration) : Bool := duration.nanos == 0

instance : LE Duration := ⟨fun left right => left.nanos ≤ right.nanos⟩

instance : LT Duration := ⟨fun left right => left.nanos < right.nanos⟩

instance (left right : Duration) : Decidable (left ≤ right) :=
  inferInstanceAs (Decidable (left.nanos ≤ right.nanos))

instance (left right : Duration) : Decidable (left < right) :=
  inferInstanceAs (Decidable (left.nanos < right.nanos))

instance : Add Duration := ⟨fun left right => ⟨left.nanos + right.nanos⟩⟩

instance : Sub Duration := ⟨fun left right => ⟨left.nanos - right.nanos⟩⟩

instance : Min Duration := ⟨fun left right => ⟨min left.nanos right.nanos⟩⟩

/-- Twice the duration. -/
def double (duration : Duration) : Duration := ⟨duration.nanos * 2⟩

theorem le_iff {left right : Duration} : left ≤ right ↔ left.nanos ≤ right.nanos := Iff.rfl

theorem lt_iff {left right : Duration} : left < right ↔ left.nanos < right.nanos := Iff.rfl

@[simp] theorem nanos_add (left right : Duration) :
    (left + right).nanos = left.nanos + right.nanos := rfl

@[simp] theorem nanos_sub (left right : Duration) :
    (left - right).nanos = left.nanos - right.nanos := rfl

@[simp] theorem nanos_min (left right : Duration) :
    (min left right).nanos = min left.nanos right.nanos := rfl

@[simp] theorem nanos_double (duration : Duration) :
    duration.double.nanos = duration.nanos * 2 := rfl

/-- Drop the zeros at the end of a list of digits. -/
private def trimZeros (digits : List Char) : List Char :=
  (digits.reverse.dropWhile (· == '0')).reverse

/-- A whole part, then, unless it is zero, a fraction of `width` digits without
its final zeros, then the unit. -/
def renderIn (whole fraction width : Nat) (unit : String) : String :=
  let digits := (toString fraction).toList
  let padded := List.replicate (width - digits.length) '0' ++ digits
  match trimZeros padded with
  | [] => toString whole ++ unit
  | shown => toString whole ++ "." ++ String.ofList shown ++ unit

/-- The duration in the largest of the units s, ms, µs and ns in which it has a
whole part, to the nanosecond. -/
def render (duration : Duration) : String :=
  let nanos := duration.nanos
  if nanos ≥ 1000000000 then renderIn (nanos / 1000000000) (nanos % 1000000000) 9 "s"
  else if nanos ≥ 1000000 then renderIn (nanos / 1000000) (nanos % 1000000) 6 "ms"
  else if nanos ≥ 1000 then renderIn (nanos / 1000) (nanos % 1000) 3 "µs"
  else renderIn nanos 0 0 "ns"

end Duration

namespace Instant

instance : LE Instant := ⟨fun left right => left.nanos ≤ right.nanos⟩

instance : LT Instant := ⟨fun left right => left.nanos < right.nanos⟩

instance (left right : Instant) : Decidable (left ≤ right) :=
  inferInstanceAs (Decidable (left.nanos ≤ right.nanos))

instance (left right : Instant) : Decidable (left < right) :=
  inferInstanceAs (Decidable (left.nanos < right.nanos))

theorem le_iff {left right : Instant} : left ≤ right ↔ left.nanos ≤ right.nanos := Iff.rfl

theorem lt_iff {left right : Instant} : left < right ↔ left.nanos < right.nanos := Iff.rfl

/-- The instant `duration` later. -/
def later (instant : Instant) (duration : Duration) : Instant :=
  ⟨instant.nanos + duration.nanos⟩

/-- The time from `earlier` to `instant`; empty if `earlier` is not earlier. -/
def since (instant earlier : Instant) : Duration :=
  ⟨instant.nanos - earlier.nanos⟩

/-- Whole milliseconds since the origin. -/
def millis (instant : Instant) : Nat := instant.nanos / 1000000

@[simp] theorem nanos_later (instant : Instant) (duration : Duration) :
    (instant.later duration).nanos = instant.nanos + duration.nanos := rfl

@[simp] theorem nanos_since (instant earlier : Instant) :
    (instant.since earlier).nanos = instant.nanos - earlier.nanos := rfl

end Instant

end Coedit
