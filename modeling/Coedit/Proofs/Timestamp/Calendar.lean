import Coedit.Timestamp
import Mathlib.Tactic.IntervalCases

/-!
# The calendar

Counting days and naming them undo each other.  An era of 400 years is split into
centuries, a century into groups of four years, and such a group into years; the short
parts come last, so that a day is found by plain division at each level.
-/

namespace Coedit.Timestamp

/-- The year in terms of the century, the group of four years, and the day in it. -/
theorem yearOfEra_eq {century group day : Nat} (century_lt : century < 4) (group_lt : group < 25)
    (day_lt : day < 1461) (short : group = 24 → day < 1460) :
    yearOfEra (36524 * century + 1461 * group + day) =
      100 * century + 4 * group + min (day / 365) 3 := by
  generalize total : 36524 * century + 1461 * group + day = dayOfEra
  have centuries : dayOfEra / 36524 = century := by omega
  have eras : dayOfEra / 146096 = 0 := by omega
  -- Groups counted as 1460 days get ahead by a day now and then.
  have groups : dayOfEra / 1460 =
      25 * century + group + (24 * century + group + day) / 1460 := by omega
  have ahead : (24 * century + group + day) / 1460 = 0 ∨
      (24 * century + group + day) / 1460 = 1 ∧ 1364 ≤ day := by omega
  rw [yearOfEra, centuries, eras, groups]
  cases ahead with
  | inl even =>
      have : dayOfEra - (25 * century + group + 0) + century - 0 =
          365 * (100 * century + 4 * group) + day := by omega
      rw [even, this]
      omega
  | inr odd =>
      have : dayOfEra - (25 * century + group + 1) + century - 0 =
          365 * (100 * century + 4 * group) + (day - 1) := by omega
      rw [odd.1, this]
      omega

/-- Every day of an era but the last lies in a century and in a group of four years. -/
theorem exists_group {dayOfEra : Nat} (within : dayOfEra < 146096) :
    ∃ century group day, century < 4 ∧ group < 25 ∧ day < 1461 ∧ (group = 24 → day < 1460) ∧
      dayOfEra = 36524 * century + 1461 * group + day := by
  refine ⟨dayOfEra / 36524, dayOfEra % 36524 / 1461, dayOfEra % 36524 % 1461, ?_⟩
  omega

/-- A day lies in its year, and a year has a 366th day only if the February that ends it
is a long one. -/
theorem yearOfEra_spec {dayOfEra : Nat} (within : dayOfEra < 146097) :
    yearOfEra dayOfEra < 400 ∧ daysBefore (yearOfEra dayOfEra) ≤ dayOfEra ∧
      dayOfEra - daysBefore (yearOfEra dayOfEra) ≤ 365 ∧
      (dayOfEra - daysBefore (yearOfEra dayOfEra) = 365 →
        isLeapYear (yearOfEra dayOfEra + 1 : Nat)) := by
  by_cases last : dayOfEra = 146096
  · subst last
    decide
  · obtain ⟨century, group, day, century_lt, group_lt, day_lt, short, rfl⟩ :=
      exists_group (by omega : dayOfEra < 146096)
    rw [yearOfEra_eq century_lt group_lt day_lt short]
    generalize shown : min (day / 365) 3 = year
    have before : daysBefore (100 * century + 4 * group + year) =
        36524 * century + 1461 * group + 365 * year := by
      have leap : (100 * century + 4 * group + year) / 4 = 25 * century + group := by omega
      have secular : (100 * century + 4 * group + year) / 100 = century := by omega
      rw [daysBefore, leap, secular]
      omega
    rw [before]
    refine ⟨by omega, by omega, by omega, ?_⟩
    intro full
    simp only [isLeapYear, Bool.and_eq_true, Bool.or_eq_true, beq_iff_eq, bne_iff_ne]
    omega

/-- The month and the day in it, for a day of a year that begins in March. -/
theorem monthFromMarch_spec {year : Int} {dayOfYear month : Nat} (within : dayOfYear ≤ 365)
    (leap : dayOfYear = 365 → isLeapYear year) (named : (5 * dayOfYear + 2) / 153 = month) :
    month ≤ 11 ∧ (153 * month + 2) / 5 ≤ dayOfYear ∧
      dayOfYear - (153 * month + 2) / 5 + 1 ≤
        daysInMonth year (if month < 10 then month + 3 else month - 9) := by
  have month_le : month ≤ 11 := by omega
  refine ⟨month_le, by omega, ?_⟩
  by_cases february : month = 11
  · subst february
    cases long : isLeapYear year with
    | true =>
        simp [daysInMonth, long]
        omega
    | false =>
        simp [daysInMonth, long]
        grind
  · have : daysInMonth year (if month < 10 then month + 3 else month - 9) =
        if month = 1 ∨ month = 3 ∨ month = 6 ∨ month = 8 then 30 else 31 := by
      interval_cases month <;> first | rfl | contradiction
    rw [this]
    split <;> omega

theorem isLeapYear_add_eras (year era : Nat) :
    isLeapYear (year + era * 400 : Nat) = isLeapYear year := by
  rw [Bool.eq_iff_iff]
  simp only [isLeapYear, Bool.and_eq_true, Bool.or_eq_true, beq_iff_eq, bne_iff_ne]
  omega

/-- The name of a day is the name of a date, and counting to that date gives the day. -/
theorem civilFromDays_spec {days year month day : Nat}
    (named : civilFromDays days = (year, month, day)) :
    (1 ≤ month ∧ month ≤ 12) ∧ (1 ≤ day ∧ day ≤ daysInMonth year month) ∧
      daysFromCivil year month day = days := by
  simp only [civilFromDays, Prod.mk.injEq] at named
  obtain ⟨rfl, rfl, rfl⟩ := named
  generalize era_eq : (days + 719468) / 146097 = era
  generalize dayOfEra_eq : (days + 719468) % 146097 = dayOfEra
  obtain ⟨year_lt, before_le, within, leap⟩ := yearOfEra_spec (by omega : dayOfEra < 146097)
  generalize yearOfEra dayOfEra = year at *
  generalize dayOfYear_eq : dayOfEra - daysBefore year = dayOfYear at *
  generalize march_eq : (5 * dayOfYear + 2) / 153 = march
  generalize month_eq : (if march < 10 then march + 3 else march - 9) = month
  generalize turn_eq : (if month ≤ 2 then 1 else 0) = turn
  have turned : march < 10 ∧ month = march + 3 ∧ turn = 0 ∨
      10 ≤ march ∧ month = march - 9 ∧ turn = 1 := by
    grind
  have long (full : dayOfYear = 365) : isLeapYear (year + era * 400 + turn : Nat) := by
    have : year + era * 400 + turn = year + 1 + era * 400 := by omega
    rw [this, isLeapYear_add_eras]
    exact leap full
  obtain ⟨march_le, first_le, day_le⟩ := monthFromMarch_spec within long march_eq
  rw [month_eq] at day_le
  refine ⟨by omega, ⟨by omega, day_le⟩, ?_⟩
  have shifted : (if month ≤ 2 then ((year + era * 400 + turn : Nat) : Int) - 1
      else ((year + era * 400 + turn : Nat) : Int)) = year + era * 400 := by
    split <;> omega
  have eras : ((year : Int) + era * 400).fdiv 400 = era := by
    rw [Int.fdiv_eq_ediv_of_nonneg _ (by omega)]
    omega
  have months : (month + 9) % 12 = march := by omega
  simp only [daysFromCivil]
  rw [shifted, eras, months, Int.add_sub_cancel]
  rw [daysBefore] at before_le dayOfYear_eq
  omega

/-- Dates of later years are later than the last date there is. -/
theorem year_le_of_days {year : Int} {month day : Nat} (month_range : 1 ≤ month ∧ month ≤ 12)
    (day_pos : 1 ≤ day) (within : daysFromCivil year month day ≤ daysFromCivil lastYear 12 31) :
    year ≤ lastYear := by
  have last : daysFromCivil lastYear 12 31 = 655 * 146097 + (142 * 365 + 35 - 1 + 305) - 719468 :=
    by decide
  have lastYear_eq : lastYear = 262142 := rfl
  rw [last, daysFromCivil] at within
  simp only [Int.fdiv_eq_ediv_of_nonneg _ (by omega : (0 : Int) ≤ 400)] at within
  rw [lastYear_eq]
  by_contra later
  generalize shifted_eq : (if month ≤ 2 then year - 1 else year) = shifted at within
  generalize era_eq : shifted / 400 = era at within
  generalize yearOfEra_eq : shifted - era * 400 = yearOfEra at within
  have shifted_le : shifted = 262142 ∧ month ≤ 2 ∨ 262143 ≤ shifted := by
    split at shifted_eq <;> omega
  have leap : yearOfEra / 100 ≤ yearOfEra / 4 := by omega
  cases shifted_le with
  | inl first =>
      have : era = 655 := by omega
      have : yearOfEra = 142 := by omega
      subst era yearOfEra
      omega
  | inr later =>
      have : era = 655 ∧ 143 ≤ yearOfEra ∨ 656 ≤ era := by omega
      omega
end Coedit.Timestamp
