import Mathlib
/-!
# The calendar

Dates of the Gregorian calendar, counted from the first day of year 1. The number of a date
determines it, the days of the week follow the numbers, and the calendar repeats itself after four
hundred years, on the same days of the week, so whatever a date has in common with the one four
hundred years later recurs without end.
-/
namespace ProxSync.Lib

/-- Whether a year has a leap day. -/
def leap (year : ℕ) : Bool := year % 4 == 0 && (year % 100 != 0 || year % 400 == 0)

/-- The days of a month. -/
def daysIn (year month : ℕ) : ℕ :=
  if month = 2 then if leap year then 29 else 28
  else if month = 4 ∨ month = 6 ∨ month = 9 ∨ month = 11 then 30 else 31

/-- The days before a year. -/
def daysBeforeYear (year : ℕ) : ℕ :=
  (year - 1) * 365 + (year - 1) / 4 - (year - 1) / 100 + (year - 1) / 400

/-- The days of the first months of a year. -/
def daysOf (year : ℕ) : ℕ → ℕ
  | 0 => 0
  | months + 1 => daysOf year months + daysIn year (months + 1)

/-- A date. -/
@[ext] structure Date where
  year : ℕ
  month : ℕ
  day : ℕ
  year_pos : 1 ≤ year
  month_pos : 1 ≤ month
  month_le : month ≤ 12
  day_pos : 1 ≤ day
  day_le : day ≤ daysIn year month

namespace Date

/-- The number of a date. -/
def ordinal (date : Date) : ℕ :=
  daysBeforeYear date.year + daysOf date.year (date.month - 1) + date.day

/-- The day of the week, from Monday. -/
def weekday (date : Date) : ℕ := (date.ordinal + 6) % 7

end Date

variable {year month : ℕ}

/-- The days of a year come before the next one. -/
theorem daysBeforeYear_succ (positive : 1 ≤ year) :
    daysBeforeYear (year + 1) = daysBeforeYear year + daysOf year 12 := by
  have months : daysOf year 12 = if leap year then 366 else 365 := by
    simp only [daysOf, daysIn]
    cases leap year <;> rfl
  obtain ⟨before, rfl⟩ : ∃ before, year = before + 1 := ⟨year - 1, by omega⟩
  have fourth : (before + 1) / 4 = before / 4 + if (before + 1) % 4 = 0 then 1 else 0 := by
    split_ifs <;> omega
  have hundredth :
      (before + 1) / 100 = before / 100 + if (before + 1) % 100 = 0 then 1 else 0 := by
    split_ifs <;> omega
  have last : (before + 1) / 400 = before / 400 + if (before + 1) % 400 = 0 then 1 else 0 := by
    split_ifs <;> omega
  have fewer : before / 100 ≤ before / 4 := Nat.div_le_div_left (by decide) (by decide)
  rw [months, daysBeforeYear, daysBeforeYear, Nat.add_sub_cancel, Nat.add_sub_cancel, fourth,
    hundredth, last]
  have whole : (before + 1) % 400 = 0 → (before + 1) % 100 = 0 := by omega
  have quarter : (before + 1) % 100 = 0 → (before + 1) % 4 = 0 := by omega
  unfold leap
  by_cases four : (before + 1) % 4 = 0
  · by_cases hundred : (before + 1) % 100 = 0
    · by_cases all : (before + 1) % 400 = 0
      · simp only [four, hundred, all, if_true, beq_self_eq_true, Bool.or_true, Bool.and_true]
        omega
      · simp [four, hundred, all]
        omega
    · have all : (before + 1) % 400 ≠ 0 := fun all => hundred (whole all)
      simp [four, hundred, all]
      omega
  · have hundred : (before + 1) % 100 ≠ 0 := fun hundred => four (quarter hundred)
    have all : (before + 1) % 400 ≠ 0 := fun all => hundred (whole all)
    simp [four, hundred, all]
    omega

/-- A month has 28 days at least. -/
theorem daysIn_ge (year month : ℕ) : 28 ≤ daysIn year month := by
  unfold daysIn
  split_ifs <;> omega

/-- A month has 31 days at most. -/
theorem daysIn_le (year month : ℕ) : daysIn year month ≤ 31 := by
  unfold daysIn
  split_ifs <;> omega

/-- More months have more days. -/
theorem daysOf_mono {first last : ℕ} (earlier : first ≤ last) :
    daysOf year first ≤ daysOf year last := by
  induction earlier with
  | refl => exact le_rfl
  | step _ ih => exact ih.trans (Nat.le_add_right _ _)

/-- More days come before a later year. -/
theorem daysBeforeYear_mono {first last : ℕ} (positive : 1 ≤ first) (earlier : first ≤ last) :
    daysBeforeYear first ≤ daysBeforeYear last := by
  induction earlier with
  | refl => exact le_rfl
  | step further ih =>
    rw [Nat.succ_eq_add_one, daysBeforeYear_succ (positive.trans further)]
    exact ih.trans (Nat.le_add_right _ _)

namespace Date

variable {date other : Date}

/-- The days of a year up to a date are among the days of its months. -/
theorem within_year (date : Date) :
    daysOf date.year (date.month - 1) + date.day ≤ daysOf date.year 12 := by
  have months : daysOf date.year (date.month - 1 + 1) ≤ daysOf date.year 12 :=
    daysOf_mono (by have := date.month_le; omega)
  have positive := date.month_pos
  have last := date.day_le
  rw [daysOf, Nat.sub_add_cancel positive] at months
  omega

/-- A date of an earlier year has a smaller number. -/
theorem ordinal_lt_of_year (earlier : date.year < other.year) : date.ordinal < other.ordinal := by
  have years := daysBeforeYear_mono (Nat.le_add_left 1 date.year) earlier
  rw [daysBeforeYear_succ date.year_pos] at years
  have inside := date.within_year
  have positive := other.day_pos
  unfold ordinal
  omega

/-- Of two dates of a year the one of an earlier month comes first. -/
theorem ordinal_lt_of_month (same : date.year = other.year) (earlier : date.month < other.month) :
    date.ordinal < other.ordinal := by
  have months : daysOf date.year (date.month - 1 + 1) ≤ daysOf date.year (other.month - 1) :=
    daysOf_mono (by have := date.month_pos; omega)
  rw [daysOf, Nat.sub_add_cancel date.month_pos] at months
  have last := date.day_le
  have positive := other.day_pos
  unfold ordinal
  rw [← same]
  omega

/-- The number of a date determines it. -/
theorem ordinal_injective : Function.Injective ordinal := by
  intro date other equal
  have years : date.year = other.year := by
    rcases Nat.lt_trichotomy date.year other.year with earlier | same | later
    · exact absurd equal (ordinal_lt_of_year earlier).ne
    · exact same
    · exact absurd equal (ordinal_lt_of_year later).ne'
  have months : date.month = other.month := by
    rcases Nat.lt_trichotomy date.month other.month with earlier | same | later
    · exact absurd equal (ordinal_lt_of_month years earlier).ne
    · exact same
    · exact absurd equal (ordinal_lt_of_month years.symm later).ne'
  refine Date.ext years months ?_
  unfold ordinal at equal
  rw [years, months] at equal
  omega

/-! ## The date of a number -/

/-- The year of a number. -/
def yearOf (number : ℕ) : ℕ := Nat.findGreatest (fun year => daysBeforeYear year < number) number

/-- The months of its year before a number. -/
def monthsOf (number : ℕ) : ℕ :=
  Nat.findGreatest
    (fun months => daysOf (yearOf number) months < number - daysBeforeYear (yearOf number)) 11

/-- The year of a number is the one whose days it is among. -/
theorem yearOf_spec {number : ℕ} (positive : 1 ≤ number) : 1 ≤ yearOf number ∧
    daysBeforeYear (yearOf number) < number ∧ number ≤ daysBeforeYear (yearOf number + 1) := by
  have first : daysBeforeYear 1 < number := positive
  refine ⟨Nat.le_findGreatest positive first, ?_, ?_⟩
  · exact Nat.findGreatest_spec (P := fun year => daysBeforeYear year < number) positive first
  · by_contra later
    by_cases within : yearOf number + 1 ≤ number
    · exact Nat.findGreatest_is_greatest (Nat.lt_succ_self _) within (Nat.lt_of_not_le later)
    · unfold daysBeforeYear at later
      omega

/-- The month of a number is the one whose days it is among. -/
theorem monthsOf_spec {number : ℕ} (positive : 1 ≤ number) : monthsOf number ≤ 11 ∧
    daysBeforeYear (yearOf number) + daysOf (yearOf number) (monthsOf number) < number ∧
    number ≤ daysBeforeYear (yearOf number) + daysOf (yearOf number) (monthsOf number + 1) := by
  obtain ⟨years, before, after⟩ := yearOf_spec positive
  rw [daysBeforeYear_succ years] at after
  have first : daysOf (yearOf number) 0 < number - daysBeforeYear (yearOf number) := by
    show 0 < _
    omega
  have bounded : monthsOf number ≤ 11 := Nat.findGreatest_le 11
  have found : daysOf (yearOf number) (monthsOf number) <
      number - daysBeforeYear (yearOf number) :=
    Nat.findGreatest_spec (P := fun months =>
      daysOf (yearOf number) months < number - daysBeforeYear (yearOf number))
      (Nat.zero_le 11) first
  have greatest : ∀ months, monthsOf number < months → months ≤ 11 →
      ¬ daysOf (yearOf number) months < number - daysBeforeYear (yearOf number) := by
    intro months beyond within
    exact Nat.findGreatest_is_greatest (P := fun months =>
      daysOf (yearOf number) months < number - daysBeforeYear (yearOf number)) beyond within
  refine ⟨bounded, by omega, ?_⟩
  by_cases within : monthsOf number + 1 ≤ 11
  · have after := greatest (monthsOf number + 1) (Nat.lt_succ_self _) within
    omega
  · have last : monthsOf number + 1 = 12 := by omega
    rw [last]
    exact after

/-- The date of a number; there is none before the first day. -/
def ofOrdinal (number : ℕ) : Date :=
  if positive : 1 ≤ number then
    { year := yearOf number
      month := monthsOf number + 1
      day := number - daysBeforeYear (yearOf number) - daysOf (yearOf number) (monthsOf number)
      year_pos := (yearOf_spec positive).1
      month_pos := by omega
      month_le := by
        have bounded := (monthsOf_spec positive).1
        omega
      day_pos := by
        have before := (monthsOf_spec positive).2.1
        omega
      day_le := by
        obtain ⟨-, before, after⟩ := monthsOf_spec positive
        rw [daysOf] at after
        omega }
  else ⟨1, 1, 1, le_rfl, le_rfl, by omega, le_rfl, by decide⟩

/-- The date of a number has that number. -/
theorem ordinal_ofOrdinal {number : ℕ} (positive : 1 ≤ number) :
    (ofOrdinal number).ordinal = number := by
  obtain ⟨-, before, -⟩ := monthsOf_spec positive
  simp only [ofOrdinal, dif_pos positive, ordinal, Nat.add_sub_cancel]
  omega

/-- The first date has the number one. -/
theorem ordinal_pos (date : Date) : 1 ≤ date.ordinal := by
  have positive := date.day_pos
  unfold ordinal
  omega

/-- A date is the date of its number. -/
theorem ofOrdinal_ordinal (date : Date) : ofOrdinal date.ordinal = date :=
  ordinal_injective (ordinal_ofOrdinal date.ordinal_pos)

/-! ## Recurring dates -/

/-- Leap years come again after four hundred years. -/
theorem leap_add (year : ℕ) : leap (year + 400) = leap year := by
  unfold leap
  rw [show (year + 400) % 4 = year % 4 by omega, show (year + 400) % 100 = year % 100 by omega,
    show (year + 400) % 400 = year % 400 by omega]

/-- Months have the same days four hundred years later. -/
theorem daysIn_add (year month : ℕ) : daysIn (year + 400) month = daysIn year month := by
  unfold daysIn
  rw [leap_add]

/-- Some months have the same days four hundred years later. -/
theorem daysOf_add (year months : ℕ) : daysOf (year + 400) months = daysOf year months := by
  induction months with
  | zero => rfl
  | succ months ih => rw [daysOf, daysOf, ih, daysIn_add]

/-- The same day four hundred years later. -/
def later (date : Date) : Date where
  year := date.year + 400
  month := date.month
  day := date.day
  year_pos := by omega
  month_pos := date.month_pos
  month_le := date.month_le
  day_pos := date.day_pos
  day_le := (daysIn_add _ _).symm ▸ date.day_le

/-- Four hundred years are a number of weeks. -/
theorem ordinal_later (date : Date) : date.later.ordinal = date.ordinal + 7 * 20871 := by
  have positive := date.year_pos
  unfold ordinal later
  simp only [daysOf_add]
  unfold daysBeforeYear
  omega

/-- Four hundred years later is the same day of the week. -/
theorem weekday_later (date : Date) : date.later.weekday = date.weekday := by
  unfold weekday
  rw [ordinal_later]
  omega

/-- Dates of one kind: a day of a month of some length, or a day of the week in a month. -/
inductive Kind
  | monthDay (month day length : ℕ)
  | monthWeekday (month weekday : ℕ)

/-- Whether a date is of a kind. -/
def Kind.Holds : Kind → Date → Prop
  | .monthDay month day length, date =>
    date.month = month ∧ date.day = day ∧ daysIn date.year date.month = length
  | .monthWeekday month weekday, date => date.month = month ∧ date.weekday = weekday

/-- A kind of days comes again after four hundred years. -/
theorem Kind.holds_later {kind : Kind} (holds : kind.Holds date) : kind.Holds date.later := by
  cases kind with
  | monthDay month day length =>
    obtain ⟨named, counted, long⟩ := holds
    exact ⟨named, counted, (daysIn_add _ _).trans long⟩
  | monthWeekday month weekday => exact ⟨holds.1, (weekday_later date).trans holds.2⟩

/-- A kind that has a date has one after every number. -/
theorem Kind.recurs {kind : Kind} (holds : kind.Holds date) (number : ℕ) :
    ∃ other, kind.Holds other ∧ number ≤ other.ordinal := by
  induction number with
  | zero => exact ⟨date, holds, Nat.zero_le _⟩
  | succ number ih =>
    obtain ⟨other, same, after⟩ := ih
    refine ⟨other.later, Kind.holds_later same, ?_⟩
    rw [ordinal_later]
    omega

/-- Every day of the week is in every month. -/
theorem exists_monthWeekday {month weekday : ℕ} (positive : 1 ≤ month) (bounded : month ≤ 12)
    (small : weekday < 7) : ∃ date, (Kind.monthWeekday month weekday).Holds date := by
  have days := daysIn_ge 1 month
  obtain ⟨shift, short, same⟩ : ∃ shift < 7,
      (daysBeforeYear 1 + daysOf 1 (month - 1) + (1 + shift) + 6) % 7 = weekday :=
    ⟨(weekday + 7 * (daysBeforeYear 1 + daysOf 1 (month - 1) + 7) -
      (daysBeforeYear 1 + daysOf 1 (month - 1) + 7)) % 7, by omega, by omega⟩
  exact ⟨⟨1, month, 1 + shift, le_rfl, positive, bounded, by omega, by omega⟩, rfl, same⟩

end Date

end ProxSync.Lib
