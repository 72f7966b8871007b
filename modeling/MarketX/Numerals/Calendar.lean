/-
Module: MarketX.Numerals.Calendar
Purpose: The proleptic Gregorian calendar: days are counted from 1 January
  1970, months from January of the year 0, in milliseconds and without leap
  seconds, and a day of the month may be beyond the end of the month.
Trusted boundary: follows the language definition (`MonthFromTime`,
  `DateFromTime`, `MakeDay`, `setMonth`, `setFullYear`), save that there is no
  first and no last date, and that a time zone is one offset for all times
Main exports: isLeap, firstDay, daysInMonth, monthOfDay
-/
import Mathlib.Data.Int.ConditionallyCompleteOrder
import Mathlib.Data.Int.SuccPred
import Mathlib.Tactic.LinearCombination

namespace Numerals.Calendar

/-! ### Years -/

def isLeap (year : ℤ) : Bool := year % 4 = 0 ∧ (year % 100 ≠ 0 ∨ year % 400 = 0)

/-- The first day of a year. -/
def dayFromYear (year : ℤ) : ℤ := 365 * (year - 1970) + (year - 1969) / 4 - (year - 1901) / 100 +
    (year - 1601) / 400

def daysInYear (year : ℤ) : ℤ := if isLeap year then 366 else 365

theorem dayFromYear_succ (year : ℤ) :
    dayFromYear (year + 1) = dayFromYear year + daysInYear year := by
  unfold dayFromYear daysInYear isLeap
  grind

/-- Four hundred years have 146097 days, and no year begins far from where
the mean length puts it. -/
theorem dayFromYear_near (year : ℤ) :
    146097 * (year - 1970) - 600 ≤ 400 * dayFromYear year ∧
      400 * dayFromYear year ≤ 146097 * (year - 1970) + 600 := by
  unfold dayFromYear
  omega

/-- The year in which a day lies: the one that the mean length tells, or one
beside it. -/
def yearFromDay (day : ℤ) : ℤ :=
  let guess := 1970 + 400 * day / 146097
  if day < dayFromYear guess then guess - 1
  else if day < dayFromYear (guess + 1) then guess
  else guess + 1

theorem dayFromYear_yearFromDay (day : ℤ) :
    dayFromYear (yearFromDay day) ≤ day ∧ day < dayFromYear (yearFromDay day + 1) := by
  unfold yearFromDay
  dsimp only
  generalize guessed : 400 * day / 146097 = years
  split
  next before =>
    have near := dayFromYear_near (1970 + years - 1)
    rw [Int.sub_add_cancel]
    exact ⟨by omega, before⟩
  next notBefore =>
    split
    next within => exact ⟨not_lt.mp notBefore, within⟩
    next beyond =>
      have near := dayFromYear_near (1970 + years + 1 + 1)
      exact ⟨not_lt.mp beyond, by omega⟩

/-! ### Months -/

/-- The months of a year have so many days. -/
def monthLengths (leap : Bool) : List ℤ :=
  [31, if leap then 29 else 28, 31, 30, 31, 30, 31, 31, 30, 31, 30, 31]

/-- The days of a year before its month of an index. -/
def daysBefore (leap : Bool) (month : ℕ) : ℤ :=
  ((monthLengths leap).take month).sum

theorem daysBefore_succ (leap : Bool) {month : ℕ} (small : month < 12) :
    daysBefore leap (month + 1) = daysBefore leap month + (monthLengths leap).getD month 0 := by
  have all : ∀ leap, ∀ month < 12, daysBefore leap (month + 1) =
      daysBefore leap month + (monthLengths leap).getD month 0 := by decide
  exact all leap month small

/-- The month of a year in which a day of the year lies. -/
def monthInYear (leap : Bool) (dayInYear : ℤ) : ℕ :=
  (List.range 12).findIdx fun month => dayInYear < daysBefore leap (month + 1)

theorem daysBefore_monthInYear (leap : Bool) {dayInYear : ℤ}
    (nonneg : 0 ≤ dayInYear) (within : dayInYear < if leap then 366 else 365) :
    monthInYear leap dayInYear < 12 ∧ daysBefore leap (monthInYear leap dayInYear) ≤ dayInYear ∧
        dayInYear < daysBefore leap (monthInYear leap dayInYear + 1) := by
  have last : daysBefore leap 12 = if leap then 366 else 365 := by
    cases leap <;> rfl
  unfold monthInYear
  have found : (List.range 12).findIdx (fun month => dayInYear < daysBefore leap (month + 1)) <
        (List.range 12).length := List.findIdx_lt_length_of_exists
      ⟨11, by decide, decide_eq_true (last ▸ within)⟩
  have here := List.findIdx_getElem (w := found)
  simp only [List.getElem_range] at here
  refine ⟨by simpa using found, ?_, of_decide_eq_true here⟩
  cases first : (List.range 12).findIdx fun month => dayInYear < daysBefore leap (month + 1) with
  | zero => exact nonneg
  | succ month =>
    have notYet := List.not_of_lt_findIdx (i := month) (by rw [first]; exact Nat.lt_succ_self month)
    simp_all

/-- Months are counted through the years. -/
def monthIndex (year : ℤ) (month : ℤ) : ℤ := 12 * year + month

/-- The first day of a month. -/
def firstDay (month : ℤ) : ℤ := dayFromYear (month / 12) +
    daysBefore (isLeap (month / 12)) (month % 12).toNat

def daysInMonth (month : ℤ) : ℤ :=
  (monthLengths (isLeap (month / 12))).getD (month % 12).toNat 0

theorem firstDay_succ (month : ℤ) :
    firstDay (month + 1) = firstDay month + daysInMonth month := by
  unfold firstDay daysInMonth
  have whole : ∀ leap, daysBefore leap 12 = if leap then 366 else 365 := by decide
  have small : (month % 12).toNat < 12 := by omega
  have step := daysBefore_succ (isLeap (month / 12)) small
  by_cases december : month % 12 = 11
  · have year : (month + 1) / 12 = month / 12 + 1 := by omega
    have january : ((month + 1) % 12).toNat = 0 := by omega
    have twelfth : (month % 12).toNat = 11 := by omega
    rw [twelfth] at step ⊢
    rw [year, january, dayFromYear_succ, daysInYear,
      add_assoc (dayFromYear _) (daysBefore _ 11), ← step, whole]
    exact add_zero _
  · grind

theorem firstDay_monthIndex (year : ℤ) {month : ℕ} (small : month < 12) :
    firstDay (monthIndex year month) = dayFromYear year + daysBefore (isLeap year) month ∧
      firstDay (monthIndex year month + 1) =
        dayFromYear year + daysBefore (isLeap year) (month + 1) := by
  rw [firstDay_succ, daysBefore_succ _ small, ← add_assoc]
  grind [firstDay, daysInMonth, monthIndex]

theorem daysInMonth_cases (month : ℤ) :
    28 ≤ daysInMonth month ∧ daysInMonth month ≤ 31 := by
  have small : (month % 12).toNat < 12 := by omega
  have all : ∀ leap, ∀ index < 12, 28 ≤ (monthLengths leap).getD index 0 ∧
        (monthLengths leap).getD index 0 ≤ 31 := by decide
  exact all _ _ small

theorem firstDay_strictMono : StrictMono firstDay := strictMono_of_lt_add_one fun month _ => by
    rw [firstDay_succ]
    have := daysInMonth_cases month
    omega

/-- The month in which a day lies. -/
def monthOfDay (day : ℤ) : ℤ :=
  let year := yearFromDay day
  monthIndex year (monthInYear (isLeap year) (day - dayFromYear year))

theorem firstDay_monthOfDay (day : ℤ) :
    firstDay (monthOfDay day) ≤ day ∧ day < firstDay (monthOfDay day + 1) := by
  have year := dayFromYear_yearFromDay day
  rw [dayFromYear_succ, daysInYear] at year
  grind [daysBefore_monthInYear, firstDay_monthIndex, monthOfDay]

/-- A day lies in the month that begins on it or before it, and ends after
it. -/
theorem monthOfDay_eq_iff {day month : ℤ} :
    monthOfDay day = month ↔ firstDay month ≤ day ∧ day < firstDay (month + 1) := by
  have lies := firstDay_monthOfDay day
  constructor
  · rintro rfl
    exact lies
  · rintro ⟨begun, ends⟩
    have notLater := firstDay_strictMono.lt_iff_lt.mp (lies.1.trans_lt ends)
    have notEarlier := firstDay_strictMono.lt_iff_lt.mp (begun.trans_lt lies.2)
    omega

theorem monthOfDay_mono : Monotone monthOfDay := by
  intro day later le
  have begun := (firstDay_monthOfDay day).1
  have ends := (firstDay_monthOfDay later).2
  have below := firstDay_strictMono.lt_iff_lt.mp ((begun.trans le).trans_lt ends)
  exact Int.lt_add_one_iff.mp below

/-- The day of the month, from 1. -/
def dateOfDay (day : ℤ) : ℤ := day - firstDay (monthOfDay day) + 1

theorem dateOfDay_cases (day : ℤ) :
    1 ≤ dateOfDay day ∧ dateOfDay day ≤ daysInMonth (monthOfDay day) := by
  have lies := firstDay_monthOfDay day
  rw [firstDay_succ] at lies
  unfold dateOfDay
  omega

/-- `MakeDay`: a day that is counted from the beginning of a month, and may be
beyond its end. -/
def makeDay (month date : ℤ) : ℤ := firstDay month + date - 1

section

variable {month date : ℤ}

theorem monthOfDay_makeDay (positive : 1 ≤ date) (within : date ≤ daysInMonth month) :
    monthOfDay (makeDay month date) = month := by
  rw [monthOfDay_eq_iff, firstDay_succ, makeDay]
  omega

/-- What is beyond the end of a month is carried into the next one. -/
theorem monthOfDay_makeDay_carried (beyond : daysInMonth month < date)
    (date_le : date ≤ 31) : monthOfDay (makeDay month date) = month + 1 := by
  rw [monthOfDay_eq_iff, firstDay_succ (month + 1), firstDay_succ, makeDay]
  have := daysInMonth_cases month
  have := daysInMonth_cases (month + 1)
  omega

theorem dateOfDay_makeDay (positive : 1 ≤ date) (within : date ≤ daysInMonth month) :
    dateOfDay (makeDay month date) = date := by
  rw [dateOfDay, monthOfDay_makeDay positive within, makeDay]
  omega

end

/-! ### Times -/

def msPerDay : ℤ := 86400000

/-- The local time is so many milliseconds ahead. -/
structure Zone where
  offset : ℤ

namespace Zone

variable (zone : Zone) (time : ℤ)

def day : ℤ := (time + zone.offset) / msPerDay

def timeWithinDay : ℤ := (time + zone.offset) % msPerDay

/-- The month of a time, counted through the years. -/
def month : ℤ := monthOfDay (zone.day time)

def getFullYear : ℤ := zone.month time / 12

def getMonth : ℤ := zone.month time % 12

def getDate : ℤ := dateOfDay (zone.day time)

def makeDate (day timeWithinDay : ℤ) : ℤ := day * msPerDay + timeWithinDay - zone.offset

/-- A month beyond the end of the year, or before its beginning, is one of
another year. -/
def setMonth (month : ℤ) : ℤ := zone.makeDate (makeDay (monthIndex (zone.getFullYear time) month)
    (zone.getDate time)) (zone.timeWithinDay time)

def setFullYear (year : ℤ) : ℤ := zone.makeDate (makeDay (monthIndex year (zone.getMonth time))
    (zone.getDate time)) (zone.timeWithinDay time)

/-- The same day of the month and time of day, so many months later. -/
def later (months : ℤ) : ℤ := zone.makeDate (makeDay (zone.month time + months) (zone.getDate time))
    (zone.timeWithinDay time)

theorem setMonth_add (months : ℤ) :
    zone.setMonth time (zone.getMonth time + months) =
      zone.later time months := by grind [monthIndex, getFullYear, getMonth, setMonth, later]

theorem setFullYear_add (years : ℤ) :
    zone.setFullYear time (zone.getFullYear time + years) = zone.later time (12 * years) := by
  grind [monthIndex, getFullYear, getMonth, setFullYear, later]

theorem later_eq (months : ℤ) :
    zone.later time months = time +
      (firstDay (zone.month time + months) - firstDay (zone.month time)) *
        msPerDay := by
  show (firstDay (zone.month time + months) +
    (zone.day time - firstDay (zone.month time) + 1) - 1) * msPerDay +
      (time + zone.offset) % msPerDay - zone.offset = _
  have whole : zone.day time * msPerDay + (time + zone.offset) % msPerDay =
      time + zone.offset := Int.ediv_mul_add_emod _ _
  linear_combination whole

theorem day_later (months : ℤ) :
    zone.day (zone.later time months) = makeDay (zone.month time + months) (zone.getDate time) := by
  simp [Int.emod_nonneg, msPerDay, Int.emod_lt_of_pos, later, makeDate,
    timeWithinDay, day, Int.mul_comm, Int.mul_add_ediv_left, Int.ediv_eq_zero_of_lt]

theorem timeWithinDay_later (months : ℤ) :
    zone.timeWithinDay (zone.later time months) = zone.timeWithinDay time := by
  simp [later_eq, timeWithinDay, add_right_comm]

variable {zone time} {months : ℤ}

theorem getDate_cases : 1 ≤ zone.getDate time ∧ zone.getDate time ≤ 31 :=
  have date := dateOfDay_cases (zone.day time)
  ⟨date.1, date.2.trans (daysInMonth_cases _).2⟩

/-- The day of the month is one of the month so many months later. -/
theorem month_later (within : zone.getDate time ≤ daysInMonth (zone.month time + months)) :
    zone.month (zone.later time months) = zone.month time + months := by
  rw [month, day_later, monthOfDay_makeDay getDate_cases.1 within]

theorem month_later_carried (beyond : daysInMonth (zone.month time + months) < zone.getDate time) :
    zone.month (zone.later time months) = zone.month time + months + 1 := by
  rw [month, day_later, monthOfDay_makeDay_carried beyond getDate_cases.2]

theorem getDate_later (within : zone.getDate time ≤ daysInMonth (zone.month time + months)) :
    zone.getDate (zone.later time months) = zone.getDate time := by
  rw [getDate, day_later, dateOfDay_makeDay getDate_cases.1 within]

variable (zone) in
theorem month_mono : Monotone zone.month := by
  intro time other le
  refine monthOfDay_mono (Int.ediv_le_ediv (by decide) ?_)
  exact Int.add_le_add_right le zone.offset

theorem later_le_later {other : ℤ}
    (within : zone.getDate time ≤ daysInMonth (zone.month time + months))
    (le : time ≤ other) : zone.later time months ≤ zone.later other months := by
  rcases (month_mono zone le).eq_or_lt with same | after
  · rw [later_eq, later_eq, same]
    exact Int.add_le_add_right le _
  · by_contra before
    have months_le := month_mono zone (not_le.mp before).le
    grind [month_later, month_later_carried]

end Zone

end Numerals.Calendar
