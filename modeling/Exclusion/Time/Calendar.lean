/-
# Exclusion.Time.Calendar -- days and dates of the Gregorian calendar

The calendar goes on without end in both directions; the year before year one is year zero.  Days are
counted from the first of January 1970.  Years are taken to begin in March, so that a leap day is the
last day of its year.
-/
namespace Exclusion.Time

set_option autoImplicit false

structure Date where
  year : Int
  month : Nat
  day : Nat
  deriving DecidableEq, Repr

/-- The year has a 29th of February. -/
def isLeapYear (year : Int) : Bool :=
  year % 4 == 0 && (year % 100 != 0 || year % 400 == 0)

def daysInMonth (year : Int) (month : Nat) : Nat :=
  if month = 2 then (if isLeapYear year then 29 else 28)
  else if month = 4 ∨ month = 6 ∨ month = 9 ∨ month = 11 then 30
  else 31

def Date.isValid (d : Date) : Bool :=
  1 ≤ d.month && d.month ≤ 12 && 1 ≤ d.day && d.day ≤ daysInMonth d.year d.month

/-- The days from the first of January 1970 to a date. -/
def Date.toDays (d : Date) : Int :=
  let year := if d.month ≤ 2 then d.year - 1 else d.year
  let month := if d.month ≤ 2 then d.month + 9 else d.month - 3
  let era := year / 400
  let yearOfEra := year - 400 * era
  let dayOfYear : Int := (153 * month + 2) / 5 + d.day - 1
  146097 * era + 365 * yearOfEra + yearOfEra / 4 - yearOfEra / 100 + dayOfYear - 719468

/-- The date so many days after the first of January 1970. -/
def Date.ofDays (days : Int) : Date :=
  let shifted := days + 719468
  let era := shifted / 146097
  let dayOfEra := shifted - 146097 * era
  let yearOfEra := (dayOfEra - dayOfEra / 1460 + dayOfEra / 36524 - dayOfEra / 146096) / 365
  let dayOfYear := dayOfEra - (365 * yearOfEra + yearOfEra / 4 - yearOfEra / 100)
  let month := (5 * dayOfYear + 2) / 153
  let day := dayOfYear - (153 * month + 2) / 5 + 1
  let year := yearOfEra + 400 * era
  if month < 10 then ⟨year, month.toNat + 3, day.toNat⟩ else ⟨year + 1, month.toNat - 9, day.toNat⟩

/-! ## Examples -/

example : (Date.mk 1970 1 1).toDays = 0 := by decide

example : Date.ofDays (-1) = ⟨1969, 12, 31⟩ := by decide

example : Date.ofDays (Date.mk 2024 2 29).toDays = ⟨2024, 2, 29⟩ := by decide

end Exclusion.Time
