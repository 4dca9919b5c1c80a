import Mathlib

/-!
# Instants and the civil calendar

An instant is a count of microseconds since the first day of the proleptic
Gregorian calendar, so comparisons and `timedelta` arithmetic are integer
arithmetic.  The civil fields of an instant are computed from its day number, and
back, by the usual 400-year cycle.
-/

namespace MultiAcademy.Lib

/-- Microseconds since 0001-01-01T00:00:00 UTC. -/
abbrev Time := ℤ

namespace Time

def seconds (n : ℤ) : Time := n * 1000000
def hours (n : ℤ) : Time := n * 3600000000
def days (n : ℤ) : Time := n * 86400000000

end Time

/-- The civil fields of an instant; `micros` is the time of day. -/
structure Civil where
  year : ℕ
  month : ℕ
  day : ℕ
  micros : ℕ
  deriving DecidableEq

def isLeap (year : ℕ) : Bool := year % 4 = 0 && (year % 100 ≠ 0 || year % 400 = 0)

/-- The number of days of a month, `calendar.monthrange(year, month)[1]`. -/
def daysInMonth (year month : ℕ) : ℕ :=
  match month with
  | 2 => if isLeap year then 29 else 28
  | 4 | 6 | 9 | 11 => 30
  | _ => 31

/-- Days of the year before the first of a month. -/
def daysBeforeMonth (year month : ℕ) : ℕ :=
  ((List.range (month - 1)).map fun m => daysInMonth year (m + 1)).sum

/-- Days before the first of January of a year. -/
def daysBeforeYear (year : ℕ) : ℕ :=
  let y := year - 1
  y * 365 + y / 4 - y / 100 + y / 400

/-- The year of a day number counted from zero, and the day within that year. -/
def yearOfDay (n : ℕ) : ℕ × ℕ :=
  let n400 := n / 146097
  let r400 := n % 146097
  let n100 := r400 / 36524
  let r100 := r400 % 36524
  let n4 := r100 / 1461
  let r4 := r100 % 1461
  let n1 := r4 / 365
  let r1 := r4 % 365
  let year := n400 * 400 + n100 * 100 + n4 * 4 + n1 + 1
  -- The last day of a leap cycle is the 366th day of the year before.
  if n1 = 4 ∨ n100 = 4 then (year - 1, 365) else (year, r1)

/-- The month of a day within a year, counted from zero, and the day of that month. -/
def monthOfDay (year n : ℕ) : ℕ × ℕ :=
  let month := ((List.range 12).filter fun m => daysBeforeMonth year (m + 1) ≤ n).length
  (month, n - daysBeforeMonth year month + 1)

namespace Civil

def ofTime (t : Time) : Civil :=
  let n := t.toNat / 86400000000
  let (year, dayOfYear) := yearOfDay n
  let (month, day) := monthOfDay year dayOfYear
  { year, month, day, micros := t.toNat % 86400000000 }

def toTime (c : Civil) : Time :=
  ((daysBeforeYear c.year + daysBeforeMonth c.year c.month + (c.day - 1)) * 86400000000
    + c.micros : ℕ)

end Civil

example : (Civil.mk 2028 2 29 0).toTime + Time.days 1 = (Civil.mk 2028 3 1 0).toTime := by decide

end MultiAcademy.Lib
