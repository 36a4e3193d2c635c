/-!
# Dates

The Gregorian calendar, extended to all years. Days are counted from the first day of the year
0, so that `daysBeforeYear 0 = 0`; `Date.dayNumber` and `Date.ofDayNumber` go between a date and
that count.
-/

namespace DeferredJobs

structure Date where
  year : Int
  /-- From 1 to 12. -/
  month : Nat
  /-- From 1. -/
  day : Nat
  deriving DecidableEq

namespace Date

def isLeapYear (year : Int) : Bool :=
  year % 4 == 0 && (year % 100 != 0 || year % 400 == 0)

/-- The lengths of the months of a year. -/
def monthLengths (year : Int) : List Nat :=
  [31, if isLeapYear year then 29 else 28, 31, 30, 31, 30, 31, 31, 30, 31, 30, 31]

/-- The years before count 365 days each, and one more for every leap year among them. -/
def daysBeforeYear (year : Int) : Int :=
  365 * year + (year + 3) / 4 - (year + 99) / 100 + (year + 399) / 400

def isValid (date : Date) : Bool :=
  1 ≤ date.month && 1 ≤ date.day &&
    ((monthLengths date.year)[date.month - 1]?).any (date.day ≤ ·)

def dayNumber (date : Date) : Int :=
  let monthsBefore := (monthLengths date.year).take (date.month - 1)
  daysBeforeYear date.year + monthsBefore.foldl (· + ·) (date.day - 1)

/-- The year of a day: four hundred years have 146097 days, which tells it up to one. -/
def yearOfDay (n : Int) : Int :=
  let year := n * 400 / 146097
  if n < daysBeforeYear year then year - 1
  else if daysBeforeYear (year + 1) ≤ n then year + 1
  else year

/-- Month and day of the `n`-th day, counted from 0, after the start of a month. -/
def monthAndDay (month : Nat) : List Nat → Nat → Nat × Nat
  | [], n => (month, n + 1)
  | length :: rest, n =>
    if n < length then (month, n + 1) else monthAndDay (month + 1) rest (n - length)

def ofDayNumber (n : Int) : Date :=
  let year := yearOfDay n
  let (month, day) := monthAndDay 1 (monthLengths year) (n - daysBeforeYear year).toNat
  ⟨year, month, day⟩

/-- The day that instants are counted from. -/
def epoch : Date := ⟨1970, 1, 1⟩

end Date

end DeferredJobs
