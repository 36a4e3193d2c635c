import DeferredJobs.Decimal.Numeral
import DeferredJobs.Text.Blank
import DeferredJobs.Text.Case
import DeferredJobs.Time.Calendar
import DeferredJobs.Time.Instant

/-!
# Timestamps

A timestamp is a date, a time of day and an offset from universal time:
`2024-02-29T23:59:60.5+01:00`. Reading is lenient about blanks before numbers and separators,
about leading zeros, and about the letter case of `T`, `Z` and `UTC`; a space may stand for the
`T`, and blanks for the colon of the offset. A second 60 is a leap second. Writing is strict:
universal time, and the fewest of 0, 3, 6 and 9 digits of the second's fraction that lose
nothing.
-/

namespace DeferredJobs.Timestamp

open Decimal

/-! ## Reading -/

/-- Reads from the front of a text. -/
abbrev Reader := StateT (List Char) Option

def blanks : Reader Unit :=
  modify Text.trimStart

/-- The next character, if it satisfies a test. -/
def charThat (test : Char → Bool) : Reader Char := fun text =>
  match text with
  | [] => none
  | c :: rest => if test c then some (c, rest) else none

/-- At most `limit` digits, and what follows. -/
def digitsUpTo : Nat → List Char → List Digit × List Char
  | 0, text => ([], text)
  | _, [] => ([], [])
  | limit + 1, c :: rest =>
    match Digit.ofChar? c with
    | none => ([], c :: rest)
    | some d => (d :: (digitsUpTo limit rest).1, (digitsUpTo limit rest).2)

/-- A number of at least one digit and at most `limit`, as its digits. -/
def digits (limit : Nat) : Reader (List Digit) := fun text =>
  match digitsUpTo limit text with
  | ([], _) => none
  | found => some found

/-- A number of one or two digits, from `low` to `high`. -/
def twoDigitNumber (low high : Nat) : Reader Nat := do
  blanks
  let n := value (← digits 2)
  guard (low ≤ n && n ≤ high)
  return n

/-- A year of up to four digits, or with a sign and any number of them. -/
def year : Reader Int := do
  blanks
  let text ← get
  match text with
  | '-' :: rest =>
    set rest
    return -(value (← digits rest.length) : Int)
  | '+' :: rest =>
    set rest
    return (value (← digits rest.length) : Int)
  | _ => return (value (← digits 4) : Int)

def separator (c : Char) : Reader Unit := do
  blanks
  discard <| charThat (· == c)

/-- The fraction of a second in nanoseconds; digits beyond the ninth do not count. -/
def fraction : Reader Nat := do
  match ← get with
  | '.' :: rest =>
    set rest
    let ds ← digits 9
    modify fun text => (leadingDigits text).2
    return value ds * Nat.pow 10 (9 - ds.length)
  | _ => return 0

/-- Exactly two digits, without blanks before them. -/
def twoDigits (high : Nat) : Reader Nat := do
  let tens ← digits 1
  let ones ← digits 1
  let n := value (tens ++ ones)
  guard (n ≤ high)
  return n

/-- How far a local time is ahead of universal time, in seconds. The sign may also be a minus
sign. -/
def offset : Reader Int := do
  blanks
  let text ← get
  match text with
  | 'Z' :: rest | 'z' :: rest =>
    set rest
    return 0
  | _ =>
    if Text.equalIgnoringCase (text.take 3) ['u', 't', 'c'] then
      set (text.drop 3)
      return 0
    else
      let sign ← charThat fun c => c == '+' || c == '-' || c == '\u2212'
      let hours ← twoDigits 23
      modify (·.dropWhile fun c => c == ':' || Text.isBlank c)
      let minutes ← twoDigits 59
      let seconds : Int := hours * 3600 + minutes * 60
      return if sign == '+' then seconds else -seconds

/-- The years that instants lie in. -/
def inRange (year : Int) : Bool :=
  -262143 ≤ year && year ≤ 262142

def date : Reader Date := do
  let year ← year
  separator '-'
  let month ← twoDigitNumber 1 12
  separator '-'
  let day ← twoDigitNumber 1 31
  let date : Date := ⟨year, month, day⟩
  guard (date.isValid && inRange year)
  return date

/-- The second of the day and the nanosecond. A leap second goes on from the second before it. -/
def timeOfDay : Reader (Nat × Nat) := do
  let hour ← twoDigitNumber 0 23
  separator ':'
  let minute ← twoDigitNumber 0 59
  separator ':'
  let second ← twoDigitNumber 0 60
  let nanosecond ← fraction
  let minutes := hour * 60 + minute
  if second = 60 then return (minutes * 60 + 59, 1000000000 + nanosecond)
  else return (minutes * 60 + second, nanosecond)

def secondsPerDay : Int := 86400

def instant : Reader Instant := do
  let date ← date
  discard <| charThat fun c => c == 'T' || c == 't' || c == ' '
  let (second, nanosecond) ← timeOfDay
  let offset ← offset
  blanks
  let days := date.dayNumber - Date.epoch.dayNumber
  return ⟨days * secondsPerDay + second - offset, nanosecond⟩

def dateOf (t : Instant) : Date :=
  .ofDayNumber (t.seconds / secondsPerDay + Date.epoch.dayNumber)

/-- Reads a whole text; none if it is no timestamp or its instant is out of range. -/
def read? (text : String) : Option Instant := do
  let (t, rest) ← instant.run text.toList
  guard (rest.isEmpty && inRange (dateOf t).year)
  return t

/-! ## Writing -/

def digitChars (ds : List Digit) : List Char :=
  ds.map Digit.toChar

/-- A number with leading zeros up to a width. -/
def padded (width n : Nat) : List Char :=
  let ds := numeral n
  digitChars (List.replicate (width - ds.length) Digit.zero ++ ds)

/-- Four digits, and a sign where four digits do not do. -/
def writeYear (year : Int) : List Char :=
  if 0 ≤ year ∧ year ≤ 9999 then padded 4 year.toNat
  else (if year < 0 then '-' else '+') :: padded 4 year.natAbs

def writeFraction (nanosecond : Nat) : List Char :=
  if nanosecond = 0 then []
  else if nanosecond % 1000000 = 0 then '.' :: padded 3 (nanosecond / 1000000)
  else if nanosecond % 1000 = 0 then '.' :: padded 6 (nanosecond / 1000)
  else '.' :: padded 9 nanosecond

def write (t : Instant) : String :=
  let date := dateOf t
  let secondOfDay := (t.seconds % secondsPerDay).toNat
  let leap := t.nanoseconds / 1000000000
  String.ofList <|
    writeYear date.year ++ '-' :: padded 2 date.month ++ '-' :: padded 2 date.day ++
    'T' :: padded 2 (secondOfDay / 3600) ++ ':' :: padded 2 (secondOfDay / 60 % 60) ++
    ':' :: padded 2 (secondOfDay % 60 + leap) ++ writeFraction (t.nanoseconds % 1000000000) ++ ['Z']

end DeferredJobs.Timestamp
