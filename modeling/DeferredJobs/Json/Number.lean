import DeferredJobs.Json.Basic
import DeferredJobs.Decimal.Numeral
import DeferredJobs.Decimal.Shortest

/-!
# Number literals

A literal has an optional minus, a whole part without leading zeros, and optionally a fraction
and an exponent. Without fraction and exponent it is an integer if one of -2^63 to 2^64-1 is
meant; `-0` and all else is a double.

A double is read from the leading digits that make a number below 2^64 and a power of ten: the
number is rounded to a double and then multiplied or divided by rounded powers of ten. A double
is written with the fewest digits that round to it, see `NumberLiteral.ofDouble` for the layout.
-/

namespace DeferredJobs

open Decimal

/-- The power of ten after the letter e. -/
structure ExponentPart where
  negative : Bool
  digits : List Digit
  deriving DecidableEq

structure NumberLiteral where
  negative : Bool
  whole : List Digit
  fraction : Option (List Digit)
  exponent : Option ExponentPart
  deriving DecidableEq

namespace NumberLiteral

/-! ## The text of a literal -/

def digitChars (digits : List Digit) : List Char :=
  digits.map Digit.toChar

/-- The written form: a small e, and a sign always before the power of ten. -/
def text (l : NumberLiteral) : List Char :=
  (if l.negative then ['-'] else []) ++ digitChars l.whole ++
    (match l.fraction with
      | none => []
      | some digits => '.' :: digitChars digits) ++
    (match l.exponent with
      | none => []
      | some e => 'e' :: (if e.negative then '-' else '+') :: digitChars e.digits)

/-- At least one digit, and what follows. -/
def someDigits? (text : List Char) : Option (List Digit × List Char) :=
  match leadingDigits text with
  | ([], _) => none
  | found => some found

/-- A whole part does not lead with a zero unless that is all of it. -/
def wellFormedWhole : List Digit → Bool
  | [] => false
  | [_] => true
  | d :: _ => d.val != 0

def readFraction? : List Char → Option (Option (List Digit) × List Char)
  | '.' :: rest => (someDigits? rest).map fun (digits, rest) => (some digits, rest)
  | text => some (none, text)

def readSign : List Char → Bool × List Char
  | '-' :: rest => (true, rest)
  | '+' :: rest => (false, rest)
  | text => (false, text)

def readExponent? : List Char → Option (Option ExponentPart × List Char)
  | [] => some (none, [])
  | c :: rest =>
    if c = 'e' ∨ c = 'E' then
      let (negative, rest) := readSign rest
      (someDigits? rest).map fun (digits, rest) => (some ⟨negative, digits⟩, rest)
    else some (none, c :: rest)

/-- Reads a text that is one literal from end to end. -/
def ofText? (text : List Char) : Option NumberLiteral := do
  let (negative, text) := match text with
    | '-' :: rest => (true, rest)
    | _ => (false, text)
  let (whole, text) ← someDigits? text
  guard (wellFormedWhole whole)
  let (fraction, text) ← readFraction? text
  let (exponent, text) ← readExponent? text
  guard text.isEmpty
  return ⟨negative, whole, fraction, exponent⟩

/-! ## The value of a literal -/

/-- Takes digits while the number stays below 2^64. -/
def absorb (start : Nat) : List Digit → Nat × List Digit
  | [] => (start, [])
  | d :: rest =>
    let next := 10 * start + d.val
    if next < 0x10000000000000000 then absorb next rest else (start, d :: rest)

/-- A number below 2^64 and the power of ten that scales it. Whole digits that do not fit raise the
power, fraction digits that fit lower it, and other fraction digits are dropped. -/
def significand (l : NumberLiteral) : Nat × Int :=
  let fraction := l.fraction.getD []
  let (n, wholeLeft) := absorb 0 l.whole
  let (n, fractionLeft) := absorb n fraction
  let power : Int := match l.exponent with
    | none => 0
    | some e => if e.negative then -(Decimal.value e.digits : Int) else Decimal.value e.digits
  (n, wholeLeft.length - (fraction.length - fractionLeft.length : Nat) + power)

/-- The nearest double to a power of ten. -/
def powerOfTen? (n : Nat) : Option Magnitude :=
  Magnitude.ofNat? (Nat.pow 10 n)

/-- Division by 10^308 so many times, or until nothing is left. -/
def shrink? (m : Magnitude) : Nat → Option Magnitude
  | 0 => some m
  | steps + 1 =>
    if m.isZero then some m
    else do
      let power ← powerOfTen? 308
      shrink? (← m.div? power) steps

/-- Division by a power of ten, the part beyond 10^308 first and in steps of that size. -/
def divideByPower? (m : Magnitude) (n : Nat) : Option Magnitude := do
  let steps := (n - 1) / 308
  let m ← shrink? m steps
  if m.isZero then some m else powerOfTen? (n - 308 * steps) >>= m.div?

/-- Multiplication by a power of ten; none where the range ends. -/
def multiplyByPower? (m : Magnitude) (n : Nat) : Option Magnitude :=
  if n ≤ 308 then powerOfTen? n >>= m.mul?
  else if m.isZero then some m
  else none

def magnitude? (l : NumberLiteral) : Option Magnitude := do
  let (n, power) := l.significand
  let m ← Magnitude.ofNat? n
  if 0 ≤ power then multiplyByPower? m power.toNat else divideByPower? m (-power).toNat

/-- The integer a literal denotes, where it is written as one and is kept exactly. -/
def integer? (l : NumberLiteral) : Option Integer :=
  match l.fraction, l.exponent with
  | none, none =>
    let n := Decimal.value l.whole
    if l.negative then
      if n = 0 then none else Integer.ofInt? (-(n : Int))
    else Integer.ofInt? n
  | _, _ => none

/-- What a literal denotes; none if it is too large for a double. -/
def value? (l : NumberLiteral) : Option Json :=
  match l.integer? with
  | some n => some (.int n)
  | none => l.magnitude?.map fun m => .double ⟨l.negative, m⟩

/-! ## The literal of a value -/

def ofInteger (n : Integer) : NumberLiteral :=
  ⟨n.value < 0, numeral n.value.natAbs, none, none⟩

/-- With digits d₁…dₙ and the point before the first digit moved right by `place`: positional
for places above -5 and up to 16, always with a fraction, and otherwise with one digit before
the point. -/
def ofDigits (negative : Bool) (digits : List Digit) (place : Int) : NumberLiteral :=
  if 0 < place ∧ place ≤ 16 then
    let place := place.toNat
    let fraction := digits.drop place
    ⟨negative, digits.take place ++ List.replicate (place - digits.length) Digit.zero,
      some (if fraction.isEmpty then [Digit.zero] else fraction), none⟩
  else if -5 < place ∧ place ≤ 0 then
    ⟨negative, [Digit.zero], some (List.replicate (-place).toNat Digit.zero ++ digits), none⟩
  else
    let fraction := digits.drop 1
    ⟨negative, digits.take 1, if fraction.isEmpty then none else some fraction,
      some ⟨place < 1, numeral (place - 1).natAbs⟩⟩

/-- The shortest literal of a double. Zero is `0.0` or `-0.0`. -/
def ofDouble (x : Binary64) : NumberLiteral :=
  if x.magnitude.isZero then ⟨x.negative, [Digit.zero], some [Digit.zero], none⟩
  else
    let shortest := x.magnitude.shortest
    let digits := numeral shortest.digits
    ofDigits x.negative digits (digits.length + shortest.exponent)

end NumberLiteral

end DeferredJobs
