/-!
# Finite double-precision numbers

A double is a sign and a magnitude. The finite magnitudes are numbered from zero in ascending
order, 2^52 of them between two powers of two, so the number alone fixes the value and every
number stands for one. Values are counted in *units* of 2^-1074, the least positive one: `units`
is exact.

`ofRatio?` is the nearest magnitude to a quotient, an exact half going to the even one, and none
where the range ends. Multiplication and division are that rounding of the exact result.
-/

namespace DeferredJobs.Decimal

/-- A finite non-negative double, by its place in ascending order. -/
structure Magnitude where
  code : Nat
  finite : code < 0x7FF0000000000000
  deriving DecidableEq

/-- The quotient rounded to the nearest natural number, an exact half to the even one. -/
def roundDiv (numerator denominator : Nat) : Nat :=
  let quotient := numerator / denominator
  let rest := numerator % denominator
  if 2 * rest < denominator then quotient
  else if 2 * rest > denominator then quotient + 1
  else if quotient % 2 = 0 then quotient else quotient + 1

namespace Magnitude

def zero : Magnitude := ⟨0, by decide⟩

def isZero (m : Magnitude) : Bool := m.code == 0

/-- How many magnitudes lie between two powers of two: 2^52. -/
def perBinade : Nat := 0x10000000000000

/-- The exponent of the spacing around a magnitude: neighbours are 2^shift units apart. -/
def shift (m : Magnitude) : Nat :=
  m.code / perBinade - 1

/-- The significant bits, at most fifty-three. -/
def mantissa (m : Magnitude) : Nat :=
  m.code - m.shift * perBinade

def units (m : Magnitude) : Nat :=
  m.mantissa * Nat.pow 2 m.shift

/-- One, counted in units. -/
def unitsPerOne : Nat := Nat.pow 2 1074

/-- The magnitude nearest to a quotient; none at or beyond 2^1024 once rounded. -/
def ofRatio? (numerator denominator : Nat) : Option Magnitude :=
  let scaled := numerator * unitsPerOne
  let shift := Nat.log2 (scaled / denominator) - 52
  let code := shift * perBinade + roundDiv scaled (denominator * Nat.pow 2 shift)
  if finite : code < 0x7FF0000000000000 then some ⟨code, finite⟩ else none

def ofNat? (n : Nat) : Option Magnitude :=
  ofRatio? n 1

def mul? (a b : Magnitude) : Option Magnitude :=
  ofRatio? (a.units * b.units) (unitsPerOne * unitsPerOne)

def div? (a b : Magnitude) : Option Magnitude :=
  ofRatio? a.units b.units

end Magnitude

/-- A finite double; the two zeros differ in their sign. -/
structure Binary64 where
  negative : Bool
  magnitude : Magnitude
  deriving DecidableEq

end DeferredJobs.Decimal
