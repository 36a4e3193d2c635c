import DeferredJobs.Decimal.Numeral
import DeferredJobs.Decimal.Binary64

/-!
# The shortest decimal that reads back

The reals that round to a magnitude form an interval: half the spacing on either side, a quarter
below a power of two, with the ends included exactly when the mantissa is even. Among the
decimals in it the one with the fewest digits is chosen, of those the nearest, and of two
equally near the even one.

For each number of digits only the two neighbours of the value on that decimal grid have to be
tried: if any point of the grid lies in the interval, one of these does.
-/

namespace DeferredJobs.Decimal

/-- The number digits * 10^exponent. -/
structure Scientific where
  digits : Nat
  exponent : Int
  deriving DecidableEq

namespace Magnitude

/-- Below a power of two the spacing is half of that above it. -/
def narrowBelow (m : Magnitude) : Bool :=
  m.mantissa == perBinade && 0 < m.shift

/-- The ends of the interval that rounds to a magnitude, in quarters of a unit. -/
def interval (m : Magnitude) : Nat × Nat :=
  let quarter := Nat.pow 2 m.shift
  let half := 2 * quarter
  let below := if m.narrowBelow then quarter else half
  (4 * m.units - below, 4 * m.units + half)

/-- A step of the grid 10^exponent, in quarters of a unit, as a numerator and a denominator. -/
def gridStep (exponent : Int) : Nat × Nat :=
  (Nat.pow 10 exponent.toNat * (4 * unitsPerOne), Nat.pow 10 (-exponent).toNat)

/-- Whether a decimal lies in the interval that rounds to a magnitude. -/
def readsAs (m : Magnitude) (x : Scientific) : Bool :=
  let (step, scale) := gridStep x.exponent
  let (low, high) := m.interval
  let point := x.digits * step
  if m.mantissa % 2 = 0 then low * scale ≤ point && point ≤ high * scale
  else low * scale < point && point < high * scale

/-- The nearer of the two neighbours on a grid that lie in the interval. -/
def onGrid? (m : Magnitude) (exponent : Int) : Option Scientific :=
  let (step, scale) := gridStep exponent
  let exact := 4 * m.units * scale
  let floor := exact / step
  let below : Scientific := ⟨floor, exponent⟩
  let above : Scientific := ⟨floor + 1, exponent⟩
  match m.readsAs below, m.readsAs above with
  | true, true => some ⟨roundDiv exact step, exponent⟩
  | true, false => some below
  | false, true => some above
  | false, false => none

/-- The least k with the magnitude below 10^k. Every positive magnitude is above 10^-400, so the
integer part of 10^400 times it tells. -/
def pointPlace (m : Magnitude) : Int :=
  (width (m.units * Nat.pow 10 400 / unitsPerOne) : Int) - 400

end Magnitude

/-- The same number without trailing zeros among its digits. -/
def Scientific.stripped (x : Scientific) : Scientific :=
  if h : x.digits ≠ 0 ∧ x.digits % 10 = 0 then
    Scientific.stripped ⟨x.digits / 10, x.exponent + 1⟩
  else x
termination_by x.digits
decreasing_by omega

/-- The shortest decimal of a positive magnitude. Seventeen digits always suffice; the exact value
stands behind them. -/
def Magnitude.shortest (m : Magnitude) : Scientific :=
  let place := m.pointPlace
  let found := (List.range 17).findSome? fun (n : Nat) => m.onGrid? (place - (n + 1 : Nat))
  (found.getD ⟨m.units * Nat.pow 5 1074, -1074⟩).stripped

end DeferredJobs.Decimal
