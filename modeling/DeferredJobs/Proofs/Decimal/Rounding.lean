import Mathlib.Tactic.Linarith
import Mathlib.Tactic.Ring
import DeferredJobs.Decimal.Binary64

/-!
# How far rounding is off

A quotient is rounded on a grid whose spacing is a power of two, and the grid is chosen so that the
rounded number has fifty-three bits. So rounding is off by one in 2^53 at most, unless the quotient
lies below the normal numbers. All is said of products, without division.

* `roundDiv_near`: rounding is off by half a step.
* `Magnitude.exists_grid`: the grid on which a quotient is rounded.
* `Magnitude.near_of_ofRatio?`: the error relative to the quotient.
* `Magnitude.isSome_ofRatio?`, `Magnitude.ofRatio?_eq_none`: where the range ends.
-/

namespace DeferredJobs.Decimal

variable {numerator denominator : Nat}

theorem roundDiv_near (h : 0 < denominator) (numerator : Nat) :
    2 * (denominator * roundDiv numerator denominator) ≤ 2 * numerator + denominator ∧
      2 * numerator ≤ 2 * (denominator * roundDiv numerator denominator) + denominator := by
  have hDivision := Nat.div_add_mod numerator denominator
  have hRest := Nat.mod_lt numerator h
  unfold roundDiv
  dsimp only
  generalize numerator / denominator = quotient at *
  generalize numerator % denominator = rest at *
  have hNext : denominator * (quotient + 1) = denominator * quotient + denominator :=
    Nat.mul_succ denominator quotient
  split
  · omega
  · split
    · rw [hNext]
      omega
    · split
      · omega
      · rw [hNext]
        omega

namespace Magnitude

variable {m : Magnitude}

theorem units_eq {steps r : Nat} (hCode : m.code = steps * perBinade + r)
    (hLow : perBinade ≤ r ∨ steps = 0) (hHigh : r ≤ 2 * perBinade) :
    m.units = r * 2 ^ steps := by
  have hSize : perBinade = 4503599627370496 := rfl
  rw [hSize] at hCode hLow hHigh
  rcases Nat.lt_or_ge r 4503599627370496 with hSubnormal | hNormal
  · obtain rfl : steps = 0 := by omega
    have hShift : m.shift = 0 := by
      rw [shift, hSize]
      omega
    have hMantissa : m.mantissa = r := by
      rw [mantissa, hShift]
      omega
    rw [units, hMantissa, hShift]
    rfl
  · rcases Nat.lt_or_ge r (2 * 4503599627370496) with hInside | hEdge
    · have hShift : m.shift = steps := by
        rw [shift, hSize]
        omega
      have hMantissa : m.mantissa = r := by
        rw [mantissa, hShift, hSize]
        omega
      rw [units, hMantissa, hShift]
      rfl
    · -- Rounding up to a power of two leads to the next grid.
      obtain rfl : r = 2 * 4503599627370496 := by omega
      have hShift : m.shift = steps + 1 := by
        rw [shift, hSize]
        omega
      have hMantissa : m.mantissa = 4503599627370496 := by
        rw [mantissa, hShift, hSize]
        omega
      rw [units, hMantissa, hShift]
      show 4503599627370496 * 2 ^ (steps + 1) = _
      rw [Nat.pow_succ]
      ring

/-! ## The grid of a quotient -/

section Shift

variable {quotient steps : Nat}

/-- The shift leaves at most fifty-three bits. -/
theorem lt_of_shift (h : Nat.log2 quotient - 52 = steps) : quotient < 2 ^ (53 + steps) := by
  have hBits : Nat.log2 quotient + 1 ≤ 53 + steps := by omega
  exact Nat.lt_of_lt_of_le Nat.lt_log2_self (Nat.pow_le_pow_right (by omega) hBits)

/-- And no fewer, unless nothing is shifted. -/
theorem le_of_shift (h : Nat.log2 quotient - 52 = steps) (hPositive : 0 < steps) :
    2 ^ (52 + steps) ≤ quotient := by
  have hBits : 52 + steps = Nat.log2 quotient := by omega
  have hNonzero : quotient ≠ 0 := by
    rintro rfl
    have hLog : Nat.log2 0 = 0 := by simp
    omega
  rw [hBits]
  exact Nat.log2_self_le hNonzero

end Shift

/-- The quotient is rounded to `r` steps of 2^steps units. -/
structure Grid (numerator denominator steps r : Nat) : Prop where
  coarse : steps = 0 ∨ perBinade * (denominator * 2 ^ steps) ≤ numerator * unitsPerOne
  fine : numerator * unitsPerOne < 2 * perBinade * (denominator * 2 ^ steps)
  upper : 2 * (denominator * 2 ^ steps * r) ≤
    2 * (numerator * unitsPerOne) + denominator * 2 ^ steps
  lower : 2 * (numerator * unitsPerOne) ≤
    2 * (denominator * 2 ^ steps * r) + denominator * 2 ^ steps

theorem exists_grid (hDenominator : 0 < denominator) (numerator : Nat) :
    ∃ steps r, Grid numerator denominator steps r ∧
      ofRatio? numerator denominator =
        if finite : steps * perBinade + r < 0x7FF0000000000000
        then some ⟨steps * perBinade + r, finite⟩ else none := by
  have hSize : perBinade = 2 ^ 52 := rfl
  generalize hScaled : numerator * unitsPerOne = scaled
  generalize hSteps : Nat.log2 (scaled / denominator) - 52 = steps
  have hSpacing : 0 < denominator * 2 ^ steps := Nat.mul_pos hDenominator (Nat.two_pow_pos steps)
  obtain ⟨hUpper, hLower⟩ := roundDiv_near hSpacing scaled
  refine ⟨steps, roundDiv scaled (denominator * 2 ^ steps), ⟨?_, ?_, ?_, ?_⟩, ?_⟩
  · rw [hScaled]
    rcases Nat.eq_zero_or_pos steps with hZero | hPositive
    · exact .inl hZero
    · right
      have hQuotient := (Nat.le_div_iff_mul_le hDenominator).1 (le_of_shift hSteps hPositive)
      calc perBinade * (denominator * 2 ^ steps) = 2 ^ (52 + steps) * denominator := by
            rw [Nat.pow_add, hSize]
            ring
        _ ≤ scaled := hQuotient
  · rw [hScaled]
    have hQuotient := (Nat.div_lt_iff_lt_mul hDenominator).1 (lt_of_shift hSteps)
    calc scaled < 2 ^ (53 + steps) * denominator := hQuotient
      _ = 2 * perBinade * (denominator * 2 ^ steps) := by
        rw [Nat.pow_add, hSize]
        ring
  · rwa [hScaled]
  · rwa [hScaled]
  · rw [ofRatio?, hScaled, hSteps]
    rfl

namespace Grid

variable {steps r : Nat}

theorem spacing_pos (h : Grid numerator denominator steps r) : 0 < denominator * 2 ^ steps := by
  have hFine := h.fine
  by_contra hZero
  rw [Nat.eq_zero_of_not_pos hZero, Nat.mul_zero] at hFine
  exact Nat.not_lt_zero _ hFine

theorem low (h : Grid numerator denominator steps r) : perBinade ≤ r ∨ steps = 0 := by
  have hSpacing := h.spacing_pos
  obtain ⟨hCoarse, -, -, hLower⟩ := h
  generalize numerator * unitsPerOne = scaled at *
  rcases hCoarse with hZero | hCoarse
  · exact .inr hZero
  · left
    by_contra hSmall
    have hStep : r + 1 ≤ perBinade := by omega
    have hProduct := Nat.mul_le_mul_left (denominator * 2 ^ steps) hStep
    rw [Nat.mul_succ] at hProduct
    rw [Nat.mul_comm perBinade] at hCoarse
    omega

theorem high (h : Grid numerator denominator steps r) : r ≤ 2 * perBinade := by
  obtain ⟨-, hFine, hUpper, -⟩ := h
  generalize numerator * unitsPerOne = scaled at *
  by_contra hLarge
  have hStep : 2 * perBinade + 1 ≤ r := by omega
  have hProduct := Nat.mul_le_mul_left (denominator * 2 ^ steps) hStep
  rw [Nat.mul_succ] at hProduct
  rw [Nat.mul_comm (2 * perBinade)] at hFine
  omega

theorem units_mul (h : Grid numerator denominator steps r)
    (hCode : m.code = steps * perBinade + r) :
    m.units * denominator = denominator * 2 ^ steps * r := by
  rw [units_eq hCode h.low h.high]
  ring

/-- Zero is rounded to zero. -/
theorem eq_zero (h : Grid 0 denominator steps r) : r = 0 := by
  have hSpacing := h.spacing_pos
  have hUpper := h.upper
  rw [Nat.zero_mul] at hUpper
  by_contra hPositive
  have hStep := Nat.mul_le_mul_left (denominator * 2 ^ steps) (Nat.one_le_iff_ne_zero.2 hPositive)
  omega

/-- A quotient that is not too small spans at least 2^52 steps. -/
theorem spacing_le (h : Grid numerator denominator steps r)
    (hNormal : perBinade * denominator ≤ numerator * unitsPerOne) :
    perBinade * (denominator * 2 ^ steps) ≤ numerator * unitsPerOne := by
  have hCoarse := h.coarse
  generalize numerator * unitsPerOne = scaled at *
  rcases hCoarse with rfl | hCoarse
  · rwa [Nat.pow_zero, Nat.mul_one]
  · exact hCoarse

end Grid

/-- The magnitude is a quotient but for one part in 2^53. -/
structure Near (numerator denominator : Nat) (m : Magnitude) : Prop where
  upper : 2 * perBinade * (m.units * denominator) ≤ (2 * perBinade + 1) * (numerator * unitsPerOne)
  lower : (2 * perBinade - 1) * (numerator * unitsPerOne) ≤ 2 * perBinade * (m.units * denominator)

/-- Zero and the quotients that are not too small are rounded to a near magnitude. -/
theorem near_of_ofRatio? (hDenominator : 0 < denominator)
    (hNormal : numerator = 0 ∨ perBinade * denominator ≤ numerator * unitsPerOne)
    (h : ofRatio? numerator denominator = some m) : Near numerator denominator m := by
  obtain ⟨steps, r, hGrid, hRatio⟩ := exists_grid hDenominator numerator
  rw [hRatio] at h
  split at h
  · have hUnits := hGrid.units_mul (congrArg code (Option.some.inj h)).symm
    rcases hNormal with rfl | hNormal
    · rw [hGrid.eq_zero, Nat.mul_zero] at hUnits
      constructor
      · rw [hUnits, Nat.mul_zero]
        exact Nat.zero_le _
      · rw [Nat.zero_mul, Nat.mul_zero]
        exact Nat.zero_le _
    · have hSpacing := hGrid.spacing_le hNormal
      have hUpper := hGrid.upper
      have hLower := hGrid.lower
      have hSize : perBinade = 4503599627370496 := rfl
      rw [hSize] at hSpacing
      rw [← hUnits] at hUpper hLower
      constructor
      · rw [hSize]
        omega
      · rw [hSize]
        omega
  · cases h

/-! ## The end of the range -/

/-- Doubles of the last binade are 2^`lastShift` units apart. -/
def lastShift : Nat := 2045

theorem code_lt_iff {steps r : Nat} (hLow : perBinade ≤ r ∨ steps = 0) (hHigh : r ≤ 2 * perBinade) :
    steps * perBinade + r < 0x7FF0000000000000 ↔
      steps < lastShift ∨ steps = lastShift ∧ r < 2 * perBinade := by
  have hSize : perBinade = 4503599627370496 := rfl
  have hLast : lastShift = 2045 := rfl
  rw [hSize] at hLow hHigh ⊢
  rw [hLast]
  omega

/-- All below the last double is rounded to a double. -/
theorem isSome_ofRatio? (hDenominator : 0 < denominator)
    (h : numerator * unitsPerOne < (2 * perBinade - 1) * (denominator * 2 ^ lastShift)) :
    (ofRatio? numerator denominator).isSome := by
  obtain ⟨steps, r, hGrid, hRatio⟩ := exists_grid hDenominator numerator
  have hLow := hGrid.low
  have hHigh := hGrid.high
  have hCoarse := hGrid.coarse
  have hUpper := hGrid.upper
  have hSize : perBinade = 4503599627370496 := rfl
  have hSpacing := hGrid.spacing_pos
  generalize numerator * unitsPerOne = scaled at *
  have hFinite : steps * perBinade + r < 0x7FF0000000000000 := by
    rw [code_lt_iff hLow hHigh]
    rcases Nat.lt_trichotomy steps lastShift with hBelow | hLast | hBeyond
    · exact .inl hBelow
    · refine .inr ⟨hLast, ?_⟩
      by_contra hEdge
      rw [hLast] at hUpper hSpacing
      have hStep : 2 * perBinade ≤ r := Nat.not_lt.1 hEdge
      have hProduct := Nat.mul_le_mul_left (denominator * 2 ^ lastShift) hStep
      rw [hSize] at h hProduct
      generalize denominator * 2 ^ lastShift * r = product at *
      generalize denominator * 2 ^ lastShift = spacing at *
      omega
    · exfalso
      generalize lastShift = last at *
      have hPower : 2 ^ (last + 1) ≤ 2 ^ steps := Nat.pow_le_pow_right (by omega) hBeyond
      have hProduct := Nat.mul_le_mul_left denominator hPower
      rw [Nat.pow_succ, ← Nat.mul_assoc] at hProduct
      rcases hCoarse with rfl | hCoarse
      · exact Nat.not_lt_zero last hBeyond
      · rw [hSize] at h hCoarse
        generalize denominator * 2 ^ last = spacing at *
        generalize denominator * 2 ^ steps = coarser at *
        omega
  rw [hRatio, dif_pos hFinite]
  rfl

/-- Nothing from 2^1024 on is rounded to a double. -/
theorem ofRatio?_eq_none (hDenominator : 0 < denominator)
    (h : 2 * perBinade * (denominator * 2 ^ lastShift) ≤ numerator * unitsPerOne) :
    ofRatio? numerator denominator = none := by
  obtain ⟨steps, r, hGrid, hRatio⟩ := exists_grid hDenominator numerator
  have hLow := hGrid.low
  have hHigh := hGrid.high
  have hFine := hGrid.fine
  generalize numerator * unitsPerOne = scaled at *
  have hBeyond : lastShift < steps := by
    by_contra hSmall
    have hPower : 2 ^ steps ≤ 2 ^ lastShift :=
      Nat.pow_le_pow_right (by omega) (Nat.not_lt.1 hSmall)
    have hSpacing := Nat.mul_le_mul_left denominator hPower
    have hProduct := Nat.mul_le_mul_left (2 * perBinade) hSpacing
    omega
  have hInfinite : ¬ steps * perBinade + r < 0x7FF0000000000000 := by
    rw [code_lt_iff hLow hHigh]
    omega
  rw [hRatio, dif_neg hInfinite]

end Magnitude

end DeferredJobs.Decimal
