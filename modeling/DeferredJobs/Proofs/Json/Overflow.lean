import Mathlib.Tactic.Linarith
import Mathlib.Tactic.Ring
import DeferredJobs.Proofs.Decimal.Rounding
import DeferredJobs.Proofs.Json.Number

/-!
# Integers too large for a double

A whole number with many digits is cut to a number below 2^64 and a power of ten. Both are rounded,
and so is their product. The three roundings and the cut lose less than one part in 10^15 together.
The doubles end near 1.7977 · 10^308, so whole numbers up to 1.79 · 10^308 never overflow, and from
1.8 · 10^308 on they always do.

* `Cut`: a number as its leading digits and a power of ten.
* `isSome_magnitude?`, `magnitude?_eq_none`: both sides of the range.
-/

namespace DeferredJobs

namespace Decimal

theorem valueFrom_bounds (start : Nat) (digits : List Digit) :
    start * 10 ^ digits.length ≤ valueFrom start digits ∧
      valueFrom start digits < (start + 1) * 10 ^ digits.length := by
  induction digits generalizing start with
  | nil =>
    constructor
    · rw [List.length_nil, Nat.pow_zero, Nat.mul_one]
      exact Nat.le_refl start
    · rw [List.length_nil, Nat.pow_zero, Nat.mul_one]
      exact Nat.lt_succ_self start
  | cons d digits ih =>
    obtain ⟨hLow, hHigh⟩ := ih (10 * start + d.val)
    have hDigit : d.val + 1 ≤ 10 := d.isLt
    have hPower : 10 ^ (digits.length + 1) = 10 * 10 ^ digits.length := by
      rw [Nat.pow_succ, Nat.mul_comm]
    have hSmall : start * 10 ≤ 10 * start + d.val := by omega
    have hLarge : 10 * start + d.val + 1 ≤ (start + 1) * 10 := by omega
    show _ ≤ valueFrom (10 * start + d.val) digits ∧ valueFrom (10 * start + d.val) digits < _
    rw [List.length_cons, hPower, ← Nat.mul_assoc, ← Nat.mul_assoc]
    exact ⟨Nat.le_trans (Nat.mul_le_mul_right _ hSmall) hLow,
      Nat.lt_of_lt_of_le hHigh (Nat.mul_le_mul_right _ hLarge)⟩

namespace Magnitude

variable {a b : Nat} {m t : Magnitude}

/-- The doubles from 10^308 down to zero leave room for a number and its rounding. -/
theorem exists_near {n : Nat} (h : n ≤ 10 ^ 308) : ∃ m, ofNat? n = some m ∧ Near n 1 m := by
  have hRoom : 10 ^ 308 * unitsPerOne < (2 * perBinade - 1) * (1 * 2 ^ lastShift) := by
    decide +kernel
  have hUnit : perBinade ≤ unitsPerOne := by decide +kernel
  have hScaled := Nat.lt_of_le_of_lt (Nat.mul_le_mul_right unitsPerOne h) hRoom
  have hSome : (ofNat? n).isSome := isSome_ofRatio? Nat.one_pos hScaled
  obtain ⟨m, hm⟩ := Option.isSome_iff_exists.1 hSome
  refine ⟨m, hm, near_of_ofRatio? Nat.one_pos ?_ hm⟩
  rcases Nat.eq_zero_or_pos n with hZero | hPositive
  · exact .inl hZero
  · right
    calc perBinade * 1 = 1 * perBinade := Nat.mul_comm _ _
      _ ≤ n * unitsPerOne := Nat.mul_le_mul hPositive hUnit

theorem Near.isZero_eq_false {n : Nat} (h : Near n 1 m) (hn : 0 < n) : m.isZero = false := by
  have hUnit : 0 < unitsPerOne := by decide +kernel
  have hScaled : 0 < (2 * perBinade - 1) * (n * unitsPerOne) :=
    Nat.mul_pos (by decide) (Nat.mul_pos hn hUnit)
  have hLower := h.lower
  cases hZero : m.isZero with
  | false => rfl
  | true =>
    have hCode : m.code = 0 := eq_of_beq hZero
    have hMantissa : m.mantissa = 0 := by
      rw [mantissa, hCode]
      exact Nat.zero_sub _
    rw [units, hMantissa, Nat.zero_mul, Nat.zero_mul, Nat.mul_zero] at hLower
    omega

/-- The product of two roundings, relative to the product of the numbers. -/
theorem product_upper (hm : Near a 1 m) (ht : Near b 1 t) :
    2 * perBinade * (2 * perBinade) * (m.units * t.units) ≤
      (2 * perBinade + 1) * (2 * perBinade + 1) * (a * b) * (unitsPerOne * unitsPerOne) := by
  have hProduct := Nat.mul_le_mul hm.upper ht.upper
  rw [Nat.mul_one, Nat.mul_one] at hProduct
  calc 2 * perBinade * (2 * perBinade) * (m.units * t.units) =
        2 * perBinade * m.units * (2 * perBinade * t.units) := by ring
    _ ≤ (2 * perBinade + 1) * (a * unitsPerOne) * ((2 * perBinade + 1) * (b * unitsPerOne)) := hProduct
    _ = _ := by ring

theorem product_lower (hm : Near a 1 m) (ht : Near b 1 t) :
    (2 * perBinade - 1) * (2 * perBinade - 1) * (a * b) * (unitsPerOne * unitsPerOne) ≤
      2 * perBinade * (2 * perBinade) * (m.units * t.units) := by
  have hProduct := Nat.mul_le_mul hm.lower ht.lower
  rw [Nat.mul_one, Nat.mul_one] at hProduct
  calc (2 * perBinade - 1) * (2 * perBinade - 1) * (a * b) * (unitsPerOne * unitsPerOne) =
        (2 * perBinade - 1) * (a * unitsPerOne) * ((2 * perBinade - 1) * (b * unitsPerOne)) := by ring
    _ ≤ 2 * perBinade * m.units * (2 * perBinade * t.units) := hProduct
    _ = _ := by ring

theorem isSome_mul? (hm : Near a 1 m) (ht : Near b 1 t) (h : a * b ≤ 179 * 10 ^ 306) :
    (m.mul? t).isSome := by
  have hPositive : 0 < unitsPerOne * unitsPerOne := by decide +kernel
  have hRoom : (2 * perBinade + 1) * (2 * perBinade + 1) * (179 * 10 ^ 306) * unitsPerOne <
      2 * perBinade * (2 * perBinade) * ((2 * perBinade - 1) * 2 ^ lastShift) := by
    decide +kernel
  have hUpper := product_upper hm ht
  apply isSome_ofRatio? hPositive
  generalize m.units * t.units = product at *
  generalize unitsPerOne * unitsPerOne = square at *
  generalize 179 * 10 ^ 306 = bound at *
  generalize 2 ^ lastShift = spacing at *
  generalize unitsPerOne = unit at *
  have hCut : (2 * perBinade + 1) * (2 * perBinade + 1) * (a * b) * square ≤
      (2 * perBinade + 1) * (2 * perBinade + 1) * bound * square :=
    Nat.mul_le_mul_right square (Nat.mul_le_mul_left _ h)
  apply Nat.lt_of_mul_lt_mul_left (a := 2 * perBinade * (2 * perBinade))
  calc 2 * perBinade * (2 * perBinade) * (product * unit) =
        2 * perBinade * (2 * perBinade) * product * unit := by ring
    _ ≤ (2 * perBinade + 1) * (2 * perBinade + 1) * bound * square * unit :=
        Nat.mul_le_mul_right unit (Nat.le_trans hUpper hCut)
    _ = (2 * perBinade + 1) * (2 * perBinade + 1) * bound * unit * square := by ring
    _ < 2 * perBinade * (2 * perBinade) * ((2 * perBinade - 1) * spacing) * square :=
        Nat.mul_lt_mul_of_pos_right hRoom hPositive
    _ = 2 * perBinade * (2 * perBinade) * ((2 * perBinade - 1) * (square * spacing)) := by ring

theorem mul?_eq_none (hm : Near a 1 m) (ht : Near b 1 t) (h : 1799 * 10 ^ 305 ≤ a * b) :
    m.mul? t = none := by
  have hPositive : 0 < unitsPerOne * unitsPerOne := by decide +kernel
  have hRoom : 2 * perBinade * (2 * perBinade) * (2 * perBinade * 2 ^ lastShift) ≤
      (2 * perBinade - 1) * (2 * perBinade - 1) * (1799 * 10 ^ 305) * unitsPerOne := by
    decide +kernel
  have hLower := product_lower hm ht
  apply ofRatio?_eq_none hPositive
  generalize m.units * t.units = product at *
  generalize unitsPerOne * unitsPerOne = square at *
  generalize 1799 * 10 ^ 305 = bound at *
  generalize 2 ^ lastShift = spacing at *
  generalize unitsPerOne = unit at *
  have hCut : (2 * perBinade - 1) * (2 * perBinade - 1) * bound * square ≤
      (2 * perBinade - 1) * (2 * perBinade - 1) * (a * b) * square :=
    Nat.mul_le_mul_right square (Nat.mul_le_mul_left _ h)
  have hScale : 0 < 2 * perBinade * (2 * perBinade) := by decide
  apply Nat.le_of_mul_le_mul_left _ hScale
  calc 2 * perBinade * (2 * perBinade) * (2 * perBinade * (square * spacing)) =
        2 * perBinade * (2 * perBinade) * (2 * perBinade * spacing) * square := by ring
    _ ≤ (2 * perBinade - 1) * (2 * perBinade - 1) * bound * unit * square :=
        Nat.mul_le_mul_right square hRoom
    _ = (2 * perBinade - 1) * (2 * perBinade - 1) * bound * square * unit := by ring
    _ ≤ 2 * perBinade * (2 * perBinade) * product * unit :=
        Nat.mul_le_mul_right unit (Nat.le_trans hCut hLower)
    _ = 2 * perBinade * (2 * perBinade) * (product * unit) := by ring

end Magnitude

end Decimal

namespace NumberLiteral

open Decimal Decimal.Magnitude

/-- A number as its leading digits and a power of ten. Digits are only left out where one more would
lead beyond 2^64. -/
structure Cut (n kept power : Nat) : Prop where
  kept_lt : kept < 0x10000000000000000
  low : kept * 10 ^ power ≤ n
  high : n < (kept + 1) * 10 ^ power
  full : power = 0 ∨ 0x10000000000000000 ≤ 10 * kept + 9

theorem cut_absorb (digits : List Digit) {start : Nat} (h : start < 0x10000000000000000) :
    Cut (valueFrom start digits) (absorb start digits).1 (absorb start digits).2.length := by
  fun_induction absorb start digits with
  | case1 start =>
    refine ⟨h, ?_, ?_, .inl rfl⟩
    · show start * 10 ^ 0 ≤ start
      rw [Nat.pow_zero, Nat.mul_one]
    · show start < (start + 1) * 10 ^ 0
      rw [Nat.pow_zero, Nat.mul_one]
      exact Nat.lt_succ_self start
  | case2 start d rest next hFits ih => exact ih hFits
  | case3 start d rest next hFull =>
    obtain ⟨hLow, hHigh⟩ := valueFrom_bounds start (d :: rest)
    have hDigit : d.val ≤ 9 := Nat.le_of_lt_succ d.isLt
    exact ⟨h, hLow, hHigh, .inr (by omega)⟩

variable {n kept power : Nat}

theorem power_lt_of_cut (h : Cut n kept power) {limit : Nat} (hLimit : 0 < limit)
    (hn : n < 10 ^ limit) : power < limit := by
  rcases h.full with rfl | hFull
  · exact hLimit
  · by_contra hLarge
    have hPower : 10 ^ limit ≤ 10 ^ power := Nat.pow_le_pow_right (by omega) (Nat.not_lt.1 hLarge)
    have hKept : 1 * 10 ^ power ≤ kept * 10 ^ power := Nat.mul_le_mul_right _ (by omega)
    have hLow := h.low
    omega

/-- What is lost by a cut is less than one part in 10^18. -/
theorem le_of_cut (h : Cut n kept power) :
    1000000000000000000 * n ≤ 1000000000000000001 * (kept * 10 ^ power) := by
  obtain ⟨-, hLow, hHigh, hFull⟩ := h
  rcases hFull with rfl | hFull
  · rw [Nat.pow_zero] at *
    omega
  · have hKept : 1000000000000000000 * 10 ^ power ≤ kept * 10 ^ power :=
      Nat.mul_le_mul_right _ (by omega)
    rw [Nat.add_mul] at hHigh
    omega

/-- The double of a cut number. -/
def scaled? (kept power : Nat) : Option Magnitude :=
  ofNat? kept >>= fun m => multiplyByPower? m power

theorem magnitude?_integer (negative : Bool) (whole : List Digit) :
    (integer negative whole).magnitude? =
      scaled? (absorb 0 whole).1 (absorb 0 whole).2.length := by
  rw [magnitude?, significand, scaled?]
  simp [integer, absorb]

/-- Within 10^308 the number and the power of ten are rounded and multiplied. -/
theorem exists_scaled? (hKept : kept < 0x10000000000000000) (hPower : power ≤ 308) :
    ∃ m t, Near kept 1 m ∧ Near (10 ^ power) 1 t ∧ scaled? kept power = m.mul? t := by
  have hWord : 0x10000000000000000 ≤ 10 ^ 308 := by decide +kernel
  have hTen {top : Nat} (h : power ≤ top) : 10 ^ power ≤ 10 ^ top :=
    Nat.pow_le_pow_right (by omega) h
  obtain ⟨m, hm, hNear⟩ := exists_near (Nat.le_trans (Nat.le_of_lt hKept) hWord)
  obtain ⟨t, ht, hNearTen⟩ := exists_near (hTen hPower)
  refine ⟨m, t, hNear, hNearTen, ?_⟩
  have hPowerOfTen : powerOfTen? power = some t := ht
  rw [scaled?, hm, Option.bind_eq_bind, Option.bind_some, multiplyByPower?, if_pos hPower,
    hPowerOfTen]
  exact Option.bind_some t m.mul?

theorem isSome_scaled? (h : Cut n kept power) (hn : n ≤ 179 * 10 ^ 306) :
    (scaled? kept power).isSome := by
  have hBelow : 179 * 10 ^ 306 < 10 ^ 309 := by decide +kernel
  have hPower := power_lt_of_cut h (by omega) (Nat.lt_of_le_of_lt hn hBelow)
  obtain ⟨m, t, hm, ht, hScaled⟩ := exists_scaled? h.kept_lt (Nat.le_of_lt_succ hPower)
  rw [hScaled]
  exact isSome_mul? hm ht (Nat.le_trans h.low hn)

theorem scaled?_eq_none (h : Cut n kept power) (hn : 180 * 10 ^ 306 ≤ n) :
    scaled? kept power = none := by
  have hCut := le_of_cut h
  rcases Nat.lt_or_ge 308 power with hLarge | hSmall
  · have hKept : 0 < kept := by
      have hFull := h.full
      omega
    have hWord : 0x10000000000000000 ≤ 10 ^ 308 := by decide +kernel
    obtain ⟨m, hm, hNear⟩ := exists_near (Nat.le_trans (Nat.le_of_lt h.kept_lt) hWord)
    have hNonzero : m.isZero = false := hNear.isZero_eq_false hKept
    rw [scaled?, hm, Option.bind_eq_bind, Option.bind_some, multiplyByPower?,
      if_neg (Nat.not_le.2 hLarge), hNonzero]
    rfl
  · obtain ⟨m, t, hm, ht, hScaled⟩ := exists_scaled? h.kept_lt hSmall
    rw [hScaled]
    apply mul?_eq_none hm ht
    have hMargin : 1000000000000000001 * (1799 * 10 ^ 305) ≤
        1000000000000000000 * (180 * 10 ^ 306) := by
      decide +kernel
    generalize 180 * 10 ^ 306 = bound at *
    generalize 1799 * 10 ^ 305 = lower at *
    omega

/-- A whole number well within the range of a double is never too large. -/
theorem isSome_magnitude? (negative : Bool) {whole : List Digit}
    (h : value whole ≤ 179 * 10 ^ 306) : (integer negative whole).magnitude?.isSome := by
  rw [magnitude?_integer]
  exact isSome_scaled? (cut_absorb whole (by decide)) h

/-- A whole number beyond the range of a double always is. -/
theorem magnitude?_eq_none (negative : Bool) {whole : List Digit}
    (h : 180 * 10 ^ 306 ≤ value whole) : (integer negative whole).magnitude? = none := by
  rw [magnitude?_integer]
  exact scaled?_eq_none (cut_absorb whole (by decide)) h

end NumberLiteral

end DeferredJobs
