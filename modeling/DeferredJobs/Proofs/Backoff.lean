import Mathlib.Algebra.Ring.Nat
import DeferredJobs.Cleanup
import DeferredJobs.Proofs.Time.Instant

/-!
# The backoff of the cleanup job

The delay is computed in words. The power of two and the product stay at the largest word where they
would not fit, and that is far beyond the last delay, so nothing of it shows: the delay is the
minimum that unbounded numbers give.

* `toNat_saturatedPower`, `toNat_saturatedProduct`: what the two operations on words compute.
* `delay_eq`: the delay in unbounded numbers.
* `nextRun_eq`: the next run, by whether the sum lies within the range.
* `backoff_exact`: both, with their bounds and their growth.
-/

namespace DeferredJobs.Cleanup

/-! ## Words -/

theorem toNat_saturatedPower (runs : UInt32) :
    (saturatedPower runs).toNat =
      if runs.toNat < 64 then 2 ^ runs.toNat else largestWord.toNat := by
  unfold saturatedPower
  split
  · rename_i hRuns
    have hPower : 2 ^ runs.toNat < 2 ^ 64 := Nat.pow_lt_pow_right (by decide) hRuns
    rw [UInt64.toNat_shiftLeft, UInt32.toNat_toUInt64, Nat.mod_eq_of_lt hRuns,
      show UInt64.toNat 1 = 1 from rfl, Nat.one_shiftLeft, Nat.mod_eq_of_lt hPower]
  · rfl

theorem toNat_saturatedProduct (a b : UInt64) :
    (saturatedProduct a b).toNat = min (a.toNat * b.toNat) largestWord.toNat := by
  have hLargest : largestWord.toNat + 1 = UInt64.size := rfl
  unfold saturatedProduct
  split
  · rename_i hFits
    rw [UInt64.toNat_mul, Nat.mod_eq_of_lt hFits, min_eq_left (by omega)]
  · rw [min_eq_right (by omega)]

theorem toNat_min (a b : UInt64) : (min a b).toNat = min a.toNat b.toNat := by
  have hMin : min a b = if a ≤ b then a else b := rfl
  rw [hMin, min_def]
  simp only [UInt64.le_iff_toNat_le]
  split <;> rfl

/-! ## The delay -/

variable {c longer : Cleanup}

theorem delay_eq (c : Cleanup) : c.delay = min (10 * 2 ^ c.countEmptyRuns.toNat) 3600 := by
  have hDelay : c.delay = min (min (10 * (saturatedPower c.countEmptyRuns).toNat)
      largestWord.toNat) 3600 := by
    rw [delay, toNat_min, toNat_saturatedProduct]
    rfl
  have hLargest : largestWord.toNat = 2 ^ 64 - 1 := rfl
  rw [hDelay, toNat_saturatedPower, hLargest]
  generalize c.countEmptyRuns.toNat = runs
  split
  · omega
  · -- Both minima are the last delay: the power is too large even before it is saturated.
    rename_i hRuns
    have hPower : 2 ^ 64 ≤ 2 ^ runs := Nat.pow_le_pow_right (by decide) (Nat.not_lt.1 hRuns)
    omega

theorem le_delay (c : Cleanup) : 10 ≤ c.delay := by
  have hPower : 0 < 2 ^ c.countEmptyRuns.toNat := Nat.two_pow_pos _
  rw [delay_eq]
  omega

theorem delay_le (c : Cleanup) : c.delay ≤ 3600 := by
  rw [delay_eq]
  exact min_le_right _ _

theorem delay_mono (h : c.countEmptyRuns ≤ longer.countEmptyRuns) : c.delay ≤ longer.delay := by
  have hPower : 2 ^ c.countEmptyRuns.toNat ≤ 2 ^ longer.countEmptyRuns.toNat :=
    Nat.pow_le_pow_right (by decide) (UInt32.le_iff_toNat_le.1 h)
  rw [delay_eq, delay_eq]
  omega

/-! ## The next run -/

variable {now later : Instant}

theorem nextRun_eq (c : Cleanup) (h : now.Ordinary) :
    c.nextRun now = if now.plus c.delay ≤ .latest then now.plus c.delay else .latest := by
  rw [nextRun, Instant.after_eq_min h, min_def]

/-- The delay doubles with every empty run from ten seconds up to an hour, for every counter. The
next run comes after that delay, or at the latest instant if the sum lies beyond it. -/
theorem backoff_exact :
    (∀ c : Cleanup, c.delay = min (10 * 2 ^ c.countEmptyRuns.toNat) 3600 ∧
      10 ≤ c.delay ∧ c.delay ≤ 3600) ∧
    (∀ c longer : Cleanup, c.countEmptyRuns ≤ longer.countEmptyRuns → c.delay ≤ longer.delay) ∧
    (∀ (c : Cleanup) (now : Instant), now.Ordinary → now ≤ .latest →
      (c.nextRun now =
        if now.plus c.delay ≤ .latest then now.plus c.delay else .latest) ∧
      now ≤ c.nextRun now) ∧
    ∀ (c longer : Cleanup) (now later : Instant), now.Ordinary → later.Ordinary → now ≤ later →
      later ≤ .latest → c.countEmptyRuns ≤ longer.countEmptyRuns →
      c.nextRun now ≤ longer.nextRun later := by
  refine ⟨fun c => ⟨delay_eq c, le_delay c, delay_le c⟩, fun c longer => delay_mono, ?_, ?_⟩
  · intro c now hNow hRange
    exact ⟨nextRun_eq c hNow, Instant.le_after hNow hRange c.delay⟩
  · intro c longer now later hNow hLater hLe hRange hRuns
    exact Instant.after_mono hNow hLater hLe (delay_mono hRuns)

/-- From nine runs on the delay is an hour, also with the largest counter. Eighty seconds before the
latest second the sum of three runs still lies within the range, and a second later no more. -/
theorem backoff_exact_near_latest :
    (({ countEmptyRuns := 3 } : Cleanup).delay = 80 ∧
      ({ countEmptyRuns := 3 } : Cleanup).delay ≤
        ({ countEmptyRuns := 0xFFFFFFFF } : Cleanup).delay ∧
      ({ countEmptyRuns := 0xFFFFFFFF } : Cleanup).delay = 3600) ∧
    ({ countEmptyRuns := 3 } : Cleanup).nextRun ⟨8210266876719, 5⟩ = ⟨8210266876799, 5⟩ ∧
    ({ countEmptyRuns := 3 } : Cleanup).nextRun ⟨8210266876720, 0⟩ = .latest ∧
    ({ countEmptyRuns := 3 } : Cleanup).nextRun ⟨8210266876719, 5⟩ ≤
      ({ countEmptyRuns := 4 } : Cleanup).nextRun ⟨8210266876720, 0⟩ := by
  obtain ⟨hDelay, hGrowth, hNext, hLater⟩ := backoff_exact
  have hThree : ({ countEmptyRuns := 3 } : Cleanup).delay = 80 := (hDelay _).1
  have hRange : (⟨8210266876720, 0⟩ : Instant) ≤ .latest := by decide
  refine ⟨⟨hThree, hGrowth _ _ (by decide), ?_⟩, ?_, ?_, ?_⟩
  · rfl
  · rw [(hNext _ _ (by decide) (by decide)).1, hThree]
    rfl
  · rw [(hNext _ _ (by decide) hRange).1, hThree]
    rfl
  · exact hLater _ _ _ _ (by decide) (by decide) (by decide) hRange (by decide)

end DeferredJobs.Cleanup
