import Mathlib.Data.Prod.Lex
import Mathlib.Order.MinMax
import DeferredJobs.Time.Instant

/-!
# The order of instants

Instants are ordered by their seconds, and within a second by their nanoseconds. Outside of leap
seconds to add a delay is to add it to the seconds, up to the latest instant. So the result is the
minimum of two instants, and grows with the instant and with the delay.

* `add?_eq`: a sum is refused exactly if it lies beyond the latest instant.
* `after_eq_min`: the minimum of the sum and the latest instant.
* `le_after`, `after_mono`: the result is not earlier, and grows.
-/

namespace DeferredJobs.Instant

/-! ## The order -/

def key (now : Instant) : ℤ ×ₗ ℕ := toLex (now.seconds, now.nanoseconds)

theorem key_injective : Function.Injective key := by
  intro a b h
  obtain ⟨hSeconds, hNanoseconds⟩ := Prod.mk.inj (toLex.injective h)
  cases a
  cases b
  cases hSeconds
  cases hNanoseconds
  rfl

instance : LinearOrder Instant := LinearOrder.lift' key key_injective

theorem le_iff {a b : Instant} :
    a ≤ b ↔ a.seconds < b.seconds ∨ a.seconds = b.seconds ∧ a.nanoseconds ≤ b.nanoseconds :=
  Prod.Lex.toLex_le_toLex

/-! ## Sums -/

/-- Not within a leap second. -/
def Ordinary (now : Instant) : Prop := now.nanoseconds < 1000000000

instance (now : Instant) : Decidable now.Ordinary :=
  inferInstanceAs (Decidable (now.nanoseconds < 1000000000))

/-- Whole seconds later, however far. -/
def plus (now : Instant) (delay : Nat) : Instant :=
  ⟨now.seconds + delay, now.nanoseconds⟩

variable {now later : Instant} {delay longer : Nat}

theorem le_plus (now : Instant) (delay : Nat) : now ≤ now.plus delay := by
  rw [le_iff, plus]
  dsimp only
  omega

theorem plus_mono (hNow : now ≤ later) (hDelay : delay ≤ longer) :
    now.plus delay ≤ later.plus longer := by
  rw [le_iff] at hNow ⊢
  dsimp only [plus]
  omega

/-- The latest instant is the last one of its second. -/
theorem plus_le_latest_iff (h : now.Ordinary) :
    now.plus delay ≤ latest ↔ now.seconds + delay ≤ latest.seconds := by
  have hLast : now.nanoseconds ≤ latest.nanoseconds := Nat.le_of_lt_succ h
  rw [le_iff]
  dsimp only [plus]
  omega

/-- A sum is refused exactly if it lies beyond the latest instant. -/
theorem add?_eq (h : now.Ordinary) :
    now.add? delay = if now.plus delay ≤ latest then some (now.plus delay) else none := by
  have hLeap : ¬ (delay ≠ 0 ∧ 1000000000 ≤ now.nanoseconds) := fun hLeap =>
    absurd h (Nat.not_lt.2 hLeap.2)
  simp only [add?, if_neg hLeap, plus_le_latest_iff h]
  rfl

theorem after_eq_min (h : now.Ordinary) : now.after delay = min (now.plus delay) latest := by
  rw [after, add?_eq h, min_def]
  split <;> rfl

/-! ## Bounds and growth -/

theorem le_after (h : now.Ordinary) (hRange : now ≤ latest) (delay : Nat) :
    now ≤ now.after delay := by
  rw [after_eq_min h]
  exact le_min (le_plus now delay) hRange

theorem after_mono (hNow : now.Ordinary) (hLater : later.Ordinary) (h : now ≤ later)
    (hDelay : delay ≤ longer) : now.after delay ≤ later.after longer := by
  rw [after_eq_min hNow, after_eq_min hLater]
  exact min_le_min (plus_mono h hDelay) le_rfl

end DeferredJobs.Instant
