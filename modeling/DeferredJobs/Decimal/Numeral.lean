/-!
# Decimal numerals

A numeral is a list of digits, the most significant first. `numeral` writes a natural number without
leading zeros and `value` reads one; `value_numeral` says that nothing is lost.
-/

namespace DeferredJobs.Decimal

abbrev Digit := Fin 10

def Digit.zero : Digit := ⟨0, by decide⟩

def Digit.toChar (d : Digit) : Char :=
  Char.ofNat ('0'.toNat + d.val)

def Digit.ofChar? (c : Char) : Option Digit :=
  if h : c.isDigit then
    some ⟨c.toNat - '0'.toNat, by
      simp only [Char.isDigit, Bool.and_eq_true, decide_eq_true_eq] at h
      have : c.toNat ≤ 57 := h.2
      have : '0'.toNat = 48 := rfl
      omega⟩
  else none

theorem Digit.ofChar?_toChar (d : Digit) : Digit.ofChar? d.toChar = some d := by
  revert d; decide

/-- The digits a text starts with, and what follows them. -/
def leadingDigits : List Char → List Digit × List Char
  | [] => ([], [])
  | c :: rest =>
    match Digit.ofChar? c with
    | none => ([], c :: rest)
    | some d => (d :: (leadingDigits rest).1, (leadingDigits rest).2)

/-- The number that digits denote when they follow a number already read. -/
def valueFrom (start : Nat) (digits : List Digit) : Nat :=
  digits.foldl (fun n d => 10 * n + d.val) start

def value (digits : List Digit) : Nat :=
  valueFrom 0 digits

/-- The digits of a natural number: one digit for zero, else none that leads with zero. -/
def numeral (n : Nat) : List Digit :=
  if h : n < 10 then [⟨n, h⟩]
  else numeral (n / 10) ++ [⟨n % 10, Nat.mod_lt _ (by decide)⟩]
termination_by n
decreasing_by omega

theorem valueFrom_append (start : Nat) (a b : List Digit) :
    valueFrom start (a ++ b) = valueFrom (valueFrom start a) b :=
  List.foldl_append

theorem value_numeral (n : Nat) : value (numeral n) = n := by
  fun_induction numeral n with
  | case1 n h => simp [value, valueFrom]
  | case2 n h ih =>
    rw [value, valueFrom_append, ← value, ih]
    simp only [valueFrom, List.foldl_cons, List.foldl_nil]
    omega

/-- How many digits a natural number is written with. -/
def width (n : Nat) : Nat :=
  if n < 10 then 1 else width (n / 10) + 1
termination_by n
decreasing_by omega

end DeferredJobs.Decimal
