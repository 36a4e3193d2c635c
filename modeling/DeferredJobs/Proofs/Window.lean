import Mathlib.Data.List.Induction
import DeferredJobs.Proofs.Cleanup
import DeferredJobs.Proofs.Configuration.Demand

/-!
# The window of the cleanup job

A window is checked where it is set and where it is read, by the same check of one minute, so a
configuration holds the window that was accepted last, whichever way it came about. Nothing that is
written is refused, since what is written has passed the check before.

* `Minute.ofNumber_ok_iff`, `Minute.ofNumber_error_iff`: the check of one minute.
* `withWindow_ok_iff`, `withWindow_error_iff`: the check of a window.
* `window_apply`, `window_after`: the window after one change and after any changes.
* `decided`: what is demanded of an object.
* `window_bounded`: all of it together.
-/

namespace DeferredJobs

/-! ## Minutes -/

namespace Minute

variable {field : String} {n : UInt32} {minute : Minute} {e : ConfigurationError}

theorem minuteNumber_le (minute : Minute) : (Cleanup.minuteNumber minute).toNat ≤ 59 := by
  have hBound := minute.isLt
  rw [toNat_minuteNumber]
  omega

/-- A minute is accepted as the number that it is written as. -/
theorem ofNumber_ok_iff : ofNumber field n = .ok minute ↔ Cleanup.minuteNumber minute = n := by
  constructor
  · intro h
    rw [ofNumber] at h
    split at h
    · cases h
      exact UInt32.ofNat_toNat
    · cases h
  · rintro rfl
    exact ofNumber_minuteNumber field minute

theorem exists_ofNumber_iff : (∃ minute, ofNumber field n = .ok minute) ↔ n.toNat ≤ 59 := by
  constructor
  · rintro ⟨minute, h⟩
    rw [← ofNumber_ok_iff.1 h]
    exact minuteNumber_le minute
  · intro h
    refine ⟨⟨n.toNat, Nat.lt_succ_of_le h⟩, ?_⟩
    rw [ofNumber, dif_pos (Nat.lt_succ_of_le h)]

theorem ofNumber_error_iff :
    ofNumber field n = .error e ↔ 59 < n.toNat ∧ e = .invalidValue field (toString n.toNat) := by
  rw [ofNumber]
  by_cases h : n.toNat < 60
  · have hAccepted : ¬ 59 < n.toNat := by omega
    simp [h, hAccepted]
  · have hRefused : 59 < n.toNat := by omega
    simp [h, hRefused, eq_comm]

end Minute

namespace Cleanup

variable {c changed : Cleanup} {first last : UInt32} {e : ConfigurationError}

/-! ## One window -/

/-- Both ends of the window, as they are written. -/
def window (c : Cleanup) : UInt32 × UInt32 :=
  (minuteNumber c.minuteFrom, minuteNumber c.minuteTo)

theorem withWindow_ok_iff :
    c.withWindow first last = .ok changed ↔
      changed.window = (first, last) ∧ changed.countEmptyRuns = c.countEmptyRuns ∧
        changed.immediatelyDue = c.immediatelyDue := by
  constructor
  · intro h
    obtain ⟨minuteFrom, hFrom, h⟩ := bind_eq_ok h
    obtain ⟨minuteTo, hTo, h⟩ := bind_eq_ok h
    cases h
    rw [window, Minute.ofNumber_ok_iff.1 hFrom, Minute.ofNumber_ok_iff.1 hTo]
    exact ⟨rfl, rfl, rfl⟩
  · rintro ⟨hWindow, hCount, hDue⟩
    obtain ⟨hFrom, hTo⟩ := Prod.mk.inj hWindow
    rw [withWindow, Minute.ofNumber_ok_iff.2 hFrom, ok_bind, Minute.ofNumber_ok_iff.2 hTo, ok_bind,
      ← hCount, ← hDue]
    rfl

theorem withWindow_error_iff :
    c.withWindow first last = .error e ↔
      59 < first.toNat ∧ e = .invalidValue "minuteFrom" (toString first.toNat) ∨
        first.toNat ≤ 59 ∧ 59 < last.toNat ∧ e = .invalidValue "minuteTo" (toString last.toNat) := by
  constructor
  · intro h
    rcases bind_eq_error h with hFrom | ⟨minuteFrom, hFrom, h⟩
    · exact .inl (Minute.ofNumber_error_iff.1 hFrom)
    · rcases bind_eq_error h with hTo | ⟨minuteTo, -, h⟩
      · exact .inr ⟨Minute.exists_ofNumber_iff.1 ⟨minuteFrom, hFrom⟩, Minute.ofNumber_error_iff.1 hTo⟩
      · cases h
  · rintro (hFrom | ⟨hFrom, hTo⟩)
    · rw [withWindow, Minute.ofNumber_error_iff.2 hFrom]
      rfl
    · obtain ⟨minuteFrom, hFrom⟩ := Minute.exists_ofNumber_iff.2 hFrom
      rw [withWindow, hFrom, ok_bind, Minute.ofNumber_error_iff.2 hTo]
      rfl

theorem exists_withWindow_iff :
    (∃ changed, c.withWindow first last = .ok changed) ↔ first.toNat ≤ 59 ∧ last.toNat ≤ 59 := by
  constructor
  · rintro ⟨changed, h⟩
    obtain ⟨hFrom, hTo⟩ := Prod.mk.inj (withWindow_ok_iff.1 h).1
    rw [← hFrom, ← hTo]
    exact ⟨Minute.minuteNumber_le _, Minute.minuteNumber_le _⟩
  · intro h
    cases hResult : c.withWindow first last with
    | ok changed => exact ⟨changed, rfl⟩
    | error e =>
      have hFault := withWindow_error_iff.1 hResult
      omega

/-! ## Any changes -/

inductive Change where
  | countEmptyRuns (count : UInt32)
  | immediatelyDue (due : Bool)
  | window (first last : UInt32)

/-- A window that is refused leaves the configuration in force. -/
def apply (c : Cleanup) : Change → Cleanup
  | .countEmptyRuns count => c.withCountEmptyRuns count
  | .immediatelyDue due => c.withImmediatelyDue due
  | .window first last =>
    match c.withWindow first last with
    | .ok changed => changed
    | .error _ => c

/-- The configuration after changes from the default one. -/
def after (changes : List Change) : Cleanup :=
  changes.foldl apply {}

namespace Change

def count? : Change → Option UInt32
  | countEmptyRuns count => some count
  | immediatelyDue _ | window _ _ => none

def due? : Change → Option Bool
  | immediatelyDue due => some due
  | countEmptyRuns _ | window _ _ => none

/-- The window that is set, if both of its ends are minutes of an hour. -/
def window? : Change → Option (UInt32 × UInt32)
  | window first last => if first.toNat ≤ 59 ∧ last.toNat ≤ 59 then some (first, last) else none
  | countEmptyRuns _ | immediatelyDue _ => none

/-- What the changes set last in one respect. -/
def last? {α : Type} (part? : Change → Option α) (changes : List Change) : Option α :=
  (changes.filterMap part?).getLast?

theorem last?_concat {α : Type} (part? : Change → Option α) (changes : List Change)
    (change : Change) :
    last? part? (changes ++ [change]) = (part? change).or (last? part? changes) := by
  rw [last?, List.filterMap_append, List.getLast?_append, last?]
  cases hPart : part? change with
  | none => simp [hPart]
  | some a => simp [hPart]

end Change

theorem window_apply (c : Cleanup) (change : Change) :
    (c.apply change).window = change.window?.getD c.window := by
  cases change with
  | countEmptyRuns count => rfl
  | immediatelyDue due => rfl
  | window first last =>
    rw [Change.window?, apply]
    cases hResult : c.withWindow first last with
    | ok changed =>
      rw [if_pos (exists_withWindow_iff.1 ⟨changed, hResult⟩), Option.getD_some]
      exact (withWindow_ok_iff.1 hResult).1
    | error e =>
      have hFault := withWindow_error_iff.1 hResult
      rw [if_neg (by omega), Option.getD_none]

/-- A window changes nothing else, whether it is accepted or refused. -/
theorem rest_apply (c : Cleanup) (change : Change) :
    (c.apply change).countEmptyRuns = change.count?.getD c.countEmptyRuns ∧
      (c.apply change).immediatelyDue = change.due?.getD c.immediatelyDue := by
  cases change with
  | countEmptyRuns count => exact ⟨rfl, rfl⟩
  | immediatelyDue due => exact ⟨rfl, rfl⟩
  | window first last =>
    rw [apply]
    cases hResult : c.withWindow first last with
    | ok changed => exact (withWindow_ok_iff.1 hResult).2
    | error e => exact ⟨rfl, rfl⟩

theorem after_concat (changes : List Change) (change : Change) :
    after (changes ++ [change]) = (after changes).apply change := by
  rw [after, List.foldl_append]
  rfl

/-- The window that was accepted last, or the whole hour. -/
theorem window_after (changes : List Change) :
    (after changes).window = (Change.last? Change.window? changes).getD (0, 59) := by
  induction changes using List.reverseRecOn with
  | nil => rfl
  | append_singleton changes change ih =>
    rw [after_concat, window_apply, ih, Change.last?_concat]
    cases change.window? <;> rfl

theorem rest_after (changes : List Change) :
    (after changes).countEmptyRuns = (Change.last? Change.count? changes).getD 0 ∧
      (after changes).immediatelyDue = (Change.last? Change.due? changes).getD false := by
  induction changes using List.reverseRecOn with
  | nil => exact ⟨rfl, rfl⟩
  | append_singleton changes change ih =>
    obtain ⟨hCount, hDue⟩ := rest_apply (after changes) change
    rw [after_concat, hCount, hDue, ih.1, ih.2, Change.last?_concat, Change.last?_concat]
    constructor
    · cases change.count? <;> rfl
    · cases change.due? <;> rfl

/-! ## Reading -/

open Demand

/-- A number that is a minute of an hour. -/
def minute (name : String) : Demand :=
  content .uint32 name (fun n => n.toNat ≤ 59) fun n e =>
    59 < n.toNat ∧ e = .invalidValue name (toString n.toNat)

/-- The counter and the flag may be left out. -/
def demand : Demand :=
  .all [optional .uint32 "countEmptyRuns", flag "immediatelyDue", minute "minuteFrom",
    minute "minuteTo"]

theorem decided_minute (o : Object) (name : String) :
    (minute name).Decided o (o.require .uint32 name >>= Minute.ofNumber name) := by
  apply decided_content FieldType.exact_uint32
  · intro n
    exact Minute.exists_ofNumber_iff
  · intro n e
    exact Minute.ofNumber_error_iff

theorem decided (o : Object) : demand.Decided o (format.read o) := by
  refine .cons (decided_optional FieldType.exact_uint32 o "countEmptyRuns") fun count => ?_
  refine .cons (decided_flag o "immediatelyDue") fun immediatelyDue => ?_
  rw [← bind_assoc]
  refine .cons (decided_minute o "minuteFrom") fun minuteFrom => ?_
  rw [← bind_assoc]
  refine .cons (decided_minute o "minuteTo") fun minuteTo => ?_
  exact .nil _

/-- The ends of the window are read as they are. -/
theorem window_of_read {o : Object} (h : format.read o = .ok c) :
    o.find? "minuteFrom" = some (FieldType.uint32.write c.window.1) ∧
      o.find? "minuteTo" = some (FieldType.uint32.write c.window.2) := by
  obtain ⟨count, -, h⟩ := bind_eq_ok h
  obtain ⟨immediatelyDue, -, h⟩ := bind_eq_ok h
  obtain ⟨first, hFirst, h⟩ := bind_eq_ok h
  obtain ⟨minuteFrom, hFrom, h⟩ := bind_eq_ok h
  obtain ⟨last, hLast, h⟩ := bind_eq_ok h
  obtain ⟨minuteTo, hTo, h⟩ := bind_eq_ok h
  cases h
  have hFirst := (Object.require_ok_iff FieldType.exact_uint32).1 hFirst
  have hLast := (Object.require_ok_iff FieldType.exact_uint32).1 hLast
  rw [window, Minute.ofNumber_ok_iff.1 hFrom, Minute.ofNumber_ok_iff.1 hTo]
  exact ⟨hFirst, hLast⟩

/-! ## The invariant -/

/-- A window within the hour, and what is written of the configuration is read as it again. -/
structure Kept (c : Cleanup) : Prop where
  first_le : c.window.1.toNat ≤ 59
  last_le : c.window.2.toNat ≤ 59
  read_write : format.read (format.write c) = .ok c

theorem kept (c : Cleanup) : Kept c where
  first_le := Minute.minuteNumber_le c.minuteFrom
  last_le := Minute.minuteNumber_le c.minuteTo
  read_write := lossless.read_write c trivial

/-- After any changes from the default configuration, and in every configuration that is read, the
window is the one that was accepted last and within the hour, and it is read back. A window is refused
exactly if one of its ends is beyond the hour, the first being named first, and otherwise nothing
else changes. An object is read exactly if it meets its demand, and else the first fault is told. -/
theorem window_bounded :
    (∀ changes : List Change,
      (after changes).window = (Change.last? Change.window? changes).getD (0, 59) ∧
      (after changes).countEmptyRuns = (Change.last? Change.count? changes).getD 0 ∧
      (after changes).immediatelyDue = (Change.last? Change.due? changes).getD false ∧
      Kept (after changes)) ∧
    (∀ (o : Object) (c : Cleanup), format.read o = .ok c →
      o.find? "minuteFrom" = some (FieldType.uint32.write c.window.1) ∧
      o.find? "minuteTo" = some (FieldType.uint32.write c.window.2) ∧
      Kept c) ∧
    (∀ (c : Cleanup) (first last : UInt32),
      ((∃ changed, c.withWindow first last = .ok changed) ↔
        first.toNat ≤ 59 ∧ last.toNat ≤ 59) ∧
      (∀ changed, c.withWindow first last = .ok changed ↔
        changed.window = (first, last) ∧ changed.countEmptyRuns = c.countEmptyRuns ∧
          changed.immediatelyDue = c.immediatelyDue) ∧
      ∀ e, c.withWindow first last = .error e ↔
        59 < first.toNat ∧ e = .invalidValue "minuteFrom" (toString first.toNat) ∨
          first.toNat ≤ 59 ∧ 59 < last.toNat ∧
            e = .invalidValue "minuteTo" (toString last.toNat)) ∧
    ∀ o : Object, demand.Decided o (format.read o) := by
  refine ⟨?_, ?_, ?_, decided⟩
  · intro changes
    obtain ⟨hCount, hDue⟩ := rest_after changes
    exact ⟨window_after changes, hCount, hDue, kept (after changes)⟩
  · intro o c hRead
    obtain ⟨hFrom, hTo⟩ := window_of_read hRead
    exact ⟨hFrom, hTo, kept c⟩
  · intro c first last
    refine ⟨exists_withWindow_iff, ?_, ?_⟩
    · intro changed
      exact withWindow_ok_iff
    · intro e
      exact withWindow_error_iff

/-- A window up to the last minute is read although the counter is null, and one that ends a minute
later is refused after another was accepted. -/
theorem window_bounded_last_minute :
    (∃ c, format.read ⟨[("countEmptyRuns", .null), ("minuteFrom", .int { value := 7 }),
        ("minuteTo", .int { value := 59 })]⟩ = .ok c ∧ c.window = (7, 59) ∧ Kept c) ∧
      (after [.window 7 30, .immediatelyDue true, .window 7 60]).window = (7, 30) := by
  obtain ⟨hAfter, hRead, -, -⟩ := window_bounded
  constructor
  · refine ⟨{ minuteFrom := 7 }, rfl, rfl, ?_⟩
    obtain ⟨-, -, hKept⟩ := hRead ⟨[("countEmptyRuns", .null), ("minuteFrom", .int { value := 7 }),
      ("minuteTo", .int { value := 59 })]⟩ { minuteFrom := 7 } rfl
    exact hKept
  · exact (hAfter [.window 7 30, .immediatelyDue true, .window 7 60]).1

end Cleanup

end DeferredJobs
