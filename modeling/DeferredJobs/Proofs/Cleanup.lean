import DeferredJobs.Cleanup
import DeferredJobs.Proofs.Configuration.Format

/-!
# Cleanup configurations are read back

All four fields are always written. The type of a minute keeps the window within the hour, so the
check on reading never refuses what was written.
-/

namespace DeferredJobs

open Object

theorem Minute.toNat_minuteNumber (minute : Minute) :
    (Cleanup.minuteNumber minute).toNat = minute.val :=
  UInt32.toNat_ofNat_of_lt' (Nat.lt_trans minute.isLt (by decide))

theorem Minute.ofNumber_minuteNumber (field : String) (minute : Minute) :
    Minute.ofNumber field (Cleanup.minuteNumber minute) = .ok minute := by
  simp only [Minute.ofNumber, toNat_minuteNumber, dif_pos minute.isLt]

theorem Cleanup.lossless : format.Lossless fun _ => True where
  read_write c _ := by
    have hCount : (format.write c).get? .uint32 "countEmptyRuns" = .ok (some c.countEmptyRuns) :=
      get?_of_find? (by simp [format])
    have hDue : (format.write c).flag "immediatelyDue" false = .ok c.immediatelyDue := by
      have hBoolean : (format.write c).get? .boolean "immediatelyDue" =
          .ok (some c.immediatelyDue) := get?_of_find? (by simp [format])
      rw [flag, hBoolean]
      rfl
    have hFrom : (format.write c).require .uint32 "minuteFrom" = .ok (minuteNumber c.minuteFrom) :=
      require_of_find? (by simp [format])
    have hTo : (format.write c).require .uint32 "minuteTo" = .ok (minuteNumber c.minuteTo) :=
      require_of_find? (by simp [format])
    generalize format.write c = o at hCount hDue hFrom hTo ⊢
    simp only [format, hCount, hDue, hFrom, hTo, Minute.ofNumber_minuteNumber, ok_bind]
    rfl
  proper_of_read _ _ _ := trivial
  storable _ :=
    storable_put (storable_put (storable_put (storable_put (storable_empty 126)
      (Json.storable_int 126 _) _) (Json.storable_bool 126 _) _)
      (Json.storable_int 126 _) _) (Json.storable_int 126 _) _

end DeferredJobs
