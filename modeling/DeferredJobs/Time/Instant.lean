/-!
# Instants

An instant is a count of seconds since 1970-01-01T00:00:00Z and of nanoseconds within the
second. Within a leap second the nanoseconds go on from 10^9. The range ends with the year
262142.
-/

namespace DeferredJobs

structure Instant where
  seconds : Int
  nanoseconds : Nat
  deriving DecidableEq

namespace Instant

/-- The end of the year 262142. -/
def latest : Instant := ⟨8210266876799, 999999999⟩

/-- Whole seconds later, unless that lies beyond the range. Where it leads out of a leap second, the
second counts as an ordinary one. -/
def add? (now : Instant) (delay : Nat) : Option Instant :=
  let leavesLeapSecond := delay ≠ 0 ∧ 1000000000 ≤ now.nanoseconds
  let nanoseconds := if leavesLeapSecond then now.nanoseconds - 1000000000 else now.nanoseconds
  let seconds := now.seconds + delay
  if seconds ≤ latest.seconds then some ⟨seconds, nanoseconds⟩ else none

/-- Whole seconds later, and at the latest the latest instant. -/
def after (now : Instant) (delay : Nat) : Instant :=
  (now.add? delay).getD latest

end Instant

end DeferredJobs
