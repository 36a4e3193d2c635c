import DeferredJobs.Configuration.Format
import DeferredJobs.Time.Instant

/-!
# Cleanup of the history

The cleanup job runs within a window of minutes of each hour and plans its own next run. The
delay starts at ten seconds and doubles with every run that found nothing to delete, up to an
hour.
-/

namespace DeferredJobs

/-- A minute of an hour. -/
abbrev Minute := Fin 60

/-- A number as a minute; `field` names it in messages. -/
def Minute.ofNumber (field : String) (n : UInt32) : Except ConfigurationError Minute :=
  if h : n.toNat < 60 then .ok ⟨n.toNat, h⟩ else .error (.invalidValue field (toString n.toNat))

structure Cleanup where
  countEmptyRuns : UInt32 := 0
  /-- Triggered by hand, to run whatever the window says. -/
  immediatelyDue : Bool := false
  minuteFrom : Minute := 0
  minuteTo : Minute := 59
  deriving DecidableEq

namespace Cleanup

def withCountEmptyRuns (c : Cleanup) (count : UInt32) : Cleanup :=
  { c with countEmptyRuns := count }

def withImmediatelyDue (c : Cleanup) (due : Bool) : Cleanup :=
  { c with immediatelyDue := due }

/-- Both minutes are checked, the first one first, before anything changes. -/
def withWindow (c : Cleanup) (first last : UInt32) : Except ConfigurationError Cleanup := do
  let minuteFrom ← Minute.ofNumber "minuteFrom" first
  let minuteTo ← Minute.ofNumber "minuteTo" last
  return { c with minuteFrom, minuteTo }

def minuteNumber (minute : Minute) : UInt32 :=
  UInt32.ofNat minute.val

/-- The first delay and the last one, in seconds. -/
def firstDelay : UInt64 := 10

def lastDelay : UInt64 := 3600

def largestWord : UInt64 := 0xFFFFFFFFFFFFFFFF

/-- Two to the power of the runs, or the largest word where that is wider than a word. -/
def saturatedPower (runs : UInt32) : UInt64 :=
  if runs.toNat < 64 then 1 <<< runs.toUInt64 else largestWord

/-- The product, or the largest word where that is wider than a word. -/
def saturatedProduct (a b : UInt64) : UInt64 :=
  if a.toNat * b.toNat < UInt64.size then a * b else largestWord

/-- The delay before the next run, in seconds. -/
def delay (c : Cleanup) : Nat :=
  (min (saturatedProduct firstDelay (saturatedPower c.countEmptyRuns)) lastDelay).toNat

def nextRun (c : Cleanup) (now : Instant) : Instant :=
  now.after c.delay

/-- The counter and the flag may be missing, the window not. -/
def format : Format Cleanup where
  write c :=
    Object.empty
      |>.put .uint32 "countEmptyRuns" c.countEmptyRuns
      |>.put .boolean "immediatelyDue" c.immediatelyDue
      |>.put .uint32 "minuteFrom" (minuteNumber c.minuteFrom)
      |>.put .uint32 "minuteTo" (minuteNumber c.minuteTo)
  read o := do
    let countEmptyRuns ← o.get? .uint32 "countEmptyRuns"
    let immediatelyDue ← o.flag "immediatelyDue" false
    let minuteFrom ← Minute.ofNumber "minuteFrom" (← o.require .uint32 "minuteFrom")
    let minuteTo ← Minute.ofNumber "minuteTo" (← o.require .uint32 "minuteTo")
    return { countEmptyRuns := countEmptyRuns.getD 0, immediatelyDue, minuteFrom, minuteTo }

end Cleanup

end DeferredJobs
