import Switchboard.Time.Date

/-!
# Instants

A point in time together with the distance from universal time of the clock that told it. Order and
difference depend on the point alone; the distance only decides how the instant is written.
-/

namespace Switchboard.Time

structure Instant where
  /-- Nanoseconds since the start of 1970 in universal time. -/
  nanos : Int
  /-- Minutes by which the clock is ahead of universal time. -/
  offset : Int
  deriving DecidableEq, Repr

def secondNanos : Int := 1000000000

def daySeconds : Int := 86400

/-- The later of two instants; of two readings of one point the second. -/
def later (a b : Instant) : Instant := if a.nanos ≤ b.nanos then b else a

/-- The seconds of universal time within the years -9999 to 9999. -/
def unixSecondsInRange (seconds : Int) : Bool :=
  decide (-377705116800 ≤ seconds ∧ seconds ≤ 253402300799)

/-- The instant a number of seconds after the start of 1970, within the years -9999 to 9999. -/
def Instant.ofUnixSeconds? (seconds : Int) : Option Instant :=
  if unixSecondsInRange seconds then some ⟨seconds * secondNanos, 0⟩ else none

/-- The instant a number of milliseconds after the start of 1970, within the same years. -/
def Instant.ofUnixMillis? (millis : Int) : Option Instant :=
  if unixSecondsInRange (millis / 1000) then some ⟨millis * 1000000, 0⟩ else none

/-- The seconds shown by the clock, counted from its own start of 1970. -/
def Instant.localSeconds (t : Instant) : Int := t.nanos / secondNanos + t.offset * 60

/-- The date shown by the clock. -/
def Instant.localDate (t : Instant) : Date := Date.ofDayNumber (t.localSeconds / daySeconds)

theorem later_nanos (a b : Instant) : (later a b).nanos = max a.nanos b.nanos := by
  unfold later; split <;> omega

theorem nanos_le_later_left (a b : Instant) : a.nanos ≤ (later a b).nanos := by
  rw [later_nanos]; omega

theorem nanos_le_later_right (a b : Instant) : b.nanos ≤ (later a b).nanos := by
  rw [later_nanos]; omega

end Switchboard.Time
