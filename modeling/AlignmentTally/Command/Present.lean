import AlignmentTally.Clock.Layout
import AlignmentTally.Clock.Reader
import AlignmentTally.Command.Work

/-!
# The present

The point in time at which a command works, in its zone, and points in time that are given to it.
-/

namespace AlignmentTally.Command

open Machine

namespace Present

/-- The point in time that a number of microseconds since 1970-01-01 is. -/
def instantOf (microseconds : Nat) : Instant :=
  { seconds := (microseconds / 1000000 : Nat), nanoseconds := microseconds % 1000000 * 1000 }

/-- The zone that the values say. -/
def ownZone : Work Zone := return .ofValue ((← get).values.lookup "TZ".toList)

/-- The present. -/
def present : Work Instant := return instantOf (← Routine.self).now

/-- The point in time that a text says. -/
def read? (zone : Zone) (text : Text) : Work (Option Instant) :=
  return Clock.read? zone (← present) text

end Present

end AlignmentTally.Command
