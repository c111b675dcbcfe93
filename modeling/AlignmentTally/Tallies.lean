import AlignmentTally.Counts
import AlignmentTally.Marker

/-!
# Tallies of rejections

One pass over the lines of a log. The pass carries the name of the test that is running, which is
empty until a line announces one. A line that announces a test and reports a rejection counts
for the test that it announces.

Two maps are kept, one by descriptor and one by test, and recording a rejection counts once in each
(`Tallies.record`). Nothing is read of a descriptor here: it is a text, and whether it has a format
is asked when a report is made.

The pass is a fold over the lines (`Scan.run`), so a log in two parts is a pass over the first and,
from where that left off, over the second (`Scan.run_append`). The name that is carried is the only
thing that a line leaves to the next one, besides the tallies.
-/

namespace AlignmentTally

/-- Rejections by resource descriptor and by test. -/
structure Tallies where
  /-- Rejections of each distinct descriptor text. -/
  byResource : Counts String := .empty
  /-- Rejections while each test was running. -/
  byTest : Counts String := .empty
  deriving DecidableEq, Inhabited

namespace Tallies

/-- No rejections. -/
def empty : Tallies := {}

/-- Counts one rejection of `descriptor` while `test` was running. -/
def record (tallies : Tallies) (descriptor test : String) : Tallies where
  byResource := tallies.byResource.bump descriptor
  byTest := tallies.byTest.bump test

/-- The number of distinct descriptors rejected. -/
def uniqueResources (tallies : Tallies) : Nat := tallies.byResource.size

/-- The number of rejections. -/
def totalRejections (tallies : Tallies) : Nat := tallies.byResource.total

/-- Whether nothing was rejected. -/
def isEmpty (tallies : Tallies) : Bool := tallies.byResource.isEmpty

end Tallies

/-- Where a pass over the lines of a log stands. -/
structure Scan where
  /-- The name of the test that is running. -/
  test : String := ""
  /-- What was rejected so far. -/
  tallies : Tallies := .empty
  deriving DecidableEq, Inhabited

namespace Scan

/-- The pass after one more line. -/
def step (scan : Scan) (line : String) : Scan :=
  let test := (Marker.testName? line).getD scan.test
  match Marker.rejectedDescriptor? line with
  | some descriptor => ⟨test, scan.tallies.record descriptor test⟩
  | none => ⟨test, scan.tallies⟩

/-- The pass after some more lines. -/
def run (scan : Scan) (lines : List String) : Scan := lines.foldl step scan

theorem run_append (scan : Scan) (before after : List String) :
    scan.run (before ++ after) = (scan.run before).run after :=
  List.foldl_append

end Scan

/-- The tallies of a log, cut into lines under a line ending. -/
def Tallies.ofText (ending : LineEnding) (text : String) : Tallies :=
  (Scan.run {} (ending.lines text)).tallies

end AlignmentTally
