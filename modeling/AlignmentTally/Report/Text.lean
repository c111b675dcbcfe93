import AlignmentTally.Format

/-!
# The plain report

The number of distinct rejected resources, then rejections by test and distinct resources by
format, each ascending by count. Without rejections only the first line and a blank one are
written, and no descriptor is read.
-/

namespace AlignmentTally.Report

/-- The line of a listing that gives a name its count. -/
def countLine (name : String) (count : Nat) : String := s!"{name} ({count}).\n"

/-- The number of distinct resources. -/
def uniqueSection (uniqueResources : Nat) : String :=
  s!"Unique resources alignment rejected: {uniqueResources}\n\n"

/-- The listing of tests. -/
def testSection (entries : List (String × Nat)) : String :=
  "Occurrences by test:\n" ++
    String.join (entries.map fun entry ↦ countLine entry.1 entry.2) ++ "\n"

/-- The listing of formats by label. -/
def formatSection (entries : List (String × Nat)) : String :=
  "Total occurrences (by format):\n" ++
    String.join (entries.map fun entry ↦ "Format ID:" ++ countLine entry.1 entry.2) ++ "\n"

/-- The plain report of tallies. -/
def text (tallies : Tallies) : Except TallyError String := do
  let unique := uniqueSection tallies.uniqueResources
  if tallies.isEmpty then return unique
  let formats ← tallies.formatCounts
  return unique ++ testSection tallies.byTest.ranked ++
    formatSection (formats.ranked.map fun entry ↦ (entry.1.label, entry.2))

end AlignmentTally.Report
