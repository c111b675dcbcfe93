import AlignmentTally.LineEnding
import AlignmentTally.Text.Search

/-!
# Markers in the test output

Two kinds of line matter in the console output of the test binary: the one that announces a
test, `[ RUN      ] Suite.Name/Adapter`, and the one on which the allocator reports that it
rejected a resource, `Resource alignment …, resource : { … }`. Both are looked for in each
segment of the line between line feeds, and the first segment that holds the marker decides:
a line cut at `\r\n` may hold several segments, and a marker never spans two of them.

In a segment each marker is a search for a first word, and behind it for the text between the last
occurrence of a second word and the last closing character. No more of the line is checked: whatever
stands before the first word, between the two, and behind the closing character is passed over.

The same markers as patterns are in `AlignmentTally.Marker.Pattern`.
-/

namespace AlignmentTally.Marker

open Text

/-- The test name in one segment: what stands after `RUN`, between the last `] ` that ends
before the last `/` and that `/`. -/
def testNameIn? (segment : List Char) : Option (List Char) := do
  let started ← afterFirst? "RUN".toList segment
  let named ← beforeLast? '/' started
  afterLast? "] ".toList named

/-- The descriptor in one segment: what stands after `Resource alignment`, from the brace of the
last `resource : {` that opens before the last `}` up to that `}`. -/
def rejectedDescriptorIn? (segment : List Char) : Option (List Char) := do
  let rejected ← afterFirst? "Resource alignment".toList segment
  let named ← beforeLast? '}' rejected
  let inside ← afterLast? "resource : \x7b".toList named
  return '{' :: inside ++ ['}']

/-- The name of the test that a line announces. -/
def testName? (line : String) : Option String :=
  ((LineEnding.splitLf line.toList).findSome? testNameIn?).map String.ofList

/-- The descriptor of the resource that a line reports as rejected. -/
def rejectedDescriptor? (line : String) : Option String :=
  ((LineEnding.splitLf line.toList).findSome? rejectedDescriptorIn?).map String.ofList

end AlignmentTally.Marker
