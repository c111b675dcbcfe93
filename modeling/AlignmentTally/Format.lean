import AlignmentTally.Json.Printer
import AlignmentTally.Json.Reader
import AlignmentTally.TallyError
import AlignmentTally.Tallies

/-!
# Formats of rejected resources

The format of a resource is the value of the top-level member `Format` of its descriptor. Formats
are told apart by that value, not by the label under which they are listed: `10`, `"10"` and
`10.0` are three formats, two of which share the label `10`.
-/

namespace AlignmentTally

/-- A resource format. -/
structure Format where
  /-- The compact text of the value, which tells formats apart. -/
  identity : String
  /-- The text under which the format is listed. -/
  label : String
  deriving DecidableEq, Repr, Inhabited

namespace Format

/-- The label of a value: a string stands for itself, other values for their compact text, except
that truth values and null are capitalised words. -/
def labelOf : Json → String
  | .string s => s
  | .bool true => "True"
  | .bool false => "False"
  | .null => "None"
  | value => value.compact

/-- The format that a value names. -/
def ofValue (value : Json) : Format := ⟨value.compact, labelOf value⟩

/-- The format of the resource that a descriptor describes. -/
def ofDescriptor (descriptor : String) : Except TallyError Format := do
  let value ← (Json.read descriptor).mapError (.parse descriptor)
  match value.member? "Format" with
  | some format => return ofValue format
  | none => throw (.missingFormat descriptor)

end Format

/-- How many distinct descriptors have each format, or the failure of the first descriptor that
has none. -/
def Tallies.formatCounts (tallies : Tallies) : Except TallyError (Counts Format) := do
  return .tally (← tallies.byResource.keys.mapM Format.ofDescriptor)

end AlignmentTally
