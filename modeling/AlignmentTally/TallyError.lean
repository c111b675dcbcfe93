import AlignmentTally.Json.Error
import AlignmentTally.SystemError
import AlignmentTally.Utf8

/-!
# Failures of a tally run

Each failure names what was being done and, where something else caused it, that cause. The words
for a failure contain the words for its cause, so a chain that lists a failure followed by its
causes says the cause twice.
-/

namespace AlignmentTally

/-- What ends a tally run early. -/
inductive TallyError where
  /-- The test binary could not be started. -/
  | launch (program : String) (cause : SystemError)
  /-- Reading or saving output failed. -/
  | capture (cause : SystemError)
  /-- The output is not UTF-8. -/
  | decode (cause : Utf8.Error)
  /-- The descriptor of a rejected resource is not JSON. -/
  | parse (descriptor : String) (cause : Json.Error)
  /-- The descriptor of a rejected resource has no member `Format`. -/
  | missingFormat (descriptor : String)
  deriving DecidableEq, Repr

namespace TallyError

/-- The failure in words. -/
def message : TallyError → String
  | launch program cause => s!"failed to launch {program}: {cause.message}"
  | capture cause => s!"failed to capture test output: {cause.message}"
  | decode cause => s!"test output is not valid UTF-8: {cause.message}"
  | parse descriptor cause => s!"failed to parse resource descriptor {descriptor}: {cause.message}"
  | missingFormat descriptor => s!"resource descriptor has no \"Format\" field: {descriptor}"

/-- The words for the cause of a failure. -/
def cause? : TallyError → Option String
  | launch _ cause => some cause.message
  | capture cause => some cause.message
  | decode cause => some cause.message
  | parse _ cause => some cause.message
  | missingFormat _ => none

/-- The failure followed by its cause. -/
def chain (error : TallyError) : List String := error.message :: error.cause?.toList

end TallyError

end AlignmentTally
