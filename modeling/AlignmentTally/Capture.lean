import AlignmentTally.Files.Basic
import AlignmentTally.TallyError

/-!
# Captured output

The octets that the test binary wrote, from a run or from a file to which a run was saved. They
are decoded only when their text is asked for, so that a run that wrote something other than text
can still be saved.
-/

namespace AlignmentTally

/-- The output of a run. -/
structure Capture where
  /-- What was written, on both streams, in the order in which it was written. -/
  octets : List UInt8
  /-- The exit code, unless the run was ended by a signal or is replayed. -/
  exitCode : Option Nat := none
  deriving DecidableEq, Repr, Inhabited

namespace Capture

/-- The text of the output. -/
def text (capture : Capture) : Except TallyError String :=
  (Utf8.decode capture.octets).mapError .decode

/-- The output that a file holds. -/
def ofFile (files : Files) (path : String) : Except TallyError Capture :=
  match files.read path with
  | .ok octets => .ok ⟨octets, none⟩
  | .error cause => .error (.capture cause)

/-- The file tree after the output has been saved. -/
def save (capture : Capture) (files : Files) (path : String) : Except TallyError Files :=
  (files.write path capture.octets).mapError .capture

end Capture

end AlignmentTally
