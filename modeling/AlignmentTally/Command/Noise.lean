import AlignmentTally.Command.Options

/-!
# Octets by chance

The file from which a command takes its octets by chance: one that was asked for, or the device that
never runs out of them.
-/

namespace AlignmentTally.Command

open Machine

/-- A file with octets by chance. -/
structure Noise where
  /-- Its path. -/
  path : Text
  /-- The stream that it is read from. -/
  stream : Nat

namespace Noise

/-- Opens the file that was asked for, or the device. -/
def open_ (asked : Option Text) (front : Text) (status : Nat) : Work Noise := do
  let path := asked.getD "/dev/urandom"
  match ← Routine.openFile path .read with
  | .ok stream => return { path, stream }
  | .error error => Work.fail (front ++ Quoted.name path ++ ": " ++ error.words) status

/-- Reads some octets, in at most some rounds. A file without them ends the command with some
status. -/
def octets (noise : Noise) (status : Nat) : Nat → Nat → Work Text
  | _, 0 => return []
  | 0, _ => return []
  | rounds + 1, count => do
    match ← Routine.read noise.stream count with
    | .error error =>
      Work.fail (Quoted.between noise.path ++ ": read error: " ++ error.words) status
    | .ok [] => Work.fail (Quoted.between noise.path ++ ": end of file") status
    | .ok text => return text ++ (← octets noise status rounds (count - text.length))

end Noise

end AlignmentTally.Command
