import AlignmentTally.Command.Work

/-!
# Users and groups

Users and groups have numbers, and names that the system's files list: in each line a name, a word,
and the number, with colons between them.
-/

namespace AlignmentTally.Command

open Machine

namespace Accounts

/-- The names and numbers that a file lists. -/
def listed (disk : Disk) (path : Text) : List (Text × Nat) :=
  match disk.file? Disk.root path with
  | none => []
  | some file =>
    (Text.pieces '\n' (Text.ofBytes file.octets)).filterMap fun line ↦ do
      match Text.pieces ':' line with
      | name :: _ :: number :: _ => return (name, ← Text.toNat? number)
      | _ => none

/-- The users. -/
def users (disk : Disk) : List (Text × Nat) := listed disk "/etc/passwd"

/-- The groups. -/
def groups (disk : Disk) : List (Text × Nat) := listed disk "/etc/group"

/-- The name that a number has in a list, if it has one. -/
def nameIn? (list : List (Text × Nat)) (number : Nat) : Option Text :=
  (list.find? (·.2 = number)).map Prod.fst

/-- The name that a number has in a list, or its digits. -/
def nameIn (list : List (Text × Nat)) (number : Nat) : Text :=
  (nameIn? list number).getD (Text.ofNat number)

/-- The name of a user, or the digits of the number. -/
def userName (disk : Disk) (number : Nat) : Text := nameIn (users disk) number

/-- The name of a group, or the digits of the number. -/
def groupName (disk : Disk) (number : Nat) : Text := nameIn (groups disk) number

end Accounts

end AlignmentTally.Command
