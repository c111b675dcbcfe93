/-!
# Paths

A path is a text whose components are separated by slashes. Joining never normalises: it only
decides whether a slash is put between the two sides.
-/

namespace AlignmentTally.Path

/-- Whether a path starts at the root. -/
def isAbsolute (path : String) : Bool := path.toList.head? = some '/'

/-- The path of `right` seen from `left`: an absolute right side stands alone, and a slash is put
between the sides unless the left one is empty or ends in a slash. -/
def join (left right : String) : String :=
  if isAbsolute right then right
  else if left.isEmpty ∨ left.toList.getLast? = some '/' then left ++ right
  else left ++ "/" ++ right

/-- The path of the directory that holds what an absolute path leads to; the root holds itself. -/
def parent (path : String) : String :=
  match ((path.toList.reverse.dropWhile (· ≠ '/')).drop 1).reverse with
  | [] => "/"
  | directory => String.ofList directory

/-- The names between the slashes of a path. Empty names are left out. -/
def components (path : String) : List String :=
  (go path.toList).filterMap fun name ↦ if name.isEmpty then none else some (String.ofList name)
where
  /-- The pieces between slashes. -/
  go : List Char → List (List Char)
    | [] => [[]]
    | '/' :: rest => [] :: go rest
    | c :: rest => (go rest).modifyHead (c :: ·)

end AlignmentTally.Path
