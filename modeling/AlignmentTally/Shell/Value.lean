import AlignmentTally.Shell.Syntax

/-!
# What parameters stand for

A parameter stands for a text, or in the extended dialect for texts under numbers or under keys. A
text is the same as one item under 0. Keys are listed in the order of a number that is computed from
each, which is the order of a table with that many places.
-/

namespace AlignmentTally.Shell

open Machine

/-- What a parameter stands for. -/
inductive Value where
  /-- Nothing. -/
  | none
  /-- A text. -/
  | text (text : Text)
  /-- Texts under numbers, in the order of the numbers. -/
  | items (items : List (Nat × Text))
  /-- Texts under keys, in the order in which they are listed. -/
  | table (entries : List (Text × Text))
  deriving DecidableEq, Repr, Inhabited

namespace Value

/-- The key of the item that stands for all of a value. -/
def firstKey : Text := ['0']

/-- The text of a value: of several, the one under 0. -/
def text? : Value → Option Text
  | none => Option.none
  | text content => some content
  | items entries => entries.lookup 0
  | table entries => entries.lookup firstKey

/-- The texts of a value under their numbers. -/
def toItems : Value → List (Nat × Text)
  | none | table _ => []
  | text content => [(0, content)]
  | items entries => entries

/-- The texts of a value under their keys, in the order in which they are listed. -/
def entries : Value → List (Text × Text)
  | table entries => entries
  | value => value.toItems.map fun (n, content) ↦ (Text.ofNat n, content)

/-- The text of a value under a key. -/
def item? (value : Value) (key : Text) : Option Text := value.entries.lookup key

/-- Whether the keys of a value are no numbers. -/
def isTable : Value → Bool
  | table _ => true
  | _ => false

/-- Whether a value has items. -/
def hasItems : Value → Bool
  | table _ | items _ => true
  | _ => false

/-- One more than the greatest number of an item. -/
def size (value : Value) : Nat := (value.toItems.map fun (n, _) ↦ n + 1).foldl max 0

/-- The place of a key in a table: its octets, each multiplied in and then added without carry, in
32 bits, of which the last ten count. -/
def placeOf (key : Text) : Nat :=
  (key.foldl (fun (sum : UInt32) c ↦ (sum * 16777619) ^^^ UInt32.ofNat c.toNat) 2166136261).toNat %
    1024

/-- Entries with one more, which goes before those at the same place. -/
def insert (key content : Text) : List (Text × Text) → List (Text × Text)
  | [] => [(key, content)]
  | entry :: rest =>
    if placeOf key ≤ placeOf entry.1 then (key, content) :: entry :: rest
    else entry :: insert key content rest

/-- A value with a text under a key. -/
def setItem (value : Value) (key content : Text) : Value :=
  match value with
  | table entries =>
    if entries.any (·.1 = key) then
      table (entries.map fun entry ↦ if entry.1 = key then (key, content) else entry)
    else table (insert key content entries)
  | value =>
    let n := Text.natOfDigits 10 key
    items (((n, content) :: value.toItems.filter (·.1 ≠ n)).mergeSort fun a b ↦ a.1 ≤ b.1)

/-- A value with a text, which of several is the one under 0. -/
def setText (value : Value) (content : Text) : Value :=
  match value with
  | items _ | table _ => value.setItem firstKey content
  | _ => text content

/-- A value without the text under a key. -/
def eraseItem (value : Value) (key : Text) : Value :=
  match value with
  | table entries => table (entries.filter (·.1 ≠ key))
  | value => items (value.toItems.filter (·.1 ≠ Text.natOfDigits 10 key))

end Value

/-- A parameter with a name. -/
structure Variable where
  /-- What it stands for. -/
  value : Value := .none
  /-- Whether programs are given it. -/
  exported : Bool := false
  /-- Whether it stays as it is. -/
  readOnly : Bool := false
  /-- Whether texts that it is given are expressions. -/
  isInteger : Bool := false
  /-- Whether its text is the name of the parameter that is meant. -/
  isReference : Bool := false
  /-- The case of the letters that it is given, if that is fixed: great ones or small ones. -/
  upper : Option Bool := none
  deriving DecidableEq, Repr, Inhabited

/-- A text in the case that a parameter has. -/
def Variable.recased (entry : Variable) (text : Text) : Text :=
  match entry.upper with
  | none => text
  | some true => text.map Char.toUpper
  | some false => text.map Char.toLower

end AlignmentTally.Shell
