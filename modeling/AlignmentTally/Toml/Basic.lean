/-!
# TOML values and documents

A document is a list of bindings followed by sections, each with a header and bindings of its own.
A header `[a.b]` opens the table `b` in `a`; a header `[[a.b]]` adds a table to the array `b`.

A table remembers how it came to be, because that decides what may still be added to it: a table
under its own header is closed to headers and dotted keys, one that exists only because a header
names something below it may still get its own header, one made by a dotted key may only be
extended by dotted keys, and an inline table is complete.

Floats and dates are kept as they are written; nothing in a settings file is either.
-/

namespace AlignmentTally

namespace Toml

/-- How a table came to be. -/
inductive Origin where
  /-- By its own header, or as the document. -/
  | header
  /-- By a header that names something below it. -/
  | path
  /-- By a dotted key. -/
  | dotted
  /-- In braces. -/
  | inline
  /-- By a dotted key in braces. -/
  | inlineDotted
  deriving DecidableEq, Repr, Inhabited

/-- Whether a table exists only because something below it was named. -/
def Origin.isImplied : Origin → Bool
  | path | dotted | inlineDotted => true
  | header | inline => false

/-- Whether a table was made by a dotted key. -/
def Origin.isDotted : Origin → Bool
  | dotted | inlineDotted => true
  | header | path | inline => false

/-- Whether a table stands in braces. -/
def Origin.isInline : Origin → Bool
  | inline | inlineDotted => true
  | header | path | dotted => false

end Toml

/-- A TOML value. -/
inductive Toml where
  | string (value : String)
  | boolean (value : Bool)
  | integer (value : Int)
  | float (written : String)
  | dateTime (written : String)
  | array (items : List Toml)
  | table (origin : Toml.Origin) (entries : List (String × Toml))
  /-- An array of tables that each have a header of their own. -/
  | tables (elements : List Toml)
  deriving Repr, Inhabited

namespace Toml

/-- Entries with the value of one key replaced, or added at the end. -/
def setEntry (key : String) (value : Toml) : List (String × Toml) → List (String × Toml)
  | [] => [(key, value)]
  | (k, v) :: rest => if k = key then (key, value) :: rest else (k, v) :: setEntry key value rest

/-- Entries without a key. -/
def eraseEntry (key : String) (entries : List (String × Toml)) : List (String × Toml) :=
  entries.filter (·.1 ≠ key)

/-- Applies `change` to the entries of the table that `keys` lead to from a table. Tables missing
on the way are made with the origin `fresh`; the last table of an array of tables stands for the
array. A dotted key does not lead into a table that is already complete, and may change only a
table made by a dotted key. -/
def updateAt (fresh : Origin) (change : List (String × Toml) → Option (List (String × Toml))) :
    List String → Origin → List (String × Toml) → Option (List (String × Toml))
  | [], origin, entries =>
    if fresh ≠ .path ∧ ¬ origin.isDotted then none else change entries
  | key :: rest, _, entries =>
    match entries.lookup key with
    | none => do
      let child ← updateAt fresh change rest fresh []
      return setEntry key (.table fresh child) entries
    | some (.table origin child) =>
      if origin = .inline ∨ (fresh ≠ .path ∧ ¬ origin.isImplied) then none
      else do
        let child ← updateAt fresh change rest origin child
        return setEntry key (.table origin child) entries
    | some (.tables elements) =>
      match elements.getLast? with
      | some (.table origin child) => do
        let child ← updateAt fresh change rest origin child
        return setEntry key (.tables (elements.dropLast ++ [.table origin child])) entries
      | _ => none
    | some _ => none

/-- Adds a key with a value; no key stands twice. -/
def addEntry (key : String) (value : Toml) (entries : List (String × Toml)) :
    Option (List (String × Toml)) :=
  if (entries.lookup key).isSome then none else some (entries ++ [(key, value)])

/-- Adds a value under a dotted key. -/
def addDotted (fresh : Origin) (path : List String) (key : String) (value : Toml)
    (entries : List (String × Toml)) : Option (List (String × Toml)) :=
  match path with
  | [] => addEntry key value entries
  | path => updateAt fresh (addEntry key value) path .header entries

/-- A key with a value, under a path of keys. -/
structure Binding where
  /-- The keys before the last dot. -/
  path : List String
  /-- The last key. -/
  key : String
  /-- The value. -/
  value : Toml
  deriving Repr, Inhabited

/-- Adds bindings one after another. -/
def addAll (fresh : Origin) (bindings : List Binding) (entries : List (String × Toml)) :
    Option (List (String × Toml)) :=
  bindings.foldlM (fun entries b ↦ addDotted fresh b.path b.key b.value entries) entries

/-- The inline table with some bindings. -/
def ofBindings (bindings : List Binding) : Option Toml := do
  return .table .inline (← addAll .inlineDotted bindings [])

/-! ### Documents -/

/-- A header with the bindings that follow it. -/
structure Section where
  /-- Whether the header adds a table to an array. -/
  isElement : Bool
  /-- The keys before the last dot of the header. -/
  path : List String
  /-- The last key of the header. -/
  key : String
  /-- The bindings below the header. -/
  bindings : List Binding
  deriving Repr, Inhabited

/-- A document as it is written. -/
structure Source where
  /-- The bindings before the first header. -/
  bindings : List Binding
  /-- The sections. -/
  sections : List Section
  deriving Repr, Inhabited

/-- Adds a section to the entries of the table above it. -/
def Section.addTo (s : Section) (entries : List (String × Toml)) :
    Option (List (String × Toml)) :=
  if s.isElement then do
    let element ← addAll .dotted s.bindings []
    match entries.lookup s.key with
    | none => return entries ++ [(s.key, .tables [.table .header element])]
    | some (.tables elements) =>
      return setEntry s.key (.tables (elements ++ [.table .header element])) entries
    | some _ => none
  else do
    let start ←
      match entries.lookup s.key with
      | none => some []
      | some (.table .path entries) => some entries
      | some _ => none
    return eraseEntry s.key entries ++ [(s.key, .table .header (← addAll .dotted s.bindings start))]

/-- The entries of a document. -/
def Source.entries (source : Source) : Option (List (String × Toml)) := do
  let top ← addAll .dotted source.bindings []
  source.sections.foldlM (fun entries s ↦ updateAt .path s.addTo s.path .header entries) top

/-- The document as one table. -/
def Source.toToml (source : Source) : Option Toml := do return .table .header (← source.entries)

end Toml

end AlignmentTally
