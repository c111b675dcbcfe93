import AlignmentTally.Files.Basic
import AlignmentTally.Settings.Basic
import AlignmentTally.Toml.Reader
import AlignmentTally.Utf8

/-!
# Reading settings

A settings file is a TOML document in UTF-8. What it leaves out keeps its default.

A section is a table, whose unknown keys are ignored, or an array that gives its settings in their
order. So each setting has a key and a place, and it is looked up by either (`setting?`). A date in
place of a section gives no setting. A line ending is a word, or a table with that word as its key
and nothing below it.

Other values in place of a setting are refused, and then nothing is loaded: settings are never taken
from a part of a file. What is wrong with a file is not described any further than whether it cannot
be read as text or its text cannot be read as settings.
-/

namespace AlignmentTally.Settings

/-! ### Values -/

/-- The text of a string. -/
def text? : Toml → Option String
  | .string s => some s
  | _ => none

/-- The truth value. -/
def bool? : Toml → Option Bool
  | .boolean b => some b
  | _ => none

/-- The items of an array, of values or of tables. -/
def items? : Toml → Option (List Toml)
  | .array items => some items
  | .tables elements => some elements
  | _ => none

/-- The texts of an array of strings. -/
def texts? (value : Toml) : Option (List String) := do (← items? value).mapM text?

/-- Whether a value is a table or an array with nothing in it. -/
def isEmpty : Toml → Bool
  | .table _ entries => entries.isEmpty
  | .array items => items.isEmpty
  | .tables elements => elements.isEmpty
  | _ => false

/-- The line ending that a value names: a word, or a table with that word as its only key. -/
def lineEnding? : Toml → Option LineEnding
  | .string word => LineEnding.ofWord? word
  | .table _ [(word, value)] => do
    let ending ← LineEnding.ofWord? word
    if isEmpty value then return ending else none
  | _ => none

/-! ### Sections -/

/-- Whether a value can stand for a section. -/
def isSection : Toml → Bool
  | .table .. | .array _ | .tables _ | .dateTime _ => true
  | _ => false

/-- The value that a section gives to a setting, by its key or its place. -/
def setting? (value : Toml) (place : Nat) (key : String) : Option Toml :=
  match value with
  | .table _ entries => entries.lookup key
  | .array items => items[place]?
  | .tables elements => elements[place]?
  | _ => none

/-- The setting of a section, or its default. -/
def setting {α : Type} (value : Toml) (place : Nat) (key : String) (default : α)
    (read? : Toml → Option α) : Option α :=
  match setting? value place key with
  | some given => read? given
  | none => some default

/-- The general section. -/
def general? (value : Toml) : Option General := do
  if ¬ isSection value then none
  return { verbose := ← setting value 0 "verbose" false bool? }

/-- The target section. -/
def target? (value : Toml) : Option Target := do
  if ¬ isSection value then none
  let default : Target := {}
  return {
    repoRoot := ← setting value 0 "repo_root" none fun given ↦ (text? given).map some
    buildDir := ← setting value 1 "build_dir" default.buildDir text?
    binaryName := ← setting value 2 "binary_name" default.binaryName text?
    backend := ← setting value 3 "backend" default.backend text?
    adapterVendorId := ← setting value 4 "adapter_vendor_id" default.adapterVendorId text?
    extraArgs := ← setting value 5 "extra_args" [] texts? }

/-- The parse section. -/
def parse? (value : Toml) : Option Parse := do
  if ¬ isSection value then none
  return { lineEnding := ← setting value 0 "line_ending" .crlf lineEnding? }

/-- The settings that a document gives. -/
def ofToml? (document : Toml) : Option Settings := do
  return {
    general := ← setting document 0 "general" {} general?
    target := ← setting document 1 "target" {} target?
    parse := ← setting document 2 "parse" {} parse? }

/-- The settings that a text gives. -/
def read? (text : String) : Option Settings := do ofToml? (← Toml.read? text)

/-! ### Files -/

/-- Why a settings file gives no settings. -/
inductive Error where
  /-- The file cannot be read. -/
  | unreadable (path : String) (cause : SystemError)
  /-- The text of the file is not TOML, or gives a setting a value that does not fit. -/
  | malformed (path : String)
  deriving DecidableEq, Repr

/-- What was being done when the failure arose. -/
def Error.message : Error → String
  | unreadable path _ => s!"Failed to read config file: {path}"
  | malformed path => s!"Failed to parse config file: {path}"

/-- The failure followed by its cause. What exactly is malformed is not told. -/
def Error.chain : Error → List String
  | unreadable path cause => [message (unreadable path cause), cause.message]
  | malformed path => [message (malformed path)]

/-- The settings that a file gives. -/
def load (files : Files) (path : String) : Except Error Settings := do
  let octets ← (files.read path).mapError (.unreadable path)
  let text ← (Utf8.decode octets).mapError fun _ ↦ .unreadable path .notUtf8
  match read? text with
  | some settings => return settings
  | none => throw (.malformed path)

/-- The settings that the file in the working directory gives, if it is there. -/
def loadDefault (files : Files) : Except Error (Option Settings) :=
  if files.has fileName then (load files fileName).map some else .ok none

end AlignmentTally.Settings
