import AlignmentTally.LineEnding
import AlignmentTally.Log

/-!
# Options of the command line

What the command line can ask for. Every option may be left out; a setting that no option gives
comes from the settings file or from the defaults.
-/

namespace AlignmentTally

/-- The form of the report. -/
inductive OutputFormat where
  /-- The plain report. -/
  | text
  /-- The JSON document. -/
  | json
  deriving DecidableEq, Repr, Inhabited

namespace OutputFormat

/-- The word that names a form. -/
def word : OutputFormat → String
  | text => "text"
  | json => "json"

/-- The form that a word names. -/
def ofWord? : String → Option OutputFormat
  | "text" => some text
  | "json" => some json
  | _ => none

@[simp] theorem ofWord?_word (format : OutputFormat) : ofWord? format.word = some format := by
  cases format <;> rfl

end OutputFormat

/-- The options that a command line gives. -/
structure Options where
  /-- The root of the repository that holds the build directory. -/
  repoRoot : Option String := none
  /-- The build directory, below the root. -/
  buildDir : Option String := none
  /-- The name of the test binary. -/
  binary : Option String := none
  /-- The backend that the test binary is asked to use. -/
  backend : Option String := none
  /-- The vendor of the adapter that the test binary is asked to use. -/
  adapterVendorId : Option String := none
  /-- The file to read output from, `-` for standard input; without it the binary is run. -/
  input : Option String := none
  /-- The file to save the output of the binary to. -/
  saveOutput : Option String := none
  /-- How the output is cut into lines. -/
  lineEnding : Option LineEnding := none
  /-- The form of the report. -/
  format : OutputFormat := .text
  /-- The settings file. -/
  config : Option String := none
  /-- Whether to log more. -/
  verbose : Bool := false
  /-- Whether to log errors only. -/
  quiet : Bool := false
  /-- Whether to write a settings file with the defaults and stop. -/
  initConfig : Bool := false
  deriving DecidableEq, Repr, Inhabited

/-- The level that the options ask for. -/
def Options.logLevel (options : Options) : LogLevel :=
  if options.quiet then .error else if options.verbose then .debug else .info

/-- The environment variables that stand in for options. -/
structure Environment where
  /-- Stands in for the backend. -/
  backend : Option String := none
  /-- Stands in for the vendor of the adapter. -/
  adapterVendorId : Option String := none
  deriving DecidableEq, Repr, Inhabited

namespace Environment

/-- The name of the variable for the backend. -/
def backendName : String := "ALIGNMENT_REJECTIONS_BACKEND"

/-- The name of the variable for the vendor of the adapter. -/
def adapterVendorIdName : String := "ALIGNMENT_REJECTIONS_VENDOR_ID"

/-- The variables that are set, with their names. -/
def values (environment : Environment) : List (String × String) :=
  (environment.backend.map fun value ↦ (backendName, value)).toList ++
    (environment.adapterVendorId.map fun value ↦ (adapterVendorIdName, value)).toList

end Environment

/-- The options with those filled in that only the environment gives. A variable counts even when
it is empty. -/
def Options.orFrom (options : Options) (environment : Environment) : Options :=
  { options with
    backend := options.backend.or environment.backend
    adapterVendorId := options.adapterVendorId.or environment.adapterVendorId }

end AlignmentTally
