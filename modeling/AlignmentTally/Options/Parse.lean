import AlignmentTally.Options.Basic

/-!
# Reading the command line

Arguments are read from left to right. An option takes its value after `=` or from the next
argument, unless that looks like an option itself; switches take none. `-v`, `-q`, `-c`, `-h` and
`-V` are short for options and may share a dash, where the value of `-c` is the rest of the
argument. After `--` nothing is an option, and there is nothing else an argument could be.

An option whose value is still to come is looked at again only when the next option is met or the
arguments end: until then an unknown argument, or a value given to a switch, is reported first. Of
an option that is complete it is reported first that it is given twice and then that its value
does not fit.
-/

namespace AlignmentTally.Options

/-- Why reading the command line stops without options. -/
inductive Stop where
  | unknownArgument
  /-- A value is missing or does not fit. -/
  | invalidValue
  /-- An option is given twice, or together with one that excludes it. -/
  | argumentConflict
  /-- A switch is given a value. -/
  | tooManyValues
  /-- Help is asked for. -/
  | help
  /-- The version is asked for. -/
  | version
  deriving DecidableEq, Repr

/-- What an argument can name. -/
inductive Name where
  | repoRoot
  | buildDir
  | binary
  | backend
  | adapterVendorId
  | input
  | saveOutput
  | lineEnding
  | format
  | config
  | verbose
  | quiet
  | initConfig
  | help
  | version
  deriving DecidableEq, Repr

namespace Name

/-- The name after two dashes. -/
def long : Name → String
  | repoRoot => "repo-root"
  | buildDir => "build-dir"
  | binary => "binary"
  | backend => "backend"
  | adapterVendorId => "adapter-vendor-id"
  | input => "input"
  | saveOutput => "save-output"
  | lineEnding => "line-ending"
  | format => "format"
  | config => "config"
  | verbose => "verbose"
  | quiet => "quiet"
  | initConfig => "init-config"
  | help => "help"
  | version => "version"

/-- All names. -/
def all : List Name :=
  [repoRoot, buildDir, binary, backend, adapterVendorId, input, saveOutput, lineEnding, format,
    config, verbose, quiet, initConfig, help, version]

/-- What a name after two dashes stands for. Names are written out in full. -/
def ofLong? (name : String) : Option Name := all.find? (·.long = name)

/-- What a letter after one dash stands for. -/
def ofShort? : Char → Option Name
  | 'c' => some config
  | 'v' => some verbose
  | 'q' => some quiet
  | 'h' => some help
  | 'V' => some version
  | _ => none

/-- Whether a name takes no value. -/
def isSwitch : Name → Bool
  | verbose | quiet | initConfig | help | version => true
  | _ => false

end Name

/-- A path that a value names: any text but the empty one. -/
def pathOf (value : String) : Except Stop String :=
  if value.isEmpty then .error .invalidValue else .ok value

/-- A word of a fixed set. -/
def wordOf {α : Type} (ofWord? : String → Option α) (value : String) : Except Stop α :=
  match ofWord? value with
  | some meaning => .ok meaning
  | none => .error .invalidValue

/-- The options after a name has been given a value. -/
def assign (options : Options) (name : Name) (value : String) : Except Stop Options :=
  match name with
  | .repoRoot => do return { options with repoRoot := ← pathOf value }
  | .buildDir => do return { options with buildDir := ← pathOf value }
  | .binary => return { options with binary := value }
  | .backend => return { options with backend := value }
  | .adapterVendorId => return { options with adapterVendorId := value }
  | .input => do return { options with input := ← pathOf value }
  | .saveOutput => do return { options with saveOutput := ← pathOf value }
  | .lineEnding => do return { options with lineEnding := ← wordOf LineEnding.ofWord? value }
  | .format => do return { options with format := ← wordOf OutputFormat.ofWord? value }
  | .config => do return { options with config := ← pathOf value }
  | _ => .error .tooManyValues

/-- The options after a switch has been given. -/
def switch (options : Options) : Name → Except Stop Options
  | .verbose => .ok { options with verbose := true }
  | .quiet => .ok { options with quiet := true }
  | .initConfig => .ok { options with initConfig := true }
  | .help => .error .help
  | .version => .error .version
  | _ => .error .invalidValue

/-- Where the reading of a command line stands. -/
structure Progress where
  /-- The options so far. -/
  options : Options := {}
  /-- The names given so far. -/
  given : List Name := []
  /-- The option last named without a value, with the value if that has come. -/
  pending : Option (Name × Option String) := none

namespace Progress

/-- Notes that a name is given, once. -/
def note (progress : Progress) (name : Name) : Except Stop Progress :=
  if name ∈ progress.given then .error .argumentConflict
  else .ok { progress with given := name :: progress.given }

/-- Settles a name with its value. -/
def settle (progress : Progress) (name : Name) (value : String) : Except Stop Progress := do
  let progress ← progress.note name
  return { progress with options := ← progress.options.assign name value }

/-- Settles the option that waits for a value. -/
def settlePending (progress : Progress) : Except Stop Progress :=
  match progress.pending with
  | none => .ok progress
  | some (_, none) => .error .invalidValue
  | some (name, some value) => { progress with pending := none }.settle name value

/-- Meets a switch. -/
def meetSwitch (progress : Progress) (name : Name) : Except Stop Progress := do
  let progress ← progress.settlePending
  let progress ← progress.note name
  return { progress with options := ← progress.options.switch name }

/-- Meets an option that takes a value, which is attached to it or still to come. -/
def meetOption (progress : Progress) (name : Name) (attached : Option String) :
    Except Stop Progress := do
  let progress ← progress.settlePending
  match attached with
  | some value => progress.settle name value
  | none => return { progress with pending := some (name, none) }

/-- Meets an argument that starts with two dashes, after these. -/
def meetLong (progress : Progress) (argument : List Char) : Except Stop Progress :=
  let name := String.ofList (argument.takeWhile (· ≠ '='))
  let attached := ((argument.dropWhile (· ≠ '=')).tail?).map String.ofList
  match Name.ofLong? name with
  | none => .error .unknownArgument
  | some name =>
    if name.isSwitch then
      if attached.isSome then .error .tooManyValues else progress.meetSwitch name
    else progress.meetOption name attached

/-- Meets the letters of an argument that starts with one dash. The letters after an option are
its value, without an equals sign in front. -/
def meetShort (progress : Progress) : List Char → Except Stop Progress
  | [] => .ok progress
  | letter :: rest =>
    match Name.ofShort? letter with
    | none => .error .unknownArgument
    | some name =>
      if name.isSwitch then do meetShort (← progress.meetSwitch name) rest
      else
        match rest with
        | [] => progress.meetOption name none
        | '=' :: value => progress.meetOption name (some (String.ofList value))
        | value => progress.meetOption name (some (String.ofList value))

/-- Meets an argument that is no option: only an option that waits for its value can take it. -/
def meetValue (progress : Progress) (argument : String) : Except Stop Progress :=
  match progress.pending with
  | some (name, none) => .ok { progress with pending := some (name, some argument) }
  | _ => .error .unknownArgument

/-- Meets one argument after another. -/
def meetAll (progress : Progress) : List String → Except Stop Progress
  | [] => .ok progress
  | "--" :: rest => if rest.isEmpty then .ok progress else .error .unknownArgument
  | argument :: rest => do
    let progress ←
      match argument.toList with
      | '-' :: '-' :: long => progress.meetLong long
      | '-' :: letter :: letters => progress.meetShort (letter :: letters)
      | _ => progress.meetValue argument
    meetAll progress rest

end Progress

/-- The options that arguments and environment give. Reading output from a file and saving it
exclude each other. -/
def parse (arguments : List String) (environment : Environment) : Except Stop Options := do
  let progress ← Progress.meetAll {} arguments
  let progress ← progress.settlePending
  let options := progress.options.orFrom environment
  if options.input.isSome ∧ options.saveOutput.isSome then throw .argumentConflict
  return options

end AlignmentTally.Options
