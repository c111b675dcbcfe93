import AlignmentTally.Launch
import AlignmentTally.Log
import AlignmentTally.Options.Check
import AlignmentTally.Options.Parse
import AlignmentTally.Report.Document
import AlignmentTally.Report.Text
import AlignmentTally.Settings.Read
import AlignmentTally.Settings.Write

/-!
# A run of the program

From the command line to the report. Output is replayed or launched, decoded, tallied and
reported; the report is written only as a whole, so a run that fails writes nothing to standard
output.

## What a run depends on

Each run is a function of what it finds (`World`): the file tree, the environment, the arguments,
standard input, what comes of starting programs, the program's own place and the time. What it
leaves behind is an `Outcome`: how it ended, what it logged and the file tree afterwards. The file
tree is handed on from step to step, so whatever a step reads is what the steps before it have left.

The program that is launched and the system under it come in as the launcher of the world. Which
invocation it will be asked for, if any, is known beforehand (`launches?`).

## What is left out

* The help and the usage that reading the command line may end with (`Ending.output`,
  `Ending.message?`).
* The first message of a log at the level of debugging, which shows the options. That there is such
  a message can be told from the level (`Outcome.level?`).
* The times in front of the messages of a log, and the animation that is shown while the test
  binary runs.
-/

namespace AlignmentTally

/-- What a run of the program finds. -/
structure World where
  /-- The file tree. -/
  files : Files
  /-- The environment variables that stand in for options. -/
  environment : Environment := {}
  /-- The arguments of the command line. -/
  arguments : List String := []
  /-- Standard input. -/
  input : List UInt8 := []
  /-- What comes of starting programs; by default there are none. -/
  launcher : Launcher := fun _ _ _ ↦ .error (.start .notFound)
  /-- The absolute path of the program itself. -/
  executable : String
  /-- The time. -/
  now : Instant := {}
  deriving Inhabited

namespace Run

/-! ### Failures -/

/-- Why a tally fails: what was being done, unless the failure says so itself. -/
inductive Failure where
  | plain (error : TallyError)
  /-- Output was being read from a file. -/
  | reading (path : String) (error : TallyError)
  /-- Output was being saved to a file. -/
  | saving (path : String) (error : TallyError)
  /-- Output was being decoded. -/
  | decoding (error : TallyError)
  deriving DecidableEq, Repr

/-- The failure followed by its causes. -/
def Failure.chain : Failure → List String
  | plain error => error.chain
  | reading path error => s!"Failed to read captured output: {path}" :: error.chain
  | saving path error => s!"Failed to save output to {path}" :: error.chain
  | decoding error => "Failed to decode test output" :: error.chain

/-- The failure and its causes on one line. -/
def Failure.message (failure : Failure) : String := ": ".intercalate failure.chain

/-! ### Obtaining output -/

/-- What the tally is made from: the output and where it came from, with the log so far and the
file tree afterwards. -/
structure Obtained where
  /-- The log of obtaining the output. -/
  log : List LogEntry
  /-- The file tree afterwards. -/
  files : Files
  /-- The output and its source. -/
  result : Except Failure (Capture × Report.Source)

/-- The root of the repository: by default the program stands one directory below it. -/
def repoRoot (world : World) (settings : Settings) : String :=
  settings.target.repoRoot.getD (Path.parent (Path.parent world.executable))

/-- The run of the test binary that settings ask for. -/
def invocation (world : World) (settings : Settings) : Invocation :=
  let target := settings.target
  let program := Invocation.binaryPath (repoRoot world settings) target.buildDir target.binaryName
  Invocation.ofBinary program target.backend target.adapterVendorId target.extraArgs

/-- Replays output from a file or from standard input. -/
def replay (world : World) (path : String) : Obtained :=
  let source := Report.Source.replay path
  if path = Options.standardInput then
    ⟨[⟨.info, "Reading captured output from stdin"⟩], world.files,
      .ok (⟨world.input, none⟩, source)⟩
  else
    ⟨[⟨.info, s!"Reading captured output from: {path}"⟩], world.files,
      match Capture.ofFile world.files path with
      | .ok capture => .ok (capture, source)
      | .error error => .error (.reading path error)⟩

/-- Saves output where options ask for it. -/
def save (options : Options) (launched : Launched) (source : Report.Source)
    (log : List LogEntry) : Obtained :=
  match options.saveOutput with
  | none => ⟨log, launched.files, .ok (launched.capture, source)⟩
  | some path =>
    match launched.capture.save launched.files path with
    | .ok files =>
      ⟨log ++ [⟨.info, s!"Saved captured output to: {path}"⟩], files,
        .ok (launched.capture, source)⟩
    | .error error => ⟨log, launched.files, .error (.saving path error)⟩

/-- The log of what the test binary left behind. -/
def launchedLog (launched : Launched) : List LogEntry :=
  let status := launched.status
  let captured : LogEntry :=
    ⟨.debug, s!"Captured {launched.octets.length} bytes, exit status {status.describe}"⟩
  let ended : List LogEntry :=
    if status.isSuccess then [] else [⟨.warn, s!"Test binary exited with {status.describe}"⟩]
  let code : List LogEntry :=
    status.code?.toList.map fun code ↦ ⟨.debug, s!"Test binary exit code: {code}"⟩
  captured :: ended ++ code

/-- Launches the test binary. -/
def launch (world : World) (options : Options) (settings : Settings) : Obtained :=
  let invocation := invocation world settings
  let missing : List LogEntry :=
    if world.files.has invocation.program then []
    else [⟨.warn, s!"Test binary not found at: {invocation.program}"⟩]
  let log := missing ++ [⟨.info, s!"Launching: {invocation.display}"⟩]
  match Launch.run world.launcher world.files world.environment invocation with
  | .error error => ⟨log, world.files, .error (.plain error)⟩
  | .ok launched =>
    save options launched (.launch invocation.display) (log ++ launchedLog launched)

/-- Obtains the output that options ask for. -/
def obtain (world : World) (options : Options) (settings : Settings) : Obtained :=
  match options.input with
  | some path => replay world path
  | none => launch world options settings

/-! ### Tallying and reporting -/

/-- The report in the form that is asked for. -/
def render (format : OutputFormat) (metadata : Report.Metadata) (tallies : Tallies) :
    Except TallyError String :=
  match format with
  | .text => Report.text tallies
  | .json => do return (← Report.document tallies metadata).write ++ "\n"

/-- The report on captured output, with the log of tallying. -/
def report (world : World) (format : OutputFormat) (settings : Settings) (capture : Capture)
    (source : Report.Source) : List LogEntry × Except Failure String :=
  match capture.text with
  | .error error => ([], .error (.decoding error))
  | .ok text =>
    let ending := settings.parse.lineEnding
    let linesScanned := (ending.lines text).length
    let tallies := Tallies.ofText ending text
    let metadata : Report.Metadata :=
      { generatedAt := world.now
        backend := settings.target.backend
        adapterVendorId := settings.target.adapterVendorId
        source
        linesScanned }
    let total := tallies.totalRejections
    let unique := tallies.uniqueResources
    let found := s!"Found {total} rejections across {unique} resources"
    let scanned :=
      s!"Scanned {linesScanned} lines: {total} rejections of {unique} unique resources"
    ([⟨.debug, found⟩, ⟨.info, scanned⟩], (render format metadata tallies).mapError .plain)

/-! ### The whole program -/

/-- How a run of the program ends. -/
inductive Ending where
  /-- A report was written. -/
  | reported (report : String)
  /-- The tally failed. -/
  | failed (failure : Failure)
  /-- The command line cannot be read, or asks for help or the version. -/
  | stopped (stop : Options.Stop)
  /-- The options make no sense. -/
  | refused (fault : Options.Fault)
  /-- The settings cannot be loaded. -/
  | unconfigured (error : Settings.Error)
  /-- A settings file was written. -/
  | settingsWritten
  /-- There is a settings file already. -/
  | settingsPresent
  /-- A settings file cannot be written. -/
  | settingsUnwritable (cause : SystemError)
  deriving DecidableEq, Repr

/-- The name and version of the program. -/
def version : String := "alignment-rejections 1.0.0"

namespace Ending

/-- The exit code of the program. -/
def exitCode : Ending → Nat
  | reported _ => 0
  | settingsWritten => 0
  | stopped .help => 0
  | stopped .version => 0
  | stopped _ => 2
  | _ => 1

/-- What the program writes to standard output, apart from its help. -/
def output : Ending → String
  | reported report => report
  | stopped .version => version ++ "\n"
  | _ => ""

/-- What the program says beside its log, apart from its usage. -/
def message? : Ending → Option String
  | reported _ => none
  | failed failure => some s!"Error: {failure.message}\n"
  | stopped _ => none
  | refused fault => some s!"Error: {fault.message}\n"
  | unconfigured error => some ("Error: " ++ ": ".intercalate error.chain ++ "\n")
  | settingsWritten => some s!"Created {Settings.fileName} with default settings.\n"
  | settingsPresent =>
    some s!"{Settings.fileName} already exists. Remove it first or edit it manually.\n"
  | settingsUnwritable cause =>
    some s!"Error: Failed to write {Settings.fileName}\n\nCaused by:\n    {cause.message}\n"

end Ending

/-- What a run of the program leaves behind. -/
structure Outcome where
  /-- How the run ended. -/
  ending : Ending
  /-- The level up to which the run logs, if it comes to that. -/
  level? : Option LogLevel
  /-- What was logged. -/
  log : List LogEntry
  /-- The file tree afterwards. -/
  files : Files

/-- What a run leaves behind that ends before it logs. -/
def Outcome.silent (ending : Ending) (files : Files) : Outcome := ⟨ending, none, [], files⟩

/-- Writes a settings file with the defaults. -/
def initConfig (files : Files) : Outcome :=
  if files.has Settings.fileName then .silent .settingsPresent files
  else
    match files.write Settings.fileName (Utf8.encode Settings.defaultText) with
    | .ok files => .silent .settingsWritten files
    | .error cause => .silent (.settingsUnwritable cause) files

/-- The settings that files give: the file that options name or the one in the working directory,
else the defaults. -/
def loadSettings (files : Files) (options : Options) : Except Settings.Error Settings :=
  match options.config with
  | some path => Settings.load files path
  | none => (·.getD {}) <$> Settings.loadDefault files

/-- The settings of a run: those of the files, overridden by the options. -/
def settings (files : Files) (options : Options) : Except Settings.Error Settings :=
  (·.overriddenBy options) <$> loadSettings files options

/-- The level up to which a run logs. -/
def logLevel (options : Options) (settings : Settings) : LogLevel :=
  if settings.general.verbose ∧ ¬ options.quiet then .debug else options.logLevel

/-- Tallies under options and settings. -/
def tally (world : World) (options : Options) (settings : Settings) : Outcome :=
  let obtained := obtain world options settings
  let (log, result) : List LogEntry × Except Failure String :=
    match obtained.result with
    | .error failure => ([], .error failure)
    | .ok (capture, source) => report world options.format settings capture source
  let failed := fun (failure : Failure) ↦ LogEntry.mk .error s!"Tally failed: {failure.message}"
  let level := logLevel options settings
  match result with
  | .ok report => ⟨.reported report, level, logUpTo level (obtained.log ++ log), obtained.files⟩
  | .error failure =>
    ⟨.failed failure, level, logUpTo level (obtained.log ++ log ++ [failed failure]),
      obtained.files⟩

/-- The paths that a run may read or write, apart from that of the test binary. -/
def paths (world : World) : List String :=
  match Options.parse world.arguments world.environment with
  | .ok options =>
    Settings.fileName ::
      [options.config, options.input, options.repoRoot, options.saveOutput].filterMap id
  | .error _ => []

/-- The invocation that a run launches, if it goes that far. -/
def launches? (world : World) : Option Invocation :=
  match Options.parse world.arguments world.environment with
  | .error _ => none
  | .ok options =>
    if (options.fault? world.files).isSome ∨ options.initConfig ∨ options.input.isSome then none
    else
      match settings world.files options with
      | .error _ => none
      | .ok settings =>
        let invocation := invocation world settings
        if invocation.hasNul then none else some invocation

/-- Runs the program. -/
def run (world : World) : Outcome :=
  match Options.parse world.arguments world.environment with
  | .error stop => .silent (.stopped stop) world.files
  | .ok options =>
    match options.fault? world.files with
    | some fault => .silent (.refused fault) world.files
    | none =>
      if options.initConfig then initConfig world.files
      else
        match settings world.files options with
        | .error error => .silent (.unconfigured error) world.files
        | .ok settings => tally world options settings

end Run

end AlignmentTally
