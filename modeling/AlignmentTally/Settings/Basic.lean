import AlignmentTally.LineEnding
import AlignmentTally.Options.Basic
import AlignmentTally.Path

/-!
# Settings

What the program goes by, in three sections. Each setting has a default; a settings file may give
any of them, and the command line overrides the file. Only the root of the repository may stay
unset: it is then found from where the program itself stands.
-/

namespace AlignmentTally

namespace Settings

/-- Settings of the program as a whole. -/
structure General where
  /-- Whether to log more. -/
  verbose : Bool := false
  deriving DecidableEq, Repr, Inhabited

/-- The test binary and how it is run. -/
structure Target where
  /-- The root of the repository. -/
  repoRoot : Option String := none
  /-- The build directory, below the root. -/
  buildDir : String := Path.join "out" "debug"
  /-- The name of the test binary. -/
  binaryName : String := "dawn_end2end_tests"
  /-- The backend that the test binary is asked to use. -/
  backend : String := "d3d12"
  /-- The vendor of the adapter that the test binary is asked to use. -/
  adapterVendorId : String := "0x8086"
  /-- Further arguments of the test binary. -/
  extraArgs : List String := []
  deriving DecidableEq, Repr, Inhabited

/-- How output is read. -/
structure Parse where
  /-- How the output is cut into lines. -/
  lineEnding : LineEnding := .crlf
  deriving DecidableEq, Repr, Inhabited

end Settings

/-- All settings. -/
structure Settings where
  /-- Settings of the program as a whole. -/
  general : Settings.General := {}
  /-- The test binary and how it is run. -/
  target : Settings.Target := {}
  /-- How output is read. -/
  parse : Settings.Parse := {}
  deriving DecidableEq, Repr, Inhabited

namespace Settings

/-- The name of the settings file that is looked for in the working directory. -/
def fileName : String := ".alignment-rejections.toml"

/-- The settings with those replaced that options give. Options can only add to what is logged. -/
def overriddenBy (settings : Settings) (options : Options) : Settings where
  general.verbose := settings.general.verbose || options.verbose
  target :=
    { settings.target with
      repoRoot := options.repoRoot.or settings.target.repoRoot
      buildDir := options.buildDir.getD settings.target.buildDir
      binaryName := options.binary.getD settings.target.binaryName
      backend := options.backend.getD settings.target.backend
      adapterVendorId := options.adapterVendorId.getD settings.target.adapterVendorId }
  parse.lineEnding := options.lineEnding.getD settings.parse.lineEnding

end Settings

end AlignmentTally
