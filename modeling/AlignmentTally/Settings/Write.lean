import AlignmentTally.Settings.Basic

/-!
# The settings file with the defaults

What a new settings file holds: every setting that has a default, with that default. The root of
the repository has none and is left out.
-/

namespace AlignmentTally.Settings

/-- The settings file with the defaults. None of them holds a character that would have to be
escaped between quotes. -/
def defaultText : String :=
  let settings : Settings := {}
  let target := settings.target
  "\n".intercalate [
    "[general]",
    s!"verbose = {settings.general.verbose}",
    "",
    "[target]",
    s!"build_dir = \"{target.buildDir}\"",
    s!"binary_name = \"{target.binaryName}\"",
    s!"backend = \"{target.backend}\"",
    s!"adapter_vendor_id = \"{target.adapterVendorId}\"",
    "extra_args = []",
    "",
    "[parse]",
    s!"line_ending = \"{settings.parse.lineEnding.word}\"",
    ""]

end AlignmentTally.Settings
