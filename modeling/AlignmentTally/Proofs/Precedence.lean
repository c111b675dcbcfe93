import AlignmentTally.Proofs.CommandLine
import AlignmentTally.Proofs.Utf8
import AlignmentTally.Run

/-!
# Which layer a setting comes from

Four layers can give a setting: an option of the command line, a variable of the environment, the
settings file and the default. Two of the settings have all four, the others have some of them, and
further arguments can be stated in the file only.

## Layers as data

* `Settings.Stated` holds what a settings file itself says, apart from the defaults that reading it
  fills in. A file that is read is read as what it states (`Settings.exists_stated_of_ofToml?`),
  where each setting is found in its section, in a table or by its place in an array.
* `Settings.effective` puts the layers together, each setting with the layers that it has, in order.
  It is written without `overriddenBy` and `orFrom`, the two steps by which the program merges.
* `Settings.file?` is the file that is read: the one that the command line names, else the one in
  the working directory.

## What the main result rests on

`Run.settings_precedence` says that a run goes by `Settings.effective`, and with which program and
arguments it starts the test binary. It rests on the command line being read as what it spells
(`Options.parse_eq_ok_iff`), and on the two merging steps together being the four layers
(`Settings.overriddenBy_orFrom`). Overriding is idempotent (`Settings.overriddenBy_overriddenBy`),
since a value that an option gives stays when the option gives it again. What the test binary does
has no say in any of it.
-/

namespace AlignmentTally

namespace Settings

/-! ### What a settings file says -/

/-- What a settings file says. A setting that it leaves out is missing here as well. -/
structure Stated where
  verbose : Option Bool := none
  repoRoot : Option String := none
  buildDir : Option String := none
  binaryName : Option String := none
  backend : Option String := none
  adapterVendorId : Option String := none
  extraArgs : Option (List String) := none
  lineEnding : Option LineEnding := none
  deriving DecidableEq, Repr

/-- A section says what a setting is to be, or leaves it out. A missing section leaves out all its
settings. -/
def States {α : Type} (part? : Option Toml) (place : Nat) (key : String) (read? : Toml → Option α)
    (stated : Option α) : Prop :=
  (part?.bind (setting? · place key)).map read? = stated.map some

/-- What is stated is what the sections of a document say. -/
structure Stated.IsIn (stated : Stated) (document : Toml) : Prop where
  verbose : States (setting? document 0 "general") 0 "verbose" bool? stated.verbose
  repoRoot : States (setting? document 1 "target") 0 "repo_root" text? stated.repoRoot
  buildDir : States (setting? document 1 "target") 1 "build_dir" text? stated.buildDir
  binaryName : States (setting? document 1 "target") 2 "binary_name" text? stated.binaryName
  backend : States (setting? document 1 "target") 3 "backend" text? stated.backend
  adapterVendorId :
    States (setting? document 1 "target") 4 "adapter_vendor_id" text? stated.adapterVendorId
  extraArgs : States (setting? document 1 "target") 5 "extra_args" texts? stated.extraArgs
  lineEnding : States (setting? document 2 "parse") 0 "line_ending" lineEnding? stated.lineEnding

/-- What is stated, with the defaults filled in. -/
def Stated.settings (stated : Stated) : Settings where
  general.verbose := stated.verbose.getD false
  target :=
    { repoRoot := stated.repoRoot
      buildDir := stated.buildDir.getD "out/debug"
      binaryName := stated.binaryName.getD "dawn_end2end_tests"
      backend := stated.backend.getD "d3d12"
      adapterVendorId := stated.adapterVendorId.getD "0x8086"
      extraArgs := stated.extraArgs.getD [] }
  parse.lineEnding := stated.lineEnding.getD .crlf

/-- A setting is read as what its section says, or it is the default. -/
theorem setting_eq_some_iff {α : Type} {value : Toml} {place : Nat} {key : String}
    {default result : α} {read? : Toml → Option α} :
    setting value place key default read? = some result ↔
      ∃ stated : Option α, (setting? value place key).map read? = stated.map some ∧
        stated.getD default = result := by
  unfold setting
  cases setting? value place key with
  | none =>
    constructor
    · rintro ⟨⟩
      exact ⟨none, rfl, rfl⟩
    · rintro ⟨_ | _, agrees, rfl⟩
      · rfl
      · cases agrees
  | some given =>
    constructor
    · intro h
      exact ⟨some result, congrArg some h, rfl⟩
    · rintro ⟨_ | _, agrees, rfl⟩
      · cases agrees
      · exact Option.some.inj agrees

/-- A path that need not be there is read as what its section says. -/
theorem states_of_map_some {part? : Option Toml} {place : Nat} {key : String}
    {read? : Toml → Option String} {stated : Option (Option String)}
    (h : States part? place key (fun given ↦ (read? given).map some) stated) :
    States part? place key read? (stated.getD none) := by
  unfold States at h ⊢
  generalize part?.bind (setting? · place key) = given? at h ⊢
  rcases given? with _ | given
  · rcases stated with _ | _
    · rfl
    · cases h
  · rcases stated with _ | root
    · cases h
    · obtain ⟨path, read, rfl⟩ := Option.map_eq_some_iff.1 (Option.some.inj h)
      exact congrArg some read

/-- A section is read as what it is, or it is missing. -/
theorem section_cases {α : Type} {document : Toml} {place : Nat} {key : String}
    {default result : α} {read? : Toml → Option α}
    (h : setting document place key default read? = some result) :
    (setting? document place key = none ∧ default = result) ∨
      ∃ part, setting? document place key = some part ∧ read? part = some result := by
  obtain ⟨_ | _, agrees, rfl⟩ := setting_eq_some_iff.1 h
  · exact .inl ⟨Option.map_eq_none_iff.1 agrees, rfl⟩
  · exact .inr (Option.map_eq_some_iff.1 agrees)

/-- Only a value that can stand for a section is read as one. -/
theorem of_isSection {α β : Type} {part : Toml} {skip : β → Option α} {read : Option α}
    {result : α} (h : (if ¬ isSection part then none >>= skip else read) = some result) :
    read = some result := by
  split at h
  · cases h
  · exact h

theorem general_of_setting {document : Toml} {general : General}
    (h : setting document 0 "general" {} general? = some general) :
    ∃ verbose, States (setting? document 0 "general") 0 "verbose" bool? verbose ∧
      general = { verbose := verbose.getD false } := by
  obtain ⟨missing, rfl⟩ | ⟨part, found, read⟩ := section_cases h
  · exact ⟨none, by rw [missing]; rfl, rfl⟩
  · rw [found]
    obtain ⟨_, hverbose, ⟨⟩⟩ := Option.bind_eq_some_iff.1 (of_isSection read)
    obtain ⟨verbose, stated, rfl⟩ := setting_eq_some_iff.1 hverbose
    exact ⟨verbose, stated, rfl⟩

theorem target_of_setting {document : Toml} {target : Target}
    (h : setting document 1 "target" {} target? = some target) :
    ∃ stated : Stated,
      States (setting? document 1 "target") 0 "repo_root" text? stated.repoRoot ∧
      States (setting? document 1 "target") 1 "build_dir" text? stated.buildDir ∧
      States (setting? document 1 "target") 2 "binary_name" text? stated.binaryName ∧
      States (setting? document 1 "target") 3 "backend" text? stated.backend ∧
      States (setting? document 1 "target") 4 "adapter_vendor_id" text? stated.adapterVendorId ∧
      States (setting? document 1 "target") 5 "extra_args" texts? stated.extraArgs ∧
      target = stated.settings.target := by
  obtain ⟨missing, rfl⟩ | ⟨part, found, read⟩ := section_cases h
  · rw [missing]
    exact ⟨{}, rfl, rfl, rfl, rfl, rfl, rfl, rfl⟩
  · rw [found]
    have read := of_isSection read
    simp only [Option.bind_eq_bind, Option.bind_eq_some_iff, setting_eq_some_iff] at read
    obtain ⟨_, ⟨root, root_stated, rfl⟩, _, ⟨buildDir, buildDir_stated, rfl⟩,
      _, ⟨binary, binary_stated, rfl⟩, _, ⟨backend, backend_stated, rfl⟩,
      _, ⟨vendor, vendor_stated, rfl⟩, _, ⟨args, args_stated, rfl⟩, ⟨⟩⟩ := read
    exact ⟨⟨none, root.getD none, buildDir, binary, backend, vendor, args, none⟩,
      states_of_map_some root_stated, buildDir_stated, binary_stated, backend_stated,
      vendor_stated, args_stated, rfl⟩

theorem parse_of_setting {document : Toml} {parse : Parse}
    (h : setting document 2 "parse" {} parse? = some parse) :
    ∃ ending, States (setting? document 2 "parse") 0 "line_ending" lineEnding? ending ∧
      parse = { lineEnding := ending.getD .crlf } := by
  obtain ⟨missing, rfl⟩ | ⟨part, found, read⟩ := section_cases h
  · exact ⟨none, by rw [missing]; rfl, rfl⟩
  · rw [found]
    obtain ⟨_, hending, ⟨⟩⟩ := Option.bind_eq_some_iff.1 (of_isSection read)
    obtain ⟨ending, stated, rfl⟩ := setting_eq_some_iff.1 hending
    exact ⟨ending, stated, rfl⟩

/-- The settings that a document gives are what it states, with the defaults filled in. -/
theorem exists_stated_of_ofToml? {document : Toml} {settings : Settings}
    (h : ofToml? document = some settings) :
    ∃ stated : Stated, stated.IsIn document ∧ settings = stated.settings := by
  simp only [ofToml?, Option.bind_eq_bind, Option.bind_eq_some_iff] at h
  obtain ⟨general, hgeneral, target, htarget, parse, hparse, ⟨⟩⟩ := h
  obtain ⟨verbose, verbose_stated, rfl⟩ := general_of_setting hgeneral
  obtain ⟨stated, root, buildDir, binary, backend, vendor, args, rfl⟩ := target_of_setting htarget
  obtain ⟨ending, ending_stated, rfl⟩ := parse_of_setting hparse
  exact ⟨{ stated with verbose, lineEnding := ending },
    ⟨verbose_stated, root, buildDir, binary, backend, vendor, args, ending_stated⟩, rfl⟩

/-! ### Where the file is found -/

/-- A file holds a document in UTF-8. -/
def HoldsDocument (files : Files) (path : String) (document : Toml) : Prop :=
  ∃ text, files.read path = .ok (Utf8.encode text) ∧ Toml.read? text = some document

/-- The settings file of a command line: the one that it names, else the one in the working
directory if there is one. -/
def file? (files : Files) (given : List Options.Given) : Option String :=
  (Options.valueOf .config given).or (if files.has fileName then some fileName else none)

/-- What is stated is what a settings file says, and nothing is stated without one. -/
def Stated.IsFrom (stated : Stated) (files : Files) : Option String → Prop
  | none => stated = {}
  | some path => ∃ document, HoldsDocument files path document ∧ stated.IsIn document

/-- A file that is loaded holds a document, and the settings are what this states. -/
theorem exists_stated_of_load {files : Files} {path : String} {settings : Settings}
    (h : load files path = .ok settings) :
    ∃ stated : Stated, stated.IsFrom files (some path) ∧ settings = stated.settings := by
  obtain ⟨octets, hread, h⟩ := bind_eq_ok_iff.1 h
  obtain ⟨text, hdecode, h⟩ := bind_eq_ok_iff.1 h
  have encoded : Utf8.encode text = octets := Utf8.decode_eq_ok_iff.1 (mapError_eq_ok_iff.1 hdecode)
  have read : files.read path = .ok (Utf8.encode text) := encoded ▸ mapError_eq_ok_iff.1 hread
  rcases hsettings : read? text with _ | loaded
  · rw [hsettings] at h
    cases h
  · rw [hsettings] at h
    cases h
    obtain ⟨document, hdocument, hloaded⟩ := Option.bind_eq_some_iff.1 hsettings
    obtain ⟨stated, isIn, rfl⟩ := exists_stated_of_ofToml? hloaded
    exact ⟨stated, ⟨document, ⟨text, read, hdocument⟩, isIn⟩, rfl⟩

/-! ### The layers -/

/-- The settings that options, environment and file give together. An option comes before the
environment, this before the file, and the file before the default. -/
def effective (given : List Options.Given) (environment : Environment) (file : Stated) :
    Settings where
  general.verbose := Options.isGiven .verbose given || file.verbose.getD false
  target :=
    { repoRoot := (Options.valueOf .repoRoot given).or file.repoRoot
      buildDir := ((Options.valueOf .buildDir given).or file.buildDir).getD "out/debug"
      binaryName := ((Options.valueOf .binary given).or file.binaryName).getD "dawn_end2end_tests"
      backend :=
        (((Options.valueOf .backend given).or environment.backend).or file.backend).getD "d3d12"
      adapterVendorId :=
        (((Options.valueOf .adapterVendorId given).or environment.adapterVendorId).or
          file.adapterVendorId).getD "0x8086"
      extraArgs := file.extraArgs.getD [] }
  parse.lineEnding :=
    (((Options.valueOf .lineEnding given).bind LineEnding.ofWord?).or file.lineEnding).getD .crlf

theorem overriddenBy_orFrom (given : List Options.Given) (environment : Environment)
    (file : Stated) :
    file.settings.overriddenBy ((Options.ofGiven given).orFrom environment) =
      effective given environment file := by
  simp [overriddenBy, Options.orFrom, Options.ofGiven, effective, Stated.settings, Bool.or_comm]

/-- Overriding twice by the same options is overriding once. -/
theorem overriddenBy_overriddenBy (settings : Settings) (options : Options) :
    (settings.overriddenBy options).overriddenBy options = settings.overriddenBy options := by
  have getD_getD {α : Type} (given : Option α) (value : α) :
      given.getD (given.getD value) = given.getD value := by
    cases given <;> rfl
  simp [overriddenBy, getD_getD, ← Option.or_assoc]

end Settings

namespace Run

open Settings

/-- The loaded settings are what the settings file states, if there is one. -/
theorem exists_stated_of_loadSettings {files : Files} {given : List Options.Given}
    {environment : Environment} {settings : Settings}
    (h : loadSettings files ((Options.ofGiven given).orFrom environment) = .ok settings) :
    ∃ stated : Stated, stated.IsFrom files (file? files given) ∧ settings = stated.settings := by
  have config : ((Options.ofGiven given).orFrom environment).config =
      Options.valueOf .config given := rfl
  rw [loadSettings, config] at h
  rw [file?]
  generalize Options.valueOf .config given = named? at h ⊢
  rcases named? with _ | path
  · rcases present : files.has fileName with _ | _
    · simp only [loadDefault, present, Bool.false_eq_true, ↓reduceIte] at h
      cases h
      exact ⟨{}, rfl, rfl⟩
    · simp only [loadDefault, present, ↓reduceIte] at h
      obtain ⟨found, hfound, rfl⟩ := map_eq_ok_iff.1 h
      obtain ⟨loaded, hloaded, rfl⟩ := map_eq_ok_iff.1 hfound
      exact exists_stated_of_load hloaded
  · exact exists_stated_of_load h

/-- **The layers of settings.** Let a command line be read and settings be loaded. The arguments
spell options that fit, each given once. With what the settings file states, the run goes by
`Settings.effective`, starts the test binary below the root with exactly the backend, the vendor and
the further arguments of these, and overriding them by the options once more changes nothing. -/
theorem settings_precedence {world : World} {options : Options} {loaded : Settings}
    (parsed : Options.parse world.arguments world.environment = .ok options)
    (found : loadSettings world.files options = .ok loaded) :
    (∃ given, Options.Spelled world.arguments given) ∧
      ∀ given, Options.Spelled world.arguments given →
        (given.map Options.Given.name).Nodup ∧ (∀ one ∈ given, one.Fits) ∧
        ∃ file : Stated, file.IsFrom world.files (file? world.files given) ∧
          let settings := effective given world.environment file
          Run.settings world.files options = .ok settings ∧
          invocation world settings =
            { program :=
                Path.join (Path.join
                  (settings.target.repoRoot.getD (Path.parent (Path.parent world.executable)))
                  settings.target.buildDir) settings.target.binaryName
              args := ["--backend=" ++ settings.target.backend,
                "--adapter-vendor-id=" ++ settings.target.adapterVendorId] ++
                file.extraArgs.getD [] } ∧
          loaded.overriddenBy options = settings ∧ settings.overriddenBy options = settings := by
  refine ⟨Options.exists_spelled_of_parse parsed, fun given spelled ↦ ?_⟩
  obtain ⟨nodup, fits, -, rfl⟩ := (Options.parse_eq_ok_iff spelled).1 parsed
  obtain ⟨file, isFrom, rfl⟩ := exists_stated_of_loadSettings found
  have merged := overriddenBy_orFrom given world.environment file
  refine ⟨nodup, fits, file, isFrom, ?_, ?_, merged, ?_⟩
  · rw [Run.settings, found, ← merged]
    rfl
  · rfl
  · rw [← merged]
    exact overriddenBy_overriddenBy _ _

/-- A variable that is set to nothing comes before the file, and the file before the default. -/
theorem settings_precedence_empty_variable :
    let text := "\n".intercalate ["[target]", "backend = \"vulkan\"",
      "adapter_vendor_id = \"0x10de\"", "extra_args = [\"--gtest_filter=*\"]"]
    let world : World :=
      { files := ⟨.directory [("tally.toml", .file (Utf8.encode text) false)], []⟩
        environment := { backend := some "" }
        arguments := ["-vctally.toml", "--binary", "tests"]
        executable := "/opt/tools/tally" }
    let given : List Options.Given :=
      [⟨.verbose, none⟩, ⟨.config, some "tally.toml"⟩, ⟨.binary, some "tests"⟩]
    Options.Spelled world.arguments given ∧
      ∃ file : Stated, file.IsFrom world.files (some "tally.toml") ∧
        let settings := effective given world.environment file
        Run.settings world.files ((Options.ofGiven given).orFrom world.environment) =
          .ok settings ∧
        invocation world settings =
          { program := "/opt/out/debug/tests"
            args := ["--backend=", "--adapter-vendor-id=0x10de", "--gtest_filter=*"] } := by
  intro text world given
  have letters : Options.Argument "-vctally.toml"
      [⟨.verbose, none⟩, ⟨.config, some "tally.toml"⟩] none :=
    .letters (.switch rfl rfl (.attached "ally.toml".toList rfl rfl (by decide)))
  have spelled : Options.Spelled world.arguments given :=
    .complete letters
      (.waiting (@Options.Argument.waiting .binary rfl) (.inr (by decide)) .nil)
  have parsed : Options.parse world.arguments world.environment =
      .ok ((Options.ofGiven given).orFrom world.environment) :=
    (Options.parse_eq_ok_iff spelled).2
      ⟨by decide, by simp [given, Options.Given.Fits], by decide, rfl⟩
  have evaluated : (loadSettings world.files
      ((Options.ofGiven given).orFrom world.environment)).toOption = some
        { target :=
          { backend := "vulkan"
            adapterVendorId := "0x10de"
            extraArgs := ["--gtest_filter=*"] } } := by
    decide +kernel
  rcases loading : loadSettings world.files ((Options.ofGiven given).orFrom world.environment)
    with error | loaded
  · rw [loading] at evaluated
    cases evaluated
  rw [loading] at evaluated
  cases evaluated
  obtain ⟨-, -, file, isFrom, run_settings, -, merged, -⟩ :=
    (settings_precedence parsed loading).2 given spelled
  refine ⟨spelled, file, isFrom, run_settings, ?_⟩
  rw [← merged]
  decide +kernel

end Run

end AlignmentTally
