import AlignmentTally.Proofs.Precedence

/-!
# Which settings of a launch are checked

Two rules are checked on options before anything is loaded: the name of the test binary is not
blank, and the root of the repository is a directory (`Options.fault?_eq_none_iff`). A run that goes
as far as the test binary (`Run.GoesToLaunch`) goes by settings that options and a settings file
give together, and the file is not checked.

## What is launched

What a run launches is known before anything is launched (`Run.launches?_eq_some_iff`), and a run
asks its launcher for that invocation only (`Run.run_congr_launcher`). So whether the settings of a
launch pass the checks is a question about the files and the command line, whatever the test binary
is and does.

## What the main result rests on

`Run.launch_passes_checks_iff` says that the rules hold of a launch exactly when they hold of what
the file states and no option overrides.

* An option that is given has been checked, and it overrides the file.
* The **defaults pass**: the default name is not blank, and without a stated root there is nothing
  to be a directory. So a rule can be broken by what the file states and by nothing else.
* What the file states is that of `Settings.Stated.IsFrom`, the same as for precedence.

`Run.launches_blank_binary` is a run for which they do not hold: its settings file gives a blank
name, for which an option would have been refused.
-/

namespace AlignmentTally

/-! ### What is checked -/

/-- The two rules for a launch hold of settings in a file tree. -/
structure Settings.PassesChecks (settings : Settings) (files : Files) : Prop where
  /-- The name of the test binary is not blank. -/
  binary : Options.isBlank settings.target.binaryName = false
  /-- The root of the repository is a directory, if it is set. -/
  root : ∀ path ∈ settings.target.repoRoot, files.isDirectory path = true

/-- A check of a value that need not be there finds nothing exactly when the value passes. -/
theorem Options.bind_fault_eq_none_iff {given : Option String} {passes : String → Prop}
    [DecidablePred passes] {fault : String → Fault} :
    (given.bind fun path ↦ if passes path then none else some (fault path)) = none ↔
      ∀ path ∈ given, passes path := by
  cases given <;> simp

/-- Options are without a fault when they ask for a settings file only, or pass all checks. -/
theorem Options.fault?_eq_none_iff {options : Options} {files : Files} :
    options.fault? files = none ↔ options.initConfig ∨
      ¬ (options.verbose ∧ options.quiet) ∧
      (∀ name ∈ options.binary, isBlank name = false) ∧
      (∀ path ∈ options.repoRoot, files.isDirectory path) ∧
      ∀ path ∈ options.input, path = standardInput ∨ files.isFile path := by
  have blank : ¬ options.binary.any isBlank ↔ ∀ name ∈ options.binary, isBlank name = false := by
    cases options.binary <;> simp
  rw [fault?, ← blank]
  by_cases init : options.initConfig
  · simp [init]
  by_cases loud : options.verbose ∧ options.quiet
  · simp [init, loud]
  by_cases isBlank : options.binary.any isBlank
  · simp [init, loud, isBlank]
  · simp only [init, loud, isBlank, Bool.false_eq_true, ↓reduceIte, Option.or_eq_none_iff,
      bind_fault_eq_none_iff, not_false_eq_true, true_and, false_or]

namespace Run

open Settings

/-! ### Runs that launch the test binary -/

/-- A run goes as far as the test binary, by some settings: its options are read and have no fault,
ask for neither a settings file nor a replay, and override settings that are loaded. -/
structure GoesToLaunch (world : World) (options : Options) (settings : Settings) : Prop where
  parsed : Options.parse world.arguments world.environment = .ok options
  faultless : options.fault? world.files = none
  noInit : options.initConfig = false
  noReplay : options.input = none
  merged : Run.settings world.files options = .ok settings

namespace GoesToLaunch

variable {world : World} {options : Options} {settings : Settings}

/-- Such a run is a tally of what the test binary writes. -/
theorem run_eq (h : GoesToLaunch world options settings) :
    run world = tally world options settings ∧
      obtain world options settings = launch world options settings := by
  refine ⟨?_, by rw [Run.obtain, h.noReplay]⟩
  simp [run, h.parsed, h.faultless, h.noInit, h.merged]

/-- The settings are those that a settings file states, if there is one, with the options over
them. -/
theorem exists_stated (h : GoesToLaunch world options settings) :
    ∃ file : Stated,
      file.IsFrom world.files
        (options.config.or (if world.files.has fileName then some fileName else none)) ∧
      settings = file.settings.overriddenBy options := by
  obtain ⟨given, spelled⟩ := Options.exists_spelled_of_parse h.parsed
  obtain ⟨-, -, -, rfl⟩ := (Options.parse_eq_ok_iff spelled).1 h.parsed
  obtain ⟨loaded, found, rfl⟩ := map_eq_ok_iff.1 h.merged
  obtain ⟨file, isFrom, rfl⟩ := exists_stated_of_loadSettings found
  exact ⟨file, isFrom, rfl⟩

end GoesToLaunch

/-- What a run launches is known before it is launched: the invocation by the settings of a run that
goes that far, unless the test binary cannot be given its arguments. -/
theorem launches?_eq_some_iff {world : World} {launched : Invocation} :
    launches? world = some launched ↔ ∃ options settings,
      GoesToLaunch world options settings ∧ invocation world settings = launched ∧
        launched.hasNul = false := by
  constructor
  · intro h
    unfold launches? at h
    split at h
    · cases h
    · rename_i options parsed
      split_ifs at h with stays
      obtain ⟨faultless, noInit, noReplay⟩ := by simpa [not_or] using stays
      split at h
      · cases h
      · rename_i settings merged
        dsimp only at h
        split_ifs at h with hasNul
        cases h
        exact ⟨options, settings, ⟨parsed, faultless, noInit, noReplay, merged⟩, rfl,
          Bool.eq_false_iff.2 hasNul⟩
  · rintro ⟨options, settings, ⟨parsed, faultless, noInit, noReplay, merged⟩, rfl, hasNoNul⟩
    simp [launches?, parsed, faultless, noInit, noReplay, merged, hasNoNul]

/-- Launchers that agree on what a tally launches make no difference to it. -/
theorem tally_congr_launcher {world : World} {launcher : Launcher} {options : Options}
    {settings : Settings}
    (same : options.input = none → (invocation world settings).hasNul = false →
      launcher world.files world.environment (invocation world settings) =
        world.launcher world.files world.environment (invocation world settings)) :
    tally { world with launcher } options settings = tally world options settings := by
  have obtain_eq : obtain { world with launcher } options settings =
      obtain world options settings := by
    rw [Run.obtain, Run.obtain]
    cases input : options.input with
    | some path => rfl
    | none =>
      have run_eq : Launch.run launcher world.files world.environment (invocation world settings) =
          Launch.run world.launcher world.files world.environment (invocation world settings) := by
        unfold Launch.run
        split_ifs with hasNul
        · rfl
        · rw [same input (Bool.eq_false_iff.2 hasNul)]
      have invocation_eq : invocation { world with launcher } settings =
          invocation world settings := rfl
      simp only [launch, invocation_eq, run_eq]
  rw [tally, tally, obtain_eq]
  rfl

/-- **A run asks its launcher at most once**: only what comes of the invocation that it launches has
any say in how it ends and what it leaves behind. -/
theorem run_congr_launcher {world : World} {launcher : Launcher}
    (same : ∀ invocation ∈ launches? world,
      launcher world.files world.environment invocation =
        world.launcher world.files world.environment invocation) :
    run { world with launcher } = run world := by
  cases parsed : Options.parse world.arguments world.environment with
  | error stop => simp only [run, parsed]
  | ok options =>
    cases faultless : options.fault? world.files with
    | some fault => simp only [run, parsed, faultless]
    | none =>
      by_cases init : options.initConfig
      · simp only [run, parsed, faultless, init, if_true]
      cases merged : Run.settings world.files options with
      | error error => simp only [run, parsed, faultless, init, merged]
      | ok settings =>
        have tally_eq : tally { world with launcher } options settings =
            tally world options settings :=
          tally_congr_launcher fun noReplay hasNoNul ↦ same _ <| launches?_eq_some_iff.2
            ⟨options, settings, ⟨parsed, faultless, Bool.eq_false_iff.2 init, noReplay, merged⟩,
              rfl, hasNoNul⟩
        simp only [run, parsed, faultless, init, merged, tally_eq]

/-- The default name of the test binary is not blank, so only a name that is stated can be. -/
theorem isBlank_binaryName_eq_false_iff {file : Stated} {options : Options}
    (checked : ∀ name ∈ options.binary, Options.isBlank name = false) :
    Options.isBlank (file.settings.overriddenBy options).target.binaryName = false ↔
      (options.binary = none → ∀ name ∈ file.binaryName, Options.isBlank name = false) := by
  have merged : (file.settings.overriddenBy options).target.binaryName =
      options.binary.getD (file.binaryName.getD "dawn_end2end_tests") := rfl
  have default : Options.isBlank "dawn_end2end_tests" = false := by decide +kernel
  rw [merged]
  generalize options.binary = given at checked ⊢
  rcases given with _ | name
  · rcases file.binaryName with _ | name <;> simp [default]
  · simpa using checked

/-- The root is not set by default, so only one that is stated can be no directory. -/
theorem isDirectory_repoRoot_iff {file : Stated} {options : Options} {files : Files}
    (checked : ∀ path ∈ options.repoRoot, files.isDirectory path) :
    (∀ path ∈ (file.settings.overriddenBy options).target.repoRoot, files.isDirectory path) ↔
      (options.repoRoot = none → ∀ path ∈ file.repoRoot, files.isDirectory path) := by
  have merged : (file.settings.overriddenBy options).target.repoRoot =
      options.repoRoot.or file.repoRoot := rfl
  rw [merged]
  generalize options.repoRoot = given at checked ⊢
  rcases given with _ | path
  · simp
  · simpa using checked

/-- **A launch passes the checks exactly when the settings file does where no option overrides
it.** What an option gives has been checked, and the defaults pass. -/
theorem launch_passes_checks_iff {world : World} {options : Options} {settings : Settings}
    (h : GoesToLaunch world options settings) :
    run world = tally world options settings ∧
      obtain world options settings = launch world options settings ∧
      ∃ file : Stated,
        file.IsFrom world.files
          (options.config.or (if world.files.has fileName then some fileName else none)) ∧
        (settings.PassesChecks world.files ↔
          (options.binary = none → ∀ name ∈ file.binaryName, Options.isBlank name = false) ∧
          (options.repoRoot = none → ∀ path ∈ file.repoRoot,
            world.files.isDirectory path = true)) := by
  obtain ⟨tallied, launched⟩ := h.run_eq
  obtain ⟨file, isFrom, rfl⟩ := h.exists_stated
  refine ⟨tallied, launched, file, isFrom, ?_⟩
  have checked := Options.fault?_eq_none_iff.1 h.faultless
  rw [h.noInit] at checked
  obtain ⟨-, binary, root, -⟩ := checked.resolve_left Bool.false_ne_true
  rw [← isBlank_binaryName_eq_false_iff binary, ← isDirectory_repoRoot_iff root]
  constructor
  · rintro ⟨binary_passes, root_passes⟩
    exact ⟨binary_passes, root_passes⟩
  · rintro ⟨binary_passes, root_passes⟩
    exact ⟨binary_passes, root_passes⟩

/-- A file that states a blank name and a root that is not there does no harm when options override
both. -/
theorem launch_passes_checks_overridden :
    let text := "\n".intercalate ["[target]", "repo_root = \"gone\"", "binary_name = \" \"", ""]
    let world : World :=
      { files := ⟨.directory [(fileName, .file (Utf8.encode text) false), ("src", .directory [])],
          []⟩
        arguments := ["--repo-root=src", "--binary=tests"]
        executable := "/opt/tools/tally" }
    let options : Options := { repoRoot := some "src", binary := some "tests" }
    ∃ loaded settings, loadSettings world.files options = .ok loaded ∧
      ¬ loaded.PassesChecks world.files ∧
      GoesToLaunch world options settings ∧ settings.PassesChecks world.files := by
  intro text world options
  have loading : (loadSettings world.files options).toOption =
      some { target := { repoRoot := some "gone", binaryName := " " } } := by
    decide +kernel
  have merging : (Run.settings world.files options).toOption =
      some { target := { repoRoot := some "src", binaryName := "tests" } } := by
    decide +kernel
  have launches : GoesToLaunch world options
      { target := { repoRoot := some "src", binaryName := "tests" } } :=
    ⟨by decide +kernel, by decide +kernel, rfl, rfl, toOption_eq_some_iff.1 merging⟩
  refine ⟨_, _, toOption_eq_some_iff.1 loading, fun passes ↦ ?_, launches, ?_⟩
  · have blank : Options.isBlank " " = true := by decide +kernel
    exact absurd (blank.symm.trans passes.binary) (by decide)
  · obtain ⟨-, -, file, -, passes_iff⟩ := launch_passes_checks_iff launches
    exact passes_iff.2 ⟨by rintro ⟨⟩, by rintro ⟨⟩⟩

/-- A settings file may give the test binary a blank name: the run launches what has that name and
reports on it, although the same name is refused as an option. -/
theorem launches_blank_binary :
    let text := "\n".intercalate ["[target]", "binary_name = \" \"", ""]
    let script : Node := .file (Utf8.encode "#!/bin/sh\necho hello\n") true
    let world : World :=
      { files := ⟨.directory [(fileName, .file (Utf8.encode text) false),
          ("out", .directory [("debug", .directory [(" ", script)])])], []⟩
        launcher := fun files _ invocation ↦
          if invocation.program = "/out/debug/ " then
            .ok ⟨Utf8.encode "hello\n", .exited 0, files⟩
          else .error (.start .notFound)
        executable := "/scripts/tally" }
    (∃ settings, GoesToLaunch world {} settings ∧ ¬ settings.PassesChecks world.files ∧
        (invocation world settings).program = "/out/debug/ ") ∧
      (run world).ending = .reported "Unique resources alignment rejected: 0\n\n" ∧
      Options.fault? { binary := some " " } world.files = some .blankBinary := by
  intro text script world
  have parsed : Options.parse world.arguments world.environment = .ok {} := by decide +kernel
  have merging : (Run.settings world.files {}).toOption =
      some { target := { binaryName := " " } } := by
    decide +kernel
  have launches : GoesToLaunch world {} { target := { binaryName := " " } } :=
    ⟨parsed, by decide +kernel, rfl, rfl, toOption_eq_some_iff.1 merging⟩
  refine ⟨⟨_, launches, fun passes ↦ ?_, by decide +kernel⟩, by decide +kernel, by decide +kernel⟩
  have blank : Options.isBlank " " = true := by decide +kernel
  exact absurd (blank.symm.trans passes.binary) (by decide)

end Run

end AlignmentTally
