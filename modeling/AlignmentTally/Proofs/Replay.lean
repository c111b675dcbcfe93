import AlignmentTally.Proofs.FileTrees
import AlignmentTally.Proofs.Verdict

/-!
# Replaying a saved run

A run that launches the test binary saves its output before it decodes or reads anything of it, so
the output is saved even when the run fails afterwards. A replay of the file then ends as the run
did (`Run.Saved.replays`). It fails for the same reason, or it reports the same document, in which
only the time and the source are those of the replay.

## The launcher is arbitrary

What becomes of a test binary is for the launcher of the world to say. Nothing is assumed of it but
that it gave this run some output (`Run.Saved`): it may depend on the files and the environment,
leave other files behind, or end the test binary by a signal. A replay launches nothing, so its own
launcher is never asked.

## What the main result rests on

* **The replay gets the octets that were saved**, because a regular file that was written holds what
  was written (`Files.read_of_write`). The replay need not happen in the same file tree; it is
  enough that the path still leads to the file.
* **The octets decide how a run ends.** Whatever has been captured, the ending depends only on the
  octets, the settings and the form of the report (`Run.Captured.ending_again`). The exit code of
  the test binary, which a replay does not know, is not among them.

Each saved run has a replay, at any time (`Run.Saved.exists_replay`). The run at the end is one
whose test binary crashes after its output.
-/

namespace AlignmentTally

namespace Report

/-- A document as it would have been made at another time from output of another source. -/
def Document.remade (document : Document) (now : Instant) (source : Source) : Document :=
  { document with metadata := { document.metadata with generatedAt := now, source } }

/-- The plain report names neither. -/
theorem Document.print_remade_text (document : Document) (now : Instant) (source : Source) :
    (document.remade now source).print .text = document.print .text := rfl

end Report

namespace Run

/-! ### Runs over the same output -/

/-- How a run ends that has another time and source than one that ends in some way: it fails as that
one did, or it reports the same document, made at its time and from its source. -/
inductive Ending.Again (format : OutputFormat) (now : Instant) (source : Report.Source) :
    Ending → Ending → Prop
  | failed (failure : Failure) : Again format now source (.failed failure) (.failed failure)
  | reported (document : Report.Document) :
    Again format now source (.reported (document.print format))
      (.reported ((document.remade now source).print format))

namespace Ending.Again

variable {format : OutputFormat} {now : Instant} {source : Report.Source} {ending again : Ending}

theorem eq_of_text (h : Again .text now source ending again) : again = ending := by
  cases h with
  | failed failure => rfl
  | reported document => rw [Report.Document.print_remade_text]

theorem eq_failed_or_eq_reported (h : Again format now source ending again) :
    (∃ failure, ending = .failed failure) ∨
      ∃ document : Report.Document, ending = .reported (document.print format) ∧
        again = .reported ((document.remade now source).print format) := by
  cases h with
  | failed failure => exact Or.inl ⟨failure, rfl⟩
  | reported document => exact Or.inr ⟨document, rfl, rfl⟩

theorem failed_iff (h : Again format now source ending again) {failure : Failure} :
    again = .failed failure ↔ ending = .failed failure := by
  cases h with
  | failed other => rfl
  | reported document =>
    constructor <;> intro h <;> cases h

end Ending.Again

/-- **The output decides how a run ends.** Runs that captured the same octets under the same
settings end alike, whatever the exit code and the source. -/
theorem Captured.ending_again {run other : Captured}
    (hoctets : other.capture.octets = run.capture.octets)
    (hsettings : other.settings = run.settings)
    (hformat : other.options.format = run.options.format) :
    run.ending.Again run.options.format other.world.now other.source other.ending := by
  cases hdecode : Utf8.decode run.capture.octets with
  | error cause =>
    rw [run.ending_of_decode_eq_error hdecode,
      other.ending_of_decode_eq_error (hoctets ▸ hdecode)]
    exact .failed _
  | ok text =>
    have htext : Utf8.encode text = run.capture.octets := Utf8.decode_eq_ok_iff.1 hdecode
    obtain ⟨hfailed, hreported⟩ := ending_of_text htext
    obtain ⟨hotherFailed, hotherReported⟩ := ending_of_text (htext.trans hoctets.symm)
    have htallies : other.tallies text = run.tallies text := by
      rw [tallies, tallies, hsettings]
    rw [htallies] at hotherFailed hotherReported
    cases hformats : (run.tallies text).formatCounts with
    | error error =>
      rw [hfailed error hformats, hotherFailed error hformats]
      exact .failed _
    | ok formats =>
      have hwhole : other.whole text formats =
          ((Report.documentOf (run.tallies text) (run.metadata text) formats).remade other.world.now
            other.source).print run.options.format := by
        rw [whole, htallies, metadata, hsettings, hformat]
        rfl
      rw [hreported formats hformats, hotherReported formats hformats, hwhole]
      exact .reported _

/-- A run leaves behind the files that it has after obtaining its output, even if it fails. -/
theorem files_tally (world : World) (options : Options) (settings : Settings) :
    (tally world options settings).files = (obtain world options settings).files := by
  rw [tally]
  split
  split <;> rfl

/-! ### Saved runs and their replays -/

/-- A run that launches the test binary and saves what it writes. -/
structure Saved where
  /-- What the run finds. -/
  world : World
  /-- The options of the run. -/
  options : Options
  /-- The settings of the run. -/
  settings : Settings
  /-- The run replays nothing. -/
  input_eq : options.input = none
  /-- What the test binary leaves behind. -/
  launched : Launched
  /-- The test binary was launched. -/
  launch_eq : Launch.run world.launcher world.files world.environment
    (invocation world settings) = .ok launched
  /-- The path to which its output is saved. -/
  path : String
  /-- The options ask for it. -/
  saveOutput_eq : options.saveOutput = some path
  /-- The path does not stand for a stream. -/
  path_ne : path ≠ Options.standardInput
  /-- The file tree after the output has been saved. -/
  files : Files
  /-- The output was saved. -/
  save_eq : launched.capture.save launched.files path = .ok files
  /-- The path leads to a regular file. -/
  isFile : files.isFile path

namespace Saved

variable (saved : Saved)

/-- Where the output comes from. -/
def source : Report.Source := .launch (invocation saved.world saved.settings).display

/-- The run obtains what it launches and leaves behind what it saves. -/
theorem obtain_eq :
    (obtain saved.world saved.options saved.settings).result =
        .ok (saved.launched.capture, saved.source) ∧
      (obtain saved.world saved.options saved.settings).files = saved.files := by
  simp only [obtain, saved.input_eq, launch, saved.launch_eq, save, saved.saveOutput_eq,
    saved.save_eq, source, and_self]

/-- The run has captured its output. -/
def captured : Captured where
  world := saved.world
  options := saved.options
  settings := saved.settings
  capture := saved.launched.capture
  source := saved.source
  obtained := saved.obtain_eq.1

/-- What the run leaves behind. -/
def outcome : Outcome := tally saved.world saved.options saved.settings

/-- The saved output is left behind, whether the run fails or not. -/
theorem files_outcome : saved.outcome.files = saved.files := by
  rw [outcome, files_tally, saved.obtain_eq.2]

/-- A run that replays what a run saved, under the same settings. -/
structure Replay where
  /-- What the run finds. -/
  world : World
  /-- The options of the run. -/
  options : Options
  /-- The run replays the file. -/
  input_eq : options.input = some saved.path
  /-- The report is asked for in the same form. -/
  format_eq : options.format = saved.options.format
  /-- At the path is still what the run left there. -/
  find_eq : world.files.find saved.path = saved.outcome.files.find saved.path

namespace Replay

variable {saved} (replay : saved.Replay)

/-- The file holds the output that was captured. -/
theorem ofFile_eq :
    Capture.ofFile replay.world.files saved.path = .ok ⟨saved.launched.octets, none⟩ := by
  have hwrite : saved.launched.files.write saved.path saved.launched.octets = .ok saved.files :=
    mapError_eq_ok_iff.1 saved.save_eq
  have hread := Files.read_of_write hwrite saved.isFile
  rw [Files.read, ← saved.files_outcome, ← replay.find_eq, ← Files.read] at hread
  rw [Capture.ofFile, hread]

/-- The run has captured its output. -/
def captured : Captured where
  world := replay.world
  options := replay.options
  settings := saved.settings
  capture := ⟨saved.launched.octets, none⟩
  source := .replay saved.path
  obtained := by
    simp only [obtain, replay.input_eq, Run.replay, saved.path_ne, if_false, replay.ofFile_eq]

/-- What the run leaves behind. -/
def outcome : Outcome := tally replay.world replay.options saved.settings

end Replay

/-- Each saved run can be replayed at any time. -/
theorem exists_replay (now : Instant) : ∃ replay : saved.Replay, replay.world.now = now :=
  ⟨{ world := { saved.world with files := saved.files, now }
     options := { input := saved.path, format := saved.options.format }
     input_eq := rfl
     format_eq := rfl
     find_eq := by rw [files_outcome] }, rfl⟩

/-- **A saved run replays identically.** A replay of the file to which a run saved its output, under
the same settings, ends as the run did: it fails for the same reason, or it reports the same
document, with its own time and the file as the source; the plain report is the same text. The exit
status of the test binary has no influence: another saved run that captured the same octets under
the same settings ends in the same way, however its test binary ended, and so does its replay. -/
theorem replays (replay : saved.Replay) :
    (saved.outcome.ending.Again saved.options.format replay.world.now (.replay saved.path)
        replay.outcome.ending ∧
      (saved.options.format = .text → replay.outcome.ending = saved.outcome.ending) ∧
      ∀ failure, replay.outcome.ending = .failed failure ↔
        saved.outcome.ending = .failed failure) ∧
    ∀ other : Saved, other.launched.octets = saved.launched.octets →
      other.settings = saved.settings → other.options.format = saved.options.format →
      saved.outcome.ending.Again saved.options.format other.world.now other.source
          other.outcome.ending ∧
        ∀ again : other.Replay, saved.outcome.ending.Again saved.options.format again.world.now
          (.replay other.path) again.outcome.ending := by
  have hagain : saved.outcome.ending.Again saved.options.format replay.world.now
      (.replay saved.path) replay.outcome.ending :=
    @Captured.ending_again saved.captured replay.captured rfl rfl replay.format_eq
  refine ⟨⟨hagain, fun htext ↦ ?_, fun failure ↦ hagain.failed_iff⟩, ?_⟩
  · rw [htext] at hagain
    exact hagain.eq_of_text
  · intro other hoctets hsettings hformat
    exact ⟨@Captured.ending_again saved.captured other.captured hoctets hsettings hformat,
      fun again ↦ @Captured.ending_again saved.captured again.captured hoctets hsettings
        (again.format_eq.trans hformat)⟩

/-- A test binary that reports a rejection and crashes. The replay is a second later. -/
theorem replays_crash :
    let text := "[ RUN] A/b\nW: Resource alignment, resource : \x7b\"Format\": 1\x7d\n"
    ∃ (saved : Saved) (replay : saved.Replay) (document : Report.Document),
      saved.launched.octets = Utf8.encode text ∧ saved.launched.status = .killed 11 true ∧
      saved.options.format = .json ∧ replay.world.now ≠ saved.world.now ∧
      saved.outcome.ending = .reported (document.print .json) ∧
      replay.outcome.ending =
        .reported ((document.remade replay.world.now (.replay "log")).print .json) := by
  intro text
  let binary : Node := .file [0x7f, 0x45, 0x4c, 0x46] true
  let root : Node := .directory [("out", .directory [("debug",
    .directory [("dawn_end2end_tests", binary)])])]
  let world : World :=
    { files := ⟨root, []⟩
      launcher := fun files _ invocation ↦
        if invocation.program = "/out/debug/dawn_end2end_tests" then
          .ok ⟨Utf8.encode text, .killed 11 true, files⟩
        else .error (.start .notFound)
      executable := "/scripts/tally" }
  let settings : Settings := { parse.lineEnding := .lf }
  let launched : Launched := ⟨Utf8.encode text, .killed 11 true, world.files⟩
  have hprogram : (invocation world settings).program = "/out/debug/dawn_end2end_tests" := by
    decide +kernel
  have hsaves : (launched.capture.save launched.files "log").toOption.any (·.isFile "log") = true :=
    by decide +kernel
  obtain ⟨files, hsave, hfile⟩ := (Option.any_eq_true _ _).1 hsaves
  let saved : Saved :=
    { world
      options := { saveOutput := some "log", format := .json }
      settings
      input_eq := rfl
      launched
      launch_eq := Launch.run_eq_ok (by decide +kernel) (if_pos hprogram)
      path := "log"
      saveOutput_eq := rfl
      path_ne := by decide
      files
      save_eq := toOption_eq_some_iff.1 hsave
      isFile := hfile }
  obtain ⟨replay, hnow⟩ := saved.exists_replay ⟨1, 0⟩
  have htime : replay.world.now ≠ saved.world.now := by
    rw [hnow]
    exact (by decide : (⟨1, 0⟩ : Instant) ≠ {})
  have hreported : ∀ failure, saved.captured.ending ≠ .failed failure := by
    intro failure hfailed
    have hfailure := @Captured.failure?_ending_of_text saved.captured text rfl
    have hfault : firstFault? (distinctDescriptors (LineEnding.lf.lines text)) = none := by
      decide +kernel
    rw [Captured.descriptors, show saved.captured.settings = settings from rfl, hfault,
      Ending.failure?_eq_some_iff.2 hfailed] at hfailure
    cases hfailure
  obtain ⟨⟨hagain, -⟩, -⟩ := saved.replays replay
  rcases hagain.eq_failed_or_eq_reported with ⟨failure, hfailed⟩ | ⟨document, hending, hreplay⟩
  · exact absurd hfailed (hreported failure)
  · exact ⟨saved, replay, document, rfl, rfl, rfl, htime, hending, hreplay⟩

end Saved

end Run

end AlignmentTally
