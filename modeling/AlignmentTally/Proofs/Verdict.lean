import AlignmentTally.Proofs.PlainReport
import AlignmentTally.Proofs.Utf8
import AlignmentTally.Run

/-!
# How a run over captured output ends

Once its output is captured, a run ends in one of three ways. Octets that are no UTF-8 end it at
once. Otherwise the text has distinct descriptors, in the order in which its lines first report
them, and the first of these that has no format ends the run with its fault (`FirstFault`). If each
has a format, the whole report is written.

## Where the fault is found

The fault is found late, by reading the keys of a tally one after another. That these are the
distinct descriptors of the lines in order of first appearance is what ties it to the text
(`Tallies.failure?_formatCounts`); that a descriptor is read once, however often it was rejected,
makes no difference to which fault is found first (`firstFault?_distinctDescriptors`). Both forms of
the report fail in the same way, because both need the formats and nothing else that can fail
(`Report.render_eq_map_print`).

## Captured output

`Run.Captured` has what a run works on once it has its output: the octets, the settings and the
options, whether they come from a file or from a test binary. Such a run can be made from any octets
(`Run.Captured.ofInput`), so what is said of all of them is said of all octets.

`Run.Captured.all_or_nothing` rests on the three ways to end being told apart by conditions on the
octets alone. That a run that fails writes nothing needs no argument about how much was written
before: a report is made as a whole and written afterwards.
-/

namespace AlignmentTally

/-! ### The first failure -/

section Steps

variable {ε α β : Type}

/-- Why a step fails, if it does. -/
def failure? : Except ε α → Option ε
  | .ok _ => none
  | .error error => some error

theorem failure?_eq_some_iff {step : Except ε α} {error : ε} :
    failure? step = some error ↔ step = .error error := by
  cases step <;> simp [failure?]

theorem failure?_eq_none_iff {step : Except ε α} :
    failure? step = none ↔ ∃ value, step = .ok value := by
  cases step <;> simp [failure?]

/-- Steps taken one after another fail with the first of their failures. -/
theorem failure?_mapM (step : α → Except ε β) (items : List α) :
    failure? (items.mapM step) = items.findSome? fun item ↦ failure? (step item) := by
  induction items with
  | nil => rfl
  | cons item rest ih =>
    rw [List.mapM_cons, List.findSome?_cons]
    cases step item with
    | error error => rfl
    | ok value =>
      rw [show failure? (.ok value : Except ε β) = none from rfl, ← ih]
      cases rest.mapM step <;> rfl

/-- Repetitions do not matter to what is found first. -/
theorem findSome?_eraseDups [DecidableEq α] (find? : α → Option β) (items : List α) :
    items.eraseDups.findSome? find? = items.findSome? find? := by
  induction items using List.reverseRecOn with
  | nil => rfl
  | append_singleton items item ih =>
    rw [List.eraseDups_append, List.findSome?_append, List.findSome?_append, ih]
    by_cases hitem : item ∈ items
    · -- a repeated item is erased, and nothing is found in it that was not found before
      have hfound : (items.findSome? find?).or (find? item) = items.findSome? find? := by
        cases hbefore : items.findSome? find? with
        | some found => rfl
        | none => rw [List.findSome?_eq_none_iff.1 hbefore item hitem, Option.or_none]
      simp [List.removeAll, hitem, hfound]
    · simp [List.removeAll, hitem, List.eraseDups_cons]

end Steps

/-! ### Descriptors without a format -/

namespace Format

/-- Why a descriptor has no format: it is not JSON, or it has no member `Format`. The fault names
the descriptor. -/
def Faulty (descriptor : String) (error : TallyError) : Prop :=
  (∃ cause, Json.read descriptor = .error cause ∧ error = .parse descriptor cause) ∨
    ∃ value, Json.read descriptor = .ok value ∧ value.member? "Format" = none ∧
      error = .missingFormat descriptor

theorem ofDescriptor_eq_error_iff {descriptor : String} {error : TallyError} :
    ofDescriptor descriptor = .error error ↔ Faulty descriptor error := by
  rw [Faulty]
  cases hread : Json.read descriptor with
  | error cause =>
    have herror : ofDescriptor descriptor = .error (.parse descriptor cause) := by
      rw [ofDescriptor, hread]
      rfl
    simp [herror, eq_comm]
  | ok value =>
    rw [ofDescriptor_of_read hread]
    cases hmember : value.member? "Format" <;> simp [hmember, eq_comm]

end Format

/-- The distinct descriptors that lines report, in order of first appearance. -/
def distinctDescriptors (lines : List String) : List String :=
  (lines.filterMap Marker.rejectedDescriptor?).eraseDups

/-- The first of some descriptors that is faulty, and why. -/
def FirstFault (descriptors : List String) (error : TallyError) : Prop :=
  ∃ before descriptor after, descriptors = before ++ descriptor :: after ∧
    Format.Faulty descriptor error ∧ ∀ earlier ∈ before, ∀ cause, ¬ Format.Faulty earlier cause

/-- The fault of the first of some descriptors that is faulty. -/
def firstFault? (descriptors : List String) : Option TallyError :=
  descriptors.findSome? fun descriptor ↦ failure? (Format.ofDescriptor descriptor)

theorem firstFault?_eq_some_iff {descriptors : List String} {error : TallyError} :
    firstFault? descriptors = some error ↔ FirstFault descriptors error := by
  rw [firstFault?, List.findSome?_eq_some_iff, FirstFault]
  simp only [failure?_eq_some_iff, Format.ofDescriptor_eq_error_iff]
  refine exists_congr fun before ↦ exists_congr fun descriptor ↦ exists_congr fun after ↦
    and_congr_right fun _ ↦ and_congr_right fun _ ↦ forall₂_congr fun earlier _ ↦ ?_
  rw [Option.eq_none_iff_forall_ne_some]
  simp only [ne_eq, failure?_eq_some_iff, Format.ofDescriptor_eq_error_iff]

theorem firstFault?_eq_none_iff {descriptors : List String} :
    firstFault? descriptors = none ↔ ∀ error, ¬ FirstFault descriptors error := by
  simp only [← firstFault?_eq_some_iff, Option.eq_none_iff_forall_ne_some, ne_eq]

/-- Reading each distinct descriptor once finds the same fault as reading what each line reports. -/
theorem firstFault?_distinctDescriptors (lines : List String) :
    firstFault? (distinctDescriptors lines) =
      firstFault? (lines.filterMap Marker.rejectedDescriptor?) :=
  findSome?_eraseDups _ _

/-- The tallies of a log have formats unless some descriptor is faulty; the first of these decides
the failure. -/
theorem Tallies.failure?_formatCounts (ending : LineEnding) (text : String) :
    failure? (ofText ending text).formatCounts =
      firstFault? (distinctDescriptors (ending.lines text)) := by
  rw [formatCounts, firstFault?, distinctDescriptors, byResource_ofText, ← failure?_mapM,
    ← Counts.keys_tally]
  cases (Counts.keys _).mapM Format.ofDescriptor <;> rfl

/-! ### Both forms of the report -/

namespace Report

/-- A document in one of the forms of the report. -/
def Document.print (format : OutputFormat) (report : Document) : String :=
  match format with
  | .text => report.plain
  | .json => report.write ++ "\n"

/-- **A report in either form is the document printed in that form**, and fails when there is no
document. -/
theorem render_eq_map_print (format : OutputFormat) (metadata : Metadata) (ending : LineEnding)
    (text : String) :
    Run.render format metadata (.ofText ending text) =
      (Tallies.ofText ending text).formatCounts.map fun formats ↦
        (documentOf (.ofText ending text) metadata formats).print format := by
  cases format with
  | text =>
    have hplain := text_eq_map_plain (Scan.rejections "" (ending.lines text)) metadata
    rw [← Tallies.ofText_eq_ofRejections, document_eq_map] at hplain
    rw [Run.render, hplain]
    cases (Tallies.ofText ending text).formatCounts <;> rfl
  | json =>
    rw [Run.render, document_eq_map]
    cases (Tallies.ofText ending text).formatCounts <;> rfl

end Report

/-! ### Runs -/

namespace Run

/-- The failure in an ending, if it is one. -/
def Ending.failure? : Ending → Option Failure
  | failed failure => some failure
  | _ => none

theorem Ending.failure?_eq_some_iff {ending : Ending} {failure : Failure} :
    ending.failure? = some failure ↔ ending = .failed failure := by
  cases ending <;> simp [failure?]

/-- A run that has captured its output. -/
structure Captured where
  /-- What the run finds. -/
  world : World
  /-- The options of the run. -/
  options : Options
  /-- The settings of the run. -/
  settings : Settings
  /-- The captured output. -/
  capture : Capture
  /-- Where the output came from. -/
  source : Report.Source
  /-- This is what the run obtains. -/
  obtained : (obtain world options settings).result = .ok (capture, source)

namespace Captured

/-- A run that replays octets from standard input. -/
def ofInput (octets : List UInt8) (lineEnding : LineEnding) (format : OutputFormat) : Captured where
  world := { files := ⟨.directory [], []⟩, input := octets, executable := "/" }
  options := { input := Options.standardInput, format }
  settings := { parse := { lineEnding } }
  capture := { octets }
  source := .replay Options.standardInput
  obtained := rfl

@[simp] theorem octets_ofInput (octets : List UInt8) (lineEnding : LineEnding)
    (format : OutputFormat) : (ofInput octets lineEnding format).capture.octets = octets := rfl

variable (run : Captured)

/-- How the run ends. -/
def ending : Ending := (tally run.world run.options run.settings).ending

/-- The distinct descriptors that a text reports when it is cut as the settings say. -/
def descriptors (text : String) : List String :=
  distinctDescriptors (run.settings.parse.lineEnding.lines text)

/-- The tallies of a text that is cut as the settings say. -/
def tallies (text : String) : Tallies := .ofText run.settings.parse.lineEnding text

/-- What the report on a text says about itself. -/
def metadata (text : String) : Report.Metadata where
  generatedAt := run.world.now
  backend := run.settings.target.backend
  adapterVendorId := run.settings.target.adapterVendorId
  source := run.source
  linesScanned := (run.settings.parse.lineEnding.lines text).length

/-- The whole report on a text. -/
def whole (text : String) (formats : Counts Format) : String :=
  (Report.documentOf (run.tallies text) (run.metadata text) formats).print run.options.format

theorem ending_of_report_eq_error {failure : Failure}
    (h : (report run.world run.options.format run.settings run.capture run.source).2 =
      .error failure) : run.ending = .failed failure := by
  simp only [ending, tally, run.obtained, h]

theorem ending_of_report_eq_ok {written : String}
    (h : (report run.world run.options.format run.settings run.capture run.source).2 =
      .ok written) : run.ending = .reported written := by
  simp only [ending, tally, run.obtained, h]

/-- Octets that cannot be decoded end the run at once. -/
theorem ending_of_decode_eq_error {cause : Utf8.Error}
    (h : Utf8.decode run.capture.octets = .error cause) :
    run.ending = .failed (.decoding (.decode cause)) := by
  have htext : run.capture.text = .error (.decode cause) := by
    rw [Capture.text, h]
    rfl
  refine run.ending_of_report_eq_error ?_
  rw [report, htext]

/-- Octets that are not UTF-8 cannot be decoded. -/
theorem ending_of_not_utf8 (h : ¬ ∃ text, Utf8.encode text = run.capture.octets) :
    ∃ cause, run.ending = .failed (.decoding (.decode cause)) := by
  cases hdecode : Utf8.decode run.capture.octets with
  | ok text => exact absurd ⟨text, Utf8.decode_eq_ok_iff.1 hdecode⟩ h
  | error cause => exact ⟨cause, run.ending_of_decode_eq_error hdecode⟩

variable {run} {text : String}

/-- Once the output is decoded, the run ends as reading the formats does. -/
theorem ending_of_text (h : Utf8.encode text = run.capture.octets) :
    (∀ error, (run.tallies text).formatCounts = .error error →
        run.ending = .failed (.plain error)) ∧
      ∀ formats, (run.tallies text).formatCounts = .ok formats →
        run.ending = .reported (run.whole text formats) := by
  have htext : run.capture.text = .ok text := by
    rw [Capture.text, Utf8.decode_eq_ok_iff.2 h]
    rfl
  have hreport : (report run.world run.options.format run.settings run.capture run.source).2 =
      ((run.tallies text).formatCounts.map (run.whole text)).mapError .plain := by
    rw [report, htext]
    exact congrArg (·.mapError Failure.plain)
      (Report.render_eq_map_print _ (run.metadata text) _ text)
  refine ⟨fun error herror ↦ run.ending_of_report_eq_error ?_,
    fun formats hformats ↦ run.ending_of_report_eq_ok ?_⟩
  · rw [hreport, herror]
    rfl
  · rw [hreport, hformats]
    rfl

/-- Once the output is decoded, the run fails with the first fault, if there is one. -/
theorem failure?_ending_of_text (h : Utf8.encode text = run.capture.octets) :
    run.ending.failure? = (firstFault? (run.descriptors text)).map .plain := by
  obtain ⟨hfailed, hreported⟩ := ending_of_text h
  rw [descriptors, ← Tallies.failure?_formatCounts, ← tallies]
  cases hformats : (run.tallies text).formatCounts with
  | error error =>
    rw [hfailed error hformats]
    rfl
  | ok formats =>
    rw [hreported formats hformats]
    rfl

/-- The form of the report has no say in whether and why a run fails. -/
theorem failure?_ending_congr {other : Captured}
    (hoctets : other.capture.octets = run.capture.octets)
    (hending : other.settings.parse.lineEnding = run.settings.parse.lineEnding) :
    run.ending.failure? = other.ending.failure? := by
  cases hdecode : Utf8.decode run.capture.octets with
  | error cause =>
    rw [run.ending_of_decode_eq_error hdecode,
      other.ending_of_decode_eq_error (hoctets ▸ hdecode)]
  | ok text =>
    have htext : Utf8.encode text = run.capture.octets := Utf8.decode_eq_ok_iff.1 hdecode
    have hdescriptors : run.descriptors text = other.descriptors text := by
      rw [descriptors, descriptors, hending]
    rw [failure?_ending_of_text htext, failure?_ending_of_text (htext.trans hoctets.symm),
      hdescriptors]

/-- **A run over captured output reports all or nothing.** It fails to decode exactly when the
octets are not UTF-8. It fails with the fault of the first descriptor, in order of first appearance,
that is faulty, exactly when there is one. Otherwise it writes the whole report. A run that fails
writes nothing, and neither the form of the report nor how often and in which tests descriptors
occur has any say in whether and why it fails. -/
theorem all_or_nothing (run : Captured) :
    ((∃ cause, run.ending = .failed (.decoding (.decode cause))) ↔
        ¬ ∃ text, Utf8.encode text = run.capture.octets) ∧
      (∀ text, Utf8.encode text = run.capture.octets →
        (∀ error, run.ending = .failed (.plain error) ↔ FirstFault (run.descriptors text) error) ∧
        ((∀ error, ¬ FirstFault (run.descriptors text) error) ↔
          ∃ formats, (run.tallies text).formatCounts = .ok formats ∧
            run.ending = .reported (run.whole text formats) ∧
            run.ending.output = run.whole text formats)) ∧
      (∀ failure, run.ending = .failed failure → run.ending.output = "") ∧
      (∀ other : Captured, other.capture.octets = run.capture.octets →
        other.settings.parse.lineEnding = run.settings.parse.lineEnding →
        run.ending.failure? = other.ending.failure?) ∧
      ∀ (other : Captured) (text otherText : String), Utf8.encode text = run.capture.octets →
        Utf8.encode otherText = other.capture.octets →
        run.descriptors text = other.descriptors otherText →
        run.ending.failure? = other.ending.failure? := by
  refine ⟨⟨?_, run.ending_of_not_utf8⟩, fun text htext ↦ ⟨fun error ↦ ?_, ?_⟩, ?_,
    fun _ ↦ failure?_ending_congr, ?_⟩
  · rintro ⟨cause, hending⟩ ⟨text, htext⟩
    have hfailure := failure?_ending_of_text htext
    rw [hending] at hfailure
    obtain ⟨error, -, herror⟩ := Option.map_eq_some_iff.1 hfailure.symm
    cases herror
  · rw [← Ending.failure?_eq_some_iff, failure?_ending_of_text htext, ← firstFault?_eq_some_iff,
      Option.map_eq_some_iff]
    simp
  · rw [← firstFault?_eq_none_iff, descriptors, ← Tallies.failure?_formatCounts,
      failure?_eq_none_iff]
    refine exists_congr fun formats ↦ ⟨fun hformats ↦ ?_, fun h ↦ h.1⟩
    have hending := (ending_of_text htext).2 formats hformats
    exact ⟨hformats, hending, by rw [hending]; rfl⟩
  · intro failure hending
    rw [hending]
    rfl
  · intro other text otherText htext hother hsame
    rw [failure?_ending_of_text htext, failure?_ending_of_text hother, hsame]

/-- Two faulty descriptors behind one with a format. The first of them decides, in either form, and
octets that are no text do not get that far. -/
theorem all_or_nothing_two_faults :
    let lines := ["RUN] a/", "Resource alignment, resource : \x7b\"Format\": 1\x7d",
      "Resource alignment, resource : \x7b\x7d", "RUN] b/",
      "Resource alignment, resource : \x7bFormat\x7d"]
    let run := ofInput (Utf8.encode ("\n".intercalate lines)) .lf
    (run .text).ending = .failed (.plain (.missingFormat "\x7b\x7d")) ∧
      (run .json).ending = .failed (.plain (.missingFormat "\x7b\x7d")) ∧
      (run .json).ending.output = "" ∧
      ∃ cause, (ofInput [0xc0, 0x80] .lf .text).ending = .failed (.decoding (.decode cause)) := by
  intro lines run
  have hlines : LineEnding.lf.lines ("\n".intercalate lines) = lines :=
    LineEnding.lines_intercalate (by decide) (by decide) (by decide)
  have hfault : ∀ format, FirstFault ((run format).descriptors ("\n".intercalate lines))
      (.missingFormat "\x7b\x7d") := by
    intro format
    rw [← firstFault?_eq_some_iff, descriptors,
      show (run format).settings.parse.lineEnding = .lf from rfl, hlines]
    decide +kernel
  have hending : ∀ format, (run format).ending = .failed (.plain (.missingFormat "\x7b\x7d")) :=
    fun format ↦
      (((all_or_nothing (run format)).2.1 _ (octets_ofInput _ .lf format).symm).1 _).2
        (hfault format)
  refine ⟨hending .text, hending .json, ?_, ?_⟩
  · exact (all_or_nothing (run .json)).2.2.1 _ (hending .json)
  · refine (all_or_nothing _).1.2 ?_
    rintro ⟨text, htext⟩
    have hdecode := Utf8.decode_eq_ok_iff.2 htext
    cases hdecode

end Captured

end Run

end AlignmentTally
