import AlignmentTally.Proofs.Endings

/-!
# Logs written from events

A log as it is meant: tests start, resources are rejected, and other things are said in between.
Each event is written as one line (`Event.line`), and the lines are joined under a line ending
(`Event.render`). The events also say what is to be tallied, with no reference to how they are
written (`Event.apply`).

## Legible events

The conditions on an event are those under which its line can be told from the others and its
parts from each other (`Event.Legible`). No part holds a line feed, and no word of a marker stands
where it would be found instead of the right one. They leave slashes in names, braces in
descriptors, and any text before the words of a rejection. They are decidable.

## What the main result rests on

`Event.ofText_render` says that the tallies of the log are those of the events.

* A pass over the line of a single event does what the event says (`Event.step_line`), by the lemmas
  on markers that are put together from their parts. From there it is an induction on the events
  (`Event.run_map_line`).
* Cutting undoes joining for lines without line feeds, up to a `\r` that no marker sees
  (`Event.map_marks_lines_render`). So the result holds under each of the three line endings, and
  the line ending of the log is that of the pass.
-/

namespace AlignmentTally

/-- An event of a test run. -/
inductive Event where
  /-- A test starts. -/
  | run (name suffix : String)
  /-- A resource is rejected. -/
  | reject (before between descriptor after : String)
  /-- Something else is said. -/
  | noise (text : String)
  deriving DecidableEq, Repr, Inhabited

namespace Event

/-- The line on which an event is written. -/
def line : Event → String
  | run name suffix => "[ RUN      ] " ++ name ++ "/" ++ suffix
  | reject before between descriptor after =>
    before ++ "Resource alignment" ++ between ++ "resource : " ++ descriptor ++ after
  | noise text => text

/-- The parts of its line that an event chooses. -/
def parts : Event → List String
  | run name suffix => [name, suffix]
  | reject before between descriptor after => [before, between, descriptor, after]
  | noise text => [text]

/-- The log of some events. -/
def render (ending : LineEnding) (events : List Event) : String :=
  (String.ofList ending.terminator).intercalate (events.map line)

/-- What an event does to the pass over a log. -/
def apply (scan : Scan) : Event → Scan
  | run name _ => { scan with test := name }
  | reject _ _ descriptor _ =>
    { scan with tallies := scan.tallies.record descriptor scan.test }
  | noise _ => scan

/-- A text holds a word. -/
def Holds (text word : String) : Prop := word.toList <:+: text.toList

instance (text word : String) : Decidable (Holds text word) :=
  inferInstanceAs (Decidable (word.toList <:+: text.toList))

/-- The conditions on the line of an event, apart from line feeds. -/
def Distinct : Event → Prop
  | run name suffix =>
    ¬ Holds name "] " ∧ '/' ∉ suffix.toList ∧ ¬ Holds (run name suffix).line "Resource alignment"
  | reject before between descriptor after =>
    (2 ≤ descriptor.length ∧ ['{'] <+: descriptor.toList ∧ ['}'] <:+ descriptor.toList ∧
      ¬ Holds descriptor "resource : \x7b") ∧
    '}' ∉ after.toList ∧ ¬ Holds (reject before between descriptor after).line "RUN"
  | noise text => ¬ Holds text "RUN" ∧ ¬ Holds text "Resource alignment"

instance : DecidablePred Distinct
  | run _ _ => inferInstanceAs (Decidable (_ ∧ _))
  | reject _ _ _ _ => inferInstanceAs (Decidable (_ ∧ _))
  | noise _ => inferInstanceAs (Decidable (_ ∧ _))

/-- The line of an event can be read back. -/
def Legible (event : Event) : Prop :=
  (∀ part ∈ event.parts, '\n' ∉ part.toList) ∧ event.Distinct

instance : DecidablePred Legible := fun event ↦
  inferInstanceAs (Decidable ((∀ part ∈ event.parts, '\n' ∉ part.toList) ∧ event.Distinct))

/-! ### One line -/

/-- The line of a legible event has no line feed. -/
theorem Legible.notMem_line {event : Event} (h : event.Legible) : '\n' ∉ event.line.toList := by
  have hparts := h.1
  cases event with
  | run name suffix =>
    simp only [parts, List.forall_mem_cons] at hparts
    simp [line, hparts]
  | reject before between descriptor after =>
    simp only [parts, List.forall_mem_cons] at hparts
    simp [line, hparts]
  | noise text => exact hparts text List.mem_cons_self

/-- What is between the outer braces of a descriptor. -/
theorem exists_inside {descriptor : List Char} (hlength : 2 ≤ descriptor.length)
    (hopen : ['{'] <+: descriptor) (hclose : ['}'] <:+ descriptor) :
    ∃ inside, descriptor = '{' :: inside ++ ['}'] := by
  obtain ⟨rest, rfl⟩ := hopen
  rcases List.eq_nil_or_concat' rest with rfl | ⟨inside, last, rfl⟩
  · simp at hlength
  · rw [← List.append_assoc, List.singleton_suffix_append_singleton_iff] at hclose
    exact ⟨inside, by rw [hclose]; rfl⟩

/-- The line of a starting test announces the test and reports nothing. -/
theorem marks_run {name suffix : String} (h : (run name suffix).Legible) :
    Marker.marks (run name suffix).line = (some name, none) := by
  have hfeed := h.notMem_line
  obtain ⟨-, hname, hsuffix, halignment⟩ := h
  have hline : (run name suffix).line.toList = "[ ".toList ++ "RUN".toList ++
      ("      ".toList ++ "] ".toList ++ name.toList ++ '/' :: suffix.toList) := by
    simp [line]
  have hnamed := Marker.testNameIn?_assembled "[ ".toList "      ".toList hname hsuffix
  rw [Marker.marks_of_notMem hfeed, Marker.rejectedDescriptorIn?_eq_none halignment, hline, hnamed,
    Option.map_some, Option.map_none, String.ofList_toList]

/-- The line of a rejection reports its descriptor and announces nothing. -/
theorem marks_reject {before between descriptor after : String}
    (h : (reject before between descriptor after).Legible) :
    Marker.marks (reject before between descriptor after).line = (none, some descriptor) := by
  have hfeed := h.notMem_line
  obtain ⟨-, ⟨hlength, hopen, hclose, hwords⟩, hafter, hrun⟩ := h
  obtain ⟨inside, hinside⟩ :=
    exists_inside (by rwa [String.length_toList]) hopen hclose
  have hline : (reject before between descriptor after).line.toList =
      before.toList ++ "Resource alignment".toList ++
        (between.toList ++ "resource : \x7b".toList ++ inside ++ '}' :: after.toList) := by
    simp [line, hinside]
  have hnested : ¬ "resource : \x7b".toList <:+: inside := fun hi ↦ hwords <| by
    rw [Holds, hinside]
    exact (List.infix_append_of_infix_left hi).trans (List.infix_cons (List.infix_refl _))
  have hreported :=
    Marker.rejectedDescriptorIn?_assembled before.toList between.toList hnested hafter
  rw [Marker.marks_of_notMem hfeed, Marker.testNameIn?_eq_none hrun, hline, hreported,
    Option.map_some, Option.map_none, ← hinside, String.ofList_toList]

/-- The line of anything else says nothing. -/
theorem marks_noise {text : String} (h : (noise text).Legible) :
    Marker.marks (noise text).line = (none, none) := by
  have hfeed := h.notMem_line
  obtain ⟨-, hrun, halignment⟩ := h
  rw [Marker.marks_of_notMem hfeed, line, Marker.testNameIn?_eq_none hrun,
    Marker.rejectedDescriptorIn?_eq_none halignment, Option.map_none]

/-- **A pass over the line of an event does what the event says.** -/
theorem step_line (scan : Scan) {event : Event} (h : event.Legible) :
    scan.step event.line = event.apply scan := by
  cases event with
  | run name suffix =>
    obtain ⟨hname, hdescriptor⟩ := Prod.mk.inj (marks_run h)
    rw [Scan.step, hname, hdescriptor]
    rfl
  | reject before between descriptor after =>
    obtain ⟨hname, hdescriptor⟩ := Prod.mk.inj (marks_reject h)
    rw [Scan.step, hname, hdescriptor]
    rfl
  | noise text =>
    obtain ⟨hname, hdescriptor⟩ := Prod.mk.inj (marks_noise h)
    rw [Scan.step, hname, hdescriptor]
    rfl

/-! ### The whole log -/

/-- A pass over the lines of events does what the events say, in order. -/
theorem run_map_line (scan : Scan) {events : List Event} (h : ∀ event ∈ events, event.Legible) :
    scan.run (events.map line) = events.foldl apply scan := by
  induction events generalizing scan with
  | nil => rfl
  | cons event rest ih =>
    rw [List.forall_mem_cons] at h
    rw [List.map_cons, List.foldl_cons, ← step_line scan h.1, ← ih _ h.2]
    rfl

/-- Cutting a log gives back lines that say the same as those it was written from. -/
theorem map_marks_lines_render (ending : LineEnding) {events : List Event} (hne : events ≠ [])
    (h : ∀ event ∈ events, event.Legible) :
    (ending.lines (render ending events)).map Marker.marks =
      (events.map line).map Marker.marks := by
  have htext : (render ending events).toList =
      ending.terminator.intercalate ((events.map line).map String.toList) := by
    rw [render, String.toList_intercalate, String.toList_ofList]
  have hpieces : (events.map line).map String.toList ≠ [] := by simpa using hne
  have hfeed : ∀ piece ∈ (events.map line).map String.toList, '\n' ∉ piece := by
    intro piece hp
    obtain ⟨_, hl, rfl⟩ := List.mem_map.1 hp
    obtain ⟨event, he, rfl⟩ := List.mem_map.1 hl
    exact (h event he).notMem_line
  rw [map_marks_lines, htext, Marker.returnBlind_marks.map_split_intercalate ending hpieces hfeed,
    List.map_map]
  refine List.map_congr_left fun text _ ↦ ?_
  rw [Function.comp_apply, String.ofList_toList]

/-- **The tallies of a log are those of the events it was written from**: the name changes where
a test starts, each rejection is recorded under the name at that point, and nothing else counts. -/
theorem ofText_render (ending : LineEnding) {events : List Event}
    (h : ∀ event ∈ events, event.Legible) :
    Tallies.ofText ending (render ending events) = (events.foldl apply {}).tallies := by
  -- the log of no events still has one line, the empty one
  by_cases hne : events = []
  · subst hne
    cases ending <;> decide
  · rw [Tallies.ofText_eq_run (map_marks_lines_render ending hne h), run_map_line {} h]

/-- A name with slashes and a bracket, a descriptor with braces, and a line that has the words of a
rejection twice. -/
theorem ofText_render_nested :
    let events := [run "Copy/[0]/1" "gpu\r",
      reject "Resource alignment, resource : \x7b\x7d" ": " "\x7b\"Format\": \x7b\x7d\x7d" " [ x/",
      noise "[       OK ] Copy/1"]
    (∀ event ∈ events, event.Legible) ∧
      Tallies.ofText .crlf (render .crlf events) =
        Tallies.empty.record "\x7b\"Format\": \x7b\x7d\x7d" "Copy/[0]/1" := by
  intro events
  have h : ∀ event ∈ events, event.Legible := by decide +kernel
  exact ⟨h, (ofText_render .crlf h).trans (by decide +kernel)⟩

end Event

end AlignmentTally
