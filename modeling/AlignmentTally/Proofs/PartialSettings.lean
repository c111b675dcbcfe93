import AlignmentTally.Proofs.FileTrees
import AlignmentTally.Proofs.Precedence
import AlignmentTally.Proofs.Toml.Spelling
import Mathlib.Data.List.Nodup

/-!
# Settings files that leave settings out

A settings file need not give every setting. `Settings.Stated` says which ones it gives, and
`Stated.IsWrittenIn` how sections give them: each part of the settings has at most one section, and
a section holds what is stated of its part, in any order, possibly with keys that the program does
not know.

## Reading such a file

A plain document of such sections states just this (`Stated.IsWrittenIn.isIn`), so it is loaded as
the stated settings with the defaults for the rest (`load_of_isWrittenIn`). Three readers stand one
behind the other here, and each has its own lemma.

* The text is read as a document with the sections as tables. This is a matter of the grammar alone
  (`Toml.read?_of_spells`).
* A setting is looked up in its section. Since keys are distinct it is found wherever it stands
  (`Stated.IsHeldBy.lookup_eq`), and keys that are not known are passed over.
* The settings are put together from what is found (`ofToml?_of_isIn`). This is the converse of
  `exists_stated_of_ofToml?`, so a document states what is read from it and nothing else.

## Whatever can be stated

That there is such a document needs a proof, because the conditions on one are many. For whatever is
stated, with any texts as values, there is a text that is read as just that
(`Stated.exists_read?`). The file that the program writes on request is a particular one: it states
the defaults, so loading it changes nothing (`loadDefault_initConfig`).
-/

namespace AlignmentTally.Settings

/-! ### Settings from what is stated -/

/-- A setting is read as what is stated, or as its default. -/
theorem setting_of_states {α : Type} {part : Toml} {place : Nat} {key : String} {default : α}
    {read? : Toml → Option α} {stated : Option α}
    (states : States (some part) place key read? stated) :
    setting part place key default read? = some (stated.getD default) :=
  setting_eq_some_iff.2 ⟨stated, states, rfl⟩

/-- A path that need not be there is read as what is stated. -/
theorem setting_map_some_of_states {part : Toml} {place : Nat} {key : String}
    {read? : Toml → Option String} {stated : Option String}
    (states : States (some part) place key read? stated) :
    setting part place key none (fun given ↦ (read? given).map some) = some stated := by
  have mapped : States (some part) place key (fun given ↦ (read? given).map some)
      (stated.map some) := by
    have both := congrArg (Option.map (Option.map some)) states
    rw [Option.map_map, Option.map_map] at both
    rw [States, Option.map_map]
    exact both
  rw [setting_of_states mapped]
  cases stated <;> rfl

theorem States.eq_none {α : Type} {place : Nat} {key : String} {read? : Toml → Option α}
    {stated : Option α} (states : States none place key read? stated) : stated = none := by
  cases stated with
  | none => rfl
  | some value => cases states

variable {stated : Stated} {document : Toml}

/-- A document whose sections are tables or arrays gives what it states, and the defaults for the
rest. -/
theorem ofToml?_of_isIn (isIn : stated.IsIn document)
    (sections : ∀ place key part, setting? document place key = some part → isSection part) :
    ofToml? document = some stated.settings := by
  obtain ⟨verbose, root, buildDir, binary, backend, vendor, args, ending⟩ := isIn
  have general : setting document 0 "general" {} general? = some stated.settings.general := by
    unfold setting
    rcases found : setting? document 0 "general" with _ | part <;> rw [found] at verbose
    · simp [Stated.settings, verbose.eq_none]
    · simp [general?, sections _ _ _ found, setting_of_states verbose, Stated.settings]
  have target : setting document 1 "target" {} target? = some stated.settings.target := by
    unfold setting
    rcases found : setting? document 1 "target" with _ | part <;>
      rw [found] at root buildDir binary backend vendor args
    · simp [Stated.settings, root.eq_none, buildDir.eq_none, binary.eq_none, backend.eq_none,
        vendor.eq_none, args.eq_none]
      rfl
    · simp [target?, sections _ _ _ found, setting_map_some_of_states root,
        setting_of_states buildDir, setting_of_states binary, setting_of_states backend,
        setting_of_states vendor, setting_of_states args, Stated.settings]
      rfl
  have parse : setting document 2 "parse" {} parse? = some stated.settings.parse := by
    unfold setting
    rcases found : setting? document 2 "parse" with _ | part <;> rw [found] at ending
    · simp [Stated.settings, ending.eq_none]
    · simp [parse?, sections _ _ _ found, setting_of_states ending, Stated.settings]
  simp [ofToml?, general, target, parse]

/-! ### Sections that hold what is stated -/

/-- A part of the settings, which has a section of its own. -/
inductive Part where
  | general
  | target
  | parse
  deriving DecidableEq, Repr

/-- The name that the section of a part has. -/
def Part.name : Part → String
  | general => "general"
  | target => "target"
  | parse => "parse"

/-- The keys that the program knows in the section of a part. -/
def Part.keys : Part → List String
  | general => ["verbose"]
  | target =>
    ["repo_root", "build_dir", "binary_name", "backend", "adapter_vendor_id", "extra_args"]
  | parse => ["line_ending"]

/-- The keys of a part, each with its value if one is stated. -/
def Stated.fields (stated : Stated) : Part → List (String × Option Toml)
  | .general => [("verbose", stated.verbose.map .boolean)]
  | .target => [
      ("repo_root", stated.repoRoot.map .string),
      ("build_dir", stated.buildDir.map .string),
      ("binary_name", stated.binaryName.map .string),
      ("backend", stated.backend.map .string),
      ("adapter_vendor_id", stated.adapterVendorId.map .string),
      ("extra_args", stated.extraArgs.map fun args ↦ .array (args.map .string))]
  | .parse => [("line_ending", stated.lineEnding.map fun ending ↦ .string ending.word)]

/-- What is stated of a part. -/
def Stated.entries (stated : Stated) (part : Part) : List (String × Toml) :=
  (stated.fields part).filterMap fun (key, value?) ↦ value?.map (key, ·)

/-- A section holds what is stated of a part, in any order, and otherwise only strings under
distinct keys that the program does not know there. -/
def Stated.IsHeldBy (stated : Stated) (part : Part) (entries : List (String × Toml)) : Prop :=
  ∃ unknown : List (String × String),
    entries.Perm (stated.entries part ++ unknown.map fun (key, text) ↦ (key, .string text)) ∧
      (unknown.map Prod.fst).Nodup ∧ ∀ key ∈ unknown.map Prod.fst, key ∉ part.keys

/-- What is stated is written in sections, in any order. A part of which nothing is stated may be
left out. -/
structure Stated.IsWrittenIn (stated : Stated) (sections : List (Part × List (String × Toml))) :
    Prop where
  distinct : (sections.map Prod.fst).Nodup
  complete : ∀ part, stated.entries part ≠ [] → part ∈ sections.map Prod.fst
  held : ∀ s ∈ sections, stated.IsHeldBy s.1 s.2

variable {part : Part} {entries : List (String × Toml)} {key : String}

theorem keys_fields (stated : Stated) (part : Part) :
    (stated.fields part).map Prod.fst = part.keys := by
  cases part <;> rfl

theorem Part.nodup_keys (part : Part) : part.keys.Nodup := by
  cases part <;> decide +kernel

theorem Part.name_injective : Function.Injective Part.name := by
  intro part other same
  cases part <;> cases other <;> first | rfl | exact absurd same (by decide +kernel)

theorem mem_entries_iff {value : Toml} :
    (key, value) ∈ stated.entries part ↔ (key, some value) ∈ stated.fields part := by
  simp [Stated.entries]

theorem keys_entries_sublist (stated : Stated) (part : Part) :
    ((stated.entries part).map Prod.fst).Sublist part.keys := by
  rw [← keys_fields stated part, Stated.entries]
  induction stated.fields part with
  | nil => exact .slnil
  | cons field fields ih =>
    obtain ⟨key, _ | value⟩ := field
    · exact ih.cons key
    · exact ih.cons_cons key

theorem Stated.IsHeldBy.nodup_keys (held : stated.IsHeldBy part entries) :
    (entries.map Prod.fst).Nodup := by
  obtain ⟨unknown, perm, distinct, notKnown⟩ := held
  have known := keys_entries_sublist stated part
  rw [(perm.map Prod.fst).nodup_iff, List.map_append, List.nodup_append, List.map_map]
  refine ⟨known.nodup part.nodup_keys, distinct, ?_⟩
  rintro key mem _ unknownMem rfl
  exact notKnown key unknownMem (known.subset mem)

/-- Under each key of a part stands what is stated of it. -/
theorem Stated.IsHeldBy.lookup_eq (held : stated.IsHeldBy part entries) {value? : Option Toml}
    (field : (key, value?) ∈ stated.fields part) : entries.lookup key = value? := by
  have known : key ∈ part.keys := keys_fields stated part ▸ List.mem_map_of_mem field
  have fieldsNodup : ((stated.fields part).map Prod.fst).Nodup :=
    keys_fields stated part ▸ part.nodup_keys
  ext value
  calc entries.lookup key = some value
    _ ↔ (key, value) ∈ entries := lookup_eq_some_iff_of_nodup held.nodup_keys
    _ ↔ (key, value) ∈ stated.entries part := by
      -- the other entries have keys that the part does not know
      obtain ⟨unknown, perm, -, notKnown⟩ := held
      rw [perm.mem_iff, List.mem_append, or_iff_left]
      intro mem
      obtain ⟨⟨k, text⟩, unknownMem, same⟩ := List.mem_map.1 mem
      cases same
      exact notKnown key (List.mem_map_of_mem unknownMem) known
    _ ↔ (key, some value) ∈ stated.fields part := mem_entries_iff
    _ ↔ value? = some value := by
      constructor
      · intro other
        exact congrArg Prod.snd (List.inj_on_of_nodup_map fieldsNodup field other rfl)
      · rintro rfl
        exact field

/-! ### Documents of such sections -/

variable {sections : List (Part × List (String × Toml))}

/-- Sections under the names of their parts. -/
def named (sections : List (Part × List (String × Toml))) : List (String × List (String × Toml)) :=
  sections.map fun s ↦ (s.1.name, s.2)

/-- The document of sections. -/
def documentOf (sections : List (Part × List (String × Toml))) : Toml :=
  .table .header ((named sections).map Toml.sectionEntry)

theorem names_named (sections : List (Part × List (String × Toml))) :
    (named sections).map Prod.fst = (sections.map Prod.fst).map Part.name := by
  simp [named]

theorem Stated.IsWrittenIn.nodup_names (written : stated.IsWrittenIn sections) :
    ((named sections).map Prod.fst).Nodup := by
  rw [names_named]
  exact written.distinct.map Part.name_injective

/-- A section is found under the name of its part, and a part without one has nothing stated. -/
theorem Stated.IsWrittenIn.setting?_cases (written : stated.IsWrittenIn sections) (part : Part)
    (place : Nat) :
    (setting? (documentOf sections) place part.name = none ∧ stated.entries part = []) ∨
      ∃ entries, setting? (documentOf sections) place part.name = some (.table .header entries) ∧
        stated.IsHeldBy part entries := by
  by_cases mem : part ∈ sections.map Prod.fst
  · obtain ⟨⟨_, entries⟩, sectionMem, rfl⟩ := List.mem_map.1 mem
    refine .inr ⟨entries, ?_, written.held _ sectionMem⟩
    refine (lookup_eq_some_iff_of_nodup ?_).2 ?_
    · rw [Toml.keys_sectionEntry]
      exact written.nodup_names
    · exact List.mem_map_of_mem (List.mem_map_of_mem sectionMem)
  · refine .inl ⟨lookup_eq_none_of_notMem ?_, ?_⟩
    · rw [Toml.keys_sectionEntry, names_named, List.mem_map_of_injective Part.name_injective]
      exact mem
    · by_contra stated
      exact mem (written.complete part stated)

/-- A document of sections states of a key what is stated. -/
theorem Stated.IsWrittenIn.states (written : stated.IsWrittenIn sections) (part : Part) {α : Type}
    (write : α → Toml) {read? : Toml → Option α} (back : ∀ value, read? (write value) = some value)
    {one : Option α} (field : (key, one.map write) ∈ stated.fields part) (place inner : Nat) :
    States (setting? (documentOf sections) place part.name) inner key read? one := by
  have found : (setting? (documentOf sections) place part.name).bind (setting? · inner key) =
      one.map write := by
    obtain ⟨missing, nothing⟩ | ⟨entries, present, held⟩ := written.setting?_cases part place
    · rw [missing]
      rcases one with _ | value
      · rfl
      · -- a part without a section has nothing stated, so no value either
        have mem := mem_entries_iff.2 field
        rw [nothing] at mem
        cases mem
    · rw [present]
      exact held.lookup_eq field
  have both : read? ∘ write = some := funext back
  rw [States, found, Option.map_map, both]

/-- An array of strings is read as these. -/
theorem texts?_array (texts : List String) : texts? (.array (texts.map .string)) = some texts := by
  have read : texts.mapM (text? ∘ .string) = some (texts.map id) :=
    mapM_eq_some_map fun _ _ ↦ rfl
  rw [texts?, items?, Option.bind_eq_bind, Option.bind_some, List.mapM_map, read, List.map_id]

/-- A document of sections states what is written in them. -/
theorem Stated.IsWrittenIn.isIn (written : stated.IsWrittenIn sections) :
    stated.IsIn (documentOf sections) where
  verbose := written.states .general .boolean (fun _ ↦ rfl) List.mem_cons_self 0 0
  repoRoot := written.states .target .string (fun _ ↦ rfl) (by simp [Stated.fields]) 1 0
  buildDir := written.states .target .string (fun _ ↦ rfl) (by simp [Stated.fields]) 1 1
  binaryName := written.states .target .string (fun _ ↦ rfl) (by simp [Stated.fields]) 1 2
  backend := written.states .target .string (fun _ ↦ rfl) (by simp [Stated.fields]) 1 3
  adapterVendorId := written.states .target .string (fun _ ↦ rfl) (by simp [Stated.fields]) 1 4
  extraArgs := written.states .target (fun args ↦ .array (args.map .string)) texts?_array
    (by simp [Stated.fields]) 1 5
  lineEnding := written.states .parse (fun ending ↦ .string ending.word) LineEnding.ofWord?_word
    List.mem_cons_self 2 0

/-- What stands in a document of sections is a table. -/
theorem isSection_of_setting?_documentOf {place : Nat} {name : String} {value : Toml}
    (found : setting? (documentOf sections) place name = some value) : isSection value := by
  obtain ⟨before, after, shape, -⟩ := List.lookup_eq_some_iff.1 found
  have mem : (name, value) ∈ (named sections).map Toml.sectionEntry := by simp [shape]
  obtain ⟨s, -, same⟩ := List.mem_map.1 mem
  cases same
  rfl

/-- A plain document of sections gives what is stated, and the defaults for the rest. -/
theorem read?_of_isWrittenIn {text : String} (written : stated.IsWrittenIn sections)
    (spelled : Toml.SpellsLines text.toList (Toml.sectionLines (named sections))) :
    read? text = some stated.settings := by
  have keys : ∀ s ∈ named sections, (s.2.map Prod.fst).Nodup := by
    rintro _ mem
    obtain ⟨s, sectionMem, rfl⟩ := List.mem_map.1 mem
    exact (written.held s sectionMem).nodup_keys
  have document : Toml.read? text = some (documentOf sections) :=
    Toml.read?_of_spells spelled written.nodup_names keys
  rw [read?, document]
  exact ofToml?_of_isIn written.isIn fun _ _ _ ↦ isSection_of_setting?_documentOf

/-- A file with a text that gives settings is loaded. -/
theorem load_of_read? {files : Files} {path text : String} {settings : Settings}
    (found : files.read path = .ok (Utf8.encode text)) (read : read? text = some settings) :
    load files path = .ok settings := by
  have decoded : Utf8.decode (Utf8.encode text) = .ok text := Utf8.decode_eq_ok_iff.2 rfl
  refine bind_eq_ok_iff.2 ⟨Utf8.encode text, mapError_eq_ok_iff.2 found,
    bind_eq_ok_iff.2 ⟨text, mapError_eq_ok_iff.2 decoded, ?_⟩⟩
  rw [read]
  rfl

/-- **Settings files may leave settings out.** Let some of the settings be stated, each with any
value, and be written in sections, these in any order and the keys of each in any order, among
keys that are not known. Every plain document of these sections is loaded, and gives what is stated
and the defaults for the rest. -/
theorem load_of_isWrittenIn {files : Files} {path text : String}
    (written : stated.IsWrittenIn sections)
    (spelled : Toml.SpellsLines text.toList (Toml.sectionLines (named sections)))
    (found : files.read path = .ok (Utf8.encode text)) :
    load files path = .ok stated.settings :=
  load_of_read? found (read?_of_isWrittenIn written spelled)

/-- Two sections with an unknown key, and no general section. -/
theorem load_of_isWrittenIn_two_sections :
    let text := "\n".intercalate ["", "[parse]", "line_ending= \"any\"", "", "[target]",
      "colour = \"\\u00e9\"", "extra_args = [\"a=\\\"b\\\"\", \"\\U0001F600\" ,", "]",
      "binary_name = \"\""]
    let files : Files := ⟨.directory [("tally.toml", .file (Utf8.encode text) false)], []⟩
    load files "tally.toml" = .ok
      { target := { binaryName := "", extraArgs := ["a=\"b\"", "😀"] }
        parse.lineEnding := .any } := by
  intro text files
  let stated : Stated :=
    { binaryName := some "", extraArgs := some ["a=\"b\"", "😀"], lineEnding := some .any }
  let target : List (String × Toml) := [("colour", .string "é"),
    ("extra_args", .array [.string "a=\"b\"", .string "😀"]), ("binary_name", .string "")]
  have written : stated.IsWrittenIn
      [(.parse, [("line_ending", .string "any")]), (.target, target)] :=
    { distinct := by decide
      complete := by
        intro part filled
        cases part with
        | general => exact absurd rfl filled
        | target | parse => simp
      held := by
        rw [List.forall_mem_cons, List.forall_mem_singleton]
        exact ⟨⟨[], .refl _, .nil, by simp⟩, [("colour", "é")],
          List.reverse_perm target.reverse, by simp, by decide +kernel⟩ }
  have word : Toml.SpellsString "\"any\"".toList "any" := Toml.spellsString_quote "any"
  have accent : Toml.SpellsChar ['\\', 'u', '0', '0', 'e', '9'] 'é' :=
    .short (by decide)
  have long : Toml.SpellsChar ['\\', 'U', '0', '0', '0', '1', 'F', '6', '0', '0'] '😀' :=
    .long (by decide)
  have colour : Toml.SpellsString "\"\\u00e9\"".toList "é" :=
    ⟨[['\\', 'u', '0', '0', 'e', '9']], .cons accent .nil, by decide +kernel⟩
  have quoted : Toml.SpellsString "\"a=\\\"b\\\"\"".toList "a=\"b\"" :=
    Toml.spellsString_quote "a=\"b\""
  have face : Toml.SpellsString "\"\\U0001F600\"".toList "😀" :=
    ⟨[['\\', 'U', '0', '0', '0', '1', 'F', '6', '0', '0']], .cons long .nil, by decide +kernel⟩
  have nothing : Toml.SpellsString "\"\"".toList "" := Toml.spellsString_quote ""
  have feed : Toml.Gap ['\n'] := List.forall_mem_singleton.2 (.inr rfl)
  have args := Toml.SpellsItems.cons .nil quoted .nil (.cons .space face .space (.close feed))
  have lines :=
    Toml.SpellsLines.cons feed (.header (by decide +kernel : Toml.IsBareKey "parse")) <|
    .cons .nil (.binding (by decide +kernel : Toml.IsBareKey "line_ending") .nil .space
      (.string word)) <|
    .cons feed (.header (by decide +kernel : Toml.IsBareKey "target")) <|
    .cons .nil (.binding (by decide +kernel : Toml.IsBareKey "colour") .space .space
      (.string colour)) <|
    .cons .nil (.binding (by decide +kernel : Toml.IsBareKey "extra_args") .space .space
      (.strings args)) <|
    .last .nil (.binding (by decide +kernel : Toml.IsBareKey "binary_name") .space .space
      (.string nothing))
  refine load_of_isWrittenIn written ?_ rfl
  convert lines using 1
  · decide +kernel
  · rfl

/-! ### A document for whatever is stated -/

/-- What is stated in sections, one for each part. -/
def Stated.inSections (stated : Stated) : List (Part × List (String × Toml)) :=
  [Part.general, .target, .parse].map fun part ↦ (part, stated.entries part)

theorem Stated.isWrittenIn_inSections (stated : Stated) : stated.IsWrittenIn stated.inSections where
  distinct := by
    have parts : stated.inSections.map Prod.fst = [.general, .target, .parse] := rfl
    rw [parts]
    decide
  complete part _ := by cases part <;> simp [Stated.inSections]
  held s mem := by
    obtain ⟨part, -, rfl⟩ := List.mem_map.1 mem
    exact ⟨[], by simp, .nil, by simp⟩

theorem isBareKey_name (part : Part) : Toml.IsBareKey part.name := by
  cases part <;> decide +kernel

theorem isBareKey_of_mem_keys (known : key ∈ part.keys) : Toml.IsBareKey key := by
  have all : ∀ key ∈ part.keys, Toml.IsBareKey key := by
    cases part <;> decide +kernel
  exact all key known

/-- What is stated under a key can be spelled. -/
theorem exists_spellsValue_of_mem_entries {value : Toml} (mem : (key, value) ∈ stated.entries part) :
    ∃ text, Toml.SpellsValue text value := by
  have field := mem_entries_iff.1 mem
  cases part <;>
    simp only [Stated.fields, List.mem_cons, Prod.mk.injEq, List.not_mem_nil, or_false] at field
  · obtain ⟨-, found⟩ := field
    obtain ⟨b, -, rfl⟩ := Option.map_eq_some_iff.1 found.symm
    exact Toml.exists_spellsValue_boolean b
  · rcases field with ⟨-, found⟩ | ⟨-, found⟩ | ⟨-, found⟩ | ⟨-, found⟩ | ⟨-, found⟩ | ⟨-, found⟩
    on_goal 6 =>
      obtain ⟨args, -, rfl⟩ := Option.map_eq_some_iff.1 found.symm
      exact Toml.exists_spellsValue_strings args
    all_goals
      obtain ⟨s, -, rfl⟩ := Option.map_eq_some_iff.1 found.symm
      exact Toml.exists_spellsValue_string s
  · obtain ⟨-, found⟩ := field
    obtain ⟨ending, -, rfl⟩ := Option.map_eq_some_iff.1 found.symm
    exact Toml.exists_spellsValue_string ending.word

/-- **Whatever is stated, a document states it**: there is a text that is read as what is stated
and the defaults for the rest. -/
theorem Stated.exists_read? (stated : Stated) : ∃ text, read? text = some stated.settings := by
  obtain ⟨text, spelled⟩ : ∃ text, Toml.SpellsLines text
      (Toml.sectionLines (named stated.inSections)) := by
    refine Toml.exists_spellsLines_sectionLines ?_ ?_
    · intro s mem
      obtain ⟨_, sectionMem, rfl⟩ := List.mem_map.1 mem
      obtain ⟨part, -, rfl⟩ := List.mem_map.1 sectionMem
      exact isBareKey_name part
    · rintro _ mem ⟨key, value⟩ entryMem
      obtain ⟨_, sectionMem, rfl⟩ := List.mem_map.1 mem
      obtain ⟨part, -, rfl⟩ := List.mem_map.1 sectionMem
      have known : key ∈ part.keys :=
        (keys_entries_sublist stated part).subset (List.mem_map_of_mem entryMem)
      exact ⟨isBareKey_of_mem_keys known, exists_spellsValue_of_mem_entries entryMem⟩
  exact ⟨String.ofList text, read?_of_isWrittenIn stated.isWrittenIn_inSections
    (by rwa [String.toList_ofList])⟩

/-! ### The file with the defaults -/

theorem read?_defaultText : read? defaultText = some {} := by decide +kernel

/-- **A new settings file changes nothing**: after a run that has written one, the file that is
looked for is there and is loaded as the defaults. -/
theorem loadDefault_initConfig {files : Files}
    (written : (Run.initConfig files).ending = .settingsWritten) :
    loadDefault (Run.initConfig files).files = .ok (some {}) := by
  unfold Run.initConfig at written ⊢
  split_ifs at written ⊢ with present
  · cases written
  · cases saved : files.write fileName (Utf8.encode defaultText) with
    | error cause =>
      rw [saved] at written
      cases written
    | ok after =>
      obtain ⟨there, found⟩ := Files.read_of_write_of_missing saved (Bool.eq_false_iff.2 present)
      have loaded : load after fileName = .ok {} := load_of_read? found read?_defaultText
      change loadDefault after = .ok (some {})
      rw [loadDefault, if_pos there, loaded]
      rfl

end AlignmentTally.Settings
