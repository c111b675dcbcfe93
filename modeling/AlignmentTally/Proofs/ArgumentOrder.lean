import AlignmentTally.Proofs.CommandLine
import Mathlib.Data.List.Perm.Basic

/-!
# Options in any order

Options can be written as arguments, each in one of its own (`Options.SpellsAlone`): a value behind
the name of its option and an equals sign, a switch by its name or its letter. Arguments that spell
options in this way are read as these options in whatever order they stand
(`Options.parse_in_any_order`).

## Why order does not matter

The reader goes by what is given and not by when: `Options.ofGiven` looks each option up by its
name, and among options that are given once each a look-up finds the same in every order
(`Options.find?_eq_given?`). That they are given once each is a property of `Options.toGiven`, which
lists at most one of each name (`Options.nodup_names_toGiven`), and permuting keeps it.

An order of the arguments is an order of what they spell (`Options.exists_perm_of_areSpelledBy`), so
the grammar of `AlignmentTally.Proofs.CommandLine` applies to the arguments as they stand.

## What is asked of options

* **No path is empty** (`Options.HasNoEmptyPath`), because an empty path is refused wherever it
  stands. Other values are arbitrary; after the equals sign anything is a value, dashes included.
* **The environment gives nothing else** (`Options.Covers`), since what options leave out is taken
  from there.
* Options that ask for a replay and for saving are refused, and this too does not depend on the
  order.
-/

namespace AlignmentTally.Options

/-! ### What options give -/

/-- The value that options have for a name. -/
def value? (options : Options) : Name → Option String
  | .repoRoot => options.repoRoot
  | .buildDir => options.buildDir
  | .binary => options.binary
  | .backend => options.backend
  | .adapterVendorId => options.adapterVendorId
  | .input => options.input
  | .saveOutput => options.saveOutput
  | .lineEnding => options.lineEnding.map LineEnding.word
  | .format => some options.format.word
  | .config => options.config
  | .verbose | .quiet | .initConfig | .help | .version => none

/-- Whether options turn a switch on. -/
def isOn (options : Options) : Name → Bool
  | .verbose => options.verbose
  | .quiet => options.quiet
  | .initConfig => options.initConfig
  | _ => false

/-- What options give for a name. -/
def given? (options : Options) (name : Name) : Option Given :=
  if name.isSwitch then if options.isOn name then some ⟨name, none⟩ else none
  else (options.value? name).map fun value ↦ ⟨name, some value⟩

/-- Everything that options give: each value that is set, the form of the report, and each switch
that is on. -/
def toGiven (options : Options) : List Given := Name.all.filterMap options.given?

/-- An argument spells one option and nothing else. -/
inductive SpellsAlone : Given → String → Prop where
  | value {name : Name} (value : String) (takesValue : name.isSwitch = false) :
      SpellsAlone ⟨name, some value⟩ ("--" ++ name.long ++ "=" ++ value)
  | switch {name : Name} (isSwitch : name.isSwitch) :
      SpellsAlone ⟨name, none⟩ ("--" ++ name.long)
  | letter {letter : Char} {name : Name} (known : Name.ofShort? letter = some name)
      (isSwitch : name.isSwitch) : SpellsAlone ⟨name, none⟩ (String.ofList ['-', letter])

theorem SpellsAlone.argument {one : Given} {argument : String}
    (spelled : SpellsAlone one argument) : Argument argument [one] none := by
  cases spelled with
  | value value takesValue => exact .attached value takesValue
  | switch isSwitch => exact .switch isSwitch
  | letter known isSwitch => exact .letters (.switch known isSwitch .nil)

/-- Arguments that each spell an option spell these together. -/
theorem spelled_of_forall₂ {given : List Given} {arguments : List String}
    (spelled : List.Forall₂ SpellsAlone given arguments) : Spelled arguments given := by
  induction spelled with
  | nil => exact .nil
  | cons head _ ih => exact .complete head.argument ih

/-! ### Looking options up -/

section Lookup

variable {options : Options} {given : List Given} {name : Name} {one : Given}

theorem name_of_given? (h : options.given? name = some one) : one.name = name := by
  unfold given? at h
  split at h
  · split at h
    · cases h
      rfl
    · cases h
  · obtain ⟨value, -, rfl⟩ := Option.map_eq_some_iff.1 h
    rfl

theorem mem_toGiven_iff : one ∈ options.toGiven ↔ options.given? one.name = some one := by
  constructor
  · intro h
    obtain ⟨name, -, found⟩ := List.mem_filterMap.1 h
    rwa [name_of_given? found]
  · intro h
    have known : one.name ∈ Name.all := by cases one.name <;> decide
    exact List.mem_filterMap.2 ⟨one.name, known, h⟩

/-- No option is given twice. -/
theorem nodup_names_toGiven (options : Options) : (options.toGiven.map Given.name).Nodup := by
  have distinct : Name.all.Nodup := by decide
  have names : options.toGiven.map Given.name =
      Name.all.filter fun name ↦ (options.given? name).isSome := by
    rw [toGiven, List.map_filterMap, ← List.filterMap_eq_filter]
    refine List.filterMap_congr fun name _ ↦ ?_
    rcases found : options.given? name with _ | one
    · simp [Option.guard, found]
    · simp [Option.guard, found, name_of_given? found]
  rw [names]
  exact distinct.filter _

/-- What options give is found by its name, in whatever order it stands. -/
theorem find?_eq_given? (order : given.Perm options.toGiven) (name : Name) :
    given.find? (·.name = name) = options.given? name := by
  have gives (one : Given) : one ∈ given ↔ options.given? one.name = some one :=
    order.mem_iff.trans mem_toGiven_iff
  cases found : given.find? (·.name = name) with
  | none =>
    cases gave : options.given? name with
    | none => rfl
    | some one =>
      have same : one.name = name := name_of_given? gave
      have mem : one ∈ given := (gives one).2 (same ▸ gave)
      simpa [same] using List.find?_eq_none.1 found one mem
  | some one =>
    have same : one.name = name := by simpa using List.find?_some found
    rw [← same]
    exact ((gives one).1 (List.mem_of_find?_eq_some found)).symm

theorem valueOf_eq_value? (order : given.Perm options.toGiven)
    (takesValue : name.isSwitch = false) : valueOf name given = options.value? name := by
  rw [valueOf, find?_eq_given? order, given?, takesValue]
  cases options.value? name <;> rfl

theorem isGiven_eq_isOn (order : given.Perm options.toGiven) (isSwitch : name.isSwitch) :
    isGiven name given = options.isOn name := by
  rw [isGiven, ← List.isSome_find?, find?_eq_given? order, given?, if_pos isSwitch]
  cases options.isOn name <;> rfl

/-- What options give makes these options again, in whatever order it stands. -/
theorem ofGiven_eq (order : given.Perm options.toGiven) : ofGiven given = options := by
  have value {name : Name} (takesValue : name.isSwitch = false) :
      valueOf name given = options.value? name := valueOf_eq_value? order takesValue
  have switch {name : Name} (isSwitch : name.isSwitch) :
      isGiven name given = options.isOn name := isGiven_eq_isOn order isSwitch
  have ending : (options.lineEnding.map LineEnding.word).bind LineEnding.ofWord? =
      options.lineEnding := by
    cases options.lineEnding <;> simp
  have format : ((some options.format.word).bind OutputFormat.ofWord?).getD .text =
      options.format := by
    simp
  rw [ofGiven, value rfl, value rfl, value rfl, value rfl, value rfl, value rfl, value rfl,
    value rfl, value rfl, value rfl, switch rfl, switch rfl, switch rfl]
  simp only [value?, isOn, ending, format]

end Lookup

/-! ### Reading them -/

/-- No path that options set is empty. -/
def HasNoEmptyPath (options : Options) : Prop :=
  ∀ path ∈ [options.repoRoot, options.buildDir, options.input, options.saveOutput, options.config],
    path ≠ some ""

instance (options : Options) : Decidable options.HasNoEmptyPath :=
  List.decidableBAll _ _

theorem fits_of_isOn {options : Options} {name : Name} (on : options.isOn name) :
    Given.Fits ⟨name, none⟩ := by
  cases name with
  | verbose | quiet | initConfig => trivial
  | _ => cases on

theorem fits_of_value? {options : Options} (paths : options.HasNoEmptyPath) {name : Name}
    {value : String} (has : options.value? name = some value) : Given.Fits ⟨name, some value⟩ := by
  cases name with
  | repoRoot | buildDir | input | saveOutput | config =>
    rintro rfl
    exact paths (some "") (by simp [← has, value?]) rfl
  | binary | backend | adapterVendorId => trivial
  | lineEnding =>
    obtain ⟨ending, -, rfl⟩ := Option.map_eq_some_iff.1 has
    simp [Given.Fits]
  | format =>
    obtain rfl := Option.some.inj has
    simp [Given.Fits]
  | verbose | quiet | initConfig | help | version => cases has

/-- What options give fits when no path is empty. -/
theorem fits_of_mem_toGiven {options : Options} (paths : options.HasNoEmptyPath) {one : Given}
    (mem : one ∈ options.toGiven) : one.Fits := by
  have gave := mem_toGiven_iff.1 mem
  unfold given? at gave
  split at gave
  · split at gave
    · rw [← Option.some.inj gave]
      exact fits_of_isOn ‹_›
    · cases gave
  · obtain ⟨value, has, same⟩ := Option.map_eq_some_iff.1 gave
    rw [← same]
    exact fits_of_value? paths has

/-- Environment variables are unset, but for those whose options are given anyway. -/
def Covers (options : Options) (environment : Environment) : Prop :=
  (environment.backend.isSome → options.backend.isSome) ∧
    (environment.adapterVendorId.isSome → options.adapterVendorId.isSome)

theorem orFrom_of_covers {options : Options} {environment : Environment}
    (covers : options.Covers environment) : options.orFrom environment = options := by
  have or_eq {given other : Option String} (h : other.isSome → given.isSome) :
      given.or other = given := by
    cases given with
    | none => simpa using h
    | some value => rfl
  rw [orFrom, or_eq covers.1, or_eq covers.2]

/-- Arguments spell options, each in an argument of its own, in some order. -/
def AreSpelledBy (options : Options) (arguments : List String) : Prop :=
  ∃ inTurn, List.Forall₂ SpellsAlone options.toGiven inTurn ∧ arguments.Perm inTurn

/-- The order of arguments is an order of what they spell. -/
theorem exists_perm_of_areSpelledBy {options : Options} {arguments : List String}
    (spelled : options.AreSpelledBy arguments) :
    ∃ given, given.Perm options.toGiven ∧ List.Forall₂ SpellsAlone given arguments := by
  obtain ⟨inTurn, each, order⟩ := spelled
  have both : Relation.Comp (List.Forall₂ SpellsAlone) List.Perm options.toGiven arguments :=
    ⟨inTurn, each, order.symm⟩
  rw [List.forall₂_comp_perm_eq_perm_comp_forall₂] at both
  obtain ⟨given, permuted, each_given⟩ := both
  exact ⟨given, permuted.symm, each_given⟩

/-- **Options are read from their arguments in any order, and nothing is lost.** Options without an
empty path are read from arguments that spell each of them alone, whatever its value is, if the
environment gives nothing else. Only options that ask for a replay and for saving are refused, in
any order and in any environment. -/
theorem parse_in_any_order {options : Options} {arguments : List String}
    (paths : options.HasNoEmptyPath) (spelled : options.AreSpelledBy arguments)
    (environment : Environment) :
    (options.input.isSome ∧ options.saveOutput.isSome →
        parse arguments environment = .error .argumentConflict) ∧
      (¬ (options.input.isSome ∧ options.saveOutput.isSome) → options.Covers environment →
        parse arguments environment = .ok options) := by
  obtain ⟨given, order, each⟩ := exists_perm_of_areSpelledBy spelled
  have nodup : (given.map Given.name).Nodup :=
    (order.map Given.name).nodup_iff.2 options.nodup_names_toGiven
  have fits : ∀ one ∈ given, one.Fits := fun one mem ↦
    fits_of_mem_toGiven paths (order.mem_iff.1 mem)
  have taken : Progress.takeAll {} given = .ok (Progress.ofGiven given) :=
    (Progress.takeAll_eq_ok_iff given _).2 ⟨nodup, fits, rfl⟩
  have same : (Progress.ofGiven given).options = options := ofGiven_eq order
  have read : parse arguments environment =
      if options.input.isSome ∧ options.saveOutput.isSome then .error .argumentConflict
      else .ok (options.orFrom environment) := by
    rw [parse_eq_takeAll (spelled_of_forall₂ each), taken, ← same]
    rfl
  rw [read]
  constructor
  · intro both
    rw [if_pos both]
  · intro exclusive covers
    rw [if_neg exclusive, orFrom_of_covers covers]

/-- Values may be empty, look like options or hold equals signs, and a variable does not matter when
its option is given. -/
theorem parse_in_any_order_odd_values :
    let options : Options :=
      { repoRoot := some "-r", binary := some "", backend := some "--quiet=a=b", input := some "-"
        lineEnding := some .any, format := .json, verbose := true, quiet := true }
    let arguments := ["-q", "--backend=--quiet=a=b", "--format=json", "--input=-", "--binary=",
      "--verbose", "--line-ending=any", "--repo-root=-r"]
    options.AreSpelledBy arguments ∧
      parse arguments { backend := some "vulkan" } = .ok options := by
  intro options arguments
  have given : options.toGiven = [⟨.repoRoot, some "-r"⟩, ⟨.binary, some ""⟩,
      ⟨.backend, some "--quiet=a=b"⟩, ⟨.input, some "-"⟩, ⟨.lineEnding, some "any"⟩,
      ⟨.format, some "json"⟩, ⟨.verbose, none⟩, ⟨.quiet, none⟩] := by
    decide +kernel
  have quiet : SpellsAlone ⟨.quiet, none⟩ (String.ofList ['-', 'q']) := .letter rfl rfl
  have spelled : options.AreSpelledBy arguments := by
    rw [AreSpelledBy, given]
    refine ⟨_, .cons (.value "-r" rfl) <| .cons (.value "" rfl) <| .cons (.value "--quiet=a=b" rfl)
      <| .cons (.value "-" rfl) <| .cons (.value "any" rfl) <| .cons (.value "json" rfl)
      <| .cons (.switch rfl) <| .cons quiet .nil, ?_⟩
    decide +kernel
  exact ⟨spelled, (parse_in_any_order (by decide +kernel) spelled _).2 (by decide)
    ⟨fun _ ↦ rfl, by decide⟩⟩

end AlignmentTally.Options
