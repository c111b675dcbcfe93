import AlignmentTally.Options.Parse
import AlignmentTally.Proofs.Formats

/-!
# What a command line spells

A grammar of command lines beside the reader of `Options.parse`. An argument gives options of its
own and may leave one waiting for the next argument (`Argument`); a whole command line gives a list
of options with their values (`Spelled`). The reader holds back an option whose value has come in
an argument of its own, while the grammar knows nothing of that.

## The grammar and the reader

* `meetAll_settlePending` is the simulation: settled at the end, the reader has taken the options
  that the arguments spell, one after another. Each argument contributes what it gives
  (`meet_eq`), and the one that waits is settled by the next argument or at the end.
* `exists_spelled` is the way back: arguments that are read spell options. Here the cases are the
  reader's own, and each of them is a form of the grammar (`exists_argument`).
* `parse_eq_ok_iff` adds what the reader refuses: a command line that spells options is read exactly
  when they fit and none of them is given twice, and the options are then those that are spelled,
  with the environment standing in for what they leave out.

## What is left out

Only reading is described, and failures only as the lack of it: which of several faults is reported
depends on the order in which the reader meets them, and the grammar has no such order. Asking for
help or for the version counts as not being read.
-/

namespace AlignmentTally.Options

/-! ### The grammar -/

/-- An option as a command line gives it. -/
structure Given where
  /-- The option. -/
  name : Name
  /-- Its value; a switch has none. -/
  value : Option String := none
  deriving DecidableEq, Repr

/-- Whether an argument can be a value of its own: it does not look like an option. -/
def IsValue (argument : String) : Prop :=
  argument = "-" ∨ argument.toList.head? ≠ some '-'

/-- The letters after a single dash spell options, and may leave one waiting for its value. -/
inductive Letters : List Char → List Given → Option Name → Prop where
  | nil : Letters [] [] none
  | switch {letter name rest given waiting} (known : Name.ofShort? letter = some name)
      (isSwitch : name.isSwitch) (tail : Letters rest given waiting) :
      Letters (letter :: rest) (⟨name, none⟩ :: given) waiting
  | waiting {letter name} (known : Name.ofShort? letter = some name)
      (takesValue : name.isSwitch = false) : Letters [letter] [] (some name)
  /-- The value follows an equals sign. -/
  | equals {letter name} (value : List Char) (known : Name.ofShort? letter = some name)
      (takesValue : name.isSwitch = false) :
      Letters (letter :: '=' :: value) [⟨name, some (String.ofList value)⟩] none
  /-- The value follows the letter at once. -/
  | attached {letter name first} (value : List Char) (known : Name.ofShort? letter = some name)
      (takesValue : name.isSwitch = false) (ne : first ≠ '=') :
      Letters (letter :: first :: value) [⟨name, some (String.ofList (first :: value))⟩] none

/-- An argument spells options, and may leave one waiting for its value. -/
inductive Argument : String → List Given → Option Name → Prop where
  | switch {name : Name} (isSwitch : name.isSwitch) :
      Argument ("--" ++ name.long) [⟨name, none⟩] none
  | attached {name : Name} (value : String) (takesValue : name.isSwitch = false) :
      Argument ("--" ++ name.long ++ "=" ++ value) [⟨name, some value⟩] none
  | waiting {name : Name} (takesValue : name.isSwitch = false) :
      Argument ("--" ++ name.long) [] (some name)
  | letters {letter rest given waiting} (letters : Letters (letter :: rest) given waiting) :
      Argument (String.ofList ('-' :: letter :: rest)) given waiting

/-- Arguments spell options. Two dashes may end them; nothing can come after these. -/
inductive Spelled : List String → List Given → Prop where
  | nil : Spelled [] []
  | separator : Spelled ["--"] []
  | complete {argument rest given more} (head : Argument argument given none)
      (tail : Spelled rest more) : Spelled (argument :: rest) (given ++ more)
  /-- The option that waits takes its value from the next argument. -/
  | waiting {argument name value rest given more} (head : Argument argument given (some name))
      (isValue : IsValue value) (tail : Spelled rest more) :
      Spelled (argument :: value :: rest) (given ++ ⟨name, some value⟩ :: more)

theorem ofLong?_eq_some_iff {text : String} {name : Name} :
    Name.ofLong? text = some name ↔ name.long = text := by
  constructor
  · intro h
    simpa using List.find?_some h
  · rintro rfl
    cases name <;> decide +kernel

theorem ne_equals_of_mem_long {name : Name} : ∀ c ∈ name.long.toList, decide (c ≠ '=') = true := by
  have all : name.long.toList.all (fun c ↦ decide (c ≠ '=')) = true := by
    cases name <;> decide +kernel
  exact List.all_eq_true.1 all

/-- What is left after a name is nothing or starts with an equals sign. -/
theorem dropWhile_ne_equals (text : List Char) :
    text.dropWhile (· ≠ '=') = [] ∨ ∃ value, text.dropWhile (· ≠ '=') = '=' :: value := by
  induction text with
  | nil => exact .inl rfl
  | cons c rest ih =>
    by_cases h : c = '='
    · exact .inr ⟨rest, by simp [h]⟩
    · simpa [h] using ih

theorem Letters.ne_dash {letter : Char} {rest : List Char} {given : List Given}
    {waiting : Option Name} (spelled : Letters (letter :: rest) given waiting) : letter ≠ '-' := by
  rintro rfl
  cases spelled <;> contradiction

/-- Two dashes alone are no option. -/
theorem Argument.ne_separator {argument : String} {given : List Given} {waiting : Option Name}
    (spelled : Argument argument given waiting) : argument ≠ "--" := by
  intro same
  cases spelled with
  | letters spelled =>
    have shape := congrArg String.toList same
    simp only [String.toList_ofList] at shape
    cases shape
    exact spelled.ne_dash rfl
  | @attached name value =>
    cases name <;> simp [← String.toList_inj, Name.long] at same
  | @switch name | @waiting name =>
    cases name <;> simp [← String.toList_inj, Name.long] at same

/-! ### What is given -/

/-- Whether an option is given a value that it can take. Help and version are options that no
command line is read with. -/
def Given.Fits : Given → Prop
  | ⟨.repoRoot, some path⟩ | ⟨.buildDir, some path⟩ | ⟨.input, some path⟩
  | ⟨.saveOutput, some path⟩ | ⟨.config, some path⟩ => path ≠ ""
  | ⟨.binary, some _⟩ | ⟨.backend, some _⟩ | ⟨.adapterVendorId, some _⟩ => True
  | ⟨.lineEnding, some word⟩ => (LineEnding.ofWord? word).isSome
  | ⟨.format, some word⟩ => (OutputFormat.ofWord? word).isSome
  | ⟨.verbose, none⟩ | ⟨.quiet, none⟩ | ⟨.initConfig, none⟩ => True
  | _ => False

/-- The value that is given to an option. -/
def valueOf (name : Name) (given : List Given) : Option String :=
  (given.find? (·.name = name)).bind (·.value)

/-- Whether an option is given. -/
def isGiven (name : Name) (given : List Given) : Bool :=
  given.any (·.name = name)

/-- The options that are given, each by its own value. -/
def ofGiven (given : List Given) : Options where
  repoRoot := valueOf .repoRoot given
  buildDir := valueOf .buildDir given
  binary := valueOf .binary given
  backend := valueOf .backend given
  adapterVendorId := valueOf .adapterVendorId given
  input := valueOf .input given
  saveOutput := valueOf .saveOutput given
  lineEnding := (valueOf .lineEnding given).bind LineEnding.ofWord?
  format := ((valueOf .format given).bind OutputFormat.ofWord?).getD .text
  config := valueOf .config given
  verbose := isGiven .verbose given
  quiet := isGiven .quiet given
  initConfig := isGiven .initConfig given

theorem Given.Fits.isSome_value {given : Given} (fits : given.Fits)
    (takesValue : given.name.isSwitch = false) : given.value.isSome := by
  obtain ⟨name, _ | value⟩ := given
  · cases name <;> first | exact absurd takesValue (by decide) | exact fits.elim
  · rfl

/-- Options that fit have a value when they take one. -/
theorem isSome_valueOf {given : List Given} (fits : ∀ one ∈ given, one.Fits) {name : Name}
    (takesValue : name.isSwitch = false) : (valueOf name given).isSome = isGiven name given := by
  rw [valueOf, isGiven, ← List.isSome_find?]
  rcases found : given.find? (·.name = name) with _ | one
  · simp [found]
  · have same : one.name = name := by simpa using List.find?_some found
    simpa [found] using
      (fits one (List.mem_of_find?_eq_some found)).isSome_value (same ▸ takesValue)

/-- An option that is given last has its value unless it was given before. -/
theorem valueOf_concat (name : Name) (given : List Given) (last : Given)
    (fresh : last.name ∉ given.map Given.name) :
    valueOf name (given ++ [last]) =
      if last.name = name then last.value else valueOf name given := by
  unfold valueOf
  rw [List.find?_append]
  by_cases same : last.name = name
  · subst same
    have absent : given.find? (·.name = last.name) = none := by
      simpa [List.find?_eq_none, List.mem_map] using fresh
    simp [absent]
  · simp [same]

theorem isGiven_concat (name : Name) (given : List Given) (last : Given) :
    isGiven name (given ++ [last]) = (isGiven name given || last.name = name) := by
  simp [isGiven]

/-! ### Taking options -/

theorem pathOf_eq_ok_iff {value path : String} :
    pathOf value = .ok path ↔ value ≠ "" ∧ value = path := by
  by_cases h : value = "" <;> simp [pathOf, h]

theorem wordOf_eq_ok_iff {α : Type} {ofWord? : String → Option α} {value : String} {meaning : α} :
    wordOf ofWord? value = .ok meaning ↔ ofWord? value = some meaning := by
  unfold wordOf
  cases ofWord? value <;> simp

/-- A new option is assigned a value exactly when it can take it. -/
theorem assign_ofGiven {given : List Given} {name : Name} (fresh : name ∉ given.map Given.name)
    (value : String) (options : Options) :
    (ofGiven given).assign name value = .ok options ↔
      Given.Fits ⟨name, some value⟩ ∧ ofGiven (given ++ [⟨name, some value⟩]) = options := by
  have values : ∀ other, valueOf other (given ++ [⟨name, some value⟩]) =
      if name = other then some value else valueOf other given :=
    fun other ↦ valueOf_concat other given _ fresh
  cases name <;>
    simp [assign, ofGiven, values, isGiven_concat, Given.Fits, bind_eq_ok_iff, pathOf_eq_ok_iff,
      wordOf_eq_ok_iff, pure, Except.pure]
  case lineEnding => cases LineEnding.ofWord? value <;> simp
  case format => cases OutputFormat.ofWord? value <;> simp

/-- A new switch is met exactly when it is one that the reading goes on after. -/
theorem switch_ofGiven {given : List Given} {name : Name} (fresh : name ∉ given.map Given.name)
    (options : Options) :
    (ofGiven given).switch name = .ok options ↔
      Given.Fits ⟨name, none⟩ ∧ ofGiven (given ++ [⟨name, none⟩]) = options := by
  have values : ∀ other, valueOf other (given ++ [⟨name, none⟩]) =
      if name = other then none else valueOf other given :=
    fun other ↦ valueOf_concat other given _ fresh
  cases name <;> simp [switch, ofGiven, values, isGiven_concat, Given.Fits]

/-- The options after one more has been given. -/
def give (options : Options) (given : Given) : Except Stop Options :=
  match given.value with
  | some value => options.assign given.name value
  | none => options.switch given.name

theorem give_ofGiven {given : List Given} {last : Given} (fresh : last.name ∉ given.map Given.name)
    (options : Options) :
    (ofGiven given).give last = .ok options ↔
      last.Fits ∧ ofGiven (given ++ [last]) = options := by
  obtain ⟨name, value⟩ := last
  cases value with
  | none => exact switch_ofGiven fresh options
  | some value => exact assign_ofGiven fresh value options

namespace Progress

/-- Takes an option with its value, or a switch. -/
def take (progress : Progress) (given : Given) : Except Stop Progress := do
  let progress ← progress.note given.name
  return { progress with options := ← progress.options.give given }

/-- Takes one option after another. -/
def takeAll (progress : Progress) (given : List Given) : Except Stop Progress :=
  given.foldlM take progress

/-- Where the reading stands when exactly some options have been taken. -/
def ofGiven (given : List Given) : Progress where
  options := Options.ofGiven given
  given := (given.map Given.name).reverse

theorem note_eq_ok_iff {progress noted : Progress} {name : Name} :
    progress.note name = .ok noted ↔
      name ∉ progress.given ∧ { progress with given := name :: progress.given } = noted := by
  by_cases h : name ∈ progress.given <;> simp [note, h]

theorem take_eq_ok_iff {progress taken : Progress} {given : Given} :
    progress.take given = .ok taken ↔
      given.name ∉ progress.given ∧ ∃ options, progress.options.give given = .ok options ∧
        { progress with given := given.name :: progress.given, options } = taken := by
  simp only [take, bind_eq_ok_iff, note_eq_ok_iff, pure, Except.pure, Except.ok.injEq]
  constructor
  · rintro ⟨_, ⟨fresh, rfl⟩, options, given, rfl⟩
    exact ⟨fresh, options, given, rfl⟩
  · rintro ⟨fresh, options, given, rfl⟩
    exact ⟨_, ⟨fresh, rfl⟩, options, given, rfl⟩

/-- One more option is taken exactly when it is new and fits. -/
theorem take_ofGiven (given : List Given) (last : Given) (progress : Progress) :
    (ofGiven given).take last = .ok progress ↔
      last.name ∉ given.map Given.name ∧ last.Fits ∧ ofGiven (given ++ [last]) = progress := by
  rw [take_eq_ok_iff]
  have names : (ofGiven given).given = (given.map Given.name).reverse := rfl
  rw [names, List.mem_reverse]
  refine and_congr_right fun fresh ↦ ?_
  have after : ofGiven (given ++ [last]) =
      { ofGiven given with
        given := last.name :: (given.map Given.name).reverse
        options := Options.ofGiven (given ++ [last]) } := by
    simp [ofGiven]
  constructor
  · rintro ⟨options, gave, rfl⟩
    obtain ⟨fits, rfl⟩ := (give_ofGiven fresh options).1 gave
    exact ⟨fits, after⟩
  · rintro ⟨fits, rfl⟩
    exact ⟨_, (give_ofGiven fresh _).2 ⟨fits, rfl⟩, after.symm⟩

theorem takeAll_concat (progress : Progress) (given : List Given) (last : Given) :
    progress.takeAll (given ++ [last]) = progress.takeAll given >>= (·.take last) := by
  simp [takeAll]

/-- Options are taken exactly when each is new and fits. -/
theorem takeAll_eq_ok_iff (given : List Given) (progress : Progress) :
    takeAll {} given = .ok progress ↔
      (given.map Given.name).Nodup ∧ (∀ one ∈ given, one.Fits) ∧ ofGiven given = progress := by
  induction given using List.reverseRecOn generalizing progress with
  | nil => simp [takeAll, ofGiven, Options.ofGiven, valueOf, isGiven, pure, Except.pure]
  | append_singleton given last ih =>
    simp only [takeAll_concat, bind_eq_ok_iff, ih, List.map_append, List.map_cons, List.map_nil,
      List.nodup_append, List.mem_append, List.mem_singleton]
    constructor
    · rintro ⟨_, ⟨nodup, fits, rfl⟩, taken⟩
      obtain ⟨fresh, last_fits, rfl⟩ := (take_ofGiven given last progress).1 taken
      refine ⟨⟨nodup, by simp, ?_⟩, ?_, rfl⟩
      · rintro name mem _ rfl rfl
        exact fresh mem
      · rintro one (mem | rfl)
        exacts [fits one mem, last_fits]
    · rintro ⟨⟨nodup, -, fresh⟩, fits, rfl⟩
      exact ⟨_, ⟨nodup, fun one mem ↦ fits one (.inl mem), rfl⟩,
        (take_ofGiven given last _).2
          ⟨fun mem ↦ fresh _ mem _ rfl rfl, fits last (.inr rfl), rfl⟩⟩

/-! ### Arguments as they are met -/

/-- Lets an option wait for its value. -/
def await (progress : Progress) : Option Name → Progress
  | none => progress
  | some name => { progress with pending := some (name, none) }

/-- Meets one argument that does not end the options. -/
def meet (progress : Progress) (argument : String) : Except Stop Progress :=
  match argument.toList with
  | '-' :: '-' :: long => progress.meetLong long
  | '-' :: letter :: letters => progress.meetShort (letter :: letters)
  | _ => progress.meetValue argument

theorem meetAll_cons {argument : String} (ne : argument ≠ "--") (progress : Progress)
    (rest : List String) :
    progress.meetAll (argument :: rest) = progress.meet argument >>= (·.meetAll rest) := by
  rw [meetAll]
  · unfold meet
    split <;> simp [*]
  · exact ne

theorem settlePending_of_pending_eq_none {progress : Progress} (h : progress.pending = none) :
    progress.settlePending = .ok progress := by
  simp [settlePending, h]

theorem pending_of_take {progress taken : Progress} {given : Given}
    (h : progress.take given = .ok taken) : taken.pending = progress.pending := by
  obtain ⟨-, _, -, rfl⟩ := take_eq_ok_iff.1 h
  rfl

theorem pending_of_takeAll {progress taken : Progress} {given : List Given}
    (h : progress.takeAll given = .ok taken) : taken.pending = progress.pending := by
  induction given generalizing progress with
  | nil => cases h; rfl
  | cons first rest ih =>
    obtain ⟨between, first_taken, rest_taken⟩ := bind_eq_ok_iff.1 h
    rw [ih rest_taken, pending_of_take first_taken]

theorem pending_of_settlePending {progress settled : Progress}
    (h : progress.settlePending = .ok settled) : settled.pending = none := by
  rcases hp : progress.pending with _ | ⟨name, _ | value⟩
  · simp only [settlePending, hp] at h
    cases h
    exact hp
  · simp [settlePending, hp] at h
  · simp only [settlePending, hp] at h
    have taken : { progress with pending := none }.take ⟨name, some value⟩ = .ok settled := h
    rw [pending_of_take taken]

/-- Takes the options that an argument gives, after the one before it is settled, and lets the one
wait that it leaves. -/
def takeArgument (progress : Progress) (given : List Given) (waiting : Option Name) :
    Except Stop Progress := do
  let progress ← progress.settlePending
  let progress ← progress.takeAll given
  return progress.await waiting

/-- Two arguments give what they give together: nothing waits in between. -/
theorem takeArgument_append (progress : Progress) (given more : List Given)
    (waiting : Option Name) :
    progress.takeArgument given none >>= (·.takeArgument more waiting) =
      progress.takeArgument (given ++ more) waiting := by
  simp only [takeArgument, takeAll, List.foldlM_append, bind_assoc, pure_bind]
  cases settling : progress.settlePending with
  | error stop => rfl
  | ok settled =>
    change settled.takeAll given >>= _ = settled.takeAll given >>= _
    cases taking : settled.takeAll given with
    | error stop => rfl
    | ok taken =>
      have nothing : taken.pending = none :=
        (pending_of_takeAll taking).trans (pending_of_settlePending settling)
      change taken.settlePending >>= _ = taken.takeAll more >>= _
      rw [settlePending_of_pending_eq_none nothing]
      rfl

theorem meetSwitch_eq (progress : Progress) (name : Name) :
    progress.meetSwitch name = progress.takeArgument [⟨name, none⟩] none := by
  simp only [takeArgument, takeAll, List.foldlM_cons, List.foldlM_nil, await, bind_pure]
  rfl

theorem meetOption_some (progress : Progress) (name : Name) (value : String) :
    progress.meetOption name (some value) = progress.takeArgument [⟨name, some value⟩] none := by
  simp only [takeArgument, takeAll, List.foldlM_cons, List.foldlM_nil, await, bind_pure]
  rfl

theorem meetOption_none (progress : Progress) (name : Name) :
    progress.meetOption name none = progress.takeArgument [] (some name) := rfl

/-- Letters are met as the options that they spell. -/
theorem meetShort_eq {letters : List Char} {given : List Given} {waiting : Option Name}
    (spelled : Letters letters given waiting) (ne : letters ≠ []) (progress : Progress) :
    progress.meetShort letters = progress.takeArgument given waiting := by
  induction spelled generalizing progress with
  | nil => exact absurd rfl ne
  | @switch letter name rest given waiting known isSwitch tail ih =>
    simp only [meetShort, known, isSwitch, ↓reduceIte, meetSwitch_eq]
    by_cases last : rest = []
    · subst last
      cases tail
      exact bind_pure _
    · simp only [ih last]
      exact takeArgument_append progress [⟨name, none⟩] given waiting
  | waiting known takesValue =>
    simp [meetShort, known, takesValue, meetOption_none]
  | equals value known takesValue =>
    simp [meetShort, known, takesValue, meetOption_some]
  | attached value known takesValue first_ne =>
    simp only [meetShort, known, takesValue, Bool.false_eq_true, ↓reduceIte]
    split
    case h_1 nothing => cases nothing
    case h_2 equals => exact absurd (List.cons.inj equals).1 first_ne
    case h_3 => exact meetOption_some progress _ _

/-- A name after two dashes is met with the value that follows its equals sign, if there is one. -/
theorem meetLong_append (progress : Progress) (name : Name) (tail : List Char)
    (stops : tail.takeWhile (· ≠ '=') = []) :
    progress.meetLong (name.long.toList ++ tail) =
      if name.isSwitch then
        if tail.tail?.isSome then .error .tooManyValues else progress.meetSwitch name
      else progress.meetOption name (tail.tail?.map String.ofList) := by
  have rest : tail.dropWhile (· ≠ '=') = tail := by
    conv_rhs => rw [← List.takeWhile_append_dropWhile (p := (· ≠ '=')) (l := tail), stops]
    rfl
  have known : Name.ofLong? name.long = some name := ofLong?_eq_some_iff.2 rfl
  rw [meetLong, List.takeWhile_append_of_pos ne_equals_of_mem_long,
    List.dropWhile_append_of_pos ne_equals_of_mem_long, stops, rest]
  simp [known]

/-- An argument is met as the options that it spells. -/
theorem meet_eq {argument : String} {given : List Given} {waiting : Option Name}
    (spelled : Argument argument given waiting) (progress : Progress) :
    progress.meet argument = progress.takeArgument given waiting := by
  cases spelled with
  | @switch name isSwitch =>
    have met := meetLong_append progress name [] rfl
    simpa [meet, isSwitch, meetSwitch_eq] using met
  | @attached name value takesValue =>
    have met := meetLong_append progress name ('=' :: value.toList) rfl
    simpa [meet, takesValue, meetOption_some] using met
  | @waiting name takesValue =>
    have met := meetLong_append progress name [] rfl
    simpa [meet, takesValue, meetOption_none] using met
  | @letters letter rest given waiting spelled =>
    rw [← meetShort_eq spelled (by simp)]
    unfold meet
    rw [String.toList_ofList]
    split
    case h_1 dashes => cases dashes; exact absurd rfl spelled.ne_dash
    case h_2 same => cases same; rfl
    case h_3 no => exact absurd rfl (no _ _)

/-- A value is met only by an option that waits for it. -/
theorem meet_of_isValue {argument : String} (isValue : IsValue argument) (progress : Progress) :
    progress.meet argument = progress.meetValue argument := by
  unfold meet
  split
  case h_3 => rfl
  all_goals
    rename_i shape
    rcases isValue with rfl | noDash
    · simp at shape
    · simp [shape] at noDash

theorem meetValue_eq_ok_iff {argument : String} {progress after : Progress} :
    progress.meetValue argument = .ok after ↔
      ∃ name, progress.pending = some (name, none) ∧
        { progress with pending := some (name, some argument) } = after := by
  rcases pending : progress.pending with _ | ⟨name, _ | value⟩ <;> simp [meetValue, pending]

/-- Letters that are met spell options. -/
theorem exists_letters {letters : List Char} {progress after : Progress}
    (met : progress.meetShort letters = .ok after) :
    ∃ given waiting, Letters letters given waiting := by
  induction letters generalizing progress with
  | nil => exact ⟨[], none, .nil⟩
  | cons letter rest ih =>
    rw [meetShort] at met
    rcases known : Name.ofShort? letter with _ | name
    · simp [known] at met
    · simp only [known] at met
      rcases kind : name.isSwitch with _ | _
      · rcases rest with _ | ⟨first, value⟩
        · exact ⟨_, _, .waiting known kind⟩
        · by_cases equals : first = '='
          · subst equals
            exact ⟨_, _, .equals value known kind⟩
          · exact ⟨_, _, .attached value known kind equals⟩
      · simp only [kind, ↓reduceIte] at met
        obtain ⟨between, -, rest_met⟩ := bind_eq_ok_iff.1 met
        obtain ⟨given, waiting, tail⟩ := ih rest_met
        exact ⟨_, _, .switch known kind tail⟩

/-- What follows two dashes and is met spells an option. -/
theorem exists_long {text : List Char} {progress after : Progress}
    (met : progress.meetLong text = .ok after) :
    ∃ given waiting, Argument (String.ofList ('-' :: '-' :: text)) given waiting := by
  simp only [meetLong] at met
  have parts : text.takeWhile (· ≠ '=') ++ text.dropWhile (· ≠ '=') = text :=
    List.takeWhile_append_dropWhile
  have stops := dropWhile_ne_equals text
  generalize text.takeWhile (· ≠ '=') = head, text.dropWhile (· ≠ '=') = tail at met parts stops
  subst parts
  rcases known : Name.ofLong? (String.ofList head) with _ | name
  · simp [known] at met
  obtain rfl : head = name.long.toList := by simp [ofLong?_eq_some_iff.1 known]
  rcases stops with rfl | ⟨value, rfl⟩
  · have shape : String.ofList ('-' :: '-' :: (name.long.toList ++ [])) = "--" ++ name.long :=
      String.toList_inj.1 (by simp)
    rw [shape]
    rcases kind : name.isSwitch with _ | _
    exacts [⟨_, _, .waiting kind⟩, ⟨_, _, .switch kind⟩]
  · have shape : String.ofList ('-' :: '-' :: (name.long.toList ++ '=' :: value)) =
        "--" ++ name.long ++ "=" ++ String.ofList value :=
      String.toList_inj.1 (by simp)
    rw [shape]
    rcases kind : name.isSwitch with _ | _
    · exact ⟨_, _, .attached _ kind⟩
    · rw [String.ofList_toList] at known
      simp [known, kind] at met

/-- An argument that is met spells options, or it is the value that an option waits for. -/
theorem exists_argument {argument : String} {progress after : Progress}
    (met : progress.meet argument = .ok after) :
    IsValue argument ∨ ∃ given waiting, Argument argument given waiting := by
  unfold meet at met
  split at met
  case h_1 long shape =>
    obtain ⟨given, waiting, spelled⟩ := exists_long met
    rw [← shape, String.ofList_toList] at spelled
    exact .inr ⟨given, waiting, spelled⟩
  case h_2 letter rest _ shape =>
    obtain ⟨given, waiting, spelled⟩ := exists_letters met
    have argument_spelled := Argument.letters spelled
    rw [← shape, String.ofList_toList] at argument_spelled
    exact .inr ⟨given, waiting, argument_spelled⟩
  case h_3 _ noShort =>
    left
    rcases shape : argument.toList with _ | ⟨first, _ | ⟨second, rest⟩⟩
    · exact .inr (by simp [shape])
    · by_cases dash : first = '-'
      · subst dash
        exact .inl (String.toList_inj.1 shape)
      · exact .inr (by simp [shape, dash])
    · refine .inr ?_
      rintro dash
      rw [shape] at dash
      cases dash
      exact noShort second rest shape

/-! ### Whole command lines -/

theorem pending_of_takeArgument {progress taken : Progress} {given : List Given}
    {waiting : Option Name} (h : progress.takeArgument given waiting = .ok taken) :
    taken.pending = waiting.map fun name ↦ (name, none) := by
  obtain ⟨settled, settling, rest⟩ := bind_eq_ok_iff.1 h
  obtain ⟨between, taking, last⟩ := bind_eq_ok_iff.1 rest
  cases last
  cases waiting with
  | none => exact (pending_of_takeAll taking).trans (pending_of_settlePending settling)
  | some name => rfl

/-- A value that has come for the option that waits is the next one to be taken. -/
theorem takeArgument_of_pending {progress : Progress} (settled : progress.pending = none)
    (name : Name) (value : String) (more : List Given) (waiting : Option Name) :
    { progress with pending := some (name, some value) }.takeArgument more waiting =
      progress.takeArgument (⟨name, some value⟩ :: more) waiting := by
  obtain ⟨options, given, pending⟩ := progress
  cases settled
  simp only [takeArgument, takeAll, List.foldlM_cons, bind_assoc]
  rfl

/-- **Simulation.** Settled at the end, the reader has taken the options that the arguments spell,
one after another. -/
theorem meetAll_settlePending {arguments : List String} {given : List Given}
    (spelled : Spelled arguments given) (progress : Progress) :
    progress.meetAll arguments >>= settlePending = progress.takeArgument given none := by
  induction spelled generalizing progress with
  | nil => exact (bind_pure progress.settlePending).symm
  | separator => exact (bind_pure progress.settlePending).symm
  | @complete argument rest given more head tail ih =>
    rw [meetAll_cons head.ne_separator, meet_eq head, bind_assoc]
    simp only [ih]
    exact takeArgument_append progress given more none
  | @waiting argument name value rest given more head isValue tail ih =>
    rw [meetAll_cons head.ne_separator, meet_eq head, bind_assoc,
      ← takeArgument_append progress given (⟨name, some value⟩ :: more)]
    -- what waits after the argument is settled apart from what the argument gives
    have apart : progress.takeArgument given (some name) =
        progress.takeArgument given none >>= fun taken ↦ .ok (taken.await (some name)) := by
      simp only [takeArgument, bind_assoc]
      rfl
    rw [apart, bind_assoc]
    cases taking : progress.takeArgument given none with
    | error stop => rfl
    | ok taken =>
      have nothing : taken.pending = none := pending_of_takeArgument taking
      change (taken.await (some name)).meetAll (value :: rest) >>= settlePending = _
      have isArgument : value ≠ "--" := by
        rintro rfl
        rcases isValue with h | h <;> simp at h
      rw [meetAll_cons isArgument, meet_of_isValue isValue, bind_assoc]
      exact (ih _).trans (takeArgument_of_pending nothing name value more none)

/-- Arguments that are read spell options. An option that waited before takes the first of them as
its value. -/
theorem exists_spelled {arguments : List String} {progress after settled : Progress}
    (met : progress.meetAll arguments = .ok after) (settling : after.settlePending = .ok settled) :
    ((∀ name, progress.pending ≠ some (name, none)) → ∃ given, Spelled arguments given) ∧
      ∀ name, progress.pending = some (name, none) → ∃ value rest given,
        arguments = value :: rest ∧ IsValue value ∧ Spelled rest given := by
  induction arguments generalizing progress with
  | nil =>
    cases met
    refine ⟨fun _ ↦ ⟨[], .nil⟩, fun name waits ↦ ?_⟩
    simp [settlePending, waits] at settling
  | cons argument rest ih =>
    by_cases separator : argument = "--"
    · subst separator
      rcases rest with _ | ⟨next, rest⟩
      · cases met
        refine ⟨fun _ ↦ ⟨[], .separator⟩, fun name waits ↦ ?_⟩
        simp [settlePending, waits] at settling
      · simp [meetAll] at met
    rw [meetAll_cons separator] at met
    obtain ⟨between, first_met, rest_met⟩ := bind_eq_ok_iff.1 met
    obtain ⟨not_waiting, waiting⟩ := ih rest_met
    rcases exists_argument first_met with isValue | ⟨given, waits?, spelled⟩
    · rw [meet_of_isValue isValue] at first_met
      obtain ⟨name, waits, rfl⟩ := meetValue_eq_ok_iff.1 first_met
      obtain ⟨given, rest_spelled⟩ := not_waiting (by simp)
      exact ⟨fun no ↦ absurd waits (no name), fun _ _ ↦ ⟨_, _, _, rfl, isValue, rest_spelled⟩⟩
    · rw [meet_eq spelled] at first_met
      have pending := pending_of_takeArgument first_met
      refine ⟨fun _ ↦ ?_, fun name waits ↦ ?_⟩
      · rcases waits? with _ | name
        · obtain ⟨more, rest_spelled⟩ := not_waiting (by simp [pending])
          exact ⟨_, .complete spelled rest_spelled⟩
        · obtain ⟨value, rest, more, rfl, isValue, rest_spelled⟩ := waiting name pending
          exact ⟨_, .waiting spelled isValue rest_spelled⟩
      · simp [takeArgument, settlePending, waits, bind, Except.bind] at first_met

end Progress

/-- A command line that is read spells options. -/
theorem exists_spelled_of_parse {arguments : List String} {environment : Environment}
    {options : Options} (parsed : parse arguments environment = .ok options) :
    ∃ given, Spelled arguments given := by
  obtain ⟨after, met, rest⟩ := bind_eq_ok_iff.1 parsed
  obtain ⟨settled, settling, -⟩ := bind_eq_ok_iff.1 rest
  exact (Progress.exists_spelled met settling).1 (by simp)

/-- A command line that spells options is read by taking these one after another. -/
theorem parse_eq_takeAll {arguments : List String} {given : List Given}
    (spelled : Spelled arguments given) (environment : Environment) :
    parse arguments environment = Progress.takeAll {} given >>= fun progress ↦
      if progress.options.input.isSome ∧ progress.options.saveOutput.isSome then
        .error .argumentConflict
      else .ok (progress.options.orFrom environment) := by
  have taking : Progress.meetAll {} arguments >>= Progress.settlePending =
      Progress.takeAll {} given :=
    (Progress.meetAll_settlePending spelled {}).trans (bind_pure (Progress.takeAll {} given))
  rw [← taking, parse, bind_assoc]
  congr! 2

/-- **A command line that spells options is read exactly when these fit, none of them is given
twice**, and input and saving are not both asked for. The options read are then those that it
spells, with the environment standing in for what they leave out. -/
theorem parse_eq_ok_iff {arguments : List String} {given : List Given}
    (spelled : Spelled arguments given) {environment : Environment} {options : Options} :
    parse arguments environment = .ok options ↔
      (given.map Given.name).Nodup ∧ (∀ one ∈ given, one.Fits) ∧
        ¬ (isGiven .input given ∧ isGiven .saveOutput given) ∧
        (ofGiven given).orFrom environment = options := by
  -- whether both are there can be seen in the options as well as in what is given
  have both (fits : ∀ one ∈ given, one.Fits) :
      ((ofGiven given).input.isSome ∧ (ofGiven given).saveOutput.isSome) ↔
        (isGiven .input given ∧ isGiven .saveOutput given) := by
    rw [← isSome_valueOf fits rfl, ← isSome_valueOf fits rfl]
    rfl
  rw [parse_eq_takeAll spelled, bind_eq_ok_iff]
  simp only [Progress.takeAll_eq_ok_iff]
  constructor
  · rintro ⟨_, ⟨nodup, fits, rfl⟩, accepted⟩
    simp only [Progress.ofGiven, both fits] at accepted
    split at accepted
    · cases accepted
    · exact ⟨nodup, fits, ‹_›, Except.ok.inj accepted⟩
  · rintro ⟨nodup, fits, exclusive, rfl⟩
    refine ⟨_, ⟨nodup, fits, rfl⟩, ?_⟩
    simp only [Progress.ofGiven, both fits, exclusive, ↓reduceIte]

end AlignmentTally.Options
