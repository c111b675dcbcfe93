import AlignmentTally.Shell.Brace
import AlignmentTally.Shell.Calculation
import AlignmentTally.Shell.Control
import AlignmentTally.Shell.Declaration
import AlignmentTally.Shell.Field
import AlignmentTally.Shell.Stack

/-!
# Expanding words

What the parts of a word expand to, part by part and from left to right: parameters, the output of
commands, and arithmetic expressions. Some expansions change parameters or end the shell.
-/

namespace AlignmentTally.Shell

open Machine

namespace Expand

/-! ### Home directories -/

/-- The home directories of users. -/
def homes : List (String × String) :=
  [("root", "/root"), ("daemon", "/usr/sbin"), ("bin", "/bin"), ("sys", "/dev"),
    ("nobody", "/nonexistent"), ("mail", "/var/mail"), ("www-data", "/var/www")]

/-- The directory that a tilde stands for in front of a name. -/
def home? (state : State) (user : Text) : Option Text :=
  let named := (homes.lookup (String.ofList user)).map String.toList
  if user.isEmpty then state.value? "HOME"
  else if state.isExtended ∧ user = ['+'] then state.value? "PWD"
  else if state.isExtended ∧ user = ['-'] then state.value? "OLDPWD"
  else if state.isExtended then
    match Stack.place (if user.all Char.isDigit then '+' :: user else user) with
    | .at fromFront distance => Stack.directoryAt? state fromFront distance
    | _ => named
  else named

/-- The parts of a text that begins with a tilde, or `none` if the tilde stands for itself. What
follows the user in the same text ends the user's name; otherwise the word has to end there. -/
def tilde? (state : State) (endsUser : Char → Bool) (isLast : Bool) (text : Text) :
    Option (List Part) :=
  match text with
  | '~' :: rest =>
    let user := rest.takeWhile (!endsUser ·)
    let after := rest.drop user.length
    if after.isEmpty ∧ ¬ isLast then none
    else
      (home? state user).map fun home ↦
        if after.isEmpty then [.literal true home] else [.literal true home, .literal false after]
  | _ => none

/-- A word with the tilde at its start replaced. -/
def replaceTilde (state : State) (word : Word) : Word :=
  match word with
  | .literal false text :: rest =>
    match tilde? state (· = '/') rest.isEmpty text with
    | some parts => parts ++ rest
    | none => word
  | word => word

/-- The pieces of a text after each colon. -/
def colonPieces (text : Text) : List Text :=
  match Text.splitOn ':' text with
  | [] => []
  | first :: rest => first :: rest.map (':' :: ·)

/-- A value with the tildes replaced at its start and after colons. -/
def replaceTildes (state : State) (word : Word) : Word :=
  let replace (isLast : Bool) (piece : Text) : List Part :=
    let ends (c : Char) : Bool := c = '/' || c = ':'
    match piece with
    | ':' :: rest =>
      match tilde? state ends isLast rest with
      | some parts => .literal false [':'] :: parts
      | none => [.literal false piece]
    | piece => (tilde? state ends isLast piece).getD [.literal false piece]
  let rec go : List Part → List Part
    | [] => []
    | .literal false text :: rest =>
      let pieces := colonPieces text
      let last := pieces.length - 1
      (pieces.mapIdx fun i piece ↦ replace (rest.isEmpty || i ≠ last) piece).flatten ++ go rest
    | part :: rest => part :: go rest
  match word with
  | .literal false text :: rest =>
    if text.contains '~' then go (.literal false text :: rest) else word
  | word =>
    if word.any fun part ↦ match part with
      | .literal false text => text.contains '~'
      | _ => false
    then
      match word with
      | first :: rest => first :: go rest
      | [] => []
    else word

/-! ### Parts -/

/-- For what a word is expanded. -/
structure Aim where
  /-- Whether the word may become several fields. -/
  fields : Bool
  /-- Whether text that is written out is cut at separators as well. -/
  cutsText : Bool := false

/-- The pieces for all arguments, each in a field of its own if there may be several. -/
def argumentPieces (quoted : Bool) (aim : Aim) (separator : Text) (arguments : List Text) :
    List Piece :=
  if aim.fields then
    (arguments.map fun argument ↦ [Piece.text quoted (!quoted) argument]).intersperse [.cut]
      |>.flatten
  else if arguments.isEmpty then []
  else [.text quoted (!quoted) (Text.join separator arguments)]

/-- Runs a command and takes its output, without the line ends at its end. -/
def substitute (run : Run) (body : Command) : Action Text := do
  match body with
  | .skip => return []
  | body =>
    let (output, input) ← Routine.pipe
    let process ← Control.start run do
      Routine.close output
      if input ≠ 1 then
        let _ ← Routine.lead 1 input
        Routine.close input
      modify fun state ↦ { state with nesting := state.nesting + 1 }
      Control.setStatus (← run body { ends := true })
    Routine.close input
    let text := (← Routine.readAll output).toOption.getD []
    Routine.close output
    let status ← Control.waitFor [process]
    modify fun state ↦ { state with substituted := status }
    return Text.trimEnd (· = '\n') (text.filter (· ≠ '\x00'))

/-- Complains about a fault of an arithmetic expression. -/
def refuseExpression {α : Type} (expression : Text) (fault : Arithmetic.Fault) : Action α := do
  match fault with
  | .expression words =>
    Action.fail ("arithmetic expression: " ++ words ++ ": \"" ++ expression ++ "\"")
  | .number text => Action.fail ("Illegal number: " ++ text)
  | .readOnly name => Action.fail (name ++ ": is read only")
  | .unset name => Action.fail (name ++ ": parameter not set")
  | .overflow =>
    let self ← Routine.self
    let _ ← Routine.send self.id Signal.arithmetic
    throw .exit

/-- The number that a parameter stands for in an expression of the plain dialect. -/
def numberOf (state : State) (name : Text) : Except Arithmetic.Fault Int :=
  let text := (state.parameter? name state.separator).getD []
  if (Text.trimStart Arithmetic.isBlank text).isEmpty then .ok 0
  else
    match Arithmetic.integer? text with
    | some n => .ok n
    | none => .error (.number text)

/-- The parameters that an expression of the extended dialect sees. -/
def scopeOf (state : State) : Calculation.Scope where
  text? target :=
    match target.key with
    | none => state.parameter? target.name state.separator
    | some key => (state.valueOf target.name).item? key
  isTable name := (state.valueOf name).isTable
  size name := (state.valueOf name).size
  strict := state.has 'u'

/-- The value of an expression. Parameters that it assigns to are given their values. `asker` is what
complaints call the command that the expression is a part of. -/
def calculateFor (asker expression : Text) : Action Int := do
  let state ← get
  if state.isExtended then
    match Calculation.evaluate (scopeOf state) expression with
    | .error (.refused expression words left) =>
      Action.fail (asker ++ expression ++ ": " ++ words ++ " (error token is \"" ++ left ++ "\")")
    | .error (.unset name) => Action.quit (name ++ ": unbound variable")
    | .ok (value, assigned) =>
      for (target, n) in assigned do
        match target.key with
        | none => Action.assign target.name (Text.ofInt n) false
        | some key => modify (·.putItem target.name key (Text.ofInt n))
      return value
  else
    match Arithmetic.evaluate ⟨numberOf state⟩ expression with
    | .error fault => refuseExpression expression fault
    | .ok (value, assigned) =>
      for (name, n) in assigned do
        Action.assign name (Text.ofInt n) false
      return value

/-- The value of an expression. Parameters that it assigns to are given their values. -/
def calculate (expression : Text) : Action Int := calculateFor [] expression

/-- The key of the item of a parameter that an index stands for. -/
def keyOf (value : Value) (index : Text) : Action Text := do
  if value.isTable then return index
  else
    let n ← calculate index
    let n := if n < 0 then n + value.size else n
    return Text.ofNat n.toNat

/-- The name and the index that a text writes for an item, or a name alone. -/
def reference? (text : Text) : Option (Text × Option Text) :=
  let name := text.takeWhile isNameChar
  if ¬ isName name then none
  else
    match text.drop name.length with
    | [] => some (name, none)
    | '[' :: rest =>
      match Parser.splitIndex [.literal false ('[' :: rest)] with
      | some ([.literal _ index], []) => if index.isEmpty then none else some (name, some index)
      | _ => none
    | _ => none

/-- Gives a text to a parameter, or to an item of one. -/
def assignTo (reference text : Text) : Action Unit := do
  match reference? reference with
  | none => Action.refuseName reference
  | some (name, none) => Action.assign name text false
  | some (name, some index) =>
    let entry := ((← get).lookup? name).getD {}
    if entry.readOnly then Action.refuseChange name
    if ¬ entry.value.isTable ∧ (index = ['@'] ∨ index = ['*']) then
      Action.warnAs none (reference ++ ": bad array subscript")
      Action.giveUp
    let key ← keyOf entry.value index
    let text ← if entry.isInteger then pure (Text.ofInt (← calculate text)) else pure text
    modify (·.putItem name key text)

/-- The values that stand for a parameter: several for all arguments or items. -/
inductive Found where
  /-- Nothing. -/
  | none
  /-- One text. -/
  | one (text : Text)
  /-- Several texts, and whether they stay apart within quotes. -/
  | several (apart : Bool) (texts : List Text)

/-- What stands for a parameter, or for an item of it. -/
def find (state : State) (name : Text) (index : Option Text) : Action Found := do
  match name, index with
  | ['@'], _ => return .several true state.arguments
  | ['*'], _ => return .several false state.arguments
  | name, none =>
    match state.parameter? name state.separator with
    | some text => return .one text
    | none => return .none
  | name, some index =>
    let value := state.valueOf name
    if index = ['@'] then return .several true (value.entries.map Prod.snd)
    else if index = ['*'] then return .several false (value.entries.map Prod.snd)
    else
      match value.item? (← keyOf value index) with
      | some text => return .one text
      | none => return .none

/-- Whether nothing stands for a parameter, not even no texts. -/
def Found.isNothing : Found → Bool
  | .none => true
  | _ => false

/-- The text of what stands for a parameter, with a text between several. -/
def Found.text? (separator : Text) : Found → Option Text
  | .none => Option.none
  | .one content => some content
  | .several _ texts =>
    if texts.isEmpty then Option.none else some (Text.join separator texts)

/-- The pieces of what stands for a parameter. -/
def Found.pieces (quoted : Bool) (aim : Aim) (separator : Text) : Found → List Piece
  | .none => if quoted then [.text true false []] else []
  | .one content => [.text quoted (!quoted) content]
  | .several apart texts =>
    if quoted ∧ ¬ apart then
      [.text true false (Text.join separator texts)]
    else argumentPieces quoted aim separator texts

/-- What stands for a parameter, each text of it changed. -/
def Found.map (change : Text → Text) : Found → Found
  | .none => .none
  | .one content => .one (change content)
  | .several apart texts => .several apart (texts.map change)

/-- What becomes of a character. -/
def recase (recasing : Recasing) (c : Char) : Char :=
  match recasing with
  | .upper => c.toUpper
  | .lower => c.toLower
  | .swapped => if c.isUpper then c.toLower else c.toUpper

/-- A text with the case of letters changed that fit a pattern, which fits all if it is empty. -/
def recaseText (recasing : Recasing) (all : Bool) (places : List Place) (text : Text) : Text :=
  text.mapIdx fun i c ↦
    let isMeant : Bool := (all || i = 0) && (places.isEmpty || Place.fits places [c])
    if isMeant then recase recasing c else c

/-- The text that replaces another one. An ampersand without quotes stands for the other one. -/
def replacement (new : List Glyph) (old : Text) : Text :=
  match new with
  | [] => []
  | ⟨'&', false⟩ :: rest => old ++ replacement rest old
  | ⟨'\\', false⟩ :: ⟨'&', _⟩ :: rest => '&' :: replacement rest old
  | glyph :: rest => glyph.char :: replacement rest old

/-- What is left of a text from a position on, with the parts replaced that a pattern fits. `text` is
the whole, and a part without characters counts once before each character. -/
def replaceParts (places : List Place) (new : List Glyph) (all : Bool) (text : Array Char) :
    Nat → Text → Text
  | _, [] => []
  | start, c :: rest =>
    match Place.longestEnd? places text start with
    | some stop =>
      let fitted := (c :: rest).take (stop - start)
      let left := (c :: rest).drop (stop - start)
      replacement new fitted ++
        if all then
          if fitted.isEmpty then c :: replaceParts places new all text (start + 1) rest
          else replaceParts places new all text (start + 1 + (stop - start - 1)) (rest.drop (stop - start - 1))
        else left
    | none => c :: replaceParts places new all text (start + 1) rest
termination_by _ rest => rest.length
decreasing_by all_goals (simp; try omega)

/-- A text with the first part, or all parts, replaced that a pattern fits. -/
def replaceIn (places : List Place) (new : List Glyph) (all : Bool) (text : Text) : Text :=
  if places.isEmpty then text
  else if text.isEmpty then if Place.fits places [] then replacement new [] else []
  else replaceParts places new all text.toArray 0 text

/-- What is left of texts under numbers from a place on, which may be counted from the end. -/
def itemsFrom (items : List (Nat × Text)) (start : Int) : List Text :=
  let size : Int := (items.map fun (n, _) ↦ n + 1).foldl max 0
  let start := if start < 0 then size + start else start
  if start < 0 then [] else (items.filter fun (n, _) ↦ start ≤ n).map Prod.snd

/-- A part of several texts, by place and length; the places of those under keys are counted from 1.
`none` if the length is less than nothing. -/
def sliceItems? (value? : Option Value) (texts : List Text) (start : Int) (length : Option Int) :
    Option (List Text) :=
  let left :=
    match value? with
    | some (.items items) => itemsFrom items start
    | some (.table _) =>
      itemsFrom (texts.mapIdx fun i text ↦ (i, text)) (if 0 < start then start - 1 else start)
    | _ => itemsFrom (texts.mapIdx fun i text ↦ (i, text)) start
  match length with
  | none => some left
  | some length => if length < 0 then none else some (left.take length.toNat)

/-- A part of a text, by place and length, which is counted from the end if it is less than nothing.
`none` if the part would end before it begins. -/
def sliceText? (text : Text) (start : Int) (length : Option Int) : Option Text :=
  let size : Int := text.length
  let start := if start < 0 then size + start else start
  if start < 0 ∨ size < start then some []
  else
    let stop :=
      match length with
      | none => size
      | some length => if length < 0 then size + length else start + length
    if stop < start then none else some ((text.drop start.toNat).take (stop - start).toNat)

/-- An expression before the first colon outside of brackets and choices, and what follows it.
`depth` counts the open brackets and choices. -/
def splitPlace (depth : Nat) (done : Text) : Text → Text × Option Text
  | [] => (done.reverse, none)
  | c :: rest =>
    if c = ':' ∧ depth = 0 then (done.reverse, some rest)
    else
      let depth := if c = '(' ∨ c = '?' then depth + 1 else if c = ')' ∨ c = ':' then depth - 1 else depth
      splitPlace depth (c :: done) rest

/-- The value of a prompt before anything in it is expanded. -/
def promptText (state : State) : Nat → Text → Text → Text
  | 0, done, text => done.reverse ++ text
  | _ + 1, done, [] => done.reverse
  | rounds + 1, done, '\\' :: c :: rest =>
    let directory :=
      let home := state.value "HOME"
      if ¬ home.isEmpty ∧ (state.directory = home ∨ Text.beginsWith state.directory (home ++ ['/'])) then
        '~' :: state.directory.drop home.length
      else state.directory
    let last := ((Text.splitOn '/' directory).getLast?.filter (!·.isEmpty)).getD directory
    let octal := (c :: rest).take 3
    if octal.length = 3 ∧ octal.all Escape.isOctal then
      promptText state rounds (Char.ofNat (Text.natOfDigits 8 octal % 256) :: done) (rest.drop 2)
    else
      let shown : Text :=
        match c with
        | 'a' => ['\x07'] | 'e' => ['\x1b'] | 'n' => ['\n'] | 'r' => ['\r'] | '\\' => ['\\']
        | '$' => ['#'] | 'u' => "root" | 'v' => "5.2" | 'V' => "5.2.15"
        | 'j' => Text.ofNat state.jobs.length
        | 's' => ((Text.splitOn '/' state.name).getLast?).getD []
        | 'w' => directory
        | 'W' => last
        | '!' | '#' => ['1']
        | '[' | ']' => []
        | c => ['\\', c]
      promptText state rounds (shown.reverse ++ done) rest
  | rounds + 1, done, c :: rest => promptText state rounds (c :: done) rest

/-- How patterns for texts are written. -/
def patternStyle (state : State) : PatternStyle where
  carets := state.isExtended
  groups := state.hasFeature "extglob"
  foldsCase := state.hasFeature "nocasematch"

mutual

/-- The pieces of one part of a word, at most some levels deep. -/
def expandPart (run : Run) (aim : Aim) : Nat → Part → Action (List Piece)
  | 0, _ => return []
  | depth + 1, part => do
    match part with
    | .literal quoted text => return [.text quoted (aim.cutsText && !quoted) text]
    | .substitution quoted body => return [.text quoted (!quoted) (← substitute run body)]
    | .arithmetic quoted expression =>
      let text ← expandText run depth expression
      return [.text quoted (!quoted) (Text.ofInt (← calculate text))]
    | .parameter quoted name index use words => expandUse run aim depth quoted name index use words
    | .processPath toCommand body =>
      let (output, input) ← Routine.pipe
      let (mine, other) := if toCommand then (input, output) else (output, input)
      let mine ← Control.moveUp mine true
      let stream := if toCommand then 0 else 1
      let process ← Control.start run do
        Routine.close mine
        let _ ← Routine.lead stream other
        Routine.close other
        Control.setStatus (← run body { ends := true })
      Routine.close other
      modify fun state ↦ { Control.withProcess process state with
        pathStreams := mine :: state.pathStreams }
      return [.text true false ("/dev/fd/" ++ Text.ofNat mine)]
    | .compound _ => return []

/-- The pieces of what stands for a parameter. -/
def expandUse (run : Run) (aim : Aim) : Nat → Bool → Text → Option Word → ParameterUse →
    List Word → Action (List Piece)
  | 0, _, _, _, _, _ => return []
  | depth + 1, quoted, name, index, use, words => do
    let indexText ←
      match index with
      | none => pure none
      | some word => do pure (some (← expandText run depth word))
    let state ← get
    let separator := state.separator
    let found ← find state name indexText
    let text? := found.text? separator
    let word := words.headD []
    let isMissing (orEmpty : Bool) : Bool :=
      match text? with
      | none => true
      | some text => orEmpty && text.isEmpty
    let word? : Action (List Piece) := do
      let word := replaceTilde (← get) word
      expandParts run { aim with cutsText := aim.fields } depth word
    let isAll := name = ['@'] ∨ name = ['*']
    let require : Action Unit := do
      if found.isNothing ∧ (← get).has 'u' then
        if state.isExtended then Action.quit (name ++ ": unbound variable")
        else Action.fail (name ++ ": parameter not set")
    match use with
    | .value =>
      require
      match found with
      | .none => return if quoted then [.text true false []] else []
      | found => return found.pieces quoted aim separator
    | .length =>
      if state.isExtended then
        match found with
        | .several _ texts => return [.text quoted (!quoted) (Text.ofNat texts.length)]
        | found =>
          require
          let length := ((found.text? separator).getD []).length
          return [.text quoted (!quoted) (Text.ofNat length)]
      else
        require
        return [.text quoted (!quoted) (Text.ofNat (text?.getD []).length)]
    | .default orEmpty =>
      if isMissing orEmpty then word? else return found.pieces quoted aim separator
    | .alternative orEmpty =>
      if isMissing orEmpty then return [] else word?
    | .assign orEmpty =>
      if isMissing orEmpty then
        let text ← expandText run depth (replaceTilde state word)
        match indexText with
        | none => Action.assign name text false
        | some index =>
          let key ← keyOf (state.valueOf name) index
          modify (·.putItem name key text)
        return [.text quoted (!quoted) text]
      else return found.pieces quoted aim separator
    | .require orEmpty =>
      if isMissing orEmpty then
        let words ←
          if word.isEmpty then
            pure ("parameter not set" ++ if orEmpty then " or null" else "" : Text)
          else expandText run depth (replaceTilde state word)
        if state.isExtended then Action.quit (name ++ ": " ++ words)
        else Action.fail (name ++ ": " ++ words)
      else return found.pieces quoted aim separator
    | .trimStart longest =>
      require
      let places ← expandPattern run depth word
      return (trimmed state found (Place.trimStart longest places)).pieces quoted aim separator
    | .trimEnd longest =>
      require
      let places ← expandPattern run depth word
      return (trimmed state found (Place.trimEnd longest places)).pieces quoted aim separator
    | .replace all =>
      require
      let (anchor, word) :=
        match all, word with
        | false, .literal false ('#' :: text) :: rest => (some true, Part.literal false text :: rest)
        | false, .literal false ('%' :: text) :: rest => (some false, Part.literal false text :: rest)
        | _, word => (none, word)
      let places ← expandPattern run depth word
      let new := Piece.toGlyphs (← expandParts run ⟨false, false⟩ depth (words.getD 1 []))
      let new :=
        if state.features.contains "patsub_replacement".toList then new
        else new.map fun glyph ↦ { glyph with quoted := true }
      let change (text : Text) : Text :=
        match anchor with
        | none => replaceIn places new all text
        | some true =>
          match Place.longestEnd? places text.toArray 0 with
          | some n => replacement new (text.take n) ++ text.drop n
          | none => text
        | some false =>
          let rest := Place.trimEnd true places text
          if rest.length = text.length ∧ ¬ Place.fits places [] then text
          else rest ++ replacement new (text.drop rest.length)
      return (found.map change).pieces quoted aim separator
    | .slice =>
      require
      let (first, second) := splitPlace 0 [] (← expandText run depth word)
      let start ← calculateFor (name ++ ": ") first
      let length ←
        match second with
        | none => pure none
        | some second => do pure (some (← calculateFor (name ++ ": ") second))
      let refuse : Action (List Piece) := Action.fail (second.getD [] ++ ": substring expression < 0")
      match found with
      | .several apart texts =>
        let texts := if isAll then state.name :: texts else texts
        let value? := if isAll then none else some (state.valueOf name)
        match sliceItems? value? texts start length with
        | some texts => return (Found.several apart texts).pieces quoted aim separator
        | none => refuse
      | .one text =>
        match sliceText? text start length with
        | some text => return (Found.one text).pieces quoted aim separator
        | none => refuse
      | .none => return Found.none.pieces quoted aim separator
    | .recase recasing all =>
      require
      let style := { patternStyle state with groups := true }
      let glyphs := Piece.toGlyphs (← expandParts run ⟨false, false⟩ depth word)
      let places := Place.ofGlyphs style (glyphs.length + 1) glyphs
      return (found.map (recaseText recasing all places)).pieces quoted aim separator
    | .keys =>
      let keys := (state.valueOf name).entries.map Prod.fst
      return (Found.several (indexText = some ['@']) keys).pieces quoted aim separator
    | .indirect use =>
      let referred? := if index.isNone then state.referred? name else none
      match text?, referred? with
      | _, some other => return [.text quoted (!quoted) other]
      | none, none =>
        if isSpecial (name.headD '_') then Action.fail (": invalid variable name")
        else Action.fail (name ++ ": invalid indirect expansion")
      | some target, none =>
        match reference? target with
        | some (other, some index) =>
          expandUse run aim depth quoted other (some [.literal true index]) use words
        | _ =>
          let isSingle : Bool :=
            match target with
            | [c] => isSpecial c || c = '!'
            | _ => false
          if isName target ∨ isSingle ∨ (¬ target.isEmpty ∧ target.all Char.isDigit) then
            expandUse run aim depth quoted target none use words
          else Action.fail (target ++ ": invalid variable name")
    | .names =>
      let names := state.names.filter (Text.beginsWith · name)
      return (Found.several (indexText = some ['@']) names).pieces quoted aim separator
    | .shown form =>
      require
      let entry := (state.lookup? name).getD {}
      let isWhole : Bool := indexText = some ['@'] || indexText = some ['*']
      match form with
      | .unknown =>
        if text?.isNone then return []
        let written ← expandText run depth word
        Action.quit (written ++ ": bad substitution")
      | .quoted => return (found.map Declaration.quoteAlways).pieces quoted aim separator
      | .unescaped =>
        return (found.map fun text ↦ (Escape.expand { Escape.Style.all with quotes := "'\"?".toList } text).1).pieces
          quoted aim separator
      | .prompt =>
        match found with
        | .one text =>
          let text := promptText state (text.length + 1) [] text
          let shown ← expandText run depth (Parser.lineWord state.dialect text)
          return (Found.one shown).pieces quoted aim separator
        | found => return found.pieces quoted aim separator
      | .letters =>
        if isAll then return []
        return (found.map fun _ ↦ Declaration.letters entry).pieces quoted aim separator
      | .assignment =>
        if isAll then
          let shown := "set -- " ++ Text.join [' '] (state.arguments.map Declaration.quoteAlways)
          return (Found.one shown).pieces quoted aim separator
        else
          let shown :=
            if isWhole then
              if entry.value.hasItems then
                Declaration.front name entry ++ Declaration.shownValue entry.value
              else Declaration.assignment name entry entry.value.text?
            else Declaration.assignment name entry text?
          return (if shown.isEmpty then Found.none else Found.one shown).pieces quoted aim separator
      | .entries =>
        if isWhole ∧ entry.value.hasItems then
          return (Found.one (Declaration.entries entry.value)).pieces quoted aim separator
        else return (found.map Declaration.quoteAlways).pieces quoted aim separator
      | .pairs =>
        if isWhole ∧ entry.value.hasItems then
          let texts := entry.value.entries.flatMap fun (key, text) ↦ [key, text]
          return (Found.several (indexText = some ['@']) texts).pieces quoted aim separator
        else return (found.map Declaration.quoteAlways).pieces quoted aim separator
    | .malformed =>
      if state.isExtended then Action.fail (name ++ ": bad substitution")
      else Action.fail "Bad substitution"
where
  /-- What stands for a parameter, trimmed: several texts together, in the plain dialect. -/
  trimmed (state : State) (found : Found) (trim : Text → Text) : Found :=
    match found with
    | .several apart texts =>
      if state.isExtended then .several apart (texts.map trim)
      else .one (trim (Text.join state.separator texts))
    | found => found.map trim

/-- The pieces of a word. -/
def expandParts (run : Run) (aim : Aim) : Nat → Word → Action (List Piece)
  | 0, _ => return []
  | depth + 1, word => do
    let mut pieces : List (List Piece) := []
    for part in word do
      pieces := (← expandPart run aim depth part) :: pieces
    return pieces.reverse.flatten

/-- The text of a word, which is not cut into fields. -/
def expandText (run : Run) : Nat → Word → Action Text
  | 0, _ => return []
  | depth + 1, word => return Piece.toText (← expandParts run ⟨false, false⟩ depth word)

/-- The pattern that a word writes. What is quoted stands for itself. -/
def expandPattern (run : Run) : Nat → Word → Action (List Place)
  | 0, _ => return []
  | depth + 1, word => do
    let word := replaceTilde (← get) word
    let glyphs := Piece.toGlyphs (← expandParts run ⟨false, false⟩ depth word)
    return Place.ofGlyphs (patternStyle (← get)) (glyphs.length + 1) glyphs

end

/-! ### Words -/

/-- The text of a word that is not cut into fields. -/
def text (run : Run) (word : Word) : Action Text := do
  expandText run endless (replaceTilde (← get) word)

/-- The text of a word in which a tilde stands for itself. -/
def plainText (run : Run) (word : Word) : Action Text := expandText run endless word

/-- The text of a value that is assigned. -/
def valueText (run : Run) (word : Word) : Action Text := do
  expandText run endless (replaceTildes (← get) word)

/-- The characters of a word with their quotes. -/
def glyphs (run : Run) (word : Word) : Action (List Glyph) := do
  return Piece.toGlyphs (← expandParts run ⟨false, false⟩ endless (replaceTilde (← get) word))

/-- The pattern that a word writes. -/
def pattern (run : Run) (word : Word) : Action (List Place) := expandPattern run endless word

/-- The paths that a field stands for, or the field itself. -/
def fieldPaths (field : Field) : Action (List Text) := do
  let state ← get
  if state.has 'f' ∨ ¬ field.any fun (quoted, text) ↦
      !quoted && text.any fun c ↦ "*?[(".toList.contains c then
    return [Field.text field]
  let extended := state.isExtended
  let has := state.hasFeature
  let style : PatternStyle := ⟨extended, has "extglob", has "nocaseglob"⟩
  let manner : Glob.Manner := {
    style
    hasSelf := !has "globskipdots"
    hidesDots := !has "dotglob"
    isDeep := has "globstar" }
  let glyphs := Field.glyphs field
  if ¬ Glob.isPattern style glyphs then return [Field.text field]
  match ← Routine.look fun directory disk ↦ Glob.expand manner disk directory glyphs with
  | [] =>
    if has "failglob" then Action.fail ("no match: " ++ Field.text field)
    return if has "nullglob" then [] else [Field.text field]
  | paths => return paths

/-- The fields of a word without braces. -/
def fieldsOfOne (run : Run) (word : Word) : Action (List Text) := do
  match word with
  | [.literal _ text] =>
    -- a word that is written out is the most common one
    if ¬ text.any fun c ↦ "*?[~(".toList.contains c then return [text]
  | _ => pure ()
  let word := replaceTilde (← get) word
  let pieces ← expandParts run ⟨true, false⟩ endless word
  let mut paths : List (List Text) := []
  for field in fieldsOf (← get).separators pieces do
    paths := (← fieldPaths field) :: paths
  return paths.reverse.flatten

/-- The fields of a word. -/
def fields (run : Run) (word : Word) : Action (List Text) := do
  if ¬ (← get).isExtended then fieldsOfOne run word
  else
    let mut all : List (List Text) := []
    for word in Brace.words word do
      all := (← fieldsOfOne run word) :: all
    return all.reverse.flatten

end Expand

end AlignmentTally.Shell
