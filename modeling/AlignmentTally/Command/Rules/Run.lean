import AlignmentTally.Command.Rules.State

/-!
# Rules at work

Expressions are computed and statements carried out; then the rules are gone through for each
record, and those for the beginning and the end before and after that.
-/

namespace AlignmentTally.Command.Rules

open Machine

namespace Act

/-! ### Replacing -/

/-- What replaces a fit: an ampersand stands for the fit, unless a backslash stands before it. -/
def replacement (fit : Text) : Text → Text
  | '\\' :: '\\' :: '&' :: rest => '\\' :: fit ++ replacement fit rest
  | '\\' :: '&' :: rest => '&' :: replacement fit rest
  | '&' :: rest => fit ++ replacement fit rest
  | c :: rest => c :: replacement fit rest
  | [] => []

/-- Replaces fits in a text from a place on, the first one or all: what was written, the last piece
first, and the number of fits. The end of the last fit is given. -/
def replaceFrom (regex : Regex) (new : Text) (all : Bool) :
    Nat → Regex.Place → Option Nat → List Text → Nat → List Text × Nat
  | 0, place, _, written, count => (place.rest :: written, count)
  | rounds + 1, place, lastEnd, written, count =>
    match regex.search {} place with
    | none => (place.rest :: written, count)
    | some fit =>
      let before := place.rest.take (fit.start.index - place.index)
      let isEmpty := fit.start.index = fit.finish.index
      let finish := some fit.finish.index
      let repeats := isEmpty ∧ lastEnd = finish
      let piece := if repeats then [] else replacement fit.text new
      let count := if repeats then count else count + 1
      if ¬ all then (fit.finish.rest :: piece :: before :: written, count)
      else if isEmpty then
        match fit.finish.rest with
        | [] => (piece :: before :: written, count)
        | c :: _ =>
          replaceFrom regex new all rounds (fit.finish.forward 1) finish
            ([c] :: piece :: before :: written) count
      else replaceFrom regex new all rounds fit.finish finish (piece :: before :: written) count

/-- A part of a text, from a place on and of some length. -/
def part (text : Text) (start : Float) (length : Option Float) : Text :=
  let start := Value.toInteger start
  match length with
  | none => text.drop (start - 1).toNat
  | some length =>
    let length := Value.toInteger length
    let length := if start < 0 then length - start else length
    (text.drop (start - 1).toNat).take length.toNat

/-- The first place of a text in another one, from one on. -/
def placeOf (wanted : Text) : Nat → Text → Nat
  | place, text =>
    if Text.beginsWith text wanted then place
    else
      match text with
      | [] => 0
      | _ :: rest => placeOf wanted (place + 1) rest
termination_by _ text => text.length

/-! ### Formats -/

/-- A format in the way it is shown in complaints. -/
def shownCall (caller : String) (format : Text) : Text :=
  caller ++ "(\"" ++ format ++ "\")"

/-- The position of the run, for complaints. -/
def position : Act Text := do
  let file ← special "FILENAME"
  let ofFile ← special "FNR"
  let total ← special "NR"
  return "\n\tFILENAME=\"" ++ file ++ "\" FNR=".toList ++ ofFile ++ " NR=".toList ++ total

/-- Ends with a complaint about what a run came to. -/
def failAt {α : Type} (words : Text) : Act α := do
  let place ← position
  fail ("run time error: " ++ words ++ place)

/-- The value of an amount, and the values that are left. -/
def amount (amount : Option Amount) (values : List Value) : Option Int × List Value :=
  match amount, values with
  | none, values => (none, values)
  | some (.fixed n), values => (some n, values)
  | some .next, [] => (some 0, [])
  | some .next, value :: rest => (some (Value.toInteger value.toNumber), rest)

/-- Values laid out by a format: the pieces, the last one first. What was laid out before a complaint
is written. -/
def layOut (caller : String) (whole : Text) (count : Nat) :
    Nat → Text → List Value → List Text → Act (List Text)
  | 0, _, _, pieces => return pieces
  | rounds + 1, format, values, pieces => do
    match format with
    | [] => return pieces
    | '%' :: '%' :: rest => layOut caller whole count rounds rest values (['%'] :: pieces)
    | '%' :: rest =>
      let (directive, rest) := Directive.read "hlLqjzt".toList rest
      let (width, values) := amount directive.width values
      let (precision, values) := amount directive.precision values
      let layout := directive.layout width precision
      let stop {α : Type} (words : Text) : Act α := do
        if caller = "printf" then lift (Work.put pieces.reverse.flatten)
        failAt words
      match directive.conversion with
      | none => return ('%' :: rest) :: pieces
      | some conversion =>
        if ¬ "cdiouxXeEfFgGaAs".toList.contains conversion then
          stop ("improper conversion(number " ++ Text.ofNat count ++ ") in ".toList ++
            shownCall caller whole)
        match values with
        | [] => stop ("not enough arguments passed to " ++ shownCall caller whole)
        | value :: values =>
          let integer := Value.toInteger (Value.truncate value.toNumber)
          let text ←
            if conversion = 's' then do pure (layout.text (← textOf value))
            else if conversion = 'c' then
              match value with
              | .number _ => pure (layout.fill [.ofNat (integer % 256).toNat])
              | value => do pure (layout.fill ((← textOf value).headD '\x00' :: []))
            else if conversion = 'd' ∨ conversion = 'i' then pure (layout.integer integer)
            else if "ouxX".toList.contains conversion then
              let natural := (integer % 18446744073709551616).toNat
              let base := if conversion = 'o' then 8 else if conversion = 'u' then 10 else 16
              pure (layout.natural base (conversion = 'X') natural)
            else pure (layout.real conversion (.ofFloat value.toNumber))
          layOut caller whole (count + 1) rounds rest values (text :: pieces)
    | c :: rest =>
      let plain := rest.takeWhile (· ≠ '%')
      layOut caller whole count rounds (rest.drop plain.length) values ((c :: plain) :: pieces)

/-- Values laid out by a format. -/
def formatted (caller : String) (format : Text) (values : List Value) : Act Text := do
  let pieces ← layOut caller format 1 (format.length + 1) format values []
  return pieces.reverse.flatten

/-! ### Names that mean more -/

/-- Sets the value of a name. -/
def setName (name : Text) (value : Value) : Act Unit := do
  match ← cell? name with
  | some (.array _) => fail ("line 1: illegal reference to array " ++ name)
  | _ =>
    setCell name (.value value)
    if name = "NF".toList then setFieldCount (Value.toInteger value.toNumber).toNat

/-- The value of a name. -/
def getName (name : Text) : Act Value := do
  if name = "NF".toList then
    let _ ← fields
  match ← cell? name with
  | some (.value value) => return value
  | some (.array _) => fail ("line 1: illegal reference to array " ++ name)
  | none => return .unset

/-- The number of a field. -/
def fieldNumber (value : Value) : Act Nat := do
  let n := Value.toInteger value.toNumber
  if n < 0 then
    failAt ("negative field index $" ++ Text.ofInt n)
  else if (maxField : Int) < n then failAt ("maximum number of fields " ++ Text.ofNat maxField)
  else return n.toNat

/-- An operator on two numbers. -/
def compute (operator : Operator) (x y : Float) : Float :=
  match operator with
  | .add => x + y
  | .subtract => x - y
  | .multiply => x * y
  | .divide => x / y
  | .remainder => Value.remainder x y
  | _ => Float.pow x y

/-- The functions of one number. -/
def numeric? (name : String) : Option (Float → Float) :=
  match name with
  | "sin" => some Float.sin
  | "cos" => some Float.cos
  | "exp" => some Float.exp
  | "log" => some Float.log
  | "sqrt" => some Float.sqrt
  | "int" => some Value.truncate
  | _ => none

/-- Whether a statement or an expression uses a name as an array, as far as can be seen at once. -/
def usesAsArray (name : Text) : Nat → List Expr → Bool
  | 0, _ => false
  | depth + 1, exprs => exprs.any fun expr ↦
    let among := usesAsArray name depth
    match expr with
    | .element array keys => array = name || among keys
    | .isIn keys array => array = name || among keys
    | .field e | .one _ e | .step _ _ e => among [e]
    | .assign _ a b | .two _ a b | .both a b | .either a b | .fits _ a b => among [a, b]
    | .choice a b c => among [a, b, c]
    | .builtin "split" (text :: .name array :: rest) => array = name || among (text :: rest)
    | .builtin "length" [.name _] => false
    | .call _ arguments => among arguments
    | .builtin _ arguments => among arguments
    | .readLine _ path target => among (path.toList ++ target.toList)
    | .list values => among values
    | _ => false

/-- Whether statements use a name as an array. -/
def statementUses (name : Text) : Nat → Statement → Bool
  | 0, _ => false
  | depth + 1, statement =>
    let among := usesAsArray name depth
    let inside := statementUses name depth
    match statement with
    | .expr e => among [e]
    | .print _ values target => among (values ++ target.toList.map Prod.snd)
    | .block statements => statements.any inside
    | .if_ e first second => among [e] || inside first || second.any inside
    | .while_ e body | .repeat_ body e => among [e] || inside body
    | .for_ start e step body =>
      start.any inside || among e.toList || step.any inside || inside body
    | .forIn _ array body => array = name || inside body
    | .exit e | .return_ e => among e.toList
    | .delete array keys => array = name || among (keys.getD [])
    | _ => false

/-- The calls in which a name is passed on: the function, and the place of the argument. -/
def passedOn (name : Text) : Nat → List Expr → List (Text × Nat)
  | 0, _ => []
  | depth + 1, exprs => exprs.flatMap fun expr ↦
    let among := passedOn name depth
    match expr with
    | .element _ keys => among keys
    | .isIn keys _ => among keys
    | .field e | .one _ e | .step _ _ e => among [e]
    | .assign _ a b | .two _ a b | .both a b | .either a b | .fits _ a b => among [a, b]
    | .choice a b c => among [a, b, c]
    | .call function arguments =>
      (arguments.zipIdx.filterMap fun (argument, place) ↦
        match argument with
        | .name other => if other = name then some (function, place) else none
        | _ => none) ++ among arguments
    | .builtin _ arguments => among arguments
    | .readLine _ path target => among (path.toList ++ target.toList)
    | .list values => among values
    | _ => []

/-- The calls of statements in which a name is passed on. -/
def statementPasses (name : Text) : Nat → Statement → List (Text × Nat)
  | 0, _ => []
  | depth + 1, statement =>
    let among := passedOn name depth
    let inside := statementPasses name depth
    match statement with
    | .expr e => among [e]
    | .print _ values target => among (values ++ target.toList.map Prod.snd)
    | .block statements => statements.flatMap inside
    | .if_ e first second => among [e] ++ inside first ++ second.toList.flatMap inside
    | .while_ e body | .repeat_ body e => among [e] ++ inside body
    | .for_ start e step body =>
      start.toList.flatMap inside ++ among e.toList ++ step.toList.flatMap inside ++ inside body
    | .forIn _ _ body => inside body
    | .exit e | .return_ e => among e.toList
    | _ => []

/-- Whether a function uses a parameter as an array, by itself or in the functions that it calls. -/
def wantsArray (program : Program) : Nat → Text → Nat → Bool
  | 0, _, _ => false
  | depth + 1, function, place =>
    match program.functions.lookup function with
    | none => false
    | some definition =>
      match definition.parameters[place]? with
      | none => false
      | some name =>
        statementUses name 100 definition.body ||
          (statementPasses name 100 definition.body).any fun (function, place) ↦
            wantsArray program depth function place

/-! ### Computing -/

/-- Leaves a function with a value. -/
def withFrame (frame : List (Text × Cell)) (act : Act Value) : Act Value := fun state failed done ↦
  let leave (state : State) : State := { state with frames := state.frames.drop 1 }
  act { state with frames := frame :: state.frames }
    (fun stop state ↦
      match stop with
      | .return_ value => done value (leave state)
      | stop => failed stop (leave state))
    fun value state ↦ done value (leave state)

/-- Goes through the body of a loop once. The result is whether the loop goes on. -/
def once (body : Act Unit) : Act Bool := fun state failed done ↦
  body state
    (fun stop state ↦
      match stop with
      | .break_ => done false state
      | .continue_ => done true state
      | stop => failed stop state)
    fun _ state ↦ done true state

/-- The next number by chance. -/
def chance : Act Float := do
  let (n, first) := (← get).seed
  let next := (n * 6364136223846793005 + 1442695040888963407) % 18446744073709551616
  modify ({ · with seed := (next, first) })
  return Float.ofNat (next / 2048) / 9007199254740992.0

mutual

/-- The value of an expression. -/
def value (program : Program) : Nat → Expr → Act Value
  | 0, _ => return .unset
  | depth + 1, expr => do
    let value := value program depth
    match expr with
    | .number x => return .number x
    | .text text => return .text text
    | .regex regex =>
      let text ← record
      return .ofBool (regex.find? {} text).isSome
    | .name name => getName name
    | .field e =>
      let number ← value e
      field (← fieldNumber number)
    | .element array keys =>
      let number ← arrayOf array
      element number (← keyOf program depth keys)
    | .assign operator target e =>
      let new ← value e
      let new ←
        match operator with
        | none => pure new
        | some operator => do
          let old ← value target
          pure (.number (compute operator old.toNumber new.toNumber))
      -- what is set has no more than its text and its number
      set_ program depth target new
      return new
    | .step isBefore isUp target =>
      let old := (← value target).toNumber
      let new := if isUp then old + 1 else old - 1
      set_ program depth target (.number new)
      return .number (if isBefore then new else old)
    | .one operator e =>
      let e ← value e
      match operator with
      | .minus => return .number (-e.toNumber)
      | .plus => return .number e.toNumber
      | .not => return .ofBool !e.isTrue
    | .two operator a b =>
      let a ← value a
      let b ← value b
      let format ← format
      match operator with
      | .concat => return .text ((← textOf a) ++ (← textOf b))
      | .less => return a.compare format (· < ·) (· == .lt) b
      | .atMost => return a.compare format (· ≤ ·) (· != .gt) b
      | .equal => return a.compare format (· == ·) (· == .eq) b
      | .unequal => return a.compare format (· != ·) (· != .eq) b
      | .greater => return a.compare format (fun x y ↦ y < x) (· == .gt) b
      | .atLeast => return a.compare format (fun x y ↦ y ≤ x) (· != .lt) b
      | operator => return .number (compute operator a.toNumber b.toNumber)
    | .both a b =>
      let a ← value a
      if ¬ a.isTrue then return .ofBool false
      let b ← value b
      return .ofBool b.isTrue
    | .either a b =>
      let a ← value a
      if a.isTrue then return .ofBool true
      let b ← value b
      return .ofBool b.isTrue
    | .fits wanted text pattern =>
      let text ← value text
      let text ← textOf text
      let regex ← regexValue program depth pattern
      return .ofBool ((regex.find? {} text).isSome = wanted)
    | .isIn keys array =>
      let key ← keyOf program depth keys
      let number ← arrayOf array
      return .ofBool ((← table number).contains key)
    | .choice condition a b =>
      let condition ← value condition
      if condition.isTrue then value a else value b
    | .call name arguments => call program depth name arguments
    | .builtin name arguments => builtin program depth name arguments
    | .readLine source path target => readLine program depth source path target
    | .list values =>
      match values with
      | [e] => value e
      | values => return .text (← keyOf program depth values)

/-- The key that some values make. -/
def keyOf (program : Program) : Nat → List Expr → Act Text
  | 0, _ => return []
  | depth + 1, keys => do
    let keys := match keys with
      | [.list keys] => keys
      | keys => keys
    let mut texts : List Text := []
    for key in keys do
      let key ← value program depth key
      texts := (← textOf key) :: texts
    if texts.length = 1 then return texts.flatten
    else return Text.join (← special "SUBSEP") texts.reverse

/-- Sets a place to a value. -/
def set_ (program : Program) : Nat → Expr → Value → Act Unit
  | 0, _, _ => return ()
  | depth + 1, target, new => do
    match target with
    | .name name => setName name new
    | .field e =>
      let number ← fieldNumber (← value program depth e)
      setField number (← textOf new)
    | .element array keys =>
      let number ← arrayOf array
      setElement number (← keyOf program depth keys) new
    | .list [target] => set_ program depth target new
    | _ => return ()

/-- The regular expression that a value writes. -/
def regexValue (program : Program) : Nat → Expr → Act Regex
  | 0, _ => return .nothing
  | depth + 1, pattern => do
    match pattern with
    | .regex regex => return regex
    | pattern =>
      let text ← value program depth pattern
      regexOf (← textOf text)

/-- The text of the argument at a place, or the record. -/
def argumentText (program : Program) : Nat → List Expr → Nat → Act Text
  | 0, _, _ => return []
  | depth + 1, arguments, place => do
    match arguments[place]? with
    | some argument =>
      let argument ← value program depth argument
      textOf argument
    | none => record

/-- The number of the argument at a place, if there is one. -/
def argumentNumber? (program : Program) : Nat → List Expr → Nat → Act (Option Float)
  | 0, _, _ => return none
  | depth + 1, arguments, place => do
    match arguments[place]? with
    | some argument =>
      let argument ← value program depth argument
      return some argument.toNumber
    | none => return none

/-- Calls a function of the program. -/
def call (program : Program) : Nat → Text → List Expr → Act Value
  | 0, _, _ => return .unset
  | depth + 1, name, arguments => do
    match program.functions.lookup name with
    | none => fail ("function " ++ name ++ " never defined".toList)
    | some function =>
      let mut frame : List (Text × Cell) := []
      for (argument, place) in arguments.zipIdx do
        let cell : Cell ←
          match argument with
          | .name other => do
            match ← cell? other with
            | some (.array number) => pure (.array number)
            | some (.value .unset) | none =>
              if wantsArray program 10 name place then do pure (.array (← arrayOf other))
              else pure (.value .unset)
            | some (.value value) => pure (.value value)
          | argument => do pure (.value (← value program depth argument))
        frame := ((function.parameters[place]?).getD [], cell) :: frame
      for parameter in function.parameters.drop arguments.length do
        frame := (parameter, .value .unset) :: frame
      withFrame frame do
        run program depth function.body
        return .unset

/-- Calls a function of the language. -/
def builtin (program : Program) : Nat → String → List Expr → Act Value
  | 0, _, _ => return .unset
  | depth + 1, name, arguments => do
    let text := argumentText program depth arguments
    let number? := argumentNumber? program depth arguments
    match name with
    | "length" =>
      match arguments with
      | [.name array] =>
        match ← cell? array with
        | some (.array number) => return .ofNat (← table number).size
        | _ => return .ofNat (← text 0).length
      | _ => return .ofNat (← text 0).length
    | "substr" =>
      let whole ← text 0
      let start ← number? 1
      let length ← number? 2
      return .text (part whole (start.getD 1) length)
    | "index" =>
      let whole ← text 0
      let wanted ← text 1
      return .ofNat (placeOf wanted 1 whole)
    | "split" =>
      let whole ← text 0
      let (second, third) : Option Expr × Option Expr := (arguments[1]?, arguments[2]?)
      match second with
      | some (.name array) =>
        let pieces ←
          match third with
          | some (.regex regex) =>
            if whole.isEmpty then pure []
            else pure (splitBy regex (whole.length + 1) ⟨0, none, whole⟩ ⟨0, none, whole⟩ [])
          | some _ => do split (← text 2) whole
          | none => do split (← special "FS") whole
        let number ← arrayOf array
        modify fun state ↦ { state with arrays := state.arrays.insert number {} }
        for (piece, place) in pieces.zipIdx do
          setElement number (Text.ofNat (place + 1)) (.ofInput piece)
        return .ofNat pieces.length
      | _ => fail "line 1: syntax error at or near split".toList
    | "sub" | "gsub" =>
      let regex ← regexValue program depth (arguments.headD (.text []))
      let new ← text 1
      let target := (arguments[2]?).getD (.field (.number 0))
      let old ← value program depth target
      let old ← textOf old
      let (pieces, count) :=
        replaceFrom regex new (name = "gsub") (old.length + 2) ⟨0, none, old⟩ none [] 0
      if 0 < count then set_ program depth target (.text pieces.reverse.flatten)
      return .ofNat count
    | "match" =>
      let whole ← text 0
      let regex ← regexValue program depth ((arguments[1]?).getD (.text []))
      let (start, length) : Float × Float :=
        match regex.find? {} whole with
        | some fit =>
          (Float.ofNat (fit.start.index + 1), Float.ofNat (fit.finish.index - fit.start.index))
        | none => (0, -1)
      setGlobal "RSTART" (.number start)
      setGlobal "RLENGTH" (.number length)
      return .number start
    | "sprintf" =>
      let format ← text 0
      let mut values : List Value := []
      for argument in arguments.drop 1 do
        values := (← value program depth argument) :: values
      return .text (← formatted "sprintf" format values.reverse)
    | "atan2" =>
      let y ← number? 0
      let x ← number? 1
      return .number (Float.atan2 (y.getD 0) (x.getD 0))
    | "rand" => return .number (← chance)
    | "srand" =>
      let new ← number? 0
      let (_, old) := (← get).seed
      let new := new.getD (Float.ofNat ((← Routine.self).now / 1000000))
      modify ({ · with seed := (new.toUInt64.toNat + 1, new) })
      return .number old
    | "tolower" => return .text ((← text 0).map Char.toLower)
    | "toupper" => return .text ((← text 0).map Char.toUpper)
    | "system" =>
      let command ← text 0
      flushAll
      let values := (← get).session.values
      let start : Act Unit := do
        let _ ← Routine.exec "/bin/sh" ["sh".toList, "-c".toList, command] values
        return ()
      let process ← Routine.fork start (fun _ _ ↦ .exit 127) fun _ _ ↦ .exit 127
      return .ofNat (← waitFor process)
    | "close" =>
      let name ← text 0
      return .number (← close name)
    | "fflush" =>
      flushAll
      return .number 0
    | "systime" => return .ofNat ((← Routine.self).now / 1000000)
    | name =>
      let x ← number? 0
      match numeric? name with
      | some function => return .number (function (x.getD 0))
      | none => return .unset

/-- Reads a line and puts it where it belongs. The result is whether there was one. -/
def readLine (program : Program) :
    Nat → LineSource → Option Expr → Option Expr → Act Value
  | 0, _, _, _ => return .unset
  | depth + 1, source, path, target => do
    let accept (line : Text) : Act Value := do
      match target with
      | some target => set_ program depth target (.ofInput line)
      | none => setRecord line
      return .number 1
    match source, path with
    | .input, _ =>
      match ← nextRecord endless with
      | some line =>
        countRecord true
        accept line
      | none => return .number 0
    | source, path =>
      let name ←
        match path with
        | some path => do textOf (← value program depth path)
        | none => pure []
      match ← readFrom (source = .command) name with
      | .error () => return .number (-1)
      | .ok none => return .number 0
      | .ok (some line) =>
        if source = .command then countRecord false
        accept line

/-- Carries out a statement. -/
def run (program : Program) : Nat → Statement → Act Unit
  | 0, _ => return ()
  | depth + 1, statement => do
    match statement with
    | .expr e =>
      let _ ← value program depth e
      return ()
    | .print isFormatted values target =>
      let mut reversed : List Value := []
      for e in values do
        reversed := (← value program depth e) :: reversed
      let all := reversed.reverse
      let text ←
        if isFormatted then do
          match all with
          | format :: values => formatted "printf" (← textOf format) values
          | [] => pure []
        else do
          let numberFormat ← special "OFMT"
          let pieces ← if all.isEmpty then do pure [← record]
            else pure (all.map (·.toText numberFormat))
          pure (Text.join (← special "OFS") pieces ++ (← special "ORS"))
      match target with
      | none => lift (Work.put text)
      | some (kind, e) =>
        let name ← value program depth e
        putTo kind (← textOf name) text
    | .block statements =>
      for statement in statements do
        run program depth statement
    | .if_ condition first second =>
      let condition ← value program depth condition
      if condition.isTrue then run program depth first
      else
        match second with
        | some second => run program depth second
        | none => return ()
    | .while_ condition body => loop program depth true (some condition) none body
    | .repeat_ body condition => loop program depth false (some condition) none body
    | .for_ start condition step body =>
      match start with
      | some start => run program depth start
      | none => pure ()
      loop program depth true condition step body
    | .forIn name array body =>
      let number ← arrayOf array
      let keys ← keysOf number
      forEach program depth name keys body
    | .break_ => throw .break_
    | .continue_ => throw .continue_
    | .next => throw .next
    | .nextFile => throw .nextFile
    | .exit status =>
      match status with
      | some e =>
        let status ← value program depth e
        modify ({ · with status := (Int.emod (Value.toInteger status.toNumber) 256).toNat })
      | none => pure ()
      throw .exit
    | .return_ e =>
      match e with
      | some e => throw (.return_ (← value program depth e))
      | none => throw (.return_ .unset)
    | .delete array keys =>
      let number ← arrayOf array
      match keys with
      | none => modify fun state ↦ { state with arrays := state.arrays.insert number {} }
      | some keys =>
        let key ← keyOf program depth keys
        modify fun state ↦
          let table := (state.arrays[number]?).getD {}
          { state with arrays := state.arrays.insert number (table.erase key) }

/-- Goes through a loop. -/
def loop (program : Program) :
    Nat → Bool → Option Expr → Option Statement → Statement → Act Unit
  | 0, _, _, _, _ => return ()
  | depth + 1, asksFirst, condition, step, body => do
    let goesOn ←
      match condition with
      | some condition =>
        if asksFirst then do pure (← value program depth condition).isTrue else pure true
      | none => pure true
    if goesOn then
      if ← once (run program depth body) then
        match step with
        | some step => run program depth step
        | none => pure ()
        loop program depth true condition step body

/-- Goes through a loop for each of some keys. -/
def forEach (program : Program) : Nat → Text → List Text → Statement → Act Unit
  | 0, _, _, _ => return ()
  | depth + 1, name, keys, body => do
    match keys with
    | [] => return ()
    | key :: keys =>
      setName name (.text key)
      if ← once (run program depth body) then forEach program depth name keys body

end

/-! ### Rules -/

/-- How it goes on after the rules for a record. -/
inductive Next where
  | record
  | file
  | finish
  deriving DecidableEq, Repr

/-- Goes through rules, and says how it goes on. -/
def stoppable (act : Act Unit) : Act Next := fun state failed done ↦
  act state
    (fun stop state ↦
      match stop with
      | .next => done .record state
      | .nextFile => done .file state
      | .exit => done .finish state
      | stop => failed stop state)
    fun _ state ↦ done .record state

/-- Whether a rule is to be followed for the record. -/
def isChosen (program : Program) (place : Nat) (pattern : Pattern) : Act Bool := do
  match pattern with
  | .always => return true
  | .where_ e =>
    let value ← value program endless e
    return value.isTrue
  | .range first last =>
    let isInside ←
      if (← get).ranges.contains place then pure true
      else do pure (← value program endless first).isTrue
    if ¬ isInside then return false
    let last ← value program endless last
    let isLast := last.isTrue
    modify fun state ↦
      let others := state.ranges.filter (· ≠ place)
      { state with ranges := if isLast then others else place :: others }
    return true
  | _ => return false

/-- Follows the rules for the record. -/
def followRules (program : Program) : Act Unit := do
  for (rule, place) in program.rules.zipIdx do
    if ← isChosen program place rule.pattern then run program endless rule.action

/-- Goes through the records of the input. -/
def goThrough (program : Program) : Nat → Act Next
  | 0 => return .finish
  | rounds + 1 => do
    match ← nextRecord endless with
    | none => return .record
    | some line =>
      setRecord line
      countRecord true
      match ← stoppable (followRules program) with
      | .finish => return .finish
      | .record => goThrough program rounds
      | .file =>
        match (← get).input with
        | some source => if source.stream ≠ 0 then Routine.close source.stream
        | none => pure ()
        modify ({ · with input := none })
        goThrough program rounds

/-- Follows the rules of the beginning or the end. -/
def followAll (program : Program) (atStart : Bool) : Act Next :=
  stoppable do
    for rule in program.rules do
      let isMeant :=
        match rule.pattern with
        | .beginning => atStart
        | .ending => !atStart
        | _ => false
      if isMeant then run program endless rule.action

/-- Whether a program does anything with the input. -/
def needsInput (program : Program) : Bool :=
  program.rules.any fun rule ↦
    match rule.pattern with
    | .beginning => false
    | _ => true

/-- Whether a program has rules for the end. -/
def hasEnding (program : Program) : Bool :=
  program.rules.any fun rule ↦
    match rule.pattern with
    | .ending => true
    | _ => false

/-- Follows a whole program. -/
def follow (program : Program) : Act Unit := do
  let first ← followAll program true
  let second ←
    if first = .finish ∨ ¬ needsInput program then pure first else goThrough program endless
  let _ := second
  if hasEnding program then
    let _ ← followAll program false
  closeAll

/-- Sets the values that a program finds. -/
def prepare (name : Text) (arguments settings : List Text) (separator : Option Text) :
    Act Unit := do
  let defaults : List (String × Value) :=
    [("FS", .text [' ']), ("OFS", .text [' ']), ("ORS", .text ['\n']), ("RS", .text ['\n']),
      ("NR", .number 0), ("FNR", .number 0), ("NF", .number 0), ("SUBSEP", .text ['\x1c']),
      ("CONVFMT", .text "%.6g".toList), ("OFMT", .text "%.6g".toList), ("RSTART", .number 0),
      ("RLENGTH", .number (-1)), ("FILENAME", .unset),
      ("ARGC", .ofNat (arguments.length + 1))]
  for (name, value) in defaults do
    setGlobal name value
  let environment ← arrayOf "ENVIRON".toList
  for (name, value) in (← get).session.values do
    setElement environment name (.ofInput value)
  let argv ← arrayOf "ARGV".toList
  for (argument, place) in (name :: arguments).zipIdx do
    setElement argv (Text.ofNat place) (.ofInput argument)
  match separator with
  | some text => setGlobal "FS" (.text (Token.unescape text.length text))
  | none => pure ()
  for setting in settings do
    assignArgument setting

end Act

/-! ### The command -/

/-- The functions that a program calls and does not have. -/
def missing? (program : Program) : Option Text :=
  let known := program.functions.map Prod.fst
  let called (statement : Statement) : List Text := callsOf 200 statement
  let statements := program.rules.map (·.action) ++ program.functions.map (·.2.body)
  (statements.flatMap called).find? (!known.contains ·)
where
  /-- The functions that expressions call. -/
  callsIn : Nat → List Expr → List Text
    | 0, _ => []
    | depth + 1, exprs => exprs.flatMap fun expr ↦
      let among := callsIn depth
      match expr with
      | .element _ keys => among keys
      | .isIn keys _ => among keys
      | .field e | .one _ e | .step _ _ e => among [e]
      | .assign _ a b | .two _ a b | .both a b | .either a b | .fits _ a b => among [a, b]
      | .choice a b c => among [a, b, c]
      | .call function arguments => function :: among arguments
      | .builtin _ arguments => among arguments
      | .readLine _ path target => among (path.toList ++ target.toList)
      | .list values => among values
      | _ => []
  /-- The functions that a statement calls. -/
  callsOf : Nat → Statement → List Text
    | 0, _ => []
    | depth + 1, statement =>
      let among := callsIn depth
      let inside := callsOf depth
      match statement with
      | .expr e => among [e]
      | .print _ values target => among (values ++ target.toList.map Prod.snd)
      | .block statements => statements.flatMap inside
      | .if_ e first second => among [e] ++ inside first ++ second.toList.flatMap inside
      | .while_ e body | .repeat_ body e => among [e] ++ inside body
      | .for_ start e step body =>
        start.toList.flatMap inside ++ among e.toList ++ step.toList.flatMap inside ++ inside body
      | .forIn _ _ body => inside body
      | .exit e | .return_ e => among e.toList
      | .delete _ keys => among (keys.getD [])
      | _ => []

/-- The exit status of a program that cannot be followed. -/
def faultStatus : Nat := 2

/-- Takes the options at the start of arguments, each with its text, and the other arguments. -/
def takeOptions : Nat → List Text → List (Char × Text) → Work (List (Char × Text) × List Text)
  | 0, arguments, chosen => return (chosen.reverse, arguments)
  | rounds + 1, arguments, chosen => do
    match arguments with
    | ['-', '-'] :: rest => return (chosen.reverse, rest)
    | ('-' :: letter :: text) :: rest =>
      if ¬ "FvfW".toList.contains letter then
        Work.fail ("not an option: -" ++ letter :: text) faultStatus
      match text, rest with
      | [], value :: rest => takeOptions rounds rest ((letter, value) :: chosen)
      | [], [] => Work.fail ("option -" ++ letter :: " lacks argument".toList) faultStatus
      | text, rest => takeOptions rounds rest ((letter, text) :: chosen)
    | arguments => return (chosen.reverse, arguments)

/-- Follows a program of rules for files, by default for the input. -/
def awk (arguments : List Text) : Work Unit := do
  let (chosen, others) ← takeOptions (arguments.length + 1) arguments []
  let files := chosen.filterMap fun (letter, path) ↦ if letter = 'f' then some path else none
  let (text, operands) ←
    if files.isEmpty then
      match others with
      | [] => Work.leave 0
      | text :: operands => pure (text, operands)
    else do
      let texts ← files.mapM fun path ↦ do
        match ← Work.open_ path with
        | .error error =>
          Work.fail ("cannot open \"" ++ path ++ "\" (".toList ++ error.words.toList ++ [')'])
            faultStatus
        | .ok stream =>
          let text := (← Routine.readAll stream).toOption.getD []
          Work.close stream
          return text
      pure (Text.join ['\n'] texts, others)
  match readProgram text with
  | .error words => Work.fail words faultStatus
  | .ok program =>
    match missing? program with
    | some name =>
      let lines := text.count '\n' + 2
      Work.fail ("line " ++ Text.ofNat lines ++ ": function ".toList ++ name ++
        " never defined".toList) faultStatus
    | none => pure ()
    let settings := chosen.filterMap fun (letter, text) ↦ if letter = 'v' then some text else none
    let session ← get
    let act : Act Unit := do
      let separators := chosen.filter (·.1 = 'F')
      Act.prepare session.name operands settings (separators.getLast?.map Prod.snd)
      Act.follow program
    follow act
where
  /-- Follows rules within the work of a command. -/
  follow (act : Act Unit) : Work Unit := fun session failed done ↦
    act { session }
      (fun stop state ↦
        match stop with
        | .failed status => failed status state.session
        | _ => done () { state.session with status := state.status })
      fun _ state ↦ done () { state.session with status := state.status }

end AlignmentTally.Command.Rules
