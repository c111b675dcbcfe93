import AlignmentTally.Regex.Reader
import AlignmentTally.Shell.Expand
import AlignmentTally.Shell.Parameters
import AlignmentTally.Shell.Trace

/-!
# Conditions of the extended dialect

Conditions that are a part of the language and not arguments of a command: their words are not cut
into fields, numbers are expressions, and the second of two words may be a pattern.
-/

namespace AlignmentTally.Shell

open Machine

namespace Test

/-- The notation of patterns for parts of texts. -/
def style : Regex.Style := { extended := true, strict := true, laxClose := true }

/-- The text of a pattern whose quoted characters stand for themselves. -/
def patternText (glyphs : List Glyph) : Text :=
  glyphs.flatMap fun glyph ↦
    if glyph.quoted ∧ "\\.[]*+?\x7b\x7d()|^$".toList.contains glyph.char then ['\\', glyph.char]
    else [glyph.char]

/-- The name of the parameter for what a pattern has fitted. -/
def fittedName : Text := "BASH_REMATCH"

/-- Whether a pattern fits a part of a text. The part and those of its groups are remembered. -/
def searches (first : Text) (pattern : List Glyph) : Action Bool := do
  let manner : Regex.Manner := { foldsCase := (← get).hasFeature "nocasematch" }
  match Regex.read style (patternText pattern) with
  | .error _ => Action.giveUpWith 2
  | .ok (regex, groups) =>
    match regex.find? manner first with
    | none =>
      modify (·.setVariable fittedName { value := .items [] })
      return false
    | some fit =>
      let texts := (List.range (groups + 1)).map fit.group
      modify (·.setVariable fittedName { value := State.itemsOf texts })
      return true

/-- Shows a condition on one word or two, if the shell is asked for that. -/
def trace (negated : Bool) (words : List Text) : Action Unit :=
  Trace.showPlain ("[[ " ++ (if negated then "! " else "") ++ Text.join [' '] words ++ " ]]")

/-- Whether what an operator says about two words holds. -/
def compares (run : Run) (negated : Bool) (operator : String) (first second : Word) :
    Action Bool := do
  let text ← Expand.text run first
  if operator = "=" ∨ operator = "==" ∨ operator = "!=" then
    let glyphs ← Expand.glyphs run second
    let style := { Expand.patternStyle (← get) with groups := true }
    let places := Place.ofGlyphs style (glyphs.length + 1) glyphs
    trace negated [text, operator.toList, ← Expand.text run second]
    return Place.fits places text = (operator ≠ "!=")
  else if operator = "=~" then
    let glyphs ← Expand.glyphs run second
    trace negated [text, operator.toList, glyphs.map (·.char)]
    searches text glyphs
  else
    let other ← Expand.text run second
    trace negated [text, operator.toList, other]
    let streams := (← Routine.self).streams
    let scene (directory : Nat) (disk : Disk) : Condition.Scene :=
      { extended := true, streams, directory, disk }
    if ["-eq", "-ne", "-ge", "-gt", "-le", "-lt"].contains operator then
      let x ← Expand.calculateFor "[[: " text
      let y ← Expand.calculateFor "[[: " other
      match operator with
      | "-eq" => return x = y
      | "-ne" => return x ≠ y
      | "-ge" => return y ≤ x
      | "-gt" => return y < x
      | "-le" => return x ≤ y
      | _ => return x < y
    else
      Routine.look fun directory disk ↦
        ((Condition.holdsBetween (scene directory disk) operator text other).toOption).getD false

/-- Whether a parameter, or an item of one, has a value. -/
def isSet (run : Run) (text : Text) : Action Bool := do
  let state ← get
  match Parser.splitIndex [.literal false (text.dropWhile isNameChar)] with
  | some (index, []) =>
    let name := text.takeWhile isNameChar
    let key ← Expand.keyOf (state.valueOf name) (← Expand.plainText run index)
    return ((state.valueOf name).item? key).isSome
  | _ => return (state.parameter? text []).isSome

/-- Whether what an operator says about a word holds. -/
def tellsOf (run : Run) (negated : Bool) (operator : String) (word : Word) : Action Bool := do
  let text ← Expand.text run word
  trace negated [operator.toList, text]
  let state ← get
  match operator with
  | "-v" => isSet run text
  | "-R" => return (state.referred? text).isSome
  | "-o" =>
    let letter := (Parameters.letter? true text).getD none
    return letter.any state.has
  | operator =>
    let streams := (← Routine.self).streams
    Routine.look fun directory disk ↦
      let scene : Condition.Scene := { extended := true, streams, directory, disk }
      ((Condition.holdsOf scene operator text).toOption).getD false

/-- Whether a condition holds, at most some levels deep. A condition on one word or two that is not
to hold is shown as such. -/
def holds (run : Run) : Nat → Bool → Test → Action Bool
  | 0, _, _ => return false
  | depth + 1, negated, test => do
    match test with
    | .one operator word => tellsOf run negated operator word
    | .two operator first second => compares run negated operator first second
    | .not test => return !(← holds run depth true test)
    | .both first second =>
      if ← holds run depth false first then holds run depth false second else return false
    | .either first second =>
      if ← holds run depth false first then return true else holds run depth false second

end Test

end AlignmentTally.Shell
