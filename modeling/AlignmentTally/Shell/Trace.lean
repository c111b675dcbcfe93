import AlignmentTally.Shell.Expand
import AlignmentTally.Shell.Output

/-!
# Showing what is run

A shell that is asked for it shows each command before it runs it, behind a mark. In the extended
dialect the mark begins with one more character for each command around whose output is used.
-/

namespace AlignmentTally.Shell

open Machine

namespace Trace

/-- The mark in front of what is shown. -/
def mark (state : State) (text : Text) : Text :=
  match state.isExtended, text with
  | true, c :: _ => List.replicate state.nesting c ++ text
  | _, text => text

/-- The mark when nothing in it stands for anything else. -/
def plainMark (state : State) : Text := mark state ((state.value? "PS4").getD "+ ")

/-- Shows a text on a stream, if the shell is asked for that. -/
def show_ (run : Run) (stream : Nat) (text : Text) : Action Unit := do
  let state ← get
  if ¬ state.has 'x' then return
  set { state with options := state.options.filter (· ≠ 'x') }
  let pattern := (state.value? "PS4").getD "+ "
  let expanded ← Expand.plainText run (Parser.lineWord state.dialect pattern)
  modify fun after ↦ { after with options := state.options }
  let _ ← Routine.write stream (mark state expanded ++ text ++ ['\n'])
  return ()

/-- Shows a text with the mark as it is, if the shell is asked for that. -/
def showPlain (text : Text) : Action Unit := do
  let state ← get
  if state.has 'x' then
    let _ ← Routine.write 2 (plainMark state ++ text ++ ['\n'])

/-- A field as it is shown: between quotes where it needs them. -/
def quoted (text : Text) : Text :=
  let isSafe := fun c : Char ↦ c.isAlphanum || "_-./:=+,%@".toList.contains c
  if text.any fun c ↦ c.toNat < 32 || 126 < c.toNat then Output.quoteEscaped text
  else if ¬ text.isEmpty ∧ text.all isSafe then text
  else
    '\'' :: (text.flatMap fun c ↦ if c = '\'' then "'\\''".toList else [c]) ++ ['\'']

/-- A value as it is shown behind an equals sign. -/
def quotedValue (text : Text) : Text := if text.isEmpty then [] else quoted text

end Trace

end AlignmentTally.Shell
