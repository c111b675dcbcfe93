import AlignmentTally.Shell.Syntax

/-!
# How commands are written

A command is shown as a script may hold it, laid out in one of two ways: on lines of their own, each
step inside another command a step to the right, or all on one line. The words in it stay as they
were written.
-/

namespace AlignmentTally.Shell

open Machine

namespace Writing

/-- How commands are laid out. -/
inductive Layout where
  /-- Each on a line of its own. -/
  | lines
  /-- Each on a line of its own, all at the same margin. -/
  | flat
  /-- On one line as far as that can be. -/
  | together
  deriving DecidableEq, Repr

/-- Whether each command has a line of its own. -/
def Layout.onLines (layout : Layout) : Bool := layout ≠ .together

/-- The layout in the definition of a name. -/
def Layout.inside (layout : Layout) : Layout :=
  match layout with
  | .together => .lines
  | layout => layout

/-- The blanks at the start of a line at some depth. -/
def margin (layout : Layout) (depth : Nat) : Text :=
  List.replicate (if layout = .flat then 1 else 4 * depth) ' '

/-- What ends a command before what follows it: a semicolon, unless the command has an end. -/
def ending (text : Text) : Text :=
  if text.getLast? = some '&' ∨ text.getLast? = some '\n' then [] else [';']

/-- A text with what ends it. -/
def ended (text : Text) : Text := text ++ ending text

/-- The operator after a command that was chosen by a pattern. -/
def operatorOf : Continuation → Text
  | .stop => ";;"
  | .runNext => ";&"
  | .testNext => ";;&"

/-- A repetition over words, from the text of its body. -/
def eachOf (layout : Layout) (front : Text) (depth : Nat) (body : Text) : Text :=
  front ++ ";\n" ++ margin layout depth ++ "do\n" ++ margin layout (depth + 1) ++ ended body ++
    '\n' :: margin layout depth ++ "done"

/-- A text between braces on a line or on lines of their own. -/
def inBraces (layout : Layout) (depth : Nat) (body : Text) : Text :=
  if layout.onLines then "\x7b \n" ++ margin layout (depth + 1) ++ body ++ '\n' :: margin layout depth ++ "\x7d"
  else "\x7b " ++ ended body ++ " \x7d"

/-- The definition of a name, from the text of its body and from that of the redirections after
it. -/
def definitionOf (layout : Layout) (front : Text) (depth : Nat) (body redirects : Text) : Text :=
  front ++ " () \n" ++ margin layout.inside depth ++ inBraces layout.inside depth body ++
    if redirects.isEmpty then [] else ' ' :: redirects

/-- The depth of the body of a command in braces. -/
def deeper (layout : Layout) (depth : Nat) : Nat := if layout.onLines then depth + 1 else depth

mutual

/-- How a command is written that begins at some depth. -/
def text (layout : Layout) : Nat → Command → Text
  | _, .skip => []
  | _, .simple _ _ _ _ written => written
  | depth, .redirected _ body redirects written =>
    if redirects.isEmpty then inBraces layout depth (text layout (deeper layout depth) body)
    else text layout depth body ++ ' ' :: written
  | depth, .subshell _ body _ written =>
    "( " ++ text layout depth body ++ " )" ++
      if written.isEmpty then [] else ' ' :: written
  | depth, .background _ _ body => text layout depth body ++ " &"
  | depth, .pipeline parts => pipelineText layout depth parts
  | depth, .sequence first second =>
    let before := text layout depth first
    let isBeside : Bool := before.getLast? = some '&'
    ended before ++
      (if layout.onLines && !isBeside then '\n' :: margin layout depth else [' ']) ++ text layout depth second
  | depth, .andThen first second => text layout depth first ++ " && " ++ text layout depth second
  | depth, .orElse first second => text layout depth first ++ " || " ++ text layout depth second
  | depth, .negated body => "! " ++ text layout depth body
  | depth, .branch condition yes no =>
    let rest : Text :=
      match no with
      | .skip => []
      | no => "else\n" ++ margin layout (depth + 1) ++ ended (text layout (depth + 1) no) ++
          '\n' :: margin layout depth
    "if " ++ ended (text layout depth condition) ++ " then\n" ++ margin layout (depth + 1) ++
      ended (text layout (depth + 1) yes) ++ '\n' :: margin layout depth ++ rest ++ "fi"
  | depth, .loop onFailure condition body =>
    (if onFailure then "until " else "while ").toList ++ ended (text layout depth condition) ++
      " do\n" ++ margin layout (depth + 1) ++ ended (text layout (depth + 1) body) ++
      '\n' :: margin layout depth ++ "done"
  | depth, .each _ name _ written body =>
    eachOf layout ("for " ++ name ++ " in " ++ written) depth (text layout (depth + 1) body)
  | depth, .menu _ name _ written body =>
    eachOf layout ("select " ++ name ++ " in " ++ written) depth (text layout (depth + 1) body)
  | depth, .select _ _ written choices =>
    "case " ++ written ++ " in " ++ choicesText layout (depth + 1) choices ++
      '\n' :: margin layout depth ++ "esac"
  | depth, .timed brief body =>
    (if brief then "time -p " else "time ").toList ++ text layout depth body
  | depth, .define _ name body =>
    let front : Text := "function " ++ name
    match body with
    | .redirected _ body [] _ => definitionOf layout front depth (text layout.inside (depth + 1) body) []
    | .redirected _ (.redirected _ body [] _) _ written =>
      definitionOf layout front depth (text layout.inside (depth + 1) body) written
    | body => definitionOf layout front depth (text layout.inside (depth + 1) body) []
  | _, .condition _ _ written => "[[ " ++ written ++ " ]]"
  | _, .calculate _ _ written => "((" ++ written ++ "))"
  | depth, .count _ _ _ _ written body =>
    "for ((" ++ Text.join "; " written ++ "))\n" ++ margin layout depth ++ "do\n" ++ margin layout (depth + 1) ++
      ended (text layout (depth + 1) body) ++ '\n' :: margin layout depth ++ "done"
  | depth, .coprocess _ name body => "coproc " ++ name ++ ' ' :: text layout depth body

/-- How commands side by side are written. -/
def pipelineText (layout : Layout) : Nat → List Command → Text
  | _, [] => []
  | depth, part :: rest =>
    text layout depth part ++
      match rest with
      | [] => []
      | rest => " | " ++ pipelineText layout depth rest

/-- How the choices of a command by pattern are written, each on a new line. -/
def choicesText (layout : Layout) :
    Nat → List (List (List Part) × Text × Command × Continuation) → Text
  | _, [] => []
  | depth, (_, written, body, next) :: rest =>
    '\n' :: margin layout depth ++ written ++ ")\n" ++
      (match body with
      | .skip => []
      | body => margin layout (depth + 1) ++ text layout (depth + 1) body) ++
      '\n' :: margin layout depth ++ operatorOf next ++ choicesText layout depth rest

end

/-- The definition of a name as it is shown. -/
def definition (name : Text) (body : Command) : Text :=
  match body with
  | .redirected _ body [] _ => definitionOf .lines name 0 (text .lines 1 body) []
  | .redirected _ (.redirected _ body [] _) _ written =>
    definitionOf .lines name 0 (text .lines 1 body) written
  | body => definitionOf .lines name 0 (text .lines 1 body) []

/-- What a name stands for, as the value of a parameter may hold it. -/
def exported (body : Command) : Text :=
  let inside (body : Command) : Text := "() \x7b  " ++ text .flat 0 body ++ "\n\x7d"
  match body with
  | .redirected _ body [] _ => inside body
  | .redirected _ (.redirected _ body [] _) _ written => inside body ++ ' ' :: written
  | body => inside body

/-- How a command is shown that is run next. Of a command with others inside, only the start is
shown. -/
def brief : Command → Text
  | .each _ name _ written _ => "for " ++ name ++ " in " ++ written
  | .menu _ name _ written _ => "select " ++ name ++ " in " ++ written
  | .select _ _ written _ => "case " ++ written ++ " in "
  | command => text .together 0 command

end Writing

end AlignmentTally.Shell
