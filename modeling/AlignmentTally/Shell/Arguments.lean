import AlignmentTally.Shell.Condition

/-!
# Arguments of commands

What the commands of a shell have in common in reading their arguments: options, which are letters
after a dash, numbers, and texts in quotes.
-/

/-!
### How commands are used

The arguments that the commands of the extended dialect take, as it shows them when a command is
used in another way.
-/

namespace AlignmentTally.Shell

namespace Usage

/-- The arguments of commands, by name. -/
def table : List (String × String) :=
  [(".", "filename [arguments]"), ("alias", "[-p] [name[=value] ... ]"), ("bg", "[job_spec ...]"),
    ("break", "[n]"), ("builtin", "[shell-builtin [arg ...]]"), ("caller", "[expr]"), ("cd", "[-L|[-P [-e]] [-@]] [dir]"),
    ("command", "[-pVv] command [arg ...]"), ("continue", "[n]"),
    ("declare", "[-aAfFgiIlnrtux] [name[=value] ...] or declare -p [-aAfFilnrtux] [name ...]"),
    ("dirs", "[-clpv] [+N] [-N]"), ("echo", "[-neE] [arg ...]"), ("eval", "[arg ...]"),
    ("exec", "[-cl] [-a name] [command [argument ...]] [redirection ...]"), ("exit", "[n]"),
    ("export", "[-fn] [name[=value] ...] or export -p"), ("fg", "[job_spec]"),
    ("getopts", "optstring name [arg ...]"), ("hash", "[-lr] [-p pathname] [-dt] [name ...]"),
    ("jobs", "[-lnprs] [jobspec ...] or jobs -x command [args]"),
    ("kill", "[-s sigspec | -n signum | -sigspec] pid | jobspec ... or kill -l [sigspec]"),
    ("let", "arg [arg ...]"), ("local", "[option] name[=value] ..."),
    ("mapfile", "[-d delim] [-n count] [-O origin] [-s count] [-t] [-u fd] [-C callback] " ++
      "[-c quantum] [array]"),
    ("popd", "[-n] [+N | -N]"), ("printf", "[-v var] format [arguments]"),
    ("pushd", "[-n] [+N | -N | dir]"), ("pwd", "[-LP]"),
    ("read", "[-ers] [-a array] [-d delim] [-i text] [-n nchars] [-N nchars] [-p prompt] " ++
      "[-t timeout] [-u fd] [name ...]"),
    ("readarray", "[-d delim] [-n count] [-O origin] [-s count] [-t] [-u fd] [-C callback] " ++
      "[-c quantum] [array]"),
    ("readonly", "[-aAf] [name[=value] ...] or readonly -p"), ("return", "[n]"),
    ("set", "[-abefhkmnptuvxBCEHPT] [-o option-name] [--] [-] [arg ...]"), ("shift", "[n]"),
    ("shopt", "[-pqsu] [-o] [optname ...]"), ("source", "filename [arguments]"), ("times", ""),
    ("trap", "[-lp] [[arg] signal_spec ...]"), ("type", "[-afptP] name [name ...]"),
    ("typeset", "[-aAfFgiIlnrtux] name[=value] ... or typeset -p [-aAfFilnrtux] [name ...]"),
    ("ulimit", "[-SHabcdefiklmnpqrstuvxPRT] [limit]"), ("umask", "[-p] [-S] [mode]"),
    ("unalias", "[-a] name [name ...]"), ("unset", "[-f] [-v] [-n] [name ...]"),
    ("wait", "[-fn] [-p var] [id ...]")]

/-- The line that tells how a command is used. -/
def line (name : String) : String :=
  match table.lookup name with
  | some arguments =>
    name ++ ": usage: " ++ name ++ (if arguments.isEmpty then "" else " " ++ arguments) ++ "\n"
  | none => ""

end Usage

end AlignmentTally.Shell

namespace AlignmentTally.Shell

open Machine

namespace Arguments

/-- How a letter is used as an option: not at all, alone, or with a text. -/
def takesText? (letters : Text) (letter : Char) : Option Bool :=
  match letters with
  | [] => none
  | c :: rest =>
    if c = letter ∧ c ≠ ':' then some (rest.head? = some ':') else takesText? rest letter

/-- Tells how the command is used that is being run, in the extended dialect. -/
def remind {α : Type} : Action α := do
  let name := String.ofList ((← get).command.getD [])
  let _ ← Routine.write 2 (Usage.line name)
  Action.giveUpWith 2

/-- Complains, and tells how the command is used that is being run, in the extended dialect. -/
def misuse {α : Type} (words : Text) : Action α := do
  Action.warn words
  remind

/-- Takes the options at the start of arguments, in at most some rounds. `group` is what is left of
the argument that is taken apart. -/
def takeOptions (letters : Text) : Nat → Text → List Text → List (Char × Text) →
    Action (List (Char × Text) × List Text)
  | 0, _, arguments, found => return (found.reverse, arguments)
  | rounds + 1, group, arguments, found => do
    match group with
    | letter :: group =>
      match takesText? letters letter with
      | none =>
        if (← get).isExtended then
          misuse ('-' :: letter :: ": invalid option".toList)
        else Action.fail ("Illegal option -" ++ [letter])
      | some false => takeOptions letters rounds group arguments ((letter, []) :: found)
      | some true =>
        match group, arguments with
        | [], [] =>
          if (← get).isExtended then
            misuse ('-' :: letter :: ": option requires an argument".toList)
          else Action.fail ("No arg for -" ++ letter :: " option".toList)
        | [], text :: arguments =>
          takeOptions letters rounds [] arguments ((letter, text) :: found)
        | text, arguments => takeOptions letters rounds [] arguments ((letter, text) :: found)
    | [] =>
      match arguments with
      | ['-', '-'] :: arguments => return (found.reverse, arguments)
      | ('-' :: c :: group) :: arguments =>
        takeOptions letters rounds (c :: group) arguments found
      | arguments => return (found.reverse, arguments)

/-- The options at the start of arguments, each with its text, and the other arguments. A colon
after a letter says that the option has a text. -/
def options (letters : String) (arguments : List Text) :
    Action (List (Char × Text) × List Text) := do
  match arguments with
  | ('-' :: _ :: _) :: _ => takeOptions letters.toList endless [] arguments []
  | _ => return ([], arguments)

/-- The arguments of a command without options. -/
def operands (arguments : List Text) : Action (List Text) := return (← options "" arguments).2

/-- The greatest number that commands take. -/
def maxNumber : Int := 2147483647

/-- The number that an argument writes. -/
def number (argument : Text) : Action Nat := do
  match (Condition.integer? argument).filter fun n ↦ 0 ≤ n ∧ n ≤ maxNumber with
  | some n => return n.toNat
  | none =>
    if (← get).isExtended then Action.fail (argument ++ ": numeric argument required")
    else Action.fail ("Illegal number: " ++ argument)

/-- Text between single quotes, with the single quotes in it between double ones. -/
def quoteFrom : Nat → Text → Text
  | 0, _ => []
  | rounds + 1, text =>
    let plain := text.takeWhile (· ≠ '\'')
    let rest := text.drop plain.length
    let quotes := rest.takeWhile (· = '\'')
    let rest := rest.drop quotes.length
    let here := '\'' :: plain ++ ['\'']
    if quotes.isEmpty then here
    else here ++ '"' :: quotes ++ '"' :: (if rest.isEmpty then [] else quoteFrom rounds rest)

/-- A text as a script may write it, between quotes. -/
def quote (text : Text) : Text := quoteFrom (text.length + 1) text

/-- Names and texts in the order of the names. -/
def sorted {α : Type} (entries : List (Text × α)) : List (Text × α) :=
  entries.mergeSort fun a b ↦ !Text.before b.1 a.1

end Arguments

end AlignmentTally.Shell
