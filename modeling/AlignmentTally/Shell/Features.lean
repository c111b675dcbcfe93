import AlignmentTally.Shell.Parameters

/-!
# Options and features of the extended dialect

The options of the extended dialect by name, and its features, which have names only. Both can be
set, taken back and listed.
-/

namespace AlignmentTally.Shell

open Machine

namespace Features

/-- The features, and whether each is on at the start of a script. -/
def table : List (String × Bool) :=
  [("autocd", false), ("assoc_expand_once", false), ("cdable_vars", false), ("cdspell", false),
    ("checkhash", false), ("checkjobs", false), ("checkwinsize", true), ("cmdhist", true),
    ("compat31", false), ("compat32", false), ("compat40", false), ("compat41", false),
    ("compat42", false), ("compat43", false), ("compat44", false), ("complete_fullquote", true),
    ("direxpand", false), ("dirspell", false), ("dotglob", false), ("execfail", false),
    ("expand_aliases", false), ("extdebug", false), ("extglob", false), ("extquote", true),
    ("failglob", false), ("force_fignore", true), ("globasciiranges", true),
    ("globskipdots", true), ("globstar", false), ("gnu_errfmt", false), ("histappend", false),
    ("histreedit", false), ("histverify", false), ("hostcomplete", true), ("huponexit", false),
    ("inherit_errexit", false), ("interactive_comments", true), ("lastpipe", false),
    ("lithist", false), ("localvar_inherit", false), ("localvar_unset", false),
    ("login_shell", false), ("mailwarn", false), ("no_empty_cmd_completion", false),
    ("nocaseglob", false), ("nocasematch", false), ("noexpand_translation", false),
    ("nullglob", false), ("patsub_replacement", true), ("progcomp", true),
    ("progcomp_alias", false), ("promptvars", true), ("restricted_shell", false),
    ("shift_verbose", false), ("sourcepath", true), ("syslog_history", false),
    ("varredir_close", false), ("xpg_echo", false)]

/-- The features that are on at the start of a script. -/
def initial : List Text := (table.filter (·.2)).map fun (name, _) ↦ name.toList

/-- A feature or an option as it is listed. -/
def shown (asCommand : Bool) (width : Nat) (command name : Text) (isOn : Bool) : Text :=
  if asCommand then command ++ ' ' :: name ++ ['\n']
  else Text.padRight width name ++ '\t' :: (if isOn then "on\n" else "off\n").toList

/-- Sets options by name, takes them back, or lists them. -/
def shoptNamed (has : Char → Bool) (names : List Text) : Action Nat := do
  let line (state : State) (name : Text) (letter : Char) : Text :=
    let isOn := state.has letter
    let command : Text := if isOn then "set -o" else "set +o"
    if has 'p' then shown true 0 command name isOn else shown false 15 [] name isOn
  if names.isEmpty then
    let state ← get
    let all := State.extendedOptionNames.filter fun (_, letter) ↦
      (!has 's' || state.has letter) && (!has 'u' || !state.has letter)
    return ← Output.finish 0
      (if has 'q' then [] else all.flatMap fun (name, letter) ↦ line state name.toList letter)
  let mut status := 0
  let mut lines : List Text := []
  for name in names do
    match State.extendedOptionNames.lookup (String.ofList name) with
    | none =>
      Action.warn (name ++ ": invalid option name")
      if ¬ has 's' ∧ ¬ has 'u' then status := 1
    | some letter =>
      if has 's' ∨ has 'u' then Parameters.setOption letter (has 's')
      else
        let state ← get
        if ¬ state.has letter then status := 1
        if ¬ has 'q' then lines := line state name letter :: lines
  Output.finish status lines.reverse.flatten

/-- Sets features, takes them back, or lists them. -/
def shopt (arguments : List Text) : Action Nat := do
  let (options, names) ← Arguments.options "pqsuo" arguments
  let has (letter : Char) : Bool := options.any (·.1 = letter)
  if has 's' ∧ has 'u' then
    Action.warn "cannot set and unset shell options simultaneously"
    return 1
  if has 'o' then return ← shoptNamed has names
  let state ← get
  let line (name : Text) : Text :=
    let isOn := state.features.contains name
    shown (has 'p') 15 (if isOn then "shopt -s" else "shopt -u") name isOn
  if names.isEmpty then
    let all := (table.map fun (name, _) ↦ name.toList).filter fun name ↦
      (!has 's' || state.features.contains name) && (!has 'u' || !state.features.contains name)
    return ← Output.finish 0 (if has 'q' then [] else all.flatMap line)
  let mut status := 0
  let mut lines : List Text := []
  for name in names do
    if (table.lookup (String.ofList name)).isNone then
      Action.warn (name ++ ": invalid shell option name")
      status := 1
    else if has 's' then
      modify fun state ↦ { state with features := name :: state.features.filter (· ≠ name) }
    else if has 'u' then
      modify fun state ↦ { state with features := state.features.filter (· ≠ name) }
    else
      if ¬ state.features.contains name then status := 1
      if ¬ has 'q' then lines := line name :: lines
  Output.finish status lines.reverse.flatten

end Features

end AlignmentTally.Shell
