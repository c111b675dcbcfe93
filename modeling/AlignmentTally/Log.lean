/-!
# Logs

What a run says about its progress: messages, each at a level. A log is kept up to a level.
-/

namespace AlignmentTally

/-- How much is logged: each level includes the ones before it. -/
inductive LogLevel where
  | error
  | warn
  | info
  | debug
  deriving DecidableEq, Repr, Inhabited

namespace LogLevel

/-- The place of a level, from the gravest on. -/
def rank : LogLevel → Nat
  | error => 0
  | warn => 1
  | info => 2
  | debug => 3

/-- The word for a level. -/
def word : LogLevel → String
  | error => "ERROR"
  | warn => "WARN"
  | info => "INFO"
  | debug => "DEBUG"

end LogLevel

/-- A message of a log. -/
structure LogEntry where
  /-- How grave it is. -/
  level : LogLevel
  /-- What it says. -/
  text : String
  deriving DecidableEq, Repr, Inhabited

/-- A character as it stands in a log. Characters that could steer a terminal are spelt out: the
escape, the bell, the backspace, the form feed and the delete character by two hexadecimal digits,
the control characters beyond ASCII by their code point. -/
def spelt (c : Char) : List Char :=
  if c = '\x1b' ∨ c = '\x07' ∨ c = '\x08' ∨ c = '\x0c' ∨ c = '\x7f' then
    '\\' :: 'x' :: [(c.toNat / 16).digitChar, (c.toNat % 16).digitChar]
  else if '\u0080' ≤ c ∧ c ≤ '\u009f' then
    '\\' :: 'u' :: '{' :: Nat.toDigits 16 c.toNat ++ ['}']
  else [c]

/-- The entry on one line. -/
def LogEntry.line (entry : LogEntry) : String :=
  entry.level.word ++ " " ++ String.ofList (entry.text.toList.flatMap spelt)

/-- The entries of a log up to a level. -/
def logUpTo (level : LogLevel) (log : List LogEntry) : List LogEntry :=
  log.filter fun entry ↦ entry.level.rank ≤ level.rank

end AlignmentTally
