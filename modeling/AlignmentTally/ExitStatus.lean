/-!
# Exit statuses

How a program ends: by itself, with a code, or by a signal, and in which words that is reported.
The signals up to 31 have names; others are known by number only.
-/

namespace AlignmentTally

namespace Signal

/-- The names of the signals in the order of their numbers, from 1 on, without `SIG`. -/
def names : List String :=
  ["HUP", "INT", "QUIT", "ILL", "TRAP", "ABRT", "BUS", "FPE", "KILL", "USR1", "SEGV", "USR2",
    "PIPE", "ALRM", "TERM", "STKFLT", "CHLD", "CONT", "STOP", "TSTP", "TTIN", "TTOU", "URG",
    "XCPU", "XFSZ", "VTALRM", "PROF", "WINCH", "IO", "PWR", "SYS"]

/-- The name of a signal, without `SIG`. -/
def name? (number : Nat) : Option String := if number = 0 then none else names[number - 1]?

/-- The number of the signal with a name, without `SIG`. -/
def ofName? (name : String) : Option Nat := (names.findIdx? (· = name)).map (· + 1)

end Signal

/-- How a program ended. -/
inductive ExitStatus where
  /-- By itself, with a code. -/
  | exited (code : Nat)
  /-- By a signal, and whether it left an image of its memory behind. -/
  | killed (signal : Nat) (dumped : Bool)
  deriving DecidableEq, Repr, Inhabited

namespace ExitStatus

/-- Whether a program succeeded. -/
def isSuccess (status : ExitStatus) : Bool := status = exited 0

/-- The code of a program that ended by itself. -/
def code? : ExitStatus → Option Nat
  | exited code => some code
  | killed .. => none

/-- How a program ended, in words. -/
def describe : ExitStatus → String
  | exited code => s!"exit status: {code}"
  | killed signal dumped =>
    s!"signal: {signal}" ++ ((Signal.name? signal).elim "" fun name ↦ s!" (SIG{name})") ++
      (if dumped then " (core dumped)" else "")

end ExitStatus

end AlignmentTally
