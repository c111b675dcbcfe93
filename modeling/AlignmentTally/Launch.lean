import AlignmentTally.Capture
import AlignmentTally.ExitStatus
import AlignmentTally.Invocation
import AlignmentTally.Options.Basic

/-!
# Launching the test binary

The test binary runs to its end with no input, and both of its output streams are captured as one.
How it ends does not decide about the tally: the output counts whatever the exit status is.

## Launchers

The test binary is no part of the program, and neither is the system that starts it. So what comes
of starting a program is a parameter, a `Launcher`. It may stand for a machine with programs of any
kind, or for a single program whose output is known. Nothing is assumed of it but that it answers:
whoever waits for a program that never ends, or whose output never ends, waits for ever, and there
is no launcher for that.

An answer is what the program has left behind (`Launched`) or why there is none (`LaunchError`). A
launcher is a function, so asking it twice in the same situation gives the same answer. A run asks
it at most once.

## What is decided here

A program whose name or arguments hold a NUL is not started, since it could not be given them; the
launcher is then not asked (`Launch.run`). All other failures are the launcher's.
-/

namespace AlignmentTally

/-- What a run of a program leaves behind. -/
structure Launched where
  /-- What the program wrote. -/
  octets : List UInt8
  /-- How the program ended. -/
  status : ExitStatus
  /-- The file tree afterwards. -/
  files : Files
  deriving Inhabited

namespace Launched

/-- The output that was captured. -/
def capture (launched : Launched) : Capture := ⟨launched.octets, launched.status.code?⟩

end Launched

/-- Why a launch comes to nothing. -/
inductive LaunchError where
  /-- The program could not be started. -/
  | start (cause : SystemError)
  /-- There was no pipe for the output, or reading it or waiting for the program failed. What the
  program has done to the file tree by then is not kept. -/
  | output (cause : SystemError)
  deriving DecidableEq, Repr, Inhabited

/-- What comes of starting programs: for a file tree, the environment variables and an invocation,
what the program has left behind once it has ended. -/
abbrev Launcher := Files → Environment → Invocation → Except LaunchError Launched

namespace Launch

/-- A failed launch as a failure of the tally run. -/
def failure (program : String) : LaunchError → TallyError
  | .start cause => .launch program cause
  | .output cause => .capture cause

/-- Runs a program to its end. One that cannot be given its arguments is not started. -/
def run (launcher : Launcher) (files : Files) (environment : Environment)
    (invocation : Invocation) : Except TallyError Launched :=
  if invocation.hasNul then .error (.launch invocation.program .nulInArgument)
  else (launcher files environment invocation).mapError (failure invocation.program)

theorem run_eq_ok {launcher : Launcher} {files : Files} {environment : Environment}
    {invocation : Invocation} {launched : Launched} (hasNoNul : ¬ invocation.hasNul)
    (launches : launcher files environment invocation = .ok launched) :
    run launcher files environment invocation = .ok launched := by
  rw [run, if_neg hasNoNul, launches]
  rfl

end Launch

end AlignmentTally
