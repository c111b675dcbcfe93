import AlignmentTally.ExitStatus
import AlignmentTally.Machine.Text

/-!
# Signals

The signals by number: in which words a shell reports their effect, and what they do to a process
that makes no arrangement for them.
-/

namespace AlignmentTally.Machine

/-- What a signal does to a process that makes no arrangement for it. -/
inductive SignalEffect where
  /-- The process ends. -/
  | terminate
  /-- Nothing happens. -/
  | nothing
  /-- The process stands still. -/
  | stop
  /-- The process goes on, if it stands still. -/
  | resume
  deriving DecidableEq, Repr

namespace Signal

/-- How the signals are reported, in the order of their numbers, from 1 on. -/
def reports : List String :=
  ["Hangup", "Interrupt", "Quit", "Illegal instruction", "Trace/breakpoint trap", "Aborted",
    "Bus error", "Floating point exception", "Killed", "User defined signal 1",
    "Segmentation fault", "User defined signal 2", "Broken pipe", "Alarm clock", "Terminated",
    "Stack fault", "Child exited", "Continued", "Stopped (signal)", "Stopped",
    "Stopped (tty input)", "Stopped (tty output)", "Urgent I/O condition",
    "CPU time limit exceeded", "File size limit exceeded", "Virtual timer expired",
    "Profiling timer expired", "Window changed", "I/O possible", "Power failure",
    "Bad system call"]

/-- The signal of an arithmetic fault. -/
def arithmetic : Nat := 8

/-- The signal of a program that gives up. -/
def abort : Nat := 6

/-- The signal that cannot be arranged for. -/
def kill : Nat := 9

/-- The signal of a write that nobody can read. -/
def pipe : Nat := 13

/-- The signal that is sent when no other one is named. -/
def terminate : Nat := 15

/-- The signal of an interruption by hand. -/
def interrupt : Nat := 2

/-- The signal of an interruption by hand that leaves an image behind. -/
def quit : Nat := 3

/-- The signal that lets a process go on. -/
def resume : Nat := 18

/-- The signal that makes a process stand still, whatever it arranges. -/
def stop : Nat := 19

/-- The first of the signals that are known by number only. -/
def firstRealTime : Nat := 34

/-- The greatest number of a signal. -/
def last : Nat := 64

/-- How the effect of a signal is reported. -/
def report (number : Nat) : String :=
  match if number = 0 then none else reports[number - 1]? with
  | some words => words
  | none =>
    if firstRealTime ≤ number ∧ number ≤ last then s!"Real-time signal {number - firstRealTime}"
    else s!"Unknown signal {number}"

/-- What a signal does to a process that makes no arrangement for it. -/
def effect (number : Nat) : SignalEffect :=
  if [17, 23, 28].contains number then .nothing
  else if number = resume then .resume
  else if stop ≤ number ∧ number ≤ 22 then .stop
  else .terminate

end Signal

end AlignmentTally.Machine

namespace AlignmentTally

/-- How a program ended, as one number. -/
def ExitStatus.number : ExitStatus → Nat
  | exited code => code
  | killed signal _ => 128 + signal

end AlignmentTally
