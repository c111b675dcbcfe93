import AlignmentTally.Files.Basic
import AlignmentTally.Options.Basic

/-!
# Checking options

Options that can be read may still make no sense together, or name files that are not there. The
first fault in the order of `Options.Fault` is reported. Writing a settings file needs no check.
-/

namespace AlignmentTally.Options

/-- What is wrong with options. -/
inductive Fault where
  | verboseAndQuiet
  | blankBinary
  | repoRootNotADirectory (path : String)
  | inputNotAFile (path : String)
  deriving DecidableEq, Repr

/-- The fault in words. -/
def Fault.message : Fault → String
  | verboseAndQuiet => "Cannot use both --verbose and --quiet"
  | blankBinary => "Binary name must not be empty"
  | repoRootNotADirectory path => s!"Repository root is not a directory: {path}"
  | inputNotAFile path => s!"Input file does not exist: {path}"

/-- Whether a character is white space: the Unicode property of that name. -/
def isWhiteSpace (c : Char) : Bool :=
  ('\t' ≤ c && c ≤ '\r') || c = ' ' || c = '\u0085' || c = '\u00a0' || c = '\u1680' ||
    ('\u2000' ≤ c && c ≤ '\u200a') || c = '\u2028' || c = '\u2029' || c = '\u202f' ||
    c = '\u205f' || c = '\u3000'

/-- Whether a text holds nothing but white space. -/
def isBlank (text : String) : Bool := text.toList.all isWhiteSpace

/-- The path that stands for standard input. -/
def standardInput : String := "-"

/-- The first fault of options in a file tree. -/
def fault? (options : Options) (files : Files) : Option Fault :=
  if options.initConfig then none
  else if options.verbose ∧ options.quiet then some .verboseAndQuiet
  else if options.binary.any isBlank then some .blankBinary
  else
    let root := options.repoRoot.bind fun path ↦
      if files.isDirectory path then none else some (Fault.repoRootNotADirectory path)
    let input := options.input.bind fun path ↦
      if path = standardInput ∨ files.isFile path then none else some (Fault.inputNotAFile path)
    root.or input

end AlignmentTally.Options
