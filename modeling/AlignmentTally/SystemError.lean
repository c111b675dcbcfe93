/-!
# Errors of the operating system

What can go wrong with a file or a program, in the words in which the system reports it.
-/

namespace AlignmentTally

/-- Why an operation on a file or a program failed. -/
inductive SystemError where
  | notFound
  /-- There is no process to send a signal to. -/
  | noProcess
  /-- There is no device behind the file. -/
  | noDevice
  /-- The file is executable but no program. -/
  | notAProgram
  /-- The stream is not open. -/
  | badStream
  /-- The file may not be executed. -/
  | permissionDenied
  /-- Something is there already. -/
  | alreadyThere
  | notADirectory
  | isADirectory
  /-- What was asked for makes no sense. -/
  | invalid
  /-- There is no room to write to. -/
  | noSpace
  /-- The stream has no place to go to. -/
  | cannotSeek
  /-- Nobody reads what is written. -/
  | brokenPipe
  /-- A component of a path is longer than a file name may be. -/
  | nameTooLong
  | notEmpty
  /-- Links lead to links without end. -/
  | tooManyLinks
  /-- A path holds a NUL character, which no file name may. -/
  | nulInPath
  /-- A program name or argument holds a NUL character. -/
  | nulInArgument
  /-- A text file is not UTF-8. -/
  | notUtf8
  /-- There is no memory left for what is read. -/
  | outOfMemory
  /-- Any other failure, in its own words. -/
  | other (message : String)
  deriving DecidableEq, Repr, Inhabited

namespace SystemError

/-- The number under which the system knows a failure, if it is one of the system. -/
def number? : SystemError → Option Nat
  | notFound => some 2
  | noProcess => some 3
  | noDevice => some 6
  | notAProgram => some 8
  | badStream => some 9
  | permissionDenied => some 13
  | alreadyThere => some 17
  | notADirectory => some 20
  | isADirectory => some 21
  | invalid => some 22
  | noSpace => some 28
  | cannotSeek => some 29
  | brokenPipe => some 32
  | nameTooLong => some 36
  | notEmpty => some 39
  | tooManyLinks => some 40
  | nulInPath | nulInArgument | notUtf8 | outOfMemory | other _ => none

/-- The failure in words, without its number. -/
def words : SystemError → String
  | notFound => "No such file or directory"
  | noProcess => "No such process"
  | noDevice => "No such device or address"
  | notAProgram => "Exec format error"
  | badStream => "Bad file descriptor"
  | permissionDenied => "Permission denied"
  | alreadyThere => "File exists"
  | notADirectory => "Not a directory"
  | isADirectory => "Is a directory"
  | invalid => "Invalid argument"
  | noSpace => "No space left on device"
  | cannotSeek => "Illegal seek"
  | brokenPipe => "Broken pipe"
  | nameTooLong => "File name too long"
  | notEmpty => "Directory not empty"
  | tooManyLinks => "Too many levels of symbolic links"
  | nulInPath => "file name contained an unexpected NUL byte"
  | nulInArgument => "nul byte found in provided data"
  | notUtf8 => "stream did not contain valid UTF-8"
  | outOfMemory => "out of memory"
  | other message => message

/-- The failure in words, with its number if it has one. -/
def message (error : SystemError) : String :=
  match error.number? with
  | some number => s!"{error.words} (os error {number})"
  | none => error.words

end SystemError

end AlignmentTally
