import AlignmentTally.Path

/-!
# Invocations of the test binary

A program and the arguments it is given: first the backend and the vendor of the adapter, then
any further arguments as they are. An invocation is shown as its program and arguments separated
by spaces, without quoting.
-/

namespace AlignmentTally

/-- A program with its arguments. -/
structure Invocation where
  /-- The path of the program. -/
  program : String
  /-- The arguments, each passed as it is. -/
  args : List String
  deriving DecidableEq, Repr, Inhabited

namespace Invocation

/-- The path of the test binary below the root of the repository. -/
def binaryPath (repoRoot buildDir binaryName : String) : String :=
  Path.join (Path.join repoRoot buildDir) binaryName

/-- The run of a test binary on a backend and an adapter. -/
def ofBinary (program backend adapterVendorId : String) (extraArgs : List String) :
    Invocation where
  program
  args := s!"--backend={backend}" :: s!"--adapter-vendor-id={adapterVendorId}" :: extraArgs

/-- The program and its arguments on one line. -/
def display (invocation : Invocation) : String :=
  " ".intercalate (invocation.program :: invocation.args)

/-- Whether the program or an argument holds a NUL character, which no program can be given. -/
def hasNul (invocation : Invocation) : Bool :=
  (invocation.program :: invocation.args).any (·.toList.contains '\x00')

end Invocation

end AlignmentTally
