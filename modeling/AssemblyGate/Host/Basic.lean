/-
**The machine as the service sees it.**

The service asks its host for a few things: a fresh directory, a file with given bytes, the run of a
command, the removal of a directory, whether a path is a regular file, and the list of directories
in which programs are looked for.  What the host does is its own affair; nothing in the service
depends on more than the answers.

Main definitions:

* `AssemblyGate.ExitStatus`, `AssemblyGate.Run` — how a process ended, and how an attempt to run one
  ended;
* `AssemblyGate.Invocation` — a command with its arguments and the variables it is given;
* `AssemblyGate.Host` — a machine whose condition is a value of a given type.
-/
import AssemblyGate.Host.Fault
import AssemblyGate.Text.Utf8

set_option autoImplicit false

namespace AssemblyGate

/-- How a process ended. -/
inductive ExitStatus
  | exited (code : Nat)
  | signalled (signal : Nat)
deriving DecidableEq

/-- Whether a process ended well. -/
def ExitStatus.isSuccess : ExitStatus → Bool
  | .exited code => code = 0
  | .signalled _ => false

/-- A command: the program, its arguments, and the variables that are set for it or, where there is
no value, taken away. -/
structure Invocation where
  program : String
  arguments : List String
  overrides : List (String × Option String)
deriving DecidableEq

/-- How an attempt to run a command ended. -/
inductive Run
  | notStarted (cause : Fault)
  | notCollected (cause : Fault)
  | overdue
  | ended (status : ExitStatus) (stderr : Bytes)
deriving DecidableEq

/-- What the service asks of the machine it runs on. -/
structure Host (σ : Type) where
  /-- Make a directory with a name of its own in the given one, or in the one for temporary
  files. -/
  makeStaging : Option String → σ → Except Fault String × σ
  /-- Write a file. -/
  writeFile : String → Bytes → σ → Except Fault Unit × σ
  /-- Run a command for at most the given number of milliseconds. -/
  run : Invocation → Nat → σ → Run × σ
  /-- Remove a directory with everything in it. -/
  removeTree : String → σ → σ
  /-- Whether a path leads to a regular file. -/
  isFile : σ → String → Bool
  /-- The list of directories in which programs are looked for, if there is one. -/
  searchPath : σ → Option String

end AssemblyGate
