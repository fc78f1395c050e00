/-
**Shell scripts.**

A script is a list of commands.  The words of a command are made of parts: plain text, the values of
parameters, the output of other commands and the results of arithmetic, each inside or outside
quotes.

Main definitions:

* `AssemblyGate.Shell.Part` — the parts of a word;
* `AssemblyGate.Shell.Command` — the commands.
-/
import AssemblyGate.Posix.ByteText

set_option autoImplicit false

namespace AssemblyGate.Shell

/-- What is done with the value of a parameter.  Where there is a `blank`, it tells whether an empty
value counts as none.  The last one means nothing and is an error where it is met. -/
inductive Change
  | plain
  | length
  | orElse (blank : Bool)
  | orAssign (blank : Bool)
  | orFail (blank : Bool)
  | ifSet (blank : Bool)
  | cutFront (longest : Bool)
  | cutBack (longest : Bool)
  | faulty
deriving DecidableEq

/-- What a redirection does with a descriptor: open a file in one of several ways, copy another
descriptor, or read a text that stands in the script, which is told by its number. -/
inductive Direction
  | input
  | output
  | overwrite
  | append
  | both
  | copyInput
  | copyOutput
  | document (number : Nat)
deriving DecidableEq

mutual

/-- A part of a word.  A quoted text without characters is the trace of a pair of quotes. -/
inductive Part
  | text (quoted : Bool) (chars : ByteText)
  | parameter (quoted : Bool) (name : ByteText) (change : Change) (word : List Part)
  | output (quoted : Bool) (body : List Command)
  | number (quoted : Bool) (expression : List Part)

/-- A redirection of a descriptor. -/
inductive Redirection
  | mk (descriptor : Nat) (direction : Direction) (word : List Part)

/-- A command. -/
inductive Command
  | simple (line : Nat) (assignments : List (ByteText × List Part)) (words : List (List Part))
      (redirections : List Redirection)
  | pipe (parts : List Command)
  | negation (body : Command)
  | andThen (first second : Command)
  | orElse (first second : Command)
  | background (body : Command)
  | redirected (line : Nat) (body : List Command) (redirections : List Redirection)
  | group (body : List Command)
  | subshell (line : Nat) (body : List Command) (redirections : List Redirection)
  | branch (clauses : List (List Command × List Command)) (otherwise : List Command)
  | loop (untilMet : Bool) (condition body : List Command)
  | each (line : Nat) (name : ByteText) (words : Option (List (List Part))) (body : List Command)
  | choose (line : Nat) (word : List Part) (arms : List (List (List Part) × List Command))
  | define (name : ByteText) (line : Nat) (body : Command)

end

instance : Inhabited Part := ⟨.text false []⟩

instance : Inhabited Command := ⟨.group []⟩

/-- The plain text of a word in which nothing is quoted and nothing has to be worked out. -/
def plainText? : List Part → Option ByteText
  | [] => some []
  | .text false chars :: rest => (plainText? rest).map fun more => chars ++ more
  | _ => none

end AssemblyGate.Shell
