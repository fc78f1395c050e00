/-
**The arguments of a shell's own commands.**

Options stand in front: letters behind a hyphen, some of which take the rest of their word or the
next word with them.  A form lists the letters, with a colon behind each that takes something.

Main definitions:

* `AssemblyGate.Shell.Builtin` — a command of the shell itself;
* `AssemblyGate.Shell.say` — what such a command says;
* `AssemblyGate.Shell.readOptions`, `AssemblyGate.Shell.letters` — the options in front of operands.
-/
import AssemblyGate.Posix.Shell.State

set_option autoImplicit false

namespace AssemblyGate.Shell

/-- A command of the shell itself: what it does with its arguments, and the status it ends with. -/
abbrev Builtin := List ByteText → Action Nat

/-- Say a text, and end with the status that tells whether it could be said. -/
def say (text : ByteText) : Action Nat := do
  match ← write 1 text with
  | none => return 0
  | some _ =>
      let name := (← get).command.getD []
      complain (name ++ chars ": I/O error")
      return 1

/-- Whether a letter of a form takes something with it; nothing if it is none of the form. -/
def takesMore? (form : List Char) (letter : Char) : Option Bool :=
  if letter = ':' then none
  else
    match form.dropWhile (· ≠ letter) with
    | _ :: ':' :: _ => some true
    | _ :: _ => some false
    | [] => none

/-- The options of one word, each with what it takes, and the words that are left. -/
def readWord (form : List Char) : List Char → List ByteText →
    Action (List (Char × ByteText) × List ByteText)
  | [], rest => return ([], rest)
  | c :: more, rest =>
      match takesMore? form c with
      | none => fail (chars "Illegal option -" ++ [c])
      | some false => do
          let (others, rest) ← readWord form more rest
          return ((c, []) :: others, rest)
      | some true =>
          match more, rest with
          | [], word :: rest => return ([(c, word)], rest)
          | [], [] => fail (chars "No arg for -" ++ [c] ++ chars " option")
          | _, _ => return ([(c, more)], rest)

/-- The options of at most so many words, and the operands behind them. -/
def readWords (form : List Char) : Nat → List ByteText →
    Action (List (Char × ByteText) × List ByteText)
  | 0, words => return ([], words)
  | room + 1, words =>
      match words with
      | ['-', '-'] :: rest => return ([], rest)
      | ('-' :: c :: more) :: rest => do
          let (first, rest) ← readWord form (c :: more) rest
          let (others, rest) ← readWords form room rest
          return (first ++ others, rest)
      | _ => return ([], words)

/-- The options in front of arguments, each with what it takes, and the operands behind them. -/
def readOptions (form : String) (arguments : List ByteText) :
    Action (List (Char × ByteText) × List ByteText) :=
  readWords form.toList (arguments.length + 1) arguments

/-- The letters of the options in front of arguments, and the operands behind them. -/
def letters (form : String) (arguments : List ByteText) : Action (List Char × List ByteText) := do
  let (options, operands) ← readOptions form arguments
  return (options.map (·.1), operands)

end AssemblyGate.Shell
