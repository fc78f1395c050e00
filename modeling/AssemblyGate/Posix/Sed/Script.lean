/-
**Scripts of the stream editor.**

A script is a list of commands.  Each is carried out on the lines that its addresses select, in the
order in which they stand, unless one of them goes on at a label.

Main definitions:

* `AssemblyGate.Sed.Guard` — which lines a command is for;
* `AssemblyGate.Sed.Action` — what a command does;
* `AssemblyGate.Sed.Replacement` — what a match is replaced by, and
  `AssemblyGate.Sed.Replacement.fill`, the text it comes to.
-/
import AssemblyGate.Posix.Pattern.RegexSyntax

set_option autoImplicit false

namespace AssemblyGate.Sed

/-- An expression with the manner in which it is matched; none stands for the one used last. -/
abbrev Pattern := Option (Regex × Regex.Manner)

/-- An address of lines. -/
inductive Address
  | line (number : Nat)
  | step (first step : Nat)
  | last
  | text (pattern : Pattern)
deriving DecidableEq

/-- The end of a range of lines: an address, so many lines behind the first one, or the next line
whose number is a multiple. -/
inductive Bound
  | address (a : Address)
  | behind (count : Nat)
  | multiple (of : Nat)
deriving DecidableEq

/-- The lines that a command is for: all, those of an address, or those of a range, or all
others. -/
structure Guard where
  first : Option Address
  second : Option Bound
  negated : Bool
deriving DecidableEq

/-- How letters are changed in a replacement: all of them, until something else is said. -/
inductive LetterCase
  | upper
  | lower
deriving DecidableEq

/-- A part of a replacement. -/
inductive ReplacementPart
  | text (c : Char)
  | group (number : Nat)
  | setCase (all : Option LetterCase)
  | nextCase (one : LetterCase)
deriving DecidableEq

/-- What a match is replaced by. -/
abbrev Replacement := List ReplacementPart

/-- A substitution: the expression, the replacement, which match is replaced first, whether all
later ones are too, whether the line is then said or run as a command, and the file it is written
to. -/
structure Substitution where
  pattern : Pattern
  replacement : Replacement
  start : Nat
  isGlobal : Bool
  isSaid : Bool
  runs : Bool
  file : Option ByteText
deriving DecidableEq

/-- When a jump is made. -/
inductive JumpKind
  | always
  | ifReplaced
  | unlessReplaced
deriving DecidableEq

/-- What a command does. -/
inductive Action
  | opens
  | closes
  | label (name : ByteText)
  | jump (kind : JumpKind) (label : ByteText)
  | append (text : ByteText)
  | insert (text : ByteText)
  | change (text : ByteText)
  | delete
  | deleteFirst
  | execute (command : ByteText)
  | sayFile
  | fetch
  | fetchAppend
  | store
  | storeAppend
  | exchange
  | list (width : Option Nat)
  | next
  | nextAppend
  | say
  | sayFirst
  | quit (isSaid : Bool) (status : Nat)
  | read (path : ByteText)
  | readLine (path : ByteText)
  | write (path : ByteText)
  | writeFirst (path : ByteText)
  | substitute (s : Substitution)
  | replace (table : List (Char × Char))
  | sayNumber
  | clear
  | nothing
deriving DecidableEq

/-- A command. -/
structure Command where
  guard : Guard
  action : Action
deriving DecidableEq

/-! ### Replacements -/

namespace Replacement

/-- The state of letters while a replacement is filled in: what becomes of all letters, what becomes
of the next one, and the text so far, last character first. -/
structure Filling where
  all : Option LetterCase
  one : Option LetterCase
  done : ByteText

/-- A character with the case that it is to have. -/
def cased (case? : Option LetterCase) (c : Char) : Char :=
  match case? with
  | some .upper => capitalLetter c
  | some .lower => smallLetter c
  | none => c

/-- Put one more character down. -/
def Filling.put (f : Filling) (c : Char) : Filling :=
  { f with one := none, done := cased (f.one.or f.all) c :: f.done }

/-- Take one more part into account. -/
def Filling.add (found : Regex.Found) (f : Filling) : ReplacementPart → Filling
  | .text c => f.put c
  | .group number => (found.group number).foldl Filling.put f
  | .setCase all => { f with all, one := none }
  | .nextCase one => { f with one := some one }

/-- The text that a replacement comes to for a match. -/
def fill (r : Replacement) (found : Regex.Found) : ByteText :=
  (r.foldl (Filling.add found) ⟨none, none, []⟩).done.reverse

/-- The highest number of a group that a replacement refers to. -/
def highest (r : Replacement) : Nat :=
  r.foldl (fun n part => match part with | .group k => max n k | _ => n) 0

end Replacement

end AssemblyGate.Sed
