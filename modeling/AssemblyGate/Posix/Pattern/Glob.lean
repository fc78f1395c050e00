/-
**Patterns for names.**

A pattern is matched against a whole text.  A question mark stands for one character, a star for any
number of them, and a list in brackets for one character out of the list.

Main definitions:

* `AssemblyGate.Glob.ofChars` — the pattern that characters spell, each of them quoted or not;
* `AssemblyGate.Glob.fits` — whether a text is one of those a pattern describes.
-/
import AssemblyGate.Posix.Pattern.CharSet

set_option autoImplicit false

namespace AssemblyGate

/-- A piece of a pattern. -/
inductive GlobPiece
  | one (c : Char)
  | any
  | many
  | oneOf (set : CharSet)
deriving DecidableEq

/-- A pattern for names. -/
abbrev Glob := List GlobPiece

namespace Glob

/-- Characters in which a backslash that is not quoted quotes the next one. -/
def withEscapes : List (Bool × Char) → List (Bool × Char)
  | (false, '\\') :: (_, c) :: rest => (true, c) :: withEscapes rest
  | item :: rest => item :: withEscapes rest
  | [] => []

/-- The pattern that characters spell.  A quoted character stands for itself. -/
def readPieces : Nat → List GlobPiece → List (Bool × Char) → Glob
  | 0, done, _ => done.reverse
  | _, done, [] => done.reverse
  | room + 1, done, (quoted, c) :: rest =>
      if quoted then readPieces room (.one c :: done) rest
      else if c = '?' then readPieces room (.any :: done) rest
      else if c = '*' then readPieces room (.many :: done) rest
      else if c = '[' then
        match CharSet.read .names rest with
        | some (set, after) => readPieces room (.oneOf set :: done) after
        | none => readPieces room (.one c :: done) rest
      else readPieces room (.one c :: done) rest

/-- The pattern that characters spell, each of them quoted or not. -/
def ofChars (chars : List (Bool × Char)) : Glob :=
  readPieces (chars.length + 1) [] (withEscapes chars)

/-- The pattern that a text spells. -/
def ofText (text : List Char) : Glob := ofChars (text.map fun c => (false, c))

/-- Whether a pattern describes more than one text. -/
def isOpen (glob : Glob) : Bool :=
  glob.any fun
    | .one _ => false
    | _ => true

/-- The texts that are left when a part is taken from the front of a text, the shortest part
first. -/
def suffixes : List Char → List (List Char)
  | [] => [[]]
  | c :: rest => (c :: rest) :: suffixes rest

/-- Whether a text is one of those a pattern describes. -/
def fits : Glob → List Char → Bool
  | [], text => text.isEmpty
  | .many :: rest, text => (suffixes text).any (fits rest)
  | .any :: rest, text =>
      match text with
      | _ :: text => fits rest text
      | [] => false
  | .one c :: rest, text =>
      match text with
      | d :: text => c = d && fits rest text
      | [] => false
  | .oneOf set :: rest, text =>
      match text with
      | d :: text => set.contains false d && fits rest text
      | [] => false

/-- What is left of a text when a part that fits is cut from its front, the shortest or the longest
one. -/
def cutFront (glob : Glob) (longest : Bool) (text : List Char) : List Char :=
  let lengths := List.range (text.length + 1)
  let lengths := if longest then lengths.reverse else lengths
  match lengths.find? (fun n => fits glob (text.take n)) with
  | some n => text.drop n
  | none => text

/-- What is left of a text when a part that fits is cut from its back, the shortest or the longest
one. -/
def cutBack (glob : Glob) (longest : Bool) (text : List Char) : List Char :=
  let lengths := List.range (text.length + 1)
  let lengths := if longest then lengths else lengths.reverse
  match lengths.find? (fun n => fits glob (text.drop n)) with
  | some n => text.take n
  | none => text

end Glob

end AssemblyGate
