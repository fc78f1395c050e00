/-
**Sets of characters.**

A list in brackets stands for one character out of it: single characters, ranges and named classes,
or whatever is not among them.

Main definitions:

* `AssemblyGate.CharSet` — the sets;
* `AssemblyGate.CharSet.read` — the set that a list in brackets spells.
-/
import AssemblyGate.Posix.ByteText

set_option autoImplicit false

namespace AssemblyGate

/-- A set of characters: ranges, from a first to a last character, or what is in none of them. -/
structure CharSet where
  negated : Bool
  ranges : List (Char × Char)
deriving DecidableEq

/-- The small letter of a letter. -/
def smallLetter (c : Char) : Char := if 'A' ≤ c ∧ c ≤ 'Z' then Char.ofNat (c.toNat + 32) else c

/-- The capital letter of a letter. -/
def capitalLetter (c : Char) : Char := if 'a' ≤ c ∧ c ≤ 'z' then Char.ofNat (c.toNat - 32) else c

namespace CharSet

/-- Whether a character is in one of the ranges. -/
def inRanges (ranges : List (Char × Char)) (c : Char) : Bool :=
  ranges.any fun r => r.1 ≤ c && c ≤ r.2

/-- Whether a character is in a set; where letters of both cases count as the same, whether one of
the two is. -/
def contains (set : CharSet) (anyCase : Bool) (c : Char) : Bool :=
  (inRanges set.ranges c
    || anyCase && (inRanges set.ranges (smallLetter c) || inRanges set.ranges (capitalLetter c)))
  != set.negated

/-- The set of one character. -/
def single (c : Char) : CharSet := ⟨false, [(c, c)]⟩

/-- The set of all characters. -/
def all : CharSet := ⟨true, []⟩

/-- The named classes of characters. -/
def classes : List (String × List (Char × Char)) :=
  [("alpha", [('A', 'Z'), ('a', 'z')]), ("digit", [('0', '9')]),
    ("alnum", [('0', '9'), ('A', 'Z'), ('a', 'z')]), ("upper", [('A', 'Z')]),
    ("lower", [('a', 'z')]), ("space", [('\t', '\r'), (' ', ' ')]),
    ("blank", [('\t', '\t'), (' ', ' ')]),
    ("punct", [('!', '/'), (':', '@'), ('[', '\x60'), ('\x7b', '~')]),
    ("print", [(' ', '~')]), ("graph", [('!', '~')]),
      ("cntrl", [('\x00', '\x1f'), ('\x7f', '\x7f')]),
    ("xdigit", [('0', '9'), ('A', 'F'), ('a', 'f')])]

/-- The ranges of a named class. -/
def class? (name : List Char) : Option (List (Char × Char)) :=
  (classes.find? fun c => c.1 == String.ofList name).map (·.2)

/-- The characters of words. -/
def wordRanges : List (Char × Char) := [('0', '9'), ('A', 'Z'), ('_', '_'), ('a', 'z')]

/-- The blanks and the ends of lines. -/
def spaceRanges : List (Char × Char) := [('\t', '\r'), (' ', ' ')]

/-! ### Reading -/

/-- A character of a list in brackets; a quoted one only stands for itself. -/
abbrev Item := Bool × Char

/-- Whether the items of an input begin with a character that is not quoted. -/
def startsWith (c : Char) : List Item → Bool
  | (false, d) :: _ => c = d
  | _ => false

/-- The text up to a mark and a closing bracket, and what follows them. -/
def readNamed (mark : Char) (done : List Char) : List Item → Option (List Char × List Item)
  | (false, c) :: (false, ']') :: rest =>
      if c = mark then some (done.reverse, rest)
      else readNamed mark (c :: done) ((false, ']') :: rest)
  | (_, c) :: rest => readNamed mark (c :: done) rest
  | [] => none

/-- How lists in brackets are written: as in patterns for names, or as in regular expressions, where
a circumflex negates, an unknown class is wrong, and characters may be named. -/
inductive Style
  | names
  | expressions
deriving DecidableEq

/-- One element of a list in brackets: its ranges, and whether it may begin a range. -/
def readElement (style : Style) (input : List Item) : Option (List (Char × Char) × Bool × List Item) :=
  match input with
  | (false, '[') :: (false, ':') :: rest =>
      match readNamed ':' [] rest with
      | some (name, after) =>
          match class? name, style with
          | some ranges, _ => some (ranges, false, after)
          | none, .expressions => none
          | none, .names => some ([('[', '[')], true, (false, ':') :: rest)
      | none => some ([('[', '[')], true, (false, ':') :: rest)
  | (false, '[') :: (false, '.') :: rest =>
      match style, readNamed '.' [] rest with
      | .names, _ => some ([('[', '[')], true, (false, '.') :: rest)
      | .expressions, some ([c], rest) => some ([(c, c)], true, rest)
      | .expressions, _ => none
  | (false, '[') :: (false, '=') :: rest =>
      match style, readNamed '=' [] rest with
      | .names, _ => some ([('[', '[')], true, (false, '=') :: rest)
      | .expressions, some ([c], rest) => some ([(c, c)], false, rest)
      | .expressions, _ => none
  | (_, c) :: rest => some ([(c, c)], true, rest)
  | [] => none

/-- The ranges up to the closing bracket, and what follows it.  A bracket that comes first stands
for itself. -/
def readRanges (style : Style) : Nat → Bool → List (Char × Char) → List Item →
    Option (List (Char × Char) × List Item)
  | 0, _, _, _ => none
  | room + 1, first, done, input =>
      match input, !first && startsWith ']' input with
      | _ :: rest, true => some (done, rest)
      | _, _ =>
          match readElement style input with
          | none => none
          | some (ranges, begins, rest) =>
              match ranges, rest, begins && startsWith '-' rest && !startsWith ']' rest.tail with
              | [(low, _)], _ :: rest, true =>
                  match readElement style rest with
                  | some ([(high, _)], true, rest) =>
                      readRanges style room false ((low, high) :: done) rest
                  | _ => none
              | _, _, _ => readRanges style room false (ranges ++ done) rest

/-- The set after an opening bracket, and what follows it. -/
def read (style : Style) (input : List Item) : Option (CharSet × List Item) :=
  let negated := startsWith (if style = .names then '!' else '^') input
  let start := if negated then input.tail else input
  (readRanges style (start.length + 1) true [] start).map fun (ranges, rest) =>
    (⟨negated, ranges⟩, rest)

end CharSet

end AssemblyGate
