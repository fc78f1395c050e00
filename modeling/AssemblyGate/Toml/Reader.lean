/-
**Reading TOML.**

Values are read by one function for each kind; lists and tables within a line may stand inside one
another, and keys may have parts, up to a depth of 79.  A document is read line by line into
sections.  The amount of fuel is the length of the input and never runs out.

Main definitions:

* `AssemblyGate.Toml.readKey`, `AssemblyGate.Toml.readValue` — a dotted key and a value;
* `AssemblyGate.Toml.readSections` — the sections of a document;
* `AssemblyGate.Toml.settle` — moments for the tables that stand for them;
* `AssemblyGate.Toml.parse?` — the table of a document.
-/
import AssemblyGate.Toml.Scalar
import AssemblyGate.Toml.Text

set_option autoImplicit false

namespace AssemblyGate.Toml

/-- The deepest nesting of values, and the most parts of a key. -/
def maxDepth : Nat := 79

/-! ### Between the phrases -/

/-- What follows the comment at the front of an input, if there is one: the end of its line. -/
def skipComment : List Char → List Char
  | '#' :: rest => rest.dropWhile isPlain
  | input => input

/-- What follows the rest of a line on which nothing but a comment may stand. -/
def endLine? (input : List Char) : Option (List Char) :=
  match skipComment (skipGap input) with
  | [] => some []
  | rest => newline? rest

/-- What follows blanks, line ends and comments.  A comment must end with its line. -/
def skipFiller (inComment : Bool) : List Char → Option (List Char)
  | [] => if inComment then none else some []
  | c :: rest =>
      if c = '\n' then skipFiller false rest
      else if c = '\r' then
        match rest with
        | '\n' :: rest => skipFiller false rest
        | _ => if inComment then none else some (c :: rest)
      else if inComment then (if isPlain c then skipFiller true rest else none)
      else if isGap c then skipFiller false rest
      else if c = '#' then skipFiller true rest
      else some (c :: rest)

/-! ### Keys -/

/-- Whether a character may stand in a key without quotes. -/
def isKeyChar (c : Char) : Bool :=
  ('a' ≤ c && c ≤ 'z') || ('A' ≤ c && c ≤ 'Z') || ('0' ≤ c && c ≤ '9') || c = '-' || c = '_'

/-- One part of a key. -/
def readKeyPart (input : List Char) : Option (String × List Char) :=
  match readQuoted input with
  | some found => some found
  | none =>
      let bare := input.takeWhile isKeyChar
      if bare.isEmpty then none else some (String.ofList bare, input.dropWhile isKeyChar)

/-- The parts of a key with points between them. -/
def readKeyParts : Nat → List Char → Option (List String × List Char)
  | 0, _ => none
  | room + 1, input =>
      match readKeyPart (skipGap input) with
      | none => none
      | some (part, rest) =>
          match skipGap rest with
          | '.' :: rest => (readKeyParts room rest).map fun (parts, rest) => (part :: parts, rest)
          | rest => some ([part], rest)

/-- A dotted key, and what follows it and the blanks after it. -/
def readKey (input : List Char) : Option (List String × List Char) := readKeyParts maxDepth input

/-! ### Values -/

mutual

/-- A value of which `depth` levels may still be lists or tables. -/
def readValue : Nat → Nat → List Char → Option (Toml × List Char)
  | 0, _, _ => none
  | fuel + 1, depth, input =>
      match input with
      | '"' :: _ => (readText input).map fun (s, rest) => (.text s, rest)
      | '\x27' :: _ => (readText input).map fun (s, rest) => (.text s, rest)
      | 't' :: 'r' :: 'u' :: 'e' :: rest => some (.bool true, rest)
      | 'f' :: 'a' :: 'l' :: 's' :: 'e' :: rest => some (.bool false, rest)
      | '[' :: rest =>
          match depth with
          | 0 => none
          | depth + 1 => readItems fuel depth [] rest
      | '\x7b' :: rest =>
          match depth with
          | 0 => none
          | depth + 1 =>
              match skipGap rest with
              | '\x7d' :: rest => some (.table [], rest)
              | rest => readPairs fuel depth [] rest
      | _ => readNumber input

/-- The items of a list up to its closing bracket; `done` has been read, last item first. -/
def readItems : Nat → Nat → List Toml → List Char → Option (Toml × List Char)
  | 0, _, _, _ => none
  | fuel + 1, depth, done, input =>
      match skipFiller false input with
      | some (']' :: rest) => some (.list done.reverse, rest)
      | some start =>
          match readValue fuel depth start with
          | none => none
          | some (item, rest) =>
              match skipFiller false rest with
              | some (',' :: rest) => readItems fuel depth (item :: done) rest
              | some (']' :: rest) => some (.list (item :: done).reverse, rest)
              | _ => none
      | none => none

/-- The pairs of a table within a line up to its closing brace; `done` has been read, last pair
first. -/
def readPairs : Nat → Nat → List (List String × Toml) → List Char → Option (Toml × List Char)
  | 0, _, _, _ => none
  | fuel + 1, depth, done, input =>
      match readKey input with
      | some (key, '=' :: rest) =>
          match readValue fuel depth (skipGap rest) with
          | none => none
          | some (value, rest) =>
              match skipGap rest with
              | ',' :: rest => readPairs fuel depth ((key, value) :: done) rest
              | '\x7d' :: rest =>
                  (ofAssignments? ((key, value) :: done).reverse).map fun table => (table, rest)
              | _ => none
      | _ => none

end

/-! ### Documents -/

/-- An assignment on a line of its own. -/
def readAssignment (fuel : Nat) (input : List Char) :
    Option ((List String × Toml) × List Char) :=
  match readKey input with
  | some (key, '=' :: rest) =>
      match readValue fuel maxDepth (skipGap rest) with
      | none => none
      | some (value, rest) => (endLine? rest).map fun rest => ((key, value), rest)
  | _ => none

/-- A header on a line of its own. -/
def readHeader (input : List Char) : Option (Header × List Char) :=
  match input with
  | '[' :: '[' :: rest =>
      match readKey rest with
      | some (path, ']' :: ']' :: rest) => (endLine? rest).map fun rest => (.item path, rest)
      | _ => none
  | '[' :: rest =>
      match readKey rest with
      | some (path, ']' :: rest) => (endLine? rest).map fun rest => (.table path, rest)
      | _ => none
  | _ => none

/-- The sections of a document; `done` are the finished ones, last one first, and `current` is the
one being read, with its last assignment first. -/
def readSections : Nat → List Section → Section → List Char → Option (List Section)
  | 0, _, _, _ => none
  | fuel + 1, done, current, input =>
      let finished : Section := ⟨current.header, current.assignments.reverse⟩
      match skipGap input with
      | [] => some (finished :: done).reverse
      | '[' :: rest =>
          match readHeader ('[' :: rest) with
          | none => none
          | some (header, rest) => readSections fuel (finished :: done) ⟨header, []⟩ rest
      | '#' :: rest =>
          match endLine? ('#' :: rest) with
          | none => none
          | some rest => readSections fuel done current rest
      | '\n' :: rest => readSections fuel done current rest
      | '\r' :: '\n' :: rest => readSections fuel done current rest
      | start =>
          match readAssignment fuel start with
          | none => none
          | some (assignment, rest) =>
              readSections fuel done ⟨current.header, assignment :: current.assignments⟩ rest

/-! ### Moments kept as tables -/

/-- The key of a table that stands for a moment. -/
def momentKey : String := "$__toml_private_datetime"

mutual

/-- A value in which each table that begins with the key of a moment has become the moment its text
tells. -/
def settle : Toml → Option Toml
  | .table [] => some (.table [])
  | .table ((key, value) :: rest) =>
      if key = momentKey then
        match value with
        | .text s => (momentOf? s.toList).map .moment
        | _ => none
      else
        match settle value, settleEntries rest with
        | some value, some rest => some (.table ((key, value) :: rest))
        | _, _ => none
  | .list items => (settleItems items).map .list
  | value => some value

/-- The items of a list, settled. -/
def settleItems : List Toml → Option (List Toml)
  | [] => some []
  | item :: rest =>
      match settle item, settleItems rest with
      | some item, some rest => some (item :: rest)
      | _, _ => none

/-- The entries of a table, settled. -/
def settleEntries : List (String × Toml) → Option (List (String × Toml))
  | [] => some []
  | (key, value) :: rest =>
      match settle value, settleEntries rest with
      | some value, some rest => some ((key, value) :: rest)
      | _, _ => none

end

/-- The table of a document.  A byte order mark in front of it is ignored.  A document that stands
for a moment has no table. -/
def parse? (input : List Char) : Option (List (String × Toml)) :=
  let input := match input with
    | '\uFEFF' :: rest => rest
    | _ => input
  match (readSections (2 * input.length + 2) [] ⟨.top, []⟩ input).bind ofSections? with
  | some entries =>
      match settle (.table entries) with
      | some (.table entries) => some entries
      | _ => none
  | none => none

end AssemblyGate.Toml
