/-
**Keys that lead into the tree.**

A key of a layer may name a place inside it: `server.port` is the entry `port` of `server`, and
`assembler.flags[0]` is the first of the flags.  A key that does not read as such a path names
itself.  Putting a value at a path makes the tables and lists that the path needs, in place of
whatever stands there.

Main definitions:

* `AssemblyGate.KeyPath` — the paths;
* `AssemblyGate.KeyPath.parse?` — the path of a key;
* `AssemblyGate.KeyPath.put` — put a value at a path;
* `AssemblyGate.Raw.overlay` — put every entry of a layer at the path of its key.
-/
import AssemblyGate.Settings.Raw
import AssemblyGate.Text.Numeral

set_option autoImplicit false

namespace AssemblyGate

/-- A place in a tree of settings. -/
inductive KeyPath
  | name (key : String)
  | child (parent : KeyPath) (key : String)
  | item (parent : KeyPath) (index : Int)
deriving DecidableEq

namespace KeyPath

/-! ### Reading -/

/-- Whether a character may stand in the name of a path. -/
def isNameChar (c : Char) : Bool :=
  ('a' ≤ c && c ≤ 'z') || ('A' ≤ c && c ≤ 'Z') || ('0' ≤ c && c ≤ '9') || c = ' ' || c = '_' || c = '-'

/-- The name at the front of a text. -/
def readName (input : List Char) : Option (String × List Char) :=
  let found := input.takeWhile isNameChar
  if found.isEmpty then none else some (String.ofList found, input.dropWhile isNameChar)

/-- Whether a character may surround an index. -/
def isPadding (c : Char) : Bool := c = ' ' || c = '\t'

/-- The index at the front of a text, up to its closing bracket. -/
def readIndex (input : List Char) : Option (Int × List Char) :=
  let start := input.dropWhile isPadding
  let (negative, digits) := match start with
    | '-' :: rest => (true, rest)
    | _ => (false, start)
  let found := digits.takeWhile Numeral.isDigit
  match (digits.dropWhile Numeral.isDigit).dropWhile isPadding with
  | ']' :: rest =>
      if found.isEmpty then none
      else (Numeral.signed? (if negative then '-' :: found else found)).map fun n => (n, rest)
  | _ => none

/-- The steps that follow a path, up to the end of the text. -/
def readSteps : Nat → KeyPath → List Char → Option KeyPath
  | _, path, [] => some path
  | 0, _, _ => none
  | room + 1, path, '.' :: rest =>
      match readName rest with
      | some (key, rest) => readSteps room (.child path key) rest
      | none => none
  | room + 1, path, '[' :: rest =>
      match readIndex rest with
      | some (index, rest) => readSteps room (.item path index) rest
      | none => none
  | _, _, _ => none

/-- The path of a key. -/
def parse? (key : String) : Option KeyPath :=
  match readName key.toList with
  | some (first, rest) => readSteps rest.length (.name first) rest
  | none => none

/-- The path of a key, which names itself if it does not read as one. -/
def ofKey (key : String) : KeyPath := (parse? key).getD (.name key)

/-! ### Putting -/

/-- Change the value of a key, which is unset if there is none. -/
def changeKey (key : String) (f : Raw → Raw) (entries : List (String × Raw)) : List (String × Raw) :=
  Raw.store (Raw.keyOf key) (f ((Raw.find? (Raw.keyOf key) entries).getD default)) entries

/-- The position that an index means in a list; a negative one counts from the end. -/
def position? (index : Int) (size : Nat) : Option Nat :=
  if 0 ≤ index then some index.toNat
  else if index.natAbs ≤ size then some (size - index.natAbs)
  else none

/-- Change an item of a list, which is made longer if it is too short. -/
def changeItem (index : Int) (f : Raw → Raw) (items : List Raw) : List Raw :=
  match position? index items.length with
  | none => items
  | some i => (items ++ List.replicate (i + 1 - items.length) default).modify i f

/-- A value as a list: its origin and its items, none if it is no list. -/
def listParts : Raw → Option String × List Raw
  | .list origin items => (origin, items)
  | _ => (none, [])

/-- Change the value at a path, making the tables and lists that lead there. -/
def change (f : Raw → Raw) : KeyPath → Raw → Raw
  | .name key, root =>
      match root with
      | .table origin entries => .table origin (changeKey key f entries)
      | other => other
  | .child parent key, root =>
      change
        (fun value =>
          let (origin, entries) := value.tableParts
          .table origin (changeKey key f entries))
        parent root
  | .item parent index, root =>
      change
        (fun value =>
          let (origin, items) := listParts value
          .list origin (changeItem index f items))
        parent root

/-- Put a value at a path. -/
def put (value : Raw) : KeyPath → Raw → Raw
  | .name key, root => Raw.put key value root
  | .child parent key, root => change (fun target => Raw.put key value target) parent root
  | .item parent index, root =>
      change
        (fun target =>
          let (origin, items) := listParts target
          .list origin (changeItem index (fun _ => value) items))
        parent root

end KeyPath

/-- Put every entry of a layer at the path of its key. -/
def Raw.overlay (layer : List (String × Raw)) (base : Raw) : Raw :=
  layer.foldl (fun tree entry => KeyPath.put entry.2 (KeyPath.ofKey entry.1) tree) base

end AssemblyGate
