/-
**Settings before they have types.**

A layer of settings is a tree of tables, lists and scalars.  Every value may know where it comes
from.  A table that is put over another one is merged into it, key by key and to every depth; any
other value takes the place of what was there.  Keys are compared and kept in lower case.

Main definitions:

* `AssemblyGate.Raw` — the trees;
* `AssemblyGate.Raw.put` — put a value under a key.
-/
import AssemblyGate.Number.Binary64
import AssemblyGate.Text.LowerCase

set_option autoImplicit false

namespace AssemblyGate

/-- A value without parts. -/
inductive Scalar
  | unset
  | bool (b : Bool)
  | int (n : Int)
  | float (x : Binary64)
  | text (s : String)
deriving DecidableEq

/-- Settings as they stand in a layer.  The origin of a value is the name of what it was read
from. -/
inductive Raw
  | scalar (origin : Option String) (value : Scalar)
  | list (origin : Option String) (items : List Raw)
  | table (origin : Option String) (entries : List (String × Raw))

namespace Raw

instance : Inhabited Raw := ⟨.scalar none .unset⟩

/-- The entry of a key. -/
def find? (key : String) (entries : List (String × Raw)) : Option Raw :=
  (entries.find? (fun e => e.1 == key)).map (·.2)

/-- Give a key a value, in place of any it had. -/
def store (key : String) (value : Raw) : List (String × Raw) → List (String × Raw)
  | [] => [(key, value)]
  | e :: rest => if e.1 = key then (key, value) :: rest else e :: store key value rest

/-- A key as it is kept. -/
def keyOf (name : String) : String := String.ofList (lowerCase name.toList)

/-- A table without entries and without an origin. -/
def empty : Raw := .table none []

/-- The origin and the entries of a value, none if it is no table. -/
def tableParts : Raw → Option String × List (String × Raw)
  | .table origin entries => (origin, entries)
  | _ => (none, [])

mutual

/-- Put a value under a key.  What is not a table becomes one; a table is merged into what stands
under the key. -/
def put (name : String) : Raw → Raw → Raw
  | .table _ incoming, root =>
      let (origin, entries) := root.tableParts
      let target := (find? (keyOf name) entries).getD empty
      .table origin (store (keyOf name) (putAll incoming target) entries)
  | .scalar from_ value, root =>
      let (origin, entries) := root.tableParts
      .table origin (store (keyOf name) (.scalar from_ value) entries)
  | .list from_ items, root =>
      let (origin, entries) := root.tableParts
      .table origin (store (keyOf name) (.list from_ items) entries)

/-- Put several values under their keys, one after the other. -/
def putAll : List (String × Raw) → Raw → Raw
  | [], root => root
  | (name, value) :: rest, root => putAll rest (put name value root)

end

end Raw

end AssemblyGate
