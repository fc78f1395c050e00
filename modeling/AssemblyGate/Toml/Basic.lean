/-
**TOML values and documents.**

A document is read as a list of sections, each a header with assignments under it.  A section's
table is built from its assignments and then put where its header says; a table may be filled in
only in ways that do not define anything twice.

Main definitions:

* `AssemblyGate.Toml` — the values;
* `AssemblyGate.Toml.Node` — a document under construction, where every table remembers how it came
  about;
* `AssemblyGate.Toml.assign` — the effect of `a.b.c = value` on a table;
* `AssemblyGate.Toml.Section.place` — the effect of a section on a document;
* `AssemblyGate.Toml.ofSections?` — the value of a document.
-/
import AssemblyGate.Number.Binary64

set_option autoImplicit false

namespace AssemblyGate

/-- A TOML value.  A date or a time is kept as its normal text. -/
inductive Toml
  | text (s : String)
  | integer (n : Int)
  | float (x : Binary64)
  | bool (b : Bool)
  | moment (s : String)
  | list (items : List Toml)
  | table (entries : List (String × Toml))

namespace Toml

/-- How a table came about: by a header of its own, by a header of a table inside it, or by a dotted
key. -/
inductive Standing
  | stated
  | implied
  | dotted
deriving DecidableEq

/-- A part of a document under construction: a finished value, a table that may still grow, or a
list of tables of which the last one may still grow. -/
inductive Node
  | leaf (value : Toml)
  | table (standing : Standing) (entries : List (String × Node))
  | tables (done : List (List (String × Node))) (last : List (String × Node))

/-- The entries of a table under construction. -/
abbrev Entries := List (String × Node)

/-- The entry of a key. -/
def find? (key : String) (entries : Entries) : Option Node :=
  (entries.find? (fun e => e.1 == key)).map (·.2)

/-- Give a key a node, in place of any it had. -/
def store (key : String) (node : Node) : Entries → Entries
  | [] => [(key, node)]
  | e :: rest => if e.1 = key then (key, node) :: rest else e :: store key node rest

/-- The effect of assigning a value to a dotted key.  Nothing may be assigned twice, no table that
was given a header may be reached by a dotted key, and the table that receives the value must be the
section's own or one that dotted keys made, which `fit` tells. -/
def assign (fit : Bool) (value : Toml) : List String → Entries → Option Entries
  | [], _ => none
  | [key], entries =>
      if fit && (find? key entries).isNone then some (entries ++ [(key, .leaf value)]) else none
  | key :: path, entries =>
      match find? key entries with
      | none =>
          (assign true value path []).map fun inner => entries ++ [(key, .table .dotted inner)]
      | some (.table .stated _) => none
      | some (.table standing inner) =>
          (assign (standing = .dotted) value path inner).map fun inner =>
            store key (.table standing inner) entries
      | some (.tables done last) =>
          (assign false value path last).map fun last => store key (.tables done last) entries
      | some (.leaf _) => none

/-- The effect of several assignments, one after the other. -/
def assignAll (assignments : List (List String × Toml)) (entries : Entries) : Option Entries :=
  assignments.foldlM (fun entries a => assign true a.2 a.1 entries) entries

/-- Give a key a node behind all other entries. -/
def storeLast (key : String) (node : Node) (entries : Entries) : Entries :=
  entries.filter (fun e => e.1 != key) ++ [(key, node)]

/-- Change the node at a header's path, which `put` then gives its place.  Tables on the way that do
not exist yet are implied; of a list of tables the last one is meant. -/
def change (put : String → Node → Entries → Entries) (f : Option Node → Option Node) :
    List String → Entries → Option Entries
  | [], _ => none
  | [key], entries => (f (find? key entries)).map fun node => put key node entries
  | key :: path, entries =>
      match find? key entries with
      | none => (change put f path []).map fun inner => entries ++ [(key, .table .implied inner)]
      | some (.table standing inner) =>
          (change put f path inner).map fun inner => store key (.table standing inner) entries
      | some (.tables done last) =>
          (change put f path last).map fun last => store key (.tables done last) entries
      | some (.leaf _) => none

/-- What stands above the assignments of a section. -/
inductive Header
  | top
  | table (path : List String)
  | item (path : List String)

/-- A header and the assignments under it. -/
structure Section where
  header : Header
  assignments : List (List String × Toml)

/-- The effect of a section.  A table may be given a header once, and only if it was at most implied
before; it then stands behind the other entries.  An item is added to a list of items. -/
def Section.place (s : Section) (document : Entries) : Option Entries :=
  match s.header with
  | .top => assignAll s.assignments document
  | .table path =>
      change storeLast
        (fun
          | none => (assignAll s.assignments []).map (.table .stated)
          | some (.table .implied inner) => (assignAll s.assignments inner).map (.table .stated)
          | some _ => none)
        path document
  | .item path =>
      change store
        (fun
          | none => (assignAll s.assignments []).map (.tables [])
          | some (.tables done last) =>
              (assignAll s.assignments []).map (.tables (done ++ [last]))
          | some _ => none)
        path document

mutual

/-- The value of a finished node. -/
def Node.value : Node → Toml
  | .leaf value => value
  | .table _ entries => .table (valueEntries entries)
  | .tables done last => .list (valueTables done ++ [.table (valueEntries last)])

/-- The values of finished entries. -/
def valueEntries : List (String × Node) → List (String × Toml)
  | [] => []
  | (key, node) :: rest => (key, node.value) :: valueEntries rest

/-- The values of finished tables. -/
def valueTables : List (List (String × Node)) → List Toml
  | [] => []
  | entries :: rest => .table (valueEntries entries) :: valueTables rest

end

/-- The table that assignments alone make. -/
def ofAssignments? (assignments : List (List String × Toml)) : Option Toml :=
  (assignAll assignments []).map fun entries => .table (valueEntries entries)

/-- The table of a whole document. -/
def ofSections? (sections : List Section) : Option (List (String × Toml)) :=
  (sections.foldlM (fun document (s : Section) => s.place document) []).map valueEntries

end Toml

end AssemblyGate
