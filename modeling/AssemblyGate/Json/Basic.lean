/-
**JSON values.**

A value is null, a truth value, a number, a text, a list or an object.  An object keeps its members
in the order they were given, repetitions included; looking a name up takes the last member that
bears it.

Main definitions:

* `AssemblyGate.Json` — the values;
* `AssemblyGate.Json.lookup` — the member of a name;
* `AssemblyGate.Json.sorted` — the same value with every object's members in the order of their
  names, each name once.

Main results:

* `AssemblyGate.lastOf_append` — a later member hides the earlier ones of its name.
-/
import AssemblyGate.Number.Binary64

set_option autoImplicit false

namespace AssemblyGate

/-- A number of a JSON text: a whole number where it is written as one and fits in 64 bits, and a
floating point number otherwise. -/
inductive JsonNumber
  | whole (n : Int)
  | float (x : Binary64)
deriving DecidableEq

/-- A JSON value. -/
inductive Json
  | null
  | bool (b : Bool)
  | number (n : JsonNumber)
  | text (s : String)
  | list (items : List Json)
  | object (members : List (String × Json))

instance : Inhabited Json := ⟨.null⟩

/-- The last entry of a name in a list of named values. -/
def lastOf {α : Type} (name : String) (entries : List (String × α)) : Option α :=
  entries.foldl (fun found entry => if entry.1 = name then some entry.2 else found) none

theorem lastOf_append {α : Type} (name : String) (entries : List (String × α)) (key : String)
    (value : α) :
    lastOf name (entries ++ [(key, value)]) = if key = name then some value
      else lastOf name entries := by
  simp [lastOf]

/-- Put a named value where its name belongs in a list ordered by name, in place of one of the same
name. -/
def putNamed {α : Type} (name : String) (value : α) : List (String × α) → List (String × α)
  | [] => [(name, value)]
  | entry :: rest =>
      if name < entry.1 then (name, value) :: entry :: rest
      else if name = entry.1 then (name, value) :: rest
      else entry :: putNamed name value rest

/-- Named values in the order of their names, the last of each name. -/
def sortNamed {α : Type} (entries : List (String × α)) : List (String × α) :=
  entries.foldl (fun done entry => putNamed entry.1 entry.2 done) []

namespace Json

/-- The value of an object's member, or nothing where there is no such member or no object. -/
def lookup (name : String) : Json → Option Json
  | .object members => lastOf name members
  | _ => none

mutual

/-- The same value with the members of every object in the order of their names. -/
def sorted : Json → Json
  | .list items => .list (sortedItems items)
  | .object members => .object (sortNamed (sortedMembers members))
  | other => other

/-- `sorted` on every item of a list. -/
def sortedItems : List Json → List Json
  | [] => []
  | item :: rest => item.sorted :: sortedItems rest

/-- `sorted` on every member of an object. -/
def sortedMembers : List (String × Json) → List (String × Json)
  | [] => []
  | (name, value) :: rest => (name, value.sorted) :: sortedMembers rest

end

end Json

end AssemblyGate
