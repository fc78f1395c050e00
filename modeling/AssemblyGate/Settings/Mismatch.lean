/-
**Why settings cannot be read.**

A value of the wrong kind is told by what was found, what was expected, the key that leads to it and
where it comes from.  A section of the wrong shape is told by its name alone.

Main definitions:

* `AssemblyGate.LoadError` — the errors;
* `AssemblyGate.LoadError.message` — their texts;
* `AssemblyGate.LoadError.under` — the same error seen from a level further up.
-/
import AssemblyGate.Number.Decimal
import AssemblyGate.Settings.Raw
import AssemblyGate.Text.Quoted

set_option autoImplicit false

namespace AssemblyGate

/-- What was found where something else was expected. -/
inductive Found
  | unit
  | bool (b : Bool)
  | signed (n : Int)
  | unsigned (n : Nat)
  | float (x : Binary64)
  | text (s : String)
  | sequence
  | map
deriving DecidableEq

namespace Found

/-- The words for what was found, with `whole` and `natural` for the two kinds of whole numbers. -/
def words (whole natural : String) (floatText : Binary64 → List Char) : Found → String
  | .unit => "unit value"
  | .bool b => "boolean \x60" ++ toString b ++ "\x60"
  | .signed n => whole ++ " \x60" ++ toString n ++ "\x60"
  | .unsigned n => natural ++ " \x60" ++ toString n ++ "\x60"
  | .float x => "floating point \x60" ++ String.ofList (floatText x) ++ "\x60"
  | .text s => "string " ++ String.ofList (Quoted.quote s.toList)
  | .sequence => "sequence"
  | .map => "map"

/-- The words for a value that could not be converted. -/
def precise (f : Found) : String :=
  f.words "64-bit integer" "64-bit unsigned integer" Binary64.positional

/-- The words for a value where a section or a list should be. -/
def plain (f : Found) : String := f.words "integer" "integer" Binary64.positionalWithPoint

/-- What a value is found to be. -/
def ofRaw : Raw → Found
  | .scalar _ .unset => .unit
  | .scalar _ (.bool b) => .bool b
  | .scalar _ (.int n) => .signed n
  | .scalar _ (.float x) => .float x
  | .scalar _ (.text s) => .text s
  | .list .. => .sequence
  | .table .. => .map

end Found

/-- What was expected. -/
inductive Expected
  | integer
  | bool
  | text
  | word
  | port
deriving DecidableEq

/-- The words for what was expected. -/
def Expected.words : Expected → String
  | .integer => "an integer"
  | .bool => "a boolean"
  | .text => "a string"
  | .word => "an unsigned 64 bit or less integer"
  | .port => "an unsigned 16 bit integer"

/-- A step on the way to a value. -/
inductive KeyStep
  | key (name : String)
  | index (i : Nat)
deriving DecidableEq

/-- The way to a value: keys with points between them, and positions in brackets. -/
def renderSteps : List KeyStep → String
  | [] => ""
  | .key name :: rest =>
      match rest with
      | .key _ :: _ => name ++ "." ++ renderSteps rest
      | _ => name ++ renderSteps rest
  | .index i :: rest => "[" ++ toString i ++ "]" ++ renderSteps rest

/-- A section of the settings, by its name and the number of its fields. -/
structure Shape where
  name : String
  fields : Nat
deriving DecidableEq

/-- Why settings cannot be read. -/
inductive LoadError
  | malformed
  | mismatch (found : Found) (expected : Expected) (way : List KeyStep) (origin : Option String)
  | noSection (found : Found) (shape : Shape)
  | noList (found : Found)
  | tooFew (count : Nat) (shape : Shape)
  | missing (field : String)
  | tooSlow (timeoutMs connectionMs : Nat)
deriving DecidableEq

namespace LoadError

/-- The text of an error. -/
def message : LoadError → String
  | .malformed => "malformed configuration file"
  | .mismatch found expected way origin =>
      let key := if way.isEmpty then "" else " for key \x60" ++ renderSteps way ++ "\x60"
      let source := (origin.map fun o => " in " ++ o).getD ""
      "invalid type: " ++ found.precise ++ ", expected " ++ expected.words ++ key ++ source
  | .noSection found shape => "invalid type: " ++ found.plain ++ ", expected struct " ++ shape.name
  | .noList found => "invalid type: " ++ found.plain ++ ", expected a sequence"
  | .tooFew count shape =>
      "invalid length " ++ toString count ++ ", expected struct " ++ shape.name ++ " with "
        ++ toString shape.fields ++ " elements"
  | .missing field => "missing field \x60" ++ field ++ "\x60"
  | .tooSlow timeoutMs connectionMs =>
      "assembler.timeout_ms (" ++ toString timeoutMs ++ ") must be below the connection timeout ("
        ++ toString connectionMs ++ " ms)"

/-- The same error seen from one step further up. -/
def under (step : KeyStep) : LoadError → LoadError
  | .mismatch found expected way origin => .mismatch found expected (step :: way) origin
  | other => other

end LoadError

end AssemblyGate
