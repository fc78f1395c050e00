/-
**Settings from the environment.**

A variable whose name begins with the mark of the service sets the option that the rest of the name
leads to, two underscores standing for the point of a key.  Its text becomes a truth value, a whole
number or a floating point number where it reads as one; the flags of the assembler are cut at every
space; anything else stays a text.

Main definitions:

* `AssemblyGate.Environment.keyOf?` — the key that a variable sets;
* `AssemblyGate.Environment.valueOf` — the value that it gives;
* `AssemblyGate.Environment.layer` — the layer of all variables.
-/
import AssemblyGate.Number.Decimal
import AssemblyGate.Settings.Raw
import AssemblyGate.Text.Replace

set_option autoImplicit false

namespace AssemblyGate.Environment

/-- What the environment is called as an origin. -/
def originName : String := "the environment"

/-- What the names of the service's variables begin with, in lower case. -/
def mark : List Char := "asmcheck__".toList

/-- The key whose value is a list of flags. -/
def flagsKey : String := "assembler.flags"

/-- The key that a variable sets, if it is one of the service's. -/
def keyOf? (name : String) : Option String :=
  let small := lowerCase name.toList
  if mark.isPrefixOf small then
    some (String.ofList (replaceAll ['_', '_'] ['.'] (small.drop mark.length)))
  else none

/-- The texts between the spaces of a text. -/
def splitSpaces (text : List Char) : List (List Char) :=
  let (last, done) := text.reverse.foldl
    (fun (current, done) c => if c = ' ' then ([], current :: done) else (c :: current, done))
    (([] : List Char), ([] : List (List Char)))
  last :: done

/-- The scalar that a text reads as, a text where it reads as nothing else. -/
def scalarOf (text : String) : Scalar :=
  let small := Raw.keyOf text
  if small = "true" then .bool true
  else if small = "false" then .bool false
  else
    match Numeral.signed? text.toList with
    | some n => .int n
    | none =>
        match Binary64.ofText? text.toList with
        | some x => .float x
        | none => .text text

/-- The value that a variable's text gives to a key. -/
def valueOf (key text : String) : Raw :=
  let origin := some originName
  match scalarOf text with
  | .text s =>
      if key = flagsKey then
        .list origin ((splitSpaces s.toList).map fun piece =>
          .scalar origin (.text (String.ofList piece)))
      else .scalar origin (.text s)
  | other => .scalar origin other

/-- The layer of the variables of an environment.  Of several variables for one key the last one
counts. -/
def layer (environment : List (String × String)) : List (String × Raw) :=
  environment.foldl
    (fun entries (name, text) =>
      match keyOf? name with
      | some key => Raw.store key (valueOf key text) entries
      | none => entries)
    []

end AssemblyGate.Environment
