/-
**Writing JSON.**

Values are written without gaps.  In a text the quote, the backslash and the controls are escaped,
the common controls by a letter and the others by a number; everything else stands as it is.

Main definitions:

* `AssemblyGate.Json.quoted` — a quoted text;
* `AssemblyGate.Json.render` — a value.
-/
import AssemblyGate.Json.Basic
import AssemblyGate.Number.Decimal
import AssemblyGate.Text.Numeral

set_option autoImplicit false

namespace AssemblyGate.Json

/-- How one character stands in a quoted text. -/
def escape (c : Char) : List Char :=
  if c = '"' ∨ c = '\\' then ['\\', c]
  else if c = '\x08' then ['\\', 'b']
  else if c = '\x0c' then ['\\', 'f']
  else if c = '\n' then ['\\', 'n']
  else if c = '\r' then ['\\', 'r']
  else if c = '\t' then ['\\', 't']
  else if c.toNat < 0x20 then
    ['\\', 'u', '0', '0', Nat.digitChar (c.toNat / 16), Nat.digitChar (c.toNat % 16)]
  else [c]

/-- A quoted text. -/
def quoted (s : String) : List Char := '"' :: s.toList.flatMap escape ++ ['"']

/-- A number.  A floating point number that is not finite has no written form of its own. -/
def renderNumber : JsonNumber → List Char
  | .whole n => (toString n).toList
  | .float x => if x.isFinite then x.positionalWithPoint else ['n', 'u', 'l', 'l']

mutual

/-- The written form of a value. -/
def render : Json → List Char
  | .null => ['n', 'u', 'l', 'l']
  | .bool true => ['t', 'r', 'u', 'e']
  | .bool false => ['f', 'a', 'l', 's', 'e']
  | .number n => renderNumber n
  | .text s => quoted s
  | .list items => '[' :: renderItems items ++ [']']
  | .object members => '\x7b' :: renderMembers members ++ ['\x7d']

/-- The items of a list, with commas between them. -/
def renderItems : List Json → List Char
  | [] => []
  | [item] => item.render
  | item :: rest => item.render ++ ',' :: renderItems rest

/-- The members of an object, with commas between them. -/
def renderMembers : List (String × Json) → List Char
  | [] => []
  | [(name, value)] => quoted name ++ ':' :: value.render
  | (name, value) :: rest => quoted name ++ ':' :: value.render ++ ',' :: renderMembers rest

end

end AssemblyGate.Json
