/-
**Quoted texts.**

A message that names a text or a path shows it between double quotes, with everything that could be
mistaken for something else written as an escape: the quote and the backslash, the common controls
by a letter, and every other unprintable character by its number in braces.
-/
import AssemblyGate.Text.Printable
import AssemblyGate.Text.Numeral

set_option autoImplicit false

namespace AssemblyGate.Quoted

/-- The number of a character between braces. -/
def byNumber (c : Char) : List Char :=
  ['\\', 'u', '\x7b'] ++ Numeral.hex c.toNat ++ ['\x7d']

/-- How one character stands inside the quotes. -/
def escape (c : Char) : List Char :=
  if c = '\x00' then ['\\', '0']
  else if c = '\t' then ['\\', 't']
  else if c = '\r' then ['\\', 'r']
  else if c = '\n' then ['\\', 'n']
  else if c = '"' ∨ c = '\\' then ['\\', c]
  else if isPrintable c then [c]
  else byNumber c

/-- A text between double quotes. -/
def quote (s : List Char) : List Char :=
  ['"'] ++ s.flatMap escape ++ ['"']

end AssemblyGate.Quoted
