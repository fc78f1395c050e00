/-
**Numerals.**

Reading and writing whole numbers in texts: decimal numerals bounded by a word size, hexadecimal
digits, and numerals padded to a width.
-/

import AssemblyGate.Number.Power

set_option autoImplicit false

namespace AssemblyGate

/-- The largest number of a 64-bit word. -/
def maxWord : Nat := twoTo 64 - 1

namespace Numeral

/-- The value of a decimal digit. -/
def digit? (c : Char) : Option Nat :=
  if '0' ≤ c ∧ c ≤ '9' then some (c.toNat - '0'.toNat) else none

/-- The value of a hexadecimal digit, in either case. -/
def hexDigit? (c : Char) : Option Nat :=
  if '0' ≤ c ∧ c ≤ '9' then some (c.toNat - '0'.toNat)
  else if 'a' ≤ c ∧ c ≤ 'f' then some (c.toNat - 'a'.toNat + 10)
  else if 'A' ≤ c ∧ c ≤ 'F' then some (c.toNat - 'A'.toNat + 10)
  else none

/-- Whether a character is a decimal digit. -/
def isDigit (c : Char) : Bool := (digit? c).isSome

/-- The number that decimal digits denote; any other character counts as zero. -/
def ofDigits (digits : List Char) : Nat :=
  digits.foldl (fun n c => n * 10 + (digit? c).getD 0) 0

/-- A non-empty list of decimal digits, as a number. -/
def natural? (text : List Char) : Option Nat :=
  if !text.isEmpty && text.all isDigit then some (ofDigits text) else none

/-- An unsigned numeral of at most `limit`, with an optional plus sign. -/
def unsigned? (limit : Nat) (text : List Char) : Option Nat :=
  let digits := match text with
    | '+' :: rest => rest
    | _ => text
  match natural? digits with
  | some n => if n ≤ limit then some n else none
  | none => none

/-- A 64-bit unsigned numeral. -/
def word? (text : List Char) : Option Nat := unsigned? maxWord text

/-- A signed 64-bit numeral, with an optional sign of either kind. -/
def signed? (text : List Char) : Option Int :=
  match text with
  | '-' :: rest =>
      match natural? rest with
      | some n => if n ≤ twoTo 63 then some (-(n : Int)) else none
      | none => none
  | _ => (unsigned? (twoTo 63 - 1) text).map (fun n => (n : Int))

/-- The decimal digits of a number. -/
def decimal (n : Nat) : List Char := Nat.toDigits 10 n

/-- The decimal digits of an integer, with a sign if it is negative. -/
def integer (n : Int) : List Char :=
  if n < 0 then '-' :: decimal n.natAbs else decimal n.natAbs

/-- The digits of a number in base sixteen, in lower case and without leading zeros. -/
def hex (n : Nat) : List Char := Nat.toDigits 16 n

/-- A numeral in front of which zeros are put until it has the given width. -/
def padded (width n : Nat) : List Char :=
  let digits := Nat.toDigits 10 n
  List.replicate (width - digits.length) '0' ++ digits

end Numeral

end AssemblyGate
