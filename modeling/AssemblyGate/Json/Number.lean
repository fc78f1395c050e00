/-
**Numbers of a JSON text.**

A number is written as an optional minus sign, whole digits without a leading zero, and optional
fraction and exponent.  Its value keeps as many leading digits as fit in a 64-bit word; the word is
then multiplied or divided by a power of ten, each step rounded.  A number too large for a finite
floating point value is refused.

Main definitions:

* `AssemblyGate.JsonNumber.Literal` — the written parts;
* `AssemblyGate.JsonNumber.Literal.read?` — the literal at the front of a text;
* `AssemblyGate.JsonNumber.Literal.value?` — its value, if it is not too large.
-/
import AssemblyGate.Json.Basic
import AssemblyGate.Text.Numeral

set_option autoImplicit false

namespace AssemblyGate.JsonNumber

/-- The parts of a written number. -/
structure Literal where
  negative : Bool
  whole : List Char
  fraction : Option (List Char)
  /-- The sign of the exponent, true for minus, and its digits. -/
  exponent : Option (Bool × List Char)

namespace Literal

/-! ### Reading -/

/-- The digits at the front of a text, of which there must be one at least, and the rest. -/
def digits? (text : List Char) : Option (List Char × List Char) :=
  let found := text.takeWhile Numeral.isDigit
  if found.isEmpty then none else some (found, text.dropWhile Numeral.isDigit)

/-- The whole digits at the front of a text: a lone zero, or digits that begin with another one. -/
def whole? (text : List Char) : Option (List Char × List Char) :=
  match digits? text with
  | some ('0' :: _ :: _, _) => none
  | other => other

/-- The fraction at the front of a text, if a point stands there. -/
def fraction? (text : List Char) : Option (Option (List Char) × List Char) :=
  match text with
  | '.' :: rest => (digits? rest).map fun (found, rest) => (some found, rest)
  | _ => some (none, text)

/-- The exponent at the front of a text, if the letter for one stands there. -/
def exponent? (text : List Char) : Option (Option (Bool × List Char) × List Char) :=
  let signed (rest : List Char) : Option (Option (Bool × List Char) × List Char) :=
    match rest with
    | '+' :: rest => (digits? rest).map fun (found, rest) => (some (false, found), rest)
    | '-' :: rest => (digits? rest).map fun (found, rest) => (some (true, found), rest)
    | _ => (digits? rest).map fun (found, rest) => (some (false, found), rest)
  match text with
  | 'e' :: rest => signed rest
  | 'E' :: rest => signed rest
  | _ => some (none, text)

/-- The written number at the front of a text, and what follows it. -/
def read? (text : List Char) : Option (Literal × List Char) :=
  let (negative, rest) := match text with
    | '-' :: rest => (true, rest)
    | _ => (false, text)
  match whole? rest with
  | none => none
  | some (whole, rest) =>
      match fraction? rest with
      | none => none
      | some (fraction, rest) =>
          match exponent? rest with
          | none => none
          | some (exponent, rest) => some (⟨negative, whole, fraction, exponent⟩, rest)

/-! ### The value -/

/-- The leading digits that fit in a word, as a number, and how many digits come after them. -/
def keepWhole (digits : List Char) : Nat × Nat :=
  digits.foldl
    (fun (kept, dropped) c =>
      let longer := kept * 10 + (Numeral.digit? c).getD 0
      if dropped = 0 ∧ longer ≤ maxWord then (longer, 0) else (kept, dropped + 1))
    (0, 0)

/-- The number `kept` followed by the leading fraction digits that fit in a word, how many those
are, and whether one was left out. -/
def keepFraction (kept : Nat) (digits : List Char) : Nat × Nat × Bool :=
  digits.foldl
    (fun (kept, count, full) c =>
      let longer := kept * 10 + (Numeral.digit? c).getD 0
      if !full && longer ≤ maxWord then (longer, count + 1, false) else (kept, count, true))
    (kept, 0, false)

/-- The largest exponent that is told apart from larger ones. -/
def exponentCap : Nat := twoTo 31

/-- The exponent that digits denote, up to the cap. -/
def exponentValue (negative : Bool) (digits : List Char) : Int :=
  let n := digits.foldl (fun n c => min exponentCap (n * 10 + (Numeral.digit? c).getD 0)) 0
  if negative then Int.negOfNat n else n

/-- Multiply or divide by a power of ten, at most 308 places at a time when dividing.  Nothing is
answered when the result is not finite. -/
def scale? : Nat → Binary64 → Int → Option Binary64
  | rounds, x, e =>
      if e.natAbs ≤ 308 then
        let power := Binary64.pow10 e.natAbs
        let y := if 0 ≤ e then x.mul power else x.div power
        if y.isFinite then some y else none
      else if x.isZero then some x
      else if 0 ≤ e then none
      else
        match rounds with
        | 0 => some (Binary64.zero false)
        | rounds + 1 => scale? rounds (x.div (Binary64.pow10 308)) (e + 308)

/-- The floating point value of `± kept * 10 ^ exponent`.  Three divisions take every word to
zero. -/
def float? (negative : Bool) (kept : Nat) (exponent : Int) : Option JsonNumber :=
  (scale? 3 (Binary64.ofNat kept) exponent).map fun x =>
    .float (if negative then x.neg else x)

/-- The value of a literal without fraction and exponent whose digits all fit in a word. -/
def wholeValue (negative : Bool) (kept : Nat) : JsonNumber :=
  if !negative then .whole kept
  else if kept = 0 ∨ twoTo 63 < kept then .float (Binary64.ofNat kept).neg
  else .whole (Int.negOfNat kept)

/-- The value of a literal, unless it is too large. -/
def value? (l : Literal) : Option JsonNumber :=
  let (kept, dropped) := keepWhole l.whole
  match l.fraction, l.exponent with
  | none, none =>
      if dropped = 0 then some (wholeValue l.negative kept) else float? l.negative kept dropped
  | fraction, exponent =>
      let (kept, count, _) := keepFraction kept (fraction.getD [])
      let power := match exponent with
        | none => 0
        | some (negative, digits) => exponentValue negative digits
      float? l.negative kept ((dropped : Int) - count + power)

end Literal

end AssemblyGate.JsonNumber
