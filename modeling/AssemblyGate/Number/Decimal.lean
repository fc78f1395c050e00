/-
**Decimal notation of floating point numbers.**

Reading takes the number nearest to a decimal numeral.  Writing takes the shortest decimal that
reads back as the number: for one digit, two digits and so on up to seventeen, the two neighbours of
the number on that decimal grid are tried, and the first grid with a neighbour inside the interval
of reals that round to the number wins, the nearer of two neighbours before the other and the even
one of two that are equally near.  The digits are then written positionally, without an exponent,
however far from the point they stand.

Main definitions:

* `AssemblyGate.Binary64.ofDecimal` — the number nearest to a decimal;
* `AssemblyGate.Binary64.ofText?` — the number that a text denotes;
* `AssemblyGate.Binary64.shortest` — the digits and the power of ten of the shortest decimal;
* `AssemblyGate.Binary64.positional` — the written form.
-/
import AssemblyGate.Number.Binary64
import AssemblyGate.Text.LowerCase
import AssemblyGate.Text.Numeral

set_option autoImplicit false

namespace AssemblyGate.Binary64

/-! ### Reading -/

/-- The number nearest to `± significand * 10 ^ exponent`.  Decimals far outside the range of the
format are answered at once. -/
def ofDecimal (negative : Bool) (significand : Nat) (exponent : Int) : Binary64 :=
  let size : Int := (Nat.toDigits 10 significand).length
  if significand = 0 then zero negative
  else if 310 < size + exponent then .infinite negative
  else if size + exponent < -330 then zero negative
  else if 0 ≤ exponent then ofRatio negative (significand * tenTo exponent.toNat) 1
  else ofRatio negative significand (tenTo (-exponent).toNat)

/-- The parts of a decimal with an optional point and exponent: its digits, as one number, and the
power of ten they are multiplied by. -/
def decimalParts? (text : List Char) : Option (Nat × Int) :=
  let whole := text.takeWhile Numeral.isDigit
  let rest := text.dropWhile Numeral.isDigit
  let (places, rest) := match rest with
    | '.' :: rest => (rest.takeWhile Numeral.isDigit, rest.dropWhile Numeral.isDigit)
    | _ => ([], rest)
  if whole.isEmpty && places.isEmpty then none
  else
    let significand := Numeral.ofDigits (whole ++ places)
    let power (sign : Int) (digits : List Char) : Option (Nat × Int) :=
      if digits.isEmpty || !digits.all Numeral.isDigit then none
      else
        let n := digits.foldl (fun n c => min (twoTo 62) (n * 10 + (Numeral.digit? c).getD 0)) 0
        some (significand, sign * n - places.length)
    match rest with
    | [] => some (significand, Int.negOfNat places.length)
    | e :: rest =>
        if e = 'e' ∨ e = 'E' then
          match rest with
          | '-' :: digits => power (-1) digits
          | '+' :: digits => power 1 digits
          | digits => power 1 digits
        else none

/-- The number that a text denotes: a decimal, or the name of what is not finite, with an optional
sign. -/
def ofText? (text : List Char) : Option Binary64 :=
  let (negative, rest) := match text with
    | '-' :: rest => (true, rest)
    | '+' :: rest => (false, rest)
    | _ => (false, text)
  let name := String.ofList (lowerAscii rest)
  if name = "inf" ∨ name = "infinity" then some (.infinite negative)
  else if name = "nan" then some .nan
  else (decimalParts? rest).map fun (significand, power) => ofDecimal negative significand power

/-! ### The shortest decimal -/

/-- The reals that round to a positive number, as numerators over one denominator: the lower end,
the number itself and the upper end, and whether the two ends round to the number as well. -/
structure Interval where
  low : Nat
  value : Nat
  high : Nat
  den : Nat
  closed : Bool

/-- The interval of `mantissa * 2 ^ exponent`.  Below a power of two the grid is twice as fine. -/
def interval (mantissa : Nat) (exponent : Int) : Interval :=
  let below := if mantissa = twoTo 52 ∧ minExponent < exponent then 1 else 2
  let (up, den) := ratio 1 (exponent - 2)
  ⟨(4 * mantissa - below) * up, 4 * mantissa * up, (4 * mantissa + 2) * up, den, mantissa % 2 = 0⟩

/-- Whether `c * 10 ^ p` lies in the interval. -/
def Interval.holds (i : Interval) (c : Nat) (p : Int) : Bool :=
  let (a, b) := if 0 ≤ p then (c * tenTo p.toNat * i.den, 1) else (c * i.den, tenTo (-p).toNat)
  if i.closed then i.low * b ≤ a && a ≤ i.high * b else i.low * b < a && a < i.high * b

/-- The power of ten next above a positive quotient. -/
def magnitude (num den : Nat) : Int :=
  if den ≤ num then ((Nat.toDigits 10 (num / den)).length : Int)
  else
    Int.negOfNat (((List.range 400).find? (fun j => den ≤ num * tenTo (j + 1))).getD 0)

/-- The neighbour of the number with `digits` digits that reads back, if one does. -/
def Interval.neighbour? (i : Interval) (top : Int) (digits : Nat) : Option (Nat × Int) :=
  let p := top - digits
  let (num, den) :=
    if 0 ≤ p then (i.value, i.den * tenTo p.toNat) else (i.value * tenTo (-p).toNat, i.den)
  let c := num / den
  let below := 2 * (num % den) < den ∨ (2 * (num % den) = den ∧ c % 2 = 0)
  let nearer := if below then (c, c + 1) else (c + 1, c)
  if i.holds nearer.1 p then some (nearer.1, p)
  else if i.holds nearer.2 p then some (nearer.2, p)
  else none

/-- The shortest decimal that reads back as a positive number: its digits, as one whole number, and
the power of ten they are multiplied by.  Just below a power of ten the upper neighbour is that
power, which has one digit less than it seems. -/
def shortest (mantissa : Nat) (exponent : Int) : Nat × Int :=
  let i := interval mantissa exponent
  let top := magnitude i.value i.den
  let (c, p) :=
    ((List.range 17).findSome? (fun k => i.neighbour? top (k + 1))).getD (mantissa, exponent)
  if c % 10 = 0 then (c / 10, p + 1) else (c, p)

/-! ### Writing -/

/-- The digits of `c * 10 ^ p`, with zeros put where the point needs them. -/
def placed (c : Nat) (p : Int) : List Char :=
  let digits := Nat.toDigits 10 c
  if 0 ≤ p then digits ++ List.replicate p.toNat '0'
  else
    let places := (-p).toNat
    if digits.length ≤ places then
      ['0', '.'] ++ List.replicate (places - digits.length) '0' ++ digits
    else digits.take (digits.length - places) ++ ['.'] ++ digits.drop (digits.length - places)

/-- The written form: the shortest decimal without an exponent, and the names of what is not
finite. -/
def positional : Binary64 → List Char
  | .nan => ['N', 'a', 'N']
  | .infinite negative => (if negative then ['-'] else []) ++ ['i', 'n', 'f']
  | .finite negative m e =>
      let sign := if negative then ['-'] else []
      if m = 0 then sign ++ ['0']
      else
        let (c, p) := shortest m e
        sign ++ placed c p

/-- The written form of a number of which the reader should see that it is not whole by nature: a
finite number without a point gets one. -/
def positionalWithPoint (x : Binary64) : List Char :=
  let written := x.positional
  if x.isFinite && !written.contains '.' then written ++ ['.', '0'] else written

example : (ofDecimal false 1 (-1)).positional = ['0', '.', '1'] := by decide +kernel

example : (ofDecimal true 25 (-1)).positional = ['-', '2', '.', '5'] := by decide +kernel

end AssemblyGate.Binary64
