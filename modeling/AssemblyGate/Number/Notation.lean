/-
**Fixed and scientific notation.**

A floating point number is written with a given number of digits behind the point, with or without a
power of ten.  The digits are those of the exact value rounded once, to the even digit where it
stands half way.

Main definitions:

* `AssemblyGate.Binary64.fixed`, `AssemblyGate.Binary64.scientific`, `AssemblyGate.Binary64.general`
  — the notations, without a sign;
* `AssemblyGate.Binary64.compare?` — the order of numbers;
* `AssemblyGate.Binary64.readPrefix` — the number at the front of a text.
-/
import AssemblyGate.Number.Decimal

set_option autoImplicit false

namespace AssemblyGate.Binary64

/-! ### Writing -/

/-- Digits with a point in front of the last `places` of them. -/
def pointed (places : Nat) (hasPoint : Bool) (n : Nat) : List Char :=
  let digits := Numeral.padded (places + 1) n
  let whole := digits.take (digits.length - places)
  let rest := digits.drop (digits.length - places)
  if places = 0 then whole ++ (if hasPoint then ['.'] else []) else whole ++ '.' :: rest

/-- The absolute value of a finite number with `places` digits behind the point. -/
def fixed (places : Nat) (hasPoint : Bool) (mantissa : Nat) (exponent : Int) : List Char :=
  let (num, den) := ratio mantissa exponent
  pointed places hasPoint (roundDiv (num * tenTo places) den)

/-- The digits of a positive number, `places` of them behind the first one, as one number, and the
power of ten of the first. -/
def scaled (places : Nat) (mantissa : Nat) (exponent : Int) : Nat × Int :=
  if mantissa = 0 then (0, 0)
  else
    let (num, den) := ratio mantissa exponent
    let power := magnitude num den - 1
    let shift := (places : Int) - power
    let digits := if 0 ≤ shift then roundDiv (num * tenTo shift.toNat) den
      else roundDiv num (den * tenTo (-shift).toNat)
    if digits < tenTo (places + 1) then (digits, power) else (digits / 10, power + 1)

/-- A power of ten as it is written behind a mark: with a sign and at least two digits. -/
def powerText (mark : Char) (power : Int) : List Char :=
  mark :: (if power < 0 then '-' else '+') :: Numeral.padded 2 power.natAbs

/-- The absolute value of a finite number with a power of ten. -/
def scientific (places : Nat) (hasPoint : Bool) (mark : Char) (mantissa : Nat) (exponent : Int) :
    List Char :=
  let (digits, power) := scaled places mantissa exponent
  pointed places hasPoint digits ++ powerText mark power

/-- A decimal without the zeros at its end behind the point. -/
def withoutZeros (text : List Char) : List Char :=
  if text.contains '.' then
    let cut := text.reverse.dropWhile (· = '0')
    (if cut.head? = some '.' then cut.tail else cut).reverse
  else text

/-- The absolute value of a finite number with so many digits altogether, with a power of ten only
where it is very large or very small.  Zeros at the end are dropped unless they are asked for. -/
def general (digits : Nat) (keepsZeros : Bool) (mark : Char) (mantissa : Nat) (exponent : Int) :
    List Char :=
  let digits := max digits 1
  let (found, power) := scaled (digits - 1) mantissa exponent
  let trim := if keepsZeros then id else withoutZeros
  if power < -4 ∨ (digits : Int) ≤ power then
    trim (pointed (digits - 1) keepsZeros found) ++ powerText mark power
  else trim (fixed ((digits : Int) - 1 - power).toNat keepsZeros mantissa exponent)

/-- The absolute value of a finite number in base sixteen with a power of two. -/
def hexadecimal (places : Option Nat) (mantissa : Nat) (exponent : Int) : List Char :=
  if mantissa = 0 then
    let zeros := List.replicate (places.getD 0) '0'
    ['0', 'x', '0'] ++ (if zeros.isEmpty then [] else '.' :: zeros) ++ ['p', '+', '0']
  else
    let size := Nat.log2 mantissa
    let full := mantissa * twoTo (52 - size)
    let power := exponent + (size : Int)
    let digits : List Char := match places with
      | some n =>
          let rounded := if n < 13 then roundDiv full (twoTo (52 - 4 * n))
            else full * twoTo (4 * n - 52)
          Nat.toDigits 16 rounded
      | none => ((Nat.toDigits 16 full).reverse.dropWhile (· = '0')).reverse
    let first := digits.take 1
    let rest := digits.drop 1
    ['0', 'x'] ++ first ++ (if rest.isEmpty then [] else '.' :: rest)
      ++ ('p' :: (if power < 0 then '-' else '+') :: Numeral.decimal power.natAbs)

/-! ### Reading -/

/-- The number at the front of a text, blanks before it left out, and what follows it; nothing if
there is none. -/
def readPrefix (text : List Char) : Option (Binary64 × List Char) :=
  let start := text.dropWhile fun c => c = ' ' || ('\t' ≤ c && c ≤ '\r')
  let (negative, body) := match start with
    | '-' :: rest => (true, rest)
    | '+' :: rest => (false, rest)
    | _ => (false, start)
  let small := lowerAscii body
  if ['i', 'n', 'f'].isPrefixOf small then
    let length := if "infinity".toList.isPrefixOf small then 8 else 3
    some (.infinite negative, body.drop length)
  else if ['n', 'a', 'n'].isPrefixOf small then some (.nan, body.drop 3)
  else
    let isHex := ['0', 'x'].isPrefixOf small &&
      ((small.drop 2).head?.any fun c => (Numeral.hexDigit? c).isSome)
    let base := if isHex then 16 else 10
    let isPart (c : Char) : Bool := (Numeral.hexDigit? c).any (· < base)
    let body := if isHex then body.drop 2 else body
    let whole := body.takeWhile isPart
    let rest := body.drop whole.length
    let (places, rest) := match rest with
      | '.' :: more => (more.takeWhile isPart, more.dropWhile isPart)
      | _ => ([], rest)
    if whole.isEmpty && places.isEmpty then none
    else
      let mark := if isHex then 'p' else 'e'
      let value (digits : List Char) : Nat :=
        digits.foldl (fun n c => n * base + (Numeral.hexDigit? c).getD 0) 0
      let (power, rest) : Int × List Char := match rest with
        | c :: more =>
            if smallOf c = mark then
              let (isBelow, digits) := match more with
                | '-' :: digits => (true, digits)
                | '+' :: digits => (false, digits)
                | digits => (false, digits)
              let found := digits.takeWhile Numeral.isDigit
              if found.isEmpty then (0, rest)
              else
                let n := min (Numeral.ofDigits found) 100000
                (if isBelow then -(n : Int) else n, digits.drop found.length)
            else (0, rest)
        | [] => (0, [])
      let digits := value (whole ++ places)
      if isHex then
        let e := power - 4 * (places.length : Int)
        let (num, den) := if 0 ≤ e then (digits * twoTo e.toNat, 1) else (digits, twoTo (-e).toNat)
        some (ofRatio negative num den, rest)
      else some (ofDecimal negative digits (power - places.length), rest)
where
  /-- The small letter of a letter. -/
  smallOf (c : Char) : Char := (lowerAscii [c]).headD c

/-! ### Order -/

/-- A finite number as an integer over a denominator. -/
def fraction (negative : Bool) (mantissa : Nat) (exponent : Int) : Int × Nat :=
  let (num, den) := ratio mantissa exponent
  (if negative then -(num : Int) else num, den)

/-- The order of two numbers, unless one of them is none. -/
def compare? : Binary64 → Binary64 → Option Ordering
  | .nan, _ | _, .nan => none
  | .infinite s, .infinite t => some (if s = t then .eq else if s then .lt else .gt)
  | .infinite s, _ => some (if s then .lt else .gt)
  | _, .infinite t => some (if t then .gt else .lt)
  | .finite s m e, .finite t n f =>
      let (a, b) := fraction s m e
      let (c, d) := fraction t n f
      some (compare (a * d) (c * b))

/-- A number without what stands behind its point. -/
def truncated : Binary64 → Option Int
  | .finite s m e =>
      let (num, den) := ratio m e
      let n : Int := num / den
      some (if s then -n else n)
  | _ => none

example : general 6 false 'e' 7205759403792794 (-56) = ['0', '.', '1'] := by decide +kernel

end AssemblyGate.Binary64
