/-
**Numbers and moments in TOML.**

A number may be written with underscores between its digits.  A whole number has 64 bits and may be
written in base two, eight or sixteen; a floating point number has a fraction, an exponent or both,
or is one of the names for what is not finite.  A moment is a date, a time of the day, or both, with
or without the distance from universal time.

Main definitions:

* `AssemblyGate.Toml.readMoment`, `AssemblyGate.Toml.readFloat`, `AssemblyGate.Toml.readInteger` —
  the three kinds;
* `AssemblyGate.Toml.readNumber` — the first kind that fits;
* `AssemblyGate.Toml.momentOf?` — the moment that a whole text tells.
-/
import AssemblyGate.Number.Decimal
import AssemblyGate.Text.Numeral
import AssemblyGate.Toml.Basic

set_option autoImplicit false

namespace AssemblyGate.Toml

/-! ### Digits -/

/-- Digits with single underscores between them, without the underscores; `done` has been read, last
digit first.  An underscore without a digit after it is refused. -/
def readDigitsFrom (isDigit : Char → Bool) (done : List Char) :
    List Char → Option (List Char × List Char)
  | [] => some (done.reverse, [])
  | c :: rest =>
      if isDigit c then readDigitsFrom isDigit (c :: done) rest
      else if c = '_' then
        match rest with
        | d :: rest => if isDigit d then readDigitsFrom isDigit (d :: done) rest else none
        | [] => none
      else some (done.reverse, c :: rest)

/-- One digit at least, and those after it. -/
def readDigits (isDigit : Char → Bool) (input : List Char) : Option (List Char × List Char) :=
  match input with
  | c :: rest => if isDigit c then readDigitsFrom isDigit [c] rest else none
  | [] => none

/-- A sign, true for minus. -/
def readSign : List Char → Bool × List Char
  | '-' :: rest => (true, rest)
  | '+' :: rest => (false, rest)
  | input => (false, input)

/-- Decimal digits without a leading zero. -/
def readWhole (input : List Char) : Option (List Char × List Char) :=
  match input with
  | '0' :: rest => some (['0'], rest)
  | _ => readDigits Numeral.isDigit input

/-- The number that digits of a base denote. -/
def digitsValue (base : Nat) (digits : List Char) : Nat :=
  digits.foldl (fun n c => n * base + (Numeral.hexDigit? c).getD 0) 0

/-! ### Whole numbers -/

/-- Whether a character is a digit of a base up to sixteen. -/
def isDigitOf (base : Nat) (c : Char) : Bool :=
  match Numeral.hexDigit? c with
  | some d => d < base
  | none => false

/-- A whole number of a base, after the letters that tell the base. -/
def readBased (base : Nat) (input : List Char) : Option (Toml × List Char) :=
  match readDigits (isDigitOf base) input with
  | some (digits, rest) =>
      let n := digitsValue base digits
      if n < twoTo 63 then some (.integer n, rest) else none
  | none => none

/-- A whole number. -/
def readInteger (input : List Char) : Option (Toml × List Char) :=
  match input with
  | '0' :: 'x' :: rest => readBased 16 rest
  | '0' :: 'o' :: rest => readBased 8 rest
  | '0' :: 'b' :: rest => readBased 2 rest
  | _ =>
      let (negative, rest) := readSign input
      match readWhole rest with
      | some (digits, rest) =>
          let n := digitsValue 10 digits
          if negative then (if n ≤ twoTo 63 then some (.integer (Int.negOfNat n), rest) else none)
          else if n < twoTo 63 then some (.integer n, rest)
          else none
      | none => none

/-! ### Floating point numbers -/

/-- The digits after a point, if there is one. -/
def readFraction (input : List Char) : Option (Option (List Char) × List Char) :=
  match input with
  | '.' :: rest => (readDigits Numeral.isDigit rest).map fun (digits, rest) => (some digits, rest)
  | _ => some (none, input)

/-- An exponent, if there is one. -/
def readExponent (input : List Char) : Option (Option Int × List Char) :=
  match input with
  | c :: rest =>
      if c = 'e' ∨ c = 'E' then
        let (negative, rest) := readSign rest
        (readDigits Numeral.isDigit rest).map fun (digits, rest) =>
          let n := digits.foldl (fun n c => min (twoTo 62) (n * 10 + (Numeral.digit? c).getD 0)) 0
          (some (if negative then Int.negOfNat n else n), rest)
      else some (none, input)
  | [] => some (none, input)

/-- A floating point number in digits.  One too large on the positive side is refused. -/
def readDecimal (input : List Char) : Option (Toml × List Char) :=
  let (negative, rest) := readSign input
  match readWhole rest with
  | none => none
  | some (whole, rest) =>
      match readFraction rest with
      | none => none
      | some (fraction, rest) =>
          match readExponent rest with
          | none => none
          | some (exponent, rest) =>
              if fraction.isNone && exponent.isNone then none
              else
                let places := fraction.getD []
                let x := Binary64.ofDecimal negative (digitsValue 10 (whole ++ places))
                  (exponent.getD 0 - places.length)
                if x = .infinite false then none else some (.float x, rest)

/-- What is not finite, by its name. -/
def readSpecial (input : List Char) : Option (Toml × List Char) :=
  let (negative, rest) := readSign input
  match rest with
  | 'i' :: 'n' :: 'f' :: rest => some (.float (.infinite negative), rest)
  | 'n' :: 'a' :: 'n' :: rest => some (.float .nan, rest)
  | _ => none

/-- A floating point number. -/
def readFloat (input : List Char) : Option (Toml × List Char) :=
  match readDecimal input with
  | some found => some found
  | none => readSpecial input

/-! ### Moments -/

/-- A number of exactly `count` digits between two bounds. -/
def readField (count low high : Nat) (input : List Char) : Option (Nat × List Char) :=
  let digits := input.take count
  if digits.length = count && digits.all Numeral.isDigit then
    let n := Numeral.ofDigits digits
    if low ≤ n ∧ n ≤ high then some (n, input.drop count) else none
  else none

/-- What follows a given character. -/
def readMark (c : Char) : List Char → Option (List Char)
  | [] => none
  | x :: rest => if x = c then some rest else none

/-- The last day of a month. -/
def lastDay (year month : Nat) : Nat :=
  if month = 2 then
    (if year % 4 = 0 ∧ (year % 100 ≠ 0 ∨ year % 400 = 0) then 29 else 28)
  else if month = 4 ∨ month = 6 ∨ month = 9 ∨ month = 11 then 30
  else 31

/-- A date, in its normal text. -/
def readDate (input : List Char) : Option (List Char × List Char) := do
  let (year, rest) ← readField 4 0 9999 input
  let rest ← readMark '-' rest
  let (month, rest) ← readField 2 1 12 rest
  let rest ← readMark '-' rest
  let (day, rest) ← readField 2 1 (lastDay year month) rest
  return (Numeral.padded 4 year ++ '-' :: Numeral.padded 2 month ++ '-' :: Numeral.padded 2 day, rest)

/-- The digits after the second: at most nine of them count, and zeros at the end are dropped. -/
def readSecondFraction (input : List Char) : Option (List Char × List Char) :=
  match input with
  | '.' :: rest =>
      let digits := rest.takeWhile Numeral.isDigit
      if digits.isEmpty then none
      else
        let kept := ((digits.take 9).reverse.dropWhile (· = '0')).reverse
        some ((if kept.isEmpty then [] else '.' :: kept), rest.dropWhile Numeral.isDigit)
  | _ => some ([], input)

/-- A time of the day whose hour is at most `lastHour`, in its normal text. -/
def readClock (lastHour : Nat) (input : List Char) : Option (List Char × List Char) := do
  let (hour, rest) ← readField 2 0 lastHour input
  let rest ← readMark ':' rest
  let (minute, rest) ← readField 2 0 59 rest
  let rest ← readMark ':' rest
  let (second, rest) ← readField 2 0 60 rest
  let (fraction, rest) ← readSecondFraction rest
  return (Numeral.padded 2 hour ++ ':' :: Numeral.padded 2 minute ++ ':' :: Numeral.padded 2 second
    ++ fraction, rest)

/-- The distance from universal time, in its normal text; empty where none is written. -/
def readOffset (input : List Char) : Option (List Char × List Char) :=
  let signed (sign : Char) (rest : List Char) : Option (List Char × List Char) := do
    let (hour, rest) ← readField 2 0 23 rest
    let rest ← readMark ':' rest
    let (minute, rest) ← readField 2 0 59 rest
    let sign := if hour = 0 ∧ minute = 0 then '+' else sign
    return (sign :: Numeral.padded 2 hour ++ ':' :: Numeral.padded 2 minute, rest)
  match input with
  | c :: rest =>
      if c = 'Z' ∨ c = 'z' then some (['Z'], rest)
      else if c = '+' ∨ c = '-' then signed c rest
      else some ([], input)
  | [] => some ([], input)

/-- The time of the day that may follow a date, with the letter between them. -/
def readTail (input : List Char) : Option (List Char × List Char) :=
  match input with
  | c :: rest =>
      if c = 'T' ∨ c = 't' ∨ c = ' ' then
        match readClock 23 rest with
        | some (clock, rest) =>
            (readOffset rest).map fun (offset, rest) => ('T' :: clock ++ offset, rest)
        | none => if c = ' ' then some ([], input) else none
      else some ([], input)
  | [] => some ([], input)

/-- A moment. -/
def readMoment (input : List Char) : Option (Toml × List Char) :=
  match readDate input with
  | some (date, rest) =>
      (readTail rest).map fun (tail, rest) => (.moment (String.ofList (date ++ tail)), rest)
  | none => (readClock 23 input).map fun (clock, rest) => (.moment (String.ofList clock), rest)

/-- The distance from universal time at the end of a text that tells a moment, in its normal text:
up to a whole day, and with any two digits for the minutes. -/
def keptOffset? : List Char → Option (List Char)
  | [] => some []
  | c :: rest =>
      if c = 'Z' ∨ c = 'z' then (if rest = [] then some ['Z'] else none)
      else if c = '+' ∨ c = '-' then do
        let (hours, rest) ← readField 2 0 99 rest
        let rest ← readMark ':' rest
        let (minutes, rest) ← readField 2 0 99 rest
        let total := 60 * hours + minutes
        if rest = [] ∧ total ≤ 24 * 60 then
          let sign := if total = 0 then '+' else c
          some (sign :: Numeral.padded 2 (total / 60) ++ ':' :: Numeral.padded 2 (total % 60))
        else none
      else none

/-- The moment that a whole text tells, in its normal text.  The hour of such a text may be 24. -/
def momentOf? (input : List Char) : Option String :=
  match readDate input with
  | some (date, []) => some (String.ofList date)
  | some (date, c :: rest) =>
      if c = 'T' ∨ c = 't' ∨ c = ' ' then do
        let (clock, rest) ← readClock 24 rest
        let offset ← keptOffset? rest
        return String.ofList (date ++ 'T' :: clock ++ offset)
      else none
  | none =>
      match readClock 24 input with
      | some (clock, []) => some (String.ofList clock)
      | _ => none

/-- A number or a moment. -/
def readNumber (input : List Char) : Option (Toml × List Char) :=
  match readMoment input with
  | some found => some found
  | none =>
      match readFloat input with
      | some found => some found
      | none => readInteger input

end AssemblyGate.Toml
