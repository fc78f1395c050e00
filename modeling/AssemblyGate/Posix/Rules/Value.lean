/-
**Values of expressions.**

A value is a number or a text.  A text that was read may count as a number too, if it looks like
one; a variable without a value is zero and empty at once.  A number is told as a whole number where
it is one, and by a format otherwise.

Main definitions:

* `AssemblyGate.Rules.Value` — the values;
* `AssemblyGate.Rules.Value.toNumber`, `AssemblyGate.Rules.Printing.toText` — their readings;
* `AssemblyGate.Rules.Printing.order` — their order;
* `AssemblyGate.Rules.Printing.print` — values printed by a format.
-/
import AssemblyGate.Posix.Rules.Program
import AssemblyGate.Posix.Tool.Format

set_option autoImplicit false

namespace AssemblyGate.Rules

/-! ### Numbers -/

/-- A number put together from its parts. -/
def ofBinary : Binary64 → Float
  | .nan => Float.ofBits 0x7ff8000000000000
  | .infinite s => Float.ofBits (if s then 0xfff0000000000000 else 0x7ff0000000000000)
  | .finite s m e =>
      let sign : UInt64 := if s then 0x8000000000000000 else 0
      let body : UInt64 :=
        if m < twoTo 52 then m.toUInt64
        else ((e + 1075).toNat * twoTo 52 + (m - twoTo 52)).toUInt64
      Float.ofBits (sign + body)

/-- A number taken apart. -/
def toBinary (x : Float) : Binary64 :=
  let bits := x.toBits.toNat
  let isNegative : Bool := twoTo 63 ≤ bits
  let exponent : Nat := bits / twoTo 52 % twoTo 11
  let body : Nat := bits % twoTo 52
  if exponent = 2047 then (if body = 0 then .infinite isNegative else .nan)
  else if exponent = 0 then .finite isNegative body Binary64.minExponent
  else .finite isNegative (twoTo 52 + body) ((exponent : Int) - 1075)

/-- A number without what stands behind its point. -/
def truncate (x : Float) : Float := if x < 0 then x.ceil else x.floor

/-- The integer that a number is, if it is one. -/
def integer? (x : Float) : Option Int :=
  if x == truncate x then (toBinary x).truncated else none

/-- A number brought to an integer of 64 bits: one that is not below zero has no sign. -/
def toInteger (x : Float) : Int :=
  match (toBinary x).truncated with
  | some n => if n < 0 then max n (1 - twoTo 63) else min n maxWord
  | none => if x.isNaN then -(twoTo 63) else if x < 0 then 1 - twoTo 63 else maxWord

/-- What is left of a number when another one is taken off as often as it goes. -/
def remainder (x y : Float) : Float :=
  match toBinary x, toBinary y with
  | .finite s m e, .finite _ n f =>
      if n = 0 then Float.ofBits 0x7ff8000000000000
      else
        let (a, b) := Binary64.ratio m e
        let (c, d) := Binary64.ratio n f
        ofBinary (Binary64.ofRatio s (a * d % (c * b)) (b * d))
  | .finite .., .infinite _ => x
  | _, _ => Float.ofBits 0x7ff8000000000000

/-- The value of an operation. -/
def Operation.apply (o : Operation) (x y : Float) : Float :=
  match o with
  | .sum => x + y
  | .difference => x - y
  | .product => x * y
  | .quotient => x / y
  | .remainder => Rules.remainder x y
  | .power => x ^ y

/-! ### Values -/

/-- A value. -/
inductive Value
  | unset
  | number (x : Float)
  | text (t : ByteText)
  | input (t : ByteText)
deriving Inhabited

/-- The number at the front of a text. -/
def numberIn (t : ByteText) : Float :=
  match Binary64.readPrefix t with
  | some (x, _) => ofBinary x
  | none => 0

/-- Whether a character stands between words. -/
def isBlank (c : Char) : Bool := c = ' ' || ('\t' ≤ c && c ≤ '\r')

/-- The number that a text looks like as a whole. -/
def looksLike? (t : ByteText) : Option Float :=
  let start := t.dropWhile isBlank
  let body := (start.reverse.dropWhile isBlank).reverse
  let begins (c : Char) : Bool := Numeral.isDigit c || c = '.' || c = '+' || c = '-'
  let closes (c : Char) : Bool := Numeral.isDigit c || c = '.'
  if body.head?.any begins && body.getLast?.any closes then
    match Binary64.readPrefix body with
    | some (x, []) => if x.isFinite then some (ofBinary x) else none
    | _ => none
  else none

namespace Value

/-- The value of a truth. -/
def ofBool (b : Bool) : Value := .number (if b then 1 else 0)

/-- The value of a count. -/
def ofNat (n : Nat) : Value := .number n.toFloat

/-- The number of a value. -/
def toNumber : Value → Float
  | .unset => 0
  | .number x => x
  | .text t | .input t => numberIn t

/-- The number that a value is, if it is one. -/
def number? : Value → Option Float
  | .unset => some 0
  | .number x => some x
  | .text _ => none
  | .input t => looksLike? t

/-- Whether a value counts as true. -/
def isTrue : Value → Bool
  | .unset => false
  | .number x => x != 0
  | .text t => !t.isEmpty
  | .input t => match looksLike? t with | some x => x != 0 | none => !t.isEmpty

end Value

/-! ### Printing by a format -/

namespace Printing

/-- What is wrong with a format: there are fewer values than it takes, or it has a directive that
means nothing, of which the number is told. -/
inductive Flaw
  | tooFew
  | improper (number : Nat)
deriving DecidableEq

/-- A whole number as it is told. -/
def whole? (x : Float) : Option ByteText :=
  match integer? x with
  | some n => if n ≤ twoTo 64 ∧ -(twoTo 63) ≤ n then some (Numeral.integer (min n maxWord)) else none
  | none => none

/-- A number in the layout of a directive. -/
def real (l : Layout) (kind : Char) (x : Float) : ByteText :=
  match toBinary x with
  | .nan => l.pad (chars (if kind.isUpper then "-NAN" else "-nan"))
  | y => l.real kind y

/-- A number told by a format with a single directive for numbers. -/
def byFormat (format : ByteText) (x : Float) : ByteText :=
  let start := format.takeWhile (· ≠ '%')
  match format.drop start.length with
  | _ :: rest =>
      let d := Format.readDirective rest
      let fixed : Format.Measure → Option Nat
        | .fixed n => some n
        | _ => none
      let l : Layout := ⟨d.flags, (fixed d.width).getD 0, fixed d.precision⟩
      match d.rest.dropWhile (· = 'l') with
      | kind :: after =>
          let shown := match kind with
            | 'd' | 'i' => l.integer (toInteger x)
            | _ => real l kind x
          start ++ shown ++ after
      | [] => format
  | [] => format

/-- A number as a text. -/
def numberText (format : ByteText) (x : Float) : ByteText :=
  match whole? x with
  | some text => text
  | none => byFormat format x

/-- The text of a value. -/
def toText (format : ByteText) : Value → ByteText
  | .unset => []
  | .number x => numberText format x
  | .text t | .input t => t

/-- The order of two values: that of numbers where both are numbers, and that of texts otherwise;
nothing is ordered with what is no number at all. -/
def order (format : ByteText) (a b : Value) : Option Ordering :=
  match a.number?, b.number? with
  | some x, some y =>
      if x < y then some .lt else if y < x then some .gt else if x == y then some .eq else none
  | _, _ =>
      let s := toText format a
      let t := toText format b
      some (if s < t then .lt else if t < s then .gt else .eq)

/-- Whether a comparison holds. -/
def holds (how : Comparison) (order : Option Ordering) : Bool :=
  match how with
  | .less => order = some .lt
  | .atMost => order = some .lt || order = some .eq
  | .equal => order = some .eq
  | .unequal => order ≠ some .eq
  | .atLeast => order = some .gt || order = some .eq
  | .greater => order = some .gt

/-- The first value, and those behind it. -/
def take (values : List Value) : Except Flaw (Value × List Value) :=
  match values with
  | v :: rest => .ok (v, rest)
  | [] => .error .tooFew

/-- The number that a measure is, with the values that are left. -/
def measure (m : Format.Measure) (values : List Value) : Except Flaw (Option Int × List Value) :=
  match m with
  | .absent => .ok (none, values)
  | .fixed n => .ok (some n, values)
  | .given => (take values).map fun (v, rest) => (some (toInteger v.toNumber), rest)

/-- A value in the way that a letter tells; nothing if the letter means nothing. -/
def shown (format : ByteText) (l : Layout) (kind : Char) (v : Value) : Option ByteText :=
  match kind with
  | 's' => some (l.text (toText format v))
  | 'c' =>
      let char : Char := match v with
        | .number x => Char.ofNat (toInteger x % 256).toNat
        | v => (toText format v).headD '\x00'
      some (l.pad [char])
  | 'd' | 'i' => some (l.integer (toInteger v.toNumber))
  | 'o' | 'x' | 'X' | 'u' => some (l.word kind (toInteger v.toNumber % twoTo 64).toNat)
  | 'e' | 'g' | 'f' | 'E' | 'G' => some (real l kind v.toNumber)
  | _ => none

/-- Print values by a format, with the number of the directive: what was printed, last character
first, and what is wrong. -/
def printFrom (numbers : ByteText) : Nat → Nat → ByteText → ByteText → List Value →
    ByteText × Option Flaw
  | 0, _, done, _, _ => (done, none)
  | _, _, done, [], _ => (done, none)
  | room + 1, number, done, '%' :: '%' :: rest, values =>
      printFrom numbers room number ('%' :: done) rest values
  | room + 1, number, done, '%' :: rest, values =>
      let d := Format.readDirective rest
      let laid : Except Flaw (Layout × Value × List Value) := do
        let (width, values) ← measure d.width values
        let (precision, values) ← measure d.precision values
        let (v, values) ← take values
        let l := (⟨d.flags, 0, none⟩ : Layout).withWidth (width.getD 0)
        .ok ((match precision with | some n => l.withPrecision n | none => l), v, values)
      match laid with
      | .error flaw => (done, some flaw)
      | .ok (l, v, values) =>
          let isLong (c : Char) : Bool := c = 'l' || c = 'h'
          match d.rest.dropWhile isLong with
          | [] => (done, some (.improper number))
          | kind :: rest =>
              match shown numbers l kind v with
              | some text =>
                  printFrom numbers room (number + 1) (text.reverse ++ done) rest values
              | none => (done, some (.improper number))
  | room + 1, number, done, c :: rest, values =>
      printFrom numbers room number (c :: done) rest values

/-- Print values by a format; numbers among them are told by another one. -/
def print (numbers format : ByteText) (values : List Value) : ByteText × Option Flaw :=
  let (done, flaw) := printFrom numbers (format.length + 1) 1 [] format values
  (done.reverse, flaw)

end Printing

end AssemblyGate.Rules
