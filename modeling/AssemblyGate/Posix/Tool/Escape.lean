/-
**Escapes and layouts.**

A backslash and what follows it stand for one byte.  A value is laid out in a text by a width, a
precision and some flags.

Main definitions:

* `AssemblyGate.Escape.read`, `AssemblyGate.Escape.resolve` — escapes;
* `AssemblyGate.Layout` — how values are laid out;
* `AssemblyGate.Layout.text`, `AssemblyGate.Layout.integer`, `AssemblyGate.Layout.real` — values
  laid out.
-/
import AssemblyGate.Number.Notation
import AssemblyGate.Posix.Tool.Basic

set_option autoImplicit false

namespace AssemblyGate

namespace Escape

/-- The value of an octal digit. -/
def octalDigit? (c : Char) : Option Nat :=
  if '0' ≤ c ∧ c ≤ '7' then some (c.toNat - '0'.toNat) else none

/-- The byte of up to `room` octal digits, and what follows them. -/
def readOctal : Nat → Nat → ByteText → Char × ByteText
  | 0, n, input => (Char.ofNat (n % 256), input)
  | _, n, [] => (Char.ofNat (n % 256), [])
  | room + 1, n, c :: rest =>
      match octalDigit? c with
      | some d => readOctal room (n * 8 + d) rest
      | none => (Char.ofNat (n % 256), c :: rest)

/-- The bytes of single letters after a backslash. -/
def letters : List (Char × Char) :=
  [('a', '\x07'), ('b', '\x08'), ('e', '\x1b'), ('f', '\x0c'), ('n', '\n'), ('r', '\r'),
    ('t', '\t'),
    ('v', '\x0b'), ('\\', '\\')]

/-- What follows a backslash, read: the byte it stands for and the rest.  Before what means nothing
the backslash stands for itself. -/
def read (input : ByteText) : Char × ByteText :=
  match input with
  | [] => ('\\', [])
  | c :: rest =>
      match letters.find? fun e => e.1 == c with
      | some (_, byte) => (byte, rest)
      | none => if (octalDigit? c).isSome then readOctal 3 0 input else ('\\', input)

/-- A text with its escapes resolved, and whether printing goes on after it: an escape may end it.
After a zero there may be three more octal digits. -/
def resolveFrom : Nat → ByteText → ByteText → ByteText × Bool
  | 0, done, _ => (done.reverse, true)
  | _, done, [] => (done.reverse, true)
  | room + 1, done, '\\' :: rest =>
      match rest with
      | 'c' :: _ => (done.reverse, false)
      | _ =>
          let start := match rest with
            | '0' :: d :: more => if (octalDigit? d).isSome then d :: more else rest
            | _ => rest
          let (byte, rest) := read start
          resolveFrom room (byte :: done) rest
  | room + 1, done, c :: rest => resolveFrom room (c :: done) rest

/-- A text with its escapes resolved, and whether printing goes on after it. -/
def resolve (text : ByteText) : ByteText × Bool := resolveFrom (text.length + 1) [] text

end Escape

/-! ### Layouts -/

/-- How a value is laid out: its flags, its least width, and its precision. -/
structure Layout where
  flags : List Char
  width : Nat
  precision : Option Nat
deriving DecidableEq

namespace Layout

/-- Whether a flag is set. -/
def has (l : Layout) (flag : Char) : Bool := l.flags.contains flag

/-- A layout with a width that is given as a value; a negative one aligns to the left. -/
def withWidth (l : Layout) (width : Int) : Layout :=
  { l with
    flags := if width < 0 then '-' :: l.flags else l.flags
    width := width.natAbs }

/-- A layout with a precision that is given as a value; a negative one is none. -/
def withPrecision (l : Layout) (precision : Int) : Layout :=
  { l with precision := if precision < 0 then none else some precision.toNat }

/-- A text brought to the width of a layout. -/
def pad (l : Layout) (text : ByteText) : ByteText :=
  if l.has '-' then alignLeft l.width text else alignRight l.width text

/-- A text laid out. -/
def text (l : Layout) (value : ByteText) : ByteText :=
  l.pad (match l.precision with | some n => value.take n | none => value)

/-- Digits behind a sign brought to the width of a layout, with zeros between if it asks for
them. -/
def digits (l : Layout) (zeros : Bool) (sign digits : ByteText) : ByteText :=
  if zeros && l.has '0' && !l.has '-' then
    sign ++ List.replicate (l.width - sign.length - digits.length) '0' ++ digits
  else l.pad (sign ++ digits)

/-- Digits brought to the precision of a layout; zero has none where the precision is zero. -/
def precise (l : Layout) (isZero : Bool) (digits : ByteText) : ByteText :=
  match l.precision with
  | none => digits
  | some n =>
      if isZero && n = 0 then [] else List.replicate (n - digits.length) '0' ++ digits

/-- The sign in front of a number. -/
def sign (l : Layout) (negative : Bool) : ByteText :=
  if negative then ['-'] else if l.has '+' then ['+'] else if l.has ' ' then [' '] else []

/-- An integer laid out. -/
def integer (l : Layout) (n : Int) : ByteText :=
  l.digits l.precision.isNone (l.sign (n < 0)) (l.precise (n = 0) (Numeral.decimal n.natAbs))

/-- A word of 64 bits laid out in the way that a letter tells. -/
def word (l : Layout) (kind : Char) (n : Nat) : ByteText :=
  let zeros := l.precision.isNone
  let marked := l.has '#' && n ≠ 0
  match kind with
  | 'x' => l.digits zeros (if marked then ['0', 'x']
      else []) (l.precise (n = 0) (Nat.toDigits 16 n))
  | 'X' =>
      l.digits zeros (if marked then ['0', 'X'] else [])
        (l.precise (n = 0) ((Nat.toDigits 16 n).map Char.toUpper))
  | 'o' =>
      let digits := l.precise (n = 0) (Nat.toDigits 8 n)
      l.digits zeros [] (if l.has '#' && digits.head? ≠ some '0' then '0' :: digits else digits)
  | _ => l.digits zeros [] (l.precise (n = 0) (Numeral.decimal n))

/-- A floating point number laid out in the way that a letter tells. -/
def real (l : Layout) (kind : Char) (x : Binary64) : ByteText :=
  let isCapital := kind.isUpper
  let cased (text : ByteText) : ByteText := if isCapital then text.map Char.toUpper else text
  match x with
  | .nan => { l with flags := l.flags.filter (· ≠ '0') }.digits false (l.sign false) (cased (chars "nan"))
  | .infinite s =>
      { l with flags := l.flags.filter (· ≠ '0') }.digits false (l.sign s) (cased (chars "inf"))
  | .finite s m e =>
      let places := l.precision.getD 6
      let hasPoint := l.has '#'
      let body : ByteText := match kind.toLower with
        | 'f' => Binary64.fixed places hasPoint m e
        | 'e' => Binary64.scientific places hasPoint 'e' m e
        | 'g' => Binary64.general places hasPoint 'e' m e
        | _ => Binary64.hexadecimal l.precision m e
      l.digits true (l.sign s) (cased body)

end Layout

end AssemblyGate
