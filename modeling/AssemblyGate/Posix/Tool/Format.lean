/-
**Printing by a format.**

A format is text with directives in it, each of which takes the next value.  It is used again as
long as there are values left.  A value that is no number is told about and counts as far as it is
one.

Main definitions:

* `AssemblyGate.Format.readDirective` — a directive;
* `AssemblyGate.Format.print` — values printed by a format;
* `AssemblyGate.Tool.printf` — the tool.
-/
import AssemblyGate.Posix.Tool.Escape

set_option autoImplicit false

namespace AssemblyGate

namespace Format

/-! ### Directives -/

/-- A width or a precision: none, a number, or one that is given as a value. -/
inductive Measure
  | absent
  | fixed (n : Nat)
  | given
deriving DecidableEq

/-- A directive: its flags, its width, its precision, and what of the format follows them. -/
structure Directive where
  flags : List Char
  width : Measure
  precision : Measure
  rest : ByteText

/-- Whether a character is a flag. -/
def isFlag (c : Char) : Bool := c = '#' || c = '-' || c = '+' || c = ' ' || c = '0'

/-- A width at the front of a text, and what follows it. -/
def readMeasure (empty : Measure) (input : ByteText) : Measure × ByteText :=
  match input with
  | '*' :: rest => (.given, rest)
  | _ =>
      match input.span Numeral.isDigit with
      | ([], rest) => (empty, rest)
      | (digits, rest) => (.fixed (Numeral.ofDigits digits), rest)

/-- The directive behind a percent sign. -/
def readDirective (input : ByteText) : Directive :=
  let (flags, rest) := input.span isFlag
  let (width, rest) := readMeasure .absent rest
  match rest with
  | '.' :: rest =>
      let (precision, rest) := readMeasure (.fixed 0) rest
      ⟨flags, width, precision, rest⟩
  | _ => ⟨flags, width, .absent, rest⟩

/-! ### Values -/

/-- The number of a character behind a quote, which a value may be. -/
def quotedChar? (value : ByteText) : Option Nat :=
  match value with
  | '\x27' :: rest | '"' :: rest => some ((rest.map Char.toNat).headD 0)
  | _ => none

/-- What is told of a value that is only partly a number. -/
def remains (value rest : ByteText) (isNumber : Bool) : List ByteText :=
  if rest.isEmpty then []
  else if isNumber then [value ++ chars ": not completely converted"]
  else [value ++ chars ": expected numeric value"]

/-- What is told of a value that is out of range. -/
def outOfRange (value : ByteText) : ByteText := value ++ chars ": Numerical result out of range"

/-- The integer at the front of a value, in the base that its first characters tell, and what
follows it, if there is one. -/
def readInteger (value : ByteText) : Option (Int × ByteText) :=
  let start := value.dropWhile fun c => c = ' ' || ('\t' ≤ c && c ≤ '\r')
  let (negative, body) := match start with
    | '-' :: rest => (true, rest)
    | '+' :: rest => (false, rest)
    | _ => (false, start)
  let digits (base : Nat) (text : ByteText) : Option (Nat × ByteText) :=
    let found := text.takeWhile fun c => (Numeral.hexDigit? c).any (· < base)
    if found.isEmpty then none
    else some (found.foldl (fun n c => n * base + (Numeral.hexDigit? c).getD 0) 0,
      text.drop found.length)
  let read : Option (Nat × ByteText) := match body with
    | '0' :: 'x' :: rest | '0' :: 'X' :: rest => (digits 16 rest).orElse fun _ =>
        some (0, body.tail)
    | '0' :: _ => digits 8 body
    | _ => digits 10 body
  read.map fun (n, rest) => (if negative then -(n : Int) else n, rest)

/-- The integer that a value denotes, brought into a range, and what is told about it. -/
def integer (low high : Int) (value : ByteText) : Int × List ByteText :=
  match quotedChar? value with
  | some n => (n, [])
  | none =>
      match readInteger value with
      | none => (0, remains value value false)
      | some (n, rest) =>
          let bounded := max low (min high n)
          (bounded, if rest.isEmpty && bounded ≠ n then [outOfRange value]
            else remains value rest true)

/-- The floating point number that a value denotes, and what is told about it. -/
def real (value : ByteText) : Binary64 × List ByteText :=
  match quotedChar? value with
  | some n => (.ofNat n, [])
  | none =>
      match Binary64.readPrefix value with
      | none => (.zero false, remains value value false)
      | some (x, rest) =>
          let isNamed := value.any fun c => c = 'n' || c = 'N'
          (x, if rest.isEmpty && x.isInfinite && !isNamed then [outOfRange value]
            else remains value rest true)

/-! ### Printing -/

/-- The work of printing: what was printed, last character first, what was told, last first, and the
values that are left. -/
structure Work where
  done : ByteText
  told : List ByteText
  values : List ByteText

/-- Print a text. -/
def Work.say (w : Work) (text : ByteText) : Work := { w with done := text.reverse ++ w.done }

/-- Tell about a value. -/
def Work.tell (w : Work) (texts : List ByteText) : Work := { w with told := texts.reverse ++ w.told }

/-- The next value, which is empty if there is none. -/
def Work.next (w : Work) : ByteText × Work := (w.values.headD [], { w with values := w.values.tail })

/-- How printing ended: with the format, before its end, or with what is wrong with it. -/
inductive End
  | finished
  | stopped
  | wrong (text : ByteText)
deriving DecidableEq

/-- The smallest integer of 64 bits. -/
def minInteger : Int := -(twoTo 63)

/-- The largest integer of 64 bits. -/
def maxInteger : Int := twoTo 63 - 1

/-- The number that a measure is, with the work after it. -/
def Measure.resolve (measure : Measure) (w : Work) : Option Int × Work :=
  match measure with
  | .absent => (none, w)
  | .fixed n => (some n, w)
  | .given =>
      let (value, w) := w.next
      let (n, told) := integer minInteger maxInteger value
      (some n, w.tell told)

/-- The layout of a directive, with the work after the values it takes. -/
def Directive.layout (d : Directive) (w : Work) : Layout × Work :=
  let (width, w) := d.width.resolve w
  let (precision, w) := d.precision.resolve w
  let l := (⟨d.flags, 0, none⟩ : Layout).withWidth (width.getD 0)
  (match precision with | some n => l.withPrecision n | none => l, w)

/-- Print the next value in the way that a letter tells; nothing if the letter means nothing. -/
def printValue (l : Layout) (kind : Char) (w : Work) : Option (Work × Bool) :=
  let (value, w) := w.next
  match kind with
  | 's' => some (w.say (l.text value), true)
  | 'c' =>
      some (w.say (l.pad (if value.isEmpty then ['\x00'] else value.take 1)), true)
  | 'b' =>
      let (text, goesOn) := Escape.resolve value
      some (w.say (l.text text), goesOn)
  | 'd' | 'i' =>
      let (n, told) := integer minInteger maxInteger value
      some ((w.tell told).say (l.integer n), true)
  | 'o' | 'u' | 'x' | 'X' =>
      let (n, told) := integer (1 - twoTo 64) (twoTo 64 - 1) value
      some ((w.tell told).say (l.word kind (n % twoTo 64).toNat), true)
  | 'a' | 'A' | 'e' | 'E' | 'f' | 'F' | 'g' | 'G' =>
      let (x, told) := real value
      some ((w.tell told).say (l.real kind x), true)
  | _ => none

/-- Print a format once. -/
def printOnce : Nat → ByteText → Work → Work × End
  | 0, _, w => (w, .finished)
  | _, [], w => (w, .finished)
  | room + 1, '\\' :: rest, w =>
      let (byte, rest) := Escape.read rest
      printOnce room rest (w.say [byte])
  | room + 1, '%' :: '%' :: rest, w => printOnce room rest (w.say ['%'])
  | room + 1, '%' :: rest, w =>
      let d := readDirective rest
      let (l, w) := d.layout w
      match d.rest with
      | [] => (w, .wrong (chars "missing format character"))
      | kind :: after =>
          match printValue l kind w with
          | some (w, true) => printOnce room after w
          | some (w, false) => (w, .stopped)
          | none =>
              let read := rest.take (rest.length - after.length)
              (w, .wrong ('%' :: read ++ chars ": invalid directive"))
  | room + 1, c :: rest, w => printOnce room rest (w.say [c])

/-- Print a format as often as there are values. -/
def printAll (format : ByteText) : Nat → Work → Work × End
  | 0, w => (w, .finished)
  | room + 1, w =>
      match printOnce (format.length + 1) format w with
      | (after, .finished) =>
          if after.values.isEmpty || after.values.length = w.values.length then (after, .finished)
          else printAll format room after
      | other => other

/-- Print values by a format. -/
def print (format : ByteText) (values : List ByteText) : Work × End :=
  printAll format (values.length + 1) ⟨[], [], values⟩

end Format

/-- Say values by a format. -/
def Tool.printf : Tool := fun t m =>
  let wrong (text : ByteText) : Effect := .failed m (t.complain text) 2
  let work (format : ByteText) (values : List ByteText) : Effect :=
    let (w, ending) := Format.print format values
    let told := w.told.reverse.map t.complain
    let said : Remark := ⟨false, w.done.reverse⟩
    match ending with
    | .wrong text => .ended m (told ++ [t.complain text, said]) 2
    | _ => .ended m (told ++ [said]) (if told.isEmpty then 0 else 1)
  match t.arguments with
  | ['-', '-'] :: format :: values => work format values
  | ('-' :: c :: _) :: _ =>
      if c = '-' then wrong (chars "usage: printf format [arg ...]")
      else wrong (chars "Illegal option -" ++ [c])
  | format :: values => work format values
  | [] => wrong (chars "usage: printf format [arg ...]")

end AssemblyGate
