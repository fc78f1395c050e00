/-
**Tools that print.**

Tools that say texts which do not come from any file: their arguments, numbers, parts of paths,
variables of the environment.

Main definitions: one tool each, named as it is called.
-/
import AssemblyGate.Posix.Tool.Format

set_option autoImplicit false

namespace AssemblyGate.Tool

/-- The options at the front of the arguments of `echo`: whether a line end follows, whether escapes
are resolved, and the words. -/
def echoOptions : Bool → Bool → List ByteText → Bool × Bool × List ByteText
  | hasEnd, resolves, ('-' :: c :: letters) :: rest =>
      let all := c :: letters
      if all.all fun c => c = 'n' || c = 'e' || c = 'E' then
        echoOptions (hasEnd && !all.contains 'n')
          (match all.reverse.find? (· ≠ 'n') with | some c => c = 'e' | none => resolves) rest
      else (hasEnd, resolves, ('-' :: all) :: rest)
  | hasEnd, resolves, words => (hasEnd, resolves, words)

/-- Say the arguments, with blanks between them and a line end after them. -/
def echo : Tool := fun t m =>
  let (hasEnd, resolves, words) := echoOptions true false t.arguments
  let text := joinWith [' '] words
  let (text, goesOn) := if resolves then Escape.resolve text else (text, true)
  .say m (text ++ if hasEnd && goesOn then ['\n'] else [])

/-- Succeed. -/
def succeed : Tool := fun _ m => .quiet m 0

/-- Fail. -/
def failing : Tool := fun _ m => .quiet m 1

/-- Say where the tool is. -/
def pwd : Tool := fun _ m => .say m (m.currentPath ++ ['\n'])

/-- Say the values of variables of the environment. -/
def printenv : Tool := fun t m =>
  t.withOptions ⟨"0", [("null", '0')], false⟩ 2 m fun o =>
    let ending : Char := if o.has '0' then '\x00' else '\n'
    let lines (texts : List ByteText) : ByteText := texts.flatMap fun x => x ++ [ending]
    if o.operands.isEmpty then
      .say m (lines (t.environment.map fun (name, value) => name ++ '=' :: value))
    else
      let found := o.operands.map fun name => (t.environment.find? fun e => e.1 == name).map (·.2)
      .ended m [⟨false, lines (found.filterMap id)⟩] (if found.all (·.isSome) then 0 else 1)

/-- Say the arguments without end. -/
def yes : Tool := fun t m =>
  let words := if t.arguments.isEmpty then [['y']] else t.arguments
  let line := joinWith [' '] words ++ ['\n']
  { Effect.say m (List.replicate (Machine.endless / line.length + 1) line).flatten with
    isEndless := true }

/-! ### Numbers -/

/-- A decimal: its digits as one integer, and how many of them stand behind the point. -/
def decimal? (text : ByteText) : Option (Int × Nat) :=
  let (negative, body) := match text with
    | '-' :: rest => (true, rest)
    | '+' :: rest => (false, rest)
    | rest => (false, rest)
  let whole := body.takeWhile Numeral.isDigit
  let rest := body.drop whole.length
  let places := (rest.drop 1).takeWhile Numeral.isDigit
  if (rest.isEmpty || rest.head? = some '.' && rest.length = places.length + 1)
      && !(whole.isEmpty && places.isEmpty) then
    let n : Int := Numeral.ofDigits (whole ++ places)
    some (if negative then -n else n, places.length)
  else none

/-- A decimal written out. -/
def decimalText (places : Nat) (n : Int) : ByteText :=
  (if n < 0 then ['-'] else []) ++ Binary64.pointed places false n.natAbs

/-- A decimal behind blanks, with a power of ten behind it or without. -/
def scaledDecimal? (text : ByteText) : Option (Int × Nat) :=
  let body := text.dropWhile fun c => c = ' ' || ('\t' ≤ c && c ≤ '\r')
  let digits := body.takeWhile fun c => c ≠ 'e' && c ≠ 'E'
  match decimal? digits, body.drop digits.length with
  | some found, [] => some found
  | some (n, places), _ :: power =>
      (Numeral.signed? power).bind fun power =>
        if power < -300 || 300 < power then none
        else
          let behind := places - power
          if 0 ≤ behind then some (n, behind.toNat) else some (n * tenTo behind.natAbs, 0)
  | none, _ => none

/-- What an argument is among those in front of numbers: an operand or the mark in front of
operands, a negative number, or options, of which the last one may take the next argument. -/
inductive SeqWord
  | last
  | negative
  | options (takesNext : Bool)

/-- What an argument is among those in front of numbers. -/
def seqWord (argument : ByteText) : SeqWord :=
  match argument with
  | '-' :: '-' :: name =>
      if name.isEmpty then .last else .options (name = chars "separator" || name = chars "format")
  | '-' :: c :: letters =>
      if Numeral.isDigit c || c = '.' then .negative
      else
        let last := (c :: letters).getLast?
        .options (last = some 's' || last = some 'f')
  | _ => .last

/-- Arguments in which two hyphens stand in front of an operand that is a negative number. -/
def beforeNumbers : List ByteText → List ByteText
  | [] => []
  | argument :: rest =>
      match seqWord argument with
      | .last => argument :: rest
      | .negative => ['-', '-'] :: argument :: rest
      | .options false => argument :: beforeNumbers rest
      | .options true =>
          match rest with
          | [] => [argument]
          | value :: rest => argument :: value :: beforeNumbers rest

/-- What is wrong with a format for numbers, if anything: it has to hold one directive for a
number. -/
def formatFlaw? (form : ByteText) : Nat → Bool → ByteText → Option ByteText
  | 0, _, _ => none
  | _, false, [] => some (chars " has no % directive")
  | _, true, [] => none
  | room + 1, isFound, '%' :: '%' :: rest => formatFlaw? form room isFound rest
  | room + 1, isFound, '%' :: rest =>
      let behind := (rest.dropWhile fun c =>
        "-+#0 \x27".toList.contains c).dropWhile Numeral.isDigit
      let behind := match behind with
        | '.' :: more => more.dropWhile Numeral.isDigit
        | more => more
      let behind := if behind.head? = some 'L' then behind.tail else behind
      if isFound then some (chars " has too many % directives")
      else
        match behind with
        | [] => some (chars " ends in %")
        | c :: more =>
            if "efgaEFGA".toList.contains c then formatFlaw? form room true more
            else some (chars " has unknown %" ++ c :: chars " directive")
  | room + 1, isFound, _ :: rest => formatFlaw? form room isFound rest

/-- Say the numbers from a first to a last one. -/
def seq : Tool := fun t m =>
  let form : OptionForm :=
    ⟨"s:wf:", [("separator", 's'), ("equal-width", 'w'), ("format", 'f')], false⟩
  { t with arguments := beforeNumbers t.arguments }.withOptions form 1 m fun o =>
    let between := (o.value? 's').getD ['\n']
    match o.operands with
    | [] => t.missing m 1
    | [_, _, _, extra] => t.extra m extra 1
    | operands =>
        let flaw := (o.value? 'f').bind fun form =>
          (formatFlaw? form (form.length + 1) false form).map fun text =>
            chars "format " ++ inQuotes form ++ text
        match flaw, operands.find? fun a => (scaledDecimal? a).isNone with
        | some text, _ => .failed m (t.complain text) 1
        | none, some wrong =>
            .failed m (t.misuse (chars "invalid floating point argument: " ++
              inPlainQuotes wrong)) 1
        | none, none =>
            let numbers := operands.filterMap scaledDecimal?
            let (first, step, last) := match numbers with
              | [last] => (((1 : Int), 0), ((1 : Int), 0), last)
              | [first, last] => (first, (1, 0), last)
              | first :: step :: last :: _ => (first, step, last)
              | [] => ((1, 0), (1, 0), (0, 0))
            let places := max first.2 step.2
            let scale := max places last.2
            let scaled (n : Int × Nat) : Int := n.1 * tenTo (scale - n.2)
            let (a, s, b) := (scaled first, scaled step, scaled last)
            if s = 0 then
              .failed m (t.misuse (chars "invalid Zero increment value: "
                ++ inPlainQuotes ((operands[1]?).getD []))) 1
            else
              let count := if s > 0 then ((b - a) / s + 1).toNat else ((a - b) / (-s) + 1).toNat
              let count := min count Machine.endless
              let texts := (List.range count).map fun (i : Nat) =>
                decimalText places ((a + s * i) / tenTo (scale - places))
              let width := if o.has 'w' then (texts.map List.length).foldl max 0 else 0
              let wide (text : ByteText) : ByteText :=
                let zeros := List.replicate (width - text.length) '0'
                match text with
                | '-' :: rest => '-' :: zeros ++ rest
                | rest => zeros ++ rest
              let formatted (text : ByteText) : ByteText := match o.value? 'f' with
                | some form => (Format.print form [text]).1.done.reverse
                | none => wide text
              let said := joinWith between (texts.map formatted)
              .say m (if texts.isEmpty then [] else said ++ ['\n'])

/-- Wait. -/
def sleep : Tool := fun t m =>
  let durations := t.arguments.map fun a =>
    let number := a.takeWhile fun c => Numeral.isDigit c || c = '.'
    let factor : Option Nat := match a.drop number.length with
      | [] | ['s'] => some 1
      | ['m'] => some 60
      | ['h'] => some 3600
      | ['d'] => some 86400
      | _ => none
    match decimal? number, factor with
    | some (n, places), some f => some (n.toNat * f * 1000000 / tenTo places)
    | _, _ => if a = chars "infinity" || a = chars "inf" then some (tenTo 15) else none
  match t.arguments, (t.arguments.zip durations).find? fun e => e.2.isNone with
  | [], _ => t.missing m 1
  | _, some (wrong, _) =>
      .failed m (t.misuse (chars "invalid time interval " ++ inPlainQuotes wrong)) 1
  | _, none =>
      { Effect.quiet m 0 with waited := (durations.filterMap id).foldl (· + ·) 0 }

/-! ### Paths -/

/-- The last name of a path, as it is told: slashes alone are one slash. -/
def shownName (path : ByteText) : ByteText :=
  if path.isEmpty then [] else if (FileTree.namesIn path).isEmpty then ['/'] else lastName path

/-- A name without an ending that is not all of it. -/
def withoutEnding (ending name : ByteText) : ByteText :=
  let cut := name.take (name.length - ending.length)
  if !cut.isEmpty && cut ++ ending = name then cut else name

/-- Say the last names of paths, without an ending. -/
def basename : Tool := fun t m =>
  t.withOptions ⟨"as:z", [("multiple", 'a'), ("suffix", 's'), ("zero", 'z')], false⟩ 1 m fun o =>
    let ended (names : List ByteText) : Effect :=
      .say m (names.flatMap fun n => n ++ [if o.has 'z' then '\x00' else '\n'])
    let cut (path : ByteText) : ByteText := withoutEnding ((o.value? 's').getD []) (shownName path)
    match o.operands with
    | [] => t.missing m 1
    | [path] => ended [cut path]
    | operands =>
        if o.has 'a' || o.has 's' then ended (operands.map cut)
        else
          match operands with
          | [path, ending] => ended [withoutEnding ending (shownName path)]
          | _ => t.extra m ((operands[2]?).getD []) 1

/-- A path without its last name. -/
def above (path : ByteText) : ByteText :=
  let trim (path : ByteText) : ByteText := (path.reverse.dropWhile (· = '/')).reverse
  let rest := ((trim path).reverse.dropWhile (· ≠ '/')).reverse
  if rest.isEmpty then (if path.head? = some '/' then ['/'] else ['.'])
  else if (trim rest).isEmpty then ['/'] else trim rest

/-- Say paths without their last names. -/
def dirname : Tool := fun t m =>
  t.withOptions ⟨"z", [("zero", 'z')], false⟩ 1 m fun o =>
    if o.operands.isEmpty then t.missing m 1
    else .say m ((o.operands.map above).flatMap fun p => p ++ [if o.has 'z' then '\x00' else '\n'])

end AssemblyGate.Tool
