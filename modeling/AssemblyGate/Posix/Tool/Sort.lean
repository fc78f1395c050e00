/-
**Tools that put lines in order.**

Lines are compared by keys, parts of them that are compared as texts, as numbers or in some other
way, and at last as a whole.

Main definitions:

* `AssemblyGate.SortKey` — a key;
* `AssemblyGate.SortKey.read` — the key that a text spells;
* `AssemblyGate.Tool.sort`, `AssemblyGate.Tool.uniq` — the tools.
-/
import AssemblyGate.Posix.Tool.Text

set_option autoImplicit false

namespace AssemblyGate

/-- A place in a line: a field, counted from zero, and a character in it. -/
structure SortSpot where
  field : Nat
  char : Nat
deriving DecidableEq

/-- A key: where it begins, where it ends, if it does before the line, and the letters that tell how
it is compared. -/
structure SortKey where
  start : SortSpot
  stop : Option SortSpot
  flags : List Char
deriving DecidableEq

namespace SortKey

/-- Whether a character is a blank. -/
def isBlank (c : Char) : Bool := c = ' ' || c = '\t'

/-- The letters that tell how a key is compared. -/
def flagLetters : List Char := ['b', 'd', 'f', 'g', 'h', 'i', 'M', 'n', 'R', 'r', 'V']

/-- The number at the front of a text and what follows it, or what is told of a text without one. -/
def readCount (what : String) (text : ByteText) : Except ByteText (Nat × ByteText) :=
  let body := if text.head? = some '+' then text.tail else text
  let digits := body.takeWhile Numeral.isDigit
  if digits.isEmpty then
    .error (chars ("invalid number " ++ what ++ ": invalid count at start of ") ++
      inPlainQuotes text)
  else .ok (Numeral.ofDigits digits, body.drop digits.length)

/-- What is told of a key that is spelled wrong. -/
def wrongKey {α : Type} (what : String) (whole : ByteText) : Except ByteText α :=
  .error (chars (what ++ ": invalid field specification ") ++ inPlainQuotes whole)

/-- The key that a text spells, or what is wrong with it. -/
def read (whole : ByteText) : Except ByteText SortKey := do
  let (field, rest) ← readCount "at field start" whole
  if field = 0 then wrongKey "field number is zero" whole
  else
    let (char, rest) ← match rest with
      | '.' :: rest => readCount "after '.'" rest
      | rest => .ok (1, rest)
    if char = 0 then wrongKey "character offset is zero" whole
    else
      let flags := rest.takeWhile flagLetters.contains
      let start : SortSpot := ⟨field - 1, char - 1⟩
      match rest.drop flags.length with
      | [] => .ok ⟨start, none, flags⟩
      | ',' :: rest =>
          let (field, rest) ← readCount "after ','" rest
          if field = 0 then wrongKey "field number is zero" whole
          else
            let (char, rest) ← match rest with
              | '.' :: rest => readCount "after '.'" rest
              | rest => .ok (0, rest)
            let others := rest.takeWhile flagLetters.contains
            if others.length = rest.length then
              .ok ⟨start, some ⟨field - 1, char⟩, flags ++ others⟩
            else wrongKey "stray character in field spec" whole
      | _ => wrongKey "stray character in field spec" whole

/-! ### Parts of lines -/

/-- The rest of a line behind so many fields. -/
def skipFields (mark : Option Char) (keepsMark : Bool) : Nat → ByteText → ByteText
  | 0, line => line
  | count + 1, line =>
      match mark with
      | some c =>
          let rest := line.dropWhile (· ≠ c)
          if count = 0 && keepsMark then rest
          else skipFields mark keepsMark count (rest.drop 1)
      | none =>
          skipFields mark keepsMark count ((line.dropWhile isBlank).dropWhile fun c => !isBlank c)

/-- The part of a line that a key is about. -/
def part (mark : Option Char) (k : SortKey) (line : ByteText) : ByteText :=
  let skips := k.flags.contains 'b'
  let begun := skipFields mark false k.start.field line
  let begun := (if skips then begun.dropWhile isBlank else begun).drop k.start.char
  match k.stop with
  | none => begun
  | some stop =>
      let behind :=
        if stop.char = 0 then skipFields mark true (stop.field + 1) line
        else
          let rest := skipFields mark false stop.field line
          (if skips then rest.dropWhile isBlank else rest).drop stop.char
      begun.take (begun.length - behind.length)

/-! ### Comparing -/

/-- The decimal at the front of a text: its digits as one integer, and how many of them stand behind
the point. -/
def decimal (text : ByteText) : Int × Nat :=
  let start := text.dropWhile isBlank
  let (negative, body) := match start with
    | '-' :: rest => (true, rest)
    | rest => (false, rest)
  let whole := body.takeWhile Numeral.isDigit
  let places := match body.drop whole.length with
    | '.' :: rest => rest.takeWhile Numeral.isDigit
    | _ => []
  let n : Int := Numeral.ofDigits (whole ++ places)
  (if negative then -n else n, places.length)

/-- The order of two decimals. -/
def compareDecimals (a b : Int × Nat) : Ordering :=
  compare (a.1 * tenTo b.2) (b.1 * tenTo a.2)

/-- The order of two texts by their bytes. -/
def compareTexts (a b : ByteText) : Ordering :=
  if a < b then .lt else if b < a then .gt else .eq

/-- How much the letter of a unit behind a number weighs. -/
def unitWeight (text : ByteText) : Nat :=
  let rest := (text.dropWhile isBlank).dropWhile fun c => Numeral.isDigit c || c = '.' || c = '-'
  match rest with
  | c :: _ => (['k', 'K', 'M', 'G', 'T', 'P', 'E', 'Z', 'Y'].idxOf c + 1) % 10
  | [] => 0

/-- The months by the letters at the front of a text. -/
def month (text : ByteText) : Nat :=
  let name := ((text.dropWhile isBlank).take 3).map capitalLetter
  (["JAN", "FEB", "MAR", "APR", "MAY", "JUN", "JUL", "AUG", "SEP", "OCT", "NOV", "DEC"].idxOf
    (String.ofList name) + 1) % 13

/-- The order of two texts in which runs of digits count as numbers. -/
def compareVersions : Nat → ByteText → ByteText → Ordering
  | 0, _, _ => .eq
  | room + 1, a, b =>
      let isDigit := Numeral.isDigit
      let (x, a') := a.span fun c => !isDigit c
      let (y, b') := b.span fun c => !isDigit c
      match compareTexts x y with
      | .eq =>
          let (n, a') := a'.span isDigit
          let (k, b') := b'.span isDigit
          if n.isEmpty && k.isEmpty then .eq
          else
            match compare (Numeral.ofDigits n) (Numeral.ofDigits k) with
            | .eq => compareVersions room a' b'
            | other => other
      | other => other

/-- The order of two parts by the flags of a key, not turned round. -/
def compareParts (flags : List Char) (a b : ByteText) : Ordering :=
  if flags.contains 'n' then compareDecimals (decimal a) (decimal b)
  else if flags.contains 'h' then
    match compare (unitWeight a) (unitWeight b) with
    | .eq => compareDecimals (decimal a) (decimal b)
    | other => other
  else if flags.contains 'g' then
    match Binary64.readPrefix a, Binary64.readPrefix b with
    | some (x, _), some (y, _) => (Binary64.compare? x y).getD .eq
    | none, some _ => .lt
    | some _, none => .gt
    | none, none => .eq
  else if flags.contains 'M' then compare (month a) (month b)
  else if flags.contains 'V' then compareVersions (a.length + b.length + 1) a b
  else
    let kept (c : Char) : Bool :=
      (!flags.contains 'd' || isBlank c || (CharSet.inRanges CharSet.wordRanges c && c ≠ '_'))
        && (!flags.contains 'i' || (' ' ≤ c && c ≤ '~'))
    let shown (text : ByteText) : ByteText :=
      let text := text.filter kept
      if flags.contains 'f' then text.map capitalLetter else text
    compareTexts (shown a) (shown b)

/-- The order of two lines by a key. -/
def compareLines (mark : Option Char) (k : SortKey) (a b : ByteText) : Ordering :=
  let order := compareParts k.flags (part mark k a) (part mark k b)
  if k.flags.contains 'r' then order.swap else order

end SortKey

namespace Tool

/-- The lines before which no line stands that should come later; the first line out of order, with
its number. -/
def firstDisorder (before : ByteText → ByteText → Bool) : Nat → List ByteText →
    Option (Nat × ByteText)
  | n, a :: b :: rest => if before a b then firstDisorder before (n + 1) (b :: rest)
      else some (n + 1, b)
  | _, _ => none

/-- Of lines in order keep the first of those that count as the same. -/
def dropEqual (isSame : ByteText → ByteText → Bool) (lines : List ByteText) : List ByteText :=
  (lines.foldl
    (fun done line =>
      match done with
      | last :: _ => if isSame last line then done else line :: done
      | [] => [line])
    ([] : List ByteText)).reverse

/-- Say the lines of texts in order. -/
def sort : Tool := fun t m =>
  let form : OptionForm :=
    ⟨"bcCdfghik:mMno:rRsS:t:T:uVz", [("key", 'k'), ("field-separator", 't'), ("output", 'o'),
      ("numeric-sort", 'n'), ("reverse", 'r'), ("unique", 'u'), ("stable", 's'), ("check", 'c'),
      ("ignore-case", 'f'), ("ignore-leading-blanks", 'b'), ("dictionary-order", 'd'),
      ("general-numeric-sort", 'g'), ("human-numeric-sort", 'h'), ("month-sort", 'M'),
      ("version-sort", 'V'), ("merge", 'm'), ("zero-terminated", 'z')], true⟩
  t.withOptions form 2 m fun o =>
    let general := SortKey.flagLetters.filter o.has
    match (o.values 'k').mapM SortKey.read with
    | .error wrong => .failed m (t.complain wrong) 2
    | .ok keys =>
        let given := keys.map fun (k : SortKey) =>
          if k.flags.isEmpty then { k with flags := general } else k
        let keys : List SortKey := if given.isEmpty && !(general.filter (· ≠ 'r')).isEmpty then
            [⟨⟨0, 0⟩, none, general⟩]
          else given
        let sources := t.sources m o.operands
        match sources.find? fun (s : Task.Source) => !s.text.toBool with
        | some s =>
            let cause := match s.text with
              | .error e => chars (Errno.message e)
              | .ok _ => []
            let verb := if s.text matches .error 21 then "read failed: "
              else if s.isInput then "stat failed: " else "cannot read: "
            .failed m (t.complain (chars verb ++ inQuotesIfNeeded s.name ++ chars ": " ++ cause)) 2
        | none =>
            let (text, _) := t.gather m o.operands
            let lines := sources.flatMap fun s => match s.text with
              | .ok text => ByteText.lines text
              | .error _ => []
            let mark := (o.value? 't').bind fun text =>
              if text = chars "\\0" then some '\x00' else text.head?
            let byKeys (a b : ByteText) : Ordering :=
              keys.foldl (fun order k => if order = .eq then k.compareLines mark a b else order) .eq
            let whole (a b : ByteText) : Ordering :=
              if o.has 'r' then SortKey.compareTexts b a else SortKey.compareTexts a b
            let isFinal := keys.isEmpty || !(o.has 's' || o.has 'u')
            let order (a b : ByteText) : Ordering :=
              match byKeys a b with
              | .eq => if isFinal then whole a b else .eq
              | other => other
            if o.has 'c' || o.has 'C' then
              let strict := o.has 'u'
              let before (a b : ByteText) : Bool := match order a b with
                | .lt => true
                | .eq => !strict
                | .gt => false
              match firstDisorder before 1 lines with
              | none => (Effect.quiet m 0).reading m o.operands
              | some (n, line) =>
                  let name := o.operands.headD ['-']
                  let said := t.complain
                    (name ++ ':' :: Numeral.decimal n ++ chars ": disorder: " ++ line)
                  (Effect.ended m (if o.has 'C' then [] else [said]) 1).reading m o.operands
            else
              let sorted := lines.mergeSort fun a b => order a b != .gt
              let same (a b : ByteText) : Bool := order a b = .eq
              let sorted := if o.has 'u' then dropEqual same sorted else sorted
              let result := joinLines sorted
              match o.value? 'o' with
              | none =>
                  if text.isEmpty then (Effect.quiet m 0).reading m o.operands
                  else (Effect.say m result).reading m o.operands
              | some path =>
                  match t.writeFile path result false m with
                  | .ok (m', said) => (Effect.ended m' said 0).reading m o.operands
                  | .error e =>
                      .failed m (t.complain (chars "open failed: " ++ path ++ chars ": "
                        ++ chars (Errno.message e))) 2

/-! ### Runs -/

/-- Runs of lines that count as the same, each with its lines. -/
def runs (isSame : ByteText → ByteText → Bool) (lines : List ByteText) : List (List ByteText) :=
  ((lines.foldl
    (fun done line =>
      match done with
      | (first :: rest) :: more =>
          if isSame first line then ((first :: line :: rest) :: more) else [line] :: done
      | _ => [line] :: done)
    ([] : List (List ByteText)))).reverse

/-- Say each run of equal lines once. -/
def uniq : Tool := fun t m =>
  let form : OptionForm :=
    ⟨"cdDuif:s:w:z", [("count", 'c'), ("repeated", 'd'), ("unique", 'u'), ("ignore-case", 'i'),
      ("all-repeated", 'D'), ("skip-fields", 'f'), ("skip-chars", 's'), ("check-chars", 'w')], true⟩
  t.withOptions form 1 m fun o =>
    let number (c : Char) : Option Nat := (o.value? c).map Numeral.ofDigits
    let compared (line : ByteText) : ByteText :=
      let rest := (SortKey.skipFields none false ((number 'f').getD 0) line).drop ((number 's').getD 0)
      let rest := match number 'w' with | some n => rest.take n | none => rest
      if o.has 'i' then rest.map smallLetter else rest
    match o.operands with
    | _ :: _ :: third :: _ => t.extra m third 1
    | operands =>
        let input := operands.take 1
        let text := (t.gather m input).1
        let complaints := (t.sources m input).filterMap fun s => match s.text with
          | .ok _ => none
          | .error e =>
              if s.isOpened then some (t.complainOf (chars "error reading " ++ inQuotes s.name) e)
              else some (t.complainAbout s.name e)
        let found := runs (fun a b => compared a = compared b) (ByteText.lines text)
        let wanted := found.filter fun run =>
          (!(o.has 'd' || o.has 'D') || 1 < run.length) && (!o.has 'u' || run.length = 1)
        let line (run : List ByteText) : ByteText :=
          let first := run.headD []
          if o.has 'D' then joinLines (first :: run.tail.reverse)
          else if o.has 'c' then
            alignRight 7 (Numeral.decimal run.length) ++ ' ' :: first ++ ['\n']
          else first ++ ['\n']
        let result := wanted.flatMap line
        if !complaints.isEmpty then .ended m complaints 1
        else
          match operands with
          | [_, output] =>
              match t.writeFile output result false m with
              | .ok (m', said) => (Effect.ended m' said 0).reading m input
              | .error e => .failed m (t.complainAbout output e) 1
          | _ => (Effect.say m result).reading m input

end Tool

end AssemblyGate
