/-
**Tools that work on texts.**

Copying, counting and cutting of texts, and the replacement of their characters.

Main definitions: one tool each, named as it is called.
-/
import AssemblyGate.Posix.Pattern.RegexSyntax
import AssemblyGate.Posix.Tool.Escape

set_option autoImplicit false

namespace AssemblyGate

namespace Tool

/-- The lines of a text, and whether the last one has an end. -/
def linesOf (text : ByteText) : List ByteText × Bool :=
  (ByteText.lines text, text.isEmpty || text.getLast? = some '\n')

/-- Lines with their ends; the last one may have none. -/
def unlines (lines : List ByteText) (hasEnd : Bool) : ByteText :=
  if hasEnd then joinLines lines else joinWith ['\n'] lines

/-! ### Copying -/

/-- A character as it is shown: control characters behind a circumflex, and those beyond the first
128 behind a mark. -/
def visible (tabs : Bool) (c : Char) : ByteText :=
  let low (n : Nat) : ByteText :=
    if n = 127 then ['^', '?']
    else if n < 32 then (if n = 9 && !tabs || n = 10 then [Char.ofNat n]
      else ['^', Char.ofNat (n + 64)])
    else [Char.ofNat n]
  if c.toNat < 128 then low c.toNat
  else
    let n := c.toNat - 128
    'M' :: '-' :: (if n = 9 || n = 10 then ['^', Char.ofNat (n + 64)] else low n)

/-- How lines are copied: which of them are numbered, whether several empty ones become one, whether
their ends are shown, and what is shown of their characters. -/
structure CopyForm where
  numbersAll : Bool
  numbersFull : Bool
  squeezes : Bool
  marksEnds : Bool
  marksTabs : Bool
  marksOthers : Bool

/-- Copy lines from a number on: the text, and the next number.  `blank` tells that the line before
is an empty one. -/
def CopyForm.copy (f : CopyForm) : Nat → Bool → ByteText → List ByteText → Bool → ByteText
  | _, _, done, [], _ => done.reverse
  | n, blank, done, line :: rest, hasEnd =>
      if f.squeezes && line.isEmpty && blank then f.copy n true done rest hasEnd
      else
        let isNumbered := if f.numbersFull then !line.isEmpty else f.numbersAll
        let shown (c : Char) : ByteText :=
          if f.marksOthers then visible f.marksTabs c
          else if f.marksTabs && c = '\t' then ['^', 'I'] else [c]
        let ends := hasEnd || !rest.isEmpty
        let text := (if isNumbered then alignRight 6 (Numeral.decimal n) ++ ['\t'] else [])
          ++ line.flatMap shown ++
            (if ends then (if f.marksEnds then ['$', '\n'] else ['\n']) else [])
        f.copy (if isNumbered then n + 1 else n) line.isEmpty (text.reverse ++ done) rest hasEnd

/-- Say texts one after the other. -/
def cat : Tool := fun t m =>
  let form : OptionForm :=
    ⟨"AbeEnstTuv", [("show-all", 'A'), ("number-nonblank", 'b'), ("show-ends", 'E'),
      ("number", 'n'),
      ("squeeze-blank", 's'), ("show-tabs", 'T'), ("show-nonprinting", 'v')], true⟩
  t.withOptions form 1 m fun o =>
    let f : CopyForm :=
      { numbersAll := o.has 'n', numbersFull := o.has 'b', squeezes := o.has 's'
        marksEnds := o.has 'E' || o.has 'e' || o.has 'A'
        marksTabs := o.has 'T' || o.has 't' || o.has 'A'
        marksOthers := o.has 'v' || o.has 'e' || o.has 't' || o.has 'A' }
    let isPlain := o.given.all fun e => e.1 = 'u'
    let said :=
      if isPlain then t.overSources m o.operands fun _ text => text
      else
        let (text, complaints) := t.gather m o.operands
        let (lines, hasEnd) := linesOf text
        complaints ++ [⟨false, f.copy 1 false [] lines hasEnd⟩]
    let isEndless := o.operands.any fun path =>
      m.isSuch (fun node => match node with | .device kind => kind ≠ .null | _ => false) path
    { (Effect.ofRemarks m said 1).reading m o.operands with isEndless }

/-- Say texts with their last line first. -/
def tac : Tool := fun t m =>
  t.withOptions ⟨"bs:r", [], true⟩ 1 m fun o =>
    let said := (t.sources m o.operands).map fun s =>
      match s.text with
      | .ok text =>
          let (lines, hasEnd) := linesOf text
          let ended := lines.zipIdx.map fun (l, i) =>
            if i + 1 = lines.length && !hasEnd then l else l ++ ['\n']
          ⟨false, ended.reverse.flatten⟩
      | .error e =>
          if s.isOpened then
            let shown := if s.isInput then chars "'standard input'" else inQuotesIfNeeded s.name
            t.complainOf (shown ++ chars ": read error")
              (if e = Errno.isDirectory then Errno.invalid else e)
          else
            t.complain (chars "failed to open " ++ inQuotes s.name ++ chars " for reading: "
              ++ chars (Errno.message e))
    (Effect.ofRemarks m said 1).reading m o.operands

/-- Say texts with each line turned round. -/
def rev : Tool := fun t m =>
  t.withOptions ⟨"", [], true⟩ 1 m fun o =>
    let said := (t.sources m o.operands).map fun s =>
      match s.text with
      | .ok text =>
          let (lines, hasEnd) := linesOf text
          ⟨false, unlines (lines.map List.reverse) hasEnd⟩
      | .error e => t.complainOf (chars "cannot open " ++ s.name) e
    (Effect.ofRemarks m said 1).reading m o.operands

/-! ### Numbers of lines -/

/-- A whole number that is not below another one, or what is told behind a text that spells none. -/
def wholeNumber (least : Int) (text : ByteText) : Except String Int :=
  let (isBelow, digits) := match text with
    | '-' :: rest => (true, rest)
    | '+' :: rest => (false, rest)
    | _ => (false, text)
  if digits.isEmpty || !digits.all Numeral.isDigit then .error ""
  else
    let n : Int := if isBelow then -(Numeral.ofDigits digits : Int) else Numeral.ofDigits digits
    if (twoTo 63 : Int) ≤ n then .error ": Value too large for defined data type"
    else if n < least then .error ": Numerical result out of range"
    else .ok n

/-- How the lines of texts are numbered: which ones in a body, a head and a foot, the first number
and the step, and how a number is written. -/
structure NumberForm where
  body : ByteText → Bool
  head : ByteText → Bool
  foot : ByteText → Bool
  start : Int
  step : Int
  place : Int → ByteText
  empty : ByteText

/-- The lines that a letter and an expression choose to be numbered. -/
def numberedLines? (style : ByteText) : Option (ByteText → Bool) :=
  match style with
  | ['a'] => some fun _ => true
  | ['t'] => some fun line => !line.isEmpty
  | ['n'] => some fun _ => false
  | 'p' :: pattern =>
      match Regex.parse ⟨.basic, false, false, false⟩ pattern with
      | .ok regex => some fun line => Regex.occurs .plain regex line
      | .error _ => none
  | _ => none

/-- Lines with their numbers, after others, last one first.  A line of marks begins another part of
a page and is said as an empty one. -/
def NumberForm.write (f : NumberForm) (isChosen : ByteText → Bool) (n : Int) (done : List ByteText) :
    List ByteText → List ByteText
  | [] => done.reverse
  | line :: rest =>
      let mark : ByteText := ['\\', ':']
      if line = mark ++ mark ++ mark then f.write f.head f.start (['\n'] :: done) rest
      else if line = mark ++ mark then f.write f.body f.start (['\n'] :: done) rest
      else if line = mark then f.write f.foot f.start (['\n'] :: done) rest
      else if isChosen line then
        f.write isChosen (n + f.step) ((f.place n ++ line ++ ['\n']) :: done) rest
      else f.write isChosen n ((f.empty ++ line ++ ['\n']) :: done) rest

/-- Say the lines of texts with numbers. -/
def nl : Tool := fun t m =>
  let form : OptionForm :=
    ⟨"b:w:s:v:i:n:h:f:d:l:p", [("body-numbering", 'b'), ("number-width", 'w'),
      ("number-separator", 's'), ("starting-line-number", 'v'), ("line-increment", 'i'),
      ("number-format", 'n'), ("header-numbering", 'h'), ("footer-numbering", 'f')], true⟩
  t.withOptions form 1 m fun o =>
    let number (letter : Char) (usual : Int) (least : Int) (what : String) : Except Remark Int :=
      match o.value? letter with
      | none => .ok usual
      | some text =>
          match wholeNumber least text with
          | .ok n => .ok n
          | .error more =>
              .error (t.complain (chars ("invalid " ++ what ++ ": ") ++ inPlainQuotes text
                ++ chars more))
    let style (letter : Char) (usual : Char) (what : String) : Except Remark (ByteText → Bool) :=
      let given := (o.value? letter).getD [usual]
      match numberedLines? given with
      | some chosen => .ok chosen
      | none =>
          .error (t.misuse (chars ("invalid " ++ what ++ " numbering style: ")
            ++ inPlainQuotes given))
    let wanted : Except Remark NumberForm := do
      let start ← number 'v' 1 (-(twoTo 63)) "starting line number"
      let step ← number 'i' 1 (-(twoTo 63)) "line number increment"
      let width ← number 'w' 6 1 "line number field width"
      let body ← style 'b' 't' "body"
      let head ← style 'h' 'n' "header"
      let foot ← style 'f' 'n' "footer"
      let between := (o.value? 's').getD ['\t']
      let width := width.toNat
      let place (n : Int) : ByteText :=
        let digits := Numeral.integer n
        let shown := match o.value? 'n' with
          | some ['l', 'n'] => alignLeft width digits
          | some ['r', 'z'] =>
              let size := (Numeral.decimal n.natAbs).length
              let sign : ByteText := if n < 0 then ['-'] else []
              sign ++ List.replicate (width - sign.length - size) '0' ++ Numeral.decimal n.natAbs
          | _ => alignRight width digits
        shown ++ between
      .ok ⟨body, head, foot, start, step, place, List.replicate (width + between.length) ' '⟩
    match wanted with
    | .error wrong => .failed m wrong 1
    | .ok f =>
        let (text, complaints) := t.gather m o.operands
        let lines := f.write f.body f.start [] (ByteText.lines text)
        (Effect.ofRemarks m (complaints ++ [⟨false, lines.flatten⟩]) 1).reading m o.operands

/-! ### Beginnings and ends -/

/-- A number with a unit behind it. -/
def sized? (text : ByteText) : Option Nat :=
  let digits := text.takeWhile Numeral.isDigit
  let factor : Option Nat := match text.drop digits.length with
    | [] => some 1
    | ['b'] => some 512
    | ['k'] | ['K'] | ['K', 'i', 'B'] => some 1024
    | ['k', 'B'] | ['K', 'B'] => some 1000
    | ['M'] | ['M', 'i', 'B'] => some (1024 * 1024)
    | ['M', 'B'] => some 1000000
    | ['G'] => some (1024 * 1024 * 1024)
    | _ => none
  if digits.isEmpty then none else factor.map (Numeral.ofDigits digits * ·)

/-- The number of characters of the beginning of a text: of so many lines or characters, or of all
but so many at its end. -/
def beginning (byChars negative : Bool) (n : Nat) (text : ByteText) : Nat :=
  if byChars then (if negative then text.length - n else min n text.length)
  else
    let (lines, hasEnd) := linesOf text
    let wanted := if negative then lines.length - n else n
    if lines.length ≤ wanted then text.length
    else
      let size := (lines.take wanted).foldl (fun sum l => sum + l.length + 1) 0
      if hasEnd then size else min size text.length

/-- The number of characters in front of the end of a text: of so many lines or characters, or from
a place on that is counted from its beginning. -/
def ending (byChars fromFront : Bool) (n : Nat) (text : ByteText) : Nat :=
  if byChars then (if fromFront then n - 1 else text.length - n)
  else
    let lines := (linesOf text).1
    let skipped := if fromFront then n - 1 else lines.length - n
    if lines.length ≤ skipped then text.length
    else (lines.take skipped).foldl (fun sum l => sum + l.length + 1) 0

/-- Arguments in which a hyphen with a number is written as the option for lines. -/
def withLineOption (arguments : List ByteText) : List ByteText :=
  match arguments with
  | ('-' :: c :: digits) :: rest =>
      if Numeral.isDigit c then
        let number := (c :: digits).takeWhile Numeral.isDigit
        let letters := (c :: digits).drop number.length
        if letters = ['c'] then ['-', 'c'] :: number :: rest
        else if letters.isEmpty then ['-', 'n'] :: number :: rest
        else ['-', 'n'] :: number :: ('-' :: letters) :: rest
      else arguments
  | _ => arguments

/-- The sign in front of a number. -/
def signed (sign : Char) (text : ByteText) : Bool × ByteText :=
  match text with
  | c :: rest => if c = sign then (true, rest) else if c = '-' || c = '+' then (false, rest)
      else (false, text)
  | [] => (false, [])

/-- A tool that says a part of each text: `cutting` gives how many characters are left out in front
and how many are taken, and `marked` is the sign of a number that counts the other way. -/
def excerpt (marked : Char) (cutting : Bool → Bool → Nat → ByteText → Nat × Nat) : Tool := fun t m =>
  let form : OptionForm :=
    ⟨"n:c:qvzfF:s:", [("lines", 'n'), ("bytes", 'c'), ("quiet", 'q'), ("silent", 'q'),
      ("verbose", 'v'),
      ("follow", 'f'), ("zero-terminated", 'z')], true⟩
  { t with arguments := withLineOption t.arguments }.withOptions form 1 m fun o =>
    let byChars := o.lastOf? ['n', 'c'] = some 'c'
    let number := (o.value? (if byChars then 'c' else 'n')).getD (chars "10")
    let (counts, digits) := signed marked number
    match sized? digits with
    | none =>
        .failed m (t.complain (chars (if byChars then "invalid number of bytes: "
          else "invalid number of lines: ") ++ inPlainQuotes number)) 1
    | some n =>
        let titled := (1 < o.operands.length || o.has 'v') && !o.has 'q'
        let sources := t.sources m o.operands
        let one (done : List Remark × Bool) (s : Task.Source) : List Remark × Bool :=
          let shown := if s.isInput then chars "standard input" else s.name
          let title : List Remark := if titled then
              [⟨false, (if done.2 then [] else ['\n']) ++ chars "==> " ++ shown ++ chars " <==\n"⟩]
            else []
          match s.text with
          | .ok text =>
              let (front, taken) := cutting byChars counts n text
              (done.1 ++ title ++ [(⟨false, (text.drop front).take taken⟩ : Remark)], false)
          | .error e =>
              if s.isOpened then
                let verb := if marked = '+' && e = Errno.badDescriptor then "cannot fstat "
                  else "error reading "
                (done.1 ++ title ++ [t.complainOf (chars verb ++ inQuotes shown) e], false)
              else
                let wrong := t.complain (chars "cannot open " ++ inQuotes shown
                  ++ chars " for reading: " ++ chars (Errno.message e))
                (done.1 ++ [wrong], done.2)
        let said := (sources.foldl one ([], true)).1
        let unread := match t.input with
          | .ok text =>
              let (front, taken) := cutting byChars counts n text
              text.length - front - taken
          | .error _ => 0
        let follows := o.has 'f' || o.has 'F'
        { (Effect.ofRemarks m said 1).reading m o.operands with
          unread := unread, waited := if follows then tenTo 15 else 0 }

/-- Say the beginning of each text. -/
def head : Tool := excerpt '-' fun byChars negative n text => (0, beginning byChars negative n text)

/-- Say the end of each text. -/
def tail : Tool := excerpt '+' fun byChars fromFront n text =>
  let front := ending byChars fromFront n text
  (front, text.length - front)

/-- Say the input and write it into files. -/
def tee : Tool := fun t m =>
  let form : OptionForm := ⟨"aip", [("append", 'a'), ("ignore-interrupts", 'i')], true⟩
  t.withOptions form 1 m fun o =>
    let (text, wrong) : ByteText × List Remark := match t.input with
      | .ok text => (text, [])
      | .error e => ([], [t.complainOf (chars "read error") e])
    let (m, refused, said, hasFailed) := o.operands.foldl
      (fun (m, refused, said, hasFailed) path =>
        match t.writeFile path text (o.has 'a') m with
        | .ok (m, more) => (m, refused, said ++ more, hasFailed)
        | .error e =>
            let complaint := t.complainAbout path e
            if e = Errno.noSpace then (m, refused, said ++ [complaint], true)
            else (m, refused ++ [complaint], said, true))
      (m, ([] : List Remark), ([] : List Remark), !wrong.isEmpty)
    { Effect.ended m (refused ++ wrong ++ ⟨false, text⟩ :: said) (if hasFailed then 1 else 0) with
      reads := true }

/-! ### Parts of lines -/

/-- A range of positions, from one on, with an end or without. -/
abbrev Range := Nat × Option Nat

/-- What is known while ranges are read: whether a hyphen was met, the digits in front of it and
those behind it, last one first, and the ranges before, last one first. -/
structure RangeWork where
  hasHyphen : Bool
  first : ByteText
  last : ByteText
  done : List Range

/-- What is told of positions that are wrong: of zero, of a range, of a place that is none, and of a
number that is too large. -/
structure RangeTexts where
  zero : String
  range : String
  value : String
  size : String

/-- What is told of positions of characters, or of fields. -/
def rangeTexts (isFields : Bool) : RangeTexts :=
  if isFields then
    ⟨"fields are numbered from 1", "invalid field range", "invalid field value ", "field number "⟩
  else
    ⟨"byte/character positions are numbered from 1", "invalid byte or character range",
      "invalid byte/character position ", "byte/character offset "⟩

/-- End a range. -/
def RangeWork.close (w : RangeWork) (texts : RangeTexts) : Except ByteText RangeWork :=
  let a := Numeral.ofDigits w.first.reverse
  let b := Numeral.ofDigits w.last.reverse
  let next (r : Range) : Except ByteText RangeWork := .ok ⟨false, [], [], r :: w.done⟩
  if w.hasHyphen then
    if w.first.isEmpty && w.last.isEmpty then
      .error (chars "invalid range with no endpoint: -")
    else
      let start := if w.first.isEmpty then 1 else a
      if w.last.isEmpty then next (start, none)
      else if b < start then .error (chars "invalid decreasing range")
      else next (start, some b)
  else if a = 0 then .error (chars texts.zero)
  else next (a, some a)

/-- Ranges of positions from a state of reading on, or what is wrong with them. -/
def readRangesFrom (texts : RangeTexts) (w : RangeWork) : ByteText → Except ByteText (List Range)
  | [] => (w.close texts).map fun w => w.done.reverse
  | c :: rest =>
      if c = '-' then
        if w.hasHyphen then .error (chars texts.range)
        else if !w.first.isEmpty && Numeral.ofDigits w.first.reverse = 0 then
          .error (chars texts.zero)
        else readRangesFrom texts { w with hasHyphen := true } rest
      else if c = ',' || c = ' ' || c = '\t' then
        match w.close texts with
        | .ok w => readRangesFrom texts w rest
        | .error wrong => .error wrong
      else if Numeral.isDigit c then
        let digits := c :: (if w.hasHyphen then w.last else w.first)
        if maxWord ≤ Numeral.ofDigits digits.reverse then
          .error (chars texts.size ++
            inPlainQuotes (digits.reverse ++ rest.takeWhile Numeral.isDigit)
            ++ chars " is too large")
        else
          readRangesFrom texts
            (if w.hasHyphen then { w with last := digits } else { w with first := digits }) rest
      else .error (chars texts.value ++ inPlainQuotes (c :: rest))

/-- Ranges of positions, or what is wrong with them. -/
def readRanges (isFields : Bool) (text : ByteText) : Except ByteText (List Range) :=
  readRangesFrom (rangeTexts isFields) ⟨false, [], [], []⟩ text

/-- Whether a position is in one of the ranges. -/
def inRanges (ranges : List Range) (n : Nat) : Bool :=
  ranges.any fun r => r.1 ≤ n && r.2.all (n ≤ ·)

/-- The members of a list at positions in ranges or, if this is asked for, at all others. -/
def selectRanges {α : Type} (ranges : List Range) (others : Bool) (all : List α) : List α :=
  (all.zipIdx 1).filterMap fun (x, i) => if inRanges ranges i != others then some x else none

/-- Say parts of each line. -/
def cut : Tool := fun t m =>
  let form : OptionForm :=
    ⟨"b:c:d:f:nsO:zi", [("bytes", 'b'), ("characters", 'c'), ("delimiter", 'd'), ("fields", 'f'),
      ("only-delimited", 's'), ("output-delimiter", 'O'), ("complement", 'i')], true⟩
  t.withOptions form 1 m fun o =>
    let wanted := ['b', 'c', 'f'].filterMap fun c => (o.value? c).map fun v => (c, v)
    match wanted with
    | [] =>
        .failed m (t.misuse (chars "you must specify a list of bytes, characters, or fields")) 1
    | _ :: _ :: _ => .failed m (t.misuse (chars "only one type of list may be specified")) 1
    | [(kind, text)] =>
        let isFields := kind = 'f'
        let delimiter := (o.value? 'd').getD ['\t']
        if 1 < delimiter.length then
          .failed m (t.misuse (chars "the delimiter must be a single character")) 1
        else if !isFields && o.has 'd' then
          .failed m (t.misuse
            (chars "an input delimiter may be specified only when operating on fields")) 1
        else
          match readRanges isFields text with
          | .error wrong => .failed m (t.misuse wrong) 1
          | .ok ranges =>
              let mark := delimiter.headD '\x00'
              let others := o.has 'i'
              let part (line : ByteText) : Option ByteText :=
                if isFields then
                  if line.contains mark then
                    some (joinWith ((o.value? 'O').getD [mark])
                      (selectRanges ranges others (ByteText.split mark line)))
                  else if o.has 's' then none
                  else some line
                else
                  match o.value? 'O' with
                  | none => some (selectRanges ranges others line)
                  | some between =>
                      let runs := (ranges.mergeSort fun a b => a.1 ≤ b.1).map fun r =>
                        selectRanges [r] others line
                      some (joinWith between (runs.filter fun r => !r.isEmpty))
              let said := t.overSources m o.operands fun _ text =>
                joinLines ((ByteText.lines text).filterMap part)
              (Effect.ofRemarks m said 1).reading m o.operands

/-- Say the lines of texts side by side. -/
def paste : Tool := fun t m =>
  let form : OptionForm := ⟨"d:sz", [("delimiters", 'd'), ("serial", 's')], true⟩
  t.withOptions form 1 m fun o =>
    let marks := (Escape.resolve ((o.value? 'd').getD ['\t'])).1
    let sources := t.sources m o.operands
    let wrong := sources.filterMap fun s => match s.text with
      | .ok _ => none
      | .error e => some (t.complainAbout s.name e)
    let columns := (sources.filter fun s => s.isOpened).map fun s => match s.text with
      | .ok text => ByteText.lines text
      | .error _ => []
    let mark (i : Nat) : ByteText := ((marks[i % max marks.length 1]?).map fun c => [c]).getD []
    let joined (fields : List ByteText) : ByteText :=
      (fields.zipIdx.flatMap fun (f, i) => (if i = 0 then [] else mark (i - 1)) ++ f) ++ ['\n']
    let text :=
      if o.has 's' then columns.flatMap joined
      else
        let height := (columns.map List.length).foldl max 0
        (List.range height).flatMap fun i =>
          joined (columns.map fun column => (column[i]?).getD [])
    if !o.has 's' && sources.any fun s => !s.isOpened then .ended m (wrong.take 1) 1
    else (Effect.ofRemarks m (wrong ++ [⟨false, text⟩]) 1).reading m o.operands

/-- Break a line into pieces of a width, at blanks where this is asked for. -/
def folded (width : Nat) (atBlanks : Bool) : Nat → ByteText → List ByteText
  | 0, line => [line]
  | room + 1, line =>
      if line.length ≤ width then [line]
      else
        let piece := line.take width
        let back := piece.reverse.takeWhile fun c => c ≠ ' ' && c ≠ '\t'
        let size := if atBlanks && back.length < width then width - back.length else width
        line.take size :: folded width atBlanks room (line.drop size)

/-- Say texts with their lines broken. -/
def fold : Tool := fun t m =>
  let form : OptionForm := ⟨"bsw:", [("bytes", 'b'), ("spaces", 's'), ("width", 'w')], true⟩
  let arguments := match t.arguments with
    | ('-' :: c :: digits) :: rest =>
        if Numeral.isDigit c then ('-' :: 'w' :: c :: digits) :: rest else t.arguments
    | all => all
  { t with arguments }.withOptions form 1 m fun o =>
    let given := (o.value? 'w').getD (chars "80")
    let width : Except String Int :=
      if given.head? = some '-' then .error "" else wholeNumber 1 given
    match width with
    | .error more =>
        .failed m (t.complain (chars "invalid number of columns: " ++ inPlainQuotes given
          ++ chars more)) 1
    | .ok width =>
        let said := t.overSources m o.operands fun _ text =>
          let (lines, hasEnd) := linesOf text
          unlines (lines.flatMap fun (l : ByteText) => folded width.toNat (o.has 's') l.length l)
            hasEnd
        (Effect.ofRemarks m said 1).reading m o.operands

/-- Say texts with tabs written as blanks. -/
def expand : Tool := fun t m =>
  t.withOptions ⟨"it:", [("initial", 'i'), ("tabs", 't')], true⟩ 1 m fun o =>
    let width := max 1 (((o.value? 't').map Numeral.ofDigits).getD 8)
    let line (l : ByteText) : ByteText :=
      (l.foldl
        (fun (done : ByteText) c =>
          if c = '\t' then List.replicate (width - done.length % width) ' ' ++ done else c :: done)
        []).reverse
    let said := t.overSources m o.operands fun _ text =>
      let (lines, hasEnd) := linesOf text
      unlines (lines.map line) hasEnd
    (Effect.ofRemarks m said 1).reading m o.operands

/-! ### Replacing characters -/

/-- A character of a set, with its escape resolved, and what follows it. -/
def setChar (input : ByteText) : Option (Char × ByteText) :=
  match input with
  | [] => none
  | '\\' :: c :: rest =>
      if (Escape.octalDigit? c).isSome then some (Escape.readOctal 3 0 (c :: rest))
      else
        match Escape.letters.find? fun e => e.1 == c && e.1 ≠ 'e' with
        | some (_, byte) => some (byte, rest)
        | none => some (c, rest)
  | c :: rest => some (c, rest)

/-- The characters from one to another. -/
def charsFrom (a b : Char) : ByteText :=
  (List.range (b.toNat + 1 - a.toNat)).map fun i => Char.ofNat (a.toNat + i)

/-- The characters that a set spells, in order, given last one first; `room` is how many there may
be altogether, which some repeats fill. -/
def spelled (room : Nat) : Nat → ByteText → ByteText → Except ByteText ByteText
  | 0, done, _ => .ok done.reverse
  | _, done, [] => .ok done.reverse
  | fuel + 1, done, '[' :: ':' :: rest =>
      let name := rest.takeWhile (· ≠ ':')
      match rest.drop name.length with
      | ':' :: ']' :: after =>
          match CharSet.class? name with
          | some ranges =>
              let members := (ranges.mergeSort fun a b => a.1 ≤ b.1).flatMap fun r =>
                charsFrom r.1 r.2
              spelled room fuel (members.reverse ++ done) after
          | none => .error (chars "invalid character class " ++ inPlainQuotes name)
      | _ => spelled room fuel (':' :: '[' :: done) rest
  | fuel + 1, done, '[' :: '=' :: c :: '=' :: ']' :: rest => spelled room fuel (c :: done) rest
  | fuel + 1, done, c :: rest =>
      let repeated : Option (Char × ByteText × ByteText) :=
        if c = '[' then
          match setChar rest with
          | some (d, '*' :: more) =>
              let count := more.takeWhile Numeral.isDigit
              match more.drop count.length with
              | ']' :: after => some (d, count, after)
              | _ => none
          | _ => none
        else none
      match repeated with
      | some (d, count, after) =>
          let n := if count.head? = some '0' then
              count.foldl (fun n c => n * 8 + (c.toNat - '0'.toNat)) 0
            else Numeral.ofDigits count
          let n := if n = 0 then room - done.length - (after.length) else n
          spelled room fuel (List.replicate n d ++ done) after
      | none =>
          match setChar (c :: rest) with
          | none => .ok done.reverse
          | some (a, rest) =>
              match rest with
              | '-' :: more =>
                  match setChar more with
                  | some (b, after) =>
                      if b < a then
                        .error (chars "range-endpoints of '" ++ [a, '-', b]
                          ++ chars "' are in reverse collating sequence order")
                      else spelled room fuel ((charsFrom a b).reverse ++ done) after
                  | none => spelled room fuel (a :: done) rest
              | _ => spelled room fuel (a :: done) rest

/-- Drop a character that repeats the one before it, if it is to be squeezed. -/
def squeeze (isSqueezed : Char → Bool) (text : ByteText) : ByteText :=
  (text.foldl
    (fun done c => if isSqueezed c && done.head? = some c then done else c :: done)
    ([] : ByteText)).reverse

/-- All characters of a byte that are not in a set. -/
def complement (set : ByteText) : ByteText :=
  ((List.range 256).map Char.ofNat).filter fun c => !set.contains c

/-- Replace, remove or squeeze characters of the input. -/
def tr : Tool := fun t m =>
  let form : OptionForm :=
    ⟨"+cCdst", [("complement", 'c'), ("delete", 'd'), ("squeeze-repeats", 's'),
      ("truncate-set1", 't')], false⟩
  t.withOptions form 1 m fun o =>
    let deletes := o.has 'd'
    let squeezes := o.has 's'
    let complements := o.has 'c' || o.has 'C'
    let more (text : String) (wrong : ByteText) : Effect :=
      .failed m ⟨true, (t.complain wrong).text ++ chars text ++ chars "Try '" ++ t.name
        ++ chars " --help' for more information.\n"⟩ 1
    let work (first second : ByteText) : Effect :=
      match spelled 256 (first.length + 1) [] first with
      | .error wrong => .failed m (t.complain wrong) 1
      | .ok one =>
          let one := if complements then complement one else one
          match spelled (max one.length 1) (second.length + 1) [] second with
          | .error wrong => .failed m (t.complain wrong) 1
          | .ok two =>
              match t.input with
              | .error e => .failed m (t.complainOf (chars "read error") e) 1
              | .ok text =>
                  let said : ByteText :=
                    if deletes then
                      let kept := text.filter fun c => !one.contains c
                      if squeezes then squeeze two.contains kept else kept
                    else if second.isEmpty then squeeze one.contains text
                    else
                      let table := one.zip (if o.has 't' then two
                        else two ++ List.replicate (one.length - two.length) (two.getLast?.getD ' '))
                      let turned := table.reverse
                      let image (c : Char) : Char :=
                        ((turned.find? fun e => e.1 = c).map (·.2)).getD c
                      let replaced := text.map image
                      if squeezes then squeeze two.contains replaced else replaced
                  { Effect.say m said with reads := true }
    match o.operands with
    | [] => t.missing m 1
    | [first] =>
        if deletes && !squeezes || squeezes && !deletes then work first []
        else if deletes then
          more "Two strings must be given when both deleting and squeezing repeats.\n"
            (chars "missing operand after " ++ inPlainQuotes first)
        else
          more "Two strings must be given when translating.\n"
            (chars "missing operand after " ++ inPlainQuotes first)
    | [first, second] =>
        if deletes && !squeezes then
          more "Only one string may be given when deleting without squeezing repeats.\n"
            (chars "extra operand " ++ inPlainQuotes second)
        else if second.isEmpty && !deletes then
          .failed m (t.complain
            (chars "when not truncating set1, string2 must be non-empty")) 1
        else work first second
    | _ :: _ :: third :: _ => t.extra m third 1

/-! ### Counting -/

/-- The number of words of a text. -/
def countWords (text : ByteText) : Nat :=
  (text.foldl
    (fun (count, inWord) c =>
      if c = ' ' || ('\t' ≤ c && c ≤ '\r') then (count, false)
      else (if inWord then count else count + 1, true))
    (0, false)).1

/-- The number of characters of the longest line, in which tabs reach to every eighth place. -/
def longestLine (text : ByteText) : Nat :=
  let width (line : ByteText) : Nat := line.foldl
    (fun n c => if c = '\t' then n + 8 - n % 8 else if c < ' ' then n else n + 1) 0
  ((ByteText.split '\n' text).map width).foldl max 0

/-- Say how many lines, words and bytes texts have. -/
def wc : Tool := fun t m =>
  let form : OptionForm :=
    ⟨"lwcmL", [("lines", 'l'), ("words", 'w'), ("bytes", 'c'), ("chars", 'm'),
      ("max-line-length", 'L')], true⟩
  t.withOptions form 1 m fun o =>
    let all := o.given.isEmpty
    let count (letter : Char) (f : ByteText → Nat) (usual : Bool) (text : ByteText) : List Nat :=
      if o.has letter || all && usual then [f text] else []
    let counts (text : ByteText) : List Nat :=
      count 'l' (List.count '\n') true text ++ count 'w' countWords true text
        ++ count 'm' (fun text => text.countP fun c => c.toNat < 128 || 192 ≤ c.toNat) false text
        ++ count 'c' List.length true text ++ count 'L' longestLine false text
    let sources := t.sources m o.operands
    let tallies := sources.map fun s => (s, s.text.map counts)
    let known := tallies.filterMap fun (_, r) => r.toOption
    let totals := known.foldl
      (fun sums row => if sums.isEmpty then row else List.zipWith (· + ·) sums row) []
    let sizes := sources.map fun s =>
      let isFile := if s.isInput then t.isFromFile else m.isFile s.name
      match s.text with
      | .ok text => if isFile then some text.length else none
      | .error e => if e = Errno.isDirectory then none else some 0
    let columns := (counts []).length
    let digits := (Numeral.decimal (sizes.filterMap id |>.foldl (· + ·) 0)).length
    let width := if sources.length = 1 && columns = 1 then 1
      else if sizes.all (·.isSome) then digits else max digits 7
    let row (numbers : List Nat) (name : ByteText) : ByteText :=
      joinWith [' '] (numbers.map fun n => alignRight width (Numeral.decimal n))
        ++ (if name.isEmpty then [] else ' ' :: name) ++ ['\n']
    let said := tallies.map fun (s, r) =>
      let label := if o.operands.isEmpty then [] else s.name
      match r with
      | .ok numbers => [⟨false, row numbers label⟩]
      | .error e =>
          let complaint :=
            if s.name.isEmpty then t.complain (chars "invalid zero-length file name")
            else if o.operands.isEmpty then t.complainOf (chars "'standard input'") e
            else t.complainAbout s.name e
          complaint :: (if s.isOpened then [⟨false, row (counts []) label⟩] else [])
    let zero := counts []
    let sum := if 1 < sources.length then
        [⟨false, row (if totals.isEmpty then zero else totals) (chars "total")⟩] else []
    (Effect.ofRemarks m (said.flatten ++ sum) 1).reading m o.operands

end Tool

end AssemblyGate
