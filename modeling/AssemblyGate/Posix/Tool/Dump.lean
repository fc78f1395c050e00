/-
**Tools that work on bytes.**

The bytes of texts are written out in several forms, compared, encoded, and summed up.

Main definitions:

* `AssemblyGate.DumpForm` — how the units of a text are written;
* `AssemblyGate.Tool.od`, `AssemblyGate.Tool.cmp`, `AssemblyGate.Tool.base64` — the tools.
-/
import AssemblyGate.Posix.Tool.Text

set_option autoImplicit false

namespace AssemblyGate

/-- How a dump writes the units of a text: the bytes of a unit, the width of what is written,
whether the characters are shown behind it, and how a unit is written. -/
structure DumpForm where
  size : Nat
  width : Nat
  shows : Bool
  write : Nat → ByteText

namespace DumpForm

/-- Digits of a base brought to a width with zeros. -/
def fixedDigits (base width n : Nat) : ByteText :=
  let digits := Nat.toDigits base n
  List.replicate (width - digits.length) '0' ++ digits

/-- A byte as a character, by its escape or by its octal digits. -/
def dumpChar (n : Nat) : ByteText :=
  match n with
  | 0 => ['\\', '0']
  | 7 => ['\\', 'a']
  | 8 => ['\\', 'b']
  | 9 => ['\\', 't']
  | 10 => ['\\', 'n']
  | 11 => ['\\', 'v']
  | 12 => ['\\', 'f']
  | 13 => ['\\', 'r']
  | _ => if 32 ≤ n ∧ n < 127 then [Char.ofNat n] else fixedDigits 8 3 n

/-- The names of the first characters. -/
def charNames : List String :=
  ["nul", "soh", "stx", "etx", "eot", "enq", "ack", "bel", "bs", "ht", "nl", "vt", "ff", "cr", "so",
    "si", "dle", "dc1", "dc2", "dc3", "dc4", "nak", "syn", "etb", "can", "em", "sub", "esc", "fs", "gs",
    "rs", "us", "sp"]

/-- A byte by its name. -/
def namedChar (n : Nat) : ByteText :=
  let n := n % 128
  if n = 127 then chars "del" else ((charNames[n]?).map chars).getD [Char.ofNat n]

/-- The form of signed integers of so many bytes. -/
def signed (size width : Nat) : DumpForm :=
  ⟨size, width, false, fun n =>
    let half := twoTo (8 * size - 1)
    Numeral.integer (if n < half then (n : Int) else (n : Int) - twoTo (8 * size))⟩

/-- The form of a letter for units of so many bytes. -/
def ofLetter? (letter : Char) (size : Nat) : Option DumpForm :=
  let pick (widths : List Nat) : Nat := (widths[Nat.log2 size]?).getD 3
  match letter with
  | 'x' => some ⟨size, pick [2, 4, 8, 16], false, fixedDigits 16 (2 * size)⟩
  | 'o' => some ⟨size, pick [3, 6, 11, 22], false, fixedDigits 8 (pick [3, 6, 11, 22])⟩
  | 'u' => some ⟨size, pick [3, 5, 10, 20], false, Numeral.decimal⟩
  | 'd' => some (signed size (pick [4, 6, 11, 20]))
  | _ => none

/-- The size at the front of a type, and what follows it. -/
def readSize (input : ByteText) : Nat × ByteText :=
  match input with
  | '1' :: rest | 'C' :: rest => (1, rest)
  | '2' :: rest | 'S' :: rest => (2, rest)
  | '4' :: rest | 'I' :: rest => (4, rest)
  | '8' :: rest | 'L' :: rest => (8, rest)
  | rest => (4, rest)

/-- The forms that a type spells, or what is wrong with it. -/
def readType (whole : ByteText) : Nat → List DumpForm → ByteText → Except ByteText (List DumpForm)
  | 0, done, _ => .ok done
  | _, done, [] => .ok done
  | room + 1, done, c :: rest =>
      let next (form : DumpForm) (rest : ByteText) : Except ByteText (List DumpForm) :=
        match rest with
        | 'z' :: rest => readType whole room (done ++ [{ form with shows := true }]) rest
        | _ => readType whole room (done ++ [form]) rest
      match c with
      | 'c' => next ⟨1, 3, false, dumpChar⟩ rest
      | 'a' => next ⟨1, 3, false, namedChar⟩ rest
      | _ =>
          let (size, rest) := readSize rest
          match ofLetter? c size with
          | some form => next form rest
          | none =>
              .error (chars "invalid character '" ++ [c] ++ chars "' in type string "
                ++ inPlainQuotes whole)

/-- The units of some bytes, the first byte of a unit being the least. -/
def units (size : Nat) : Nat → List Nat → List Nat
  | 0, _ => []
  | _, [] => []
  | room + 1, bytes =>
      (bytes.take size).foldr (fun b n => n * 256 + b) 0 :: units size room (bytes.drop size)

/-- The fields of a line: each is as wide as its form and its share of what the widest form needs
more. -/
def fields (f : DumpForm) (perLine pad : Nat) : Nat → Nat → List ByteText → ByteText
  | _, _, [] => []
  | left, padding, text :: rest =>
      let next := pad * (left - 1) / perLine
      alignRight (padding - next + f.width) text ++ fields f perLine pad (left - 1) next rest

/-- A line of a dump in one form. -/
def line (f : DumpForm) (lineSize blockWidth : Nat) (bytes : List Nat) : ByteText :=
  let perLine := lineSize / f.size
  let pad := blockWidth - f.width * perLine
  let written := (units f.size bytes.length bytes).map f.write
  let shown := fields f perLine pad perLine pad written
  if f.shows then
    let full := fields f perLine pad perLine pad (written ++
      List.replicate (perLine - written.length) [])
    let text := bytes.map fun n => if 32 ≤ n && n < 127 then Char.ofNat n else '.'
    alignLeft full.length shown ++ chars "  >" ++ text ++ ['<']
  else shown

end DumpForm

namespace Tool

/-- How the positions of a dump are written: their base and width, if they are. -/
def addressForm (name : ByteText) : Option (Nat × Nat) :=
  match name with
  | ['x'] => some (16, 6)
  | ['d'] => some (10, 7)
  | ['n'] => none
  | _ => some (8, 7)

/-- The lines of a dump from a position on; lines that repeat the one before are one star. -/
def dumpLines (address : Nat → ByteText) (body : List Nat → Nat → ByteText) (size : Nat) (all : Bool) :
    Nat → Nat → Option (List Nat) → Bool → List Nat → ByteText
  | 0, _, _, _, _ => []
  | room + 1, position, before, starred, bytes =>
      if bytes.isEmpty then
        let last := address position
        if last.isEmpty then [] else last ++ ['\n']
      else
        let here := bytes.take size
        let next := position + here.length
        let rest := bytes.drop size
        if !all && before = some here && here.length = size then
          (if starred then [] else ['*', '\n'])
            ++ dumpLines address body size all room next before true rest
        else
          body here position ++ dumpLines address body size all room next (some here) false rest

/-- The letters that stand for types. -/
def dumpTypes : List (Char × String) :=
  [('a', "a"), ('b', "o1"), ('c', "c"), ('d', "u2"), ('i', "d4"), ('l', "d8"), ('o', "o2"),
    ('s', "d2"),
    ('x', "x2"), ('B', "o2"), ('D', "u4"), ('h', "x2"), ('X', "x4"), ('H', "x4"), ('O', "o4")]

/-- Say what bytes texts have. -/
def od : Tool := fun t m =>
  let form : OptionForm :=
    ⟨"aA:bcdDhHij:lN:oOst:vw::xXB", [("address-radix", 'A'), ("format", 't'),
      ("output-duplicates", 'v'), ("read-bytes", 'N'), ("skip-bytes", 'j'), ("width", 'w')], true⟩
  t.withOptions form 1 m fun o =>
    let named := o.given.filterMap fun (c, value) =>
      if c = 't' then some value else (dumpTypes.find? fun e => e.1 = c).map fun e => chars e.2
    let types := if named.isEmpty then [chars "o2"] else named
    let forms := types.foldl
      (fun done text =>
        match done with
        | .ok found =>
            (DumpForm.readType text (text.length + 1) [] text).map fun more => found ++ more
        | e => e)
      (.ok ([] : List DumpForm) : Except ByteText (List DumpForm))
    match forms with
    | .error wrong => .failed m (t.complain wrong) 1
    | .ok forms =>
        let sources := t.sources m o.operands
        let wrong := sources.filterMap fun s => match s.text with
          | .ok _ => none
          | .error e =>
              let shown := if s.isInput then chars "'standard input'" else inQuotesIfNeeded s.name
              some (t.complainOf shown e)
        let all := (sources.flatMap fun s => match s.text with
          | .ok text => text
          | .error _ => []).map Char.toNat
        let number (c : Char) : Option Nat := (o.value? c).bind sized?
        let skipped := min ((number 'j').getD 0) all.length
        let bytes := all.drop skipped
        let bytes := match number 'N' with | some n => bytes.take n | none => bytes
        let size := match o.value? 'w' with
          | some [] => 32
          | some digits => max 1 (Numeral.ofDigits digits)
          | none => 16
        let blockWidth := (forms.map fun f => (f.width + 1) * (size / f.size)).foldl max 0
        let address (n : Nat) : ByteText := match addressForm ((o.value? 'A').getD ['o']) with
          | some (base, width) => DumpForm.fixedDigits base width n
          | none => []
        let indent := List.replicate (address 0).length ' '
        let body (here : List Nat) (position : Nat) : ByteText :=
          (forms.zipIdx.flatMap fun (f, i) =>
            (if i = 0 then address position else indent) ++ f.line size blockWidth here ++ ['\n'])
        let text := dumpLines address body size (o.has 'v') (bytes.length + 1) skipped none false bytes
        if sources.all fun s => !s.isOpened then .ended m wrong 1
        else (Effect.ofRemarks m (wrong ++ [⟨false, text⟩]) 1).reading m o.operands

/-! ### Comparing -/

/-- Where two texts differ first: the number of the character, and of its line. -/
def firstDifference : Nat → Nat → ByteText → ByteText → Option (Nat × Nat × Char × Char)
  | n, line, a :: as, b :: bs =>
      if a = b then firstDifference (n + 1) (if a = '\n' then line + 1 else line) as bs
      else some (n, line, a, b)
  | _, _, _, _ => none

/-- Say where two texts differ first. -/
def cmp : Tool := fun t m =>
  let form : OptionForm :=
    ⟨"bi:ln:s", [("print-bytes", 'b'), ("silent", 's'), ("quiet", 's'), ("verbose", 'l')], true⟩
  t.withOptions form 2 m fun o =>
    match o.operands with
    | [] => t.missing m 2
    | first :: rest =>
        let second := rest.headD ['-']
        match (t.source m first).text, (t.source m second).text with
        | .error e, _ => .failed m (t.complainOf first e) 2
        | _, .error e => .failed m (t.complainOf second e) 2
        | .ok a, .ok b =>
            let ended (said : List Remark) (status : Nat) : Effect :=
              (Effect.ended m (if o.has 's' then [] else said) status).reading m [first, second]
            let short := if a.length < b.length then (first, a) else (second, b)
            let eof : Remark :=
              let size := short.2.length
              let lines := short.2.count '\n'
              let place := if size = 0 then chars " which is empty"
                else chars " after byte " ++ Numeral.decimal size
                  ++ (if o.has 'l' then []
                    else if short.2.getLast? = some '\n' then
                      chars ", line " ++ Numeral.decimal lines
                    else chars ", in line " ++ Numeral.decimal (lines + 1))
              t.complain (chars "EOF on " ++ short.1 ++ place)
            if o.has 'l' then
              let width := (Numeral.decimal (min a.length b.length)).length
              let lines := ((a.zip b).zipIdx 1).filterMap fun ((x, y), i) =>
                if x = y then none
                else
                  some (alignRight width (Numeral.decimal i) ++ ' '
                    :: alignRight 3 (Nat.toDigits 8 x.toNat) ++ ' '
                    :: alignRight 3 (Nat.toDigits 8 y.toNat))
              ended ((if a.length = b.length then [] else [eof]) ++ [⟨false, joinLines lines⟩])
                (if a = b then 0 else 1)
            else
              match firstDifference 1 1 a b with
              | some (n, line, _, _) =>
                  ended [⟨false, first ++ ' ' :: second ++ chars " differ: char " ++
                    Numeral.decimal n
                    ++ chars ", line " ++ Numeral.decimal line ++ ['\n']⟩] 1
              | none => if a.length = b.length then ended [] 0 else ended [eof] 1

/-! ### Encoding -/

/-- The sixty-four letters of an encoding. -/
def letters64 : ByteText :=
  charsFrom 'A' 'Z' ++ charsFrom 'a' 'z' ++ charsFrom '0' '9' ++ ['+', '/']

/-- A text in sixty-four letters. -/
def encode64 : ByteText → ByteText
  | [] => []
  | [a] =>
      let n := a.toNat * 16
      [letter (n / 64), letter (n % 64), '=', '=']
  | [a, b] =>
      let n := (a.toNat * 256 + b.toNat) * 4
      [letter (n / 4096), letter (n / 64 % 64), letter (n % 64), '=']
  | a :: b :: c :: rest =>
      let n := (a.toNat * 256 + b.toNat) * 256 + c.toNat
      letter (n / 262144) :: letter (n / 4096 % 64) :: letter (n / 64 % 64) :: letter (n % 64)
        :: encode64 rest
where
  /-- The letter of a number. -/
  letter (n : Nat) : Char := (letters64[n]?).getD 'A'

/-- The text of letters, and whether all of them could be read. -/
def decode64 : Nat → ByteText → ByteText → ByteText × Bool
  | 0, done, _ => (done.reverse, false)
  | _, done, [] => (done.reverse, true)
  | room + 1, done, a :: b :: c :: d :: rest =>
      let value (x : Char) : Option Nat := let i := letters64.idxOf x; if i < 64 then some i else none
      match value a, value b, value c, value d with
      | some p, some q, some r, some s =>
          let n := ((p * 64 + q) * 64 + r) * 64 + s
          decode64 room (Char.ofNat (n % 256) :: Char.ofNat (n / 256 % 256) :: Char.ofNat (n / 65536)
            :: done) rest
      | some p, some q, some r, none =>
          let n := ((p * 64 + q) * 64 + r) * 64
          if d = '=' then
            decode64 room (Char.ofNat (n / 256 % 256) :: Char.ofNat (n / 65536) :: done) rest
          else (done.reverse, false)
      | some p, some q, none, none =>
          let n := (p * 64 + q) * 4096
          if c = '=' && d = '=' then decode64 room (Char.ofNat (n / 65536) :: done) rest
          else (done.reverse, false)
      | _, _, _, _ => (done.reverse, false)
  | _, done, [a, b, c] =>
      let value (x : Char) : Option Nat := let i := letters64.idxOf x; if i < 64 then some i else none
      match value a, value b, value c with
      | some p, some q, some r =>
          let n := ((p * 64 + q) * 64 + r) * 64
          ((Char.ofNat (n / 256 % 256) :: Char.ofNat (n / 65536) :: done).reverse, false)
      | _, _, _ => (done.reverse, false)
  | _, done, _ => (done.reverse, false)

/-- Say texts in sixty-four letters, or what such letters stand for. -/
def base64 : Tool := fun t m =>
  let form : OptionForm := ⟨"diw:", [("decode", 'd'), ("ignore-garbage", 'i'), ("wrap", 'w')], true⟩
  t.withOptions form 1 m fun o =>
    match o.operands with
    | _ :: extra :: _ => t.extra m extra 1
    | operands =>
        let (text, _) := t.gather m operands
        let wrong := (t.sources m operands).filterMap fun s => match s.text with
          | .ok _ => none
          | .error e =>
              if s.isOpened then some (t.complainOf (chars "read error") e)
              else some (t.complainAbout s.name e)
        if !wrong.isEmpty then (Effect.ended m wrong 1).reading m operands
        else if o.has 'd' then
          let input := text.filter fun c =>
            c ≠ '\n' && (!o.has 'i' || letters64.contains c || c = '=')
          let (found, isWhole) := decode64 (input.length + 1) [] input
          (Effect.ended m
            (⟨false, found⟩ :: (if isWhole then [] else [t.complain (chars "invalid input")]))
            (if isWhole then 0 else 1)).reading m operands
        else
          let width := ((o.value? 'w').map Numeral.ofDigits).getD 76
          let letters := encode64 text
          let said := if letters.isEmpty then []
            else if width = 0 then letters
            else joinLines (folded width false letters.length letters)
          (Effect.say m said).reading m operands

end Tool

end AssemblyGate
