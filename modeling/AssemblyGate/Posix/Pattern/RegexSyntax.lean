/-
**The spelling of regular expressions.**

An expression has three spellings: the basic one, in which the signs for groups, branches and bounds
follow a backslash, the extended one, in which they stand alone, and that of the pattern language,
which is extended and knows no words.  What has no meaning in a spelling stands for itself, and what
is begun and not ended is wrong.

Main definitions:

* `AssemblyGate.Regex.Spelling` — the spellings;
* `AssemblyGate.Regex.Flaw` — what may be wrong with a spelled expression;
* `AssemblyGate.Regex.parse` — the expression that a text spells.
-/
import AssemblyGate.Posix.Pattern.Regex
import AssemblyGate.Text.Numeral

set_option autoImplicit false

namespace AssemblyGate.Regex

/-- The spellings of expressions. -/
inductive Dialect
  | basic
  | extended
  | program
deriving DecidableEq

/-- A spelling: its dialect, whether letters after a backslash stand for controls, whether a sign of
repetition is wrong that has nothing to repeat, and whether the name of a class is wrong that stands
in single brackets. -/
structure Spelling where
  dialect : Dialect
  hasControls : Bool
  isStrict : Bool
  isScreened : Bool
deriving DecidableEq

/-- What may be wrong with an expression. -/
inductive Flaw
  | endsInBracket
  | openBracket
  | bareClass
  | collation
  | openGroup
  | openBounds
  | badBounds
  | tooBig
  | badRange
  | nothingToRepeat
  | repeatedStart
  | closedGroup
  | noSuchGroup
  | unknownClass
  | trailingBackslash
deriving DecidableEq

/-- The message of a flaw. -/
def Flaw.message : Flaw → String
  | .endsInBracket => "Invalid regular expression"
  | .bareClass => "character class syntax is [[:space:]], not [:space:]"
  | .collation => "Invalid collation character"
  | .tooBig => "Regular expression too big"
  | .openBracket => "Unmatched [, [^, [:, [., or [="
  | .openGroup => "Unmatched ( or \\("
  | .openBounds => String.ofList ("Unmatched \\".toList ++ ['\x7b'])
  | .badBounds => String.ofList ("Invalid content of \\".toList ++ ['\x7b', '\\', '\x7d'])
  | .badRange => "Invalid range end"
  | .nothingToRepeat | .repeatedStart => "Invalid preceding regular expression"
  | .closedGroup => "Unmatched ) or \\)"
  | .noSuchGroup => "Invalid back reference"
  | .unknownClass => "Invalid character class name"
  | .trailingBackslash => "Trailing backslash"

/-- A sign of an expression. -/
inductive Sign
  | item (body : Regex)
  | opening
  | closing
  | bar
  | times (least : Nat) (most : Option Nat)
deriving DecidableEq

/-! ### Escapes -/

/-- The controls that letters after a backslash stand for. -/
def controls : List (Char × Char) :=
  [('n', '\n'), ('t', '\t'), ('f', '\x0c'), ('v', '\x0b'), ('a', '\x07'), ('r', '\r')]

/-- The number that up to `room` digits of a base denote, and what follows them. -/
def readCode (base : Nat) : Nat → Option Nat → List Char → Option Nat × List Char
  | 0, n, input => (n, input)
  | _, n, [] => (n, [])
  | room + 1, n, c :: rest =>
      match Numeral.hexDigit? c with
      | some d =>
          if d < base then readCode base room (some (n.getD 0 * base + d)) rest else (n, c :: rest)
      | none => (n, c :: rest)

/-- The character that a backslash and what follows it stand for, if it is a control or a code. -/
def readControl? (spelling : Spelling) (input : List Char) : Option (Char × List Char) :=
  let coded (base digits : Nat) (rest : List Char) : Option (Char × List Char) :=
    match readCode base digits none rest with
    | (some n, rest) => some (Char.ofNat (n % 256), rest)
    | (none, _) => none
  match input with
  | [] => none
  | c :: rest =>
      if !spelling.hasControls then none
      else
        match controls.find? fun e => e.1 == c with
        | some (_, control) => some (control, rest)
        | none =>
            if spelling.dialect = .program then
              if c = 'b' then some ('\x08', rest)
              else if c = 'x' then coded 16 2 rest
              else if '0' ≤ c ∧ c ≤ '7' then coded 8 3 (c :: rest)
              else none
            else if c = 'd' then coded 10 3 rest
            else if c = 'o' then coded 8 3 rest
            else if c = 'x' then coded 16 2 rest
            else if c = 'c' then
              match rest with
              | d :: rest => some (Char.ofNat ((capitalLetter d).toNat ^^^ 64), rest)
              | [] => none
            else none

/-- The characters after an opening bracket, with the codes among them read where they have a
meaning; each comes with the text that begins with it. -/
def bracketItems (spelling : Spelling) : Nat → List Char → List (CharSet.Item × List Char)
  | 0, _ => []
  | _, [] => []
  | room + 1, c :: rest =>
      if c = '\\' then
        match readControl? spelling rest with
        | some (control, after) => ((true, control), c :: rest) :: bracketItems spelling room after
        | none =>
            if spelling.dialect = .program then
              match rest with
              | d :: after => ((true, d), c :: rest) :: bracketItems spelling room after
              | [] => [((false, c), [c])]
            else ((false, c), c :: rest) :: bracketItems spelling room rest
      else ((false, c), c :: rest) :: bracketItems spelling room rest

/-- What is wrong with a list in brackets that cannot be read. -/
def bracketFlaw (items : List CharSet.Item) : Flaw :=
  let text := items.map (·.2)
  if text.isEmpty || text = ['^'] then .endsInBracket
  else if !(text.drop 1).contains ']' then .openBracket
  else
    let named := (text.dropWhile (· ≠ '[')).drop 1
    match named with
    | ':' :: rest =>
        if (CharSet.class? (rest.takeWhile (· ≠ ':'))).isNone && rest.contains ':'
          then .unknownClass
        else .openBracket
    | '.' :: rest | '=' :: rest => if rest.contains ']' then .collation else .openBracket
    | _ => .openBracket

/-- Whether every range of a set goes upwards. -/
def goesUpwards (set : CharSet) : Bool := set.ranges.all fun r => r.1 ≤ r.2

/-- A set in which the ends of a range that goes downwards stand for themselves. -/
def withEnds (set : CharSet) : CharSet :=
  { set with ranges := set.ranges.flatMap fun r =>
      if r.1 ≤ r.2 then [r] else [(r.1, r.1), ('-', '-'), (r.2, r.2)] }

/-- Whether the text after an opening bracket is the name of a class with its colons, as it would
stand in brackets of its own. -/
def isBareClass (rest : List Char) : Bool :=
  let start := match rest with
    | '^' :: rest => rest
    | rest => rest
  let content := start.takeWhile (· ≠ ']')
  content.head? = some ':' && content.getLast? = some ':' && 3 ≤ content.length
    && !content.contains '[' && !content.contains '-'

/-- The set after an opening bracket, and what follows it. -/
def readBracket (spelling : Spelling) (rest : List Char) : Except Flaw (CharSet × List Char) :=
  let items := bracketItems spelling (rest.length + 1) rest
  match CharSet.read .expressions (items.map (·.1)) with
  | some (set, after) =>
      let set := if spelling.dialect = .program then withEnds set else set
      if spelling.isScreened && isBareClass rest then .error .bareClass
      else if goesUpwards set then
        .ok (set, ((items.drop (items.length - after.length)).head?.map (·.2)).getD [])
      else .error .badRange
  | none => .error (bracketFlaw (items.map (·.1)))

/-! ### Signs -/

/-- The bounds of a repetition, up to the closing brace. -/
def readBounds (isBasic : Bool) (input : List Char) : Option (Nat × Option Nat × List Char) :=
  let close (rest : List Char) : Option (List Char) :=
    match isBasic, rest with
    | false, '\x7d' :: rest => some rest
    | true, '\\' :: '\x7d' :: rest => some rest
    | _, _ => none
  let first := input.takeWhile Numeral.isDigit
  let least := Numeral.ofDigits first
  match input.dropWhile Numeral.isDigit with
  | ',' :: rest =>
      let digits := rest.takeWhile Numeral.isDigit
      let most := if digits.isEmpty then none else some (Numeral.ofDigits digits)
      (close (rest.dropWhile Numeral.isDigit)).map fun rest => (least, most, rest)
  | rest => if first.isEmpty then none else (close rest).map fun rest => (least, some least, rest)

/-- The highest bound. -/
def maxBound : Nat := 32767

/-- The sign of bounds that go upwards. -/
def boundsSign (least : Nat) (most : Option Nat) (rest : List Char) :
    Except Flaw (Sign × List Char) :=
  if most.any (· < least) then .error .badBounds
  else if maxBound < most.getD least then .error .tooBig
  else .ok (.times least most, rest)

/-- What is wrong with bounds that cannot be read: they have no end, or something else stands in
them. -/
def boundsFlaw (isBasic : Bool) : List Char → Flaw
  | [] => .openBounds
  | c :: rest =>
      if isBasic && c = '\\' then
        match rest with
        | d :: more => if d = '\x7d' then .badBounds else boundsFlaw isBasic more
        | [] => .openBounds
      else if !isBasic && c = '\x7d' then .badBounds
      else boundsFlaw isBasic rest

/-- The conditions and sets that letters and signs after a backslash stand for. -/
def escapedItems : List (Char × Regex) :=
  [('w', .oneOf ⟨false, CharSet.wordRanges⟩), ('W', .oneOf ⟨true, CharSet.wordRanges⟩),
    ('s', .oneOf ⟨false, CharSet.spaceRanges⟩), ('S', .oneOf ⟨true, CharSet.spaceRanges⟩),
    ('b', .anchor .wordEdge), ('B', .anchor .noWordEdge), ('<', .anchor .wordStart),
    ('>', .anchor .wordEnd), ('\x60', .anchor .textStart), ('\x27', .anchor .textEnd)]

/-- The sign that a backslash and the character after it spell.  `first` tells that nothing can be
repeated here. -/
def readEscaped (spelling : Spelling) (first : Bool) (c : Char) (rest : List Char) :
    Except Flaw (Sign × List Char) :=
  let plain : Except Flaw (Sign × List Char) := .ok (.item (ofChar c), rest)
  match readControl? spelling (c :: rest) with
  | some (control, rest) => .ok (.item (ofChar control), rest)
  | none =>
      if spelling.dialect = .program then plain
      else if '1' ≤ c ∧ c ≤ '9' then .ok (.item (.again (c.toNat - '0'.toNat)), rest)
      else
        match escapedItems.find? fun e => e.1 == c with
        | some (_, body) => .ok (.item body, rest)
        | none =>
            if spelling.dialect = .extended then plain
            else
              match c with
              | '(' => .ok (.opening, rest)
              | ')' => .ok (.closing, rest)
              | '|' => .ok (.bar, rest)
              | '+' => if first then plain else .ok (.times 1 none, rest)
              | '?' => if first then plain else .ok (.times 0 (some 1), rest)
              | '\x7b' =>
                  if first then (if spelling.isStrict then .error .nothingToRepeat else plain)
                  else
                    match readBounds true rest with
                    | some (least, most, rest) => boundsSign least most rest
                    | none => .error (boundsFlaw true rest)
              | _ => plain

/-- A sign of repetition in a spelling in which it stands alone.  `begins` tells that a branch
begins. -/
def readRepetition (spelling : Spelling) (first begins : Bool) (c : Char) (least : Nat)
    (most : Option Nat) (rest : List Char) : Except Flaw (Sign × List Char) :=
  if !first then .ok (.times least most, rest)
  else
    match spelling.dialect with
    | .extended =>
        if spelling.isStrict then .error .nothingToRepeat else .ok (.item .empty, rest)
    | .program => .error (if begins then .nothingToRepeat else .repeatedStart)
    | .basic => .ok (.item (ofChar c), rest)

/-- The sign at the front of an expression.  `first` tells that nothing can be repeated here, and
`begins` that a branch begins. -/
def readSign (spelling : Spelling) (first begins : Bool) (c : Char) (rest : List Char) :
    Except Flaw (Sign × List Char) :=
  let isBasic := spelling.dialect = .basic
  let plain : Except Flaw (Sign × List Char) := .ok (.item (ofChar c), rest)
  let ends : Bool := match rest with
    | [] => true
    | '\\' :: ')' :: _ | '\\' :: '|' :: _ => isBasic
    | _ => false
  match c with
  | '\\' =>
      match rest with
      | d :: rest => readEscaped spelling first d rest
      | [] => if spelling.dialect = .program then plain else .error .trailingBackslash
  | '.' => .ok (.item (.oneOf .all), rest)
  | '[' => (readBracket spelling rest).map fun (set, rest) => (.item (.oneOf set), rest)
  | '*' => readRepetition spelling first begins c 0 none rest
  | '^' => if begins || !isBasic then .ok (.item (.anchor .lineStart), rest) else plain
  | '$' => if ends || !isBasic then .ok (.item (.anchor .lineEnd), rest) else plain
  | _ =>
      if isBasic then plain
      else
        match c with
        | '(' => .ok (.opening, rest)
        | ')' => .ok (.closing, rest)
        | '|' => .ok (.bar, rest)
        | '+' => readRepetition spelling first begins c 1 none rest
        | '?' => readRepetition spelling first begins c 0 (some 1) rest
        | '\x7b' =>
            match readBounds false rest with
            | some (least, most, rest) =>
                if first then
                  if spelling.isStrict then .error .nothingToRepeat else .ok (.item .empty, rest)
                else boundsSign least most rest
            | none =>
                if spelling.dialect = .extended && spelling.isStrict then
                  .error (if first then .nothingToRepeat else boundsFlaw false rest)
                else if rest.head? = some '\x7d' && !first then .error .badBounds
                else plain
        | _ => plain

/-- The signs of an expression. -/
def readSigns (spelling : Spelling) : Nat → Bool → Bool → List Sign → List Char →
    Except Flaw (List Sign)
  | 0, _, _, done, _ => .ok done.reverse
  | _, _, _, done, [] => .ok done.reverse
  | room + 1, first, begins, done, c :: rest =>
      match readSign spelling first begins c rest with
      | .error flaw => .error flaw
      | .ok (sign, rest) =>
          let opens : Bool := sign = .opening || sign = .bar
          let isAnchor : Bool := sign = .item (.anchor .lineStart)
          readSigns spelling room (opens || isAnchor) opens (sign :: done) rest

/-! ### Expressions -/

/-- A group that is still open: its finished branches, last one first, the items of the current
branch, last one first, and its number. -/
structure Level where
  branches : List Regex
  items : List Regex
  number : Nat

/-- The expression of items, given last one first. -/
def ofItems (items : List Regex) : Regex :=
  match items with
  | [] => .empty
  | last :: before => before.foldl (fun body item => .sequence item body) last

/-- The expression of a level. -/
def Level.body (l : Level) : Regex :=
  l.branches.foldl (fun body branch => .either branch body) (ofItems l.items)

/-- Put an item into a level. -/
def Level.add (l : Level) (item : Regex) : Level := { l with items := item :: l.items }

/-- Whether bounds may stand behind another sign of repetition even where signs of repetition may
not follow one another: at least once, or at most once. -/
def endsRun (least : Nat) (most : Option Nat) : Bool :=
  least = 1 && most.isNone || least = 0 && most = some 1

/-- Whether the branch of a level is wrong because nothing stands in it. -/
def Level.lacksBranch (l : Level) (spelling : Spelling) : Bool :=
  spelling.dialect = .program && l.items.isEmpty

/-- Take one more sign into account: the open levels, innermost first, and the number of groups. -/
def addSign (spelling : Spelling) (state : List Level × Nat) (sign : Sign) :
    Except Flaw (List Level × Nat) :=
  match state with
  | ([], groups) => .ok ([], groups)
  | (level :: outer, groups) =>
      match sign with
      | .item body =>
          if groups < body.highestReference then .error .noSuchGroup
          else .ok (level.add body :: outer, groups)
      | .opening => .ok (⟨[], [], groups + 1⟩ :: level :: outer, groups + 1)
      | .closing =>
          match outer with
          | next :: outer =>
              if level.lacksBranch spelling then .error .nothingToRepeat
              else .ok (next.add (.group level.number level.body) :: outer, groups)
          | [] =>
              if spelling.dialect = .program || spelling.dialect = .extended &&
                !spelling.isStrict then
                .ok ([level.add (ofChar ')')], groups)
              else .error .closedGroup
      | .bar =>
          if level.lacksBranch spelling then .error .nothingToRepeat
          else .ok (⟨ofItems level.items :: level.branches, [], level.number⟩ :: outer, groups)
      | .times least most =>
          match level.items with
          | item :: items =>
              if spelling.dialect = .basic && spelling.isStrict && item matches .repeated ..
                  && !endsRun least most then
                .error .nothingToRepeat
              else .ok ({ level with items := .repeated least most item :: items } :: outer, groups)
          | [] => .ok (level :: outer, groups)

/-- The expression that a text spells, or what is wrong with it. -/
def parse (spelling : Spelling) (text : List Char) : Except Flaw Regex :=
  match readSigns spelling (text.length + 1) true true [] text with
  | .error flaw => .error flaw
  | .ok signs =>
      match signs.foldlM (addSign spelling) ([⟨[], [], 0⟩], 0) with
      | .ok ([level], _) =>
          if !level.branches.isEmpty && level.lacksBranch spelling then .error .nothingToRepeat
          else .ok level.body
      | .ok _ => .error .openGroup
      | .error flaw => .error flaw

end AssemblyGate.Regex
