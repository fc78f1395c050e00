/-
**The tool that looks for lines.**

A line is selected if one of some patterns occurs in it, or if none does.  The selected lines are
said, or parts of them, or only their number, or the names of the texts that have one; around them
other lines may be said, and in front of each the name of its text and its place.

Main definitions:

* `AssemblyGate.Selection` — which lines are selected, and `AssemblyGate.Selection.matches`, the
  parts of a line that the patterns match;
* `AssemblyGate.Listing` — what is said of them;
* `AssemblyGate.Tool.grep` — the tool.
-/
import AssemblyGate.Posix.Pattern.RegexSyntax
import AssemblyGate.Posix.Tool.Text

set_option autoImplicit false

namespace AssemblyGate

/-! ### Selecting -/

/-- Which lines are selected: those in which an expression occurs, as whole words or as the whole
line if so wanted, or those in which it does not; no expression occurs nowhere. -/
structure Selection where
  regex : Option Regex
  manner : Regex.Manner
  byWords : Bool
  byLines : Bool
  negated : Bool

namespace Selection

/-- The match of an expression from a spot on, the longest one that may count: its length and the
spot behind it. -/
def matchAt (s : Selection) (regex : Regex) (p : Regex.Spot) : Option Regex.Spot :=
  Regex.longest? <| (Regex.ends s.manner regex.refersBack regex p).filter fun (q : Regex.Spot) =>
    (!s.byLines || p.index = 0 && q.rest.isEmpty)
      && (!s.byWords || s.byLines
        || !Regex.isWordChar p.before && !Regex.isWordChar q.rest.head?)

/-- The matches from a spot on: the index and the text of each. -/
def matchesFrom (s : Selection) (regex : Regex) (p : Regex.Spot) : List Char → List (Nat × ByteText)
  | [] =>
      match s.matchAt regex p with
      | some _ => [(p.index, [])]
      | none => []
  | c :: rest =>
      match s.matchAt regex p with
      | some q =>
          let size := q.index - p.index
          let found := (p.index, (c :: rest).take size)
          if size = 0 then found :: matchesFrom s regex (p.pass c rest) rest
          else found :: matchesFrom s regex q ((c :: rest).drop size)
      | none => matchesFrom s regex (p.pass c rest) rest
termination_by text => text.length
decreasing_by
  all_goals
    simp only [List.length_drop, List.length_cons]
    omega

/-- The parts of a line that match: the index and the text of each. -/
def found (s : Selection) (line : ByteText) : List (Nat × ByteText) :=
  match s.regex with
  | none => []
  | some regex => s.matchesFrom regex ⟨0, none, line, []⟩ line

/-- Whether the expression matches from a spot on or behind it. -/
def occursFrom (s : Selection) (regex : Regex) (p : Regex.Spot) : List Char → Bool
  | [] => (s.matchAt regex p).isSome
  | c :: rest => (s.matchAt regex p).isSome || occursFrom s regex (p.pass c rest) rest

/-- Whether a line is selected. -/
def selects (s : Selection) (line : ByteText) : Bool :=
  let occurs := match s.regex with
    | none => false
    | some regex => s.occursFrom regex ⟨0, none, line, []⟩ line
  occurs != s.negated

end Selection

/-! ### Saying -/

/-- What is said of a text. -/
inductive ListingKind
  | lines
  | parts
  | count
  | names
  | otherNames
  | nothing
deriving DecidableEq

/-- How lines are said: what of them, whether with the name of the text, the number of the line and
the position in the text, whether lines that do not follow one another are separated, how many lines
before and after them are said too, how many lines are selected at most, whether everything counts
as text, and what ends a line. -/
structure Listing where
  kind : ListingKind
  hasName : Bool
  hasNumber : Bool
  hasPosition : Bool
  hasTab : Bool
  endsName : Bool
  separates : Bool
  before : Nat
  after : Nat
  most : Option Nat
  asText : Bool
  ending : Char

/-- A line of a text: its number, its position and itself. -/
structure PlacedLine where
  number : Nat
  position : Nat
  text : ByteText

namespace Listing

/-- Lines with their numbers and positions. -/
def place : Nat → Nat → List ByteText → List PlacedLine
  | _, _, [] => []
  | number, position, line :: rest =>
      ⟨number, position, line⟩ :: place (number + 1) (position + line.length + 1) rest

/-- What stands in front of a line, each part with a mark behind it. -/
def front (l : Listing) (name : ByteText) (mark : Char) (number position : Nat) : ByteText :=
  let named := if l.hasName then name ++ [if l.endsName then '\x00' else mark] else []
  let wide (n : Nat) (size : Nat) : ByteText :=
    let digits := Numeral.decimal n
    (if l.hasTab then alignRight size digits else digits) ++ [mark]
  let body := named ++ (if l.hasNumber then wide number 2 else [])
    ++ (if l.hasPosition then wide position 3 else [])
  if l.hasTab && !body.isEmpty then body ++ ['\t'] else body

/-- Say a line, or the parts of it that match. -/
def sayLine (l : Listing) (s : Selection) (name : ByteText) (isSelected : Bool) (line : PlacedLine) :
    ByteText :=
  let mark := if isSelected then ':' else '-'
  match l.kind with
  | .parts =>
      if !isSelected || s.negated then []
      else
        (s.found line.text).flatMap fun (index, text) =>
          if text.isEmpty then []
          else l.front name mark line.number (line.position + index) ++ text ++ [l.ending]
  | .lines => l.front name mark line.number line.position ++ line.text ++ [l.ending]
  | _ => []

/-- The selected lines with those around them: the lines that are kept for the next one that is
selected, how many lines are still said behind the last one, whether something was said, and whether
lines were left out since. -/
structure Progress where
  kept : List PlacedLine
  follow : Nat
  hasSaid : Bool
  hasGap : Bool
  count : Nat
  said : List ByteText

/-- Take one more line into account. -/
def step (l : Listing) (s : Selection) (name : ByteText) (p : Progress) (line : PlacedLine)
    (isSelected : Bool) : Progress :=
  if isSelected then
    let separated := p.hasSaid && p.hasGap && l.separates
    let mark := if separated then [['-', '-', '\n']] else []
    let lines := p.kept.reverse.map (l.sayLine s name false) ++ [l.sayLine s name true line]
    { kept := [], follow := l.after, hasSaid := true, hasGap := false, count := p.count + 1
      said := lines.reverse ++ mark ++ p.said }
  else if 0 < p.follow then
    { p with follow := p.follow - 1, said := l.sayLine s name false line :: p.said }
  else if l.before = 0 then { p with hasGap := true }
  else
    { p with
      kept := (line :: p.kept).take l.before
      hasGap := p.hasGap || l.before ≤ p.kept.length }

/-- Go through the lines of a text until so many are selected; what is left unread then. -/
def run (l : Listing) (s : Selection) (name : ByteText) : Progress → List PlacedLine →
    Progress × List PlacedLine
  | p, [] => (p, [])
  | p, line :: rest =>
      if l.most.any (· ≤ p.count) then
        let trailing := (line :: rest).take p.follow
        (trailing.foldl (fun p other => l.step s name p other false) p, line :: rest)
      else l.run s name (l.step s name p line (s.selects line.text)) rest

end Listing

/-- Whether no more of a text is looked at when a line is selected. -/
def Listing.stops (l : Listing) : Bool :=
  l.kind = .names || l.kind = .otherNames || l.kind = .nothing

/-- What came of one text: what is said, whether it is said of the text that it is none, the number
of selected lines, and what was not read. -/
structure Listed where
  said : ByteText
  isBinary : Bool
  count : Nat
  unread : Nat
  hasSaid : Bool

/-- Look for lines in a text. -/
def Listing.list (l : Listing) (s : Selection) (name : ByteText) (hasSaid : Bool) (text : ByteText) :
    Listed :=
  let isBinary := !l.asText && l.ending = '\n' && text.contains '\x00'
  let lines := place 1 0 (if l.ending = '\n' then ByteText.lines text
    else (ByteText.split l.ending (if text.getLast? = some l.ending then text.dropLast else text)))
  let l' : Listing := if isBinary && (l.kind = .lines || l.kind = .parts) then
      { l with most := some 1, kind := .nothing }
    else l
  let (p, rest) := l'.run s name ⟨[], 0, hasSaid, hasSaid, 0, []⟩ lines
  let nameEnd := if l.endsName then ['\x00'] else ['\n']
  let said := match l.kind with
    | .lines | .parts =>
        if isBinary then name ++ chars ": binary file matches" else p.said.reverse.flatten
    | .count => (if l.hasName then name ++ [if l.endsName then '\x00' else ':'] else [])
        ++ Numeral.decimal p.count ++ ['\n']
    | .names => if p.count = 0 then [] else name ++ nameEnd
    | .otherNames => if p.count = 0 then name ++ nameEnd else []
    | .nothing => []
  let unread := match rest with
    | line :: _ => text.length - line.position
    | [] => 0
  ⟨said, isBinary && l'.kind ≠ l.kind, p.count, if l.stops then 0 else unread, p.hasSaid⟩

namespace Tool

/-- The options of the tool that looks for lines. -/
def grepOptions : OptionForm :=
  ⟨"0123456789A:B:C:EFGHILPTUVX:abcd:e:f:hiLlm:noqRrsuvwxyZzpj:",
    [("after-context", 'A'), ("before-context", 'B'), ("context", 'C'), ("extended-regexp", 'E'),
      ("fixed-strings", 'F'), ("basic-regexp", 'G'), ("with-filename", 'H'), ("perl-regexp", 'P'),
      ("text", 'a'), ("byte-offset", 'b'), ("count", 'c'), ("regexp", 'e'), ("file", 'f'),
      ("no-filename", 'h'), ("ignore-case", 'i'), ("files-without-match", 'L'),
      ("files-with-matches", 'l'), ("max-count", 'm'), ("line-number", 'n'), ("only-matching", 'o'),
      ("quiet", 'q'), ("silent", 'q'), ("recursive", 'r'), ("no-messages", 's'),
      ("invert-match", 'v'), ("word-regexp", 'w'), ("line-regexp", 'x'), ("null", 'Z'),
      ("null-data", 'z'), ("initial-tab", 'T'), ("color", 'u'), ("colour", 'u'), ("label", 'j'),
      ("line-buffered", 'p'), ("no-ignore-case", 'p')], true⟩

/-- What is said of a wrong call. -/
def grepUsage (said : List Remark) : List Remark :=
  said ++ [⟨true, chars "Usage: grep [OPTION]... PATTERNS [FILE]...\n"
    ++ chars "Try 'grep --help' for more information.\n"⟩]

/-- The texts of patterns: what options and files give, or the first operand. -/
def patternTexts (t : Task) (m : Machine) (o : Options) :
    Except (ByteText × Errno) (List ByteText × List ByteText) :=
  let step (done : List ByteText) (e : Char × ByteText) : Except (ByteText × Errno) (List ByteText) :=
    match e with
    | ('e', text) => .ok (done ++ ByteText.split '\n' text)
    | ('f', path) =>
        match (t.source m path).text with
        | .ok text => .ok (done ++ ByteText.lines text)
        | .error e => .error (path, e)
    | _ => .ok done
  if o.has 'e' || o.has 'f' then (o.given.foldlM step []).map fun texts => (texts, o.operands)
  else .ok (ByteText.split '\n' (o.operands.headD []), o.operands.drop 1)

mutual

/-- The files below a node that is reached by a path, each with its path. -/
def filesBelow (path : ByteText) : Node → List ByteText
  | .directory _ entries => filesAmong path entries
  | .file .. => [path]
  | _ => []

/-- The files among entries of the directory of a path. -/
def filesAmong (path : ByteText) : List (ByteText × Node) → List ByteText
  | [] => []
  | (name, node) :: rest =>
      filesBelow (Machine.inside path name) node ++ filesAmong path rest

end

/-- The paths that are looked through: those of all files below the operands, if so wanted. -/
def searchedPaths (m : Machine) (recursive : Bool) (operands : List ByteText) : List ByteText :=
  if !recursive then (if operands.isEmpty then [['-']] else operands)
  else
    let operands := if operands.isEmpty then [['.']] else operands
    operands.flatMap fun path =>
      match m.stat path with
      | .ok (.directory mode entries) => filesBelow path (.directory mode entries)
      | _ => [path]

/-- A number that an option gives. -/
def countOf? (o : Options) (letter : Char) : Except ByteText (Option Nat) :=
  match o.value? letter with
  | none => .ok none
  | some text =>
      if !text.isEmpty && text.all Numeral.isDigit then .ok (some (Numeral.ofDigits text))
      else .error text

/-- Look for lines in the texts. -/
def grepTexts (t : Task) (m : Machine) (o : Options) (l : Listing) (s : Selection)
    (paths : List ByteText) : Effect :=
  let isQuiet := o.has 'q'
  let step (state : List Remark × Nat × Bool × Bool × Nat) (path : ByteText) :
      List Remark × Nat × Bool × Bool × Nat :=
    let (said, count, failed, hasSaid, unread) := state
    if isQuiet && 0 < count then state
    else
      let source := t.source m path
      let name := if source.isInput then (o.value? 'j').getD (chars "(standard input)") else path
      match source.text with
      | .error e =>
          let complaint := if o.has 's' then [] else
            [t.complainOf (if source.isInput then name else path) e]
          let listed : List Remark := if !source.isOpened || e = Errno.badDescriptor then []
            else if l.kind = .count || l.kind = .otherNames then
              [⟨false, (l.list s name hasSaid []).said⟩]
            else []
          (said ++ complaint ++ listed, count, true, hasSaid, unread)
      | .ok text =>
          let listed := l.list s name hasSaid text
          let this : List Remark :=
            if !listed.isBinary then [⟨false, listed.said⟩]
            else if listed.count = 0 || l.kind = .parts && s.negated then []
            else [{ t.complain listed.said with isError := false }]
          (said ++ this, count + listed.count, failed, listed.hasSaid,
            if source.isInput then listed.unread else unread)
  let (said, count, failed, _, unread) := paths.foldl step ([], 0, false, false, 0)
  let said := if isQuiet then said.filter (·.isError) else said
  let status := if failed && !(isQuiet && 0 < count) then 2 else if 0 < count then 0 else 1
  { (Effect.ended m said status).reading m paths with unread }

/-- Look for lines with expressions of a spelling, or of none at all. -/
def grepBy (spelling : Option Regex.Spelling) (t : Task) (m : Machine) (o : Options) : Effect :=
  if o.operands.isEmpty && !o.has 'e' && !o.has 'f' then .ended m (grepUsage []) 2
  else
    let context := o.given.filterMap fun e => if Numeral.isDigit e.1 then some e.1 else none
    match countOf? o 'm', countOf? o 'A', countOf? o 'B', countOf? o 'C' with
    | .error _, _, _, _ => .failed m (t.complain (chars "invalid max count")) 2
    | _, .error text, _, _ | _, _, .error text, _ | _, _, _, .error text =>
        .failed m (t.complain (text ++ chars ": invalid context length argument")) 2
    | .ok most, .ok after, .ok before, .ok around =>
        match patternTexts t m o with
        | .error (path, e) => .failed m (t.complainOf path e) 2
        | .ok (texts, operands) =>
            let parse (text : ByteText) : Except Regex.Flaw Regex := match spelling with
              | some spelling => Regex.parse spelling text
              | none => .ok (Regex.ofText text)
            match texts.mapM parse with
            | .error flaw => .failed m (t.complain (chars flaw.message)) 2
            | .ok all =>
                let regex := match all.reverse with
                  | [] => none
                  | last :: others => some (others.foldl (fun body r => .either r body) last)
                let around := if context.isEmpty then around
                  else some (Numeral.ofDigits context)
                let recursive := o.has 'r' || o.has 'R'
                let paths := searchedPaths m recursive operands
                let isMany := 1 < operands.length
                  || recursive && (operands.isEmpty || operands.any m.isDirectory)
                let kind : ListingKind :=
                  if o.has 'q' then .nothing
                  else
                    match o.lastOf? ['l', 'L'] with
                    | some 'l' => .names
                    | some _ => .otherNames
                    | none => if o.has 'c' then .count else if o.has 'o' then .parts else .lines
                let stops := kind = .names || kind = .otherNames || kind = .nothing
                let l : Listing :=
                  { kind, hasName := match o.lastOf? ['H', 'h'] with
                      | some c => c = 'H'
                      | none => isMany
                    hasNumber := o.has 'n', hasPosition := o.has 'b', hasTab := o.has 'T'
                    endsName := o.has 'Z'
                    separates := !o.has 'o' && (before.or after |>.or around).isSome
                    before := if o.has 'o' then 0 else (before.or around).getD 0
                    after := if o.has 'o' then 0 else (after.or around).getD 0
                    most := if stops then some (min 1 (most.getD 1)) else most
                    asText := o.has 'a', ending := if o.has 'z' then '\x00' else '\n' }
                let s : Selection :=
                  { regex, manner := ⟨o.has 'i' || o.has 'y', false⟩, byWords := o.has 'w'
                    byLines := o.has 'x', negated := o.has 'v' }
                let paths := if recursive && operands.isEmpty then
                    paths.map fun path => if ['.', '/'].isPrefixOf path then path.drop 2 else path
                  else paths
                let isHopeless := most = some 0
                  || texts = [[]] && o.has 'v' && !(o.has 'x' || o.has 'w')
                if isHopeless && kind ≠ .otherNames then .quiet m 1
                else grepTexts t m o l s paths

/-- The spelling that an option asks for, the last one of them. -/
def grepSpelling (o : Options) (letter : Char) : Option Regex.Spelling :=
  match (o.lastOf? ['E', 'F', 'G', 'P']).getD letter with
  | 'F' => none
  | 'G' => some ⟨.basic, false, false, true⟩
  | _ => some ⟨.extended, false, false, true⟩

/-- Look for lines, with expressions of the spelling that a letter stands for where no option asks
for another one. -/
def grepAs (letter : Char) : Tool := fun t m =>
  let t := if letter = 'G' then t else { t with name := chars "grep" }
  match grepOptions.readFrom (t.arguments.length + 1) [] [] t.arguments with
  | .error text => .ended m (grepUsage [t.complain text]) 2
  | .ok o => grepBy (grepSpelling o letter) t m o

/-- Look for lines. -/
def grep : Tool := grepAs 'G'

/-- Look for lines with extended expressions. -/
def egrep : Tool := grepAs 'E'

/-- Look for lines with plain texts. -/
def fgrep : Tool := grepAs 'F'

end Tool

end AssemblyGate
