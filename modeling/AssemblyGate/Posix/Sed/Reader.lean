/-
**Reading scripts of the stream editor.**

A script is read command by command.  What is wrong with it is told with the number of characters
that were read by then.

Main definitions:

* `AssemblyGate.Sed.Flaw` — what may be wrong with a script, and where;
* `AssemblyGate.Sed.readScript` — the commands that a text spells.
-/
import AssemblyGate.Posix.Sed.Script
import AssemblyGate.Text.Numeral

set_option autoImplicit false

namespace AssemblyGate.Sed

/-- What is wrong with a script: a message, and how much of the script was not read yet, unless it
was found only at the end. -/
structure Flaw where
  message : String
  rest : Option Nat
deriving DecidableEq

/-- A step of reading: what was read, and what follows. -/
abbrev Reading (α : Type) := Except Flaw (α × ByteText)

/-- Refuse a script at a place. -/
def refuse {α : Type} (message : String) (rest : ByteText) : Except Flaw α :=
  .error ⟨message, some rest.length⟩

/-- Whether a character is a blank. -/
def isBlank (c : Char) : Bool := c = ' ' || c = '\t'

/-- Whether a character is white space. -/
def isSpace (c : Char) : Bool := c = ' ' || ('\t' ≤ c && c ≤ '\r')

/-- The text behind blanks. -/
def skipBlanks (input : ByteText) : ByteText := input.dropWhile isBlank

/-- How expressions are spelled. -/
def spelling (isExtended : Bool) : Regex.Spelling :=
  ⟨if isExtended then .extended else .basic, true, true, true⟩

/-! ### Parts between marks -/

/-- The rest of a list in brackets, last character first, up to the closing bracket.  `mark` is the
mark of a class that is still open. -/
def bracketRest (mark : Option Char) (first : Bool) (done : ByteText) : ByteText → ByteText × ByteText
  | [] => (done, [])
  | c :: rest =>
      match mark, rest with
      | some k, ']' :: more =>
          if c = k then bracketRest none false (']' :: c :: done) more
          else bracketRest mark false (c :: done) (']' :: more)
      | some _, rest => bracketRest mark false (c :: done) rest
      | none, rest =>
          if c = '\n' then (done, c :: rest)
          else if c = ']' && !first then (c :: done, rest)
          else if c = '[' then
            match rest with
            | k :: more =>
                if k = ':' || k = '.' || k = '='
                  then bracketRest (some k) false (k :: c :: done) more
                else bracketRest none false (c :: done) (k :: more)
            | [] => (c :: done, [])
          else bracketRest none false (c :: done) rest
termination_by input => input.length

/-- The text up to a mark, and what follows it.  A mark behind a backslash stands for itself, and in
an expression a mark in brackets does too. -/
def between (mark : Char) (isRegex : Bool) : Nat → ByteText → ByteText →
    Option (ByteText × ByteText)
  | 0, _, _ => none
  | _, _, [] => none
  | room + 1, done, c :: rest =>
      if c = mark then some (done.reverse, rest)
      else if c = '\n' then none
      else if c = '\\' then
        match rest with
        | [] => none
        | d :: rest =>
            if d = 'n' && isRegex then between mark isRegex room ('\n' :: done) rest
            else if d = '\n' then between mark isRegex room (d :: done) rest
            else if d = mark && (isRegex || d ≠ '&') then between mark isRegex room (d :: done) rest
            else between mark isRegex room (d :: '\\' :: done) rest
      else if c = '[' && isRegex then
        let (done, rest) := match rest with
          | '^' :: more => bracketRest none true ('^' :: c :: done) more
          | rest => bracketRest none true (c :: done) rest
        between mark isRegex room done rest
      else between mark isRegex room (c :: done) rest

/-- What is left of a text that was looked through up to the end of its line. -/
def behindLine (input : ByteText) : ByteText := input.dropWhile (· ≠ '\n')

/-- The number at the front of a text. -/
def readNumber (input : ByteText) : Nat × ByteText :=
  (Numeral.ofDigits (input.takeWhile Numeral.isDigit), input.dropWhile Numeral.isDigit)

/-- The expression that a text spells; an empty text stands for the one used last. -/
def readPattern (isExtended : Bool) (text : ByteText) (manner : Regex.Manner) (rest : ByteText) :
    Except Flaw Pattern :=
  if text.isEmpty then .ok none
  else
    match Regex.parse (spelling isExtended) text with
    | .ok regex => .ok (some (regex, manner))
    | .error flaw => refuse flaw.message rest

/-! ### Addresses -/

/-- The letters behind an expression of an address. -/
def readManner (manner : Regex.Manner) : ByteText → Regex.Manner × ByteText
  | [] => (manner, [])
  | c :: rest =>
      if isBlank c then readManner manner rest
      else if c = 'I' then readManner { manner with anyCase := true } rest
      else if c = 'M' then readManner { manner with byLines := true } rest
      else (manner, c :: rest)

/-- The address at the front of a text, if there is one. -/
def readAddress (isExtended : Bool) (input : ByteText) : Reading (Option Address) :=
  let pattern (mark : Char) (rest : ByteText) : Reading (Option Address) :=
    match between mark true (rest.length + 1) [] rest with
    | none => refuse "unterminated address regex" (behindLine rest)
    | some (text, rest) =>
        let (manner, rest) := readManner .plain rest
        (readPattern isExtended text manner rest).map fun p => (some (.text p), rest)
  match input with
  | '/' :: rest => pattern '/' rest
  | '\\' :: mark :: rest => pattern mark rest
  | '$' :: rest => .ok (some .last, rest)
  | c :: rest =>
      if Numeral.isDigit c then
        let (n, rest) := readNumber (c :: rest)
        match skipBlanks rest with
        | '~' :: more =>
            let (step, rest) := readNumber (skipBlanks more)
            .ok (some (if step = 0 then .line n else .step n step), rest)
        | _ => .ok (some (.line n), rest)
      else .ok (none, input)
  | [] => .ok (none, [])

/-- The end of a range at the front of a text. -/
def readBound (isExtended : Bool) (input : ByteText) : Reading Bound :=
  match input with
  | '+' :: rest =>
      let (n, rest) := readNumber (skipBlanks rest)
      .ok (.behind n, rest)
  | '~' :: rest =>
      let (n, rest) := readNumber (skipBlanks rest)
      .ok (.multiple n, rest)
  | _ =>
      match readAddress isExtended input with
      | .error flaw => .error flaw
      | .ok (some a, rest) => .ok (.address a, rest)
      | .ok (none, rest) => refuse "unexpected \x60,'" (rest.drop 1)

/-- The exclamation mark behind addresses. -/
def readNegation (input : ByteText) : Reading Bool :=
  match skipBlanks input with
  | '!' :: rest =>
      match skipBlanks rest with
      | '!' :: more => refuse "multiple \x60!'s" more
      | rest => .ok (true, rest)
  | rest => .ok (false, rest)

/-- The lines that a command is for. -/
def readGuard (isExtended : Bool) (input : ByteText) : Reading Guard :=
  match input with
  | c :: rest =>
      if c = '+' || c = '~' then
        refuse "invalid usage of +N or ~N as first address" ((readNumber (skipBlanks rest)).2)
      else
        match readAddress isExtended input with
        | .error flaw => .error flaw
        | .ok (none, rest) => (readNegation rest).map fun (negated, rest) =>
            (⟨none, none, negated⟩, rest)
        | .ok (some first, rest) =>
            let second : Reading (Option Bound) := match skipBlanks rest with
              | ',' :: more =>
                  (readBound isExtended (skipBlanks more)).map fun (b, rest) => (some b, rest)
              | rest => .ok (none, rest)
            match second with
            | .error flaw => .error flaw
            | .ok (second, rest) =>
                let isText : Bool := match second with
                  | some (.address (.text _)) => true
                  | _ => false
                if first = .line 0 && !isText then
                  refuse "invalid usage of line address 0" ((skipBlanks rest).drop 1)
                else
                  (readNegation rest).map fun (negated, rest) =>
                    (⟨some first, second, negated⟩, rest)
  | [] => .ok (⟨none, none, false⟩, [])

/-! ### Parts of commands -/

/-- The end of a command: the end of a line, a semicolon, or what may follow at once. -/
def readEnd (input : ByteText) : Except Flaw ByteText :=
  match input.dropWhile fun c => isSpace c && c ≠ '\n' with
  | [] => .ok []
  | c :: rest =>
      if c = '\n' || c = ';' then .ok rest
      else if c = '\x7d' || c = '#' then .ok (c :: rest)
      else refuse "extra characters after command" rest

/-- The byte that a letter with a number behind a backslash stands for, and what follows. -/
def readByte (input : ByteText) : Option (Char × ByteText) :=
  Regex.readControl? (spelling false) input

/-- A text that stands behind a command, up to the end of its line.  A backslash at the end of a
line makes the text go on. -/
def readTextFrom : Nat → ByteText → ByteText → ByteText × ByteText
  | 0, done, rest => (done.reverse, rest)
  | _, done, [] => (done.reverse, [])
  | room + 1, done, '\\' :: rest =>
      match readByte rest with
      | some (byte, rest) => readTextFrom room (byte :: done) rest
      | none =>
          match rest with
          | c :: rest => readTextFrom room (c :: done) rest
          | [] => (done.reverse, [])
  | room + 1, done, c :: rest =>
      if c = '\n' then (done.reverse, rest) else readTextFrom room (c :: done) rest

/-- The text of a command, which may begin on the next line. -/
def readText (input : ByteText) : Reading ByteText :=
  let take (input : ByteText) : Reading ByteText :=
    let (text, rest) := readTextFrom (input.length + 1) [] input
    .ok (text ++ ['\n'], rest)
  match skipBlanks input with
  | [] => refuse "expected \\ after \x60a', \x60c' or \x60i'" []
  | '\\' :: rest =>
      match skipBlanks rest with
      | '\n' :: more => take more
      | [] => .ok ([], [])
      | _ => take rest
  | rest => if rest.head? = some '\n' then
        refuse "expected \\ after \x60a', \x60c' or \x60i'" rest
      else take rest

/-- The name of a file behind a command. -/
def readName (input : ByteText) : Reading ByteText :=
  let start := skipBlanks input
  let name := start.takeWhile (· ≠ '\n')
  if name.isEmpty then refuse "missing filename in r/R/w/W commands" start
  else .ok (name, start.drop (name.length + 1))

/-- A label behind a command. -/
def readLabel (input : ByteText) : ByteText × ByteText :=
  let start := skipBlanks input
  let name := start.takeWhile fun c => !isSpace c && c ≠ ';' && c ≠ '\x7d'
  (name, start.drop name.length)

/-- The parts of a replacement. -/
def readReplacement : Nat → ByteText → Replacement
  | 0, _ => []
  | _, [] => []
  | room + 1, '&' :: rest => .group 0 :: readReplacement room rest
  | room + 1, '\\' :: rest =>
      match rest with
      | [] => [.text '\\']
      | c :: more =>
          if Numeral.isDigit c then .group (c.toNat - '0'.toNat) :: readReplacement room more
          else
            match c with
            | 'U' => .setCase (some .upper) :: readReplacement room more
            | 'L' => .setCase (some .lower) :: readReplacement room more
            | 'E' => .setCase none :: readReplacement room more
            | 'u' => .nextCase .upper :: readReplacement room more
            | 'l' => .nextCase .lower :: readReplacement room more
            | _ =>
                match readByte rest with
                | some (byte, rest) => .text byte :: readReplacement room rest
                | none => .text c :: readReplacement room more
  | room + 1, c :: rest => .text c :: readReplacement room rest

/-- The flags of a substitution. -/
structure Flags where
  manner : Regex.Manner
  number : Option Nat
  isGlobal : Bool
  isSaid : Bool
  runs : Bool
  file : Option ByteText

/-- The flags behind a substitution. -/
def readFlags : Nat → Flags → ByteText → Reading Flags
  | 0, f, rest => .ok (f, rest)
  | _, f, [] => .ok (f, [])
  | room + 1, f, c :: rest =>
      match c with
      | 'i' | 'I' => readFlags room { f with manner := { f.manner with anyCase := true } } rest
      | 'm' | 'M' => readFlags room { f with manner := { f.manner with byLines := true } } rest
      | 'e' => readFlags room { f with runs := true } rest
      | 'p' =>
          if f.isSaid then refuse "multiple \x60p' options to \x60s' command" rest
          else readFlags room { f with isSaid := true } rest
      | 'g' =>
          if f.isGlobal then refuse "multiple \x60g' options to \x60s' command" rest
          else readFlags room { f with isGlobal := true } rest
      | 'w' => (readName rest).map fun (name, rest) => ({ f with file := some name }, rest)
      | '\x7d' | '#' => .ok (f, c :: rest)
      | '\n' | ';' => .ok (f, rest)
      | _ =>
          if Numeral.isDigit c then
            let (n, more) := readNumber (c :: rest)
            if f.number.isSome then refuse "multiple number options to \x60s' command" more
            else if n = 0 then refuse "number option to \x60s' command may not be zero" more
            else readFlags room { f with number := some n } more
          else if isSpace c then readFlags room f rest
          else refuse "unknown option to \x60s'" rest

/-- A substitution behind its letter. -/
def readSubstitution (isExtended : Bool) (input : ByteText) : Reading Action :=
  let unterminated (rest : ByteText) : Reading Action :=
    refuse "unterminated \x60s' command" (behindLine rest)
  match input with
  | [] => unterminated []
  | mark :: rest =>
      if mark = '\n' || mark = '\\' then unterminated rest
      else
        match between mark true (rest.length + 1) [] rest with
        | none => unterminated rest
        | some (text, rest) =>
            match between mark false (rest.length + 1) [] rest with
            | none => unterminated rest
            | some (other, rest) =>
                match readFlags (rest.length + 1) ⟨.plain, none, false, false, false,
                  none⟩ rest with
                | .error flaw => .error flaw
                | .ok (f, rest) =>
                    match readPattern isExtended text f.manner rest with
                    | .error flaw => .error flaw
                    | .ok pattern =>
                        let replacement := readReplacement (other.length + 1) other
                        let groups := (pattern.map fun p => p.1.groupCount).getD 9
                        if groups < replacement.highest then
                          refuse (String.ofList ("invalid reference \\".toList
                            ++ Numeral.decimal replacement.highest
                            ++ " on \x60s' command's RHS".toList)) rest
                        else
                          .ok (.substitute ⟨pattern, replacement, f.number.getD 1, f.isGlobal, f.isSaid,
                            f.runs, f.file⟩, rest)

/-- The characters of one side of a table of characters. -/
def readTable : Nat → ByteText → ByteText
  | 0, _ => []
  | _, [] => []
  | room + 1, '\\' :: rest =>
      match rest with
      | '\\' :: more => '\\' :: readTable room more
      | _ =>
          match readByte rest with
          | some (byte, rest) => byte :: readTable room rest
          | none => '\\' :: readTable room rest
  | room + 1, c :: rest => c :: readTable room rest

/-- A table of characters behind its letter. -/
def readReplacing (input : ByteText) : Reading Action :=
  let unterminated (rest : ByteText) : Reading Action :=
    refuse "unterminated \x60y' command" (behindLine rest)
  match input with
  | [] => unterminated []
  | mark :: rest =>
      match between mark false (rest.length + 1) [] rest with
      | none => unterminated rest
      | some (a, rest) =>
          match between mark false (rest.length + 1) [] rest with
          | none => unterminated rest
          | some (b, rest) =>
              let source := readTable (a.length + 1) a
              let target := readTable (b.length + 1) b
              if source.length ≠ target.length then
                refuse "strings for \x60y' command are different lengths" rest
              else (readEnd rest).map fun rest => (.replace (source.zip target), rest)

/-! ### Commands -/

/-- The letters of commands that stand alone. -/
def plainActions : List (Char × Action) :=
  [('=', .sayNumber), ('d', .delete), ('D', .deleteFirst), ('F', .sayFile), ('g', .fetch),
    ('G', .fetchAppend), ('h', .store), ('H', .storeAppend), ('n', .next), ('N', .nextAppend),
    ('p', .say), ('P', .sayFirst), ('z', .clear), ('x', .exchange)]

/-- A number behind a command, if there is one, and the end of the command. -/
def readCount (input : ByteText) : Reading (Option Nat) :=
  let start := skipBlanks input
  if start.head?.any Numeral.isDigit then
    let (n, rest) := readNumber start
    (readEnd rest).map fun rest => (some n, rest)
  else (readEnd start).map fun rest => (none, rest)

/-- What a command does whose letter was read.  `depth` counts the blocks that are open. -/
def readAction (isExtended : Bool) (depth : Nat) (guard : Guard) (c : Char) (rest : ByteText) :
    Reading Action :=
  match c with
  | '\x7b' => .ok (.opens, rest)
  | '\x7d' =>
      if depth = 0 then refuse "unexpected \x60\x7d'" rest
      else if guard.first.isSome then refuse "\x7d doesn't want any addresses" rest
      else (readEnd rest).map fun rest => (.closes, rest)
  | 'a' => (readText rest).map fun (text, rest) => (.append text, rest)
  | 'i' => (readText rest).map fun (text, rest) => (.insert text, rest)
  | 'c' => (readText rest).map fun (text, rest) => (.change text, rest)
  | 'e' =>
      let start := skipBlanks rest
      let command := start.takeWhile (· ≠ '\n')
      .ok (.execute command, start.drop (command.length + 1))
  | ':' =>
      if guard.first.isSome then refuse ": doesn't want any addresses" rest
      else
        let (name, rest) := readLabel rest
        if name.isEmpty then refuse "\":\" lacks a label" rest else .ok (.label name, rest)
  | 'b' =>
      let (name, rest) := readLabel rest
      (readEnd rest).map fun rest => (.jump .always name, rest)
  | 't' =>
      let (name, rest) := readLabel rest
      (readEnd rest).map fun rest => (.jump .ifReplaced name, rest)
  | 'T' =>
      let (name, rest) := readLabel rest
      (readEnd rest).map fun rest => (.jump .unlessReplaced name, rest)
  | 'q' | 'Q' =>
      if guard.second.isSome then refuse "command only uses one address" rest
      else (readCount rest).map fun (n, rest) => (.quit (c = 'q') (n.getD 0), rest)
  | 'l' => (readCount rest).map fun (n, rest) => (.list n, rest)
  | 'r' => (readName rest).map fun (name, rest) => (.read name, rest)
  | 'R' => (readName rest).map fun (name, rest) => (.readLine name, rest)
  | 'w' => (readName rest).map fun (name, rest) => (.write name, rest)
  | 'W' => (readName rest).map fun (name, rest) => (.writeFirst name, rest)
  | 's' => readSubstitution isExtended rest
  | 'y' => readReplacing rest
  | 'v' =>
      let (_, rest) := readLabel rest
      (readEnd rest).map fun rest => (.nothing, rest)
  | _ =>
      match plainActions.find? fun e => e.1 == c with
      | some (_, action) => (readEnd rest).map fun rest => (action, rest)
      | none => refuse (String.ofList ("unknown command: \x60".toList ++ [c, '\x27'])) rest

/-- The commands that a text spells, read one by one. -/
def readCommands (isExtended : Bool) : Nat → Nat → List Command → ByteText →
    Except Flaw (List Command)
  | 0, _, done, _ => .ok done.reverse
  | room + 1, depth, done, input =>
      match input.dropWhile fun c => isSpace c || c = ';' with
      | [] =>
          if depth = 0 then .ok done.reverse else .error ⟨"unmatched \x60\x7b'", none⟩
      | start =>
          match readGuard isExtended start with
          | .error flaw => .error flaw
          | .ok (guard, rest) =>
              match rest with
              | [] => refuse "missing command" []
              | '#' :: rest =>
                  if guard.first.isSome then refuse "comments don't accept any addresses" rest
                  else readCommands isExtended room depth done (behindLine rest)
              | c :: rest =>
                  if c = '\n' then refuse "missing command" rest
                  else
                    match readAction isExtended depth guard c rest with
                    | .error flaw => .error flaw
                    | .ok (action, rest) =>
                        let depth := match action with
                          | .opens => depth + 1
                          | .closes => depth - 1
                          | _ => depth
                        readCommands isExtended room depth (⟨guard, action⟩ :: done) rest

/-- The commands that a script spells. -/
def readScript (isExtended : Bool) (text : ByteText) : Except Flaw (List Command) :=
  readCommands isExtended (text.length + 1) 0 [] text

/-- The label of a jump that is not there. -/
def missingLabel (script : List Command) : Option ByteText :=
  script.findSome? fun command => match command.action with
    | .jump _ label =>
        if label.isEmpty || script.any fun other => other.action = .label label then none
          else some label
    | _ => none

end AssemblyGate.Sed
