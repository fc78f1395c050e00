/-
**Reading shell scripts.**

A script is read one complete command at a time, since a command may change how the next one is
read.  Words stand in commands and commands in words, so the readers of both call one another; each
call has less fuel than the one it comes from, and the fuel that a script is given never runs out.

Main definitions:

* `AssemblyGate.Shell.Place` — where the parts of a word stand;
* `AssemblyGate.Shell.Reader.parts`, `AssemblyGate.Shell.Reader.token` — words and tokens;
* `AssemblyGate.Shell.Reader.list`, `AssemblyGate.Shell.Reader.command` — lists and commands;
* `AssemblyGate.Shell.readCommand` — the next complete command of a script.
-/
import AssemblyGate.Posix.Shell.Reading

set_option autoImplicit false

namespace AssemblyGate.Shell

/-! ### Places -/

/-- Where the parts of a word stand: in the open, between quotes, in the braces of a parameter which
may stand in quotes or in a text behind a command, in an arithmetic expression or in parentheses
inside one, or in a text that stands behind a command. -/
inductive Place
  | bare
  | quotes
  | brace (quoted inDocument : Bool)
  | arithmetic
  | parentheses
  | document
deriving DecidableEq

/-- Whether plain text of a place counts as quoted. -/
def Place.isQuoted : Place → Bool
  | .bare => false
  | .brace quoted _ => quoted
  | _ => true

/-- Whether quotes have their meaning in a place. -/
def Place.takesQuotes : Place → Bool
  | .bare | .brace false _ => true
  | _ => false

/-- Whether a backslash in a place quotes the character after it and is taken away. -/
def Place.escapes (place : Place) (c : Char) : Bool :=
  let always := c = '$' || c = '\x60' || c = '\\'
  match place with
  | .bare | .brace false _ => true
  | .brace true _ => always || c = '"' || c = '\x7d'
  | .document => always
  | _ => always || c = '"'

/-- Whether a place is in a text that stands behind a command. -/
def Place.isInDocument : Place → Bool
  | .document | .brace _ true => true
  | _ => false

/-- Whether double quotes in a place only turn quoting on and off. -/
def Place.isQuotedBrace : Place → Bool
  | .brace quoted _ => quoted
  | _ => false

/-- What is wrong with a script that ends in a place. -/
def Place.openEnd : Place → String
  | .bare | .brace false _ | .brace _ true | .document => "Missing '\x7d'"
  | .quotes | .brace true false => "Unterminated quoted string"
  | .arithmetic | .parentheses => "Missing '))'"

/-- Add a part to others, given last one first; texts of one kind are joined. -/
def addPart (part : Part) (done : List Part) : List Part :=
  match part, done with
  | .text q [c], .text r (d :: more) :: rest =>
      if q = r then .text r (c :: d :: more) :: rest else part :: done
  | _, _ => part :: done

/-- A part with its text the other way round, as it stands while parts are gathered. -/
def turned : Part → Part
  | .text q chars => .text q chars.reverse
  | other => other

/-- Parts that were gathered last one first, with the texts among them the right way round. -/
def gathered (done : List Part) : List Part :=
  done.reverse.map turned

/-! ### Assignments and texts behind commands -/

/-- The name and the value of a word that is an assignment. -/
def assignment? (word : List Part) : Option (ByteText × List Part) :=
  match word with
  | .text false chars :: rest =>
      let name := chars.takeWhile isNameChar
      match chars.dropWhile isNameChar with
      | '=' :: value =>
          if isName name then
            some (name, if value.isEmpty then rest else .text false value :: rest)
          else none
      | _ => none
  | _ => none

/-- A line and what follows it, with the lines that a backslash at the end of one joins to it; the
number of line ends in it. -/
def logicalLine (verbatim : Bool) : Bool → ByteText → Nat → ByteText → ByteText × ByteText × Nat
  | _, done, count, [] => (done.reverse, [], count)
  | escaped, done, count, c :: rest =>
      if c = '\n' then
        if escaped && !verbatim then logicalLine verbatim false (c :: done) (count + 1) rest
        else (done.reverse, rest, count + 1)
      else logicalLine verbatim (c = '\\' && !escaped) (c :: done) count rest

/-- The lines up to one that is a given mark, what follows it, and the number of lines. -/
def textUpTo (a : Awaited) : Nat → ByteText → Nat → ByteText → ByteText × ByteText × Nat
  | 0, done, count, rest => (done, rest, count)
  | room + 1, done, count, input =>
      if input.isEmpty then (done, [], count)
      else
        let input := if a.indented then input.dropWhile (· = '\t') else input
        let (line, rest, lines) := logicalLine a.verbatim false [] 0 input
        if line = a.mark then (done, rest, count + lines)
        else
          let text := if lines = 0 then line else line ++ ['\n']
          textUpTo a room (done ++ text) (count + lines) rest

/-! ### Readers -/

namespace Reader

open ReadM

/-- What a reader of tokens looks out for: whether line ends are passed over, whether reserved words
count, whether names that stand for texts do, and whether the end of a text is being named. -/
structure Wish where
  passLines : Bool
  keywords : Bool
  aliases : Bool
  isMark : Bool

/-- Nothing in particular. -/
def Wish.word : Wish := ⟨false, false, false, false⟩

/-- The beginning of a command, possibly on a later line. -/
def Wish.command : Wish := ⟨true, true, true, false⟩

/-- The beginning of a command on this line. -/
def Wish.sameLine : Wish := ⟨false, true, true, false⟩

/-- A reserved word, possibly on a later line. -/
def Wish.closer : Wish := ⟨true, true, false, false⟩

/-- The mark that ends a text. -/
def Wish.mark : Wish := ⟨false, false, false, true⟩

/-- A reserved word in the quotes of a message. -/
def quoted (text : String) : Option String := some ("\"" ++ text ++ "\"")

/-- What is done with a parameter, from the signs after its name. -/
def change : ReadM Change := do
  let ofSign (blank : Bool) : Option Char → Change
    | some '-' => .orElse blank
    | some '=' => .orAssign blank
    | some '?' => .orFail blank
    | some '+' => .ifSet blank
    | _ => .faulty
  match ← nextUncounted with
  | some ':' => return ofSign true (← nextUncounted)
  | some '#' => return .cutFront (← skip '#')
  | some '%' => return .cutBack (← skip '%')
  | other => return ofSign false other

/-- The text up to the closing single quote. -/
def single : Nat → ByteText → ReadM ByteText
  | 0, done => return done.reverse
  | room + 1, done => do
      match ← next with
      | none => refuse "Unterminated quoted string"
      | some '\x27' => return done.reverse
      | some c => single room (c :: done)

/-- The text between double quotes in the mark of a text, where only a backslash has a meaning. -/
def markQuotes : Nat → ByteText → ReadM ByteText
  | 0, done => return done.reverse
  | room + 1, done => do
      match ← nextJoined with
      | none => refuse "Unterminated quoted string"
      | some '"' => return done.reverse
      | some '\\' => do
          match ← peek with
          | some c =>
              if Place.quotes.escapes c then
                let _ ← next
                markQuotes room (c :: done)
              else markQuotes room ('\\' :: done)
          | none => markQuotes room ('\\' :: done)
      | some c => markQuotes room (c :: done)

/-- The script between backward quotes, backslashes before some characters taken away. -/
def backward (inQuotes : Bool) : Nat → ByteText → ReadM ByteText
  | 0, done => return done.reverse
  | room + 1, done => do
      match ← nextJoined with
      | none => refuse "EOF in backquote substitution"
      | some '\x60' => return done.reverse
      | some '\\' => do
          match ← next with
          | none => refuse "EOF in backquote substitution"
          | some c =>
              if c = '\\' || c = '\x60' || c = '$' || inQuotes && c = '"' then
                backward inQuotes room (c :: done)
              else backward inQuotes room (c :: '\\' :: done)
      | some c => backward inQuotes room (c :: done)

/-- The direction of a redirection, after its first character. -/
def direction (descriptor : Option Nat) (c : Char) : ReadM Token := do
  if c = '>' then
    if ← skip '>' then return .redirection descriptor .append
    else if ← skip '|' then return .redirection descriptor .overwrite
    else if ← skip '&' then return .redirection descriptor .copyOutput
    else return .redirection descriptor .output
  else
    if ← skip '<' then return .document descriptor (← skip '-')
    else if ← skip '&' then return .redirection descriptor .copyInput
    else if ← skip '>' then return .redirection descriptor .both
    else return .redirection descriptor .input

/-- The word that parts are, or the redirection that follows a digit or nothing. -/
def finishWord (parts : List Part) : ReadM Token := do
  let c ← peek
  if c = some '<' || c = some '>' then
    match parts with
    | [] =>
        let _ ← next
        direction none (c.getD '<')
    | [.text false [d]] =>
        if Numeral.isDigit d then
          let _ ← next
          direction (some (d.toNat - '0'.toNat)) (c.getD '<')
        else return .word parts false
    | _ => return .word parts (parts.any isQuote)
  else return .word parts (parts.any isQuote)
where
  /-- Whether a part is the trace of a quote. -/
  isQuote : Part → Bool
    | .text true _ => true
    | _ => false

/-- The text that a name stands for, unless it is being read. -/
def standIn? (parts : List Part) (isQuoted : Bool) : ReadM (Option (ByteText × ByteText)) := do
  let r ← get
  match isQuoted, plainText? parts with
  | false, some name =>
      match r.aliases.find? fun a => a.1 == name with
      | some (_, text) =>
          if r.inUse.any fun u => u.1 == name && u.2 < r.rest.length then return none
          else return some (name, text)
      | none => return none
  | _, _ => return none

/-- What comes of a word where reserved words may count. -/
def classify (w : Wish) (parts : List Part) (isQuoted : Bool) : Token :=
  match isQuoted, w.keywords, plainText? parts with
  | false, true, some text =>
      if keywords.contains (String.ofList text) then .keyword (String.ofList text)
      else .word parts isQuoted
  | _, _, _ => .word parts isQuoted

/-- Wait for a text whose end is named by a word. -/
def await (indented : Bool) (mark : List Part) (isQuoted : Bool) : ReadM Nat := do
  let r ← get
  let text := (mark.map fun
    | .text _ chars => chars
    | _ => []).flatten
  set { r with
    awaited := r.awaited ++ [(⟨r.nextDocument, text, indented, isQuoted⟩ : Awaited)]
    nextDocument := r.nextDocument + 1 }
  return r.nextDocument

/-- The descriptor of a redirection that names none. -/
def usualDescriptor : Direction → Nat
  | .output | .overwrite | .append | .copyOutput => 1
  | _ => 0

/-- The command that a list is together with redirections. -/
def withRedirections (line : Nat) (body : Command) (redirections : List Redirection) : Command :=
  if redirections.isEmpty then body
  else
    match body with
    | .subshell line body _ => .subshell line body redirections
    | .group commands => .redirected line commands redirections
    | other => .redirected line [other] redirections

/-- The names that no function may have. -/
def reservedNames : List String :=
  [".", ":", "break", "continue", "eval", "exec", "exit", "export", "local", "readonly", "return",
    "set", "shift", "times", "trap", "unset"]

mutual

/-- The parts of a place, after those that were read already, last one first. -/
def parts : Nat → Place → List Part → ReadM (List Part)
  | 0, _, done => return gathered done
  | fuel + 1, place, done => do
      let q := place.isQuoted
      let plain (c : Char) : ReadM (List Part) := parts fuel place (addPart (.text q [c]) done)
      match ← peekJoined with
      | none =>
          match place with
          | .bare | .document => return gathered done
          | _ => refuse place.openEnd
      | some c =>
          if place = .bare && endsWord c then return gathered done
          else
            let _ ← next
            if c = '\\' then
              match ← peek with
              | none => parts fuel place (addPart (.text true [c]) done)
              | some d =>
                  let _ ← next
                  if place.escapes d then parts fuel place (addPart (.text true [d]) done)
                  else
                    parts fuel place (addPart (.text true [d]) (addPart (.text true [c]) done))
            else if c = '$' then
              let part ← dollar fuel place
              parts fuel place (addPart part done)
            else if c = '\x60' then
              let script ← backward place.isQuoted ((← get).rest.length + 1) []
              let body ← inside fuel (within script 1 (do
                let (body, _) ← list fuel 2
                return body))
              parts fuel place (.output q body :: done)
            else if c = '\x27' && place.takesQuotes then
              let text ← single ((← get).rest.length + 1) []
              parts fuel place (.text true [] :: .text true text.reverse :: .text true [] :: done)
            else if c = '"' && place.isQuotedBrace then
              let inner ← parts fuel .quotes []
              parts fuel place ((inner.map turned).reverse ++ done)
            else if c = '"' && place.takesQuotes then
              let inner ← parts fuel .quotes []
              parts fuel place (.text true [] :: (inner.map turned).reverse ++
                .text true [] :: done)
            else
              match place, c with
              | .quotes, '"' => return gathered done
              | .brace .., '\x7d' => return gathered done
              | .parentheses, ')' => return gathered done
              | .arithmetic, ')' =>
                  if ← skip ')' then return gathered done else plain c
              | .arithmetic, '(' | .parentheses, '(' =>
                  let inner ← parts fuel .parentheses []
                  parts fuel place
                    (.text true [')'] :: (inner.map turned).reverse ++ .text true ['('] :: done)
              | _, _ => plain c

/-- What a dollar sign begins, after the sign. -/
def dollar : Nat → Place → ReadM Part
  | 0, place => return .text place.isQuoted ['$']
  | fuel + 1, place => do
      let q := place.isQuoted
      match ← peekJoined with
      | some '(' =>
          let _ ← next
          if ← skip '(' then return .number q (← parts fuel .arithmetic [])
          else
            let body ← inside fuel (do
              let (body, t) ← list fuel 2
              if t.isText ")" then return body else unexpected t (quoted ")"))
            return .output q body
      | some '\x7b' =>
          let _ ← next
          braces fuel q place.isInDocument
      | some c =>
          if isNameStart c then
            return .parameter q (← takeWhile isNameChar ((← get).rest.length + 1) []) .plain []
          else if isSpecial c || Numeral.isDigit c then
            let _ ← next
            return .parameter q [c] .plain []
          else return .text q ['$']
      | none => return .text q ['$']

/-- The parameter between braces, after the opening one. -/
def braces : Nat → Bool → Bool → ReadM Part
  | 0, q, _ => return .text q []
  | fuel + 1, q, inDocument => do
      let room := (← get).rest.length + 1
      let rest (name : ByteText) (c : Change) : ReadM Part := do
        let place : Place := match c with
          | .cutFront _ | .cutBack _ => .brace false inDocument
          | _ => .brace q inDocument
        return .parameter q name c (← parts fuel place [])
      let changed (name : ByteText) : ReadM Part := do
        if ← skip '\x7d' then return .parameter q name .plain [] else rest name (← change)
      let named (c : Char) : ReadM ByteText := do
        if isNameStart c then takeWhile isNameChar room []
        else if Numeral.isDigit c then takeWhile Numeral.isDigit room []
        else
          let _ ← next
          return [c]
      match ← peekJoined with
      | none => rest [] .faulty
      | some '\x7d' => rest [] .faulty
      | some '#' =>
          let _ ← next
          match ← peekJoined with
          | none => rest ['#'] .faulty
          | some c =>
              if isNameStart c || Numeral.isDigit c then
                let name ← named c
                if ← skip '\x7d' then return .parameter q name .length [] else rest name .faulty
              else if c = '\x7d' then changed ['#']
              else
                let r ← get
                let _ ← next
                if isSpecial c && (← peekJoined) = some '\x7d' then
                  let _ ← next
                  return .parameter q [c] .length []
                else
                  set r
                  changed ['#']
      | some c =>
          if isNameStart c || Numeral.isDigit c || isSpecial c then changed (← named c)
          else
            let _ ← nextUncounted
            rest [c] .faulty

/-- Read a script inside a word: texts that it waits for have to stand in it. -/
def inside : Nat → ReadM (List Command) → ReadM (List Command)
  | 0, f => f
  | fuel + 1, f => do
      let before ← get
      set { before with awaited := [] }
      let body ← f
      let r ← get
      within [] r.line (documents fuel)
      modify fun after => { after with awaited := before.awaited }
      return body

/-- The next token. -/
def token : Nat → Wish → ReadM Token
  | 0, _ => return .ended
  | fuel + 1, w => do
      let sign (text : String) : ReadM Token := do
        let _ ← next
        return .sign text
      let oneOrTwo (c : Char) : ReadM Token := do
        let _ ← next
        if ← skip c then return .sign (String.ofList [c, c]) else return .sign (String.ofList [c])
      match ← peekJoined with
      | none => return .ended
      | some ' ' | some '\t' =>
          let _ ← next
          token fuel w
      | some '#' =>
          modify fun r => { r with rest := r.rest.dropWhile (· ≠ '\n') }
          token fuel w
      | some '\n' =>
          let _ ← next
          if w.passLines then
            documents fuel
            token fuel w
          else return .newline
      | some '&' => oneOrTwo '&'
      | some '|' => oneOrTwo '|'
      | some ';' => oneOrTwo ';'
      | some '(' => sign "("
      | some ')' => sign ")"
      | some _ =>
          let found ← if w.isMark then markParts fuel [] else parts fuel .bare []
          match ← finishWord found with
          | .word found isQuoted =>
              match classify w found isQuoted with
              | .word found isQuoted =>
                  let other ← if w.aliases then standIn? found isQuoted else pure none
                  match other with
                  | none => return .word found isQuoted
                  | some (name, text) =>
                      modify fun r =>
                        { r with
                          rest := text ++ r.rest
                          inUse := (name, r.rest.length) :: r.inUse }
                      token fuel w
              | other => return other
          | other => return other

/-- The parts of a mark, in which only quotes have a meaning. -/
def markParts : Nat → List Part → ReadM (List Part)
  | 0, done => return gathered done
  | fuel + 1, done => do
      match ← peekJoined with
      | none => return gathered done
      | some c =>
          if endsWord c then return gathered done
          else
            let _ ← next
            if c = '\\' then
              match ← next with
              | some d => markParts fuel (addPart (.text true [d]) done)
              | none => markParts fuel (addPart (.text true [c]) done)
            else if c = '\x27' then
              let text ← single ((← get).rest.length + 1) []
              markParts fuel (.text true text.reverse :: .text true [] :: done)
            else if c = '"' then
              let text ← markQuotes ((← get).rest.length + 1) []
              markParts fuel (.text true text.reverse :: .text true [] :: done)
            else markParts fuel (addPart (.text false [c]) done)

/-- Read the texts that are waited for. -/
def documents : Nat → ReadM Unit
  | 0 => return ()
  | fuel + 1 => do
      let r ← get
      match r.awaited with
      | [] => return ()
      | a :: more =>
          let (text, rest, lines) := textUpTo a (r.rest.length + 1) [] 0 r.rest
          set { r with awaited := more, rest, line := r.line + lines }
          let content ←
            if a.verbatim then pure [Part.text true text]
            else within text r.line (parts fuel .document [])
          modify fun r => { r with documents := (a.number, content) :: r.documents }
          documents fuel

/-- The redirection that a token begins. -/
def redirection : Nat → Token → ReadM Redirection
  | fuel + 1, .redirection descriptor direction => do
      match ← token fuel .word with
      | .word found _ => return .mk (descriptor.getD (usualDescriptor direction)) direction found
      | t => unexpected t none
  | fuel + 1, .document descriptor indented => do
      match ← token fuel .mark with
      | .word found isQuoted =>
          let number ← await indented found isQuoted
          return .mk (descriptor.getD 0) (.document number) []
      | t => unexpected t none
  | _, t => unexpected t none

/-- Redirections that follow a command, the first of which may begin with a token, and the token
after them. -/
def redirections : Nat → List Redirection → Token → ReadM (List Redirection × Token)
  | 0, done, t => return (done.reverse, t)
  | fuel + 1, done, t => do
      match t with
      | .redirection .. | .document .. =>
          let r ← redirection fuel t
          redirections fuel (r :: done) (← token fuel .sameLine)
      | _ => return (done.reverse, t)

/-- Commands up to the end of their line or of the list that they are, and the token after them.  At
level one the list ends with its line; at level two it may be empty. -/
def list : Nat → Nat → ReadM (List Command × Token)
  | 0, _ => return ([], .ended)
  | fuel + 1, level => commands fuel (level = 1) (level = 2) []

/-- The commands of a list, after those that were read already, last one first. -/
def commands : Nat → Bool → Bool → List Command → ReadM (List Command × Token)
  | 0, _, _, done => return (done.reverse, .ended)
  | fuel + 1, byLine, mayEnd, done => do
      let t ← token fuel { Wish.command with passLines := !byLine }
      match t with
      | .newline =>
          documents fuel
          return (done.reverse, t)
      | .ended =>
          documents fuel
          return (done.reverse, t)
      | _ =>
          if mayEnd && !byLine && t.closes then return (done.reverse, t)
          else
            let (found, t) ← chain fuel t
            match t with
            | .sign "&" => commands fuel byLine true (.background found :: done)
            | .sign ";" => commands fuel byLine true (found :: done)
            | .newline =>
                if byLine then
                  documents fuel
                  return ((found :: done).reverse, t)
                else
                  documents fuel
                  commands fuel byLine true (found :: done)
            | .ended =>
                documents fuel
                return ((found :: done).reverse, t)
            | _ =>
                if byLine then unexpected t none else return ((found :: done).reverse, t)

/-- Pipelines joined by the signs for and and or. -/
def chain : Nat → Token → ReadM (Command × Token)
  | 0, t => unexpected t none
  | fuel + 1, t => do
      let (first, t) ← pipeline fuel t
      chained fuel first t

/-- The pipelines that follow a first one. -/
def chained : Nat → Command → Token → ReadM (Command × Token)
  | 0, first, t => return (first, t)
  | fuel + 1, first, t => do
      match t with
      | .sign "&&" =>
          let (second, t) ← pipeline fuel (← token fuel .command)
          chained fuel (.andThen first second) t
      | .sign "||" =>
          let (second, t) ← pipeline fuel (← token fuel .command)
          chained fuel (.orElse first second) t
      | _ => return (first, t)

/-- A pipeline, with an exclamation mark before it or without. -/
def pipeline : Nat → Token → ReadM (Command × Token)
  | 0, t => unexpected t none
  | fuel + 1, t => do
      let (negated, t) ← if t.isText "!" then pure (true, ← token fuel .sameLine)
        else pure (false, t)
      let (first, t) ← command fuel t
      let (found, t) ← piped fuel [first] t
      let body : Command := match found with
        | [single] => single
        | parts => .pipe parts
      return (if negated then .negation body else body, t)

/-- The commands of a pipeline, after those that were read already, last one first. -/
def piped : Nat → List Command → Token → ReadM (List Command × Token)
  | 0, done, t => return (done.reverse, t)
  | fuel + 1, done, t => do
      if t.isText "|" then
        let (found, t) ← command fuel (← token fuel .command)
        piped fuel (found :: done) t
      else return (done.reverse, t)

/-- A list that has to end in a given reserved word or sign. -/
def listUpTo : Nat → String → ReadM (List Command)
  | 0, _ => return []
  | fuel + 1, closer => do
      let (found, t) ← list fuel 0
      if t.isText closer then return found else unexpected t (quoted closer)

/-- One command, and the token after it. -/
def command : Nat → Token → ReadM (Command × Token)
  | 0, t => unexpected t none
  | fuel + 1, t => do
      let line := (← get).line
      let finished (body : Command) : ReadM (Command × Token) := do
        let (found, t) ← redirections fuel [] (← token fuel .sameLine)
        return (withRedirections line body found, t)
      match t with
      | .keyword "if" =>
          let (clauses, otherwise) ← branches fuel []
          finished (.branch clauses otherwise)
      | .keyword "while" | .keyword "until" =>
          let condition ← listUpTo fuel "do"
          let body ← listUpTo fuel "done"
          finished (.loop (t.isText "until") condition body)
      | .keyword "for" =>
          let name ← match ← token fuel .word with
            | .word found false => pure ((plainText? found).getD [])
            | _ => pure []
          if !isName name then refuse "Bad for loop variable"
          else
            let t ← token fuel .command
            let (given, t) ←
              if t.isText "in" then do
                let (found, t) ← words fuel []
                match t with
                | .newline =>
                    documents fuel
                    pure (some found, ← token fuel .command)
                | .sign ";" => pure (some found, ← token fuel .command)
                | _ => unexpected t none
              else if t.isText ";" then pure (none, ← token fuel .command)
              else pure (none, t)
            if t.isText "do" then
              let body ← listUpTo fuel "done"
              finished (.each line name given body)
            else unexpected t (quoted "do")
      | .keyword "case" =>
          match ← token fuel .word with
          | .word subject _ =>
              let t ← token fuel .command
              if t.isText "in" then
                let found ← arms fuel []
                finished (.choose line subject found)
              else unexpected t (quoted "in")
          | t => unexpected t (some "word")
      | .sign "(" =>
          let body ← listUpTo fuel ")"
          finished (.subshell line body [])
      | .keyword "\x7b" =>
          let body ← listUpTo fuel "\x7d"
          finished (.group body)
      | .word .. | .redirection .. | .document .. => simple fuel line true [] [] [] t
      | _ => unexpected t none

/-- The clauses of a branch after its first word, after those that were read already, last one
first. -/
def branches : Nat → List (List Command × List Command) →
    ReadM (List (List Command × List Command) × List Command)
  | 0, done => return (done.reverse, [])
  | fuel + 1, done => do
      let condition ← listUpTo fuel "then"
      let (body, t) ← list fuel 0
      let clauses := (condition, body) :: done
      if t.isText "elif" then branches fuel clauses
      else if t.isText "else" then
        let otherwise ← listUpTo fuel "fi"
        return (clauses.reverse, otherwise)
      else if t.isText "fi" then return (clauses.reverse, [])
      else unexpected t (quoted "fi")

/-- Words, and the token after them. -/
def words : Nat → List (List Part) → ReadM (List (List Part) × Token)
  | 0, done => return (done.reverse, .ended)
  | fuel + 1, done => do
      match ← token fuel .word with
      | .word found _ => words fuel (found :: done)
      | t => return (done.reverse, t)

/-- The arms of a choice, up to its closing word. -/
def arms : Nat → List (List (List Part) × List Command) →
    ReadM (List (List (List Part) × List Command))
  | 0, done => return done.reverse
  | fuel + 1, done => do
      let t ← token fuel .closer
      if t.isText "esac" then return done.reverse
      else
        let t ← if t.isText "(" then token fuel .word else pure t
        let found ← patterns fuel [] t
        let (body, t) ← list fuel 2
        let all := (found, body) :: done
        if t.isText "esac" then return all.reverse
        else if t.isText ";;" then arms fuel all
        else unexpected t (quoted ";;")

/-- The patterns of an arm, up to the closing parenthesis, the first of which is a token. -/
def patterns : Nat → List (List Part) → Token → ReadM (List (List Part))
  | 0, done, _ => return done.reverse
  | fuel + 1, done, t => do
      let all := t.parts :: done
      let t ← token fuel .word
      if t.isText "|" then patterns fuel all (← token fuel .word)
      else if t.isText ")" then return all.reverse
      else unexpected t (quoted ")")

/-- The words, assignments and redirections of a simple command, the first of which is a token, and
the token after them.  `early` tells that the command has not been named. -/
def simple : Nat → Nat → Bool → List (ByteText × List Part) → List (List Part) → List Redirection →
    Token → ReadM (Command × Token)
  | 0, _, _, _, _, _, t => unexpected t none
  | fuel + 1, line, early, given, names, found, t => do
      match t with
      | .word parts _ =>
          match early, assignment? parts with
          | true, some a =>
              simple fuel line true (a :: given) names found
                (← token fuel { Wish.word with aliases := true })
          | _, _ =>
              simple fuel line false given (parts :: names) found (← token fuel .word)
      | .redirection .. | .document .. =>
          let r ← redirection fuel t
          simple fuel line early given names (r :: found)
            (← token fuel { Wish.word with aliases := early })
      | .sign "(" =>
          match given, names, found with
          | [], [name], [] =>
              let t ← token fuel .word
              if !t.isText ")" then unexpected t (quoted ")")
              else
                let name := (plainText? name).getD []
                if !isName name || reservedNames.contains (String.ofList name) then
                  refuse "Bad function name"
                else
                  let t ← token fuel .command
                  let line := (← get).line
                  let (body, t) ← command fuel t
                  return (.define name line body, t)
          | _, _, _ => return (.simple line given.reverse names.reverse found.reverse, t)
      | _ => return (.simple line given.reverse names.reverse found.reverse, t)

end

end Reader

/-- The next complete command of a script: what it consists of, and whether the script ends with
it. -/
def readCommand (r : Reading) : Except Refusal ((List Command × Bool) × Reading) :=
  let read : ReadM (List Command × Bool) := do
    let (found, t) ← Reader.list (40 * (r.rest.length + 50)) 1
    match t with
    | .ended => return (found, true)
    | _ => return (found, false)
  read r

end AssemblyGate.Shell
