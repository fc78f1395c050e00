/-
**The words of a program of rules.**

The text of a program is cut into numbers, texts, expressions between slashes, names and signs.
Whether a slash begins an expression or divides depends on the word before it.  A line feed is a
word of its own.  What cannot be a word ends the cutting.

Main definitions:

* `AssemblyGate.Rules.Token` — the words;
* `AssemblyGate.Rules.Token.cut` — the words of a text, with the lines they stand in.
-/
import AssemblyGate.Number.Notation
import AssemblyGate.Posix.Rules.Program
import AssemblyGate.Posix.Tool.Escape

set_option autoImplicit false

namespace AssemblyGate.Rules

/-- A word of a program.  A name is followed by its parenthesis at once or not. -/
inductive Token
  | number (x : Binary64) (spelled : ByteText)
  | text (t : ByteText)
  | regex (t : ByteText)
  | name (t : ByteText) (isCall : Bool)
  | keyword (t : String)
  | builtin (t : ByteText)
  | sign (t : String)
  | lineEnd
  | finish
  | flaw (message : ByteText)
deriving DecidableEq, Inhabited

namespace Token

/-- The words that are no names. -/
def keywords : List String :=
  ["BEGIN", "END", "function", "if", "else", "while", "for", "do", "break", "continue", "next",
    "nextfile", "exit", "return", "delete", "in", "getline", "print", "printf"]

/-- The signs, longer ones before those they begin with. -/
def signs : List String :=
  ["&&", "||", "==", "<=", ">=", "!=", "!~", "++", "--", "+=", "-=", "*=", "/=", "%=", "^=", ">>",
    "\x7b", "\x7d", "(", ")", "[", "]", ";", ",", "+", "-", "*", "/", "%", "^", "!", ">", "<", "|", "?",
    ":", "~", "$", "="]

/-- Whether a word is a sign. -/
def isSign (t : Token) (s : String) : Bool := t = .sign s

/-- Whether a slash behind a word divides. -/
def precedesDivision : Token → Bool
  | .number .. | .text _ | .regex _ | .name _ false => true
  | .keyword t => t = "getline"
  | .sign t => t = ")" || t = "]" || t = "$" || t = "++" || t = "--"
  | _ => false

/-- Whether a name may begin with a character. -/
def beginsName (c : Char) : Bool := c.isAlpha || c = '_'

/-- Whether a name may go on with a character. -/
def goesOnName (c : Char) : Bool := beginsName c || Numeral.isDigit c

/-! ### Texts -/

/-- The text up to a closing quote, as it is spelled, with what follows it. -/
def readSpelled : ByteText → ByteText → Option (ByteText × ByteText)
  | _, [] => none
  | _, '\n' :: _ => none
  | done, '"' :: rest => some (done.reverse, rest)
  | done, '\\' :: c :: rest => readSpelled (c :: '\\' :: done) rest
  | done, c :: rest => readSpelled (c :: done) rest

/-- The byte of up to two hexadecimal digits, and what follows them. -/
def readHex (rest : ByteText) : Option (Char × ByteText) :=
  let digits := (rest.take 2).takeWhile fun c => (Numeral.hexDigit? c).isSome
  if digits.isEmpty then none
  else
    let n := digits.foldl (fun n c => n * 16 + (Numeral.hexDigit? c).getD 0) 0
    some (Char.ofNat n, rest.drop digits.length)

/-- The text that a spelled one stands for: a backslash before what means nothing stands for
itself. -/
def resolveFrom : Nat → ByteText → ByteText → ByteText
  | 0, done, rest => done.reverse ++ rest
  | _, done, [] => done.reverse
  | room + 1, done, '\\' :: c :: rest =>
      let letters : List (Char × Char) :=
        [('"', '"'), ('\\', '\\'), ('n', '\n'), ('t', '\t'), ('f', '\x0c'), ('b', '\x08'),
          ('r', '\r'), ('a', '\x07'), ('v', '\x0b')]
      match letters.find? fun e => e.1 == c with
      | some (_, byte) => resolveFrom room (byte :: done) rest
      | none =>
          if c = '\n' then resolveFrom room done rest
          else if (Escape.octalDigit? c).isSome then
            let (byte, rest) := Escape.readOctal 3 0 (c :: rest)
            resolveFrom room (byte :: done) rest
          else
            match if c = 'x' then readHex rest else none with
            | some (byte, rest) => resolveFrom room (byte :: done) rest
            | none => resolveFrom room (c :: '\\' :: done) rest
  | room + 1, done, c :: rest => resolveFrom room (c :: done) rest

/-- The text that a spelled one stands for, up to a byte that is zero. -/
def resolve (spelled : ByteText) : ByteText :=
  (resolveFrom (spelled.length + 1) [] spelled).takeWhile (· ≠ '\x00')

/-- The expression up to a closing slash, with what follows it; a slash in brackets does not close,
and behind a backslash it stands for itself.  The number tells how many characters of brackets were
read. -/
def readRegex : Option Nat → ByteText → ByteText → Option (ByteText × ByteText)
  | _, _, [] => none
  | _, _, '\n' :: _ => none
  | inside, done, '\\' :: c :: rest =>
      if c = '/' then readRegex (inside.map (· + 1)) ('/' :: done) rest
      else if c = '\n' then readRegex inside done rest
      else readRegex (inside.map (· + 1)) (c :: '\\' :: done) rest
  | some n, done, c :: rest =>
      if c = ']' && 0 < n then readRegex none (c :: done) rest
      else readRegex (some (if c = '^' && n = 0 then 0 else n + 1)) (c :: done) rest
  | none, done, c :: rest =>
      if c = '/' then some (done.reverse, rest)
      else readRegex (if c = '[' then some 0 else none) (c :: done) rest

/-! ### Cutting -/

/-- What is told of something that has no end in its line. -/
def runaway (what : String) (mark : Char) (rest : ByteText) : Token :=
  .flaw (chars "runaway " ++ chars what ++ [' ', mark] ++ (rest.takeWhile (· ≠ '\n'))
    ++ chars " ...")

/-- The number at the front of a text, and what follows it. -/
def readNumber? (input : ByteText) : Option (Token × ByteText) :=
  let begins := match input with
    | '.' :: c :: _ => Numeral.isDigit c
    | c :: _ => Numeral.isDigit c
    | [] => false
  let isHex : Bool := match input with
    | '0' :: c :: _ => c = 'x' || c = 'X'
    | _ => false
  if !begins then none
  else if isHex then some (.number (.zero false) ['0'], input.drop 1)
  else
    match Binary64.readPrefix input with
    | some (x, rest) => some (.number x (input.take (input.length - rest.length)), rest)
    | none => none

/-- The word of a name. -/
def ofName (name rest : ByteText) : Token :=
  match keywords.find? fun k => k.toList == name with
  | some k => .keyword k
  | none =>
      if (Builtin.find? name).isSome then .builtin name
      else .name name (rest.head? = some '(')

/-- The word at the front of a text that begins with no blank, and what follows it, given the word
before it. -/
def next (previous : Token) (input : ByteText) : Token × ByteText :=
  match input with
  | [] => (.finish, [])
  | c :: rest =>
      if c = '"' then
        match readSpelled [] rest with
        | some (spelled, rest) => (.text (resolve spelled), rest)
        | none => (runaway "string constant" '"' rest, [])
      else if c = '/' && !precedesDivision previous then
        match readRegex none [] rest with
        | some (t, rest) => (.regex t, rest)
        | none => (runaway "regular expression" '/' rest, [])
      else if beginsName c then
        let name := input.takeWhile goesOnName
        let rest := input.drop name.length
        (ofName name rest, rest)
      else
        match readNumber? input with
        | some found => found
        | none =>
            match signs.find? fun s => s.toList.isPrefixOf input with
            | some s => (.sign s, input.drop s.length)
            | none => (.flaw (chars "unexpected character '" ++ [c, '\x27']), [])

/-- The words of a text from a line on, with the lines they stand in. -/
def cutFrom : Nat → Nat → Token → ByteText → List (Token × Nat)
  | 0, line, _, _ => [(.finish, line)]
  | room + 1, line, previous, input =>
      match input with
      | [] => [(.finish, line)]
      | '\\' :: '\n' :: rest => cutFrom room (line + 1) previous rest
      | '\\' :: '\r' :: '\n' :: rest => cutFrom room (line + 1) previous rest
      | '\n' :: rest => (.lineEnd, line) :: cutFrom room (line + 1) .lineEnd rest
      | '#' :: rest => cutFrom room line previous (rest.dropWhile (· ≠ '\n'))
      | c :: rest =>
          if c = ' ' || c = '\t' || c = '\r' || c = '\x0c' || c = '\x0b' then
            cutFrom room line previous rest
          else
            let (token, rest) := next previous input
            (token, line) :: cutFrom room line token rest

/-- The words of a text, with the lines they stand in. -/
def cut (text : ByteText) : List (Token × Nat) :=
  cutFrom (text.length + 2) 1 .lineEnd (text ++ ['\n'])

/-- A word as it is told where it does not belong. -/
def told : Token → ByteText
  | .number _ spelled => spelled
  | .text t => t
  | .regex t => '/' :: t ++ ['/']
  | .name t _ | .builtin t => t
  | .keyword t | .sign t => chars t
  | .lineEnd => chars "end of line"
  | .finish => chars "end of file"
  | .flaw message => message

end Token

end AssemblyGate.Rules
