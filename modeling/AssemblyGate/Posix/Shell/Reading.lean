/-
**The state of reading a script.**

What is left of a script is read character by character, and the lines are counted.  Texts that
stand in the script behind a command are waited for until its line has ended.  A short name may
stand for a text that is read in its place.

Main definitions:

* `AssemblyGate.Shell.Reading` — what is known while a script is read;
* `AssemblyGate.Shell.Refusal` — what is wrong with a script;
* `AssemblyGate.Shell.Token` — the tokens of scripts.
-/
import AssemblyGate.Posix.Shell.Script
import AssemblyGate.Text.Numeral

set_option autoImplicit false

namespace AssemblyGate.Shell

/-! ### Characters -/

/-- Whether a character may begin a name. -/
def isNameStart (c : Char) : Bool := ('a' ≤ c && c ≤ 'z') || ('A' ≤ c && c ≤ 'Z') || c = '_'

/-- Whether a character may stand in a name. -/
def isNameChar (c : Char) : Bool := isNameStart c || Numeral.isDigit c

/-- Whether a text is a name. -/
def isName (text : ByteText) : Bool :=
  match text with
  | c :: rest => isNameStart c && rest.all isNameChar
  | [] => false

/-- Whether a character ends a word. -/
def endsWord (c : Char) : Bool :=
  c = ' ' || c = '\t' || c = '\n' || c = ';' || c = '&' || c = '|' || c = '<' || c = '>' || c = '('
    || c = ')'

/-- Whether a character names a parameter all by itself. -/
def isSpecial (c : Char) : Bool :=
  c = '@' || c = '*' || c = '#' || c = '?' || c = '-' || c = '$' || c = '!'

/-! ### Tokens -/

/-- A token of a script. -/
inductive Token
  | word (parts : List Part) (quoted : Bool)
  | keyword (text : String)
  | sign (text : String)
  | redirection (descriptor : Option Nat) (direction : Direction)
  | document (descriptor : Option Nat) (indented : Bool)
  | newline
  | ended

instance : Inhabited Token := ⟨.ended⟩

/-- How a token is told in a message. -/
def Token.title : Token → String
  | .word .. => "word"
  | .keyword text | .sign text => "\"" ++ text ++ "\""
  | .redirection .. | .document .. => "redirection"
  | .newline => "newline"
  | .ended => "end of file"

/-- Whether a token is a given reserved word or sign. -/
def Token.isText (t : Token) (text : String) : Bool :=
  match t with
  | .keyword s | .sign s => s == text
  | _ => false

/-- The reserved words. -/
def keywords : List String :=
  ["!", "case", "do", "done", "elif", "else", "esac", "fi", "for", "if", "in", "then", "until", "while",
    "\x7b", "\x7d"]

/-- The reserved words and signs that end a list of commands. -/
def closers : List String :=
  [")", ";;", "do", "done", "elif", "else", "esac", "fi", "then", "\x7d"]

/-- Whether a token ends a list of commands. -/
def Token.closes : Token → Bool
  | .keyword text | .sign text => closers.contains text
  | .ended => true
  | _ => false

/-- The word that a token spells. -/
def Token.parts : Token → List Part
  | .word parts _ => parts
  | .keyword text => [.text false text.toList]
  | _ => []

/-! ### Reading -/

/-- A text that is waited for: its number, the line that ends it, whether it is indented by tabs
that do not count, and whether anything is worked out in it. -/
structure Awaited where
  number : Nat
  mark : ByteText
  indented : Bool
  verbatim : Bool
deriving DecidableEq

/-- What is known while a script is read: what is left of it, the number of the line, the texts that
are waited for and those that were read, the number of the next one, the names that stand for texts,
and those of them that are being read, each with what was left when it was met. -/
structure Reading where
  rest : ByteText
  line : Nat
  awaited : List Awaited
  documents : List (Nat × List Part)
  nextDocument : Nat
  aliases : List (ByteText × ByteText)
  inUse : List (ByteText × Nat)

/-- What is wrong with a script, and in which line. -/
structure Refusal where
  line : Nat
  text : ByteText
deriving DecidableEq

/-- A step of reading. -/
abbrev ReadM := StateT Reading (Except Refusal)

namespace ReadM

/-- Refuse the script. -/
def refuse {α : Type} (text : String) : ReadM α := do
  let r ← get
  throw ⟨r.line, ("Syntax error: " ++ text).toList⟩

/-- Refuse a token that cannot stand where it stands, where another one may be expected. -/
def unexpected {α : Type} (t : Token) (expected : Option String) : ReadM α :=
  match expected with
  | some text => refuse (t.title ++ " unexpected (expecting " ++ text ++ ")")
  | none => refuse (t.title ++ " unexpected")

/-- The next character, which is left where it is. -/
def peek : ReadM (Option Char) := do return (← get).rest.head?

/-- The next character. -/
def next : ReadM (Option Char) := do
  let r ← get
  match r.rest with
  | [] => return none
  | c :: rest =>
      set { r with rest, line := if c = '\n' then r.line + 1 else r.line }
      return some c

/-- What is left after the line ends that a backslash takes away, and their number. -/
def joined : Nat → ByteText → Nat × ByteText
  | count, '\\' :: '\n' :: rest => joined (count + 1) rest
  | count, rest => (count, rest)

/-- Go past line ends that a backslash takes away. -/
def join : ReadM Unit := modify fun r =>
  match r.rest with
  | '\\' :: _ =>
      let (count, rest) := joined 0 r.rest
      { r with rest, line := r.line + count }
  | _ => r

/-- The next character after line ends that do not count, which is left where it is. -/
def peekJoined : ReadM (Option Char) := do
  join
  peek

/-- The next character after line ends that do not count. -/
def nextJoined : ReadM (Option Char) := do
  join
  next

/-- The next character after line ends that do not count, which is not counted either if it is a
line end. -/
def nextUncounted : ReadM (Option Char) := do
  join
  let c ← peek
  modify fun r => { r with rest := r.rest.drop 1 }
  return c

/-- Go past a character if it is the next one. -/
def skip (c : Char) : ReadM Bool := do
  if (← peekJoined) = some c then
    let _ ← next
    return true
  else return false

/-- The characters up to the first one of which something does not hold. -/
def takeWhile (p : Char → Bool) : Nat → ByteText → ReadM ByteText
  | 0, done => return done.reverse
  | room + 1, done => do
      match ← peekJoined with
      | some c =>
          if p c then
            let _ ← next
            takeWhile p room (c :: done)
          else return done.reverse
      | none => return done.reverse

/-- Read another text in between. -/
def within {α : Type} (text : ByteText) (line : Nat) (f : ReadM α) : ReadM α := do
  let before ← get
  set { before with rest := text, line, inUse := [] }
  let result ← f
  modify fun after => { after with rest := before.rest, line := before.line, inUse := before.inUse }
  return result

end ReadM

end AssemblyGate.Shell
