/-
**Expansion of words.**

A word becomes fields.  Its parts give characters, each of them quoted, or plain, or loose, which is
what comes out of an unquoted expansion.  Loose characters are split at separators, and the fields
in which a sign of a pattern stands unquoted are replaced by the names of files that fit.

Main definitions:

* `AssemblyGate.Shell.Piece` — the pieces that parts give;
* `AssemblyGate.Shell.expand` — the pieces of parts;
* `AssemblyGate.Shell.split` — the fields that pieces make;
* `AssemblyGate.Shell.fieldsOf` — the fields of words.
-/
import AssemblyGate.Posix.Shell.State
import AssemblyGate.Posix.Pattern.Glob

set_option autoImplicit false

namespace AssemblyGate.Shell

/-- A piece of an expanded word: a character, the trace of a pair of quotes, or the end of one field
and the beginning of the next. -/
inductive Piece
  | quoted (c : Char)
  | plain (c : Char)
  | loose (c : Char)
  | quotes
  | cut
deriving DecidableEq

/-- A way to find out what commands say that run in a shell of their own. -/
abbrev Listener := List Command → Action ByteText

/-- A text as pieces, quoted or out of an unquoted expansion. -/
def expandedPieces (isQuoted : Bool) (text : ByteText) : List Piece :=
  text.map fun c => if isQuoted then .quoted c else .loose c

/-! ### Pieces as texts -/

/-- The text that stands between fields that stay together. -/
def State.between (s : State) : ByteText := s.separators.take 1

/-- The text of pieces that stay together. -/
def joinedText (between : ByteText) (pieces : List Piece) : ByteText :=
  pieces.flatMap fun
    | .quoted c | .plain c | .loose c => [c]
    | .cut => between
    | .quotes => []

/-- The characters of a pattern, each quoted or not. -/
def patternChars (between : ByteText) (pieces : List Piece) : List (Bool × Char) :=
  pieces.flatMap fun
    | .quoted c => [(true, c)]
    | .plain c | .loose c => [(false, c)]
    | .cut => between.map fun c => (true, c)
    | .quotes => []

/-! ### Home directories -/

/-- The directory that a tilde with a name behind it stands for. -/
def State.homeOf? (s : State) (name : ByteText) : Option ByteText :=
  if name.isEmpty then s.get? (chars "HOME")
  else if name = chars "root" then some (chars "/root")
  else none

/-- A text that may begin with a tilde, as parts; the name behind the tilde ends where one of the
given characters stands, or with the word. -/
def State.tilde (s : State) (ends : ByteText) (isLast : Bool) (text : ByteText) : List Part :=
  match text with
  | '~' :: rest =>
      let name := rest.takeWhile fun c => !ends.contains c
      let behind := rest.drop name.length
      match s.homeOf? name, behind.isEmpty && !isLast with
      | some home, false => [.text true home, .text false behind]
      | _, _ => [.text false text]
  | _ => [.text false text]

/-- A word with its tilde resolved. -/
def State.withTilde (s : State) (word : List Part) : List Part :=
  match word with
  | .text false text :: rest => s.tilde ['/'] rest.isEmpty text ++ rest
  | _ => word

/-- The value of an assignment with its tildes resolved, which may stand behind colons as well. -/
def State.withTildes (s : State) (word : List Part) : List Part :=
  let texts (first isLast : Bool) (text : ByteText) : List Part :=
    let pieces := (ByteText.split ':' text).zipIdx
    let resolved := pieces.map fun (piece, i) =>
      let ended := isLast || i + 1 < pieces.length
      if i = 0 && !first then [Part.text false piece] else s.tilde ['/'] ended piece
    (resolved.intersperse [.text false [':']]).flatten
  (word.zipIdx).flatMap fun (part, i) =>
    match part with
    | .text false text => texts (i = 0) (i + 1 = word.length) text
    | other => [other]

/-! ### Arithmetic and parameters -/

/-- The value of an arithmetic text; variables that it sets are set. -/
def arithmetic (text : ByteText) : Action ByteText := do
  let s ← get
  let values := s.bindings.filterMap fun v => v.value.map fun value => (v.name, value)
  match Arithmetic.evaluate values text with
  | .ok (n, changed) =>
      changed.forM fun (name, value) => setVariable name value
      return Numeral.integer n
  | .error flaw => fail (flaw.message text)

/-- The parameters as pieces: each a field of its own, or all of them in one. -/
def State.allParameters (s : State) (isQuoted joined : Bool) : List Piece :=
  let between : List Piece :=
    if joined && isQuoted then .quotes :: s.between.map .quoted else [.cut]
  let one (p : ByteText) : List Piece :=
    (if isQuoted then [Piece.quotes] else []) ++ expandedPieces isQuoted p
  ((s.parameters.map one).intersperse between).flatten

/-- Whether a value counts as one. -/
def counts (blank : Bool) (value : Option ByteText) : Bool :=
  match value with
  | some text => !(blank && text.isEmpty)
  | none => false

/-- The parts of a word that are left when quotes around all parameters are empty because there are
none. -/
def State.withoutEmptyQuotes (s : State) (word : List Part) : List Part :=
  match word with
  | .text true [] :: .parameter true ['@'] .plain _ :: .text true [] :: rest =>
      if s.parameters.isEmpty then rest else word
  | _ => word

/-- What is said of a parameter that is not set. -/
def unsetText : ByteText := chars ": parameter not set"

/-! ### Parts -/

/-- The pieces of parts, in order; commands in them are run.  `isInner` tells that the parts stand
in the word of a parameter, whose text is loose. -/
def expand (listen : Listener) : Nat → Bool → List Part → Action (List Piece)
  | 0, _, _ => return []
  | room + 1, isInner, word => do
      let s ← get
      match s.withoutEmptyQuotes word with
      | [] => return []
      | part :: rest =>
          let here : List Piece ← match part with
            | .text true [] => pure [.quotes]
            | .text true text => pure (text.map .quoted)
            | .text false text => pure (text.map fun c => if isInner then .loose c else .plain c)
            | .output isQuoted body => do
                let text ← listen body
                pure (expandedPieces isQuoted text)
            | .number isQuoted expression => do
                let pieces ← expand listen room false expression
                let text ← arithmetic (joinedText s.between pieces)
                pure (expandedPieces isQuoted text)
            | .parameter isQuoted name change word => do
                let isAll := name = ['@'] || name = ['*']
                let value := if isAll then
                    (if s.parameters.isEmpty then none else some (joinWith s.between s.parameters))
                  else s.parameter? name
                let inner : Action (List Piece) := do expand listen room true (s.withTilde word)
                let shown : Action (List Piece) :=
                  if isAll then return s.allParameters isQuoted (name = ['*'])
                  else
                    match value with
                    | some text => return expandedPieces isQuoted text
                    | none => if s.hasOption 'u' then fail (name ++ unsetText) else return []
                let cut (f : Glob → ByteText → ByteText) : Action (List Piece) := do
                  match value with
                  | none =>
                      if s.hasOption 'u' && !isAll then fail (name ++ unsetText) else return []
                  | some text =>
                      let pieces ← inner
                      let glob := Glob.ofChars (patternChars s.between pieces)
                      return expandedPieces isQuoted (f glob text)
                match change with
                | .plain => shown
                | .faulty => fail (chars "Bad substitution")
                | .length =>
                    match value with
                    | some text =>
                        pure (expandedPieces isQuoted (Numeral.decimal text.length))
                    | none =>
                        if s.hasOption 'u' && !isAll then fail (name ++ unsetText)
                        else pure (expandedPieces isQuoted ['0'])
                | .orElse blank => if counts blank value then shown else inner
                | .ifSet blank => if counts blank value then inner else pure []
                | .orAssign blank =>
                    if counts blank value then shown
                    else
                      let text := joinedText s.between (← inner)
                      if isName name then
                        setVariable name text
                        pure (expandedPieces isQuoted text)
                      else fail (name ++ chars ": bad variable name")
                | .orFail blank =>
                    if counts blank value then shown
                    else
                      let pieces ← inner
                      let missing := if blank then unsetText ++ chars " or null" else unsetText
                      fail (name ++ if word.isEmpty then missing
                        else chars ": " ++ joinedText s.between pieces)
                | .cutFront longest => cut fun glob text => glob.cutFront longest text
                | .cutBack longest => cut fun glob text => glob.cutBack longest text
          let more ← expand listen room isInner
            (match s.withoutEmptyQuotes word with | _ :: rest => rest | [] => rest)
          return here ++ more

/-- How deep parts may stand in each other, and how many there may be in a word. -/
def maxParts : Nat := 100000

/-- The text of a word that is not split. -/
def expandText (listen : Listener) (word : List Part) : Action ByteText := do
  let s ← get
  let pieces ← expand listen maxParts false (s.withTilde word)
  return joinedText (← get).between pieces

/-- The text of the value of an assignment. -/
def expandValue (listen : Listener) (word : List Part) : Action ByteText := do
  let s ← get
  let pieces ← expand listen maxParts false (s.withTildes word)
  return joinedText (← get).between pieces

/-- The pattern that a word spells. -/
def expandPattern (listen : Listener) (word : List Part) : Action Glob := do
  let s ← get
  let pieces ← expand listen maxParts false (s.withTilde word)
  return Glob.ofChars (patternChars (← get).between pieces)

/-! ### Fields -/

/-- A field: its characters, each of them quoted or not. -/
abbrev Field := List (Bool × Char)

/-- The splitting of pieces so far: the field that is being made, last character first, whether
blanks have just ended one, and the fields that are ready, last one first. -/
structure Splitting where
  current : Option Field
  blanks : Bool
  done : List Field

namespace Splitting

/-- Put a character into the field that is being made. -/
def add (p : Splitting) (isQuoted : Bool) (c : Char) : Splitting :=
  ⟨some ((isQuoted, c) :: p.current.getD []), false, p.done⟩

/-- End the field that is being made. -/
def close (p : Splitting) (blanks : Bool) : Splitting :=
  match p.current with
  | some field => ⟨none, blanks, field.reverse :: p.done⟩
  | none => { p with blanks }

/-- Go past a separator.  Blanks by themselves separate fields; another separator ends a field with
the blanks around it, be the field empty. -/
def separate (p : Splitting) (c : Char) : Splitting :=
  if c = ' ' || c = '\t' || c = '\n' then
    if p.current.isSome then p.close true else p
  else if p.current.isSome then p.close false
  else if p.blanks then { p with blanks := false }
  else { p with done := [] :: p.done }

/-- Take one more piece. -/
def step (separators : ByteText) (p : Splitting) (piece : Piece) : Splitting :=
  match piece with
  | .quoted c => p.add true c
  | .plain c => p.add false c
  | .quotes => ⟨some (p.current.getD []), false, p.done⟩
  | .cut => p.close false
  | .loose c => if separators.contains c then p.separate c else p.add false c

end Splitting

/-- The fields that pieces make. -/
def split (separators : ByteText) (pieces : List Piece) : List Field :=
  ((pieces.foldl (Splitting.step separators) ⟨none, false, []⟩).close false).done.reverse

/-- The names in a field, each with the slashes behind it; slashes at the front follow an empty
name. -/
def segments (field : Field) : List (Field × ByteText) :=
  field.foldr
    (fun c all =>
      match all with
      | (name, slashes) :: rest =>
          if c.2 = '/' then
            if name.isEmpty then ([], '/' :: slashes) :: rest else ([], ['/']) :: all
          else (c :: name, slashes) :: rest
      | [] => if c.2 = '/' then [([], ['/'])] else [([c], [])])
    [([], [])]

/-- The paths that fit the names of a pattern, from a path on. -/
def fitting (m : Machine) : ByteText → List (Field × ByteText) → List ByteText
  | path, [] => if (m.lstat path).toOption.isSome then [path] else []
  | path, (name, slashes) :: rest =>
      let glob := Glob.ofChars name
      if !glob.isOpen then
        let plain := (Glob.withEscapes name).map (·.2)
        fitting m (path ++ plain ++ slashes) rest
      else
        let entries := (m.entries? (if path.isEmpty then ['.'] else path)).getD []
        let names := ['.'] :: ['.', '.'] :: entries.map (·.1)
        let begins := (name.head?.map (·.2)) = some '.'
        let found := names.filter fun n => (begins || n.head? ≠ some '.') && glob.fits n
        found.flatMap fun n => fitting m (path ++ n ++ slashes) rest

/-- Texts in the order of their bytes. -/
def sortTexts (texts : List ByteText) : List ByteText := texts.mergeSort fun a b => !decide (b < a)

/-- The names that a field stands for: those of the files that fit it, or the field itself. -/
def namesOfField (m : Machine) (field : Field) : List ByteText :=
  let text := field.map (·.2)
  if !(Glob.ofChars field).isOpen then [text]
  else
    let parts := (segments field).filter fun (name, slashes) => !name.isEmpty || !slashes.isEmpty
    let found := sortTexts (fitting m [] parts)
    if found.isEmpty then [text] else found

/-- The fields of one word. -/
def fieldsOfWord (listen : Listener) (word : List Part) : Action (List ByteText) := do
  let s ← get
  let pieces ← expand listen maxParts false (s.withTilde word)
  let s ← get
  let fields := split s.separators pieces
  return if s.hasOption 'f' then fields.map fun f => f.map (·.2)
    else fields.flatMap (namesOfField s.world.machine)

/-- The fields of words. -/
def fieldsOf (listen : Listener) (words : List (List Part)) : Action (List ByteText) := do
  return (← words.mapM (fieldsOfWord listen)).flatten

end AssemblyGate.Shell
