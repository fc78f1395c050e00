/-
**Tools.**

A tool is a program of the machine that runs from its start to its end at once: it is given its
whole input, it may read and change the files of the machine, and it says things to its output and
to its error output, in an order that matters where both lead to the same place.  A tool may have
commands run for it.

Main definitions:

* `AssemblyGate.Task` — what a tool is given;
* `AssemblyGate.Effect` — what a tool did;
* `AssemblyGate.Task.options` — the options and the operands among arguments;
* `AssemblyGate.Task.sources` — the texts that a tool works on.
-/
import AssemblyGate.Posix.Machine
import AssemblyGate.Text.Numeral

set_option autoImplicit false

namespace AssemblyGate

/-- Something that was said, to the output or to the error output. -/
structure Remark where
  isError : Bool
  text : ByteText

/-- What a tool did: the machine after it, what it said, the status it ended with, the number of
microseconds it waited, whether it read its input, the number of characters of it that it did not
need, and whether it would go on saying things without end. -/
structure Effect where
  machine : Machine
  said : List Remark
  status : Nat
  waited : Nat
  reads : Bool
  unread : Nat
  isEndless : Bool

/-- A way to run a command: its environment, its words and its input. -/
abbrev Call :=
  List (ByteText × ByteText) → List ByteText → ByteText → Machine → Except Errno Effect

/-- What a tool is given: the name it was called by, its arguments, its environment, its input,
whether that comes from a file, what nobody may do with the files it makes, and a way to run
commands. -/
structure Task where
  name : ByteText
  arguments : List ByteText
  environment : List (ByteText × ByteText)
  input : Except Errno ByteText
  isFromFile : Bool
  mask : Nat
  call : Call

/-- A tool. -/
abbrev Tool := Task → Machine → Effect

/-- A text as its bytes. -/
def chars (s : String) : ByteText := s.toList

namespace Effect

/-- End with remarks and a status. -/
def ended (m : Machine) (said : List Remark) (status : Nat) : Effect := ⟨m, said, status, 0, false, 0, false⟩

/-- Say a text and end. -/
def say (m : Machine) (text : ByteText) : Effect := .ended m [⟨false, text⟩] 0

/-- End with a status and say nothing. -/
def quiet (m : Machine) (status : Nat) : Effect := .ended m [] status

/-- End with remarks, with the given status if one of them is an error. -/
def ofRemarks (m : Machine) (said : List Remark) (failure : Nat) : Effect :=
  .ended m said (if said.any (·.isError) then failure else 0)

/-- End with what went wrong and a status. -/
def failed (m : Machine) (remark : Remark) (status : Nat) : Effect := .ended m [remark] status

end Effect

/-! ### Texts -/

/-- A text in front of which blanks are put until it has a width. -/
def alignRight (width : Nat) (text : ByteText) : ByteText :=
  List.replicate (width - text.length) ' ' ++ text

/-- A text behind which blanks are put until it has a width. -/
def alignLeft (width : Nat) (text : ByteText) : ByteText :=
  text ++ List.replicate (width - text.length) ' '

/-- Lines, each with its end. -/
def joinLines (lines : List ByteText) : ByteText := lines.flatMap fun l => l ++ ['\n']

/-- Texts with another one between them. -/
def joinWith (between : ByteText) (texts : List ByteText) : ByteText :=
  (texts.intersperse between).flatten

/-- A control character or a byte beyond the first 128 as it is written behind a dollar sign. -/
def escapedByte (c : Char) : ByteText :=
  let letters : List (Char × Char) :=
    [('\x07', 'a'), ('\x08', 'b'), ('\t', 't'), ('\n', 'n'), ('\x0b', 'v'), ('\x0c', 'f'),
      ('\r', 'r')]
  match letters.find? fun e => e.1 == c with
  | some (_, letter) => ['\\', letter]
  | none =>
      let digits := Nat.toDigits 8 c.toNat
      '\\' :: List.replicate (3 - digits.length) '0' ++ digits

/-- A text between single quotes from a character on, after one that stood for itself or was
escaped. -/
def quotedFrom (escaping : Bool) : ByteText → ByteText
  | [] => ['\x27']
  | c :: rest =>
      if ' ' ≤ c ∧ c ≤ '~' then
        (if escaping then ['\x27', '\x27'] else [])
          ++ (if c = '\x27' then ['\x27', '\\', '\x27', '\x27'] else [c]) ++ quotedFrom false rest
      else
        (if escaping then [] else ['\x27', '$', '\x27']) ++ escapedByte c ++ quotedFrom true rest

/-- A text between quotes so that a shell reads it: between single ones, unless a single one is all
in it that needs them. -/
def inQuotes (text : ByteText) : ByteText :=
  let needsSingle (c : Char) : Bool :=
    c < ' ' || '~' < c || "!\"#$&()*;<>[\\^\x60|~".toList.contains c
  if text.contains '\x27' && !text.any needsSingle then '"' :: text ++ ['"']
  else '\x27' :: quotedFrom false text

/-- A text between single quotes in which quotes and backslashes follow a backslash, and what cannot
be printed is escaped. -/
def inPlainQuotes (text : ByteText) : ByteText :=
  let shown (c : Char) : ByteText :=
    if c = '\x27' || c = '\\' then ['\\', c] else if ' ' ≤ c ∧ c ≤ '~' then [c] else escapedByte c
  '\x27' :: text.flatMap shown ++ ['\x27']

/-- Whether a shell would not read a text as one word that stands for itself. -/
def needsQuotes (text : ByteText) : Bool :=
  let isPlain (c : Char) : Bool :=
    c.isAlphanum || "%+,-./@]_\x7b\x7d#~".toList.contains c
  let isMark (c : Char) : Bool := c = '#' || c = '~'
  text.isEmpty || !text.all isPlain || text.head?.any isMark || text = ['\x7b'] || text = ['\x7d']

/-- A text between quotes if a shell needs them to read it. -/
def inQuotesIfNeeded (text : ByteText) : ByteText :=
  if needsQuotes text then inQuotes text else text

/-- The last name of a path. -/
def lastName (path : ByteText) : ByteText := ((FileTree.namesIn path).getLast?).getD []

/-! ### Arguments -/

/-- The options that a tool knows: their letters, each followed by a colon if it takes a value and
by two if it may have one, their long names, and whether options may stand behind operands. -/
structure OptionForm where
  letters : String
  names : List (String × Char)
  anywhere : Bool

/-- The options and the operands of a command. -/
structure Options where
  given : List (Char × ByteText)
  operands : List ByteText

namespace Options

/-- Whether an option was given. -/
def has (o : Options) (letter : Char) : Bool := o.given.any fun e => e.1 == letter

/-- The value of an option, the last one if it was given more than once. -/
def value? (o : Options) (letter : Char) : Option ByteText :=
  (o.given.reverse.find? fun e => e.1 == letter).map (·.2)

/-- The values of an option that may be given more than once. -/
def values (o : Options) (letter : Char) : List ByteText :=
  o.given.filterMap fun e => if e.1 == letter then some e.2 else none

/-- The last one of the options that exclude each other. -/
def lastOf? (o : Options) (letters : List Char) : Option Char :=
  (o.given.reverse.find? fun e => letters.contains e.1).map (·.1)

end Options

namespace OptionForm

/-- Whether an option takes a value: never, always, or maybe. -/
inductive Valued
  | no
  | yes
  | maybe
deriving DecidableEq

/-- How an option of a letter takes a value, if there is one of this letter. -/
def valued? (form : OptionForm) (letter : Char) : Option Valued :=
  match form.letters.toList.dropWhile (· ≠ letter) with
  | _ :: ':' :: ':' :: _ => some .maybe
  | _ :: ':' :: _ => some .yes
  | _ :: _ => if letter = ':' then none else some .no
  | [] => none

/-- The letter that a long name or the beginning of one stands for. -/
def named (form : OptionForm) (name : ByteText) : Except ByteText Char :=
  match form.names.find? fun e => e.1.toList == name with
  | some (_, letter) => .ok letter
  | none =>
      let fitting := form.names.filter fun e => name.isPrefixOf e.1.toList
      match (fitting.map (·.2)).eraseDups with
      | [letter] => .ok letter
      | [] => .error (chars "unrecognized option '--" ++ name ++ ['\x27'])
      | _ =>
          .error (chars "option '--" ++ name ++ chars "' is ambiguous; possibilities:"
            ++ fitting.flatMap fun e => chars (" '--" ++ e.1 ++ "'"))

/-- The options that the letters of one argument give, and the arguments behind it. -/
def readLetters (form : OptionForm) : List Char → List ByteText → List (Char × ByteText) →
    Except ByteText (List (Char × ByteText) × List ByteText)
  | [], rest, done => .ok (done, rest)
  | c :: letters, rest, done =>
      match form.valued? c with
      | none => .error (chars "invalid option -- '" ++ [c, '\x27'])
      | some .no => readLetters form letters rest ((c, []) :: done)
      | some .maybe => .ok ((c, letters) :: done, rest)
      | some .yes =>
          if !letters.isEmpty then .ok ((c, letters) :: done, rest)
          else
            match rest with
            | value :: rest => .ok ((c, value) :: done, rest)
            | [] => .error (chars "option requires an argument -- '" ++ [c, '\x27'])

/-- The option that a long name gives, and the arguments behind it. -/
def readName (form : OptionForm) (argument : ByteText) (rest : List ByteText)
    (done : List (Char × ByteText)) : Except ByteText (List (Char × ByteText) × List ByteText) :=
  let name := argument.takeWhile (· ≠ '=')
  match form.named name with
  | .error e => .error e
  | .ok letter =>
      match (form.valued? letter).getD .no, argument.drop name.length, rest with
      | .no, [], rest => .ok ((letter, []) :: done, rest)
      | .no, _, _ =>
          .error (chars "option '--" ++ name ++ chars "' doesn't allow an argument")
      | .maybe, value, rest => .ok ((letter, value.drop 1) :: done, rest)
      | .yes, _ :: value, rest => .ok ((letter, value) :: done, rest)
      | .yes, [], value :: rest => .ok ((letter, value) :: done, rest)
      | .yes, [], [] =>
          .error (chars "option '--" ++ name ++ chars "' requires an argument")

/-- The options and the operands among arguments, or what is wrong with them. -/
def readFrom (form : OptionForm) : Nat → List (Char × ByteText) → List ByteText → List ByteText →
    Except ByteText Options
  | 0, given, operands, rest => .ok ⟨given.reverse, operands.reverse ++ rest⟩
  | _, given, operands, [] => .ok ⟨given.reverse, operands.reverse⟩
  | room + 1, given, operands, argument :: rest =>
      match argument with
      | ['-', '-'] => .ok ⟨given.reverse, operands.reverse ++ rest⟩
      | '-' :: '-' :: name =>
          match readName form name rest given with
          | .ok (given, rest) => readFrom form room given operands rest
          | .error e => .error e
      | '-' :: c :: letters =>
          match readLetters form (c :: letters) rest given with
          | .ok (given, rest) => readFrom form room given operands rest
          | .error e => .error e
      | _ =>
          if form.anywhere then readFrom form room given (argument :: operands) rest
          else .ok ⟨given.reverse, operands.reverse ++ argument :: rest⟩

end OptionForm

namespace Task

/-- An error that a tool tells about. -/
def complain (t : Task) (text : ByteText) : Remark := ⟨true, t.name ++ chars ": " ++ text ++ ['\n']⟩

/-- An error number that a tool tells about, after what it was about. -/
def complainOf (t : Task) (about : ByteText) (e : Errno) : Remark :=
  t.complain (about ++ chars ": " ++ chars (Errno.message e))

/-- An error number that a tool tells about, after the name of a file. -/
def complainAbout (t : Task) (path : ByteText) (e : Errno) : Remark :=
  t.complainOf (inQuotesIfNeeded path) e

/-- What a tool says of a call that is wrong. -/
def misuse (t : Task) (text : ByteText) : Remark :=
  ⟨true, (t.complain text).text ++ chars "Try '" ++ t.name ++
    chars " --help' for more information.\n"⟩

/-- Do something with the options and the operands, or end with a status if they are wrong. -/
def withOptions (t : Task) (form : OptionForm) (failure : Nat) (m : Machine) (f : Options → Effect) :
    Effect :=
  match form.readFrom (t.arguments.length + 1) [] [] t.arguments with
  | .ok options => f options
  | .error text => .failed m (t.misuse text) failure

/-- What a tool without an operand says. -/
def missing (t : Task) (m : Machine) (failure : Nat) : Effect :=
  .failed m (t.misuse (chars "missing operand")) failure

/-- What a tool with an operand too many says. -/
def extra (t : Task) (m : Machine) (operand : ByteText) (failure : Nat) : Effect :=
  .failed m (t.misuse (chars "extra operand " ++ inPlainQuotes operand)) failure

/-- The value of a variable of the environment. -/
def variableOf (t : Task) (name : String) : Option ByteText :=
  (t.environment.find? fun e => e.1 == chars name).map (·.2)

/-! ### What a tool works on -/

/-- A text that a tool works on, with the name it is told by, or the error that came of it. -/
structure Source where
  name : ByteText
  text : Except Errno ByteText
  isInput : Bool

/-- Whether a source could be opened: only files that are not there or not for reading cannot. -/
def Source.isOpened (s : Source) : Bool :=
  match s.text with
  | .ok _ => true
  | .error e => s.isInput || e = Errno.isDirectory

/-- The text of a file or of a descriptor. -/
def readFile (t : Task) (m : Machine) (path : ByteText) : Except Errno ByteText :=
  match m.stat path with
  | .ok (.descriptor 0) => t.input
  | .ok node => (Machine.contentOf node).map ByteText.ofBytes
  | .error e => .error e

/-- The text that an operand names; a hyphen stands for the input. -/
def source (t : Task) (m : Machine) (path : ByteText) : Source :=
  if path = ['-'] then ⟨path, t.input, true⟩
  else ⟨path, t.readFile m path, false⟩

/-- The texts that operands name; the input stands for no operands at all. -/
def sources (t : Task) (m : Machine) (operands : List ByteText) : List Source :=
  (if operands.isEmpty then [['-']] else operands).map (t.source m)

/-- Say something about each text, or tell the error that came of it. -/
def overSources (t : Task) (m : Machine) (operands : List ByteText) (f : Source → ByteText → ByteText) :
    List Remark :=
  (t.sources m operands).map fun s =>
    match s.text with
    | .ok text => ⟨false, f s text⟩
    | .error e => t.complainAbout s.name e

/-- All texts one after the other, and the errors that came of some. -/
def gather (t : Task) (m : Machine) (operands : List ByteText) : ByteText × List Remark :=
  let sources := t.sources m operands
  (sources.flatMap fun s => match s.text with | .ok text => text | .error _ => [],
    sources.filterMap fun s => match s.text with
      | .ok _ => none
      | .error e => some (t.complainAbout s.name e))

/-- Whether operands make a tool read its input. -/
def usesInput (m : Machine) (operands : List ByteText) : Bool :=
  operands.isEmpty || operands.any fun path =>
    path = ['-'] || m.isSuch (fun node => match node with | .descriptor 0 => true | _ => false) path

/-! ### What a tool writes -/

/-- Write a text to a file that is made or emptied, or to a descriptor. -/
def writeFile (t : Task) (path text : ByteText) (atEnd : Bool) (m : Machine) :
    Except Errno (Machine × List Remark) :=
  match m.openFile path ⟨!atEnd, false, 0o666 &&& (0o777 - t.mask)⟩ with
  | .error e => .error e
  | .ok (.file number, m) => .ok (m.append number (ByteText.toBytes text), [])
  | .ok (.device .full, m) => if text.isEmpty then .ok (m, []) else .error Errno.noSpace
  | .ok (.device _, m) => .ok (m, [])
  | .ok (.descriptor number, m) => .ok (m, [⟨number = 2, text⟩])

end Task

/-- Tell that a tool read the texts that operands name. -/
def Effect.reading (e : Effect) (m : Machine) (operands : List ByteText) : Effect :=
  { e with reads := Task.usesInput m operands }

end AssemblyGate
