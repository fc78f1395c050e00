/-
**Running scripts of the stream editor.**

The lines of the input are worked on one by one: each becomes the text that the commands change, and
when they are through with it, it is said.  A second text is kept beside it.  What commands want
said behind the line waits in a queue until the next line is read.

Main definitions:

* `AssemblyGate.Sed.Manner` — how a script is run;
* `AssemblyGate.Sed.State` — what is known while it runs;
* `AssemblyGate.Sed.run` — the state after the whole input, and how it ended.
-/
import AssemblyGate.Posix.Sed.Script
import AssemblyGate.Posix.Tool.Text

set_option autoImplicit false

namespace AssemblyGate.Sed

/-- A line of the input: its text, whether it has an end, and the file it comes from. -/
structure InputLine where
  text : ByteText
  hasEnd : Bool
  file : Nat
  path : ByteText

/-- How a script is run: whether lines are said only when a command says so, whether each file has
lines of its own, whether files are changed in place, what ends a line, how long lines are that show
everything, and the task. -/
structure Manner where
  isQuiet : Bool
  byFile : Bool
  inPlace : Bool
  ending : Char
  width : Nat
  task : Task

/-- What waits to be said behind a line. -/
inductive Waiting
  | text (text : ByteText)
  | line (text : ByteText)
  | file (path : ByteText)

/-- What is known while a script runs.  Pieces of the output are kept last one first, each with the
file it belongs to where files are changed in place. -/
structure State where
  machine : Machine
  input : List InputLine
  number : Nat
  text : ByteText
  hasEnd : Bool
  kept : ByteText
  keptEnd : Bool
  file : Nat
  path : ByteText
  isReplaced : Bool
  waiting : List Waiting
  ranges : List (Nat × Option Nat)
  last : Pattern
  said : List (Option Nat × ByteText)
  notes : List ByteText
  isUnended : Bool
  outputs : List (ByteText × Machine.Opened)
  unendedOutputs : List ByteText
  lists : List (ByteText × List ByteText)

/-- How it goes on after a command. -/
inductive Flow
  | next
  | goTo (index : Nat)
  | endOfScript
  | newLine
  | again
  | stop (status : Nat)
  | fail (message : String) (status : Nat)

namespace State

/-! ### Saying -/

/-- Say a text. -/
def put (m : Manner) (s : State) (text : ByteText) : State :=
  { s with said := (if m.inPlace then some s.file else none, text) :: s.said }

/-- End a line that was said without its end. -/
def endLine (m : Manner) (s : State) : State :=
  if s.isUnended then { s.put m [m.ending] with isUnended := false } else s

/-- Say a line, with its end if it has one. -/
def sayLine (m : Manner) (s : State) (text : ByteText) (hasEnd : Bool) : State :=
  let s := (s.endLine m).put m (if hasEnd then text ++ [m.ending] else text)
  { s with isUnended := !hasEnd }

/-- Say the text. -/
def say (m : Manner) (s : State) : State := s.sayLine m s.text s.hasEnd

/-- Say what waits. -/
def flush (m : Manner) (s : State) : State :=
  let step (s : State) (w : Waiting) : State :=
    match w with
    | .text text => (s.endLine m).put m text
    | .line text => s.sayLine m text true
    | .file path =>
        match m.task.readFile s.machine path with
        | .ok text => (s.endLine m).put m text
        | .error _ => s.endLine m
  { s.waiting.reverse.foldl step s with waiting := [] }

/-- Write a line to a file. -/
def writeTo (m : Manner) (s : State) (path text : ByteText) (hasEnd : Bool) : State :=
  let start := if s.unendedOutputs.contains path then [m.ending] else []
  let bytes := start ++ (if hasEnd then text ++ [m.ending] else text)
  let others := s.unendedOutputs.filter (· ≠ path)
  let s := { s with unendedOutputs := if hasEnd then others else path :: others }
  match s.outputs.find? fun e => e.1 == path with
  | some (_, .file number) => { s with machine := s.machine.append number (ByteText.toBytes bytes) }
  | some (_, .descriptor 2) => { s with notes := bytes :: s.notes }
  | some (_, .descriptor _) => { s with said := (none, bytes) :: s.said }
  | _ => s

/-! ### Reading -/

/-- Whether the line is the last one. -/
def isLast (m : Manner) (s : State) : Bool :=
  match s.input with
  | [] => true
  | next :: _ => m.byFile && next.file ≠ s.file

/-- Take the next line of the input. -/
def advance (m : Manner) (s : State) : Option (InputLine × State) :=
  match s.input with
  | [] => none
  | line :: rest =>
      let s := s.flush m
      let isNew := line.file ≠ s.file
      let s := if isNew && m.inPlace then { s with isUnended := false } else s
      some (line, { s with
        input := rest
        number := if isNew && m.byFile then 1 else s.number + 1
        file := line.file
        path := line.path
        isReplaced := false })

/-! ### Selecting -/

/-- Whether an expression occurs in the text; nothing if there is none. -/
def matchesText (s : State) (pattern : Pattern) : Option (Bool × State) :=
  (pattern.or s.last).map fun (regex, manner) =>
    (Regex.occurs manner regex s.text, { s with last := some (regex, manner) })

/-- Whether an address is that of the line. -/
def isAt (m : Manner) (s : State) : Address → Option (Bool × State)
  | .line n => some (s.number = n, s)
  | .step first step => some (first ≤ s.number && (s.number - first) % step = 0, s)
  | .last => some (s.isLast m, s)
  | .text pattern => s.matchesText pattern

/-- Let the range of a command begin, with the number of its last line if that is known. -/
def openRange (s : State) (index : Nat) (last : Option Nat) : State :=
  { s with ranges := (index, last) :: s.ranges.filter (·.1 ≠ index) }

/-- Let the range of a command end. -/
def closeRange (s : State) (index : Nat) : State :=
  { s with ranges := s.ranges.filter (·.1 ≠ index) }

/-- Whether the line is in the range of a command that begins with it. -/
def beginRange (s : State) (index : Nat) : Bound → State
  | .address (.line n) => if n ≤ s.number then s else s.openRange index (some n)
  | .address _ => s.openRange index none
  | .behind count => if count = 0 then s else s.openRange index (some (s.number + count))
  | .multiple n =>
      if n = 0 then s else s.openRange index (some ((s.number / n + 1) * n))

/-- Whether a command is for the line. -/
def isSelected (m : Manner) (s : State) (index : Nat) (guard : Guard) : Option (Bool × State) :=
  match guard.first with
  | none => some (true, s)
  | some first =>
      match guard.second, s.ranges.find? fun e => e.1 == index with
      | some _, some (_, some last) =>
          let closed := if last ≤ s.number then s.closeRange index else s
          some (s.number ≤ last, closed)
      | some (.address bound), some (_, none) =>
          (s.isAt m bound).map fun (isEnd, s) => (true, if isEnd then s.closeRange index else s)
      | some bound, _ =>
          (s.isAt m first).map fun (begins, s) =>
            if begins then (true, s.beginRange index bound) else (false, s)
      | none, _ => s.isAt m first

/-! ### Commands -/

/-- The text up to its first line feed. -/
def firstLine (m : Manner) (s : State) : ByteText := s.text.takeWhile (· ≠ m.ending)

/-- Whether the first line of the text has an end. -/
def firstHasEnd (m : Manner) (s : State) : Bool := s.hasEnd || s.text.contains m.ending

/-- Run a command of the shell: what it says, and the state after it. -/
def execute (m : Manner) (s : State) (command : ByteText) : ByteText × State :=
  match m.task.call m.task.environment [['s', 'h'], ['-', 'c'], command] [] s.machine with
  | .error _ => ([], s)
  | .ok effect =>
      let output := effect.said.flatMap fun r => if r.isError then [] else r.text
      let errors := effect.said.filterMap fun r => if r.isError then some r.text else none
      (output, { s with machine := effect.machine, notes := errors.reverse ++ s.notes })

/-- A text without the end of its last line. -/
def withoutEnd (text : ByteText) : ByteText :=
  if text.getLast? = some '\n' then text.dropLast else text

/-- Replace matches in the text: the state after it, unless there is no expression. -/
def substitute (m : Manner) (s : State) (how : Substitution) : Option State :=
  (how.pattern.or s.last).map fun (regex, manner) =>
    let s := { s with last := some (regex, manner) }
    let (found, rest) := Regex.cut manner regex s.text
    if found.length < how.start then s
    else
      let pieces := found.zipIdx.map fun (f, i) =>
        let isChosen := i + 1 = how.start || how.isGlobal && how.start ≤ i + 1
        f.before ++ (if isChosen then how.replacement.fill f else f.matched)
      let s := { s with text := pieces.flatten ++ rest, isReplaced := true }
      let s := if how.runs then
          let (output, s) := s.execute m s.text
          { s with text := withoutEnd output }
        else s
      let s := if how.isSaid then s.say m else s
      match how.file with
      | some path => s.writeTo m path s.text s.hasEnd
      | none => s

/-- A character as it is shown where everything is shown. -/
def shownChar (c : Char) : ByteText :=
  let letters : List (Char × Char) :=
    [('\x07', 'a'), ('\x08', 'b'), ('\x0c', 'f'), ('\n', 'n'), ('\r', 'r'), ('\t', 't'),
      ('\x0b', 'v'), ('\\', '\\')]
  match letters.find? fun e => e.1 == c with
  | some (_, letter) => ['\\', letter]
  | none =>
      if ' ' ≤ c ∧ c ≤ '~' then [c]
      else
        let digits := Nat.toDigits 8 c.toNat
        '\\' :: List.replicate (3 - digits.length) '0' ++ digits

/-- A text as it is shown where everything is shown, in lines that are not longer than a width. -/
def shownText (width : Nat) (text : ByteText) : ByteText :=
  let step (state : ByteText × Nat) (c : Char) : ByteText × Nat :=
    let (done, used) := state
    let shown := shownChar c
    if 0 < width && width - 1 < used + shown.length then
      (shown.reverse ++ ['\n', '\\'] ++ done, shown.length)
    else (shown.reverse ++ done, used + shown.length)
  (text.foldl step ([], 0)).1.reverse ++ ['$', '\n']

/-- The next line of a file that is read line by line. -/
def nextOf (m : Manner) (s : State) (path : ByteText) : Option ByteText × State :=
  let lines := match s.lists.find? fun e => e.1 == path with
    | some (_, lines) => lines
    | none =>
        match m.task.readFile s.machine path with
        | .ok text => ByteText.lines text
        | .error _ => []
  let others := s.lists.filter fun e => e.1 != path
  (lines.head?, { s with lists := (path, lines.tail) :: others })

end State

/-- The end of the block that a command opens: the number of commands behind it up to the end. -/
def blockLength : Nat → List Command → Nat
  | _, [] => 0
  | depth, command :: rest =>
      match command.action with
      | .opens => 1 + blockLength (depth + 1) rest
      | .closes => if depth = 0 then 1 else 1 + blockLength (depth - 1) rest
      | _ => 1 + blockLength depth rest

/-- Where a label stands; no label stands for the end of the script. -/
def placeOf (script : Array Command) (label : ByteText) : Nat :=
  if label.isEmpty then script.size
  else (script.findIdx? fun command => command.action = .label label).getD script.size

/-- Say the text when the commands are through with it, unless lines are said only when told. -/
def autoSay (m : Manner) (s : State) : State := if m.isQuiet then s else s.say m

/-- What there is to say of an expression that stands for the one used last where there is none. -/
def noPattern : Flow := .fail "no previous regular expression" 1

/-- Carry a command out. -/
def perform (m : Manner) (script : Array Command) (index : Nat) (action : Action) (s : State) :
    State × Flow :=
  match action with
  | .opens | .closes | .label _ | .nothing => (s, .next)
  | .jump kind label =>
      match kind with
      | .always => (s, .goTo (placeOf script label))
      | .ifReplaced =>
          if s.isReplaced then ({ s with isReplaced := false }, .goTo (placeOf script label))
          else (s, .next)
      | .unlessReplaced =>
          if s.isReplaced then ({ s with isReplaced := false }, .next)
          else (s, .goTo (placeOf script label))
  | .append text => ({ s with waiting := .text text :: s.waiting }, .next)
  | .insert text => ((s.endLine m).put m text, .next)
  | .change text =>
      let isInside := s.ranges.any fun e => e.1 == index
      (if isInside then s else (s.endLine m).put m text, .newLine)
  | .delete => (s, .newLine)
  | .deleteFirst =>
      let rest := s.text.drop (s.firstLine m).length
      if rest.isEmpty then (s, .newLine) else ({ s with text := rest.drop 1 }, .again)
  | .execute command =>
      if command.isEmpty then
        let (output, s) := s.execute m s.text
        ({ s with text := State.withoutEnd output, hasEnd := true }, .next)
      else
        let (output, s) := s.execute m command
        ((s.endLine m).put m output, .next)
  | .sayFile => (s.sayLine m s.path true, .next)
  | .fetch => ({ s with text := s.kept, hasEnd := s.keptEnd }, .next)
  | .fetchAppend =>
      ({ s with text := s.text ++ m.ending :: s.kept, hasEnd := s.keptEnd }, .next)
  | .store => ({ s with kept := s.text, keptEnd := s.hasEnd }, .next)
  | .storeAppend =>
      ({ s with kept := s.kept ++ m.ending :: s.text, keptEnd := s.hasEnd }, .next)
  | .exchange =>
      ({ s with text := s.kept, hasEnd := s.keptEnd, kept := s.text, keptEnd := s.hasEnd }, .next)
  | .list width => ((s.endLine m).put m (State.shownText (width.getD m.width) s.text), .next)
  | .next =>
      if s.input.isEmpty then (autoSay m s, .stop 0)
      else
        match (autoSay m s).advance m with
        | some (line, s) => ({ s with text := line.text, hasEnd := line.hasEnd }, .next)
        | none => (s, .stop 0)
  | .nextAppend =>
      match s.advance m with
      | some (line, s) =>
          ({ s with text := s.text ++ m.ending :: line.text, hasEnd := line.hasEnd }, .next)
      | none => (autoSay m s, .stop 0)
  | .say => (s.say m, .next)
  | .sayFirst => (s.sayLine m (s.firstLine m) (s.firstHasEnd m), .next)
  | .quit isSaid status =>
      (if isSaid then (autoSay m s).endLine m else { s with waiting := [] }, .stop status)
  | .read path => ({ s with waiting := .file path :: s.waiting }, .next)
  | .readLine path =>
      match s.nextOf m path with
      | (some line, s) => ({ s with waiting := .line line :: s.waiting }, .next)
      | (none, s) => (s, .next)
  | .write path => (s.writeTo m path s.text s.hasEnd, .next)
  | .writeFirst path => (s.writeTo m path (s.firstLine m) (s.firstHasEnd m), .next)
  | .substitute how =>
      match s.substitute m how with
      | some s => (s, .next)
      | none => (s, noPattern)
  | .replace table =>
      let change (c : Char) : Char := ((table.find? fun e => e.1 == c).map (·.2)).getD c
      ({ s with text := s.text.map change }, .next)
  | .sayNumber => ((s.endLine m).put m (Numeral.decimal s.number ++ ['\n']), .next)
  | .clear => ({ s with text := [] }, .next)

/-- Carry the command at an index out, if it is for the line. -/
def step (m : Manner) (script : Array Command) (index : Nat) (s : State) : State × Flow :=
  match script[index]? with
  | none => (s, .endOfScript)
  | some command =>
      match s.isSelected m index command.guard with
      | none => (s, noPattern)
      | some (isSelected, s) =>
          if isSelected != command.guard.negated then perform m script index command.action s
          else if command.action = .opens then
            (s, .goTo (index + 1 + blockLength 0 (script.toList.drop (index + 1))))
          else (s, .next)

/-- How a run ended: with a status, with a message, or not at all. -/
inductive End
  | status (n : Nat)
  | failure (message : String) (status : Nat)
  | never

/-- Begin with the next line. -/
def begin (m : Manner) (s : State) : Option State :=
  (s.advance m).map fun (line, s) => { s with text := line.text, hasEnd := line.hasEnd }

/-- Run a script from a command on. -/
def runFrom (m : Manner) (script : Array Command) : Nat → Nat → State → State × End
  | 0, _, s => (s, .never)
  | room + 1, index, s =>
      let (s, flow) := step m script index s
      let fresh (s : State) : State × End :=
        match begin m s with
        | some s => runFrom m script room 0 s
        | none => (s.flush m, .status 0)
      match flow with
      | .next => runFrom m script room (index + 1) s
      | .goTo index => runFrom m script room index s
      | .endOfScript => fresh (autoSay m s)
      | .newLine => fresh s
      | .again => runFrom m script room 0 (s.flush m)
      | .stop status => (s.flush m, .status status)
      | .fail message status => (s, .failure message status)

/-- How many commands are carried out at most. -/
def maxSteps : Nat := 300000

/-- The state before the first line. -/
def State.before (script : Array Command) (input : List InputLine)
    (outputs : List (ByteText × Machine.Opened)) (machine : Machine) : State :=
  let ranges := (script.toList.zipIdx.filter fun e => e.1.guard.first = some (.line 0)).map fun e =>
    (e.2, (none : Option Nat))
  { machine, input, number := 0, text := [], hasEnd := true, kept := [], keptEnd := true, file := 0
    path := [], isReplaced := false, waiting := [], ranges, last := none, said := [], notes := []
    isUnended := false, outputs, unendedOutputs := [], lists := [] }

/-- Run a script on its whole input. -/
def run (m : Manner) (script : Array Command) (s : State) : State × End :=
  match begin m s with
  | some s => runFrom m script maxSteps 0 s
  | none => (s, .status 0)

end AssemblyGate.Sed
