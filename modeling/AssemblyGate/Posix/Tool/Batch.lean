/-
**Commands for the words of a text.**

A text is taken apart into words, or into lines, and a command is run for so many of them at a time
until none are left.

Main definitions:

* `AssemblyGate.Batch.readLines` — the words of a text, line by line, with quotes resolved;
* `AssemblyGate.Batch.runAll` — one command after the other;
* `AssemblyGate.Tool.xargs` — the tool.
-/
import AssemblyGate.Posix.Tool.Text

set_option autoImplicit false

namespace AssemblyGate

namespace Batch

/-! ### Words -/

/-- What is known while a text is taken apart: the lines before, last one first, with the words of
each, last one first; the word that has begun, last character first; and whether a blank stands at
the end of the line so far. -/
structure Reading where
  lines : List (List ByteText)
  words : List ByteText
  word : Option ByteText
  isOpen : Bool

/-- End the word that has begun. -/
def Reading.endWord (r : Reading) : Reading :=
  { r with words := (r.word.map List.reverse).toList ++ r.words, word := none }

/-- End the line, unless it has no words or goes on behind a blank at its end. -/
def Reading.endLine (joins : Bool) (r : Reading) : Reading :=
  let goesOn := joins && r.isOpen && r.word.isNone
  let r := r.endWord
  if r.words.isEmpty || goesOn then { r with isOpen := false }
  else { r with lines := r.words :: r.lines, words := [], isOpen := false }

/-- Add a character to the word. -/
def Reading.add (c : Char) (r : Reading) : Reading :=
  { r with word := some (c :: r.word.getD []), isOpen := false }

/-- The lines of a text with their words.  A quote that is not closed is wrong. -/
def readLines (joins byLines : Bool) : Option Char → Reading → ByteText →
    Except Char (List (List ByteText))
  | some mark, _, [] => .error mark
  | none, r, [] =>
      let r := { r with isOpen := false }.endLine false
      .ok (r.lines.reverse.map List.reverse)
  | some mark, r, c :: rest =>
      if c = mark then readLines joins byLines none { r with word := some (r.word.getD []) } rest
      else if c = '\n' then .error mark
      else readLines joins byLines (some mark) (r.add c) rest
  | none, r, '\\' :: c :: rest => readLines joins byLines none (r.add c) rest
  | none, r, ['\\'] => readLines joins byLines none r []
  | none, r, c :: rest =>
      if c = '\x27' || c = '"' then readLines joins byLines (some c) r rest
      else if c = '\n' then readLines joins byLines none (r.endLine joins) rest
      else if c = ' ' || c = '\t' then
        if byLines && r.word.isSome then readLines joins byLines none (r.add c) rest
        else readLines joins byLines none { r.endWord with isOpen := true } rest
      else readLines joins byLines none (r.add c) rest

/-- The pieces of a text between marks. -/
def pieces (mark : Char) (text : ByteText) : List ByteText :=
  let ended := if text.getLast? = some mark then text.dropLast else text
  if text.isEmpty then [] else ByteText.split mark ended

/-- A text in which each place of another one is filled. -/
def filled (place filling : ByteText) : Nat → ByteText → ByteText
  | 0, text => text
  | _, [] => []
  | room + 1, c :: rest =>
      if !place.isEmpty && place.isPrefixOf (c :: rest) then
        filling ++ filled place filling room ((c :: rest).drop place.length)
      else c :: filled place filling room rest

/-- Lists of words in groups that have at most so many members and take at most so much room. -/
def groups (most room : Nat) : List (List ByteText) → Nat → List (List ByteText) →
    List (List ByteText)
  | group, _, [] => if group.isEmpty then [] else [group.reverse.flatten]
  | group, taken, item :: rest =>
      let size := (item.map fun w => w.length + 1).foldl (· + ·) 0
      if !group.isEmpty && (most ≤ group.length || room < taken + size) then
        group.reverse.flatten :: groups most room [item] size rest
      else groups most room (item :: group) (taken + size) rest

/-! ### Commands -/

/-- What has come of commands: the machine after them, what was said, the status, how long they
took, and whether no further one is run. -/
structure Progress where
  machine : Machine
  said : List Remark
  status : Nat
  waited : Nat
  isStopped : Bool

/-- Run one command more, after it was shown if this is wanted. -/
def Progress.run (t : Task) (shows : Bool) (p : Progress) (words : List ByteText) : Progress :=
  if p.isStopped then p
  else
    let name := words.headD []
    let shown : List Remark := if shows then [⟨true, joinWith [' '] words ++ ['\n']⟩] else []
    match t.call t.environment words [] p.machine with
    | .error e =>
        { p with
          said := p.said ++ shown ++ [t.complainOf name e]
          status := if e = Errno.noEntry then 127 else 126
          isStopped := true }
    | .ok effect =>
        let aborts := effect.status = 255
        let complaint := if aborts then
            [t.complain (name ++ chars ": exited with status 255; aborting")]
          else []
        { machine := effect.machine
          said := p.said ++ shown ++ effect.said ++ complaint
          status := if aborts then 124 else if effect.status = 0 then p.status else 123
          waited := p.waited + effect.waited
          isStopped := aborts }

/-- A number that an option gives, if there is one, or what is wrong with it. -/
def count? (o : Options) (letter : Char) : Except ByteText (Option Nat) :=
  match o.value? letter with
  | none => .ok none
  | some text =>
      match Numeral.natural? text with
      | some 0 =>
          .error (chars "value 0 for -" ++ [letter] ++ chars " option should be >= 1")
      | some n => .ok (some n)
      | none =>
          .error (chars "invalid number \"" ++ text ++ chars "\" for -" ++ [letter]
            ++ chars " option")

/-- The most room that a command with its words takes. -/
def usualRoom : Nat := 131072

end Batch

open Batch in
/-- Run a command for the words of the input, or of a file. -/
def Tool.xargs : Tool := fun t m =>
  let form : OptionForm :=
    ⟨"0a:d:E:I:L:n:P:prs:tx",
      [("null", '0'), ("arg-file", 'a'), ("delimiter", 'd'), ("replace", 'I'),
      ("max-lines", 'L'), ("max-args", 'n'), ("max-procs", 'P'), ("no-run-if-empty", 'r'),
      ("max-chars", 's'), ("verbose", 't'), ("exit", 'x')], false⟩
  t.withOptions form 1 m fun o =>
    let path := o.value? 'a'
    let source := t.source m (path.getD ['-'])
    let command := if o.operands.isEmpty then [chars "echo"] else o.operands
    match source.text, count? o 'n', count? o 'L', count? o 's' with
    | .error e, _, _, _ =>
        if path.isNone then .failed m (t.complainOf (chars "error closing file") e) 1
        else .failed m (t.complain (chars "Cannot open input file " ++ inQuotes source.name
          ++ chars ": " ++ chars (Errno.message e))) 1
    | _, .error wrong, _, _ | _, _, .error wrong, _ | _, _, _, .error wrong =>
        .failed m (t.misuse wrong) 1
    | .ok text, .ok most, .ok height, .ok room =>
        let place := o.value? 'I'
        let mark : Option Char := match o.lastOf? ['0', 'd'] with
          | some '0' => some '\x00'
          | some _ => (Escape.resolve ((o.value? 'd').getD [])).1.head?
          | none => none
        let byLines := place.isSome || height.isSome
        let lines : Except Char (List (List ByteText)) := match mark with
          | some mark => .ok ((pieces mark text).map fun w => [w])
          | none => readLines height.isSome place.isSome none ⟨[], [], none, false⟩ text
        match lines with
        | .error mark =>
            let kind := if mark = '"' then "double" else "single"
            (Effect.failed m (t.complain (chars ("unmatched " ++ kind
              ++ " quote; by default quotes are special to xargs unless you use the -0 option")))
              1).reading m []
        | .ok lines =>
            let items := if byLines then lines else lines.flatten.map fun w => [w]
            let items := match o.value? 'E' with
              | some last => items.takeWhile (· ≠ [last])
              | none => items
            let fixed := (command.map fun w => w.length + 1).foldl (· + ·) 0
            let left := room.getD usualRoom - fixed
            let isTooLong (item : List ByteText) : Bool :=
              left < (item.map fun w => w.length + 1).foldl (· + ·) 0
            if items.any isTooLong then
              (Effect.failed m (t.complain (chars "argument line too long")) 1).reading m []
            else
              let calls : List (List ByteText) := match place with
                | some place =>
                    items.map fun item =>
                      let word := item.headD []
                      command.map fun w => filled place word (w.length + 1) w
                | none =>
                    let found := groups (if byLines then height.getD 1
                      else most.getD usualRoom) left
                      [] 0 items
                    let found := if found.isEmpty && !o.has 'r' then [[]] else found
                    found.map fun words => command ++ words
              let done := calls.foldl (Progress.run t (o.has 't')) ⟨m, [], 0, 0, false⟩
              { Effect.ended done.machine done.said done.status with
                waited := done.waited, reads := path.isNone }

end AssemblyGate
