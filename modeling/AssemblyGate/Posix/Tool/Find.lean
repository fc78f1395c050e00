/-
**Finding files.**

Below some paths all files are visited, each directory before what it holds, or after it.  For each
of them a condition is looked at, from left to right as far as its parts matter; some parts of it do
something with the file.

Main definitions:

* `AssemblyGate.Find.Test`, `AssemblyGate.Find.Wish` — what is asked of a file and done with it;
* `AssemblyGate.Find.readChoice` — the condition that words spell;
* `AssemblyGate.Find.visit` — the visit of a file and of all below it;
* `AssemblyGate.Tool.find` — the tool.
-/
import AssemblyGate.Posix.Pattern.Glob
import AssemblyGate.Posix.Tool.Batch
import AssemblyGate.Posix.Tool.Condition

set_option autoImplicit false

namespace AssemblyGate

namespace Find

/-! ### Conditions -/

/-- A number to compare with: the same, more, or less. -/
structure Bound where
  order : Ordering
  number : Nat
deriving DecidableEq

/-- Whether a number is within a bound. -/
def Bound.admits (b : Bound) (n : Nat) : Bool := compare n b.number = b.order

/-- Something that is asked of a file, or done with it. -/
inductive Test
  | name (pattern : ByteText) (ofPath anyCase : Bool)
  | kind (letters : List Char)
  | empty
  | size (bound : Bound) (unit : Nat)
  | age (bound : Bound)
  | newer (stamp : Nat)
  | mode (sign : Char) (bits : Nat)
  | constant (value : Bool)
  | print (ending : Char)
  | printAs (format : ByteText)
  | run (words : List ByteText)
  | runOnce (number : Nat) (words : List ByteText)
  | delete
  | prune
  | quit

/-- A condition. -/
inductive Wish
  | test (t : Test)
  | negation (c : Wish)
  | both (a b : Wish)
  | either (a b : Wish)
  | lastOf (a b : Wish)

/-- Whether a test does something, so that files need not be printed for a condition that holds
it. -/
def Test.isAction : Test → Bool
  | .print _ | .printAs _ | .run _ | .runOnce .. | .delete | .quit => true
  | _ => false

/-- Whether a condition holds a test of some kind. -/
def Wish.hasTest (p : Test → Bool) : Wish → Bool
  | .test t => p t
  | .negation c => c.hasTest p
  | .both a b | .either a b | .lastOf a b => a.hasTest p || b.hasTest p

/-- How files are visited: the least and the most depth, each directory after what it holds, and
whether links are followed. -/
structure Course where
  least : Nat
  most : Nat
  isDeepFirst : Bool
  follows : Bool

/-! ### Reading -/

/-- What is left of the words, the number of commands that are gathered, and the course so far. -/
structure Reading where
  words : List ByteText
  commands : Nat
  course : Course
  before : ByteText

/-- The work of reading a condition; what is wrong with the words may stop it. -/
abbrev Work := EStateM (List ByteText) Reading

/-- Stop with what is wrong. -/
def wrong {α : Type} (text : ByteText) : Work α := throw [text]

/-- The argument of a test. -/
def argument (name : ByteText) : Work ByteText := do
  let r ← get
  match r.words with
  | word :: rest =>
      set { r with words := rest }
      return word
  | [] => wrong (chars "missing argument to \x60" ++ name ++ ['\x27'])

/-- A bound that an argument spells. -/
def bound? (text : ByteText) : Option Bound :=
  match text with
  | '+' :: digits => (Numeral.natural? digits).map fun n => ⟨.gt, n⟩
  | '-' :: digits => (Numeral.natural? digits).map fun n => ⟨.lt, n⟩
  | digits => (Numeral.natural? digits).map fun n => ⟨.eq, n⟩

/-- The test of a size that an argument spells: a bound with a unit. -/
def sizeTest (text : ByteText) : Work Test := do
  let digits := text.takeWhile fun c => Numeral.isDigit c || c = '+' || c = '-'
  let unit : Option Nat := match text.drop digits.length with
    | [] | ['b'] => some 512
    | ['c'] => some 1
    | ['w'] => some 2
    | ['k'] => some 1024
    | ['M'] => some (1024 * 1024)
    | ['G'] => some (1024 * 1024 * 1024)
    | _ => none
  match bound? digits, unit with
  | some bound, some unit => return .size bound unit
  | _, _ => wrong (chars "Invalid argument \x60" ++ text ++ chars "' to -size")

/-- The test of a mode that an argument spells: exactly these bits, all of them, or one of them. -/
def modeTest (text : ByteText) : Work Test := do
  let (sign, digits) := match text with
    | '-' :: rest => ('-', rest)
    | '/' :: rest => ('/', rest)
    | rest => ('=', rest)
  if digits.isEmpty || digits.any fun c => c < '0' || '7' < c then
    wrong (chars "invalid mode \x60" ++ text ++ ['\x27'])
  else return .mode sign (digits.foldl (fun n c => n * 8 + (c.toNat - '0'.toNat)) 0)

/-- The words of a command up to its end, and whether files are gathered for it. -/
def commandWords (name : ByteText) : List ByteText → List ByteText → Work (List ByteText × Bool)
  | _, [] => wrong (chars "missing argument to \x60" ++ name ++ ['\x27'])
  | done, word :: rest => do
      let isGathered := word = ['+'] && done.head? = some ['\x7b', '\x7d']
      if word = [';'] || isGathered then
        if done.isEmpty then wrong (chars "missing argument to \x60" ++ name ++ ['\x27'])
        modify fun r => { r with words := rest }
        return (done.reverse, isGathered)
      else commandWords name (word :: done) rest

/-- A limit of depth. -/
def depth (name : ByteText) : Work Nat := do
  let text ← argument name
  match Numeral.natural? text with
  | some n => return n
  | none =>
      wrong (chars "Expected a positive decimal integer argument to " ++ name ++ chars ", but got '"
        ++ text ++ ['\x27'])

/-- The test of a name, given the time at which a file was changed. -/
def readTest (stampOf : ByteText → Option Nat) (name : ByteText) : Work Test := do
  modify fun r => { r with before := name }
  match String.ofList name with
  | "-name" => return .name (← argument name) false false
  | "-iname" => return .name (← argument name) false true
  | "-path" | "-wholename" => return .name (← argument name) true false
  | "-ipath" => return .name (← argument name) true true
  | "-type" =>
      let text ← argument name
      let letters := text.filter (· ≠ ',')
      match letters.find? fun c => !"bcdpflsD".toList.contains c with
      | some c => wrong (chars "Unknown argument to -type: " ++ [c])
      | none => return .kind letters
  | "-empty" => return .empty
  | "-size" => sizeTest (← argument name)
  | "-mtime" | "-mmin" | "-ctime" | "-cmin" | "-atime" | "-amin" =>
      let text ← argument name
      match bound? text with
      | some bound => return .age bound
      | none => wrong (chars "invalid argument \x60" ++ text ++ chars "' to \x60" ++ name ++ ['\x27'])
  | "-newer" =>
      let path ← argument name
      match stampOf path with
      | some stamp => return .newer stamp
      | none => wrong (inQuotes path ++ chars ": No such file or directory")
  | "-perm" => modeTest (← argument name)
  | "-executable" => return .mode '/' 0o111
  | "-readable" | "-writable" | "-true" => return .constant true
  | "-false" => return .constant false
  | "-print" => return .print '\n'
  | "-print0" => return .print '\x00'
  | "-printf" => return .printAs (← argument name)
  | "-exec" | "-execdir" =>
      let (words, isGathered) ← commandWords name [] (← get).words
      if isGathered then
        let number := (← get).commands
        modify fun r => { r with commands := number + 1 }
        return .runOnce number words.dropLast
      else return .run words
  | "-delete" =>
      modify fun r => { r with course := { r.course with isDeepFirst := true } }
      return .delete
  | "-prune" => return .prune
  | "-quit" => return .quit
  | "-maxdepth" =>
      let n ← depth name
      modify fun r => { r with course := { r.course with most := n } }
      return .constant true
  | "-mindepth" =>
      let n ← depth name
      modify fun r => { r with course := { r.course with least := n } }
      return .constant true
  | "-depth" | "-d" =>
      modify fun r => { r with course := { r.course with isDeepFirst := true } }
      return .constant true
  | "-follow" =>
      modify fun r => { r with course := { r.course with follows := true } }
      return .constant true
  | "-mount" | "-xdev" | "-noleaf" | "-nowarn" | "-warn" => return .constant true
  | _ => wrong (chars "unknown predicate \x60" ++ name ++ ['\x27'])

/-- Whether a word joins conditions or ends them. -/
def isJoint (word : ByteText) : Bool :=
  [")", ",", "-o", "-or", "-a", "-and"].any fun w => chars w == word

/-- Take the next word if it is one of some. -/
def takes (words : List String) : Work Bool := do
  let r ← get
  match r.words with
  | word :: rest =>
      if words.any fun w => chars w == word then
        set { r with words := rest }
        return true
      else return false
  | [] => return false

mutual

/-- A single condition, from at most so many words. -/
def readOne (stampOf : ByteText → Option Nat) : Nat → Work Wish
  | 0 => wrong (chars "invalid expression")
  | room + 1 => do
      let r ← get
      match r.words with
      | [] => wrong (chars "expected an expression after \x60" ++ r.before ++ ['\x27'])
      | word :: rest =>
          if isJoint word then
            wrong (chars "invalid expression; you have used a binary operator '" ++ word
              ++ chars "' with nothing before it.")
          set { r with words := rest }
          if word = ['!'] || word = chars "-not" then return .negation (← readOne stampOf room)
          else if word = ['('] then
            let inner ← readChoice stampOf room
            if ← takes [")"] then return inner
            else
              wrong (chars
                "invalid expression; I was expecting to find a ')' somewhere but did not see one.")
          else if word.head? = some '-' && 1 < word.length then
            return .test (← readTest stampOf word)
          else
            let note : List ByteText :=
              if (stampOf word).isSome then
                [chars "possible unquoted pattern after predicate \x60" ++ r.before ++ chars "'?"]
              else []
            throw ((chars "paths must precede expression: \x60" ++ word ++ ['\x27']) :: note)

/-- Conditions all of which have to hold. -/
def readAll (stampOf : ByteText → Option Nat) : Nat → Wish → Work Wish
  | 0, done => return done
  | room + 1, done => do
      let isJoined ← takes ["-a", "-and"]
      match (← get).words with
      | [] => if isJoined then readOne stampOf room else return done
      | word :: _ =>
          if !isJoined && isJoint word then return done
          else readAll stampOf room (.both done (← readOne stampOf room))

/-- Conditions one of which has to hold. -/
def readChoices (stampOf : ByteText → Option Nat) : Nat → Wish → Work Wish
  | 0, done => return done
  | room + 1, done => do
      if ← takes ["-o", "-or"] then
        let next ← readAll stampOf room (← readOne stampOf room)
        readChoices stampOf room (.either done next)
      else return done

/-- A condition with all its parts. -/
def readChoice (stampOf : ByteText → Option Nat) : Nat → Work Wish
  | 0 => wrong (chars "invalid expression")
  | room + 1 => do
      let first ← readAll stampOf room (← readOne stampOf room)
      let choice ← readChoices stampOf room first
      if ← takes [","] then return .lastOf choice (← readChoice stampOf room) else return choice

end

/-! ### Visiting -/

/-- What has come of a visit: the machine, what was said, last piece first, the files gathered for
commands, whether what a directory holds is passed over, whether all is over, whether something went
wrong, and how long it took. -/
structure Visit where
  machine : Machine
  said : List Remark
  gathered : List (Nat × ByteText)
  isPruned : Bool
  isOver : Bool
  hasFailed : Bool
  waited : Nat

/-- A file that is visited. -/
structure Found where
  path : ByteText
  depth : Nat
  node : Node

/-- The letter of the kind of a file. -/
def kindOf : Node → Char
  | .directory .. => 'd'
  | .file .. => 'f'
  | .link .. => 'l'
  | _ => 'c'

/-- The last name of the path of a file. -/
def Found.name (f : Found) : ByteText := if f.path = ['/'] then ['/'] else lastName f.path

/-- The text of a format for a file. -/
def Found.format (f : Found) : Nat → ByteText → ByteText
  | 0, _ => []
  | _, [] => []
  | room + 1, '%' :: c :: rest =>
      let text : ByteText := match c with
        | 'p' => f.path
        | 'f' => f.name
        | 'h' =>
            let up := f.path.take (f.path.length - f.name.length - 1)
            if up.isEmpty then ['.'] else up
        | 's' => Numeral.decimal f.node.size
        | 'm' => Nat.toDigits 8 (f.node.mode % 4096)
        | 'y' => [kindOf f.node]
        | 'd' => Numeral.decimal f.depth
        | '%' => ['%']
        | c => ['%', c]
      text ++ f.format room rest
  | room + 1, '\\' :: c :: rest =>
      let known : List (Char × Char) :=
        [('n', '\n'), ('t', '\t'), ('0', '\x00'), ('\\', '\\'), ('a', '\x07'), ('r', '\r')]
      match known.find? fun e => e.1 = c with
      | some (_, d) => d :: f.format room rest
      | none => '\\' :: c :: f.format room rest
  | room + 1, c :: rest => c :: f.format room rest

/-- Run a command for a file, or for files; whether it succeeded. -/
def Visit.run (t : Task) (words : List ByteText) (v : Visit) : Bool × Visit :=
  match t.call t.environment words [] v.machine with
  | .error e => (false, { v with said := t.complainOf (inQuotes (words.headD [])) e :: v.said })
  | .ok effect =>
      (effect.status = 0,
        { v with
          machine := effect.machine, said := effect.said.reverse ++ v.said
          waited := v.waited + effect.waited })

/-- Whether a file passes a test, and what came of it. -/
def Test.pass (t : Task) (f : Found) (v : Visit) : Test → Bool × Visit
  | .name pattern ofPath anyCase =>
      let text := if ofPath then f.path else f.name
      let fold (text : ByteText) : ByteText := if anyCase then text.map smallLetter else text
      ((Glob.ofText (fold pattern)).fits (fold text), v)
  | .kind letters => (letters.contains (kindOf f.node), v)
  | .empty =>
      (match f.node with
        | .directory _ entries => entries.isEmpty
        | .file .. => f.node.size = 0
        | _ => false, v)
  | .size bound unit => (bound.admits ((f.node.size + unit - 1) / unit), v)
  | .age bound => (bound.admits 0, v)
  | .newer stamp =>
      (match f.node with | .file info _ => stamp < info.stamp | _ => false, v)
  | .mode sign bits =>
      let mode := f.node.mode % 4096
      (if sign = '-' then mode &&& bits = bits
        else if sign = '/' then bits = 0 || mode &&& bits ≠ 0
        else mode = bits, v)
  | .constant value => (value, v)
  | .print ending => (true, { v with said := ⟨false, f.path ++ [ending]⟩ :: v.said })
  | .printAs format =>
      (true, { v with said := ⟨false, f.format (format.length + 1) format⟩ :: v.said })
  | .run words =>
      v.run t (words.map fun w => Batch.filled ['\x7b', '\x7d'] f.path (w.length + 1) w)
  | .runOnce number _ => (true, { v with gathered := (number, f.path) :: v.gathered })
  | .delete =>
      let removed := match f.node with
        | .directory .. => v.machine.removeDirectory f.path
        | _ => v.machine.unlink f.path
      if f.path = ['.'] then (true, v)
      else
        match removed with
        | .ok m => (true, { v with machine := m })
        | .error e =>
            (false,
              { v with
                said := t.complainOf (chars "cannot delete " ++ inQuotes f.path) e :: v.said
                hasFailed := true })
  | .prune => (true, { v with isPruned := true })
  | .quit => (true, { v with isOver := true })

/-- Whether a condition holds for a file, and what came of it. -/
def Wish.hold (t : Task) (f : Found) : Wish → Visit → Bool × Visit
  | .test asked, v => if v.isOver then (false, v) else asked.pass t f v
  | .negation c, v =>
      let (holds, v) := c.hold t f v
      (!holds, v)
  | .both a b, v =>
      let (holds, v) := a.hold t f v
      if holds then b.hold t f v else (false, v)
  | .either a b, v =>
      let (holds, v) := a.hold t f v
      if holds then (true, v) else b.hold t f v
  | .lastOf a b, v => b.hold t f (a.hold t f v).2

/-- Visit a file and all below it, at most so deep. -/
def visit (t : Task) (course : Course) (c : Wish) : Nat → Nat → ByteText → Visit → Visit
  | 0, _, _, v => v
  | room + 1, depth, path, v =>
      if v.isOver then v
      else
        let found : Except Errno Node := match course.follows, v.machine.stat path with
          | true, .ok node => .ok node
          | _, _ => v.machine.lstat path
        match found with
        | .error e =>
            { v with said := t.complainOf (inQuotes path) e :: v.said, hasFailed := true }
        | .ok node =>
            let look (v : Visit) : Visit :=
              if depth < course.least then v else (c.hold t ⟨path, depth, node⟩ v).2
            let v := if course.isDeepFirst then v else look { v with isPruned := false }
            let goesDown := depth < course.most && (course.isDeepFirst || !v.isPruned)
            let v := match goesDown, node with
              | true, .directory _ entries =>
                  entries.foldl
                    (fun (v : Visit) (entry : ByteText × Node) =>
                      visit t course c room (depth + 1) (Machine.inside path entry.1) v) v
              | _, _ => v
            if course.isDeepFirst then look { v with isPruned := false } else v

/-- The commands of a condition for which files are gathered. -/
def Wish.commands : Wish → List (Nat × List ByteText)
  | .test (.runOnce number words) => [(number, words)]
  | .test _ => []
  | .negation c => c.commands
  | .both a b | .either a b | .lastOf a b => a.commands ++ b.commands

/-- Run the commands for which files were gathered. -/
def finish (t : Task) (c : Wish) (v : Visit) : Visit :=
  c.commands.foldl
    (fun v (number, words) =>
      let paths := (v.gathered.filter fun e => e.1 = number).map (·.2)
      if paths.isEmpty then v
      else
        let (succeeded, v) := v.run t (words ++ paths.reverse)
        if succeeded then v else { v with hasFailed := true })
    v

/-- The greatest depth of files. -/
def maxDepth : Nat := 2000

end Find

open Find in
/-- Visit the files below paths and look at a condition for each of them. -/
def Tool.find : Tool := fun t m =>
  let isOption (word : ByteText) : Bool := word = ['-', 'L'] || word = ['-', 'P'] ||
    word = ['-', 'H']
  let options := t.arguments.takeWhile isOption
  let words := t.arguments.drop options.length
  let marks : List ByteText := [['('], [')'], [','], ['!']]
  let isPath (word : ByteText) : Bool :=
    !(word.head? = some '-' && 1 < word.length) && !marks.contains word
  let paths := words.takeWhile isPath
  let rest := words.drop paths.length
  let course : Course := ⟨0, maxDepth, false, options.getLast? = some ['-', 'L']⟩
  let stampOf (path : ByteText) : Option Nat := Condition.stampOf? m path
  let print : Find.Wish := .test (.print '\n')
  let read : Find.Work Find.Wish := do
    if rest.isEmpty then return print
    else
      let c ← readChoice stampOf (2 * rest.length + 4)
      if !(← get).words.isEmpty then wrong (chars "you have too many ')'")
      return if c.hasTest Test.isAction then c else .both c print
  match read ⟨rest, 0, course, []⟩ with
  | .error lines _ => .ended m (lines.map t.complain) 1
  | .ok c r =>
      let begun : Visit := ⟨m, [], [], false, false, false, 0⟩
      let starts := if paths.isEmpty then [['.']] else paths
      let v := starts.foldl (fun v path => visit t r.course c maxDepth 0 path v) begun
      let v := finish t c v
      { Effect.ended v.machine v.said.reverse (if v.hasFailed then 1 else 0) with waited := v.waited }

end AssemblyGate
