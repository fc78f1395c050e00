/-
**What is known while a program of rules runs.**

There are the variables and the arrays, the record with its fields, the texts that are read and
those that are written.  What the program says waits until it is flushed; what it says to a command
is handed over when the command is closed.

Main definitions:

* `AssemblyGate.Rules.State` — what is known;
* `AssemblyGate.Rules.Work` — the work on it;
* `AssemblyGate.Rules.Work.setRecord`, `AssemblyGate.Rules.Work.setField` — the record;
* `AssemblyGate.Rules.Work.nextRecord?` — the next record of the input.
-/
import AssemblyGate.Posix.Rules.Token
import AssemblyGate.Posix.Rules.Value
import Std.Data.HashMap

set_option autoImplicit false

namespace AssemblyGate.Rules

/-- An element of an array: its value, when it was used last, and the number that it was made by, if
it was. -/
structure Element where
  value : Value
  used : Nat
  number : Option Int
deriving Inhabited

/-- Texts are told apart quickly by a number that all their characters change. -/
instance : Hashable ByteText :=
  ⟨fun text => text.foldl (fun h c => mixHash h c.val.toUInt64) 7⟩

/-- An array: its elements by their subscripts. -/
abbrev Table := Std.HashMap ByteText Element

/-- What a variable holds: a value, or the number of an array. -/
inductive Holder
  | value (v : Value)
  | array (number : Nat)
deriving Inhabited

/-- How the work breaks off: with the record, with the file, with the whole program, with a value of
a function, with a loop, with a round of a loop, with something that went wrong, or not at all. -/
inductive Break
  | next
  | nextFile
  | exit
  | giveBack (v : Value)
  | leave
  | goOn
  | failure (message : ByteText)
  | never

/-- A text that is read record by record: where it comes from, what is left of it, and the status of
the command that said it. -/
structure Reader where
  source : RecordSource
  path : ByteText
  text : ByteText
  status : Nat

/-- What is known while a program runs. -/
structure State where
  task : Task
  machine : Machine
  shared : Array Holder
  own : Array Holder
  tables : Array Table
  clock : Nat
  record : Value
  fields : Array Value
  operand : Nat
  text : Option ByteText
  hasRead : Bool
  input : ByteText
  usesInput : Bool
  readers : List Reader
  outputs : List (ByteText × Machine.Opened)
  commands : List (ByteText × ByteText)
  waiting : List ByteText
  said : List Remark
  ranges : List Nat
  status : Nat
  seed : Nat
  names : List ByteText

/-- The work on what is known. -/
abbrev Work := EStateM Break State

namespace Work

/-- How many steps a program takes at most. -/
def maxSteps : Nat := 3000000

/-- Count a step. -/
def tick : Work Nat :=
  modifyGet fun s => (s.clock, { s with clock := s.clock + 1 })

/-! ### Variables -/

/-- What a variable holds. -/
def holder (n : Name) : Work Holder := do
  let s ← get
  match n with
  | .shared i => return s.shared.getD i (.value .unset)
  | .own i => return s.own.getD i (.value .unset)

/-- Let a variable hold something. -/
def hold (n : Name) (h : Holder) : Work Unit :=
  modify fun s =>
    match n with
    | .shared i => { s with shared := s.shared.setIfInBounds i h }
    | .own i => { s with own := s.own.setIfInBounds i h }

/-- The value of a variable. -/
def valueOf (n : Name) : Work Value := do
  match ← holder n with
  | .value v => return v
  | .array _ => return .unset

/-- The value of a variable with a meaning of its own. -/
def special (v : Special) : Work Value := valueOf (.shared v.place)

/-- Give a variable with a meaning of its own a value. -/
def setSpecial (v : Special) (x : Value) : Work Unit := hold (.shared v.place) (.value x)

/-- The format by which numbers become texts. -/
def textFormat : Work ByteText := do
  match ← special .textFormat with
  | .text t | .input t => return t
  | _ => return chars "%.6g"

/-- The text of a value. -/
def textOf (v : Value) : Work ByteText := do
  match v with
  | .unset => return []
  | .text t | .input t => return t
  | .number _ => return Printing.toText (← textFormat) v

/-- The text of a variable with a meaning of its own. -/
def specialText (v : Special) : Work ByteText := do textOf (← special v)

/-! ### Arrays -/

/-- The number of the array that a variable holds; one without a value gets an array. -/
def tableOf (n : Name) : Work Nat := do
  match ← holder n with
  | .array number => return number
  | .value _ =>
      let number ← modifyGet fun s => (s.tables.size, { s with tables := s.tables.push ∅ })
      hold n (.array number)
      return number

/-- Change an array. -/
def changeTable (number : Nat) (f : Table → Table) : Work Unit :=
  modify fun s => { s with tables := s.tables.modify number f }

/-- A subscript: its text, and the number that it is. -/
structure Subscript where
  text : ByteText
  number : Option Int

/-- Use an element, which is made if it is not there, and give it another value if there is one: the
value it has then. -/
def useElement (table : Nat) (key : Subscript) (change : Option Value) : Work Value := do
  let now ← tick
  let e : Element := match ((← get).tables.getD table ∅)[key.text]? with
    | some e => ⟨e.value, now, if e.number.isSome then key.number else none⟩
    | none => ⟨.unset, now, key.number⟩
  let v := change.getD e.value
  changeTable table fun t => t.insert key.text { e with value := v }
  return v

/-- The value of an element. -/
def element (table : Nat) (key : Subscript) : Work Value := useElement table key none

/-- Give an element a value. -/
def setElement (table : Nat) (key : Subscript) (v : Value) : Work Unit := do
  let _ ← useElement table key (some v)

/-- A number that is spread well over the texts. -/
def spreadOf (key : ByteText) : Nat :=
  key.foldl (fun h c => (h ^^^ c.toNat) * 16777619 % twoTo 32) 2166136261

/-- How many lists the subscripts of an array of a size are spread over. -/
def listCount (size : Nat) : Nat → Nat → Nat
  | 0, count => count
  | room + 1, count => if 12 * count < size then listCount size room (2 * count) else count

/-- The subscripts of an array in the order in which they are gone through: they are spread over
lists.  In each list those come first that were made by numbers, the ones with high ends of their
numbers before the others, and then the texts, the one used last first. -/
def subscripts (table : Table) : List ByteText :=
  let lists := listCount table.size 24 64
  let place (key : ByteText) (e : Element) : List Nat :=
    match e.number with
    | some n => [spreadOf key % lists, 0, lists - (n % lists).toNat, e.used]
    | none => [spreadOf key % lists, 1, maxSteps - e.used]
  let all := table.toList.map fun (key, e) => (place key e, key)
  (all.mergeSort fun a b => !(b.1 < a.1)).map (·.2)

/-- The subscript of values: that of a single one is its text. -/
def subscriptOf (values : List Value) : Work Subscript := do
  match values with
  | [v] =>
      let text ← textOf v
      return ⟨text, match v with | .number x => integer? x | _ => none⟩
  | _ =>
      let mark ← specialText .subscriptSeparator
      return ⟨joinWith mark (← values.mapM textOf), none⟩

/-! ### Records and fields -/

/-- The texts between the matches of an expression; an empty match separates nothing. -/
def cutBy (regex : Regex) : Nat → Option Char → ByteText → ByteText → List ByteText
  | 0, _, held, rest => [held.reverse ++ rest]
  | room + 1, before, held, text =>
      match Regex.searchAfter? .plain regex before text with
      | none => [held.reverse ++ text]
      | some f =>
          if f.matched.isEmpty then
            match f.after with
            | [] => [held.reverse ++ text]
            | c :: rest => cutBy regex room (some c) (c :: f.before.reverse ++ held) rest
          else
            (held.reverse ++ f.before) :: cutBy regex room f.matched.getLast? [] f.after

/-- The words of a text. -/
def wordsOf (text : ByteText) : List ByteText :=
  let isGap (c : Char) : Bool := c = ' ' || c = '\t' || c = '\n'
  let (last, done) := text.reverse.foldl
    (fun (current, done) c =>
      if isGap c then (if current.isEmpty then ([], done) else ([], current :: done))
      else (c :: current, done))
    (([] : ByteText), ([] : List ByteText))
  if last.isEmpty then done else last :: done

/-- Something that went wrong, with where it did. -/
def fail {α : Type} (message : ByteText) : Work α := do
  let path ← specialText .fileName
  let inFile ← specialText .fileRecordCount
  let all ← specialText .recordCount
  throw (.failure (chars "run time error: " ++ message ++ chars "\n\tFILENAME=\"" ++ path
    ++ chars "\" FNR=" ++ inFile ++ chars " NR=" ++ all))

/-- The expression that a text spells while the program runs. -/
def readRegex (t : ByteText) : Work Regex := do
  match regexOf t with
  | .ok regex => return regex
  | .error message => fail message

/-- What separates parts of a text. -/
inductive Separator
  | blanks
  | nothing
  | char (c : Char)
  | regex (body : Regex)

/-- The separator that a text stands for. -/
def separatorOf (t : ByteText) : Work Separator := do
  match t with
  | [] => return .nothing
  | [' '] => return .blanks
  | [c] => return .char c
  | _ => return .regex (← readRegex t)

/-- The parts of a text. -/
def parts (separator : Separator) (text : ByteText) : List ByteText :=
  if text.isEmpty then []
  else
    match separator with
    | .blanks => wordsOf text
    | .nothing => text.map fun c => [c]
    | .char c => ByteText.split c text
    | .regex body => cutBy body (text.length + 1) none [] text

/-- The fields of a text. -/
def fieldsOf (text : ByteText) : Work (List ByteText) := do
  let separator ← separatorOf (← specialText .fieldSeparator)
  let byLines := (← specialText .recordSeparator).isEmpty
  match byLines, separator with
  | true, .char c =>
      return parts (.char '\n') (text.map fun d => if d = c then '\n' else d)
  | true, .regex body => return parts (.regex (.either body (Regex.ofChar '\n'))) text
  | _, separator => return parts separator text

/-- Give the record a value, and with it the fields. -/
def setRecord (v : Value) : Work Unit := do
  let fields ← fieldsOf (← textOf v)
  modify fun s => { s with record := v, fields := (fields.map Value.input).toArray }
  setSpecial .fieldCount (.ofNat fields.length)

/-- Put the record together from its fields. -/
def joinFields : Work Unit := do
  let mark ← specialText .outputFieldSeparator
  let texts ← (← get).fields.toList.mapM textOf
  modify fun s => { s with record := .text (joinWith mark texts) }

/-- Let the record have so many fields. -/
def setFieldCount (count : Nat) : Work Unit := do
  modify fun s =>
    { s with fields := (s.fields.toList.take count
      ++ List.replicate (count - s.fields.size) (Value.text [])).toArray }
  setSpecial .fieldCount (.ofNat count)
  joinFields

/-- The number of a field. -/
def fieldNumber (v : Value) : Work Nat := do
  match (toBinary v.toNumber).truncated with
  | some n =>
      if n < 0 then fail (chars "negative field index $" ++ Numeral.integer n)
      else return n.toNat
  | none => return 0

/-- The largest number of fields. -/
def maxFields : Nat := 100000

/-- The value of a field. -/
def field (number : Nat) : Work Value := do
  let s ← get
  if number = 0 then return s.record
  else return s.fields.getD (number - 1) .unset

/-- Give a field a value. -/
def setField (number : Nat) (v : Value) : Work Unit := do
  if number = 0 then setRecord v
  else if maxFields < number then fail (chars "field index too large")
  else
    if (← get).fields.size < number then setFieldCount number
    modify fun s => { s with fields := s.fields.setIfInBounds (number - 1) v }
    joinFields

/-- Give a variable a value; the number of fields changes the record. -/
def setValue (n : Name) (v : Value) : Work Unit := do
  hold n (.value v)
  if n = .shared Special.fieldCount.place then setFieldCount (min (← fieldNumber v) maxFields)

/-! ### Saying -/

/-- Say something. -/
def say (text : ByteText) : Work Unit := modify fun s => { s with waiting := text :: s.waiting }

/-- Hand over what was said. -/
def flush : Work Unit :=
  modify fun s =>
    if s.waiting.isEmpty then s
    else { s with said := ⟨false, s.waiting.reverse.flatten⟩ :: s.said, waiting := [] }

/-- Run a command with an input: what it said to its output, if that is wanted, and its status.
Without an input of its own the command reads that of the program. -/
def run (command : ByteText) (given : Option ByteText) (isWanted : Bool) : Work (ByteText × Nat) := do
  let s ← get
  let input := given.getD s.input
  match s.task.call s.task.environment [['s', 'h'], ['-', 'c'], command] input s.machine with
  | .error _ => return ([], 127)
  | .ok effect =>
      let output := effect.said.flatMap fun r => if r.isError || !isWanted then [] else r.text
      let others := effect.said.filter fun r => r.isError || !isWanted
      let isShared := given.isNone && effect.reads
      set { s with
        machine := effect.machine
        said := others.reverse ++ s.said
        usesInput := s.usesInput || isShared
        input := if isShared then s.input.drop (s.input.length - effect.unread) else s.input }
      if effect.isEndless then throw .never
      else return (output, effect.status)

/-- Write a text to what was opened. -/
def writeTo (opened : Machine.Opened) (text : ByteText) : Work Unit := do
  match opened with
  | .file number =>
      modify fun s => { s with machine := s.machine.append number (ByteText.toBytes text) }
  | .device _ => return ()
  | .descriptor 2 => modify fun s => { s with said := ⟨true, text⟩ :: s.said }
  | .descriptor _ => say text

/-- Write a text. -/
def write (target : TextTarget) (path text : ByteText) : Work Unit := do
  let s ← get
  match target with
  | .command =>
      match s.commands.find? fun e => e.1 == path with
      | some (_, before) =>
          let others := s.commands.filter fun e => e.1 != path
          set { s with commands := (path, before ++ text) :: others }
      | none =>
          flush
          modify fun s => { s with commands := (path, text) :: s.commands }
  | _ =>
      if path = ['-'] || path = chars "/dev/stdout" then say text
      else
        match s.outputs.find? fun e => e.1 == path with
        | some (_, opened) => writeTo opened text
        | none =>
            let wish : Machine.OpenWish := ⟨target = .file, false, 0o666 &&& (0o777 - s.task.mask)⟩
            match s.machine.openFile path wish with
            | .ok (opened, m) =>
                set { s with machine := m, outputs := (path, opened) :: s.outputs }
                writeTo opened text
            | .error e =>
                throw (.failure (chars "cannot open \"" ++ path ++ chars "\" for output ("
                  ++ chars (Errno.message e) ++ chars ")"))

/-- Close what has a name: the status, if something was closed. -/
def close (path : ByteText) : Work Int := do
  let s ← get
  let isNamed := s.outputs.any fun e => e.1 == path
  let isRead := s.readers.find? fun e => e.path == path
  set { s with
    outputs := s.outputs.filter fun e => e.1 != path
    readers := s.readers.filter fun e => e.path != path }
  match s.commands.find? fun e => e.1 == path with
  | some (_, text) =>
      modify fun s => { s with commands := s.commands.filter fun e => e.1 != path }
      let (_, status) ← run path (some text) false
      return status
  | none =>
      match isRead with
      | some reader => return reader.status
      | none => return (if isNamed then 0 else -1)

/-! ### Reading -/

/-- The first record of a text and the rest, given what separates records. -/
def cutRecord (separator text : ByteText) : Work (Option (ByteText × ByteText)) := do
  match separator with
  | [c] =>
      if text.isEmpty then return none
      else
        let (record, rest) := text.span (· ≠ c)
        return some (record, rest.drop 1)
  | [] =>
      let start := text.dropWhile (· = '\n')
      if start.isEmpty then return none
      else
        let (record, rest) := paragraph [] start
        return some (record, rest.dropWhile (· = '\n'))
  | _ =>
      if text.isEmpty then return none
      else
        let regex ← readRegex separator
        match Regex.search? .plain regex text with
        | some f =>
            if f.matched.isEmpty then return some (text, [])
            else return some (f.before, f.after)
        | none => return some (text, [])
where
  /-- The lines up to an empty one. -/
  paragraph : ByteText → ByteText → ByteText × ByteText
    | done, [] => (done.reverse, [])
    | done, ['\n'] => (done.reverse, [])
    | done, '\n' :: '\n' :: rest => (done.reverse, rest)
    | done, c :: rest => paragraph (c :: done) rest

/-- Stop since something that was opened cannot be read. -/
def failToRead {α : Type} (e : Errno) : Work α :=
  throw (.failure (chars "read error (" ++ chars (Errno.message e) ++ chars ")"))

/-- What is left of the input. -/
def takeInput : Work ByteText := do
  let s ← get
  match s.task.input with
  | .error e => failToRead e
  | .ok _ =>
      set { s with usesInput := true, input := [] }
      return s.input

/-- The text of a file that is read. -/
def readText (path : ByteText) : Work (Except Errno ByteText) := do
  let s ← get
  if path = ['-'] || path = chars "/dev/stdin" then return .ok (← takeInput)
  else
    match s.task.readFile s.machine path with
    | .ok text => return .ok text
    | .error e => if e = Errno.isDirectory then failToRead e else return .error e

/-- The next record of a file or of what a command says; nothing at its end, and a fault if it
cannot be read. -/
def nextOf (source : RecordSource) (path : ByteText) : Work (Option (Option ByteText)) := do
  let isOf (e : Reader) : Bool := e.source = source && e.path == path
  let reader? : Option Reader ← match (← get).readers.find? isOf with
    | some reader => pure (some reader)
    | none =>
        if source = .command then do
          flush
          let (text, status) ← run path none true
          pure (some ⟨source, path, text, status⟩)
        else
          match ← readText path with
          | .ok text => pure (some ⟨source, path, text, 0⟩)
          | .error _ => pure none
  match reader? with
  | none => return none
  | some reader =>
      let cut ← cutRecord (← specialText .recordSeparator) reader.text
      let (found, rest) : Option ByteText × ByteText := match cut with
        | some (record, rest) => (some record, rest)
        | none => (none, [])
      modify fun s =>
        { s with readers := { reader with text := rest } :: s.readers.filter fun e => !isOf e }
      return some found

/-- The name and the value of an operand that gives a variable a value. -/
def assignment? (t : ByteText) : Option (ByteText × ByteText) :=
  let name := t.takeWhile Token.goesOnName
  match t.drop name.length with
  | '=' :: value => if name.head?.any Token.beginsName then some (name, Token.resolve value) else none
  | _ => none

/-- Give a variable a value that was read. -/
def assign (name value : ByteText) : Work Unit := do
  match (← get).names.findIdx? (· == name) with
  | some i => setValue (.shared i) (.input value)
  | none => return ()

/-- Take the next operand that is a file and begin with its text; nothing if there is none. -/
def beginText : Nat → Work Bool
  | 0 => return false
  | room + 1 => do
      let s ← get
      let count := toInteger (← special .argumentCount).toNumber
      if count ≤ s.operand then
        if s.hasRead then return false
        else
          let text ← takeInput
          modify fun s => { s with hasRead := true, text := some text }
          setSpecial .fileName (.text ['-'])
          return true
      else
        set { s with operand := s.operand + 1 }
        let number ← tableOf (.shared Special.arguments.place)
        let operand ← match ((← get).tables.getD number ∅)[Numeral.decimal s.operand]? with
          | some e => textOf e.value
          | none => pure []
        if operand.isEmpty then beginText room
        else
          match assignment? operand with
          | some (name, value) =>
              assign name value
              beginText room
          | none =>
              match ← readText operand with
              | .error e =>
                  throw (.failure (chars "cannot open \"" ++ operand ++ chars "\" ("
                    ++ chars (Errno.message e) ++ chars ")"))
              | .ok text =>
                  modify fun s => { s with hasRead := true, text := some text }
                  setSpecial .fileName (.text operand)
                  setSpecial .fileRecordCount (.number 0)
                  return true

/-- Count a record. -/
def countUp (v : Special) : Work Unit := do
  setSpecial v (.number ((← special v).toNumber + 1))

/-- The next record of the input. -/
def nextRecord? : Nat → Work (Option ByteText)
  | 0 => return none
  | room + 1 => do
      match (← get).text with
      | none => if ← beginText 100000 then nextRecord? room else return none
      | some text =>
          match ← cutRecord (← specialText .recordSeparator) text with
          | some (record, rest) =>
              modify fun s => { s with text := some rest }
              countUp .recordCount
              countUp .fileRecordCount
              return some record
          | none =>
              modify fun s => { s with text := none }
              nextRecord? room

end Work

end AssemblyGate.Rules
