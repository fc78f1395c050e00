/-
**A running shell.**

A shell has variables, parameters, functions and descriptors of its own.  The world around it is
shared by all shells that come from one another: the machine, what is open, what was said and by
which job, and which processes hold what for how long.  Time is counted in microseconds.

Main definitions:

* `AssemblyGate.Shell.World`, `AssemblyGate.Shell.State` — the world and a shell in it;
* `AssemblyGate.Shell.Action` — what a shell does;
* `AssemblyGate.Shell.write`, `AssemblyGate.Shell.takeInput` — its descriptors;
* `AssemblyGate.Shell.State.get?`, `AssemblyGate.Shell.setVariable` — its variables.
-/
import AssemblyGate.Posix.Shell.Arithmetic
import AssemblyGate.Posix.Tool.Condition

set_option autoImplicit false

namespace AssemblyGate.Shell

/-! ### The world -/

/-- What may be done with an open file. -/
structure Access where
  reads : Bool
  writes : Bool
  appends : Bool
deriving DecidableEq

/-- What is open: a regular file with a position in it and with what it held when it was opened, a
directory, a device, an outlet where text is gathered, or a text that is read, which may go on
without end and is there from some time on. -/
inductive Description
  | file (number position : Nat) (access : Access) (before : Bytes)
  | directory
  | device (kind : Device)
  | outlet (number : Nat)
  | text (rest : ByteText) (isEndless : Bool) (ready : Nat)

/-- Something that was said to an outlet: when, by which job, and what. -/
structure Saying where
  time : Nat
  job : Nat
  text : ByteText

/-- What was said to an outlet, last piece first, and how much it is. -/
structure Outlet where
  number : Nat
  size : Nat
  said : List Saying

/-- How a job ended: with a status, by a signal, or not in time. -/
inductive Ending
  | exited (status : Nat)
  | killed (signal : Nat)
  | never
deriving DecidableEq

/-- The status by which a shell tells how a job ended. -/
def Ending.status : Ending → Nat
  | .exited status => status
  | .killed signal => 128 + signal
  | .never => 0

/-- A job that runs beside the shell that started it. -/
structure Job where
  number : Nat
  process : Nat
  start : Nat
  finish : Nat
  ending : Ending
deriving DecidableEq

/-- A process that holds outlets for some time.  One that is the shell of its job ends with it;
others go on. -/
structure Hold where
  job : Nat
  isShell : Bool
  since : Nat
  upTo : Nat
  outlets : List Nat
deriving DecidableEq

/-- What shells share: the machine, what is open, the outlets, the jobs, the processes that hold
outlets, the signals that were sent to shells that wait, each with its time and the process it is
for, the next free number, and the time at which all of them are stopped. -/
structure World where
  machine : Machine
  descriptions : List (Nat × Description)
  outlets : List Outlet
  jobs : List Job
  holds : List Hold
  signals : List (Nat × Nat × Nat)
  next : Nat
  limit : Nat

/-! ### Shells -/

/-- A variable: whether it is given to programs, and whether it may not be changed.  It may have no
value. -/
structure Variable where
  name : ByteText
  value : Option ByteText
  isExported : Bool
  isFixed : Bool
deriving DecidableEq

/-- Commands that are passed over: none, or what follows in loops that are left or repeated, in a
function that is left, or up to the end of what is read. -/
inductive Skip
  | none
  | leaving (loops : Nat)
  | repeating (loops : Nat)
  | returning
deriving DecidableEq

/-- How far the options of a shell's parameters were read: the next parameter, and the place of the
next letter in the one before. -/
structure OptionSpot where
  next : Nat
  letter : Nat
deriving DecidableEq

/-- A job as the shell that started it knows it: its place in the table, its process, and whether
its end was waited for. -/
structure Child where
  place : Nat
  process : Nat
  isWaited : Bool
deriving DecidableEq

/-- A program whose place is known; it is doubtful after the directory was changed. -/
structure Located where
  name : ByteText
  isDoubtful : Bool
deriving DecidableEq

/-- A shell.  `process` is the number by which it calls itself, which shells inside it share,
`parents` are those of the shells that wait for it, `actions` are taken on signals, `scopes` hold
what local variables were outside, `command` is the command that an error is told about, `inner` the
status of the last command inside a word, `children` are its jobs, the latest first, `noticed` is
the time up to which it knows how they ended, `depth` counts loops, and `calls` functions and
scripts. -/
structure State where
  world : World
  job : Nat
  clock : Nat
  process : Nat
  parents : List Nat
  isInner : Bool
  name : ByteText
  parameters : List ByteText
  bindings : List Variable
  scopes : List (List (ByteText × Option Variable))
  functions : List (ByteText × Command)
  aliases : List (ByteText × ByteText)
  actions : List (Nat × ByteText)
  pending : List Nat
  options : List Char
  descriptors : List (Nat × Nat)
  documents : List (Nat × List Part)
  nextDocument : Nat
  line : Nat
  command : Option ByteText
  status : Nat
  inner : Nat
  children : List Child
  noticed : Nat
  located : List Located
  lastProcess : Option Nat
  skip : Skip
  depth : Nat
  calls : Nat
  isTested : Bool
  isReplaced : Bool
  mask : Nat
  spot : OptionSpot

/-- Why a shell does not go on: it leaves with its status, something is wrong, a signal kills it, or
its time is over. -/
inductive Interruption
  | exit
  | error
  | killed (signal : Nat)
  | overdue
deriving DecidableEq

/-- What a shell does. -/
abbrev Action := ExceptT Interruption (StateM State)

/-- Run an action from a state. -/
def Action.on {α : Type} (action : Action α) (s : State) : Except Interruption α × State :=
  (action.run).run s

/-! ### Time and endings -/

/-- End a command with a status. -/
def finish (status : Nat) : Action Unit := modify fun s => { s with status }

/-- Leave the shell with a status. -/
def leave {α : Type} (status : Nat) : Action α := do
  finish status
  throw .exit

/-- Whether nothing is passed over. -/
def isGoing : Action Bool := do return (← get).skip = .none

/-- Change what is shared. -/
def modifyWorld (f : World → World) : Action Unit := modify fun s => { s with world := f s.world }

/-- What a signal does to a shell that takes no action of its own: nothing, or it stops or kills
it. -/
inductive Effectiveness
  | none
  | stops
  | kills
deriving DecidableEq

/-- What a signal does. -/
def effectiveness (signal : Nat) : Effectiveness :=
  if signal = 0 ∨ signal = 17 ∨ signal = 18 ∨ signal = 23 ∨ signal = 28 then .none
  else if 19 ≤ signal ∧ signal ≤ 22 then .stops
  else .kills

/-- Take a signal that was sent to this shell. -/
def takeSignal (signal : Nat) : Action Unit := do
  let s ← get
  match s.actions.find? fun a => a.1 = signal && signal ≠ 9 && signal ≠ 19 with
  | some (_, script) =>
      if script.isEmpty then return () else set { s with pending := s.pending ++ [signal] }
  | none =>
      match effectiveness signal with
      | .none => return ()
      | .stops =>
          set { s with clock := s.world.limit }
          throw .overdue
      | .kills => throw (.killed signal)

/-- The earliest signal that was sent to a shell up to a time: when and which, and the signals that
are left. -/
def State.dueSignal? (s : State) (time : Nat) : Option (Nat × Nat × List (Nat × Nat × Nat)) :=
  if s.isInner then none
  else
    let due := s.world.signals.filter fun e => e.1 ≤ time && e.2.1 = s.process
    (due.mergeSort fun a b => a.1 ≤ b.1).head?.map fun first =>
      (first.1, first.2.2, s.world.signals.erase first)

/-- Take the signals that are due, at most so many of them. -/
def takeSignals : Nat → Action Unit
  | 0 => return ()
  | room + 1 => do
      let s ← get
      match s.dueSignal? s.clock with
      | none => return ()
      | some (time, signal, rest) =>
          modifyWorld fun w => { w with signals := rest }
          if (s.actions.any fun a => a.1 = signal) || effectiveness signal = .none then
            takeSignal signal
            takeSignals room
          else
            modify fun s => { s with clock := time }
            takeSignal signal

/-- Let time pass; who takes too long is stopped. -/
def pass (duration : Nat) : Action Unit := do
  modify fun s => { s with clock := s.clock + duration }
  let s ← get
  if !s.world.signals.isEmpty then takeSignals 100
  if s.world.limit ≤ s.clock then throw .overdue

/-- How long the shell needs for a command of its own, for starting a program, and for starting a
job; a job begins some time after it was started. -/
def stepTime : Nat := 1

/-- How long starting a program takes. -/
def launchTime : Nat := 700

/-- How long starting a job takes. -/
def startTime : Nat := 100

/-- How long a job that was started takes to begin. -/
def beginTime : Nat := 300

/-! ### Tables by number -/

/-- The entry of a number in a table. -/
def find? {α : Type} (number : Nat) (table : List (Nat × α)) : Option α :=
  (table.find? fun e => e.1 == number).map (·.2)

/-- Give a number an entry, or take it away. -/
def put {α : Type} (number : Nat) (entry : Option α) (table : List (Nat × α)) : List (Nat × α) :=
  (entry.map fun x => (number, x)).toList ++ table.filter fun e => e.1 != number

/-! ### Descriptors -/

namespace State

/-- What a descriptor leads to, with its number. -/
def opened? (s : State) (descriptor : Nat) : Option (Nat × Description) :=
  (find? descriptor s.descriptors).bind fun n => (find? n s.world.descriptions).map fun d => (n, d)

/-- Let a descriptor lead somewhere, or close it. -/
def connect (s : State) (descriptor : Nat) (description : Option Nat) : State :=
  { s with descriptors := put descriptor description s.descriptors }

/-- The outlets that the descriptors of a shell lead to. -/
def openOutlets (s : State) : List Nat :=
  (s.descriptors.filterMap fun d =>
    match find? d.2 s.world.descriptions with
    | some (.outlet number) => some number
    | _ => none).eraseDups

end State

/-- Open something new. -/
def newDescription (d : Description) : Action Nat := do
  let s ← get
  let number := s.world.next
  set { s with world := { s.world with
    descriptions := (number, d) :: s.world.descriptions
    next := number + 1 } }
  return number

/-- Open a new outlet. -/
def newOutlet : Action (Nat × Nat) := do
  let s ← get
  let number := s.world.next
  set { s with world := { s.world with
    outlets := ⟨number, 0, []⟩ :: s.world.outlets
    next := number + 1 } }
  return (number, ← newDescription (.outlet number))

/-- How much may be said to one of the outlets that outlive the shell, and to one that another
command reads. -/
def maxSaid (number : Nat) : Nat := if number ≤ 2 then 4 * Machine.endless else 300000

/-- Say something to an outlet.  Whoever says too much to one that another command reads is killed
for it, and else takes longer than anyone waits. -/
def sayTo (number : Nat) (text : ByteText) : Action Unit := do
  let s ← get
  let add (o : Outlet) : Outlet :=
    { o with size := o.size + text.length, said := ⟨s.clock, s.job, text⟩ :: o.said }
  match s.world.outlets.find? fun o => o.number == number with
  | none => return ()
  | some o =>
      if maxSaid number < o.size then throw (if o.number ≤ 2 then .overdue else .killed 13)
      else
        modifyWorld fun w =>
          { w with outlets := add o :: w.outlets.filter fun o => o.number != number }

/-- What was said to an outlet, in the order of time. -/
def Outlet.text (o : Outlet) : ByteText :=
  ((o.said.reverse.mergeSort fun a b => a.time ≤ b.time).map (·.text)).flatten

/-- What was said to the outlet of a number. -/
def World.said (w : World) (number : Nat) : ByteText :=
  match w.outlets.find? fun o => o.number == number with
  | some o => o.text
  | none => []

/-- Forget an outlet and what leads to it. -/
def dropOutlet (number description : Nat) : Action Unit :=
  modifyWorld fun w =>
    { w with
      outlets := w.outlets.filter fun o => o.number != number
      descriptions := w.descriptions.filter fun d => d.1 != description }

/-- Write a text to a descriptor; nothing is told if all is well. -/
def write (descriptor : Nat) (text : ByteText) : Action (Option Errno) := do
  let s ← get
  if text.isEmpty then return none
  else
    match s.opened? descriptor with
    | some (n, .file number position access before) =>
        if !access.writes then return some Errno.badDescriptor
        else
          let bytes := ByteText.toBytes text
          modifyWorld fun w =>
            if access.appends then { w with machine := w.machine.append number bytes }
            else
              { w with
                machine := w.machine.writeAt number position bytes
                descriptions := put n (some (.file number (position + bytes.length) access before))
                  w.descriptions }
          return none
    | some (_, .device .full) => return some Errno.noSpace
    | some (_, .device _) => return none
    | some (_, .outlet number) =>
        sayTo number text
        return none
    | some (_, .text ..) | some (_, .directory) | none => return some Errno.badDescriptor

/-- Write a text to the error output, if that is open. -/
def report (text : ByteText) : Action Unit := do
  let _ ← write 2 text
  return ()

/-- Report what went wrong, with the name of the shell, the line and the command. -/
def complain (text : ByteText) : Action Unit := do
  let s ← get
  let command := match s.command with
    | some name => name ++ chars ": "
    | none => []
  report (s.name ++ chars ": " ++ Numeral.decimal s.line ++ chars ": " ++ command ++ text ++ ['\n'])

/-- Report what went wrong and give up. -/
def fail {α : Type} (text : ByteText) : Action α := do
  complain text
  finish 2
  throw .error

/-- The text that a descriptor still has to read, and whether it goes on without end. -/
def State.input (s : State) (descriptor : Nat) : Except Errno (ByteText × Bool) :=
  match s.opened? descriptor with
  | some (_, .file number position access before) =>
      if !access.reads then .error Errno.badDescriptor
      else
        let content := (s.world.machine.root.contentOf? number).getD before
        .ok (ByteText.ofBytes (content.drop position), false)
  | some (_, .directory) => .error Errno.isDirectory
  | some (_, .device kind) =>
      match Machine.contentOf (.device kind) with
      | .ok bytes => .ok (ByteText.ofBytes bytes, !bytes.isEmpty)
      | .error e => .error e
  | some (_, .text rest isEndless _) => .ok (rest, isEndless)
  | some (_, .outlet _) | none => .error Errno.badDescriptor

/-- Go past what was read through a descriptor. -/
def takeInput (descriptor count : Nat) : Action Unit := do
  let s ← get
  match s.opened? descriptor with
  | some (n, .file number position access before) =>
      modifyWorld fun w =>
        { w with
          descriptions := put n (some (.file number (position + count) access before))
            w.descriptions }
  | some (n, .text rest isEndless ready) =>
      modifyWorld fun w =>
        { w with
          descriptions := put n (some (.text (rest.drop count) isEndless ready)) w.descriptions }
  | _ => return ()

/-- Wait until what a descriptor reads is there. -/
def awaitInput (descriptor : Nat) : Action Unit := do
  let s ← get
  match s.opened? descriptor with
  | some (_, .text _ _ ready) => if s.clock < ready then pass (ready - s.clock)
  | _ => return ()

/-- Whether what a descriptor reads can be gone back in. -/
def State.canGoBack (s : State) (descriptor : Nat) : Bool :=
  match s.opened? descriptor with
  | some (_, .file ..) => true
  | _ => false

/-! ### Variables -/

namespace State

/-- The variable of a name. -/
def bindingOf? (s : State) (name : ByteText) : Option Variable :=
  s.bindings.find? fun v => v.name == name

/-- The value of a variable. -/
def get? (s : State) (name : ByteText) : Option ByteText := (s.bindingOf? name).bind (·.value)

/-- Put a variable in the place of the one of its name, or behind all others. -/
def putVariable (s : State) (v : Variable) : State :=
  { s with
    bindings :=
      if s.bindings.any fun w => w.name == v.name then
        s.bindings.map fun w => if w.name == v.name then v else w
      else s.bindings ++ [v] }

/-- Take the variable of a name away. -/
def dropVariable (s : State) (name : ByteText) : State :=
  { s with bindings := s.bindings.filter fun v => v.name != name }

/-- Whether an option is on. -/
def hasOption (s : State) (letter : Char) : Bool := s.options.contains letter

/-- The environment that programs are given. -/
def environment (s : State) : List (ByteText × ByteText) :=
  s.bindings.filterMap fun v => if v.isExported then v.value.map fun value => (v.name, value) else none

/-- The letters of the options in the order in which they are shown. -/
def optionLetters : List Char :=
  ['p', 'u', 'b', 'a', 'C', 'E', 'V', 'v', 'x', 's', 'n', 'm', 'i', 'I', 'f', 'e']

/-- The value of a parameter of any kind but those that stand for all. -/
def parameter? (s : State) (name : ByteText) : Option ByteText :=
  match name with
  | ['#'] => some (Numeral.decimal s.parameters.length)
  | ['?'] => some (Numeral.decimal s.status)
  | ['-'] => some (optionLetters.filter s.hasOption)
  | ['$'] => some (Numeral.decimal s.process)
  | ['!'] => s.lastProcess.map Numeral.decimal
  | c :: _ =>
      if Numeral.isDigit c then
        match Numeral.ofDigits name with
        | 0 => some s.name
        | n + 1 => s.parameters[n]?
      else s.get? name
  | [] => none

/-- The directories in which programs are looked for. -/
def path (s : State) : ByteText := (s.get? (chars "PATH")).getD []

/-- The separators of fields. -/
def separators (s : State) : ByteText := (s.get? (chars "IFS")).getD [' ', '\t', '\n']

end State

/-- The row, out of so many, in which a shell keeps a name. -/
def rowOf (rows : Nat) (name : ByteText) : Nat :=
  name.foldl (fun n c => n + c.toNat) ((name.headD '\x00').toNat * 16) % rows

/-- How many rows there are for variables. -/
def variableRows : Nat := 39

/-- How many rows there are for programs. -/
def programRows : Nat := 31

/-- The variables in the order in which they are given to programs: row by row. -/
def State.inRows (s : State) : State :=
  let row (v : Variable) : Nat := rowOf variableRows v.name
  { s with bindings := s.bindings.mergeSort fun v w => row v ≤ row w }

/-- Give up because of a text that is no number. -/
def illegalNumber {α : Type} (word : ByteText) : Action α := fail (chars "Illegal number: " ++ word)

/-- The number that a word is. -/
def numberOf (word : ByteText) : Action Nat :=
  match Condition.integer? word with
  | some n => if 0 ≤ n && n < twoTo 31 then return n.toNat else illegalNumber word
  | none => illegalNumber word

/-- What follows from a change of a variable: the options are read from another place, or programs
are looked for anew. -/
def afterChange (name value : ByteText) : Action Unit := do
  if name = chars "OPTIND" then
    let next ← numberOf value
    modify fun s => { s with spot := ⟨max next 1, 0⟩ }
  else if name = chars "PATH" then modify fun s => { s with located := [] }

/-- Give a variable a value; it stays exported if it was. -/
def setVariable (name value : ByteText) : Action Unit := do
  let s ← get
  let old := s.bindingOf? name
  if old.any (·.isFixed) then fail (name ++ chars ": is read only")
  else
    afterChange name value
    let isExported := old.any (·.isExported) || s.hasOption 'a'
    modify fun s => s.putVariable ⟨name, some value, isExported, false⟩

/-- Take a variable away. -/
def unsetVariable (name : ByteText) : Action Unit := do
  let s ← get
  let old := s.bindingOf? name
  if old.any (·.isFixed) then fail (name ++ chars ": is read only")
  else
    if old.isSome then afterChange name []
    modify fun s => s.dropVariable name

/-- Have a variable given to programs, or not be changed any more. -/
def mark (isExported isFixed : Bool) (name : ByteText) : Action Unit := modify fun s =>
  let old := (s.bindingOf? name).getD ⟨name, none, false, false⟩
  s.putVariable
    { old with isExported := old.isExported || isExported, isFixed := old.isFixed || isFixed }

/-- Have the value of a variable come back when the function that runs is left. -/
def makeLocal (name : ByteText) : Action Unit := modify fun s =>
  match s.scopes with
  | [] => s
  | scope :: rest =>
      if scope.any fun e => e.1 == name then s
      else { s with scopes := ((name, s.bindingOf? name) :: scope) :: rest }

/-- Run something with variables of its own. -/
def withScope {α : Type} (action : Action α) : Action α := do
  modify fun s => { s with scopes := [] :: s.scopes }
  let restore : Action Unit := modify fun s =>
    let changed := (s.scopes.headD []).foldl
      (fun s (name, old) =>
        match old with
        | some v => s.putVariable v
        | none => s.dropVariable name)
      s
    { changed with scopes := s.scopes.tail }
  let result ← tryCatch action fun e => do
    restore
    throw e
  restore
  return result

end AssemblyGate.Shell
