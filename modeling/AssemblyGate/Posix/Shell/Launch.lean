/-
**Running programs.**

A program is looked for, and a process becomes it: another shell, a tool, or a program that runs a
further one in its own place.  A file that is no program is taken for a script.

Main definitions:

* `AssemblyGate.Shell.State.findProgram` — where a program is;
* `AssemblyGate.Shell.runShell` — a new shell;
* `AssemblyGate.Shell.become` — the process of a program.
-/
import AssemblyGate.Posix.Image
import AssemblyGate.Posix.Shell.Course
import AssemblyGate.Posix.Tool.Closing
import AssemblyGate.Posix.Tool.Table

set_option autoImplicit false

namespace AssemblyGate.Shell

/-! ### Looking for programs -/

/-- Whether a path leads to a file that anyone may run. -/
def isRunnable (m : Machine) (path : ByteText) : Bool :=
  m.isSuch (fun node => node.isFile && node.isExecutable) path

/-- The path of a program: the name itself if it has a slash, and otherwise the first file of this
name in a list of directories that may be run. -/
def findProgramIn (m : Machine) (list name : ByteText) : Except Errno ByteText :=
  if name.contains '/' then
    match m.stat name with
    | .error e => .error e
    | .ok node => if node.isFile && node.isExecutable then .ok name else .error Errno.access
  else
    let paths := (ByteText.split ':' list).map fun d =>
      if d.isEmpty then name else Machine.inside d name
    match paths.find? (isRunnable m) with
    | some path => .ok path
    | none => .error (if paths.any m.isFile then Errno.access else Errno.noEntry)

/-- The path of a program as a shell finds it. -/
def State.findProgram (s : State) (name : ByteText) : Except Errno ByteText :=
  findProgramIn s.world.machine s.path name

/-- The path of a program as other programs find it. -/
def State.findForProgram (s : State) (name : ByteText) : Except Errno ByteText :=
  if name.isEmpty then .error Errno.noEntry
  else findProgramIn s.world.machine ((s.get? (chars "PATH")).getD (chars Machine.usualPath)) name

/-- What is said of a program that cannot be run, and the status that tells so. -/
def notRun (e : Errno) : ByteText × Nat :=
  if e = Errno.noEntry ∨ e = Errno.notDirectory then (chars "not found", 127)
  else (chars (Errno.message e), 126)

/-! ### New shells -/

/-- The variables that a shell has of its own, whatever it is given. -/
def ownVariables (process : Nat) (directory : ByteText) : List (String × ByteText) :=
  [("IFS", [' ', '\t', '\n']), ("OPTIND", ['1']), ("PPID", Numeral.decimal process),
    ("PS1", ['#', ' ']), ("PS2", ['>', ' ']), ("PS4", ['+', ' ']), ("PWD", directory)]

/-- A shell as it begins with a name and parameters: it has the variables that it is given, and some
of its own. -/
def State.fresh (s : State) (name : ByteText) (parameters : List ByteText) (options : List Char) :
    State :=
  let given := s.bindings.filter fun v => v.isExported && isName v.name && v.name ≠ chars "IFS"
  let base := { s with bindings := given }
  let parent := s.parents.headD 4000
  let own := (ownVariables parent base.directory).map fun (name, value) =>
    (⟨chars name, some value, given.any fun v => v.name == chars name, false⟩ : Variable)
  let paths : List Variable :=
    if given.any fun v => v.name == chars "PATH" then []
    else
      [⟨chars "PATH", some (chars "/usr/local/sbin:/usr/local/bin:/usr/sbin:/usr/bin:/sbin:/bin"),
        false, false⟩]
  let others := given.filter fun v => !own.any fun o => o.name == v.name
  { s with
    name, parameters, options
    bindings := own ++ paths ++ others
    scopes := [], functions := [], aliases := []
    actions := s.actions.filter fun a => a.2.isEmpty
    pending := [], documents := [], children := [], noticed := 0, located := [], lastProcess := none, command := none
    isInner := false, line := 0, status := 0, inner := 0
    skip := .none, depth := 0, calls := 0, isTested := false, isReplaced := false
    spot := ⟨1, 0⟩ }

/-- Run a script in a new shell, in the place of the process that there was. -/
def runShell (step : Step) (text name : ByteText) (parameters : List ByteText) (options : List Char) :
    Action Unit := do
  let s ← get
  let process := if s.isInner then 5000 + s.world.next else s.process
  let parents := if s.isInner then s.process :: s.parents else s.parents
  set ({ s with process, parents, world := { s.world with next := s.world.next + 1 } }.fresh name
    parameters options)
  finishing step do
    let _ ← runText step text
  modify fun s => { s with actions := [] }

/-- The options in front of the words of a shell, whether a command follows, and the words. -/
def shellWords : Nat → List Char → Bool → List ByteText →
    Except Char (List Char × Bool × List ByteText)
  | 0, options, isCommand, words => .ok (options, isCommand, words)
  | room + 1, options, isCommand, words =>
      match words with
      | ['-', '-'] :: rest | ['-'] :: rest => .ok (options, isCommand, rest)
      | ['-', 'o'] :: name :: rest =>
          let found := optionNames.find? fun e => e.1.toList == name
          shellWords room ((found.map (·.2)).toList ++ options) isCommand rest
      | ('-' :: c :: more) :: rest =>
          let letters := c :: more
          match letters.find? fun c => c ≠ 'c' && c ≠ 'l' && !State.optionLetters.contains c with
          | some c => .error c
          | none =>
              let set := letters.filter fun c => c ≠ 'c' && c ≠ 'l'
              shellWords room (set ++ options) (isCommand || letters.contains 'c') rest
      | _ => .ok (options, isCommand, words)

/-- Become a shell with words. -/
def becomeShell (step : Step) (title : ByteText) (words : List ByteText) : Action Unit := do
  let refuse (text : ByteText) (status : Nat) : Action Unit := do
    report (title ++ chars ": 0: " ++ text ++ ['\n'])
    finish status
  match shellWords (words.length + 1) [] false words with
  | .error c => refuse (chars "Illegal option -" ++ [c]) 2
  | .ok (options, true, script :: rest) =>
      runShell step script (rest.headD title) (rest.drop 1) options
  | .ok (_, true, []) => refuse (chars "-c requires an argument") 2
  | .ok (options, false, operands) =>
      let s ← get
      if options.contains 's' || operands.isEmpty then
        awaitInput 0
        let text := match s.input 0 with
          | .ok (text, _) => text
          | .error _ => []
        takeInput 0 text.length
        runShell step text title operands ('s' :: options)
      else
        let path := operands.headD []
        match s.world.machine.read path with
        | .ok content => runShell step (ByteText.ofBytes content) path (operands.drop 1) options
        | .error e => refuse (chars "cannot open " ++ path ++ chars ": " ++ openError false e) 2

/-! ### Tools -/

/-- What was said to two outlets, in the order of time. -/
def World.remarks (w : World) (output errors : Nat) : List Remark :=
  let said (number : Nat) (isError : Bool) : List (Nat × Remark) :=
    match w.outlets.find? fun o => o.number == number with
    | some o => o.said.reverse.map fun s => (s.time, ⟨isError, s.text⟩)
    | none => []
  ((said output false ++ said errors true).mergeSort fun a b => a.1 ≤ b.1).map (·.2)

/-- How a tool of this shell has commands run. -/
def callBy (start : List ByteText → Action Unit) (s : State) : Call := fun environment words input m =>
  let bindings := environment.map fun (name, value) => (⟨name, some value, true, false⟩ : Variable)
  let ready := { s with bindings, world := { s.world with machine := m } }
  match ready.findForProgram (words.headD []) with
  | .error e => .error e
  | .ok _ =>
      let work : Action (List Remark) := do
        let (output, o) ← newOutlet
        let (errors, e) ← newOutlet
        let t ← newDescription (.text input false 0)
        let ending ← inShell (fun s => { s with descriptors := [(0, t), (1, o), (2, e)] })
          (start words)
        finish ending.status
        return (← get).world.remarks output errors
      let effect (said : List Remark) (after : State) (waited : Nat) : Effect :=
        ⟨after.world.machine, said, after.status, waited, false, 0, false⟩
      match work.on ready with
      | (.ok said, after) => .ok (effect said after (after.clock - s.clock))
      | (.error _, after) => .ok (effect [] after (s.world.limit - s.clock))

/-- Let time pass in which a process holds the outlets that are open. -/
def hold (duration : Nat) : Action Unit := do
  if 0 < duration then
    let s ← get
    modifyWorld fun w =>
      { w with
        holds := ⟨s.job, s.isReplaced, s.clock, s.clock + duration, s.openOutlets⟩ :: w.holds }
    pass duration

/-- Whether the output leads to another command. -/
def State.isPiped (s : State) : Bool :=
  match s.opened? 1 with
  | some (_, .outlet number) => 2 < number
  | _ => false

/-- Tell that the output of a tool cannot be written, and end with the status that it then has. -/
def refuseOutput (program : String) (title : ByteText) (e : Errno) (status : Nat) : Action Unit := do
  let (lines, status) := Tool.writeTrouble program e status
  let name := Tool.writerName program title
  report (joinLines (lines.map fun l => name ++ chars ": " ++ l))
  finish status

/-- Run a tool to its end. -/
def runTool (program : String) (task : Task) (tool : Tool) : Action Unit := do
  let s ← get
  let effect := tool task s.world.machine
  modifyWorld fun w => { w with machine := effect.machine }
  let isFlooded ←
    if effect.reads then do
      awaitInput 0
      match s.input 0 with
      | .ok (text, isEndless) => do
          takeInput 0 (if s.canGoBack 0 then text.length - effect.unread else text.length)
          pure (isEndless && effect.unread = 0)
      | .error _ => pure false
    else pure false
  hold effect.waited
  let failed ← writeRemarks effect.said
  if isFlooded || effect.isEndless then
    throw (if s.isPiped then .killed 13 else .overdue)
  if effect.reads then
    let _ ← writeRemarks (Tool.closeTrouble program task)
  match failed with
  | none => finish effect.status
  | some e => refuseOutput program task.name e effect.status

/-- Become a tool.  One that copies does not begin where there is no output. -/
def becomeTool (call : Call) (program : String) (tool : Tool) (title : ByteText)
    (arguments : List ByteText) : Action Unit := do
  let s ← get
  if program = "cat" && (s.opened? 1).isNone then refuseOutput program title Errno.badDescriptor 0
  else runTool program (s.task title arguments call) tool

/-! ### Programs that run others in their place -/

/-- What is said of a command that another program, known by its own name, cannot run. -/
def refuseFor (program : String) (title name : ByteText) (e : Errno) : Action Unit := do
  let about : ByteText := match program with
    | "timeout" | "nohup" | "stdbuf" => chars "failed to run command " ++ inPlainQuotes name
    | "setsid" => chars "failed to execute " ++ name
    | _ => inPlainQuotes name
  report (title ++ chars ": " ++ about ++ chars ": " ++ chars (Errno.message e) ++ ['\n'])
  let hasBlank := name.any fun c => c = ' ' || ('\t' ≤ c && c ≤ '\r')
  if program = "env" && e = Errno.noEntry && hasBlank then
    report (title ++ chars ": use -[v]S to pass options in shebang lines\n")
  finish (if e = Errno.noEntry then 127 else 126)

/-- Run a command in the place of a program that has found it. -/
def replaceBy (start : List ByteText → Action Unit) (program : String) (title : ByteText)
    (words : List ByteText) : Action Unit := do
  match (← get).findForProgram (words.headD []) with
  | .ok _ => start words
  | .error e => refuseFor program title (words.headD []) e

/-- Do something with the options of a program, or tell that they are wrong. -/
def withForm (form : OptionForm) (title : ByteText) (arguments : List ByteText) (failure : Nat)
    (f : Options → Action Unit) : Action Unit :=
  match form.readFrom (arguments.length + 1) [] [] arguments with
  | .ok options => f options
  | .error text => do
      report (title ++ chars ": " ++ text ++ chars "\nTry '" ++ title
        ++ chars " --help' for more information.\n")
      finish failure

/-- Run a command with other variables, or list the variables. -/
def becomeEnv (start : List ByteText → Action Unit) (title : ByteText) (arguments : List ByteText) :
    Action Unit :=
  let form : OptionForm :=
    ⟨"iu:0C:", [("ignore-environment", 'i'), ("unset", 'u'), ("null", '0'), ("chdir", 'C')], false⟩
  withForm form title arguments 125 fun o => do
    let operands := if o.operands.head? = some ['-'] then o.operands.drop 1 else o.operands
    let isEmpty := o.has 'i' || o.operands.head? = some ['-']
    let isSetting (word : ByteText) : Bool := word.contains '='
    modify fun s =>
      let kept := if isEmpty then [] else s.bindings.filter (·.isExported)
      let dropped := o.values 'u'
      let start := { s with bindings := kept.filter fun v => !dropped.contains v.name }
      (operands.takeWhile isSetting).foldl
        (fun s word =>
          let (name, value) := splitAssignment word
          s.putVariable ⟨name, value, true, false⟩) start
    let words := operands.dropWhile isSetting
    if words.isEmpty then
      let lines := (← get).environment.map fun (name, value) => name ++ '=' :: value
      match ← write 1 (joinLines lines) with
      | none => finish 0
      | some e =>
          report (title ++ chars ": write error: " ++ chars (Errno.message e) ++ ['\n'])
          finish 125
    else replaceBy start "env" title words

/-- A duration in microseconds, from a decimal with a unit. -/
def duration? (text : ByteText) : Option Nat :=
  let number := text.takeWhile fun c => Numeral.isDigit c || c = '.'
  let factor : Option Nat := match text.drop number.length with
    | [] | ['s'] => some 1
    | ['m'] => some 60
    | ['h'] => some 3600
    | ['d'] => some 86400
    | _ => none
  let whole := number.takeWhile Numeral.isDigit
  let places := (number.drop (whole.length + 1)).take 6
  if !number.any Numeral.isDigit || !places.all Numeral.isDigit then none
  else
    factor.map fun f =>
      f * (Numeral.ofDigits whole * 1000000
        + Numeral.ofDigits (places ++ List.replicate (6 - places.length) '0'))

/-- The signal that a number or a name means, with or without a common beginning of such names. -/
def signalOperand? (word : ByteText) : Option Nat :=
  let name := word.map capitalLetter
  signal? 0 (if chars "SIG" <+: name then name.drop 3 else name)

/-- Run a command for a limited time. -/
def becomeTimeout (start : List ByteText → Action Unit) (title : ByteText)
    (arguments : List ByteText) : Action Unit :=
  let form : OptionForm :=
    ⟨"k:s:v", [("kill-after", 'k'), ("signal", 's'), ("verbose", 'v'), ("preserve-status", 'p'),
      ("foreground", 'f')], false⟩
  withForm form title arguments 125 fun o => do
    match o.operands with
    | time :: name :: rest =>
        match duration? time with
        | none =>
            report (title ++ chars ": invalid time interval " ++ inPlainQuotes time ++
              chars "\nTry '"
              ++ title ++ chars " --help' for more information.\n")
            finish 125
        | some duration =>
            let s ← get
            let limit := s.world.limit
            let signal := ((o.value? 's').bind signalOperand?).getD 15
            let own := if duration = 0 then limit else min limit (s.clock + duration)
            modifyWorld fun w => { w with limit := own }
            let result ← tryCatch
              (do
                replaceBy start "timeout" title (name :: rest)
                return true)
              fun e => if e = .overdue && own < limit then return false else throw e
            modifyWorld fun w => { w with limit }
            if !result then
              modify fun s => { s with clock := own }
              if signal = 9 then throw (.killed 9)
              finish (if o.has 'p' then 128 + signal else 124)
    | _ =>
        report (title ++ chars ": missing operand\nTry '" ++ title
          ++ chars " --help' for more information.\n")
        finish 125

/-- The programs that run a command behind their options, with the letters of these. -/
def wrappers : List (String × String) :=
  [("nice", "n:"), ("nohup", ""), ("setsid", "cfw"), ("stdbuf", "i:o:e:")]

/-- Become a program of the machine, which may run further ones. -/
def becomeImage (step : Step) (start : List ByteText → Action Unit) (title : ByteText) (image : Image) :
    Action Unit := do
  let s ← get
  match image.program with
  | "sh" | "dash" => becomeShell step title image.arguments
  | "env" => becomeEnv start title image.arguments
  | "timeout" => becomeTimeout start title image.arguments
  | program =>
      match wrappers.find? fun e => e.1 == program with
      | some (_, letters) =>
          withForm ⟨letters, [], false⟩ title image.arguments 125 fun o =>
            replaceBy start program title o.operands
      | none =>
          match Tool.find? program with
          | some tool => becomeTool (callBy start s) program tool title image.arguments
          | none => finish 126

/-- Become a program: the process runs it in place of what it ran before. -/
def become (step : Step) : Nat → ByteText → List ByteText → Action Unit
  | 0, _, _ => finish 126
  | room + 1, title, arguments => do
      let s ← get
      let path := match s.findForProgram title with
        | .ok path => path
        | .error _ => title
      match s.world.machine.image path arguments with
      | .ok image =>
          becomeImage step (fun words => become step room (words.headD []) words.tail)
            (if image.path = path then title else image.path) image
      | .error e =>
          if e = Errno.execFormat then
            match s.world.machine.read path with
            | .ok content => runShell step (ByteText.ofBytes content) path arguments []
            | .error _ => finish 126
          else
            let (text, status) := notRun e
            complain (title ++ chars ": " ++ text)
            finish status

/-- How deep programs may run one another. -/
def maxPrograms : Nat := 40

end AssemblyGate.Shell
