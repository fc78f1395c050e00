/-
**Running commands.**

A command is run by a step that knows how to run the commands inside it; the depth to which commands
stand in each other is the only recursion.  A loop ends at the latest after a fixed number of
rounds: what goes on for longer takes longer than anyone waits.

Main definitions:

* `AssemblyGate.Shell.runSimple` — a command with its words, assignments and redirections;
* `AssemblyGate.Shell.runBeside` — a job beside the shell;
* `AssemblyGate.Shell.perform` — any command, given a way to run those inside it;
* `AssemblyGate.Shell.run` — commands up to a depth.
-/
import AssemblyGate.Posix.Shell.Launch

set_option autoImplicit false

namespace AssemblyGate.Shell

/-- Leave a shell that stops on failure, unless the failure is looked at. -/
def checkFailure : Action Unit := do
  let s ← get
  if s.hasOption 'e' && !s.isTested && s.status ≠ 0 then throw .exit

/-! ### Programs -/

/-- Remember where a program is that was looked for. -/
def locate (name : ByteText) : Action Unit := modify fun s =>
  if name.contains '/' then s
  else
    let known := s.located.filter fun l => l.name != name
    let isNew := known.length = s.located.length
    { s with
      located :=
        if isNew then s.located ++ [⟨name, false⟩]
        else s.located.map fun l => if l.name == name then ⟨name, false⟩ else l }

/-- Run a program in a process of its own. -/
def runProgram (step : Step) (fields : List ByteText) : Action Unit := do
  let name := fields.headD []
  if name.isEmpty then
    complain (chars ": " ++ chars (Errno.message Errno.access))
    finish 127
  else
    let s ← get
    match s.findProgram name with
    | .error e =>
        let (text, status) := notRun e
        complain (name ++ chars ": " ++ text)
        finish status
    | .ok _ =>
        locate name
        let isReplaced := s.isReplaced
        let ending ← inShell (fun s => { s.inRows with isReplaced, isTested := false }) do
          pass launchTime
          become step maxPrograms name fields.tail
        modify fun s => { s with isReplaced }
        if isReplaced then
          match ending with
          | .killed signal => throw (.killed signal)
          | _ => pure ()
        mourn ending

/-- Become a program in the place of the shell. -/
def replaceShell (step : Step) (fields : List ByteText) : Action Unit := do
  let name := fields.headD []
  let s ← get
  let found : Except Errno ByteText :=
    if name.isEmpty then .error Errno.access else s.findProgram name
  match found with
  | .error e =>
      let (text, status) := notRun e
      complain (name ++ chars ": " ++ text)
      leave status
  | .ok _ =>
      modify fun s => { s.inRows with actions := s.actions.filter fun a => a.2.isEmpty }
      pass launchTime
      become step maxPrograms name fields.tail
      modify fun s => { s with actions := [] }
      throw .exit

/-! ### Commands of the shell that run others -/

/-- How a name would be run. -/
inductive Meaning
  | abbreviation (text : ByteText)
  | keyword
  | function
  | own (isSpecial : Bool)
  | program (path : ByteText) (isKnown : Bool)
  | nothing

/-- The meaning of a name. -/
def State.meaning (s : State) (name : ByteText) : Meaning :=
  match s.aliases.find? fun a => a.1 == name with
  | some (_, text) => .abbreviation text
  | none =>
      if keywords.any fun k => k.toList == name then .keyword
      else if s.functions.any fun f => f.1 == name then .function
      else if Builtin.isKnown name then .own (Builtin.isSpecial name)
      else
        match s.findProgram name with
        | .ok path => .program path (s.located.any fun l => l.name == name)
        | .error _ => .nothing

/-- Show the programs whose places are known, or look for programs anew. -/
def locateAll : Builtin := fun arguments => do
  let (options, names) ← letters "r" arguments
  if !options.isEmpty then
    modify fun s => { s with located := [] }
    return 0
  else if names.isEmpty then
    let s ← get
    let sorted := s.located.mergeSort fun a b => rowOf programRows a.name ≤ rowOf programRows b.name
    let lines := sorted.map fun l =>
      (match s.findProgram l.name with | .ok path => path | .error _ => l.name)
        ++ if l.isDoubtful then ['*'] else []
    say (joinLines lines)
  else
    names.foldlM
      (fun status name => do
        let s ← get
        let isOwn := Builtin.isKnown name || s.functions.any fun f => f.1 == name
        if isOwn || name.contains '/' then return status
        else
          modify fun s => { s with located := s.located.filter fun l => l.name != name }
          match s.findProgram name with
          | .ok _ =>
              locate name
              return status
          | .error e =>
              complain (name ++ chars ": " ++ (notRun e).1)
              return 1) 0

/-- Say how names would be run, briefly or at length. -/
def explain (isBrief : Bool) (names : List ByteText) : Action Nat :=
  names.foldlM
    (fun status name => do
      let line (brief long : ByteText) : Action Nat := do
        return max status (← say ((if isBrief then brief else name ++ long) ++ ['\n']))
      match (← get).meaning name with
      | .abbreviation text =>
          line (chars "alias " ++ name ++ '=' :: shown text) (chars " is an alias for " ++ text)
      | .keyword => line name (chars " is a shell keyword")
      | .function => line name (chars " is a shell function")
      | .own isSpecial =>
          line name (chars (if isSpecial then " is a special shell builtin"
            else " is a shell builtin"))
      | .program path isKnown =>
          locate name
          line path (chars (if isKnown then " is a tracked alias for " else " is ") ++ path)
      | .nothing =>
          if !isBrief then
            let _ ← say (name ++ chars ": not found\n")
          return 127) 0

/-- Run a script that is read in. -/
def runFile (step : Step) (arguments : List ByteText) : Action Nat := do
  match arguments with
  | [] => return 0
  | name :: _ =>
      let s ← get
      let m := s.world.machine
      let found : Option ByteText :=
        if name.contains '/' then some name
        else
          let paths := (ByteText.split ':' s.path).map fun d =>
            if d.isEmpty then name else Machine.inside d name
          paths.find? m.isFile
      match found with
      | none => fail (name ++ chars ": not found")
      | some path =>
          let text : Except Errno ByteText := match m.stat path with
            | .ok (.descriptor n) => (s.input n).map (·.1)
            | _ => (m.read path).map ByteText.ofBytes
          match text with
          | .error e =>
              if e = Errno.isDirectory then return 0
              else fail (chars "cannot open " ++ path ++ chars ": " ++ openError false e)
          | .ok content =>
              modify fun s => { s with command := some path }
              finish 0
              let _ ← runText step content
              let after ← get
              if after.skip = .returning then set { after with skip := .none }
              return after.status

/-- Call a function. -/
def callFunction (step : Step) (body : Command) (arguments : List ByteText) : Action Unit := do
  let s ← get
  set { s with parameters := arguments, depth := 0, calls := s.calls + 1, spot := ⟨1, 0⟩ }
  let restore : Action Unit := modify fun t =>
    { t with
      parameters := s.parameters, depth := s.depth, calls := s.calls, spot := s.spot
      skip := if t.skip = .returning then .none else t.skip }
  guarded restore (withScope (step body))

/-- The words behind `command` and its options, and whether it asks for the meaning of names,
briefly or at length. -/
def behindCommand (arguments : List ByteText) : Action (Option Bool × List ByteText) := do
  let (options, rest) ← letters "pvV" arguments
  match options.reverse.find? (· ≠ 'p') with
  | some c => return (some (c = 'v'), rest)
  | none => return (none, rest)

/-- Run a command of the shell itself.  An error in it ends the shell if the command is special. -/
def runOwnCommand (name : ByteText) (isSpecial : Bool) (action : Action Nat) : Action Unit := do
  let before := (← get).command
  modify fun s => { s with command := some name, isReplaced := false }
  pass stepTime
  let restore : Action Unit := modify fun s => { s with command := before }
  let status ← guarded restore (tryCatch action fun e => do
    if e = .error && !isSpecial then return 2 else throw e)
  finish status

/-- Run a command by its fields.  `plainly` tells that functions do not count and that nothing is
special. -/
def runFields (step : Step) : Nat → Bool → List ByteText → Action Unit
  | 0, _, _ => finish 126
  | _, _, [] => finish 0
  | room + 1, plainly, name :: arguments => do
      let s ← get
      let isSpecial := !plainly && Builtin.isSpecial name
      let own := runOwnCommand name isSpecial
      let status (action : Action Unit) : Action Nat := do
        action
        return (← get).status
      match if plainly then none else s.functions.find? fun f => f.1 == name with
      | some (_, body) =>
          modify fun s => { s with isReplaced := false }
          callFunction step body arguments
      | none =>
          match String.ofList name with
          | "eval" =>
              own do
                if arguments.isEmpty then return 0
                else
                  let any ← runText step (joinWith [' '] arguments)
                  if any then return (← get).status else return 0
          | "." => own (runFile step arguments)
          | "type" => own (explain false arguments)
          | "hash" => own (locateAll arguments)
          | "exec" =>
              own (status do
                if arguments.isEmpty then finish 0 else replaceShell step arguments)
          | "command" =>
              let before := s.command
              modify fun s => { s with command := some name }
              let restore : Action Unit := modify fun s => { s with command := before }
              let found ← guarded restore (tryCatch
                (do
                  let (asked, words) ← behindCommand arguments
                  match asked with
                  | some isBrief =>
                      finish (← explain isBrief (words.take 1))
                      return []
                  | none =>
                      finish 0
                      return words)
                fun e => do if e = .error then return [] else throw e)
              if found.isEmpty then pure () else runFields step room true found
          | _ =>
              match Builtin.find? name with
              | some builtin => own (builtin arguments)
              | none => runProgram step (name :: arguments)

/-! ### Simple commands -/

/-- The fields of the words of a command.  What looks like an assignment behind a command that takes
them is not split. -/
def commandFields (listen : Listener) (words : List (List Part)) : Action (List ByteText) :=
  words.foldlM
    (fun done word => do
      let head := (done.dropWhile (· = chars "command")).headD []
      let isPlain := (← get).functions.all fun f => f.1 != head
      match if isPlain && Builtin.takesAssignments head then assignment? word else none with
      | some (name, value) =>
          return done ++ [name ++ '=' :: (← expandValue listen value)]
      | none => return done ++ (← fieldsOfWord listen word))
    []

/-- Give variables the values of assignments, for good or while a command runs; what was
assigned. -/
def assignAll (listen : Listener) (isLocal isShared : Bool)
    (assignments : List (ByteText × List Part)) : Action (List ByteText) :=
  assignments.mapM fun (name, word) => do
    let value ← expandValue listen word
    if isLocal then makeLocal name
    setVariable name value
    if isShared then mark true false name
    return name ++ '=' :: value

/-- Show a command before it is run, if this is asked for. -/
def trace (errors : Option Nat) (texts : List ByteText) : Action Unit := do
  let s ← get
  if s.hasOption 'x' then
    let before := find? 2 s.descriptors
    set (s.connect 2 errors)
    report ((s.get? (chars "PS4")).getD [] ++ joinWith [' '] texts ++ ['\n'])
    modify fun s => s.connect 2 before

/-- Run a simple command. -/
def runSimple (step : Step) (line : Nat) (assignments : List (ByteText × List Part))
    (words : List (List Part)) (redirections : List Redirection) : Action Unit := do
  modify fun s => { s with line, inner := 0 }
  let listen := listenBy step
  let fields ← commandFields listen words
  let targets ← redirections.mapM (resolve listen)
  let s ← get
  let errors := find? 2 s.descriptors
  match fields with
  | [] =>
      modify fun s => { s with isReplaced := false }
      withTargets targets (finish 2) do
        let assigned ← assignAll listen false false assignments
        if !assigned.isEmpty then trace errors assigned
        pass stepTime
        finish (← get).inner
  | name :: arguments =>
      let isFunction := s.functions.any fun f => f.1 == name
      let isSpecial := !isFunction && Builtin.isSpecial name
      let rooms := fields.length + 1
      let otherwise : Action Unit := do
        finish 2
        if isSpecial then throw .error
      let work (isLocal : Bool) : Action Unit := do
        let assigned ← assignAll listen isLocal (isLocal || name = chars "exec") assignments
        trace errors (assigned ++ fields)
        runFields step rooms false fields
      if name = chars "exec" && arguments.isEmpty && !isFunction then
        modify fun s => { s with isReplaced := false }
        targets.forM fun (descriptor, target) => apply descriptor target
        work false
      else
        withTargets targets otherwise
          (if isSpecial || assignments.isEmpty then work false else withScope (work true))

/-! ### Loops -/

/-- The most rounds of a loop. -/
def maxRounds : Nat := 200000

/-- Whether a loop is left after its body or its condition has run. -/
def leavesLoop (s : State) : Bool × State :=
  match s.skip with
  | .none => (false, s)
  | .returning => (true, s)
  | .leaving loops =>
      (true, { s with skip := if loops ≤ 1 then .none else .leaving (loops - 1) })
  | .repeating loops =>
      if loops ≤ 1 then (false, { s with skip := .none })
      else (true, { s with skip := .repeating (loops - 1) })

/-- Repeat a body as long as a condition holds.  The status is that of the last body. -/
def rounds (untilMet : Bool) (condition body : Action Unit) : Nat → Nat → State →
    Except Interruption Unit × State
  | 0, _, s => (.error .overdue, s)
  | room + 1, status, s =>
      match condition.on s with
      | (.error e, s) => (.error e, s)
      | (.ok _, s) =>
          let isRepeated := s.skip ≠ .none
          let found := s.status
          let (leaves, s) := leavesLoop s
          if leaves then
            (.ok (), { s with status := if s.skip = .returning then found else status })
          else if isRepeated then rounds untilMet condition body room status s
          else if (found = 0) = untilMet then (.ok (), { s with status })
          else
            match body.on s with
            | (.error e, s) => (.error e, s)
            | (.ok _, s) =>
                let (leaves, s) := leavesLoop s
                if leaves then (.ok (), s) else rounds untilMet condition body room s.status s

/-- Run a body for each of some texts, of which a variable is given one at a time. -/
def roundsFor (name : ByteText) (body : Action Unit) : List ByteText → State →
    Except Interruption Unit × State
  | [], s => (.ok (), s)
  | text :: rest, s =>
      let round : Action Unit := do
        setVariable name text
        body
      match round.on s with
      | (.error e, s) => (.error e, s)
      | (.ok _, s) =>
          let (leaves, s) := leavesLoop s
          if leaves then (.ok (), s) else roundsFor name body rest s

/-- Run something as the body of a loop. -/
def inLoop (action : Action Unit) : Action Unit := do
  modify fun s => { s with depth := s.depth + 1 }
  guarded (modify fun s => { s with depth := s.depth - 1 }) action

/-! ### Choices -/

/-- Run the first of some clauses whose condition holds, or what is given for the case that none
does. -/
def runClauses (step : Step) (otherwise : List Command) : List (List Command × List Command) →
    Action Unit
  | [] => if otherwise.isEmpty then finish 0 else runAll step otherwise
  | (condition, body) :: rest => do
      tested (runAll step condition)
      if ← isGoing then
        if (← get).status = 0 then runAll step body else runClauses step otherwise rest

/-- Run the first of some arms one of whose patterns fits a text. -/
def runArms (step : Step) (subject : ByteText) : List (List (List Part) × List Command) → Action Unit
  | [] => finish 0
  | (patterns, body) :: rest => do
      let fits ← patterns.foldlM
        (fun found word => do
          if found then return true
          else return (← expandPattern (listenBy step) word).fits subject)
        false
      if fits then
        if body.isEmpty then finish 0 else runAll step body
      else runArms step subject rest

/-! ### Pipes and jobs -/

/-- Run the commands of a pipe, all of which begin at one time; each but the first reads what the
one before it says. -/
def runPipe (step : Step) (start : Nat) : List Command → Action Ending
  | [] => return .exited 0
  | [last] => inShell (fun s => { s with clock := start }) (finishing step (step last))
  | first :: rest => do
      let before := (← get).descriptors
      let (outlet, description) ← newOutlet
      let ending ← inShell
        (fun s => { s.connect 1 (some description) with clock := start })
        (finishing step (step first))
      let s ← get
      let text := s.world.said outlet
      dropOutlet outlet description
      let isEndless := ending = .killed 13 && !text.isEmpty
      let source ← newDescription (.text text isEndless s.clock)
      modify fun s => s.connect 0 (some source)
      let last ← guarded (modify fun s =>
        { s with descriptors := before }) (runPipe step start rest)
      return last

/-- Run a pipe. -/
def runPipeline (step : Step) (parts : List Command) : Action Unit := do
  pass (stepTime * parts.length)
  let ending ← runPipe step (← get).clock parts
  mourn ending

/-- The action of a job that a command is: redirections at its outside hold for all of it. -/
def jobAction (step : Step) (body : Command) : Action Unit := do
  let permanently (redirections : List Redirection) (commands : List Command) : Action Unit := do
    let targets ← redirections.mapM (resolve (listenBy step))
    targets.forM fun (descriptor, target) => apply descriptor target
    modify fun s =>
      { s with
        isReplaced := match commands with
          | [.simple ..] => true
          | _ => false }
    runAll step commands
  match body with
  | .subshell _ commands redirections => permanently redirections commands
  | .redirected _ commands redirections => permanently redirections commands
  | other => permanently [] [other]

/-- Start a job beside the shell.  It runs from now on by its own time. -/
def runBeside (step : Step) (body : Command) : Action Unit := do
  pass startTime
  let s ← get
  let number := s.world.next
  let process := 4300 + number
  let nothing ← newDescription (.device .null)
  let s' ← get
  let begun : State :=
    { s'.begun.connect 0 (some nothing) with
      job := number, clock := s.clock + beginTime, isTested := false }
  let (result, after) := (finishing step (jobAction step body)).on begun
  let ending := endingOf result after
  let upTo := if ending = .never then s.world.limit else after.clock
  let job : Job := ⟨number, process, s.clock, upTo, ending⟩
  let held : List Hold :=
    if after.isReplaced then [] else [⟨number, true, s.clock, upTo, after.openOutlets⟩]
  let absorbed := { s'.absorb after with clock := s'.clock }
  set
    { absorbed with
      lastProcess := some process
      children := ⟨s.freePlace, process, false⟩ :: s.claimPlace.children
      status := 0
      world := { absorbed.world with
        jobs := job :: absorbed.world.jobs
        holds := held ++ absorbed.world.holds } }

/-! ### Commands -/

/-- Run one command, given a way to run the commands inside it. -/
def perform (step : Step) (command : Command) : Action Unit := do
  takeActions step 100
  if (← get).hasOption 'n' then return ()
  match command with
  | .simple line assignments words redirections =>
      runSimple step line assignments words redirections
      checkFailure
  | .pipe parts =>
      runPipeline step parts
      checkFailure
  | .negation body =>
      tested (step body)
      if ← isGoing then
        let status := (← get).status
        finish (if status = 0 then 1 else 0)
  | .andThen first second =>
      tested (step first)
      if ← isGoing then
        if (← get).status = 0 then step second
  | .orElse first second =>
      tested (step first)
      if ← isGoing then
        if (← get).status ≠ 0 then step second
  | .background body => runBeside step body
  | .group body => runAll step body
  | .redirected line body redirections =>
      modify fun s => { s with line }
      let targets ← redirections.mapM (resolve (listenBy step))
      withTargets targets (finish 2) (runAll step body)
  | .subshell line body redirections =>
      modify fun s => { s with line }
      pass stepTime
      let ending ← inShell id (finishing step do
        let targets ← redirections.mapM (resolve (listenBy step))
        targets.forM fun (descriptor, target) => apply descriptor target
        runAll step body)
      mourn ending
      checkFailure
  | .branch clauses otherwise => runClauses step otherwise clauses
  | .loop untilMet condition body =>
      inLoop (ExceptT.mk (rounds untilMet (tested (runAll step condition)) (runAll step body)
        maxRounds 0))
  | .each line name words body =>
      modify fun s => { s with line }
      let texts ← match words with
        | some words => fieldsOf (listenBy step) words
        | none => do pure (← get).parameters
      finish 0
      inLoop (ExceptT.mk (roundsFor name (runAll step body) texts))
  | .choose line word arms =>
      modify fun s => { s with line }
      let subject ← expandText (listenBy step) word
      runArms step subject arms
  | .define name _ body =>
      modify fun s =>
        { s with functions := (name, body) :: s.functions.filter fun f => f.1 != name, status := 0 }
  takeActions step 100

/-- Run a command in which others stand up to a depth.  Whoever goes deeper is killed for it. -/
def run : Nat → Step
  | 0 => fun _ => throw (.killed 11)
  | depth + 1 => perform (run depth)

/-- How deep commands may stand in each other. -/
def maxDepth : Nat := 3000

end AssemblyGate.Shell
