/-
**Jobs and signals.**

A shell keeps its jobs in a table.  A job that ended keeps its place until its end was waited for,
or shown, and a new job takes the first place that is free.  Signals have numbers and names; a shell
takes an action of its own on some of them, others stop what they are sent to.

Main definitions:

* `AssemblyGate.Shell.signal?`, `AssemblyGate.Shell.signalName` — signals by number and by name;
* `AssemblyGate.Shell.State.claimPlace` — the place of a new job;
* `AssemblyGate.Shell.kill`, `AssemblyGate.Shell.wait`, `AssemblyGate.Shell.listJobs`,
  `AssemblyGate.Shell.trap` — the commands for them.
-/
import AssemblyGate.Posix.Shell.Arguments
import AssemblyGate.Posix.Tool.Format

set_option autoImplicit false

namespace AssemblyGate.Shell

/-! ### Signals -/

/-- The names of the first signals, from the end of the shell on, which counts as one. -/
def signalNames : List String :=
  ["EXIT", "HUP", "INT", "QUIT", "ILL", "TRAP", "ABRT", "BUS", "FPE", "KILL", "USR1", "SEGV", "USR2",
    "PIPE", "ALRM", "TERM", "16", "CHLD", "CONT", "STOP", "TSTP", "TTIN", "TTOU", "URG", "XCPU",
    "XFSZ", "VTALRM", "PROF", "WINCH", "IO", "PWR", "SYS"]

/-- The number of the last signal. -/
def lastSignal : Nat := 64

/-- The name of a signal. -/
def signalName (number : Nat) : ByteText :=
  match signalNames[number]? with
  | some name => chars name
  | none =>
      if number < 34 || lastSignal < number then Numeral.decimal number
      else if number = 34 then chars "RTMIN"
      else if number = lastSignal then chars "RTMAX"
      else if number < 50 then chars "RTMIN+" ++ Numeral.decimal (number - 34)
      else chars "RTMAX-" ++ Numeral.decimal (lastSignal - number)

/-- The number of a signal from some number on, from its number or its name. -/
def signal? (first : Nat) (word : ByteText) : Option Nat :=
  match Numeral.natural? word with
  | some n => if n ≤ lastSignal then some n else none
  | none =>
      let name := word.map capitalLetter
      (List.range (lastSignal + 1)).find? fun n => first ≤ n && signalName n == name

/-- What is said of a process that a signal killed. -/
def signalText (signal : Nat) : ByteText :=
  let known : List (Nat × String) :=
    [(1, "Hangup"), (2, "Interrupt"), (3, "Quit"), (4, "Illegal instruction"),
      (5, "Trace/breakpoint trap"), (6, "Aborted"), (7, "Bus error"),
        (8, "Floating point exception"),
      (9, "Killed"), (10, "User defined signal 1"), (11, "Segmentation fault"),
      (12, "User defined signal 2"), (13, "Broken pipe"), (14, "Alarm clock"), (15, "Terminated"),
      (16, "Stack fault"), (24, "CPU time limit exceeded"), (25, "File size limit exceeded"),
      (26, "Virtual timer expired"), (27, "Profiling timer expired"), (29, "I/O possible"),
      (30, "Power failure"), (31, "Bad system call")]
  match find? signal known with
  | some text => chars text
  | none =>
      if signal < 34 then chars "Unknown signal " ++ Numeral.decimal signal
      else chars "Real-time signal " ++ Numeral.decimal (signal - 34)

/-- Tell that a process was killed, unless the signal is one that goes without saying. -/
def reportDeath (ending : Ending) : Action Unit :=
  match ending with
  | .killed signal =>
      if signal = 2 || signal = 13 then return () else report (signalText signal ++ ['\n'])
  | _ => return ()

/-! ### The table of jobs -/

/-- The first place in the table that is free, which one whose end was waited for makes. -/
def State.freePlace (s : State) : Nat :=
  let isTaken (n : Nat) : Bool := s.children.any fun c => c.place = n && !c.isWaited
  let places := (List.range (s.children.length + 1)).map (· + 1)
  (places.find? fun n => !isTaken n).getD (s.children.length + 1)

/-- The table as it is when a new process takes the first free place. -/
def State.claimPlace (s : State) : State :=
  { s with children := s.children.filter fun c => c.place ≠ s.freePlace }

/-- Have the ends of jobs up to now noticed. -/
def notice : Action Unit := modify fun s => { s with noticed := max s.noticed s.clock }

/-- What became of a child. -/
def State.jobOf? (s : State) (c : Child) : Option Job :=
  s.world.jobs.find? fun j => j.process = c.process

/-- The job that a word behind a percent sign names: by its place, or as the latest one or the one
before. -/
def jobNamed (word : ByteText) : Action Child := do
  let s ← get
  let latest := s.children.head?
  let (found, failure) : Option Child × ByteText := match word.drop 1 with
    | [] | ['+'] | ['%'] => (latest, chars "No current job")
    | ['-'] => ((s.children.drop 1).head?, chars "No previous job")
    | rest =>
        let place := Numeral.natural? rest
        (s.children.find? fun c => some c.place = place, chars "No such job: " ++ word)
  match found with
  | some child => return child
  | none => fail failure

/-- What a signal does to a job at a time: it ends if it still runs, and what it would have said and
held after that is gone. -/
def World.stopJob (w : World) (job : Job) (time signal : Nat) : World :=
  let isIgnored := (signal = 2 || signal = 3) && job.start + beginTime ≤ time
  if job.finish ≤ time || effectiveness signal ≠ .kills || isIgnored then w
  else
    let isGone (s : Saying) : Bool := s.job = job.number && time < s.time
    { w with
      jobs := w.jobs.map fun j =>
        if j.number = job.number then { j with finish := time, ending := .killed signal } else j
      outlets := w.outlets.map fun o => { o with said := o.said.filter fun s => !isGone s }
      holds := w.holds.filterMap fun h =>
        if h.job ≠ job.number then some h
        else if time < h.since then none
        else if h.isShell then some { h with upTo := min h.upTo time }
        else some h }

/-! ### Sending signals -/

/-- Tell that there is no process to send a signal to. -/
def noProcess : Action Nat := do
  complain (chars "No such process\n")
  return 1

/-- Send a signal to a process. -/
def sendSignal (signal process : Nat) : Action Nat := do
  let s ← get
  let later : Action Unit :=
    modifyWorld fun w => { w with signals := (s.clock, process, signal) :: w.signals }
  if process = s.process || process = 0 then
    if s.isInner then
      later
      if s.job = 0 && (s.actions.all fun a => a.1 ≠ signal) && effectiveness signal = .kills then
        throw (.killed signal)
    else takeSignal signal
    return 0
  else if s.parents.contains process then
    later
    return 0
  else
    match s.world.jobs.find? fun j => j.process = process with
    | some job =>
        let isChild := s.children.any fun c => c.process = process
        if isChild && job.finish ≤ s.noticed then noProcess
        else
          modifyWorld fun w => w.stopJob job s.clock signal
          return 0
    | none => noProcess

/-- Send a signal to what a word names.  A job is no group of processes that could be sent to. -/
def sendTo (signal : Nat) (word : ByteText) : Action Nat := do
  match word with
  | '%' :: _ =>
      let _ ← jobNamed word
      noProcess
  | '-' :: rest =>
      let process ← numberOf rest
      if process = (← get).process then sendSignal signal process else noProcess
  | _ => sendSignal signal (← numberOf word)

/-- How `kill` is called. -/
def killUsage {α : Type} : Action α :=
  fail (chars "Usage: kill [-s sigspec | -signum | -sigspec] [pid | job]... or\nkill -l [exitstatus]")

/-- Send a signal to processes, or name signals. -/
def kill : Builtin := fun arguments => do
  let sendAll (signal : Nat) (targets : List ByteText) : Action Nat :=
    if targets.isEmpty then killUsage
    else targets.foldlM (fun status target => do return max status (← sendTo signal target)) 0
  let known := match arguments with
    | ('-' :: name) :: targets => (signal? 1 name).map fun signal => (signal, targets)
    | _ => none
  match known, arguments with
  | some (signal, targets), _ => sendAll signal targets
  | none, [] => killUsage
  | none, _ =>
      let (options, operands) ← readOptions "ls:" arguments
      let named ← options.foldlM
        (fun found (letter, name) =>
          if letter = 'l' then return found
          else
            match signal? 1 name with
            | some signal => return some signal
            | none => fail (chars "invalid signal number or name: " ++ name))
        (none : Option Nat)
      if options.all fun o => o.1 ≠ 'l' then sendAll (named.getD 15) operands
      else if named.isSome then killUsage
      else
        match operands with
        | [] => say (joinLines (['0'] :: (List.range lastSignal).map fun n => signalName (n + 1)))
        | word :: _ =>
            let n ← numberOf word
            let number := if 128 < n then n - 128 else n
            if 0 < number && number ≤ lastSignal then say (signalName number ++ ['\n'])
            else fail (chars "invalid signal number or exit status: " ++ word)

/-! ### Waiting -/

/-- How long a shell that waits takes to see a signal: a job that ends in this time has ended
first. -/
def alertTime : Nat := 50

/-- Wait for a job; a signal for which there is an action may come first.  How the job ended, or the
status by which the wait for it ends. -/
def waitFor (child : Child) : Action (Except Nat Ending) := do
  let s ← get
  match s.jobOf? child with
  | none => return .ok (.exited 127)
  | some job =>
      match s.dueSignal? (job.finish - alertTime) with
      | some (time, signal, _) =>
          pass (time - s.clock)
          return .error (if (← get).pending.contains signal then 128 + signal else 0)
      | none =>
          pass (job.finish - s.clock)
          modify fun s =>
            { s with
              children := s.children.map fun c =>
                if c.process = child.process then { c with isWaited := true } else c }
          return .ok job.ending

/-- Wait for one job after the other, as long as no signal comes. -/
def waitForAll : List Child → Action Nat
  | [] => return 0
  | child :: rest => do
      match ← waitFor child with
      | .ok _ => waitForAll rest
      | .error status => return status

/-- Wait for what words name, as long as no signal comes; the status is that of the last job. -/
def waitForEach (status : Nat) : List ByteText → Action Nat
  | [] => return status
  | word :: rest => do
      let child ← match word with
        | '%' :: _ => do pure (some (← jobNamed word))
        | _ => do
            let process ← numberOf word
            pure ((← get).children.find? fun c => c.process = process)
      match child with
      | none => waitForEach status rest
      | some child =>
          let before := (← get).noticed
          match ← waitFor child with
          | .error status => return status
          | .ok ending =>
              notice
              if ((← get).jobOf? child).any fun j => before < j.finish then reportDeath ending
              waitForEach ending.status rest

/-- Wait for jobs, or for all of them. -/
def wait : Builtin := fun arguments => do
  let (_, operands) ← letters "" arguments
  if operands.isEmpty then
    let status ← waitForAll (← get).children
    notice
    return status
  else waitForEach 127 operands

/-! ### Showing jobs -/

/-- How a job fares at a time. -/
def Job.condition (job : Job) (time : Nat) : ByteText :=
  if time < job.finish then chars "Running"
  else
    match job.ending with
    | .exited 0 => chars "Done"
    | .exited status => chars "Done(" ++ Numeral.decimal status ++ [')']
    | .killed signal => signalText signal
    | .never => chars "Running"

/-- Show a job, by its process alone or at length; one that ended is forgotten after it. -/
def showJob (isBrief hasProcess : Bool) (child : Child) : Action Unit := do
  let s ← get
  let process := Numeral.decimal child.process
  if isBrief then
    let _ ← say (process ++ ['\n'])
  else
    let sign := if s.children.head? = some child then '+'
      else if (s.children.drop 1).head? = some child then '-' else ' '
    let number := '[' :: Numeral.decimal child.place ++ [']', ' ', sign, ' ']
    let number := if hasProcess then number ++ process ++ [' '] else number
    match s.jobOf? child with
    | none => return ()
    | some job =>
        let line := number ++ job.condition s.clock
        let _ ← say (line ++ List.replicate (max 1 (33 - line.length)) ' ' ++ ['\n'])
        if job.finish ≤ s.clock then
          modify fun s => { s with children := s.children.filter (· ≠ child) }

/-- Show the jobs that words name, or all of them. -/
def listJobs : Builtin := fun arguments => do
  let (options, operands) ← letters "lp" arguments
  let hasProcess := options.getLast? = some 'l'
  let isBrief := options.getLast? = some 'p'
  if operands.isEmpty then
    notice
    (← get).children.forM (showJob isBrief hasProcess)
  else operands.forM fun word => do showJob isBrief hasProcess (← jobNamed word)
  return 0

/-- Refuse to go on with a job in the foreground or beside it: jobs are not under control. -/
def controlJob : Builtin := fun arguments => do
  let (_, operands) ← letters "" arguments
  let word := operands.head?
  let _ ← jobNamed (word.getD ['%'])
  fail (chars "job " ++ word.getD (chars "(null)") ++ chars " not created under job control")

/-! ### Actions -/

/-- A text between quotes as a shell shows it. -/
def shown (text : ByteText) : ByteText :=
  let pieces := ByteText.split '\x27' text
  let one (piece : ByteText) : ByteText := if piece.isEmpty then [] else '\x27' :: piece ++ ['\x27']
  if pieces.length = 1 then '\x27' :: text ++ ['\x27']
    else joinWith (chars "\"'\"") (pieces.map one)

/-- Set the action for signals, up to a word that is none; nothing clears it. -/
def setActions (action : Option ByteText) : List ByteText → Action Nat
  | [] => return 0
  | name :: rest =>
      match signal? 0 name with
      | none => do
          report (chars "trap: " ++ name ++ chars ": bad trap\n")
          return 1
      | some n => do
          modify fun s =>
            let others := s.actions.filter fun a => a.1 ≠ n
            { s with actions := (action.map fun text => (n, text)).toList ++ others }
          setActions action rest

/-- Set the actions for signals and for the end, or list them. -/
def trap : Builtin := fun arguments => do
  let (_, operands) ← letters "" arguments
  match operands with
  | [] =>
      let sorted := (← get).actions.mergeSort fun a b => a.1 ≤ b.1
      say (sorted.flatMap fun (n, action) =>
        chars "trap -- " ++ shown action ++ ' ' :: signalName n ++ ['\n'])
  | action :: names =>
      if names.isEmpty || (Numeral.natural? action).any (· ≤ lastSignal)
        then setActions none operands
      else setActions (if action = ['-'] then none else some action) names

end AssemblyGate.Shell
