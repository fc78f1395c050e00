/-
**Processes.**

A command is looked for and run with the environment that it is given, with nothing to read and with
its output and its error output gathered.  The run lasts as long as anyone holds one of the two, and
it is stopped when it takes too long.  With this the machine does everything that the service asks
of one.

Main definitions:

* `AssemblyGate.Machine.run` — the run of a command;
* `AssemblyGate.Machine.host` — the machine as the service sees it.
-/
import AssemblyGate.Host.Basic
import AssemblyGate.Posix.LogFiles
import AssemblyGate.Posix.Shell.Run
import AssemblyGate.Posix.Standard

set_option autoImplicit false

namespace AssemblyGate.Machine

/-- Whether a command can be handed over at all. -/
def isUnspeakable (i : Invocation) : Bool :=
  hasNul i.program || i.arguments.any hasNul
    || i.overrides.any fun (name, value) => hasNul name || value.any hasNul

/-- The environment of a command: that of the machine with the command's own variables. -/
def environmentOf (m : Machine) (i : Invocation) : List (String × String) :=
  (i.overrides.foldl (fun m (name, value) => m.setVariable name value) m).environment

/-- The microseconds that starting a program takes. -/
def startTime : Nat := 1000

/-- The number of the outlet where the output of a command is gathered. -/
def outputOutlet : Nat := 1

/-- The number of the outlet where the error output of a command is gathered. -/
def errorOutlet : Nat := 2

/-- The number by which the process of a command is known. -/
def commandProcess : Nat := 4242

/-- The process that a command is run in: it has the command's environment and gathers what is
said. -/
def starter (m : Machine) (i : Invocation) (limit : Nat) : Shell.State :=
  { world :=
      { machine := m
        descriptions := [(0, .device .null), (1, .outlet outputOutlet), (2, .outlet errorOutlet)]
        outlets := [⟨outputOutlet, 0, []⟩, ⟨errorOutlet, 0, []⟩]
        jobs := []
        holds := []
        signals := []
        next := 10
        limit }
    job := 0
    clock := startTime
    process := commandProcess
    parents := []
    isInner := false
    name := ByteText.ofString i.program
    parameters := []
    bindings := (m.environmentOf i).map fun (name, value) =>
      ⟨ByteText.ofString name, some (ByteText.ofString value), true, false⟩
    scopes := [], functions := [], aliases := [], actions := [], pending := [], options := []
    descriptors := [(0, 0), (1, 1), (2, 2)]
    documents := []
    nextDocument := 0
    line := 0
    command := none
    status := 0
    inner := 0
    children := []
    noticed := 0
    located := []
    lastProcess := none
    skip := .none
    depth := 0
    calls := 0
    isTested := false
    isReplaced := false
    mask := 0o022
    spot := ⟨1, 0⟩ }

/-- When the last process ends that holds what a command says. -/
def lastHold (ended : Shell.State) : Nat :=
  ended.world.holds.foldl
    (fun time h =>
      if h.outlets.any fun n => n = outputOutlet || n = errorOutlet then max time h.upTo else time)
    ended.clock

/-- How a run ended. -/
def outcome (result : Except Shell.Interruption Unit) (ended : Shell.State) : Run :=
  let said := ByteText.toBytes (ended.world.said errorOutlet)
  match Shell.endingOf result ended with
  | .never => .overdue
  | ending =>
      if ended.world.limit ≤ lastHold ended then .overdue
      else
        match ending with
        | .killed signal => .ended (.signalled signal) said
        | other => .ended (.exited other.status) said

/-- Run a command for at most the given number of milliseconds. -/
def run (m : Machine) (i : Invocation) (limit : Nat) : Run × Machine :=
  if isUnspeakable i then (.notStarted .nulInArgument, m)
  else
    let path := (m.getVariable "PATH").map ByteText.ofString
    let arguments := i.arguments.map ByteText.ofString
    match m.search path (ByteText.ofString i.program) arguments with
    | .error e => (.notStarted (.os e), m)
    | .ok image =>
        let start := m.starter i (limit * 1000)
        if limit * 1000 ≤ startTime then (.overdue, m)
        else
          let step := Shell.run Shell.maxDepth
          let title := if image.arguments = arguments then start.name else image.path
          let further (words : List ByteText) : Shell.Action Unit :=
            Shell.become step Shell.maxPrograms (words.headD []) words.tail
          let (result, ended) := (Shell.becomeImage step further title image).on start
          (outcome result ended, { ended.world.machine with current := m.current })

/-- The directory for temporary files. -/
def temporaryDirectory (m : Machine) : String := (m.getVariable "TMPDIR").getD "/tmp"

/-- The machine as the service sees it. -/
def host : Host Machine :=
  { makeStaging := fun parent m => m.makeStaging (parent.getD m.temporaryDirectory)
    writeFile := fun path bytes =>
      withPath (fun path m => (m.write path bytes usualFileMode).map fun m => ((), m)) path
    run := fun i limit m => m.run i limit
    removeTree := fun path m => m.removeTree (ByteText.ofString path)
    isFile := fun m path => !hasNul path && m.isFile (ByteText.ofString path)
    searchPath := fun m => m.getVariable "PATH" }

end AssemblyGate.Machine
