/-
**The course of a shell.**

How commands follow one another, how a shell runs inside another one, and how a script is run from
its text: one complete command after the other is read and run, so that what is wrong with a later
one is found only when it is reached.

Main definitions:

* `AssemblyGate.Shell.runAll` — commands one after the other;
* `AssemblyGate.Shell.inShell` — an action in a shell of its own;
* `AssemblyGate.Shell.runText` — a script;
* `AssemblyGate.Shell.listenBy` — what commands say.
-/
import AssemblyGate.Posix.Shell.Builtin
import AssemblyGate.Posix.Shell.Reader
import AssemblyGate.Posix.Shell.Redirect

set_option autoImplicit false

namespace AssemblyGate.Shell

/-- A way to run one command. -/
abbrev Step := Command → Action Unit

/-- Run commands one after the other as long as nothing is passed over. -/
def runAll (step : Step) (commands : List Command) : Action Unit :=
  commands.forM fun c => do if ← isGoing then step c

/-- Run something whose failure is looked at, so that it ends no shell. -/
def tested (action : Action Unit) : Action Unit := do
  let before := (← get).isTested
  modify fun s => { s with isTested := true }
  guarded (modify fun s => { s with isTested := before }) action

/-! ### Scripts -/

/-- The beginning of the reading of a text. -/
def State.reading (s : State) (text : ByteText) : Reading :=
  { rest := text, line := 1, awaited := [], documents := [], nextDocument := s.nextDocument
    aliases := s.aliases, inUse := [] }

/-- Run what is left of a script; whether it holds any command. -/
def runFrom (step : Step) : Nat → Bool → Reading → Action Bool
  | 0, any, _ => return any
  | room + 1, any, r => do
      let s ← get
      let start : Reading :=
        { r with aliases := s.aliases, nextDocument := s.nextDocument, documents := [] }
      match readCommand start with
      | .error refusal =>
          modify fun s => { s with line := refusal.line }
          fail refusal.text
      | .ok ((commands, isLast), after) =>
          if s.hasOption 'v' then
            report (r.rest.take (r.rest.length - after.rest.length))
          modify fun s =>
            { s with
              documents := after.documents ++ s.documents
              nextDocument := after.nextDocument }
          runAll step commands
          let any := any || !commands.isEmpty
          if isLast || !(← isGoing) then return any else runFrom step room any after

/-- Run a script; whether it holds any command. -/
def runText (step : Step) (text : ByteText) : Action Bool := do
  runFrom step (text.length + 2) false ((← get).reading text)

/-- Run the actions of signals that came. -/
def takeActions (step : Step) : Nat → Action Unit
  | 0 => return ()
  | room + 1 => do
      let s ← get
      match s.pending with
      | [] => return ()
      | signal :: rest =>
          set { s with pending := rest }
          match find? signal s.actions with
          | none => return ()
          | some script =>
              let _ ← runText step script
              let after ← get
              if after.skip ≠ .returning then finish s.status
              takeActions step room

/-! ### Shells inside shells -/

/-- How an action ended that was run in a shell of its own. -/
def endingOf (result : Except Interruption Unit) (s : State) : Ending :=
  match result with
  | .ok _ | .error .exit | .error .error => .exited (s.status % 256)
  | .error (.killed signal) => .killed signal
  | .error .overdue => .never

/-- Run an action and, if the shell ends by itself, the action that was set for its end. -/
def finishing (step : Step) (action : Action Unit) : Action Unit := ExceptT.mk fun s =>
  let (result, after) := action.on s
  match result with
  | .error (.killed _) | .error .overdue => (result, after)
  | _ =>
      match find? 0 after.actions with
      | none => (.ok (), after)
      | some script =>
          let ready := { after with
            actions := after.actions.filter (·.1 ≠ 0), skip := .none, depth := 0 }
          let last : Action Unit := do
            let _ ← runText step script
          match last.on ready with
          | (.ok _, ended) => (.ok (), { ended with status := after.status })
          | other => other

/-- A shell as it begins inside another one. -/
def State.begun (s : State) : State :=
  { s with
    isInner := true
    actions := s.actions.filter fun a => a.2.isEmpty
    pending := []
    children := []
    noticed := 0
    isReplaced := false }

/-- Take over what a shell left behind that this one waited for: the world and the time.  The
current directory is its own. -/
def State.absorb (s inner : State) : State :=
  { s with
    clock := max s.clock inner.clock
    world := { inner.world with
      machine := { inner.world.machine with current := s.world.machine.current } } }

/-- Run an action in a shell of its own and wait for it. -/
def inShell (prepare : State → State) (action : Action Unit) : Action Ending := do
  let s ← get
  let (result, after) := action.on (prepare s.begun)
  set { s.claimPlace.absorb after with noticed := max s.noticed after.clock }
  match endingOf result after with
  | .never => throw .overdue
  | ending =>
      pass 0
      return ending

/-- What commands say to their output: all but the line ends at its end. -/
def listenBy (step : Step) : Listener := fun body => do
  let (outlet, description) ← newOutlet
  let ending ← inShell
    (fun s => { s.connect 1 (some description) with isTested := false })
    (finishing step (runAll step body))
  let said := (← get).world.said outlet
  dropOutlet outlet description
  modify fun s => { s with inner := ending.status }
  let text := said.filter (· ≠ '\x00')
  return (text.reverse.dropWhile (· = '\n')).reverse

/-- End a command with the status of a process that was waited for, and tell if it was killed. -/
def mourn (ending : Ending) : Action Unit := do
  reportDeath ending
  finish ending.status

end AssemblyGate.Shell
