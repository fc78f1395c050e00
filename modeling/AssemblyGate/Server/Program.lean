/-
**The program.**

The program reads its settings, opens its journal, makes its worker threads, finds its address and
listens.  Each of these steps may end it.  Then it reports that it has started, serves until a
signal comes, and drains.  A task of its own waits for signals; if a line of it cannot be written,
only this task ends, and the signals that come are lost.

Main definitions:

* `AssemblyGate.Platform` — what the program asks of the machine that it runs on;
* `AssemblyGate.Halt` — what may end the program before it has drained;
* `AssemblyGate.Program.start` — the way to the first connection;
* `AssemblyGate.Program.watch` — the task that waits for signals;
* `AssemblyGate.Program.finish` — the way from a signal to the end.
-/
import AssemblyGate.Assembler.Availability
import AssemblyGate.Journal.Opening
import AssemblyGate.Server.AcceptLoop
import AssemblyGate.Server.Drain
import AssemblyGate.Settings.Load

set_option autoImplicit false

namespace AssemblyGate

/-- A signal that ends the program. -/
inductive StopSignal
  | terminate
  | interrupt
deriving DecidableEq

namespace StopSignal

/-- The name of a signal. -/
def name : StopSignal → String
  | .terminate => "SIGTERM"
  | .interrupt => "SIGINT"

/-- The number of a signal. -/
def number : StopSignal → Nat
  | .terminate => 15
  | .interrupt => 2

end StopSignal

/-- What the program asks of the machine that it runs on. -/
structure Platform (σ : Type) where
  host : Host σ
  logFiles : LogFiles σ
  recorder : Recorder σ
  /-- The files as the settings are read from them. -/
  fileView : σ → FileView
  /-- The environment. -/
  environment : σ → List (String × String)
  /-- Listen at an address. -/
  listen : SocketAddress → σ → Except Fault σ
  /-- Handle a signal, which kills the program otherwise. -/
  handle : StopSignal → Except Fault Unit
  /-- The number of the process. -/
  process : σ → String
  /-- The milliseconds that the clock shows. -/
  clock : σ → Nat

/-- What may end the program. -/
inductive Halt
  | settings (error : LoadError)
  | journal (error : JournalError)
  | noAddress
  | refused (fault : Fault)
  | crash (cause : String)
  | killed (number : Nat)
deriving DecidableEq

namespace Halt

/-- The number of the signal that no program can handle. -/
def force : Nat := 9

/-- The status that the program ends with, as a shell tells it. -/
def exitCode : Halt → Nat
  | .crash _ => 101
  | .killed number => 128 + number
  | _ => 1

/-- What the program says of its end. -/
def report : Halt → String
  | .settings error => "Error: " ++ error.message
  | .journal error => "Error: " ++ error.detail
  | .noAddress =>
      "Error: " ++ String.ofList (Quoted.quote Settings.addressError.toList)
  | .refused fault => "Error: " ++ fault.detail
  | .crash cause => cause
  | .killed _ => ""

end Halt

/-- A program that serves; `isWatching` tells whether a task waits for signals. -/
structure Running where
  settings : Settings
  journal : Journal
  isWatching : Bool
  loop : AcceptLoop
deriving DecidableEq

namespace Program

variable {σ : Type}

/-- The worker threads of settings.  A program cannot be run by none; it is taken that any other
number of them can be made. -/
def workers (s : Settings) : Except Halt (Option UInt64) :=
  if s.server.workers = some 0 then .error (.crash "Worker threads cannot be set to 0")
  else .ok s.server.workers

/-- Log events.  A standard stream that cannot be written to ends the program. -/
def log (p : Platform σ) (journal : Journal) (events : List Event) (s : σ) : Except Halt Unit × σ :=
  match journal.deliverAll p.recorder events s with
  | .ok s => (.ok (), s)
  | .error s => (.error (.crash "failed printing to a standard stream"), s)

/-- What is logged when the program has started. -/
def startEvents (p : Platform σ) (settings : Settings) (address : SocketAddress) (s : σ) :
    List Event :=
  (if Assembler.isAvailable p.host settings.assembler.binary s then []
    else [Notice.assemblerMissing settings.assembler.binary])
  ++ Notice.started address.render settings

/-- Log an event in a task of its own, and tell whether the task goes on.  A standard stream that
cannot be written to ends the task, and nothing else. -/
def note (p : Platform σ) (journal : Journal) (e : Event) (s : σ) : Bool × σ :=
  match journal.deliver p.recorder s e with
  | .ok s => (true, s)
  | .error s => (false, s)

/-- Start the task that waits for signals, and tell whether it does. -/
def watch (p : Platform σ) (journal : Journal) (s : σ) : Bool × σ :=
  match p.handle .terminate, p.handle .interrupt with
  | .ok (), .ok () => note p journal (Notice.watching (p.process s)) s
  | .error fault, _ | .ok (), .error fault =>
      (false, (note p journal (Notice.notWatching fault.message) s).2)

/-- Listen and report the start. -/
def serve (p : Platform σ) (settings : Settings) (journal : Journal) (s : σ) :
    Except Halt Running × σ :=
  match settings.socketAddress? with
  | none => (.error .noAddress, s)
  | some address =>
      match p.listen address s with
      | .error fault => (.error (.refused fault), s)
      | .ok s =>
          let loop := AcceptLoop.start settings.performance.maxConnections ServiceState.initial
          match log p journal (startEvents p settings address s) s with
          | (.error halt, s) => (.error halt, s)
          | (.ok (), s) =>
              let (isWatching, s) := watch p journal s
              (.ok ⟨settings, journal, isWatching, (loop.run [.proceed, .proceed]).1⟩, s)

/-- The way from the arguments to the first connection. -/
def start (p : Platform σ) (arguments : List String) (s : σ) : Except Halt Running × σ :=
  match Settings.load (p.fileView s) (p.environment s) (arguments.headD Settings.defaultName) with
  | .error e => (.error (.settings e), s)
  | .ok settings =>
      match Journal.openOnce p.logFiles none settings.logging s with
      | (.error e, s) => (.error (.journal e), s)
      | (.ok journal, s) =>
          match workers settings with
          | .error halt => (.error halt, s)
          | .ok _ => serve p settings journal s

/-- Wait from a time on for the connections of a loop that has been left, which do not end by
themselves. -/
def drain (settings : Settings) (now : Nat) (loop : AcceptLoop) : Drain.Course :=
  Drain.wait (fun _ => loop.state.active.toNat) (fun n => now + n * Drain.pause)
    settings.performance.shutdownTimeout.toNat

/-- The way from a stop request at a time to the end of a loop: the loop after it, the wait, and
what is logged. -/
def stop (settings : Settings) (now : Nat) (loop : AcceptLoop) :
    AcceptLoop × Drain.Course × List Event :=
  let (loop, events) := loop.run (AcceptLoop.stopRequest ++ [.proceed])
  let course := drain settings now loop
  (loop, course, events ++ Drain.events loop.state.active.toNat course)

/-- The way from a stop request at a time to the end. -/
def close (p : Platform σ) (now : Nat) (r : Running) (s : σ) : Except Halt Unit × σ :=
  let (_, course, events) := stop r.settings now r.loop
  match log p r.journal events s with
  | (.error halt, s) => (.error halt, s)
  | (.ok (), s) =>
      match course with
      | .ended _ => (.ok (), s)
      | .endless | .overflow => (.error (.crash "overflow when adding duration to instant"), s)

/-- The way from a signal to the end.  A signal that is handled and that no task heeds is lost: the
program serves on, and force has to be used in the end. -/
def finish (p : Platform σ) (signal : StopSignal) (r : Running) (s : σ) : Except Halt Unit × σ :=
  if r.isWatching then
    match note p r.journal (Notice.signalled signal.name) s with
    | (true, noted) => close p (p.clock s) r noted
    | (false, noted) => (.error (.killed Halt.force), noted)
  else
    match p.handle signal with
    | .ok () => (.error (.killed Halt.force), s)
    | .error _ => (.error (.killed signal.number), s)

/-- The whole program, which a signal ends: how it ended, and the condition the machine is left
in. -/
def run (p : Platform σ) (arguments : List String) (signal : StopSignal) (s : σ) :
    Except Halt Unit × σ :=
  match start p arguments s with
  | (.error halt, s) => (.error halt, s)
  | (.ok running, s) => finish p signal running s

/-- The status that the program ends with. -/
def exitCode : Except Halt Unit → Nat
  | .ok () => 0
  | .error halt => halt.exitCode

end Program

end AssemblyGate
