/-
**One connection.**

A connection carries requests, one after the other, and lasts for a fixed time at most, which is the
longer of the times for reading and for writing.  A request is answered when everything before it
has been answered; the assembler has a time limit of its own.  What has not been answered when the
time of the connection is up is never answered.

Main definitions:

* `AssemblyGate.Ending` — how a connection ends;
* `AssemblyGate.Connection.carried` — which requests are read at all;
* `AssemblyGate.Connection.serve` — which requests are answered, and when.

Main results:

* `AssemblyGate.Connection.serve_nil` — a connection without requests lasts until it is closed.
-/
import AssemblyGate.Journal.Notice
import AssemblyGate.Settings.Basic

set_option autoImplicit false

namespace AssemblyGate

/-- How a connection ends. -/
inductive Ending
  | closed
  | broken (cause : String)
  | overdue
deriving DecidableEq

namespace Connection

/-- Whether a connection may carry more than one request. -/
def isKeptAlive (s : Settings) : Bool := 0 < s.performance.keepAliveTimeout

/-- What is logged of the end of a connection. -/
def events (s : Settings) (peer : String) : Ending → List Event
  | .closed => []
  | .broken cause => [Notice.broken cause]
  | .overdue => [Notice.timedOut peer s.connectionSeconds]

/-! ### Time -/

/-- A request on a connection: when it is complete, in milliseconds from the beginning of the
connection, and how long the assembler needs for it, if it ever ends. -/
structure Arrival where
  complete : Nat
  needs : Option Nat
deriving DecidableEq

/-- An answer: when it was given, and whether the assembler had to be stopped. -/
structure Answered where
  given : Nat
  wasStopped : Bool
deriving DecidableEq

/-- How long the assembler runs for a request, and whether it has to be stopped. -/
def effort (limit : Nat) (needs : Option Nat) : Nat × Bool :=
  match needs with
  | some n => if n < limit then (n, false) else (limit, true)
  | none => (limit, true)

/-- The answers that are given on a connection, the last one first, and how it ends.  `free` is when
the answer before was given. -/
def serveFrom (lasts limit : Nat) : Nat → List Answered → List Arrival → List Answered × Ending
  | _, done, [] => (done, .closed)
  | free, done, arrival :: rest =>
      let (duration, wasStopped) := effort limit arrival.needs
      let given := max free arrival.complete + duration
      if given < lasts then serveFrom lasts limit given (⟨given, wasStopped⟩ :: done) rest
      else (done, .overdue)

/-- The requests that are carried: a connection that is not kept alive carries one. -/
def carried (s : Settings) (arrivals : List Arrival) : List Arrival :=
  if isKeptAlive s then arrivals else arrivals.take 1

@[simp] theorem carried_nil (s : Settings) : carried s [] = [] := by
  unfold carried
  split <;> rfl

/-- The answers that are given on a connection, in order, and how it ends. -/
def serve (s : Settings) (arrivals : List Arrival) : List Answered × Ending :=
  let (done, ending) :=
    serveFrom s.connectionSpan s.assembler.timeoutMs.toNat 0 [] (carried s arrivals)
  (done.reverse, ending)

@[simp] theorem serve_nil (s : Settings) : serve s [] = ([], .closed) := by
  rw [serve, carried_nil]
  rfl

end Connection

end AssemblyGate
