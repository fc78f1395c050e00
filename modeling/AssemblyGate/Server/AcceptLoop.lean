/-
**The accept loop.**

The loop takes a ticket for the announcement of the stop before it looks whether the stop has been
requested already; a request in between is noticed by the ticket.  Then it takes connections until
the ticket is due.  When it has left, nothing is taken any more.

Main definitions:

* `AssemblyGate.Stage` — how far the loop has come;
* `AssemblyGate.AcceptLoop` — the loop with the door it stands at;
* `AssemblyGate.AcceptLoop.step` — one thing that happens.
-/
import AssemblyGate.Server.Admission

set_option autoImplicit false

namespace AssemblyGate

/-- How far the accept loop has come. -/
inductive Stage
  | new
  | registered (ticket : Ticket)
  | accepting (ticket : Ticket)
  | left
deriving DecidableEq

/-- Something that happens to a server: the loop goes on by one step, a connection arrives, cannot
be taken or ends, the stop is requested, which takes two steps. -/
inductive Happening
  | proceed
  | arrival (peer : String)
  | failure (fault : String)
  | departure
  | stopMarked
  | stopAnnounced
deriving DecidableEq

/-- The accept loop: its stage, the limit of connections, and the door. -/
structure AcceptLoop where
  stage : Stage
  limit : Option UInt64
  door : Door
deriving DecidableEq

namespace AcceptLoop

/-- The state that all connections share. -/
def state (l : AcceptLoop) : ServiceState := l.door.state

/-- A loop that has not begun. -/
def start (limit : Option UInt64) (state : ServiceState) : AcceptLoop :=
  ⟨.new, limit, ⟨state, none, 0⟩⟩

/-- Change the shared state. -/
def withState (l : AcceptLoop) (f : ServiceState → ServiceState) : AcceptLoop :=
  { l with door := { l.door with state := f l.door.state } }

/-- Whether connections can be made. -/
def isListening (l : AcceptLoop) : Bool :=
  match l.stage with
  | .left => false
  | _ => true

/-- The next step of the loop itself. -/
def proceed (l : AcceptLoop) : AcceptLoop :=
  match l.stage with
  | .new => { l with stage := .registered l.state.wait }
  | .registered ticket => { l with stage := if l.state.stopping then .left else .accepting ticket }
  | .accepting ticket => if ticket.isDue l.state then { l with stage := .left } else l
  | .left => l

/-- One thing that happens, and what is logged of it. -/
def step (l : AcceptLoop) : Happening → AcceptLoop × List Event
  | .proceed => (l.proceed, [])
  | .arrival peer =>
      match l.stage with
      | .accepting _ =>
          let (verdict, door) := Admission.judge l.limit l.door
          ({ l with door }, Admission.events l.limit peer verdict)
      | _ => (l, [])
  | .failure fault =>
      match l.stage with
      | .accepting _ => (l, [Notice.notAccepted fault])
      | _ => (l, [])
  | .departure =>
      match l.door.depart? with
      | some door => ({ l with door }, [])
      | none => (l, [])
  | .stopMarked => (l.withState ServiceState.markStopping, [])
  | .stopAnnounced => (l.withState ServiceState.announce, [])

/-- Everything that happens, in order. -/
def run (l : AcceptLoop) (happenings : List Happening) : AcceptLoop × List Event :=
  happenings.foldl
    (fun (l, events) h =>
      let (l, more) := l.step h
      (l, events ++ more))
    (l, [])

/-- A stop request, from its beginning to its end. -/
def stopRequest : List Happening := [.stopMarked, .stopAnnounced]

end AcceptLoop

end AssemblyGate
