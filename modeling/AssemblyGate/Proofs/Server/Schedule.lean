/-
**What can happen in a server, one step at a time.**

The accept loop looks at its flag, takes connections and hands each one over to a task of its own;
the tasks end in any order and take their connections out of the count; and others ask for the stop,
in two steps each.  The loop does one thing after another, and everything else happens between its
steps as it likes: in particular, between the moment at which a connection has counted itself and
the moment at which it is let in or sent away.

A task lives at a place in memory.  This is all that bounds the number of tasks, and it is enough to
keep the word that counts their connections from wrapping.

Main definitions:

* `AssemblyGate.Server` — the loop, the connections that it has let in and the stop requests;
* `AssemblyGate.Server.Act`, `AssemblyGate.Server.Step` — what happens, and what it changes;
* `AssemblyGate.Server.Reachable` — the states that some order of steps leads to.

Main results:

* `AssemblyGate.Server.Runs.induction` — what every step keeps is kept by all of them.
-/
import AssemblyGate.Server.AcceptLoop
import AssemblyGate.Server.Connection
import Mathlib.Data.Finset.Card
import Mathlib.Data.Fintype.Card
import Mathlib.Logic.Function.Basic
import Mathlib.Logic.Relation

set_option autoImplicit false

namespace AssemblyGate

/-- A place in memory at which a task can live.  Places are eight bytes apart at least, so there are
fewer of them than a word can count. -/
abbrev Place := Fin (twoTo 61)

/-- How far a stop request has come. -/
inductive StopCall
  | idle
  | marked
  | completed
deriving DecidableEq

/-- A server. -/
structure Server (ι : Type) where
  loop : AcceptLoop
  /-- The connections that were let in and have not taken themselves out of the count yet, by the
  places of their tasks. -/
  connections : Finset Place
  /-- How the connections have ended that are not served any more. -/
  endings : Place → Option Ending
  /-- The stop requests that may be made. -/
  calls : ι → StopCall

namespace Server

variable {ι : Type}

/-- A server that has just been set up. -/
def start (limit : Option UInt64) : Server ι :=
  ⟨AcceptLoop.start limit ServiceState.initial, ∅, fun _ => none, fun _ => .idle⟩

/-- The counter of connections. -/
def active (s : Server ι) : UInt64 := s.loop.state.active

/-- Whether a connection has counted itself and is neither let in nor sent away. -/
def isDeciding (s : Server ι) : Bool := s.loop.door.inDoor.isSome

/-- Between two connections nobody is in the door. -/
theorem inDoor_eq_none {s : Server ι} (hfree : s.isDeciding = false) :
    s.loop.door.inDoor = none := by
  simpa [isDeciding] using hfree

/-- Change the loop. -/
def withLoop (s : Server ι) (loop : AcceptLoop) : Server ι := { s with loop }

/-- Change the door. -/
def withDoor (s : Server ι) (door : Door) : Server ι := s.withLoop { s.loop with door }

/-! ### The steps -/

/-- What happens in a server. -/
inductive Act (ι : Type)
  | proceed
  | failure (fault : String)
  | arrive (peer : String)
  | settle (verdict : Verdict)
  | finish (place : Place) (ending : Ending)
  | depart (place : Place)
  | mark (call : ι)
  | announce (call : ι)

variable [DecidableEq ι]

/-- One step.  The loop goes on, or takes a connection, only when it has decided about the one
before. -/
inductive Step : Server ι → Act ι → Server ι → Prop
  | proceed {s : Server ι} : s.isDeciding = false →
      Step s .proceed (s.withLoop (s.loop.step .proceed).1)
  | failure {s : Server ι} {ticket : Ticket} (fault : String) :
      s.loop.stage = .accepting ticket → s.isDeciding = false →
      Step s (.failure fault) (s.withLoop (s.loop.step (.failure fault)).1)
  | arrive {s : Server ι} {ticket : Ticket} (peer : String) :
      s.loop.stage = .accepting ticket → s.isDeciding = false →
      Step s (.arrive peer) (s.withDoor s.loop.door.arrive)
  | letIn {s : Server ι} {door : Door} {place : Place} :
      s.loop.door.settle? s.loop.limit = some (.served, door) → place ∉ s.connections →
      Step s (.settle .served)
        { s.withDoor door with
          connections := insert place s.connections
          endings := Function.update s.endings place none }
  | sendAway {s : Server ι} {door : Door} {before : UInt64} :
      s.loop.door.settle? s.loop.limit = some (.rejected before, door) →
      Step s (.settle (.rejected before)) (s.withDoor door)
  | finish {s : Server ι} {place : Place} (ending : Ending) :
      place ∈ s.connections → s.endings place = none →
      Step s (.finish place ending)
        { s with endings := Function.update s.endings place (some ending) }
  | depart {s : Server ι} {door : Door} {place : Place} {ending : Ending} :
      place ∈ s.connections → s.endings place = some ending → s.loop.door.depart? = some door →
      Step s (.depart place) { s.withDoor door with connections := s.connections.erase place }
  | mark {s : Server ι} {call : ι} : s.calls call = .idle →
      Step s (.mark call)
        { s.withLoop (s.loop.step .stopMarked).1 with
          calls := Function.update s.calls call .marked }
  | announce {s : Server ι} {call : ι} : s.calls call = .marked →
      Step s (.announce call)
        { s.withLoop (s.loop.step .stopAnnounced).1 with
          calls := Function.update s.calls call .completed }

/-- Some step. -/
def Moves (s t : Server ι) : Prop := ∃ act, Step s act t

/-- Steps in any order. -/
abbrev Runs : Server ι → Server ι → Prop := Relation.ReflTransGen Moves

/-- The states that a server with a limit of connections can come to. -/
def Reachable (limit : Option UInt64) (s : Server ι) : Prop := Runs (start limit) s

variable {limit : Option UInt64} {s t : Server ι} {act : Act ι}

theorem Reachable.step (h : Reachable limit s) (hstep : Step s act t) : Reachable limit t :=
  Relation.ReflTransGen.tail h ⟨act, hstep⟩

/-- What every step keeps is kept by all of them. -/
theorem Runs.induction {P : Server ι → Prop} (hkept : ∀ s act t, P s → Step s act t → P t)
    (h : Runs s t) (hs : P s) : P t := by
  induction h with
  | refl => exact hs
  | tail _ hmove ih =>
      obtain ⟨act, hstep⟩ := hmove
      exact hkept _ act _ ih hstep

/-- There are fewer connections than a word can count, with one more in the door. -/
theorem card_lt_maxWord (connections : Finset Place) : connections.card < maxWord := by
  have hle : connections.card ≤ twoTo 61 := by simpa using Finset.card_le_univ connections
  have hplaces : twoTo 61 < maxWord := by decide
  omega

/-! ### Steps of the loop -/

end Server

namespace AcceptLoop

@[simp] theorem step_proceed (l : AcceptLoop) : (l.step .proceed).1 = l.proceed := rfl

@[simp] theorem step_failure (l : AcceptLoop) (fault : String) :
    (l.step (.failure fault)).1 = l := by
  cases hstage : l.stage <;> simp [step, hstage]

@[simp] theorem step_stopMarked (l : AcceptLoop) :
    (l.step .stopMarked).1 = l.withState ServiceState.markStopping := rfl

@[simp] theorem step_stopAnnounced (l : AcceptLoop) :
    (l.step .stopAnnounced).1 = l.withState ServiceState.announce := rfl

@[simp] theorem proceed_door (l : AcceptLoop) : l.proceed.door = l.door := by
  unfold proceed
  split
  · rfl
  · rfl
  · split <;> rfl
  · rfl

@[simp] theorem proceed_limit (l : AcceptLoop) : l.proceed.limit = l.limit := by
  unfold proceed
  split
  · rfl
  · rfl
  · split <;> rfl
  · rfl

end AcceptLoop

end AssemblyGate
