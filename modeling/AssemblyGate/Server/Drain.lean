/-
**Draining.**

A server that takes no more connections waits for those that are left, for a limited time.  It looks
at the counter, then at the clock, sleeps and looks again; in the end it reports what the counter
says by then.

Main definitions:

* `AssemblyGate.Drain.deadline?` — the time to which it waits;
* `AssemblyGate.Drain.wait` — the wait, from what is read at each look;
* `AssemblyGate.Drain.events` — what is logged.
-/
import AssemblyGate.Journal.Notice

set_option autoImplicit false

namespace AssemblyGate.Drain

/-- The milliseconds between two looks. -/
def pause : Nat := 50

/-- The seconds that the clock can count. -/
def maxSeconds : Nat := twoTo 63 - 1

/-- The time to which a server waits, in milliseconds, if the clock can count so far. -/
def deadline? (now graceSeconds : Nat) : Option Nat :=
  if now / 1000 + graceSeconds ≤ maxSeconds then some (now + graceSeconds * 1000) else none

/-- A wait that has ended: how often the server slept, and how many connections were left. -/
structure Result where
  sleeps : Nat
  remaining : Nat
deriving DecidableEq

/-- What a wait comes to: an end, no end, or a deadline that the clock cannot count to. -/
inductive Course
  | ended (result : Result)
  | endless
  | overflow
deriving DecidableEq

/-- Wait, after a number of sleeps.  `counter n` is the counter at look `n`, and `clock n` the time
at this look. -/
def waitFrom (counter clock : Nat → Nat) (deadline : Nat) : Nat → Nat → Course
  | 0, _ => .endless
  | room + 1, n =>
      if 0 < counter n ∧ clock n < deadline then waitFrom counter clock deadline room (n + 1)
      else .ended ⟨n, counter (n + 1)⟩

/-- The looks that are made at most during a grace period. -/
def looks (graceSeconds : Nat) : Nat := graceSeconds * 1000 / pause + 1

/-- Wait for the connections that are left. -/
def wait (counter clock : Nat → Nat) (graceSeconds : Nat) : Course :=
  match deadline? (clock 0) graceSeconds with
  | none => .overflow
  | some deadline => waitFrom counter clock deadline (looks graceSeconds) 0

/-- What is logged of a wait. -/
def events (active : Nat) : Course → List Event
  | .ended result => [Notice.draining active, Notice.drained result.remaining]
  | .endless | .overflow => [Notice.draining active]

end AssemblyGate.Drain
