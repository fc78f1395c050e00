/-
**What is logged, and where it goes.**

A part of the service that has something to say returns events.  A journal decides which of them are
written and to which of its two sinks: access lines, information and debugging to the one, warnings
and errors to the other.  Access lines are written at every threshold.

Main definitions:

* `AssemblyGate.Event` — a message with its level, or an access line;
* `AssemblyGate.Journal` — a threshold and two sinks;
* `AssemblyGate.Journal.route` — the sink and the line of an event that is written.

Main results:

* `AssemblyGate.Journal.route_isSome` — an event is written exactly when it is admitted.
-/
import AssemblyGate.Journal.Level

set_option autoImplicit false

namespace AssemblyGate

/-- Something to be logged. -/
inductive Event
  | note (level : Level) (message : String)
  | access (line : String)
deriving DecidableEq

namespace Event

/-- What stands in front of a message of a level. -/
def mark : Level → String
  | .debug => "[DEBUG] "
  | .info => ""
  | .warn => "[WARN] "
  | .error => "[ERROR] "

/-- The line of an event, without its end. -/
def line : Event → String
  | .note level message => mark level ++ message
  | .access line => line

end Event

/-- A place that lines are written to. -/
inductive Sink
  | stdout
  | stderr
  | file (node : Nat)
deriving DecidableEq

/-- A threshold, and the sinks of the two kinds of lines. -/
structure Journal where
  threshold : Level
  access : Sink
  errors : Sink
deriving DecidableEq

namespace Journal

/-- The journal of a service that has not set one up. -/
def standard : Journal := ⟨.info, .stdout, .stderr⟩

/-- Whether messages of a level are written. -/
def enabled (j : Journal) (level : Level) : Bool := decide (j.threshold ≤ level)

/-- Whether an event is written. -/
def admits (j : Journal) : Event → Bool
  | .note level _ => j.enabled level
  | .access _ => true

/-- The sink of an event. -/
def sink (j : Journal) : Event → Sink
  | .note .debug _ | .note .info _ | .access _ => j.access
  | .note .warn _ | .note .error _ => j.errors

/-- The sink and the line of an event, if it is written at all. -/
def route (j : Journal) (e : Event) : Option (Sink × String) :=
  if j.admits e then some (j.sink e, e.line) else none

theorem route_isSome (j : Journal) (e : Event) : (j.route e).isSome = j.admits e := by
  unfold route; split <;> simp_all

end Journal

end AssemblyGate
