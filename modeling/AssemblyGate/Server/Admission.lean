/-
**Admission of connections.**

A connection that arrives counts itself first and is compared with the limit after that, so that two
arrivals cannot both take the last place.  One that finds no place takes itself out of the count
again.

Main definitions:

* `AssemblyGate.Admission.hasRoom` — whether there is a place;
* `AssemblyGate.Door` — the counter with the arrival that is being decided on;
* `AssemblyGate.Admission.judge` — the whole decision.
-/
import AssemblyGate.Journal.Notice
import AssemblyGate.Service.State

set_option autoImplicit false

namespace AssemblyGate

namespace Admission

/-- Whether one more connection finds a place when `before` are counted. -/
def hasRoom (limit : Option UInt64) (before : UInt64) : Bool :=
  match limit with
  | none => true
  | some most => before < most

end Admission

/-- What is decided about a connection. -/
inductive Verdict
  | served
  | rejected (before : UInt64)
deriving DecidableEq

/-- The door of a server: the state that all connections share, the count that the connection in the
door found, and the number of those that were let in and are still there. -/
structure Door where
  state : ServiceState
  inDoor : Option UInt64
  inside : Nat
deriving DecidableEq

namespace Door

/-- A connection comes to the door and counts itself. -/
def arrive (d : Door) : Door :=
  match d.inDoor with
  | some _ => d
  | none => { d with state := d.state.enter, inDoor := some d.state.active }

/-- The connection in the door is let in or sent away. -/
def settle? (limit : Option UInt64) (d : Door) : Option (Verdict × Door) :=
  match d.inDoor with
  | none => none
  | some before =>
      if Admission.hasRoom limit before then
        some (.served, { d with inDoor := none, inside := d.inside + 1 })
      else some (.rejected before, { d with state := d.state.leave, inDoor := none })

/-- A connection inside ends and takes itself out of the count. -/
def depart? (d : Door) : Option Door :=
  match d.inside with
  | 0 => none
  | n + 1 => some { d with state := d.state.leave, inside := n }

end Door

namespace Admission

/-- Decide about a connection that comes to a door with nobody in it. -/
def judge (limit : Option UInt64) (d : Door) : Verdict × Door :=
  match d.arrive.settle? limit with
  | some decided => decided
  | none => (.rejected d.state.active, d)

/-- What is logged about a decision. -/
def events (limit : Option UInt64) (peer : String) : Verdict → List Event
  | .served => [Notice.accepted peer]
  | .rejected before =>
      match limit with
      | some most => [Notice.rejected before.toNat most.toNat peer]
      | none => []

end Admission

end AssemblyGate
