/-
**The shared state of the service.**

Every connection sees one state: how many connections are being served, whether the service is
stopping, and how often those who wait for the stop have been told.  The counter is a word and
wraps.  A waiter holds a ticket, the number of announcements made before it began to wait; it is
told when another announcement is made.

Main definitions:

* `AssemblyGate.ServiceState` — the state;
* `AssemblyGate.ServiceState.requestStop` — stop, and tell the waiters;
* `AssemblyGate.Ticket.isDue` — whether a waiter has been told.
-/

set_option autoImplicit false

namespace AssemblyGate

/-- What the connections share. -/
structure ServiceState where
  active : UInt64
  stopping : Bool
  announcements : Nat
deriving DecidableEq

/-- The announcements made before someone began to wait. -/
structure Ticket where
  seen : Nat
deriving DecidableEq

namespace ServiceState

/-- A service that has just been set up. -/
def initial : ServiceState := ⟨0, false, 0⟩

/-- Count a connection. -/
def enter (s : ServiceState) : ServiceState := { s with active := s.active + 1 }

/-- Take a connection out of the count. -/
def leave (s : ServiceState) : ServiceState := { s with active := s.active - 1 }

/-- Begin to wait for the stop. -/
def wait (s : ServiceState) : Ticket := ⟨s.announcements⟩

/-- Note that the service is stopping. -/
def markStopping (s : ServiceState) : ServiceState := { s with stopping := true }

/-- Tell everyone who is waiting. -/
def announce (s : ServiceState) : ServiceState := { s with announcements := s.announcements + 1 }

/-- Stop the service. -/
def requestStop (s : ServiceState) : ServiceState := s.markStopping.announce

end ServiceState

/-- Whether an announcement was made since the waiter began to wait. -/
def Ticket.isDue (t : Ticket) (s : ServiceState) : Bool := t.seen < s.announcements

end AssemblyGate
