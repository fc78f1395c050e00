/-
**A machine as the platform of the program.**

Everything that the program asks for is done by one machine.  Its network has one end only: it can
be listened at, but nothing can be reached.
-/
import AssemblyGate.Posix.Process
import AssemblyGate.Server.Program

set_option autoImplicit false

namespace AssemblyGate

/-- The address is none of this machine. -/
def Errno.notLocal : Errno := 99

/-- No way leads to the address. -/
def Errno.unreachable : Errno := 101

namespace Machine

/-- Whether a machine can be listened at under an address.  Under the newer protocol it has no
address of its own, so that only the one that stands for all of them will do. -/
def isLocal : SocketAddress → Bool
  | .v4 .. => true
  | .v6 ip .. => ip.groups.all (· == 0)

/-- Listen at an address. -/
def listen (address : SocketAddress) (m : Machine) : Except Fault Machine :=
  if isLocal address then .ok m else .error (.os Errno.notLocal)

/-- Connect to an address.  Nothing can be reached. -/
def connect (_ : SocketAddress) (_ : Machine) : Except Fault Unit := .error (.os Errno.unreachable)

/-- Put a variable in its place among others, by name. -/
def insertVariable (entry : String × String) : List (String × String) → List (String × String)
  | [] => [entry]
  | other :: rest =>
      if entry.1 < other.1 then entry :: other :: rest else other :: insertVariable entry rest

/-- The environment in the order of the names. -/
def sortedEnvironment (m : Machine) : List (String × String) :=
  m.environment.foldl (fun done entry => insertVariable entry done) []

/-- A machine as the platform of the program. -/
def platform : Platform Machine :=
  { host := host
    logFiles := logFiles
    recorder := recorder
    fileView := fileView
    environment := sortedEnvironment
    listen := listen
    handle := fun _ => .ok ()
    process := fun _ => "1"
    clock := fun m => m.clock }

end Machine

end AssemblyGate
