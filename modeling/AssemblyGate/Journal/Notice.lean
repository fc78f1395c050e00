/-
**What a server logs about itself.**

The report at its start, the connections it takes and loses, and the stages of its end.

Main definitions:

* `AssemblyGate.Notice.started` — the report at the start;
* `AssemblyGate.Notice.draining`, `AssemblyGate.Notice.drained` — the stages of the end.
-/
import AssemblyGate.Journal.Event
import AssemblyGate.Settings.Basic

set_option autoImplicit false

namespace AssemblyGate.Notice

/-- The line above and below the report. -/
def rule : String := "======================================"

/-- The lines of the report at the start, for a server that listens on an address. -/
def startLines (address : String) (s : Settings) : List String :=
  [rule, "Assembly validator started", "Listening on: http://" ++ address,
    "Validate: POST http://" ++ address ++ "/assembly/validate/",
    "Assembler: " ++ s.assembler.binary ++ " " ++ String.intercalate " " s.assembler.flags,
    "Assembler timeout: " ++ toString s.assembler.timeoutMs.toNat ++ " ms",
    "Log level: " ++ s.logging.level]
  ++ (s.server.workers.map fun n => "Worker threads: " ++ toString n.toNat).toList
  ++ (s.logging.accessLogFile.map fun path => "Access log: " ++ path).toList
  ++ (s.logging.errorLogFile.map fun path => "Error log: " ++ path).toList
  ++ [rule ++ "\n"]

/-- The report at the start. -/
def started (address : String) (s : Settings) : List Event :=
  (startLines address s).map (Event.note .info)

/-- A connection was taken. -/
def accepted (peer : String) : Event := .note .debug ("[Connection] Accepted from: " ++ peer)

/-- A connection was refused because there are too many. -/
def rejected (before limit : Nat) (peer : String) : Event :=
  .note .warn
    ("Max connections reached: " ++ toString before ++ "/" ++ toString limit ++ ". Connection from "
      ++ peer ++ " rejected.")

/-- No connection could be taken. -/
def notAccepted (fault : String) : Event := .note .error ("Failed to accept connection: " ++ fault)

/-- A connection broke. -/
def broken (cause : String) : Event := .note .error ("Failed to serve connection: " ++ cause)

/-- A connection lasted too long. -/
def timedOut (peer : String) (seconds : Nat) : Event :=
  .note .warn ("Connection from " ++ peer ++ " timed out after " ++ toString seconds ++ " seconds")

/-- The assembler was not found when the server started. -/
def assemblerMissing (binary : String) : Event :=
  .note .warn
    ("Assembler '" ++ binary ++ "' not found; validation requests will fail until it is installed")

/-- The server waits for signals. -/
def watching (process : String) : Event :=
  .note .info ("[SIGNAL] Handlers registered (SIGTERM, SIGINT), pid " ++ process)

/-- The server cannot wait for signals. -/
def notWatching (fault : String) : Event :=
  .note .error ("Failed to register signal handlers: " ++ fault)

/-- A signal came. -/
def signalled (name : String) : Event :=
  .note .info ("[SIGNAL] " ++ name ++ " received, shutting down")

/-- The server takes no more connections. -/
def draining (active : Nat) : Event :=
  .note .info
    ("[Shutdown] Stopped accepting connections, " ++ toString active ++ " still active")

/-- The server has ended, with some connections left open or none. -/
def drained (remaining : Nat) : Event :=
  if remaining = 0 then .note .info "[Shutdown] All connections closed, exiting"
  else
    .note .warn
      ("[Shutdown] Grace period elapsed with " ++ toString remaining ++ " connections still open")

end AssemblyGate.Notice
