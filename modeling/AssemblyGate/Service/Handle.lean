/-
**Requests and their answers.**

The probes come first, whatever the method: the one that tells that the service runs, then the one
that tells that the assembler is there.  The validation route takes a submission by one method and
explains itself by another.  Everything else is not found.  Every response bears the common headers,
and where access is logged every request has one line.

Main definitions:

* `AssemblyGate.Service.route` — the answer that a request's path and method lead to;
* `AssemblyGate.Service.handle` — the whole answer.
-/
import AssemblyGate.Assembler.Availability
import AssemblyGate.Journal.AccessEntry
import AssemblyGate.Service.Validation

set_option autoImplicit false

namespace AssemblyGate.Service

/-- The validation route. -/
def validatePath : String := "/assembly/validate/"

/-- The validation route without the slash at its end. -/
def barePath : String := "/assembly/validate"

/-- Whether a path is the validation route. -/
def isValidatePath (path : String) : Bool := path = validatePath || path = barePath

/-- What is logged when the assembler is not found. -/
def unavailableEvent (binary : String) : Event :=
  .note .warn ("Readiness check failed: assembler '" ++ binary ++ "' not found")

variable {σ : Type}

/-- The answer of the probe that tells whether the assembler is there. -/
def readiness (host : Host σ) (binary : String) (s : σ) : Reply σ :=
  if Assembler.isAvailable host binary s then Reply.ofAnswer (Answer.health 200 "ok") s
  else
    (Reply.ofAnswer (Answer.health 503 "assembler unavailable") s).after [unavailableEvent binary]

/-- The answer that a request's path and method lead to. -/
def route (host : Host σ) (settings : Settings) (r : Request) (s : σ) : Reply σ :=
  let path := r.target.path
  let health := settings.health
  if health.enabled && path = health.livenessPath then Reply.ofAnswer (Answer.health 200 "ok") s
  else if health.enabled && path = health.readinessPath then
    readiness host settings.assembler.binary s
  else if !isValidatePath path then Reply.ofAnswer Answer.notFound s
  else if r.method = "POST" then Validation.validate host settings r s
  else if r.method = "OPTIONS" then Reply.ofAnswer (Answer.preflight settings.http.enableCors) s
  else
    (Reply.ofAnswer Answer.methodNotAllowed s).after
      [.note .warn ("Method not allowed: " ++ r.method)]

/-- When a request was answered, and how long that took. -/
structure Timing where
  began : Stamp
  micros : Nat

/-- The access log entry of a request and its response. -/
def accessEntry (timing : Timing) (r : Request) (response : Response) (compiled : Option Bool) :
    AccessEntry :=
  { peer := r.peer.render
    time := timing.began
    method := r.method
    path := r.target.path
    version := r.version
    status := response.status
    bodyBytes := response.body.length
    agent := r.textHeader? "user-agent"
    compiled := compiled
    micros := timing.micros }

/-- The access line of a request, if access is logged. -/
def accessEvents (logging : LoggingSettings) (entry : AccessEntry) : List Event :=
  if logging.accessLog then [.access (entry.render (AccessFormat.ofName logging.accessLogFormat))]
  else []

/-- The whole answer to a request. -/
def handle (host : Host σ) (settings : Settings) (timing : Timing) (r : Request) (s : σ) : Reply σ :=
  let reply := route host settings r s
  let response :=
    reply.response.withCommonHeaders ⟨settings.http.serverName, settings.http.enableCors⟩
  let entry := accessEntry timing r response reply.compiled
  { reply with response, events := reply.events ++ accessEvents settings.logging entry }

end AssemblyGate.Service
