/-
**Access log entries.**

One entry describes one answered request.  It is written in one of three formats: the common one,
the combined one, which adds the client's name for itself and the time taken, or as a JSON object.

Main definitions:

* `AssemblyGate.AccessEntry` — the entry;
* `AssemblyGate.AccessFormat` — the formats; a name that is not known means the combined one;
* `AssemblyGate.AccessEntry.render` — the line of an entry in a format.
-/
import AssemblyGate.Json.Printer
import AssemblyGate.Time.Stamp

set_option autoImplicit false

namespace AssemblyGate

/-- What the access log keeps of a request and its answer. -/
structure AccessEntry where
  peer : String
  time : Stamp
  method : String
  path : String
  version : String
  status : Nat
  bodyBytes : Nat
  agent : Option String
  compiled : Option Bool
  micros : Nat

/-- How an entry is written. -/
inductive AccessFormat
  | common
  | combined
  | json
deriving DecidableEq

/-- The format of a name. -/
def AccessFormat.ofName (name : String) : AccessFormat :=
  if name = "common" then .common else if name = "json" then .json else .combined

namespace AccessEntry

/-- The common format. -/
def commonLine (e : AccessEntry) : List Char :=
  e.peer.toList ++ " - - [".toList ++ e.time.logForm ++ "] \"".toList ++ e.method.toList ++ ' ' ::
    e.path.toList ++ " HTTP/".toList ++ e.version.toList ++ "\" ".toList
    ++ Nat.toDigits 10 e.status ++ ' ' :: Nat.toDigits 10 e.bodyBytes

/-- The combined format. -/
def combinedLine (e : AccessEntry) : List Char :=
  e.commonLine ++ " \"-\" \"".toList ++ (e.agent.getD "-").toList ++ "\" ".toList
    ++ Nat.toDigits 10 e.micros ++ "us".toList

/-- The entry as a JSON object. -/
def toJson (e : AccessEntry) : Json :=
  .object
    [("remote_addr", .text e.peer),
      ("time", .text (String.ofList e.time.internetForm)),
      ("method", .text e.method),
      ("path", .text e.path),
      ("http_version", .text e.version),
      ("status", .number (.whole e.status)),
      ("body_bytes", .number (.whole e.bodyBytes)),
      ("user_agent", (e.agent.map Json.text).getD .null),
      ("compiled", (e.compiled.map Json.bool).getD .null),
      ("request_time_us", .number (.whole e.micros))]

/-- The characters of an entry's line. -/
def renderChars (e : AccessEntry) : AccessFormat → List Char
  | .common => e.commonLine
  | .combined => e.combinedLine
  | .json => e.toJson.render

/-- The line of an entry. -/
def render (e : AccessEntry) (format : AccessFormat) : String := String.ofList (e.renderChars format)

end AccessEntry

end AssemblyGate
