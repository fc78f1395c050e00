/-
**Responses.**

A response is drafted as a status, headers and a body, and then made into a response that can be
sent.  A status is one of the protocol wherever a draft is made; the step refuses a header that is no
header.  A refused draft is logged and answered by a bare response in its place.

Main definitions:

* `AssemblyGate.Response`, `AssemblyGate.Draft` — a response, and a draft of one;
* `AssemblyGate.Draft.finish` — the response of a draft;
* `AssemblyGate.Response.withCommonHeaders` — the headers that every response of the service bears;
* `AssemblyGate.Answer` — a response together with what is logged while it is made.
-/
import AssemblyGate.Journal.Event
import AssemblyGate.Json.Printer
import AssemblyGate.Text.Utf8

set_option autoImplicit false

namespace AssemblyGate

/-- A header: its name in lower case and the bytes of its value. -/
abbrev Header := String × Bytes

/-- A response that can be sent. -/
structure Response where
  status : Nat
  headers : List Header
  body : Bytes
deriving DecidableEq

/-- A response, and the events of its making. -/
structure Answer where
  response : Response
  events : List Event

/-- The bytes of a text. -/
def bytesOf (s : String) : Bytes := Utf8.encode s.toList

/-! ### Headers -/

/-- Whether a byte may stand in the value of a header. -/
def isHeaderByte (b : UInt8) : Bool := b == 0x09 || (0x20 ≤ b && b != 0x7f)

/-- Whether a character may stand in the name of a header, in lower case. -/
def isNameChar (c : Char) : Bool :=
  ('a' ≤ c && c ≤ 'z') || ('0' ≤ c && c ≤ '9') || "!#$%&'*+-.^_\x60|~".toList.contains c

/-- Give a header a value, in place of any it had. -/
def setHeader (headers : List Header) (name : String) (value : Bytes) : List Header :=
  headers.filter (fun h => h.1 != name) ++ [(name, value)]

/-- The first value of a header. -/
def header? (headers : List Header) (name : String) : Option Bytes :=
  (headers.find? (fun h => h.1 == name)).map (·.2)

/-! ### Drafts -/

/-- A response that is being put together. -/
structure Draft where
  status : Nat
  headers : List (String × String)
  body : Bytes
  /-- What a bare response in its place holds. -/
  spare : Bytes

/-- Why a draft cannot be sent. -/
inductive DraftError
  | badHeaderName
  | badHeaderValue
deriving DecidableEq

/-- The text of a refusal. -/
def DraftError.message : DraftError → String
  | .badHeaderName => "invalid HTTP header name"
  | .badHeaderValue => "failed to parse header value"

namespace Draft

/-- The first thing wrong with the headers of a draft. -/
def headerError? : List (String × String) → Option DraftError
  | [] => none
  | (name, value) :: rest =>
      if name.isEmpty || !name.toList.all isNameChar then some .badHeaderName
      else if !(bytesOf value).all isHeaderByte then some .badHeaderValue
      else headerError? rest

/-- The response of a draft, if it can be sent. -/
def toResponse (d : Draft) : Except DraftError Response :=
  match headerError? d.headers with
  | some e => .error e
  | none => .ok ⟨d.status, d.headers.map fun h => (h.1, bytesOf h.2), d.body⟩

/-- The response of a draft.  One that cannot be sent is logged under `label`, and a bare response
takes its place. -/
def finish (d : Draft) (label : String) : Answer :=
  match d.toResponse with
  | .ok response => ⟨response, []⟩
  | .error e =>
      ⟨⟨200, [], d.spare⟩, [.note .error ("Failed to build " ++ label ++ " response: " ++
        e.message)]⟩

end Draft

/-! ### Common headers -/

/-- What every response of the service is marked with. -/
structure Signature where
  serverName : String
  enableCors : Bool

namespace Response

/-- Add the name of the server, where it can stand in a header, and the permission for pages of
every origin, where that is enabled. -/
def withCommonHeaders (r : Response) (s : Signature) : Response :=
  let name := bytesOf s.serverName
  let headers := if name.all isHeaderByte then setHeader r.headers "server" name else r.headers
  let headers :=
    if s.enableCors then setHeader headers "access-control-allow-origin" (bytesOf "*") else headers
  { r with headers }

end Response

end AssemblyGate
