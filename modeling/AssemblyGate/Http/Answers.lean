/-
**The answers of the service.**

One builder for each kind of answer that the service gives: results and errors as JSON, plain
answers for what is not found, not allowed or too large, empty ones, the answer to a preflight
request, and the answers of the health probes.  If one could not be sent, a bare response would hold
its text, where that is plain, and nothing otherwise.
-/
import AssemblyGate.Http.Response

set_option autoImplicit false

namespace AssemblyGate.Answer

/-- The methods that the validation route takes. -/
def allowedMethods : String := "POST, OPTIONS"

/-- Why a value has no JSON form. -/
inductive Unwritable
  | keyNotText
deriving DecidableEq

/-- The text of a refusal to write a value. -/
def Unwritable.message : Unwritable → String
  | .keyNotText => "key must be a string"

/-- A draft with a JSON body. -/
def jsonDraft (status : Nat) (value : Json) : Draft :=
  ⟨status, [("content-type", "application/json")], Utf8.encode value.render, []⟩

/-- A draft with a JSON body is sent as it is, and nothing is logged. -/
theorem finish_jsonDraft (status : Nat) (value : Json) (label : String) :
    (jsonDraft status value).finish label =
      ⟨⟨status, [("content-type", bytesOf "application/json")], Utf8.encode value.render⟩, []⟩ := by
  have hheaders : Draft.headerError? [("content-type", "application/json")] = none := by decide
  simp only [Draft.finish, Draft.toResponse, jsonDraft, hheaders, List.map_cons, List.map_nil]

/-- The object by which an error is told to a client. -/
def errorObject (reason : String) : Json := .object [("error", .text reason)]

/-- An error with a reason that is fit for clients. -/
def error (status : Nat) (reason : String) : Answer :=
  (jsonDraft status (errorObject reason)).finish (toString status)

/-- A value as JSON.  A value without a JSON form is logged and answered as an error. -/
def json (status : Nat) (value : Except Unwritable Json) : Answer :=
  match value with
  | .ok value => (jsonDraft status value).finish (toString status)
  | .error e =>
      let answer := error 500 "response serialization failed"
      { answer with
        events := .note .error ("Failed to serialize response: " ++ e.message) :: answer.events }

/-- The object that tells whether a source was accepted, and the assembler's words. -/
def resultObject (compiled : Bool) (message : String) : Json :=
  .object [("compiled", .bool compiled), ("message", .text message)]

/-- The outcome of an assembly. -/
def result (status : Nat) (compiled : Bool) (message : String) : Answer :=
  json status (.ok (resultObject compiled message))

/-- A status without a body. -/
def empty (status : Nat) : Answer := (Draft.mk status [] [] []).finish (toString status)

/-- A plain text for a status. -/
def plain (status : Nat) (headers : List (String × String)) (text : String) : Answer :=
  (Draft.mk status (("content-type", "text/plain") :: headers) (bytesOf text)
    (bytesOf text)).finish (toString status)

/-- There is nothing at this path. -/
def notFound : Answer := plain 404 [] "404 Not Found"

/-- The path does not take this method. -/
def methodNotAllowed : Answer :=
  plain 405 [("allow", allowedMethods)] "405 Method Not Allowed"

/-- The body is over the limit. -/
def tooLarge : Answer := plain 413 [] "413 Payload Too Large"

/-- The answer to a preflight request, with the permissions that pages of other origins ask for
where those are enabled. -/
def preflight (enableCors : Bool) : Answer :=
  let permissions :=
    if enableCors then
      [("access-control-allow-methods", allowedMethods),
        ("access-control-allow-headers", "Content-Type"),
        ("access-control-max-age", "86400")]
    else []
  (Draft.mk 204 (("allow", allowedMethods) :: permissions) [] []).finish "OPTIONS"

/-- The answer of a health probe. -/
def health (status : Nat) (text : String) : Answer :=
  plain status [("cache-control", "no-store")] text

end AssemblyGate.Answer
