/-
**The validation of a source.**

A declared length over the limit is refused before the body is read; a length that cannot be read is
logged and passed over.  Then the body is read within the same limit, the source is taken out of it,
and the assembler is run.  A source that the assembler rejects is an ordinary result.

Main definitions:

* `AssemblyGate.Validation.declared` — what the declared length means for the request;
* `AssemblyGate.Validation.validate` — the answer to a submission.
-/
import AssemblyGate.Assembler.Run
import AssemblyGate.Http.Answers
import AssemblyGate.Http.Request
import AssemblyGate.Service.Submission

set_option autoImplicit false

namespace AssemblyGate

/-- An answer that tells what became of the source, if it was assembled, and the condition the
machine is left in. -/
structure Reply (σ : Type) where
  response : Response
  compiled : Option Bool
  events : List Event
  state : σ

/-- An answer that never touched the machine. -/
def Reply.ofAnswer {σ : Type} (answer : Answer) (s : σ) : Reply σ :=
  ⟨answer.response, none, answer.events, s⟩

/-- The same reply with events before its own. -/
def Reply.after {σ : Type} (events : List Event) (r : Reply σ) : Reply σ :=
  { r with events := events ++ r.events }

namespace Validation

/-- What a declared length means for a request: nothing, something to log, or too much. -/
inductive Declared
  | fits
  | odd (note : String)
  | over (size : Nat)
deriving DecidableEq

/-- The meaning of the length that a request declares. -/
def declared (limit : Nat) (r : Request) : Declared :=
  match r.header? "content-length" with
  | none => .fits
  | some value =>
      match headerText? value with
      | none => .odd "Content-Length header contains non-ASCII characters"
      | some text =>
          match Numeral.word? text.toList with
          | none => .odd ("Invalid Content-Length value: '" ++ text ++ "', skipping size check")
          | some size => if limit < size then .over size else .fits

/-- What is logged of a declared length. -/
def declaredEvents (limit : Nat) : Declared → List Event
  | .fits => []
  | .odd note => [.note .warn note]
  | .over size =>
      [.note .warn
        ("Request body too large: " ++ toString size ++ " bytes (max: " ++ toString limit ++ ")")]

/-- What is logged of a body that was not read. -/
def bodyEvent (limit : Nat) : BodyError → Event
  | .overLimit => .note .warn ("Request body exceeded " ++ toString limit ++ " bytes")
  | .failed message => .note .warn ("Failed to read request body: " ++ message)

/-- What is logged of a source that was not assembled. -/
def errorEvent (e : AssembleError) : Event :=
  if 500 ≤ e.status then .note .error ("Assembly failed: " ++ e.message)
  else .note .warn ("Assembly rejected: " ++ e.message)

variable {σ : Type}

/-- The answer to what an assembly came to. -/
def answerOf : Except AssembleError Outcome → Answer × Option Bool
  | .ok outcome => (Answer.result 200 outcome.accepted outcome.message, some outcome.accepted)
  | .error e =>
      let answer := Answer.error e.status e.publicReason
      ({ answer with events := errorEvent e :: answer.events }, none)

/-- Assemble a source and answer. -/
def assembleReply (host : Host σ) (a : AssemblerSettings) (source : String) (s : σ) : Reply σ :=
  let done := Assembler.assemble host a source s
  let (answer, compiled) := answerOf done.outcome
  ⟨answer.response, compiled, done.events ++ answer.events, done.state⟩

/-- The answer to a body that has been read. -/
def bodyReply (host : Host σ) (a : AssemblerSettings) (body : Bytes) (s : σ) : Reply σ :=
  match sourceOf? body with
  | none => Reply.ofAnswer (Answer.empty 400) s
  | some source => assembleReply host a source s

/-- The answer to a submission whose declared length is no obstacle. -/
def framesReply (host : Host σ) (settings : Settings) (frames : List Frame) (s : σ) : Reply σ :=
  let limit := settings.http.maxBodySize.toNat
  match Body.collect limit frames with
  | .error .overLimit => (Reply.ofAnswer Answer.tooLarge s).after [bodyEvent limit .overLimit]
  | .error (.failed message) =>
      (Reply.ofAnswer (Answer.empty 400) s).after [bodyEvent limit (.failed message)]
  | .ok body => bodyReply host settings.assembler body s

/-- The answer to a submission. -/
def validate (host : Host σ) (settings : Settings) (r : Request) (s : σ) : Reply σ :=
  let limit := settings.http.maxBodySize.toNat
  let length := declared limit r
  (match length with
    | .over _ => Reply.ofAnswer Answer.tooLarge s
    | _ => framesReply host settings r.frames s).after (declaredEvents limit length)

end Validation

end AssemblyGate
