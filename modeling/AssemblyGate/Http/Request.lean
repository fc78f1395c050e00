/-
**Requests.**

A request is a method, a target, a version, headers and the frames of its body.  A target is a path
with an optional query, the same after a scheme and an authority, an authority alone, or an
asterisk.

Main definitions:

* `AssemblyGate.Target.ofString` — the target that a text stands for;
* `AssemblyGate.Frame`, `AssemblyGate.Request` — a piece of a body, and a request;
* `AssemblyGate.Request.textHeader?` — the first value of a header, if it is readable as text;
* `AssemblyGate.Body.collect` — the body within a limit.
-/
import AssemblyGate.Http.Response
import AssemblyGate.Net.Address

set_option autoImplicit false

namespace AssemblyGate

/-! ### Targets -/

/-- What a request is about. -/
structure Target where
  authority : Option String
  path : String
  query : Option String
deriving DecidableEq

namespace Target

/-- A path and its query. -/
def ofPathAndQuery (authority : Option String) (text : List Char) : Target :=
  let path := text.takeWhile (· ≠ '?')
  let query := match text.dropWhile (· ≠ '?') with
    | _ :: rest => some (String.ofList rest)
    | [] => none
  ⟨authority, if path.isEmpty then "/" else String.ofList path, query⟩

/-- What follows the scheme at the front of a text. -/
def afterScheme? : List Char → Option (List Char)
  | ':' :: '/' :: '/' :: rest => some rest
  | c :: rest =>
      if c.isAlphanum || c = '+' || c = '-' || c = '.' then afterScheme? rest else none
  | [] => none

/-- Whether a character ends an authority. -/
def endsAuthority (c : Char) : Bool := c = '/' || c = '?'

/-- The target that a text stands for.  A fragment at its end does not count. -/
def ofString (text : String) : Target :=
  let chars := text.toList.takeWhile (· ≠ '#')
  if chars = ['*'] then ⟨none, "*", none⟩
  else if chars.head? = some '/' then ofPathAndQuery none chars
  else
    match afterScheme? chars with
    | some rest =>
        ofPathAndQuery (some (String.ofList (rest.takeWhile fun c => !endsAuthority c)))
          (rest.dropWhile fun c => !endsAuthority c)
    | none => ⟨some (String.ofList chars), "", none⟩

end Target

/-! ### Bodies -/

/-- A piece of a body: data, trailers, or a failure to read on. -/
inductive Frame
  | data (bytes : Bytes)
  | trailers (headers : List Header)
  | failed (message : String)

/-- Why a body was not read. -/
inductive BodyError
  | overLimit
  | failed (message : String)
deriving DecidableEq

namespace Body

/-- Read frames as long as the data fits into what is left of the limit; `done` has been read, last
piece first. -/
def collectFrom (left : Nat) (done : List Bytes) : List Frame → Except BodyError Bytes
  | [] => .ok done.reverse.flatten
  | .data bytes :: rest =>
      if left < bytes.length then .error .overLimit
      else collectFrom (left - bytes.length) (bytes :: done) rest
  | .trailers _ :: rest => collectFrom left done rest
  | .failed message :: _ => .error (.failed message)

/-- The data of a body of at most `limit` bytes. -/
def collect (limit : Nat) (frames : List Frame) : Except BodyError Bytes := collectFrom limit [] frames

end Body

/-! ### Requests -/

/-- A request as it reaches the service. -/
structure Request where
  method : String
  target : Target
  version : String
  headers : List Header
  frames : List Frame
  peer : SocketAddress

/-- Whether a byte is a visible character of ASCII, a space or a tab. -/
def isTextByte (b : UInt8) : Bool := b == 0x09 || (0x20 ≤ b && b < 0x7f)

/-- The text of a header's value, if all of it is visible. -/
def headerText? (value : Bytes) : Option String :=
  if value.all isTextByte then some (String.ofList (value.map fun b => Char.ofNat b.toNat)) else none

namespace Request

/-- The first value of a header. -/
def header? (r : Request) (name : String) : Option Bytes := AssemblyGate.header? r.headers name

/-- The first value of a header, if it is readable as text. -/
def textHeader? (r : Request) (name : String) : Option String := (r.header? name).bind headerText?

end Request

end AssemblyGate
