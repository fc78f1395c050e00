/-
**What a client submits.**

A submission is a JSON object with a text member `assembly`; everything else in it is ignored.
-/
import AssemblyGate.Json.Reader

set_option autoImplicit false

namespace AssemblyGate

/-- The source of a submission, or nothing for a body that is no submission. -/
def sourceOf? (body : Bytes) : Option String :=
  match Json.parse? body with
  | some value =>
      match value.lookup "assembly" with
      | some (.text source) => some source
      | _ => none
  | none => none

end AssemblyGate
