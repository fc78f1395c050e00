/-
**Outcomes of an assembly.**

An outcome tells whether the assembler accepted the source, and what it said.  A source that was
rejected without a visible word gets a message about the way the assembler ended, so no message is
blank.

Main results:

* `AssemblyGate.Outcome.ofEnd_accepted` — a source is accepted exactly when the assembler ended
  well.
-/
import AssemblyGate.Host.Basic
import AssemblyGate.Text.Blank

set_option autoImplicit false

namespace AssemblyGate

/-- What an assembly came to. -/
structure Outcome where
  accepted : Bool
  message : String
deriving DecidableEq

namespace Outcome

/-- What the message of an accepted source begins with. -/
def successNote : String := "Compilation successful."

/-- What is said of an assembler that ended without a word. -/
def silentEnd : ExitStatus → String
  | .exited code => "Assembler exited with status " ++ toString code
  | .signalled _ => "Assembler terminated by a signal"

/-- The outcome of an assembler that ended in the given way and said the given words. -/
def ofEnd (status : ExitStatus) (words : List Char) : Outcome :=
  if status.isSuccess then ⟨true, successNote ++ String.ofList words⟩
  else if isBlank words then ⟨false, silentEnd status⟩
  else ⟨false, String.ofList words⟩

/-- A source is accepted exactly when the assembler ended well. -/
theorem ofEnd_accepted (status : ExitStatus) (words : List Char) :
    (ofEnd status words).accepted = status.isSuccess := by
  unfold ofEnd
  split
  · simp_all
  · split <;> simp_all

end Outcome

end AssemblyGate
