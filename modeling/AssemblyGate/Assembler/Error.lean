/-
**Why no assembly outcome was produced.**

A source that the assembler rejects is an ordinary outcome.  The errors here are about everything
around it: the source is over the limit, it could not be put in place, or the assembler could not be
started, waited for, or waited for any longer.

Main definitions:

* `AssemblyGate.AssembleError` — the errors;
* `AssemblyGate.AssembleError.message` — the text for the log;
* `AssemblyGate.AssembleError.publicReason` — the text for the client, which names no path and no
  detail of the machine;
* `AssemblyGate.AssembleError.status` — the status of the answer.
-/
import AssemblyGate.Host.Fault

set_option autoImplicit false

namespace AssemblyGate

/-- A failure that keeps an assembly outcome from being produced. -/
inductive AssembleError
  | sourceTooLarge (size limit : Nat)
  | staging (cause : Fault)
  | spawn (binary : String) (cause : Fault)
  | wait (cause : Fault)
  | timeout (milliseconds : Nat)
deriving DecidableEq

namespace AssembleError

/-- The fault behind an error. -/
def cause? : AssembleError → Option Fault
  | .staging cause | .spawn _ cause | .wait cause => some cause
  | .sourceTooLarge .. | .timeout _ => none

/-- The text for the log. -/
def message : AssembleError → String
  | .sourceTooLarge size limit =>
      "assembly source is " ++ toString size ++ " bytes, limit is " ++ toString limit
  | .staging cause => "failed to stage assembly source: " ++ cause.message
  | .spawn binary cause => "failed to start assembler '" ++ binary ++ "': " ++ cause.message
  | .wait cause => "failed to collect assembler output: " ++ cause.message
  | .timeout milliseconds => "assembler did not finish within " ++ toString milliseconds ++ " ms"

/-- The text for the client. -/
def publicReason : AssembleError → String
  | .sourceTooLarge .. => "assembly source too large"
  | .staging _ => "could not stage assembly source"
  | .spawn .. => "assembler unavailable"
  | .wait _ => "assembler output could not be collected"
  | .timeout _ => "assembler timed out"

/-- The status of the answer. -/
def status : AssembleError → Nat
  | .sourceTooLarge .. => 413
  | .timeout _ => 504
  | .staging _ | .spawn .. | .wait _ => 500

end AssembleError

end AssemblyGate
