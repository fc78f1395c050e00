/-
**One assembly.**

The source is checked against the limit, put into a staging area, and given to the assembler; the
area is removed whatever happens, and the assembler's words are freed of its paths.

Main definitions:

* `AssemblyGate.Assembler.invocation` — the command;
* `AssemblyGate.Assembler.conclude` — what a run comes to;
* `AssemblyGate.Assembler.assemble` — an assembly.
-/
import AssemblyGate.Assembler.Error
import AssemblyGate.Assembler.Outcome
import AssemblyGate.Assembler.Staging
import AssemblyGate.Journal.Event
import AssemblyGate.Settings.Basic

set_option autoImplicit false

namespace AssemblyGate.Assembler

/-- The command that assembles the source of an area: the flags, the source, and where the result
goes.  The language of the assembler's words is set, and the variables that would override it are
taken away. -/
def invocation (a : AssemblerSettings) (area : StagingArea) : Invocation :=
  { program := a.binary
    arguments := a.flags ++ [area.source, "-o", area.result]
    overrides := [("LANG", some a.locale), ("LC_ALL", none), ("LC_MESSAGES", none)] }

/-- What a run of the assembler comes to. -/
def conclude (a : AssemblerSettings) (area : StagingArea) : Run → Except AssembleError Outcome
  | .notStarted cause => .error (.spawn a.binary cause)
  | .notCollected cause => .error (.wait cause)
  | .overdue => .error (.timeout a.timeoutMs.toNat)
  | .ended status stderr =>
      .ok (Outcome.ofEnd status (area.sanitize a.placeholder (Utf8.decodeLossy stderr)))

/-- What is logged once a source is in place. -/
def stagedEvent (area : StagingArea) (size : Nat) : Event :=
  .note .debug ("[Assembler] Staged " ++ toString size ++ " bytes in " ++ area.directory)

/-- An assembly: what it came to, what is logged, and the condition the machine is left in. -/
structure Done (σ : Type) where
  outcome : Except AssembleError Outcome
  events : List Event
  state : σ

variable {σ : Type}

/-- Assemble a source. -/
def assemble (host : Host σ) (a : AssemblerSettings) (source : String) (s : σ) : Done σ :=
  if a.maxSourceBytes.toNat < source.utf8ByteSize then
    ⟨.error (.sourceTooLarge source.utf8ByteSize a.maxSourceBytes.toNat), [], s⟩
  else
    match StagingArea.create host a.stagingDir source s with
    | (.error cause, s) => ⟨.error (.staging cause), [], s⟩
    | (.ok area, s) =>
        let (run, s) := host.run (invocation a area) a.timeoutMs.toNat s
        ⟨conclude a area run, [stagedEvent area source.utf8ByteSize],
          host.removeTree area.directory s⟩

end AssemblyGate.Assembler
