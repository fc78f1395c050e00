/-
**Staging areas.**

Every assembly has a directory of its own, with the source in one file and the place of the result
beside it.  The assembler's words name these paths; before a client sees them, every path of the
source is replaced by a placeholder, and every path of the result by the same placeholder with the
ending of results.

Main definitions:

* `AssemblyGate.StagingArea` — a directory with the paths of source and result;
* `AssemblyGate.StagingArea.create` — a fresh one with the source in place;
* `AssemblyGate.StagingArea.sanitize` — the assembler's words without the paths.
-/
import AssemblyGate.Host.Basic
import AssemblyGate.Host.Path
import AssemblyGate.Text.Replace

set_option autoImplicit false

namespace AssemblyGate

/-- A directory for one assembly. -/
structure StagingArea where
  directory : String
deriving DecidableEq

namespace StagingArea

/-- The name of the file that holds the source. -/
def sourceName : String := "input.S"

/-- The ending of the names of results. -/
def resultEnding : String := "o"

/-- The path of the source. -/
def source (a : StagingArea) : String := Path.join a.directory sourceName

/-- The path of the result. -/
def result (a : StagingArea) : String := Path.withExtension a.source resultEnding

variable {σ : Type}

/-- A fresh area with the source in place.  If the source cannot be written, the directory is
removed again. -/
def create (host : Host σ) (parent : Option String) (text : String) (s : σ) :
    Except Fault StagingArea × σ :=
  match host.makeStaging parent s with
  | (.error fault, s) => (.error fault, s)
  | (.ok directory, s) =>
      let area : StagingArea := ⟨directory⟩
      match host.writeFile area.source (Utf8.encode text.toList) s with
      | (.error fault, s) => (.error fault, host.removeTree directory s)
      | (.ok (), s) => (.ok area, s)

/-- What stands for the path of the result. -/
def resultPlaceholder (placeholder : String) : String := Path.withExtension placeholder resultEnding

/-- The assembler's words with placeholders for the paths. -/
def sanitize (a : StagingArea) (placeholder : String) (words : List Char) : List Char :=
  replaceAll a.result.toList (resultPlaceholder placeholder).toList
    (replaceAll a.source.toList placeholder.toList words)

end StagingArea

end AssemblyGate
