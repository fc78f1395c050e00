/-
**Whether the assembler is there.**

An assembler that is given as a path of several parts has to be a regular file; one that is given as
a name alone is looked for in the directories of the search path.
-/
import AssemblyGate.Host.Basic
import AssemblyGate.Host.Path

set_option autoImplicit false

namespace AssemblyGate.Assembler

/-- The directories of a search path; an empty one is the current directory. -/
def searchDirectories (path : String) : List String :=
  let (last, done) := path.toList.reverse.foldl
    (fun (current, done) c => if c = ':' then ([], current :: done) else (c :: current, done))
    (([] : List Char), ([] : List (List Char)))
  (last :: done).map String.ofList

variable {σ : Type}

/-- Whether the assembler can be found. -/
def isAvailable (host : Host σ) (binary : String) (s : σ) : Bool :=
  if 1 < (Path.components binary).length then host.isFile s binary
  else
    match host.searchPath s with
    | none => false
    | some path => (searchDirectories path).any fun d => host.isFile s (Path.join d binary)

end AssemblyGate.Assembler
