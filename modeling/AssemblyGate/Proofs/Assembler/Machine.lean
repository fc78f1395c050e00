/-
**A machine with a deterministic assembler.**

The machine keeps directories and files.  Its assembler reads the file that the command names,
writes a result beside it and says what it has to say; what it does depends on the bytes that it
reads and on nothing else, but what it says may mention the two paths.  A staging area gets a name
that is free when it is drawn.  This is what a call of the assembler relies on, and all that it
relies on.

Main definitions:

* `AssemblyGate.Store` — the directories and files of the machine;
* `AssemblyGate.Workbench` — the behaviour of the machine and its assembler;
* `AssemblyGate.Workbench.host` — the machine as the service sees it, when names are drawn in a
  given way;
* `AssemblyGate.Workbench.expected` — **what a call comes to**, said without a machine;
* `AssemblyGate.Discreet` — a name that nothing else could be taken for.
-/
import AssemblyGate.Assembler.Run
import AssemblyGate.Proofs.Assembler.Mentions

set_option autoImplicit false

namespace AssemblyGate

/-! ### Directories and files -/

/-- What the machine keeps: which directories there are, and the bytes of the files. -/
structure Store where
  directories : String → Bool
  files : String → Option Bytes

namespace Store

/-- Whether a path leads into a directory. -/
def leadsInto (directory path : String) : Bool :=
  (directory.toList ++ ['/']).isPrefixOf path.toList

/-- Make a directory. -/
def make (s : Store) (directory : String) : Store :=
  { s with directories := fun d => if d = directory then true else s.directories d }

/-- Write a file. -/
def write (s : Store) (path : String) (bytes : Bytes) : Store :=
  { s with files := fun p => if p = path then some bytes else s.files p }

/-- Write a file if there is something to write. -/
def emit (s : Store) (path : String) : Option Bytes → Store
  | some bytes => s.write path bytes
  | none => s

/-- Remove a directory with everything in it. -/
def remove (s : Store) (directory : String) : Store where
  directories := fun d =>
    if d = directory ∨ leadsInto directory d = true then false else s.directories d
  files := fun p => if leadsInto directory p = true then none else s.files p

@[simp] theorem emit_directories (s : Store) (path : String) (bytes : Option Bytes) :
    (s.emit path bytes).directories = s.directories := by
  cases bytes <;> rfl

theorem emit_files {s : Store} {path other : String} (h : other ≠ path) (bytes : Option Bytes) :
    (s.emit path bytes).files other = s.files other := by
  cases bytes with
  | none => rfl
  | some bytes => exact if_neg h

end Store

/-! ### The assembler -/

/-- What the assembler does with the bytes it reads. -/
inductive Conduct
  | uncollected (cause : Fault)
  | overdue
  | ended (status : ExitStatus) (speech : Speech)

/-- How a run ends when the assembler knows the two paths. -/
def Conduct.run (path : Mention → List Char) : Conduct → Run
  | uncollected cause => .notCollected cause
  | overdue => .overdue
  | ended status speech => .ended status (speech.bytes path)

/-- The argument of a command that stands for a path. -/
def Mention.argument (command : Invocation) : Mention → String
  | source => (command.arguments.reverse[2]?).getD ""
  | result => (command.arguments.reverse[0]?).getD ""

/-- The behaviour of the machine and its assembler. -/
structure Workbench where
  /-- The directory in which staging areas are made, from the root, or why none can be made. -/
  parent : Option String → Except Fault {path : String // Path.isAbsolute path = true}
  /-- Why a file with the given bytes cannot be written. -/
  writing : Bytes → Option Fault
  /-- Why a program cannot be started. -/
  starting : String → Option Fault
  /-- What the assembler does within a number of milliseconds. -/
  conduct : Nat → Option Bytes → Conduct
  /-- The result that it writes. -/
  result : Option Bytes → Option Bytes

namespace Workbench

/-- The machine as the service sees it. -/
def host (bench : Workbench) (draw : Store → String) : Host Store where
  makeStaging parent s :=
    match bench.parent parent with
    | .error fault => (.error fault, s)
    | .ok parent => (.ok (Path.join parent (draw s)), s.make (Path.join parent (draw s)))
  writeFile path bytes s :=
    match bench.writing bytes with
    | some fault => (.error fault, s)
    | none => (.ok (), s.write path bytes)
  run command milliseconds s :=
    match bench.starting command.program with
    | some fault => (.notStarted fault, s)
    | none =>
        let found := s.files (Mention.source.argument command)
        ((bench.conduct milliseconds found).run fun m => (m.argument command).toList,
          s.emit (Mention.result.argument command) (bench.result found))
  removeTree directory s := s.remove directory
  isFile s path := (s.files path).isSome
  searchPath _ := none

variable (bench : Workbench) (a : AssemblerSettings) (source : String)

/-- What the assembler does with a source. -/
def answer : Conduct := bench.conduct a.timeoutMs.toNat (some (Utf8.encode source.toList))

/-- What a run of the assembler comes to, in terms of what it does. -/
def verdict : Conduct → Except AssembleError Outcome
  | .uncollected cause => .error (.wait cause)
  | .overdue => .error (.timeout a.timeoutMs.toNat)
  | .ended status speech => .ok (Outcome.ofEnd status (speech.shown a.placeholder))

/-- What a call with a source comes to. -/
def expected : Except AssembleError Outcome :=
  if a.maxSourceBytes.toNat < source.utf8ByteSize then
    .error (.sourceTooLarge source.utf8ByteSize a.maxSourceBytes.toNat)
  else
    match bench.parent a.stagingDir with
    | .error fault => .error (.staging fault)
    | .ok _ =>
        match bench.writing (Utf8.encode source.toList) with
        | some fault => .error (.staging fault)
        | none =>
            match bench.starting a.binary with
            | some fault => .error (.spawn a.binary fault)
            | none => verdict a (bench.answer a source)

end Workbench

/-- A name that nothing else could be taken for: it occurs neither in the directory that the area is
made in nor in what a client is to see. -/
structure Discreet (bench : Workbench) (a : AssemblerSettings) (source parent name : String) :
    Prop where
  drawn : StagingName name
  apart : ¬name.toList <:+: parent.toList
  unsaid : ∀ status speech, bench.answer a source = .ended status speech →
    ¬name.toList <:+: speech.shown a.placeholder

/-- The command names the paths of its staging area. -/
theorem Mention.argument_invocation (a : AssemblerSettings) (area : StagingArea) (m : Mention) :
    (m.argument (Assembler.invocation a area)).toList = m.path area := by
  cases m <;> simp [argument, Assembler.invocation, path]

/-- What a run comes to does not depend on the name of the staging area. -/
theorem conclude_run {bench : Workbench} {a : AssemblerSettings} {source name : String}
    {parent : {path : String // Path.isAbsolute path = true}}
    (h : Discreet bench a source parent name) :
    Assembler.conclude a ⟨Path.join parent name⟩
        ((bench.answer a source).run (Mention.path ⟨Path.join parent name⟩))
      = Workbench.verdict a (bench.answer a source) := by
  cases hanswer : bench.answer a source with
  | uncollected cause => rfl
  | overdue => rfl
  | ended status speech =>
      have hmarks := marks_of_stagingName parent.2 h.drawn h.apart
      have hpaths := path_eq_markedPath parent.2 h.drawn
      rw [Conduct.run, Assembler.conclude, Workbench.verdict,
        StagingArea.sanitize_bytes hmarks hpaths (h.unsaid status speech hanswer)]

end AssemblyGate
