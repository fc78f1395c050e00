/-
**A freshly installed machine.**

The directories, devices and programs that every machine has, and the environment that a service is
started in.
-/
import AssemblyGate.Posix.Shell.Launch

set_option autoImplicit false

namespace AssemblyGate.Machine

/-- A directory that only holds entries. -/
def folder (entries : List (String × Node)) : Node :=
  .directory usualDirectoryMode (entries.map fun e => (chars e.1, e.2))

/-- The programs. -/
def programs : Node :=
  let names := ["sh", "dash", "env", "timeout"] ++ Shell.wrappers.map (·.1) ++ Tool.table.map (·.1)
  folder (names.map fun name => (name, .program name))

/-- The devices. -/
def devices : Node :=
  folder
    [("null", .device .null), ("zero", .device .zero), ("full", .device .full),
      ("random", .device .noise), ("urandom", .device .noise), ("stdin", .descriptor 0),
      ("stdout", .descriptor 1), ("stderr", .descriptor 2),
      ("fd", folder ((List.range 10).map fun n =>
        (String.ofList (Numeral.decimal n), .descriptor n)))]

/-- The root of the machine's files. -/
def standardRoot : Node :=
  let empty := folder []
  folder
    [("bin", .link (chars "usr/bin")), ("dev", devices), ("etc", empty), ("home", empty),
      ("lib", .link (chars "usr/lib")), ("opt", empty), ("proc", empty),
      ("root", .directory 0o700 []), ("run", empty), ("sbin", .link (chars "usr/sbin")),
      ("tmp", .directory 0o1777 []),
      ("usr", folder [("bin", programs), ("lib", empty), ("local", folder [("bin", empty)]),
        ("sbin", empty)]),
      ("var", folder [("tmp", .directory 0o1777 [])])]

/-- The directories in which programs are looked for. -/
def standardPath : String := "/usr/local/sbin:/usr/local/bin:/usr/sbin:/usr/bin:/sbin:/bin"

/-- The milliseconds that the clock of a machine shows when nothing has happened yet. -/
def standardClock : Nat := 1000000

/-- A machine on which nothing has happened yet. -/
def standard : Machine :=
  { root := standardRoot
    current := []
    environment := [("HOME", "/root"), ("PATH", standardPath)]
    nextFile := 16
    changes := 1
    stagings := 0
    clock := standardClock
    stdout := []
    stderr := [] }

/-- Make a directory and every directory above it. -/
def ensureDirectory (m : Machine) (names : List ByteText) : Machine :=
  let root := (List.range names.length).foldl
    (fun root n =>
      let here := names.take (n + 1)
      match root.get? here with
      | some _ => root
      | none => root.alter (fun _ => some (.directory usualDirectoryMode [])) here)
    m.root
  { m with root }

/-- Put a file in place, with every directory above it. -/
def install (m : Machine) (names : List ByteText) (bytes : Bytes) (executable : Bool) : Machine :=
  let m := m.ensureDirectory names.dropLast
  let info : FileInfo := ⟨m.nextFile, if executable then 0o755 else usualFileMode, m.changes⟩
  { m with
    root := m.root.alter (fun _ => some (.file info bytes)) names
    nextFile := m.nextFile + 1
    changes := m.changes + 1 }

/-- The names of a path that are not empty, points resolved. -/
def namesOf (path : String) : List ByteText :=
  ((FileTree.namesIn (ByteText.ofString path)).filter (· != ['.'])).foldl
    (fun names n => if n = ['.', '.'] then names.dropLast else names ++ [n]) []

/-- Give an environment variable a value, or take it away. -/
def setVariable (m : Machine) (name : String) (value : Option String) : Machine :=
  let rest := m.environment.filter fun e => e.1 != name
  { m with environment := rest ++ (value.map fun v => (name, v)).toList }

end AssemblyGate.Machine
