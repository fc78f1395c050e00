/-
**A machine.**

A machine has a tree of files, a current directory and an environment, and it keeps what is written
to the standard streams.  It numbers its files and its temporary directories in the order in which
they are made, and counts the changes of its files.

Main definitions:

* `AssemblyGate.Machine` — the machine;
* `AssemblyGate.Machine.makeDirectory`, `AssemblyGate.Machine.openFile`,
  `AssemblyGate.Machine.read`, `AssemblyGate.Machine.write`, `AssemblyGate.Machine.rename` — its
  files;
* `AssemblyGate.Machine.makeStaging` — a directory with a name that is not in use.
-/
import AssemblyGate.Host.Path
import AssemblyGate.Journal.Event
import AssemblyGate.Posix.FileTree
import AssemblyGate.Settings.File

set_option autoImplicit false

namespace AssemblyGate

/-- A machine: its files, the current directory, the environment, the next free file number, the
number of changes so far, the number of temporary directories made so far, the milliseconds that its
clock shows, and what was written to the two streams, last piece first. -/
structure Machine where
  root : Node
  current : List ByteText
  environment : List (String × String)
  nextFile : Nat
  changes : Nat
  stagings : Nat
  clock : Nat
  stdout : List Bytes
  stderr : List Bytes

namespace Machine

/-! ### Looking -/

/-- The path of the current directory. -/
def currentPath (m : Machine) : ByteText :=
  if m.current.isEmpty then ['/'] else m.current.flatMap fun n => '/' :: n

/-- The place that a path leads to, through a link at its end if `follow` is set. -/
def resolve (m : Machine) (follow : Bool) (path : ByteText) : Except Errno FileTree.Place :=
  FileTree.resolve m.root m.current follow path

/-- The node that a path leads to. -/
def stat (m : Machine) (path : ByteText) : Except Errno Node :=
  FileTree.stat m.root m.current true path

/-- The node that a path names, which may be a link. -/
def lstat (m : Machine) (path : ByteText) : Except Errno Node :=
  FileTree.stat m.root m.current false path

/-- Whether a path leads to a node of which something holds. -/
def isSuch (m : Machine) (p : Node → Bool) (path : ByteText) : Bool :=
  match m.stat path with
  | .ok node => p node
  | .error _ => false

/-- Whether a path leads to a regular file. -/
def isFile (m : Machine) (path : ByteText) : Bool := m.isSuch Node.isFile path

/-- Whether a path leads to a directory. -/
def isDirectory (m : Machine) (path : ByteText) : Bool := m.isSuch Node.isDirectory path

/-- Whether a path leads to anything. -/
def holds (m : Machine) (path : ByteText) : Bool := m.isSuch (fun _ => true) path

/-- How much is read of what has no end. -/
def endless : Nat := 1000000

/-- Bytes that follow no rule that is easily seen. -/
def noise (count : Nat) : Bytes :=
  (List.range count).map fun n => UInt8.ofNat ((n * n * 7919 + n * 104729 + 12345) / 64)

/-- The bytes of a node. -/
def contentOf : Node → Except Errno Bytes
  | .file _ content => .ok content
  | .directory .. => .error Errno.isDirectory
  | .device .null => .ok []
  | .device .zero | .device .full => .ok (List.replicate endless 0)
  | .device .noise => .ok (noise endless)
  | .link _ | .descriptor _ | .program _ => .ok []

/-- The bytes of a file. -/
def read (m : Machine) (path : ByteText) : Except Errno Bytes :=
  match m.stat path with
  | .error e => .error e
  | .ok node => contentOf node

/-- The entries of a directory, or nothing where there is none. -/
def entries? (m : Machine) (path : ByteText) : Option (List (ByteText × Node)) :=
  match m.stat path with
  | .ok (.directory _ entries) => some entries
  | _ => none

/-! ### Making -/

/-- Change what stands at a place. -/
def alter (m : Machine) (names : List ByteText) (f : Option Node → Option Node) : Machine :=
  { m with root := m.root.alter f names, changes := m.changes + 1 }

/-- Make a node at a path that leads nowhere so far. -/
def make (m : Machine) (path : ByteText) (node : Node) : Except Errno Machine :=
  match m.resolve false path with
  | .error e => .error e
  | .ok place =>
      match m.root.get? place.names with
      | some _ => .error Errno.inUse
      | none =>
          if place.asDirectory && !node.isDirectory then .error Errno.noEntry
          else .ok (m.alter place.names fun _ => some node)

/-- What may be done with a directory that is made without further wishes. -/
def usualDirectoryMode : Nat := 0o755

/-- What may be done with a file that is made without further wishes. -/
def usualFileMode : Nat := 0o644

/-- Make a directory. -/
def makeDirectory (m : Machine) (path : ByteText) (mode : Nat) : Except Errno Machine :=
  m.make path (.directory mode [])

/-- Make a link to a path. -/
def makeLink (m : Machine) (target path : ByteText) : Except Errno Machine :=
  if target.isEmpty then .error Errno.noEntry else m.make path (.link target)

/-- Give a file a further name. -/
def addName (m : Machine) (source path : ByteText) : Except Errno Machine :=
  match m.lstat source with
  | .error e => .error e
  | .ok node => if node.isDirectory then .error Errno.notPermitted else m.make path node

/-! ### Writing -/

/-- How a file is opened for writing. -/
structure OpenWish where
  truncates : Bool
  isExclusive : Bool
  mode : Nat

/-- Open what is there or make it, and keep what it holds. -/
def OpenWish.atEnd : OpenWish := ⟨false, false, usualFileMode⟩

/-- What was opened for writing: a regular file by its number, a device, or a descriptor that was
open already. -/
inductive Opened
  | file (number : Nat)
  | device (kind : Device)
  | descriptor (number : Nat)
deriving DecidableEq

/-- Open a file for writing, making it if it is not there.  A path that can only mean a directory is
refused as one. -/
def openFile (m : Machine) (path : ByteText) (wish : OpenWish) : Except Errno (Opened × Machine) :=
  match m.resolve (!wish.isExclusive) path with
  | .error e => .error e
  | .ok place =>
      if place.asDirectory then .error Errno.isDirectory
      else
        match m.root.get? place.names with
        | some node =>
            if wish.isExclusive then .error Errno.inUse
            else
              match node with
              | .file info _ =>
                  let emptied := if wish.truncates then
                      { m with
                        root := m.root.changeFile info.number fun info _ =>
                          .file { info with stamp := m.changes } []
                        changes := m.changes + 1 }
                    else m
                  .ok (.file info.number, emptied)
              | .directory .. => .error Errno.isDirectory
              | .device kind => .ok (.device kind, m)
              | .descriptor number => .ok (.descriptor number, m)
              | .link _ | .program _ => .error Errno.textBusy
        | none =>
            let info : FileInfo := ⟨m.nextFile, wish.mode, m.changes⟩
            .ok (.file m.nextFile,
              { m.alter place.names fun _ => some (.file info []) with nextFile := m.nextFile + 1 })

/-- Bytes with others written over them from a position on. -/
def overwrite (content : Bytes) (position : Nat) (bytes : Bytes) : Bytes :=
  content.take position ++ List.replicate (position - content.length) 0 ++ bytes
    ++ content.drop (position + bytes.length)

/-- Change the content of the file of a number. -/
def changeContent (m : Machine) (number : Nat) (f : Bytes → Bytes) : Machine :=
  { m with
    root := m.root.changeFile number fun info content =>
      .file { info with stamp := m.changes } (f content)
    changes := m.changes + 1 }

/-- Append bytes to the file of a number. -/
def append (m : Machine) (number : Nat) (bytes : Bytes) : Machine :=
  if bytes.isEmpty then m else m.changeContent number fun content => content ++ bytes

/-- Write bytes into the file of a number. -/
def writeAt (m : Machine) (number position : Nat) (bytes : Bytes) : Machine :=
  if bytes.isEmpty then m else m.changeContent number fun content =>
    overwrite content position bytes

/-- Write a whole file. -/
def write (m : Machine) (path : ByteText) (bytes : Bytes) (mode : Nat) : Except Errno Machine :=
  match m.openFile path ⟨true, false, mode⟩ with
  | .error e => .error e
  | .ok (.file number, m) => .ok (m.append number bytes)
  | .ok (.device .full, m) => if bytes.isEmpty then .ok m else .error Errno.noSpace
  | .ok (_, m) => .ok m

/-- Change who may do what with the node at a path. -/
def setMode (m : Machine) (path : ByteText) (mode : Nat) : Except Errno Machine :=
  match m.resolve true path, m.stat path with
  | .ok _, .ok (.file info _) =>
      .ok { m with
        root := m.root.changeFile info.number fun info content => .file { info with mode } content }
  | .ok place, .ok (.directory _ entries) =>
      .ok { m with root := m.root.alter (fun _ => some (.directory mode entries)) place.names }
  | .error e, _ | _, .error e => .error e
  | .ok _, .ok _ => .ok m

/-- Count a file at a path as changed now. -/
def touch (m : Machine) (path : ByteText) : Machine :=
  match m.stat path with
  | .ok (.file info _) => m.changeContent info.number id
  | _ => m

/-! ### Removing and moving -/

/-- Take a name away that leads to no directory. -/
def unlink (m : Machine) (path : ByteText) : Except Errno Machine :=
  match m.lstat path with
  | .error e => .error e
  | .ok node =>
      if node.isDirectory then .error Errno.isDirectory
      else
        match m.resolve false path with
        | .error e => .error e
        | .ok place => .ok (m.alter place.names fun _ => none)

/-- Take a directory away that has no entries. -/
def removeDirectory (m : Machine) (path : ByteText) : Except Errno Machine :=
  match m.resolve false path, m.lstat path with
  | .error e, _ | _, .error e => .error e
  | .ok place, .ok (.directory _ entries) =>
      if (FileTree.namesIn path).getLast? = some ['.'] then .error Errno.invalid
      else if place.names.isEmpty then .error Errno.busy
      else if entries.isEmpty then .ok (m.alter place.names fun _ => none)
      else .error Errno.notEmpty
  | .ok _, .ok _ => .error Errno.notDirectory

/-- Take a node away, with everything below it. -/
def removeTree (m : Machine) (path : ByteText) : Machine :=
  match m.resolve false path with
  | .error _ => m
  | .ok place => if place.names.isEmpty then m else m.alter place.names fun _ => none

/-- Give the node of one path another path.  What stood there is replaced, if it is of the same sort
and, where it is a directory, empty. -/
def rename (m : Machine) (source target : ByteText) : Except Errno Machine :=
  match m.lstat source, m.resolve false source, m.resolve false target with
  | .error e, _, _ | _, .error e, _ | _, _, .error e => .error e
  | .ok node, .ok from_, .ok to_ =>
      let moved : Machine :=
        let taken := m.alter from_.names fun _ => none
        taken.alter to_.names fun _ => some node
      if from_.name.isNone || to_.name.isNone then .error Errno.busy
      else if from_.names = to_.names then .ok m
      else if from_.names.isPrefixOf to_.names then .error Errno.invalid
      else
        match m.root.get? to_.names with
        | none => if to_.asDirectory && !node.isDirectory then .error Errno.notDirectory
            else .ok moved
        | some (.directory _ entries) =>
            if !node.isDirectory then .error Errno.isDirectory
            else if entries.isEmpty then .ok moved
            else .error Errno.notEmpty
        | some _ => if node.isDirectory then .error Errno.notDirectory else .ok moved

/-! ### Paths -/

/-- The absolute path of a path. -/
def absolute (m : Machine) (path : String) : String :=
  Path.join (ByteText.toString m.currentPath) path

/-- A path of an entry of a directory. -/
def inside (directory name : ByteText) : ByteText :=
  if directory.getLast? = some '/' then directory ++ name else directory ++ '/' :: name

/-- The path of names from the root. -/
def pathOf (names : List ByteText) : ByteText :=
  if names.isEmpty then ['/'] else names.flatMap fun n => '/' :: n

/-! ### Temporary directories -/

/-- The six characters that make the name of a temporary directory its own. -/
def freshName (n : Nat) : List Char :=
  let letters := Nat.toDigits 16 (n + 1)
  List.replicate (6 - letters.length) '0' ++ letters

/-- The path of a temporary directory whose name is not settled, as it is told in errors. -/
def stagingPath (m : Machine) (parent : String) : String :=
  Path.join (m.absolute parent) (String.ofList ("asm-".toList ++ freshName m.stagings))

/-- What may be done with a temporary directory. -/
def stagingMode : Nat := 0o700

/-- Make a directory with a name of its own. -/
def makeStaging (m : Machine) (parent : String) : Except Fault String × Machine :=
  let path := m.stagingPath parent
  let counted := { m with stagings := m.stagings + 1 }
  if path.toList.contains '\x00' then (.error (.located .nulInName path), counted)
  else
    match counted.makeDirectory (ByteText.ofString path) stagingMode with
    | .error e => (.error (.located (.os e) path), counted)
    | .ok made => (.ok path, made)

/-! ### Views and streams -/

/-- The value of an environment variable. -/
def getVariable (m : Machine) (name : String) : Option String :=
  (m.environment.find? (fun e => e.1 == name)).map (·.2)

/-- The files as the settings are read from them. -/
def fileView (m : Machine) : FileView :=
  { current := ByteText.toString m.currentPath
    isFile := fun path => !path.toList.contains '\x00' && m.isFile (ByteText.ofString path)
    contents? := fun path => (m.read (ByteText.ofString path)).toOption }

end Machine

end AssemblyGate
