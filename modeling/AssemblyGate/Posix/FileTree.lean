/-
**A tree of files.**

A node is a regular file, a directory, a link to a path, a device, one of the descriptors of whoever
opens it, or a program that belongs to the machine.  A path is followed name by name from the root
or from the current directory, through the links on its way, with the errors that the operating
system gives: a name that is missing, a name that is no directory but is used as one, a name that is
too long, too many links.

Main definitions:

* `AssemblyGate.Node` — the nodes;
* `AssemblyGate.Node.get?`, `AssemblyGate.Node.alter` — the node at a place, and a change of it;
* `AssemblyGate.FileTree.resolve` — the place that a path leads to.
-/
import AssemblyGate.Host.Fault
import AssemblyGate.Posix.ByteText

set_option autoImplicit false

namespace AssemblyGate

/-- The devices: nothing, zeros without end, a place without room, and noise without end. -/
inductive Device
  | null
  | zero
  | full
  | noise
deriving DecidableEq

/-- What is known of a regular file beside its content: a number that all its names share, who may
do what with it, and when it was changed. -/
structure FileInfo where
  number : Nat
  mode : Nat
  stamp : Nat
deriving DecidableEq

/-- A node of a tree of files. -/
inductive Node
  | file (info : FileInfo) (content : Bytes)
  | directory (mode : Nat) (entries : List (ByteText × Node))
  | link (target : ByteText)
  | device (kind : Device)
  | descriptor (number : Nat)
  | program (name : String)

namespace Node

instance : Inhabited Node := ⟨.device .null⟩

/-- Whether a node is a directory. -/
def isDirectory : Node → Bool
  | .directory .. => true
  | _ => false

/-- Whether a node is a regular file. -/
def isFile : Node → Bool
  | .file .. | .program _ => true
  | _ => false

/-- Whether a node is a link. -/
def isLink : Node → Bool
  | .link _ => true
  | _ => false

/-- Who may do what with a node, as nine bits. -/
def mode : Node → Nat
  | .file info _ => info.mode
  | .directory mode _ => mode
  | .link _ => 0o777
  | .device _ | .descriptor _ => 0o666
  | .program _ => 0o755

/-- Whether anyone may run a node or go through it. -/
def isExecutable (node : Node) : Bool := node.mode &&& 0o111 != 0

/-- The number of bytes that a node holds. -/
def size : Node → Nat
  | .file _ content => content.length
  | .directory .. => 4096
  | .link target => target.length
  | _ => 0

/-- The entries of a directory. -/
def entries : Node → List (ByteText × Node)
  | .directory _ entries => entries
  | _ => []

/-- The entry of a name. -/
def child? (name : ByteText) (node : Node) : Option Node :=
  (node.entries.find? (fun e => e.1 == name)).map (·.2)

/-- Give a name a node, or take it away. -/
def setEntry (name : ByteText) (node : Option Node) :
    List (ByteText × Node) → List (ByteText × Node)
  | [] => match node with
      | some node => [(name, node)]
      | none => []
  | e :: rest =>
      if e.1 = name then
        match node with
        | some node => (name, node) :: rest
        | none => rest
      else e :: setEntry name node rest

/-- The node that names lead to. -/
def get? : List ByteText → Node → Option Node
  | [], node => some node
  | name :: rest, node =>
      match node.child? name with
      | some next => get? rest next
      | none => none

/-- Change what names lead to, or take it away.  Names that lead nowhere change nothing. -/
def alter (f : Option Node → Option Node) : List ByteText → Node → Node
  | [], node => (f (some node)).getD node
  | [name], node =>
      match node with
      | .directory mode entries => .directory mode (setEntry name (f (node.child? name)) entries)
      | other => other
  | name :: rest, node =>
      match node, node.child? name with
      | .directory mode entries, some next =>
          .directory mode (setEntry name (some (alter f rest next)) entries)
      | other, _ => other

mutual

/-- Change the file of a number under all its names. -/
def changeFile (number : Nat) (f : FileInfo → Bytes → Node) : Node → Node
  | .file info content => if info.number = number then f info content else .file info content
  | .directory mode entries => .directory mode (changeFileIn number f entries)
  | other => other

/-- Change the file of a number among entries and below them. -/
def changeFileIn (number : Nat) (f : FileInfo → Bytes → Node) :
    List (ByteText × Node) → List (ByteText × Node)
  | [] => []
  | (name, node) :: rest => (name, changeFile number f node) :: changeFileIn number f rest

end

mutual

/-- The content of the file of a number. -/
def contentOf? (number : Nat) : Node → Option Bytes
  | .file info content => if info.number = number then some content else none
  | .directory _ entries => contentIn? number entries
  | _ => none

/-- The content of the file of a number among entries and below them. -/
def contentIn? (number : Nat) : List (ByteText × Node) → Option Bytes
  | [] => none
  | (_, node) :: rest => (contentOf? number node).orElse fun _ => contentIn? number rest

end

mutual

/-- The names that a file goes by below a node. -/
def countNames (number : Nat) : Node → Nat
  | .file info _ => if info.number = number then 1 else 0
  | .directory _ entries => countNamesIn number entries
  | _ => 0

/-- The names that a file goes by among entries and below them. -/
def countNamesIn (number : Nat) : List (ByteText × Node) → Nat
  | [] => 0
  | (_, node) :: rest => countNames number node + countNamesIn number rest

end

end Node

namespace FileTree

/-- Where a path leads: a directory, the name in it, unless the path means the directory itself, and
whether what is there has to be a directory. -/
structure Place where
  directory : List ByteText
  name : Option ByteText
  asDirectory : Bool

/-- The names that lead to a place. -/
def Place.names (p : Place) : List ByteText := p.directory ++ p.name.toList

/-- The longest name. -/
def maxName : Nat := 255

/-- The longest path. -/
def maxPath : Nat := 4095

/-- The most links on the way of a path. -/
def maxLinks : Nat := 40

/-- The names in a path. -/
def namesIn (path : ByteText) : List ByteText :=
  (ByteText.split '/' path).filter fun n => !n.isEmpty

/-- Whether a path begins at the root. -/
def isAbsolute (path : ByteText) : Bool := path.head? = some '/'

/-- Whether a path ends in a slash and so means a directory. -/
def endsInSlash (path : ByteText) : Bool := path.getLast? = some '/'

/-- Follow names from a directory.  A link in place of the last name is followed if `follow` is set
or if a directory is meant. -/
def walk (root : Node) (follow : Bool) (links : Nat) (directory : List ByteText) (asDirectory : Bool) :
    List ByteText → Except Errno Place
  | [] => .ok ⟨directory, none, true⟩
  | name :: rest =>
      if name = ['.'] then walk root follow links directory asDirectory rest
      else if name = ['.', '.'] then walk root follow links directory.dropLast asDirectory rest
      else if maxName < name.length then .error Errno.nameTooLong
      else
        match root.get? (directory ++ [name]) with
        | some (.link target) =>
            if rest.isEmpty && !follow && !asDirectory then .ok ⟨directory, some name, false⟩
            else
              match links with
              | 0 => .error Errno.tooManyLinks
              | links + 1 =>
                  if target.isEmpty then .error Errno.noEntry
                  else
                    walk root follow links (if isAbsolute target then [] else directory)
                      (asDirectory || rest.isEmpty && endsInSlash target) (namesIn target ++ rest)
        | found =>
            if rest.isEmpty then .ok ⟨directory, some name, asDirectory⟩
            else
              match found with
              | none => .error Errno.noEntry
              | some node =>
                  if node.isDirectory then
                    walk root follow links (directory ++ [name]) asDirectory rest
                  else .error Errno.notDirectory
termination_by names => (links, names.length)

/-- The place that a path leads to.  Everything but the last name has to exist. -/
def resolve (root : Node) (current : List ByteText) (follow : Bool) (path : ByteText) :
    Except Errno Place :=
  if path.isEmpty then .error Errno.noEntry
  else if maxPath < path.length then .error Errno.nameTooLong
  else
    walk root follow maxLinks (if isAbsolute path then [] else current) (endsInSlash path)
      (namesIn path)

/-- The node that a path leads to. -/
def stat (root : Node) (current : List ByteText) (follow : Bool) (path : ByteText) :
    Except Errno Node :=
  match resolve root current follow path with
  | .error e => .error e
  | .ok place =>
      match root.get? place.names with
      | none => .error Errno.noEntry
      | some node =>
          if place.asDirectory && !node.isDirectory then .error Errno.notDirectory else .ok node

end FileTree

end AssemblyGate
