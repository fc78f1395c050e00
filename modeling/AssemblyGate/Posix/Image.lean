/-
**Programs and where they are found.**

A path runs a program of the machine, by itself or because the first line of the file that it leads
to names one.  A name without a slash is looked for in a list of directories.

Main definitions:

* `AssemblyGate.Machine.image` — what a path runs;
* `AssemblyGate.Machine.search` — what a name runs.
-/
import AssemblyGate.Posix.Machine

set_option autoImplicit false

namespace AssemblyGate

/-- What is run: a program of the machine, its arguments, and the path it was found at. -/
structure Image where
  program : String
  arguments : List ByteText
  path : ByteText

namespace Machine

/-- The program that the first line of a file names, and the argument it is given. -/
def interpreter? (content : ByteText) : Option (ByteText × Option ByteText) :=
  match content with
  | '#' :: '!' :: rest =>
      let isBlank : Char → Bool := fun c => c = ' ' || c = '\t'
      let line := (rest.takeWhile (· ≠ '\n')).dropWhile isBlank
      let program := line.takeWhile fun c => !isBlank c
      let argument := ((line.drop program.length).dropWhile isBlank).reverse.dropWhile isBlank
      if program.isEmpty then none
      else some (program, if argument.isEmpty then none else some argument.reverse)
  | _ => none

/-- What a path runs with arguments, following the first lines of files up to a number of times. -/
def imageFrom (m : Machine) : Nat → ByteText → List ByteText → Except Errno Image
  | 0, _, _ => .error Errno.tooManyLinks
  | room + 1, path, arguments =>
      match m.stat path with
      | .error e => .error e
      | .ok (.program name) => .ok ⟨name, arguments, path⟩
      | .ok (.file info content) =>
          if info.mode &&& 0o111 = 0 then .error Errno.access
          else
            match interpreter? (ByteText.ofBytes (content.take 256)) with
            | some (program, argument) =>
                imageFrom m room program (argument.toList ++ path :: arguments)
            | none => .error Errno.execFormat
      | .ok _ => .error Errno.access

/-- What a path runs with arguments. -/
def image (m : Machine) (path : ByteText) (arguments : List ByteText) : Except Errno Image :=
  imageFrom m 5 path arguments

/-- What a name runs with arguments, looked for in directories.  If it is in none of them the last
failure stands, but a refusal among them stands before all others. -/
def searchIn (m : Machine) (name : ByteText) (arguments : List ByteText) (failure : Errno) :
    List ByteText → Except Errno Image
  | [] => .error failure
  | directory :: rest =>
      let path := if directory.isEmpty then name else inside directory name
      match m.image path arguments with
      | .ok image => .ok image
      | .error e =>
          if e = Errno.access ∨ e = Errno.noEntry ∨ e = Errno.notDirectory then
            searchIn m name arguments (if failure = Errno.access then failure else e) rest
          else .error e

/-- The directories in which programs are looked for where nothing else is said. -/
def usualPath : String := "/bin:/usr/bin"

/-- What a name runs with arguments: the file it leads to if it has a slash, and otherwise what the
directories of a list have under this name. -/
def search (m : Machine) (path : Option ByteText) (name : ByteText) (arguments : List ByteText) :
    Except Errno Image :=
  if name.isEmpty then .error Errno.noEntry
  else if name.contains '/' then m.image name arguments
  else
    let directories := ByteText.split ':' (path.getD usualPath.toList)
    m.searchIn name arguments Errno.noEntry directories

end Machine

end AssemblyGate
