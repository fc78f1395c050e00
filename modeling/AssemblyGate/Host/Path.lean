/-
**Paths.**

A path is a text in which slashes separate names.  Repeated slashes, a slash at the end and a name
that is a single point change nothing, unless the point begins a relative path.

Main definitions:

* `AssemblyGate.Path.components` — the parts of a path that count;
* `AssemblyGate.Path.join` — a path seen from a directory;
* `AssemblyGate.Path.parent?`, `AssemblyGate.Path.fileName?`, `AssemblyGate.Path.extension?` — parts
  of a path;
* `AssemblyGate.Path.withExtension` — the same path with another extension;
* `AssemblyGate.Path.relativeTo` — the way from a directory to a path.
-/

set_option autoImplicit false

namespace AssemblyGate.Path

/-- A part of a path. -/
inductive Component
  | root
  | here
  | up
  | name (s : String)
deriving DecidableEq

/-- The texts between the slashes of a path. -/
def pieces (path : List Char) : List (List Char) :=
  let (last, done) := path.reverse.foldl
    (fun (current, done) c => if c = '/' then ([], current :: done) else (c :: current, done))
    (([] : List Char), ([] : List (List Char)))
  last :: done

/-- The part that a text between slashes stands for, if it counts. -/
def component? (piece : List Char) : Option Component :=
  if piece = [] ∨ piece = ['.'] then none
  else if piece = ['.', '.'] then some .up
  else some (.name (String.ofList piece))

/-- Whether a path begins at the root. -/
def isAbsolute (path : String) : Bool := path.toList.head? = some '/'

/-- The parts of a path that count. -/
def components (path : String) : List Component :=
  let found := pieces path.toList
  let front :=
    if isAbsolute path then [Component.root]
    else if found.head? = some ['.'] then [Component.here]
    else []
  front ++ found.filterMap component?

/-- A path seen from a directory: itself if it begins at the root, and appended otherwise. -/
def join (directory path : String) : String :=
  if isAbsolute path ∨ directory = "" then path
  else if directory.toList.getLast? = some '/' then directory ++ path
  else directory ++ "/" ++ path

/-- The text of a part. -/
def Component.text : Component → String
  | .root => "/"
  | .here => "."
  | .up => ".."
  | .name s => s

/-- The path of a list of parts. -/
def ofComponents (parts : List Component) : String :=
  parts.foldl (fun path part => join path part.text) ""

/-- The path without its last part; the root and the empty path have nothing to take away. -/
def parent? (path : String) : Option String :=
  match (components path).reverse with
  | [] | [.root] => none
  | _ :: rest => some (ofComponents rest.reverse)

/-- The name a path ends in. -/
def fileName? (path : String) : Option String :=
  match (components path).getLast? with
  | some (.name s) => some s
  | _ => none

/-- A name cut at its last point: what stands before it and what stands after it.  A point that
begins a name does not count. -/
def splitName (name : List Char) : List Char × Option (List Char) :=
  let after := (name.reverse.takeWhile (· ≠ '.')).reverse
  let before := name.take (name.length - after.length - 1)
  if after.length = name.length ∨ before = [] then (name, none) else (before, some after)

/-- What stands after the last point of the name a path ends in. -/
def extension? (path : String) : Option String :=
  match fileName? path with
  | some name => (splitName name.toList).2.map String.ofList
  | none => none

/-- Drop what follows the last name of a path, given from its end: slashes, and single points
between slashes. -/
def dropTail : List Char → List Char
  | [] => []
  | [c] => if c = '/' then [] else [c]
  | c :: d :: rest =>
      if c = '/' then dropTail (d :: rest)
      else if c = '.' ∧ d = '/' then dropTail rest
      else c :: d :: rest

/-- The same path with what stands after the last point of its name replaced.  A path that ends in
no name stays as it is; so does what is left of a name when the old extension is taken away and only
the way up remains. -/
def withExtension (path extension : String) : String :=
  match fileName? path with
  | none => path
  | some name =>
      let trimmed := (dropTail path.toList.reverse).reverse
      let (stem, old) := splitName name.toList
      let kept := trimmed.take (trimmed.length - name.length + stem.length)
      if stem = ['.'] ∧ old.isSome ∧ trimmed = path.toList then String.ofList (kept ++ ['.'])
      else String.ofList (kept ++ '.' :: extension.toList)

/-- The same path with a further extension after the name. -/
def addExtension (path extension : String) : String :=
  match fileName? path with
  | none => path
  | some _ => String.ofList ((dropTail path.toList.reverse).reverse ++ '.' :: extension.toList)

/-- What is left of two lists after their common beginning. -/
def dropCommon : List Component → List Component → List Component × List Component
  | a :: as, b :: bs => if a = b then dropCommon as bs else (a :: as, b :: bs)
  | as, bs => (as, bs)

/-- The way from a directory to a path, both of them from the root. -/
def relativeTo (directory path : String) : String :=
  let (up, down) := dropCommon (components directory) (components path)
  ofComponents (up.map (fun _ => Component.up) ++ down)

end AssemblyGate.Path
