/-
**Tools that change files.**

Files and directories are made, copied, moved, linked and taken away.

Main definitions: one tool each, named as it is called, and

* `AssemblyGate.Tool.overPaths` — a change for each path, and what is said of them;
* `AssemblyGate.Tool.targets` — where files go that a tool puts somewhere.
-/
import AssemblyGate.Posix.Tool.FileMode
import AssemblyGate.Posix.Tool.Text

set_option autoImplicit false

namespace AssemblyGate.Tool

/-- What a change of files comes to: the machine after it and what is said of it. -/
abbrev Change := Machine × List Remark

/-- A change that says nothing. -/
def Change.silent (m : Machine) : Change := (m, [])

/-- Something that is told of a change that was asked for. -/
def noted (wanted : Bool) (text : ByteText) : List Remark :=
  if wanted then [⟨false, text ++ ['\n']⟩] else []

/-- Tell that a change of a path failed. -/
def refused (t : Task) (verb : String) (path : ByteText) (e : Errno) : Remark :=
  t.complainOf (chars verb ++ inQuotes path) e

/-- Make a change for each path, one after the other. -/
def overPaths {α : Type} (m : Machine) (paths : List α) (f : Machine → α → Change) : Change :=
  paths.foldl (fun (m, said) path => let (m, more) := f m path; (m, said ++ more)) (m, [])

/-- End after changes. -/
def settled (c : Change) : Effect := .ofRemarks c.1 c.2 1

/-- A change that works, or else tells that it failed. -/
def attempt (t : Task) (verb : String) (path : ByteText) (m : Machine) (note : List Remark)
    (result : Except Errno Machine) : Change :=
  match result with
  | .ok m => (m, note)
  | .error e => (m, [refused t verb path e])

/-! ### Directories -/

/-- The paths of a path that lead to the directories on its way, the first one first. -/
def stages (path : ByteText) : List ByteText :=
  let start := if FileTree.isAbsolute path then ['/'] else []
  let names := FileTree.namesIn path
  (List.range names.length).map fun n => start ++ joinWith ['/'] (names.take (n + 1))

/-- Make directories. -/
def mkdir : Tool := fun t m =>
  t.withOptions ⟨"m:pvZ", [("mode", 'm'), ("parents", 'p'), ("verbose", 'v')], true⟩ 1 m fun o =>
    if o.operands.isEmpty then t.missing m 1
    else
      let usual := 0o777 - (0o777 &&& t.mask)
      let mode : Option Nat := match o.value? 'm' with
        | none => some usual
        | some text => FileMode.change? t.mask true text 0o777
      match mode with
      | none => .failed m (t.complain (chars "invalid mode " ++
          inPlainQuotes ((o.value? 'm').getD []))) 1
      | some mode =>
          let note (path : ByteText) : List Remark :=
            noted (o.has 'v') (t.name ++ chars ": created directory " ++ inQuotes path)
          let makeOne (m : Machine) (path : ByteText) (mode : Nat) : Change :=
            attempt t "cannot create directory " path m (note path) (m.makeDirectory path mode)
          settled <| overPaths m o.operands fun m path =>
            if !o.has 'p' then makeOne m path mode
            else if path.isEmpty then makeOne m path mode
            else
              let all := stages path
              let (m, said) := all.zipIdx.foldl
                (fun (state : Change) (stage, n) =>
                  let (m, said) := state
                  if !said.all (!·.isError) then state
                  else if m.isDirectory stage then state
                  else
                    let isLast := n + 1 = all.length
                    let shown := if isLast && path.getLast? = some '/' then stage ++ ['/'] else stage
                    let (m, more) := makeOne m shown (if isLast then mode else usual ||| 0o300)
                    (m, said ++ more))
                (m, [])
              (m, said)

/-- Take empty directories away. -/
def rmdir : Tool := fun t m =>
  t.withOptions ⟨"pvq", [("parents", 'p'), ("verbose", 'v'), ("ignore-fail-on-non-empty", 'q')], true⟩
    1 m fun o =>
    if o.operands.isEmpty then t.missing m 1
    else
      settled <| overPaths m o.operands fun m path =>
        let paths := if o.has 'p' then (stages path).reverse else [path]
        let (m, said, _) := paths.foldl
          (fun (state : Machine × List Remark × Bool) path =>
            let (m, said, stopped) := state
            if stopped then state
            else
              let note := noted (o.has 'v') (t.name ++ chars ": removing directory, " ++
                inQuotes path)
              match m.removeDirectory path with
              | .ok m => (m, said ++ note, false)
              | .error e =>
                  if o.has 'q' && e = Errno.notEmpty then (m, said ++ note, true)
                  else (m, said ++ note ++ [refused t "failed to remove " path e], true))
          (m, [], false)
        (m, said)

/-! ### Removing -/

mutual

/-- What is said while a node is taken away with everything below it. -/
def removals (path : ByteText) : Node → List ByteText
  | .directory _ entries =>
      removalsAmong path entries ++ [chars "removed directory " ++ inQuotes path]
  | _ => [chars "removed " ++ inQuotes path]

/-- What is said while entries of the directory of a path are taken away. -/
def removalsAmong (path : ByteText) : List (ByteText × Node) → List ByteText
  | [] => []
  | (name, node) :: rest =>
      removals (Machine.inside path name) node ++ removalsAmong path rest

end

/-- Take files away. -/
def rm : Tool := fun t m =>
  let form : OptionForm :=
    ⟨"dfiIrRv", [("force", 'f'), ("recursive", 'r'), ("verbose", 'v'), ("dir", 'd'),
      ("interactive", 'i')], true⟩
  t.withOptions form 1 m fun o =>
    let forced := o.has 'f'
    let recursive := o.has 'r' || o.has 'R'
    if o.operands.isEmpty then (if forced then .quiet m 0 else t.missing m 1)
    else
      settled <| overPaths m o.operands fun m path =>
        let name := (path.reverse.dropWhile (· = '/')).reverse
        let last := (FileTree.namesIn path).getLast?.getD []
        match m.lstat path with
        | .error e =>
            if forced && (e = Errno.noEntry || e = Errno.notDirectory) then .silent m
            else (m, [refused t "cannot remove " path e])
        | .ok node =>
            if node.isDirectory && !recursive && !(o.has 'd') then
              (m, [refused t "cannot remove " path Errno.isDirectory])
            else if node.isDirectory && (last = ['.'] || last = ['.', '.']) then
              (m, [t.complain (chars "refusing to remove '.' or '..' directory: skipping "
                ++ inQuotes path)])
            else if node.isDirectory && name.isEmpty then
              (m, [t.complain (chars "it is dangerous to operate recursively on '/'"),
                t.complain (chars "use --no-preserve-root to override this failsafe")])
            else if node.isDirectory && !recursive then
              attempt t "cannot remove " path m
                (noted (o.has 'v') (chars "removed directory " ++ inQuotes path))
                (m.removeDirectory path)
            else
              let note := (removals path node).flatMap (noted (o.has 'v'))
              if node.isDirectory then (m.removeTree path, note)
              else attempt t "cannot remove " path m note (m.unlink path)

/-- Take one name away. -/
def unlink : Tool := fun t m =>
  t.withOptions ⟨"", [], true⟩ 1 m fun o =>
    match o.operands with
    | [] => t.missing m 1
    | [path] => settled (attempt t "cannot unlink " path m [] (m.unlink path))
    | _ :: second :: _ => t.extra m second 1

/-! ### Where files go -/

/-- A path of what a path leads to in a directory. -/
def within (directory path : ByteText) : ByteText := Machine.inside directory (lastName path)

/-- The files that a tool puts somewhere with the paths they get there: into a directory, or to one
path. -/
def targets (t : Task) (m : Machine) (o : Options) (noun : String) :
    Except Effect (List (ByteText × ByteText)) :=
  match o.value? 't' with
  | some directory =>
      match m.stat directory with
      | .ok node =>
          if !node.isDirectory then
            .error (.failed m (t.complainOf (chars "target directory " ++ inQuotes directory)
              Errno.notDirectory) 1)
          else if o.operands.isEmpty then
            .error (.failed m (t.misuse (chars ("missing " ++ noun ++ " operand"))) 1)
          else .ok (o.operands.map fun path => (path, within directory path))
      | .error e =>
          .error (.failed m (t.complainOf (chars "target directory " ++ inQuotes directory) e) 1)
  | none =>
      match o.operands.reverse with
      | [] => .error (.failed m (t.misuse (chars ("missing " ++ noun ++ " operand"))) 1)
      | [only] =>
          .error (.failed m (t.misuse (chars ("missing destination " ++ noun ++ " operand after ")
            ++ inQuotes only)) 1)
      | last :: others =>
          let sources := others.reverse
          if o.has 'T' then
            match sources with
            | [path] => .ok [(path, last)]
            | _ => .error (t.extra m (o.operands.getD 2 []) 1)
          else if m.isDirectory last then .ok (sources.map fun path => (path, within last path))
          else
            match sources with
            | [path] => .ok [(path, last)]
            | _ =>
                let e := match m.stat last with
                  | .ok _ => Errno.notDirectory
                  | .error e => e
                .error (.failed m (t.complainOf (chars "target " ++ inQuotes last) e) 1)

/-- Whether two paths lead to the same file. -/
def areSame (m : Machine) (a b : ByteText) : Bool :=
  match m.lstat a, m.lstat b with
  | .ok (.file x _), .ok (.file y _) => x.number = y.number
  | .ok _, .ok _ =>
      match m.resolve false a, m.resolve false b with
      | .ok x, .ok y => x.names = y.names
      | _, _ => false
  | _, _ => false

/-- What is said of two paths of one file. -/
def sameFile (t : Task) (source target : ByteText) : Remark :=
  t.complain (inQuotes source ++ chars " and " ++ inQuotes target ++ chars " are the same file")

/-- An arrow between two paths. -/
def arrow (source target : ByteText) : ByteText :=
  inQuotes source ++ chars " -> " ++ inQuotes target

/-- Whether something is older than something else, if both are there. -/
def isOlder (m : Machine) (a b : ByteText) : Bool :=
  match m.stat a, m.stat b with
  | .ok (.file x _), .ok (.file y _) => x.stamp < y.stamp
  | _, _ => false

/-! ### Copying -/

mutual

/-- A copy of a node of which the files get numbers of their own: the copy and the next number. -/
def copyNode (mask stamp : Nat) (number : Nat) : Node → Node × Nat
  | .file info content =>
      (.file ⟨number, info.mode - (info.mode &&& mask), stamp⟩ content, number + 1)
  | .directory mode entries =>
      let (entries, number) := copyEntries mask stamp number entries
      (.directory (mode - (mode &&& mask)) entries, number)
  | other => (other, number)

/-- Copies of entries. -/
def copyEntries (mask stamp : Nat) (number : Nat) :
    List (ByteText × Node) → List (ByteText × Node) × Nat
  | [] => ([], number)
  | (name, node) :: rest =>
      let (node, number) := copyNode mask stamp number node
      let (rest, number) := copyEntries mask stamp number rest
      ((name, node) :: rest, number)

end

mutual

/-- A node into which the entries of another one are put, file by file. -/
def mergeNode : Node → Node → Node
  | .directory mode old, .directory _ new => .directory mode (mergeEntries old new)
  | _, new => new

/-- Entries with others put among them. -/
def mergeEntries (old : List (ByteText × Node)) : List (ByteText × Node) → List (ByteText × Node)
  | [] => old
  | (name, node) :: rest =>
      let merged := match (old.find? fun e => e.1 == name).map (·.2) with
        | some before => mergeNode before node
        | none => node
      mergeEntries (Node.setEntry name (some merged) old) rest

end

mutual

/-- What is said while a node is copied to a path with everything below it. -/
def copiesTold (source target : ByteText) : Node → List ByteText
  | .directory _ entries => arrow source target :: copiesToldAmong source target entries
  | _ => [arrow source target]

/-- What is said while entries of the directory of a path are copied. -/
def copiesToldAmong (source target : ByteText) : List (ByteText × Node) → List ByteText
  | [] => []
  | (name, node) :: rest =>
      copiesTold (Machine.inside source name) (Machine.inside target name) node
        ++ copiesToldAmong source target rest

end

/-- Copy a text to a path. -/
def copyText (t : Task) (m : Machine) (target : ByteText) (mode : Nat) (keepsMode : Bool)
    (text : ByteText) (note : List Remark) : Change :=
  let exists_ := m.holds target
  match m.openFile target ⟨true, false, mode⟩ with
  | .error e =>
      if !exists_ && FileTree.endsInSlash target then
        (m, [refused t "cannot create regular file " target Errno.notDirectory])
      else (m, [refused t "cannot create regular file " target e])
  | .ok (.file number, m) =>
      let m := m.append number (ByteText.toBytes text)
      ((if keepsMode then (m.setMode target mode).toOption.getD m else m), note)
  | .ok (.device .full, m) =>
      if text.isEmpty then (m, note)
      else (m, note ++ [t.complainOf (chars "error writing " ++ inQuotes target) Errno.noSpace])
  | .ok (.device _, m) => (m, note)
  | .ok (.descriptor number, m) => (m, note ++ [⟨number = 2, text⟩])

/-- Copy what a path leads to, with everything below it if so wanted. -/
def copyOne (t : Task) (o : Options) (m : Machine) (source target : ByteText) : Change :=
  let recursive := o.has 'r' || o.has 'R' || o.has 'a'
  let keepsLinks := o.has 'P' || o.has 'd' || o.has 'a' || (recursive && !o.has 'L' && !o.has 'H')
  let keepsMode := o.has 'p' || o.has 'a'
  let found := if keepsLinks then m.lstat source else m.stat source
  match found with
  | .error e => (m, [refused t "cannot stat " source e])
  | .ok (.directory mode entries) =>
      if !recursive then
        (m, [t.complain (chars "-r not specified; omitting directory " ++ inQuotes source)])
      else
        match m.resolve true source, m.resolve true target with
        | .ok from_, .ok to_ =>
            if from_.names.isPrefixOf to_.names then
              (m, [t.complain (chars "cannot copy a directory, " ++ inQuotes source
                ++ chars ", into itself, " ++ inQuotes target)])
            else
              match m.root.get? to_.names with
              | some node =>
                  if !node.isDirectory then
                    (m, [t.complain (chars "cannot overwrite non-directory " ++ inQuotes target
                      ++ chars " with directory " ++ inQuotes source)])
                  else copyTree mode entries to_
              | none => copyTree mode entries to_
        | _, .error e | .error e, _ => (m, [refused t "cannot create directory " target e])
  | .ok node =>
      let note := noted (o.has 'v') (arrow source target)
      if areSame m source target && !(keepsLinks && node.isLink)
        then (m, [sameFile t source target])
      else if m.isDirectory target then
        (m, [t.complain (chars "cannot overwrite directory " ++ inQuotes target
          ++ chars " with non-directory")])
      else if o.has 'n' && m.holds target then .silent m
      else if o.has 'u' && m.holds target && !isOlder m target source then .silent m
      else if !m.holds target && (m.lstat target).toBool && !keepsLinks then
        (m, [t.complain (chars "not writing through dangling symlink " ++ inQuotes target)])
      else if o.has 's' then
        attempt t "cannot create symbolic link " target m note (m.makeLink source target)
      else if o.has 'l' then attempt t "cannot create hard link " target m note (m.addName source target)
      else
        match node with
        | .link path =>
            let m := if m.holds target then (m.unlink target).toOption.getD m else m
            attempt t "cannot create symbolic link " target m note (m.makeLink path target)
        | node =>
            match t.readFile m source with
            | .error e => (m, [refused t "cannot open " source e])
            | .ok text =>
                let mode := if keepsMode then node.mode else node.mode - (node.mode &&& t.mask)
                copyText t m target mode keepsMode text note
where
  /-- Copy a directory with everything below it to a place. -/
  copyTree (mode : Nat) (entries : List (ByteText × Node)) (to_ : FileTree.Place) : Change :=
    let mask := if o.has 'p' || o.has 'a' then 0 else t.mask
    let (node, number) := copyNode mask m.changes m.nextFile (.directory mode entries)
    let merge (before : Option Node) : Option Node := match before with
      | some before => some (mergeNode before node)
      | none => some node
    let made := m.alter to_.names merge
    ({ made with nextFile := number },
      (copiesTold source target (.directory mode entries)).flatMap (noted (o.has 'v')))

/-- Copy files. -/
def cp : Tool := fun t m =>
  let form : OptionForm :=
    ⟨"abdfiHlLnprRst:TuvxP", [("archive", 'a'), ("force", 'f'), ("recursive", 'r'),
      ("no-clobber", 'n'), ("target-directory", 't'), ("no-target-directory", 'T'), ("update", 'u'),
      ("verbose", 'v'), ("preserve", 'p'), ("no-dereference", 'P'), ("dereference", 'L'),
      ("link", 'l'), ("symbolic-link", 's')], true⟩
  t.withOptions form 1 m fun o =>
    match targets t m o "file" with
    | .error effect => effect
    | .ok pairs => settled (overPaths m pairs fun m (source, target) => copyOne t o m source target)

/-! ### Moving -/

/-- Move what a path leads to. -/
def moveOne (t : Task) (o : Options) (m : Machine) (source target : ByteText) : Change :=
  match m.lstat source with
  | .error e => (m, [refused t "cannot stat " source e])
  | .ok node =>
      let there := m.lstat target
      let wasThere : Bool := match there with
        | .ok _ => true
        | .error _ => false
      if o.has 'n' && wasThere then .silent m
      else if o.has 'u' && wasThere && !isOlder m target source then .silent m
      else if areSame m source target then (m, [sameFile t source target])
      else
        let isBelow : Bool := match m.resolve false source, m.resolve false target with
          | .ok a, .ok b => node.isDirectory && a.names.isPrefixOf b.names
          | _, _ => false
        if isBelow then
          (m, [t.complain (chars "cannot move " ++ inQuotes source
            ++ chars " to a subdirectory of itself, " ++ inQuotes target)])
        else
          match there with
          | .ok other =>
              if other.isDirectory && !node.isDirectory then
                (m, [t.complain (chars "cannot overwrite directory " ++ inQuotes target
                  ++ chars " with non-directory")])
              else if !other.isDirectory && node.isDirectory then
                (m, [t.complain (chars "cannot overwrite non-directory " ++ inQuotes target
                  ++ chars " with directory " ++ inQuotes source)])
              else move (other.isDirectory && node.isDirectory)
          | .error _ => move false
where
  /-- Move, now that nothing speaks against it but the machine. -/
  move (overwrites : Bool) : Change :=
    match m.rename source target with
    | .ok m => (m, noted (o.has 'v') (chars "renamed " ++ arrow source target))
    | .error e =>
        let e := if e = Errno.noEntry && FileTree.endsInSlash target then Errno.notDirectory else e
        if overwrites then (m, [t.complainOf (chars "cannot overwrite " ++ inQuotes target) e])
        else
          (m, [t.complainOf
            (chars "cannot move " ++ inQuotes source ++ chars " to " ++ inQuotes target) e])

/-- Move files. -/
def mv : Tool := fun t m =>
  let form : OptionForm :=
    ⟨"bfint:TuvZ", [("force", 'f'), ("no-clobber", 'n'), ("target-directory", 't'),
      ("no-target-directory", 'T'), ("update", 'u'), ("verbose", 'v')], true⟩
  t.withOptions form 1 m fun o =>
    match targets t m o "file" with
    | .error effect => effect
    | .ok pairs => settled (overPaths m pairs fun m (source, target) => moveOne t o m source target)

/-! ### Links -/

/-- Make a link. -/
def linkOne (t : Task) (o : Options) (m : Machine) (source target : ByteText) : Change :=
  let symbolic := o.has 's'
  let (noun, sign) := if symbolic then ("symbolic", "'->'") else ("hard", "'=>'")
  let sign := chars (" " ++ String.ofList ((sign.toList.drop 1).dropLast) ++ " ")
  let note := noted (o.has 'v') (inQuotes target ++ sign ++ inQuotes source)
  let make (m : Machine) : Except Errno Machine :=
    if symbolic then m.makeLink source target else m.addName source target
  let tell (e : Errno) : Remark :=
    let about := chars ("failed to create " ++ noun ++ " link ") ++ inQuotes target
    if symbolic || e = Errno.inUse then t.complainOf about e
    else t.complainOf (about ++ chars " => " ++ inQuotes source) e
  let known : Except Errno Node := if symbolic then .ok (.device .null) else m.lstat source
  match known with
  | .error e => (m, [t.complainOf (chars "failed to access " ++ inQuotes source) e])
  | .ok node =>
      if node.isDirectory then
        (m, [t.complain (source ++ chars ": hard link not allowed for directory")])
      else
        match m.lstat target with
        | .ok other =>
            if other.isDirectory && o.has 'f' then
              (m, [t.complain (target ++ chars ": cannot overwrite directory")])
            else if o.has 'f' then
              if !symbolic && areSame m source target then (m, [sameFile t source target])
              else
                match m.unlink target with
                | .ok m =>
                    match make m with
                    | .ok m => (m, note)
                    | .error e => (m, [tell e])
                | .error e => (m, [tell e])
            else (m, [tell Errno.inUse])
        | .error _ =>
            match make m with
            | .ok m => (m, note)
            | .error e => (m, [tell e])

/-- Make links. -/
def ln : Tool := fun t m =>
  let form : OptionForm :=
    ⟨"bdFfiLnPrsS:t:Tv", [("symbolic", 's'), ("force", 'f'), ("no-dereference", 'n'),
      ("target-directory", 't'), ("no-target-directory", 'T'), ("verbose", 'v')], true⟩
  t.withOptions form 1 m fun o =>
    let isPlace (path : ByteText) : Bool :=
      m.isDirectory path && !(o.has 'n' && (m.lstat path).toOption.any (·.isLink))
    let pairs : Except Effect (List (ByteText × ByteText)) :=
      match o.operands, o.value? 't' with
      | [only], none => if o.has 'T' then
            .error (.failed m (t.misuse (chars "missing destination file operand after "
              ++ inQuotes only)) 1)
          else .ok [(only, lastName only)]
      | [source, target], none =>
          if o.has 'T' || !isPlace target then .ok [(source, target)]
          else .ok [(source, within target source)]
      | _, _ => targets t m o "file"
    match pairs with
    | .error effect => effect
    | .ok pairs => settled (overPaths m pairs fun m (source, target) => linkOne t o m source target)

/-- Give a file a further name. -/
def link : Tool := fun t m =>
  t.withOptions ⟨"", [], true⟩ 1 m fun o =>
    match o.operands with
    | [] => t.missing m 1
    | [only] => .failed m (t.misuse (chars "missing operand after " ++ inPlainQuotes only)) 1
    | [source, target] =>
        match m.addName source target with
        | .ok m => .quiet m 0
        | .error e =>
            .failed m (t.complainOf (chars "cannot create link " ++ inQuotes target ++ chars " to "
              ++ inQuotes source) e) 1
    | _ :: _ :: third :: _ => t.extra m third 1

/-! ### What is known of files -/

/-- Count files as changed, making those that are not there. -/
def touch : Tool := fun t m =>
  let form : OptionForm :=
    ⟨"acd:fhmr:t:", [("no-create", 'c'), ("date", 'd'), ("reference", 'r'), ("time", 'x')], true⟩
  t.withOptions form 1 m fun o =>
    if o.operands.isEmpty then .failed m (t.misuse (chars "missing file operand")) 1
    else
      settled <| overPaths m o.operands fun m path =>
        if m.holds path then .silent (m.touch path)
        else if o.has 'c' then .silent m
        else
          match m.openFile path ⟨false, false, 0o666 - (0o666 &&& t.mask)⟩ with
          | .ok (_, m) => .silent m
          | .error e =>
              if e = Errno.isDirectory then
                (m, [t.complainOf (chars "setting times of " ++ inQuotes path) Errno.noEntry])
              else (m, [t.complainOf (chars "cannot touch " ++ inQuotes path) e])

mutual

/-- The paths below a node, each before those below it. -/
def pathsBelow (path : ByteText) : Node → List ByteText
  | .directory _ entries => path :: pathsAmong path entries
  | _ => [path]

/-- The paths of entries of the directory of a path, and those below them. -/
def pathsAmong (path : ByteText) : List (ByteText × Node) → List ByteText
  | [] => []
  | (name, node) :: rest => pathsBelow (Machine.inside path name) node ++ pathsAmong path rest

end

/-- Change who may do what with files. -/
def chmod : Tool := fun t m =>
  let isMode (word : ByteText) : Bool := match word with
    | '-' :: c :: _ => "rwxXstugo".toList.contains c
    | _ => false
  let protect := t.arguments.find? isMode
  let arguments := match protect with
    | some mode => mode :: t.arguments.erase mode
    | none => t.arguments
  let form : OptionForm :=
    ⟨"cfRv", [("changes", 'c'), ("quiet", 'f'), ("silent", 'f'), ("recursive", 'R'),
      ("verbose", 'v'), ("reference", 'x')], true⟩
  let task := { t with arguments := if protect.isSome then arguments.drop 1 else arguments }
  task.withOptions form 1 m fun o =>
    let operands := protect.toList ++ o.operands
    match operands with
    | [] => t.missing m 1
    | [mode] => .failed m (t.misuse (chars "missing operand after " ++ inPlainQuotes mode)) 1
    | mode :: paths =>
        if (FileMode.change? t.mask false mode 0).isNone then
          .failed m (t.misuse (chars "invalid mode: " ++ inPlainQuotes mode)) 1
        else
          let all := paths.flatMap fun path =>
            if o.has 'R' then
              match m.stat path with
              | .ok node => pathsBelow path node
              | .error _ => [path]
            else [path]
          settled <| overPaths m all fun m path =>
            match m.stat path with
            | .error e =>
                let link := (m.lstat path).toOption.any (·.isLink)
                (m, if o.has 'f' then []
                  else if link then
                    [t.complain (chars "cannot operate on dangling symlink " ++ inQuotes path)]
                  else [refused t "cannot access " path e])
            | .ok node =>
                let after := (FileMode.change? t.mask node.isDirectory mode node.mode).getD node.mode
                let shown (mode : Nat) : ByteText :=
                  alignRight 4 (Nat.toDigits 8 mode) |>.map fun c => if c = ' ' then '0' else c
                let told (mode : Nat) : ByteText := shown mode ++ chars " (" ++
                  FileMode.shown mode ++ [')']
                let note :=
                  if after ≠ node.mode && (o.has 'v' || o.has 'c') then
                    noted true (chars "mode of " ++ inQuotes path ++ chars " changed from "
                      ++ told node.mode ++ chars " to " ++ told after)
                  else
                    noted (o.has 'v') (chars "mode of " ++ inQuotes path ++ chars " retained as "
                      ++ told node.mode)
                attempt t "changing permissions of " path m note (m.setMode path after)

/-- Give files a size. -/
def truncate : Tool := fun t m =>
  let form : OptionForm :=
    ⟨"cos:r:", [("no-create", 'c'), ("size", 's'), ("reference", 'r'), ("io-blocks", 'o')], true⟩
  t.withOptions form 1 m fun o =>
    match o.value? 's' with
    | none =>
        .failed m (t.misuse (chars "you must specify either '--size' or '--reference'")) 1
    | some text =>
        let (sign, rest) := match text with
          | c :: rest => if ['+', '-', '<', '>', '/', '%'].contains c then (some c, rest)
              else (none, text)
          | [] => (none, [])
        match sized? rest with
        | none => .failed m (t.complain (chars "Invalid number: " ++ inPlainQuotes text)) 1
        | some n =>
            if o.operands.isEmpty then .failed m (t.misuse (chars "missing file operand")) 1
            else
              settled <| overPaths m o.operands fun m path =>
                if o.has 'c' && !m.holds path then .silent m
                else
                  match m.openFile path ⟨false, false, 0o666 - (0o666 &&& t.mask)⟩ with
                  | .error e => (m, [t.complainOf (chars "cannot open " ++ inQuotes path
                      ++ chars " for writing") e])
                  | .ok (.file number, m) =>
                      let resize (content : Bytes) : Bytes :=
                        let old := content.length
                        let size := match sign with
                          | some '+' => old + n
                          | some '-' => old - n
                          | some '<' => min old n
                          | some '>' => max old n
                          | some '/' => if n = 0 then old else old / n * n
                          | some '%' => if n = 0 then old else (old + n - 1) / n * n
                          | _ => n
                        content.take size ++ List.replicate (size - old) 0
                      .silent (m.changeContent number resize)
                  | .ok (_, m) => .silent m

end AssemblyGate.Tool
