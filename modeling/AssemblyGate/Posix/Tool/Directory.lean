/-
**Tools that look at files.**

What is in a directory, where a path leads, and what is known of a file.

Main definitions: one tool each, named as it is called, and

* `AssemblyGate.ListForm` — how the entries of directories are listed.
-/
import AssemblyGate.Posix.Tool.Files

set_option autoImplicit false

namespace AssemblyGate

/-! ### Lists of entries -/

/-- How entries are listed: which of them, in what order, and what is told of each. -/
structure ListForm where
  showsHidden : Bool
  showsPoints : Bool
  isLong : Bool
  hasOwner : Bool
  hasGroup : Bool
  asNumbers : Bool
  marks : Option Char
  quotes : Bool
  separates : Option ByteText
  order : Option Char
  reversed : Bool
  recursive : Bool
  follows : Bool
  hasSize : Bool
  hasNumber : Bool

/-- An entry of a list: its name, the node, and the node it leads to if it is a link. -/
structure ListEntry where
  name : ByteText
  node : Node
  leadsTo : Option Node

namespace ListForm

/-- The letter of the sort of a node. -/
def sortLetter : Node → Char
  | .directory .. => 'd'
  | .link _ => 'l'
  | .device _ => 'c'
  | .descriptor _ => 'c'
  | .file .. | .program _ => '-'

/-- The kibibytes that a node takes. -/
def blocks : Node → Nat
  | .file _ content => (content.length + 4095) / 4096 * 4
  | .directory .. => 4
  | _ => 0

/-- The number of names of a node. -/
def nameCount (m : Machine) : Node → Nat
  | .file info _ => m.root.countNames info.number
  | .directory _ entries => 2 + entries.countP fun e => e.2.isDirectory
  | _ => 1

/-- The mark behind a name that tells its sort. -/
def mark (f : ListForm) (node : Node) : ByteText :=
  match f.marks with
  | none => []
  | some c =>
      if node.isDirectory then ['/']
      else if c = 'p' then []
      else if node.isLink then ['@']
      else if c = 'F' && node.isFile && node.isExecutable then ['*']
      else []

/-- A name as it is listed. -/
def shownName (f : ListForm) (name : ByteText) : ByteText :=
  if f.quotes then '"' :: name.flatMap (fun c => if c = '"' || c = '\\' then ['\\', c] else [c]) ++ ['"']
  else name

/-- The time at which a node was changed, as it is listed. -/
def shownTime : ByteText := chars "Jan  1 00:00"

/-- A table of fields in which each column has one width. -/
def columns (left : List Bool) (rows : List (List ByteText)) : List ByteText :=
  let widths := left.zipIdx.map fun (_, i) =>
    rows.foldl (fun w row => max w (row.getD i []).length) 0
  rows.map fun row =>
    joinWith [' '] ((row.zip (left.zip widths)).map fun (text, isLeft, width) =>
      if isLeft then alignLeft width text else alignRight width text)

/-- The lines of entries. -/
def lines (f : ListForm) (m : Machine) (all : List ListEntry) : List ByteText :=
  let before := columns [false, false] <| all.map fun (e : ListEntry) =>
    [if f.hasNumber then Numeral.decimal (match e.node with
        | .file info _ => info.number
        | _ => 1) else [],
      if f.hasSize then Numeral.decimal (blocks e.node) else []]
  let facts := if !f.isLong then []
    else
      columns ([true, false] ++ (if f.hasOwner then [true] else []) ++
        (if f.hasGroup then [true] else [])
          ++ [false, true]) <|
        all.map fun (e : ListEntry) =>
          let person := if f.asNumbers then ['0'] else chars "root"
          [sortLetter e.node :: FileMode.shown e.node.mode, Numeral.decimal (nameCount m e.node)]
            ++ (if f.hasOwner then [person] else []) ++ (if f.hasGroup then [person] else [])
            ++ [Numeral.decimal e.node.size, shownTime]
  all.zipIdx.map fun (e, i) =>
    let number := (before.getD i []).dropWhile fun c => !f.hasNumber && !f.hasSize && c = ' '
    let number := if f.hasNumber && !f.hasSize then (number.reverse.dropWhile (· = ' ')).reverse ++ [' ']
      else if f.hasSize && !f.hasNumber then number.drop 1 ++ [' ']
      else if number.isEmpty then [] else number ++ [' ']
    let name := f.shownName e.name
    if f.isLong then
      let target := match e.node with
        | .link path => chars " -> " ++ f.shownName path
            ++ (e.leadsTo.map f.mark).getD []
        | node => f.mark node
      number ++ facts.getD i [] ++ ' ' :: name ++ target
    else number ++ name ++ f.mark e.node

/-- Entries in the order in which they are listed. -/
def sorted (f : ListForm) (all : List ListEntry) : List ListEntry :=
  let byName := all.mergeSort fun a b => !(b.name < a.name)
  let ordered := match f.order with
    | some 'S' => byName.mergeSort fun a b => b.node.size ≤ a.node.size
    | some 't' =>
        let stamp (e : ListEntry) : Nat := match e.node with
          | .file info _ => info.stamp
          | _ => 0
        byName.mergeSort fun a b => stamp b ≤ stamp a
    | some 'U' | some 'f' => all
    | some 'X' =>
        let ending (e : ListEntry) : ByteText :=
          if e.name.contains '.' then (e.name.reverse.takeWhile (· ≠ '.')).reverse else []
        byName.mergeSort fun a b => !(ending b < ending a)
    | _ => byName
  if f.reversed then ordered.reverse else ordered

/-- What is said of entries. -/
def text (f : ListForm) (m : Machine) (all : List ListEntry) : ByteText :=
  let lines := f.lines m all
  match f.separates with
  | some between => if lines.isEmpty then [] else joinWith between lines ++ ['\n']
  | none => joinLines lines

/-- The entries of a directory that are listed. -/
def entriesOf (f : ListForm) (m : Machine) (path : ByteText) (node : Node) : List ListEntry :=
  let lookup (name : ByteText) (node : Node) : ListEntry :=
    let leadsTo := if node.isLink then (m.stat (Machine.inside path name)).toOption else none
    ⟨name, if f.follows then leadsTo.getD node else node, leadsTo⟩
  let shown := node.entries.filter fun e => f.showsHidden || e.1.head? ≠ some '.'
  let above := (m.stat (Machine.inside path ['.', '.'])).toOption.getD node
  let points : List ListEntry :=
    if f.showsPoints then [⟨['.'], node, none⟩, ⟨['.', '.'], above, none⟩] else []
  f.sorted (points ++ shown.map fun e => lookup e.1 e.2)

/-- The list of a directory. -/
def directory (f : ListForm) (m : Machine) (path : ByteText) (node : Node) : ByteText :=
  let all := f.entriesOf m path node
  let total := all.foldl (fun n e => n + blocks e.node) 0
  (if f.isLong || f.hasSize then chars "total " ++ Numeral.decimal total ++ ['\n'] else [])
    ++ f.text m all

mutual

/-- The directories below a node with their paths, in the order in which they are listed. -/
def below (f : ListForm) (path : ByteText) : Node → List (ByteText × Node)
  | .directory mode entries =>
      (path, .directory mode entries)
        :: ((belowAmong f path entries).mergeSort fun a b =>
            !(if f.reversed then a.1 < b.1 else b.1 < a.1)).flatMap (·.2)
  | _ => []

/-- The directories below entries of a directory, under the names of these. -/
def belowAmong (f : ListForm) (path : ByteText) :
    List (ByteText × Node) → List (ByteText × List (ByteText × Node))
  | [] => []
  | (name, node) :: rest =>
      let here := if f.showsHidden || name.head? ≠ some '.' then
          below f (Machine.inside path name) node
        else []
      (name, here) :: belowAmong f path rest

end

end ListForm

namespace Tool

/-- List entries of directories. -/
def ls : Tool := fun t m =>
  let form : OptionForm :=
    ⟨"aAbBcCdDfFgGhHiI:klLmnNopqQrRsStT:uUvw:xXZ1zYj::",
      [("all", 'a'), ("almost-all", 'A'), ("directory", 'd'), ("classify", 'F'), ("file-type", 'Y'),
        ("human-readable", 'h'), ("inode", 'i'), ("dereference", 'L'), ("numeric-uid-gid", 'n'),
        ("quote-name", 'Q'), ("reverse", 'r'), ("recursive", 'R'), ("size", 's'), ("color", 'j'),
        ("no-group", 'G'), ("literal", 'N'), ("group-directories-first", 'z')], true⟩
  t.withOptions form 2 m fun o =>
    let asIs := o.has 'f'
    let format := o.lastOf? ['l', 'n', 'g', 'o', 'm', '1', 'C', 'x']
    let f : ListForm :=
      { showsHidden := o.has 'a' || o.has 'A' || asIs
        showsPoints := o.has 'a' || asIs
        isLong := o.has 'l' || o.has 'n' || o.has 'g' || o.has 'o'
        hasOwner := !o.has 'g', hasGroup := !(o.has 'o' || o.has 'G')
        asNumbers := o.has 'n'
        marks := o.lastOf? ['F', 'p', 'Y'], quotes := o.has 'Q'
        separates := match format with
          | some 'm' => some [',', ' ']
          | some 'C' | some 'x' => some [' ', ' ']
          | _ => none
        order := o.lastOf? ['S', 't', 'U', 'f', 'X'], reversed := o.has 'r'
        recursive := o.has 'R', follows := o.has 'L', hasSize := o.has 's', hasNumber := o.has 'i' }
    let operands := if o.operands.isEmpty then [['.']] else o.operands
    let look (path : ByteText) : Except Errno (ListEntry × Bool) :=
      let asLink := f.isLong || o.has 'd' || f.marks = some 'F'
      match m.lstat path with
      | .error e => .error e
      | .ok node =>
          let leadsTo := (m.stat path).toOption
          let followed := match leadsTo with
            | some target => if f.follows || (!asLink && target.isDirectory) then target else node
            | none => node
          if f.follows && leadsTo.isNone then .error Errno.noEntry
          else .ok (⟨path, followed, if node.isLink then leadsTo else none⟩,
            followed.isDirectory && !o.has 'd')
    let found := operands.map fun path => (path, look path)
    let complaints := found.filterMap fun (path, result) => match result with
      | .error e => some (refused t "cannot access " path e)
      | .ok _ => none
    let files := found.filterMap fun (_, result) => match result with
      | .ok (e, false) => some e
      | _ => none
    let directories := f.sorted <| found.filterMap fun (_, result) => match result with
      | .ok (e, true) => some e
      | _ => none
    let all := directories.flatMap fun (e : ListEntry) =>
      if f.recursive then f.below e.name e.node else [(e.name, e.node)]
    let hasHeads := 1 < operands.length || f.recursive
    let lists := all.map fun (path, node) =>
      (if hasHeads then path ++ [':', '\n'] else []) ++ f.directory m path node
    let first := f.text m (f.sorted files)
    let texts := (if files.isEmpty then [] else [first]) ++ lists
    let said := complaints ++ [⟨false, joinWith ['\n'] texts⟩]
    .ended m said (if complaints.isEmpty then 0 else 2)

/-! ### Where paths lead -/

/-- The path that a path leads to through all links: of its names the last one, all of them or none
have to be there. -/
def canonical (m : Machine) (existing : Char) (path : ByteText) : Except Errno ByteText :=
  if path.isEmpty then .error Errno.noEntry
  else
    match existing with
    | 'e' =>
        match m.stat path, m.resolve true path with
        | .ok _, .ok place => .ok (Machine.pathOf place.names)
        | .error e, _ | _, .error e => .error e
    | 'm' =>
        let names := FileTree.namesIn path
        let start := if FileTree.isAbsolute path then [] else m.current
        let (found, _) := names.foldl
          (fun (state : List ByteText × Bool) name =>
            let (found, exists_) := state
            if name = ['.'] then state
            else if name = ['.', '.'] then (found.dropLast, exists_)
            else
              match m.resolve true (Machine.pathOf (found ++ [name])) with
              | .ok place => if exists_ then (place.names, exists_) else (found ++ [name], false)
              | .error _ => (found ++ [name], false))
          (start, true)
        .ok (Machine.pathOf found)
    | _ =>
        match m.resolve true path with
        | .error e => .error e
        | .ok place =>
            match m.root.get? place.names with
            | some node =>
                if place.asDirectory && !node.isDirectory then .error Errno.notDirectory
                else .ok (Machine.pathOf place.names)
            | none => .ok (Machine.pathOf place.names)

/-- Say where links lead. -/
def readlink : Tool := fun t m =>
  let form : OptionForm :=
    ⟨"efmnqsvz", [("canonicalize", 'f'), ("canonicalize-existing", 'e'),
      ("canonicalize-missing", 'm'), ("no-newline", 'n'), ("quiet", 'q'), ("silent", 'q'),
      ("verbose", 'v'), ("zero", 'z')], true⟩
  t.withOptions form 1 m fun o =>
    if o.operands.isEmpty then t.missing m 1
    else
      let mode := o.lastOf? ['e', 'f', 'm']
      let ending := if o.has 'z' then ['\x00']
        else if o.has 'n' && o.operands.length = 1 then [] else ['\n']
      let results := o.operands.map fun path =>
        let found : Except Errno ByteText := match mode with
          | some mode => canonical m mode path
          | none =>
              match m.lstat path with
              | .ok (.link target) => .ok target
              | .ok _ => .error Errno.invalid
              | .error e => .error e
        (path, found)
      let said := results.filterMap fun (path, found) => match found with
        | .ok target => some (⟨false, target ++ ending⟩ : Remark)
        | .error e => if o.has 'v' then some (t.complainAbout path e) else none
      let failed := results.any fun (_, found) => match found with
        | .ok _ => false
        | .error _ => true
      .ended m said (if failed then 1 else 0)

/-- Say the absolute paths that paths lead to. -/
def realpath : Tool := fun t m =>
  let form : OptionForm :=
    ⟨"eEmLPqsz", [("canonicalize-existing", 'e'), ("canonicalize-missing", 'm'), ("quiet", 'q'),
      ("strip", 's'), ("no-symlinks", 's'), ("zero", 'z')], true⟩
  t.withOptions form 1 m fun o =>
    if o.operands.isEmpty then t.missing m 1
    else
      let mode := (o.lastOf? ['e', 'm', 's']).getD 'f'
      let ending := if o.has 'z' then ['\x00'] else ['\n']
      let said := o.operands.filterMap fun path =>
        match canonical m mode path with
        | .ok target => some (⟨false, target ++ ending⟩ : Remark)
        | .error e => if o.has 'q' then none else some (t.complainAbout path e)
      let failed := o.operands.any fun path => match canonical m mode path with
        | .ok _ => false
        | .error _ => true
      .ended m said (if failed then 1 else 0)

/-! ### Facts -/

/-- The name of the sort of a node. -/
def sortName : Node → String
  | .file _ [] => "regular empty file"
  | .file .. | .program _ => "regular file"
  | .directory .. => "directory"
  | .link _ => "symbolic link"
  | .device _ | .descriptor _ => "character special file"

/-- What a letter of a format stands for. -/
def fact (m : Machine) (path : ByteText) (node : Node) (letter : Char) : ByteText :=
  match letter with
  | 'n' => path
  | 'N' =>
      match node with
      | .link target => arrow path target
      | _ => inQuotes path
  | 's' => Numeral.decimal node.size
  | 'a' => Nat.toDigits 8 node.mode
  | 'A' => ListForm.sortLetter node :: FileMode.shown node.mode
  | 'F' => chars (sortName node)
  | 'U' | 'G' => chars "root"
  | 'u' | 'g' => ['0']
  | 'h' => Numeral.decimal (ListForm.nameCount m node)
  | 'b' => Numeral.decimal (ListForm.blocks node * 2)
  | 'B' => chars "512"
  | 'o' => chars "4096"
  | 'i' => match node with
      | .file info _ => Numeral.decimal info.number
      | _ => ['1']
  | 'f' => Nat.toDigits 16 (node.mode + (match node with
      | .directory .. => 0o40000
      | .link _ => 0o120000
      | .device _ | .descriptor _ => 0o20000
      | _ => 0o100000))
  | '%' => ['%']
  | _ => ['?']

/-- A format with the facts of a node in it. -/
def withFacts (m : Machine) (escapes : Bool) (path : ByteText) (node : Node) :
    Nat → ByteText → ByteText
  | 0, _ => []
  | _, [] => []
  | room + 1, '%' :: rest =>
      let isPart (c : Char) : Bool := Numeral.isDigit c || c = '-' || c = '.' || c = '#' || c = ' '
      let layout := rest.takeWhile isPart
      match rest.drop layout.length with
      | letter :: rest =>
          let value := fact m path node letter
          let width := Numeral.ofDigits (layout.filter Numeral.isDigit)
          let padded := if layout.contains '-' then alignLeft width value
            else if layout.head? = some '0' then
              List.replicate (width - value.length) '0' ++ value
            else alignRight width value
          padded ++ withFacts m escapes path node room rest
      | [] => ['%']
  | room + 1, '\\' :: rest =>
      if escapes then
        let (byte, rest) := Escape.read rest
        byte :: withFacts m escapes path node room rest
      else '\\' :: withFacts m escapes path node room rest
  | room + 1, c :: rest => c :: withFacts m escapes path node room rest

/-- Say what is known of files. -/
def stat : Tool := fun t m =>
  let form : OptionForm :=
    ⟨"Lfc:tp:", [("dereference", 'L'), ("file-system", 'f'), ("format", 'c'), ("printf", 'p'),
      ("terse", 't')], true⟩
  t.withOptions form 1 m fun o =>
    if o.operands.isEmpty then t.missing m 1
    else
      let usual := chars (String.join
        ["  File: %N\n  Size: %-10s\tBlocks: %-10b IO Block: %-6o %F\n",
          "Device: 0,1\tInode: %-11i Links: %h\n",
          "Access: (%04a/%10A)  Uid: (    0/    root)   Gid: (    0/    root)"])
      let said := o.operands.map fun path =>
        match if o.has 'L' then m.stat path else m.lstat path with
        | .error e => refused t "cannot statx " path e
        | .ok node =>
            let (format, escapes, ending) : ByteText × Bool × ByteText :=
              match o.lastOf? ['c', 'p'] with
              | some 'p' => ((o.value? 'p').getD [], true, [])
              | some _ => ((o.value? 'c').getD [], false, ['\n'])
              | none => (usual, false, ['\n'])
            ⟨false, withFacts m escapes path node (format.length + 1) format ++ ending⟩
      .ofRemarks m said 1

/-! ### New files -/

/-- Make a file or a directory with a name of its own. -/
def mktemp : Tool := fun t m =>
  let form : OptionForm :=
    ⟨"dup:tq", [("directory", 'd'), ("dry-run", 'u'), ("tmpdir", 'p'), ("quiet", 'q')], true⟩
  t.withOptions form 1 m fun o =>
    let usual := (t.variableOf "TMPDIR").getD (chars "/tmp")
    let place := (o.value? 'p').map fun p => if p.isEmpty then usual else p
    let template := match o.operands with
      | [] => Machine.inside (place.getD usual) (chars "tmp.XXXXXXXXXX")
      | path :: _ =>
          if o.has 't' then Machine.inside usual path
          else
            match place with
            | some directory => Machine.inside directory path
            | none => path
    let before := (template.reverse.dropWhile (· ≠ 'X')).reverse
    let size := (before.reverse.takeWhile (· = 'X')).length
    if size < 3 then
      let shown := o.operands.headD template
      .failed m (t.complain (chars "too few X's in template " ++ inPlainQuotes shown)) 1
    else
      let digits := Nat.toDigits 16 (m.nextFile + m.changes)
      let fresh := (List.replicate size 'a' ++ digits).drop digits.length
      let path := before.take (before.length - size) ++ fresh ++ template.drop before.length
      let counted := { m with nextFile := m.nextFile + 1 }
      let refuse (e : Errno) : Effect :=
        let noun := if o.has 'd' then "directory" else "file"
        .failed m (t.complainOf (chars ("failed to create " ++ noun ++ " via template ")
          ++ inPlainQuotes template) e) 1
      if o.has 'u' then .say counted (path ++ ['\n'])
      else if o.has 'd' then
        match counted.makeDirectory path 0o700 with
        | .ok m => .say m (path ++ ['\n'])
        | .error e => refuse e
      else
        match counted.openFile path ⟨true, true, 0o600⟩ with
        | .ok (_, m) => .say m (path ++ ['\n'])
        | .error e => refuse e

/-- Copy files and say who may do what with them, or make directories. -/
def install : Tool := fun t m =>
  let form : OptionForm :=
    ⟨"bcCdDg:m:o:psS:t:Tv", [("directory", 'd'), ("mode", 'm'), ("target-directory", 't'),
      ("no-target-directory", 'T'), ("verbose", 'v')], true⟩
  t.withOptions form 1 m fun o =>
    match FileMode.change? 0 false ((o.value? 'm').getD (chars "755")) 0 with
    | none => .failed m (t.complain (chars "invalid mode " ++
        inPlainQuotes ((o.value? 'm').getD []))) 1
    | some mode =>
        if o.has 'd' then
          settled <| overPaths m o.operands fun m path =>
            (stages path).foldl
              (fun (state : Change) stage =>
                if state.1.isDirectory stage then state
                else
                  match state.1.makeDirectory stage 0o755 with
                  | .ok m => (m, state.2)
                  | .error e => (state.1, state.2 ++ [refused t "cannot create directory " path e]))
              (m, [])
        else
          match targets t m o "file" with
          | .error effect => effect
          | .ok pairs =>
              settled <| overPaths m pairs fun m (source, target) =>
                match m.stat source with
                | .error e => (m, [refused t "cannot stat " source e])
                | .ok node =>
                    if node.isDirectory then
                      (m, [t.complain (chars "omitting directory " ++ inQuotes source)])
                    else
                      let m := if m.isFile target then (m.unlink target).toOption.getD m else m
                      match t.readFile m source with
                      | .error e => (m, [refused t "cannot open " source e])
                      | .ok text =>
                          copyText t m target mode true text
                            (noted (o.has 'v') (arrow source target))

/-! ### The machine -/

/-- Say a fixed text. -/
def saying (text : String) : Tool := fun _ m => .say m (chars text ++ ['\n'])

/-- Say who runs this. -/
def id : Tool := fun t m =>
  t.withOptions ⟨"agGnruzZ", [("user", 'u'), ("group", 'g'), ("groups", 'G'), ("name", 'n')], true⟩ 1 m
    fun o =>
      let isOne := o.has 'u' || o.has 'g' || o.has 'G'
      let text := if !isOne then "uid=0(root) gid=0(root) groups=0(root)"
        else if o.has 'n' then "root" else "0"
      .say m (chars text ++ ['\n'])

/-- Say what the machine is. -/
def uname : Tool := fun t m =>
  let form : OptionForm :=
    ⟨"asnrvmpio", [("all", 'a'), ("kernel-name", 's'), ("nodename", 'n'), ("kernel-release", 'r'),
      ("kernel-version", 'v'), ("machine", 'm'), ("operating-system", 'o')], true⟩
  t.withOptions form 1 m fun o =>
    match o.operands with
    | operand :: _ => t.extra m operand 1
    | [] =>
        let facts : List (Char × String) :=
          [('s', "Linux"), ('n', "localhost"), ('r', "6.1.0"), ('v', "#1 SMP"), ('m', "x86_64"),
            ('p', "x86_64"), ('i', "x86_64"), ('o', "GNU/Linux")]
        let wanted := facts.filter fun e =>
          o.has e.1 || o.has 'a' && e.1 ≠ 'p' && e.1 ≠ 'i' || o.given.isEmpty && e.1 = 's'
        .say m (joinWith [' '] (wanted.map fun e => chars e.2) ++ ['\n'])

/-- Say which terminal the input comes from: none. -/
def tty : Tool := fun t m =>
  t.withOptions ⟨"s", [("silent", 's'), ("quiet", 's')], true⟩ 2 m fun o =>
    .ended m (if o.has 's' then [] else [⟨false, chars "not a tty\n"⟩]) 1

end Tool

end AssemblyGate
