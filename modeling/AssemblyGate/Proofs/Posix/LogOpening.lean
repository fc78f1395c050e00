/-
**Log files that are opened.**

To open log files may make directories and files.  All of them are empty and stand under names that
were free, so whatever a machine holds is still there, and every path that led to something leads
there.  A file that is opened is the one that its path leads to from then on, also after others have
been opened: two paths that lead to one file have one sink.

Main definitions:

* `AssemblyGate.Machine.Extends` — a machine with further empty files and directories;
* `AssemblyGate.Machine.Sound` — a machine whose current directory is there and whose files bear
  numbers of files;
* `AssemblyGate.Machine.Serves` — a path leads to what a sink writes to.

Main results:

* `AssemblyGate.FileTree.resolve_directory` — a path leads to a place in a directory;
* `AssemblyGate.Machine.openFile_atEnd` — a log file that is opened takes nothing away;
* `AssemblyGate.Machine.directs_of_openOnce` — **the sinks of a journal are those of its paths**.
-/
import AssemblyGate.Proofs.Posix.Growth

set_option autoImplicit false

namespace AssemblyGate

/-! ### Directories on the way -/

namespace Node

theorem get?_append (first second : List ByteText) (root : Node) :
    root.get? (first ++ second) = (root.get? first).bind (get? second) := by
  induction first generalizing root with
  | nil => rfl
  | cons name rest ih =>
      rw [List.cons_append, get?, get?]
      cases root.child? name with
      | none => rfl
      | some next => exact ih next

/-- Names lead to a directory. -/
def HasDirectory (root : Node) (names : List ByteText) : Prop :=
  ∃ node, root.get? names = some node ∧ node.isDirectory = true

/-- Only a directory has entries. -/
theorem isDirectory_of_get? {node found : Node} {name : ByteText} {rest : List ByteText}
    (h : node.get? (name :: rest) = some found) : node.isDirectory = true := by
  cases node with
  | directory => rfl
  | file | link | device | descriptor | program => cases h

/-- What lies on the way to a directory is a directory. -/
theorem HasDirectory.of_append {root : Node} {first second : List ByteText}
    (h : HasDirectory root (first ++ second)) : HasDirectory root first := by
  obtain ⟨node, hnode, hdirectory⟩ := h
  cases second with
  | nil => exact ⟨node, by simpa using hnode, hdirectory⟩
  | cons name rest =>
      rw [get?_append] at hnode
      obtain ⟨above, habove, hbelow⟩ := Option.bind_eq_some_iff.1 hnode
      exact ⟨above, habove, isDirectory_of_get? hbelow⟩

theorem HasDirectory.top {root : Node} {names : List ByteText} (h : HasDirectory root names) :
    HasDirectory root [] :=
  of_append h

theorem HasDirectory.mono {root other : Node} (hextends : root.Extends other)
    {names : List ByteText} (h : HasDirectory root names) : HasDirectory other names := by
  obtain ⟨node, hnode, hdirectory⟩ := h
  obtain ⟨kept, hkept, hface⟩ := hextends.grows names node hnode
  exact ⟨kept, hkept, by rw [← isDirectory_face, hface, isDirectory_face, hdirectory]⟩

end Node

namespace FileTree

/-- A way from a directory leads to a place in a directory. -/
theorem walk_directory {root : Node} {follow : Bool} {links : Nat} {directory : List ByteText}
    {asDirectory : Bool} {names : List ByteText} {place : Place}
    (hdirectory : root.HasDirectory directory)
    (h : walk root follow links directory asDirectory names = .ok place) :
    root.HasDirectory place.directory := by
  fun_induction walk root follow links directory asDirectory names with
  | case1 | case5 | case9 =>
      cases h
      exact hdirectory
  | case2 links directory asDirectory rest ih => exact ih hdirectory h
  | case3 links directory asDirectory rest hhere ih =>
      -- a step upwards: to the directory above, or nowhere from the root
      refine ih ?_ h
      rcases List.eq_nil_or_concat directory with rfl | ⟨above, name, rfl⟩
      · exact hdirectory
      · rw [List.concat_eq_append, List.dropLast_concat]
        rw [List.concat_eq_append] at hdirectory
        exact hdirectory.of_append
  | case8 directory asDirectory name rest hhere hup hlong target hlink hfollows links hempty ih =>
      refine ih ?_ h
      split
      · exact hdirectory.top
      · exact hdirectory
  | case11 links directory asDirectory name rest hhere hup hlong hend found hsort hlink hfound ih =>
      exact ih ⟨found, hfound, hsort⟩ h
  | case4 | case6 | case7 | case10 | case12 => cases h

theorem resolve_directory {root : Node} {current : List ByteText} {follow : Bool} {path : ByteText}
    {place : Place} (hcurrent : root.HasDirectory current)
    (h : resolve root current follow path = .ok place) : root.HasDirectory place.directory := by
  unfold resolve at h
  split at h
  · cases h
  split at h
  · cases h
  refine walk_directory ?_ h
  split
  · exact hcurrent.top
  · exact hcurrent

end FileTree

namespace Machine

/-! ### Machines with more files -/

/-- A machine with further files and directories.  The new files are empty and bear new numbers. -/
structure Extends (m other : Machine) : Prop where
  root : m.root.Extends other.root
  files : ∀ names info content, other.root.get? names = some (.file info content) →
    m.root.get? names = some (.file info content) ∨ content = [] ∧ m.nextFile ≤ info.number
  nextFile : m.nextFile ≤ other.nextFile
  current : other.current = m.current
  stdout : other.stdout = m.stdout
  stderr : other.stderr = m.stderr

namespace Extends

theorem refl (m : Machine) : Extends m m :=
  ⟨.refl _, fun _ _ _ h => .inl h, Nat.le_refl _, rfl, rfl, rfl⟩

theorem trans {m other third : Machine} (h : Extends m other) (h' : Extends other third) :
    Extends m third where
  root := h.root.trans h'.root
  files := by
    intro names info content hfile
    rcases h'.files names info content hfile with hfile | ⟨hempty, hnumber⟩
    · exact h.files names info content hfile
    · exact .inr ⟨hempty, Nat.le_trans h.nextFile hnumber⟩
  nextFile := Nat.le_trans h.nextFile h'.nextFile
  current := h'.current.trans h.current
  stdout := h'.stdout.trans h.stdout
  stderr := h'.stderr.trans h.stderr

/-- A path leads to the place that it led to, unless a link is new there. -/
theorem resolve {m other : Machine} (h : Extends m other) {path : ByteText}
    {follow : Bool} {place : FileTree.Place} (hplace : m.resolve follow path = .ok place)
    (hlast : FileTree.NoNewLink m.root other.root place.names) :
    other.resolve follow path = .ok place := by
  unfold Machine.resolve at hplace ⊢
  rw [h.current]
  exact FileTree.resolve_of_grows h.root.grows hplace hlast

/-- A node under a name that was free, if there is no file in it or it is a new empty one. -/
theorem alter {m : Machine} {names : List ByteText} {node : Node} (hfree : m.root.get? names = none)
    (hnode : ∀ rest info content, node.get? rest = some (.file info content) →
      content = [] ∧ m.nextFile ≤ info.number) :
    Extends m (m.alter names fun _ => some node) := by
  rcases Node.grafts_or_eq hfree node with hgrafts | ⟨heq, -⟩
  · refine ⟨.of_grafts hgrafts, ?_, Nat.le_refl _, rfl, rfl, rfl⟩
    intro others info content hfile
    rcases hgrafts.get?_or hfile rfl with hold | ⟨rest, hnew⟩
    · exact .inl hold
    · exact .inr (hnode rest info content hnew)
  · have hroot : (m.alter names fun _ => some node).root = m.root := heq
    exact ⟨hroot ▸ .refl _, fun _ _ _ h => .inl (hroot ▸ h), Nat.le_refl _, rfl, rfl, rfl⟩

theorem makeDirectory {m other : Machine} {path : ByteText} {mode : Nat}
    (h : m.makeDirectory path mode = .ok other) : Extends m other := by
  obtain ⟨place, hfree, rfl⟩ := exists_free_of_make h
  refine .alter hfree fun rest info content hfile => ?_
  -- a directory without entries holds no file
  cases rest <;> cases hfile

end Extends

/-- A machine whose current directory is there and whose files bear numbers of files, which devices
do not have. -/
structure Sound (m : Machine) : Prop where
  current : m.root.HasDirectory m.current
  files : ∀ names info content, m.root.get? names = some (.file info content) →
    fullNumber < info.number
  nextFile : fullNumber < m.nextFile

theorem Sound.extends {m other : Machine} (h : m.Sound) (hextends : m.Extends other) :
    other.Sound where
  current := hextends.current ▸ h.current.mono hextends.root
  files := by
    intro names info content hfile
    rcases hextends.files names info content hfile with hold | ⟨-, hnumber⟩
    · exact h.files names info content hold
    · exact Nat.lt_of_lt_of_le h.nextFile hnumber
  nextFile := Nat.lt_of_lt_of_le h.nextFile hextends.nextFile

/-! ### What a sink writes to -/

/-- A path leads to something that is no directory, and a sink writes to it if it is a file. -/
structure Serves (m : Machine) (path : ByteText) (sink : Sink) (place : FileTree.Place)
    (node : Node) : Prop where
  resolves : m.resolve true path = .ok place
  found : m.root.get? place.names = some node
  asDirectory : place.asDirectory = false
  isDirectory : node.isDirectory = false
  writes : ∀ info content, node = .file info content → sink = .file info.number

/-- A path leads to what it led to. -/
theorem Serves.extends {m other : Machine} {path : ByteText} {sink : Sink} {place : FileTree.Place}
    {node : Node} (h : m.Serves path sink place node) (hextends : m.Extends other) :
    other.Serves path sink place node where
  resolves := hextends.resolve h.resolves
    (FileTree.noNewLink_of_grows hextends.root.grows h.found)
  found := hextends.root.get? h.found h.isDirectory
  asDirectory := h.asDirectory
  isDirectory := h.isDirectory
  writes := h.writes

/-- A new file stands where its path leads. -/
theorem serves_of_new {m next : Machine} (hsound : m.Sound) {path : ByteText}
    {place : FileTree.Place} (hplace : m.resolve true path = .ok place)
    (hfree : m.root.get? place.names = none) (hsort : place.asDirectory = false)
    {info : FileInfo} (hextends : m.Extends next)
    (hroot : next.root = m.root.alter (fun _ => some (.file info [])) place.names) :
    next.Serves path (.file info.number) place (.file info []) := by
  have hdirectory := FileTree.resolve_directory hsound.current hplace
  have hgrafts : Node.Grafts (.file info []) place.names m.root next.root := by
    rcases Node.grafts_or_eq hfree (.file info []) with hgrafts | ⟨-, hparent⟩
    · exact hroot ▸ hgrafts
    · -- a place has a directory above it
      obtain ⟨node, hnode, hsort⟩ := hdirectory
      unfold FileTree.Place.names at hparent hfree
      cases hname : place.name with
      | none => simp [hname, hnode] at hfree
      | some name => simp [hname, hnode, hsort] at hparent
  have hfound := hgrafts.get?_self
  refine ⟨hextends.resolve hplace fun target htarget => ?_, hfound, hsort, rfl, ?_⟩
  · rw [hfound] at htarget
    cases htarget
  · rintro _ _ ⟨⟩
    rfl

/-- A file that is opened at its end takes nothing away, and its path leads to it. -/
theorem openFile_atEnd {m next : Machine} (hsound : m.Sound) {path : ByteText} {opened : Opened}
    (h : m.openFile path .atEnd = .ok (opened, next)) :
    m.Extends next ∧ ∃ place node, next.Serves path opened.sink place node := by
  obtain ⟨place, hplace, hsort, hopens⟩ := opens_of_openFile h
  replace hplace : m.resolve true path = .ok place := hplace
  cases hopens with
  | made hfree =>
      have hextends : m.Extends { m.alter place.names fun _ =>
          some (.file ⟨m.nextFile, OpenWish.atEnd.mode, m.changes⟩ []) with
          nextFile := m.nextFile + 1 } := by
        refine (Extends.alter hfree ?_).trans
          ⟨.refl _, fun _ _ _ h => .inl h, Nat.le_succ _, rfl, rfl, rfl⟩
        -- the new file is empty, and its number is the next one
        intro rest info content hfile
        cases rest with
        | nil =>
            cases hfile
            exact ⟨rfl, Nat.le_refl _⟩
        | cons name rest => cases hfile
      exact ⟨hextends, place, _, serves_of_new hsound hplace hfree hsort hextends rfl⟩
  | file hfound =>
      refine ⟨.refl m, place, _, hplace, hfound, hsort, rfl, ?_⟩
      rintro _ _ ⟨⟩
      rfl
  | device hfound => exact ⟨.refl m, place, _, hplace, hfound, hsort, rfl, by rintro _ _ ⟨⟩⟩
  | descriptor hfound => exact ⟨.refl m, place, _, hplace, hfound, hsort, rfl, by rintro _ _ ⟨⟩⟩

/-! ### The files of a journal -/

namespace Extends

theorem makeLogDirectory (path : String) (m : Machine) :
    Extends m (logFiles.makeDirectory path m).2 := by
  change Extends m (withPath _ path m).2
  rcases withPath_cases (fun path m =>
      (m.makeDirectory path usualDirectoryMode).map fun m => ((), m)) path m with
    ⟨fault, hfailed⟩ | ⟨⟨⟩, next, hdone, hmade⟩
  · rw [hfailed]
    exact .refl m
  · rw [hmade]
    cases hnext : m.makeDirectory (ByteText.ofString path) usualDirectoryMode with
    | error e => simp [hnext, Except.map] at hdone
    | ok made =>
        obtain rfl : made = next := by simpa [hnext, Except.map] using hdone
        exact .makeDirectory hnext

/-- To make a directory and those above it takes nothing away, whether or not it succeeds. -/
theorem ensureFrom (room : Nat) (path : String) (m : Machine) :
    Extends m (logFiles.ensureFrom room path m).2 := by
  induction room generalizing path m with
  | zero => exact .refl m
  | succ room ih =>
      -- one attempt, then those above, then one more; each attempt takes nothing away
      have hmake := makeLogDirectory path m
      rw [LogFiles.ensureFrom]
      split
      · exact .refl m
      rcases hmade : logFiles.makeDirectory path m with ⟨fault | ⟨⟩, made⟩
      case ok => simpa [hmade] using hmake
      rw [hmade] at hmake
      dsimp only
      split
      case isFalse => exact hmake
      cases Path.parent? path with
      | none => exact hmake
      | some above =>
          dsimp only
          have habove := hmake.trans (ih above made)
          rcases hensured : logFiles.ensureFrom room above made with ⟨fault | ⟨⟩, ensured⟩
          case error => simpa [hensured] using habove
          rw [hensured] at habove
          dsimp only
          have hsettle := habove.trans (makeLogDirectory path ensured)
          unfold LogFiles.settle
          rcases hsettled : logFiles.makeDirectory path ensured with ⟨fault | ⟨⟩, settled⟩
          all_goals
            rw [hsettled] at hsettle
            exact hsettle

end Extends

/-- A sink is the standard one, or it serves the path that is named. -/
def Directs (m : Machine) (standard : Sink) : Option String → Sink → Prop
  | none, sink => sink = standard
  | some path, sink => ∃ place node, m.Serves (ByteText.ofString path) sink place node

theorem Directs.extends {m other : Machine} {standard sink : Sink} {path : Option String}
    (h : m.Directs standard path sink) (hextends : m.Extends other) :
    other.Directs standard path sink := by
  cases path with
  | none => exact h
  | some path =>
      obtain ⟨place, node, hserves⟩ := h
      exact ⟨place, node, hserves.extends hextends⟩

theorem openAtEnd_directs {m next : Machine} (hsound : m.Sound) {standard : Sink} {path : String}
    {sink : Sink} (h : logFiles.openAtEnd path m = (.ok sink, next)) :
    m.Extends next ∧ next.Directs standard (some path) sink := by
  rcases withPath_cases (fun path m =>
      (m.openFile path .atEnd).map fun done => (done.1.sink, done.2)) path m with
    ⟨fault, hfailed⟩ | ⟨found, made, hdone, hmade⟩
  · cases hfailed.symm.trans h
  obtain ⟨rfl, rfl⟩ : found = sink ∧ made = next := by simpa using hmade.symm.trans h
  rcases hopened : m.openFile (ByteText.ofString path) .atEnd with e | ⟨opened, after⟩
  · simp [hopened, Except.map] at hdone
  · obtain ⟨rfl, rfl⟩ : opened.sink = found ∧ after = made := by
      simpa [hopened, Except.map] using hdone
    exact openFile_atEnd hsound hopened

/-- A log file is opened, or a standard stream is taken. -/
theorem openOr_directs {m next : Machine} (hsound : m.Sound) {standard sink : Sink}
    {path : Option String} (h : logFiles.openOr standard path m = (.ok sink, next)) :
    m.Extends next ∧ next.Directs standard path sink := by
  cases path with
  | none =>
      cases h
      exact ⟨.refl m, rfl⟩
  | some path =>
      change logFiles.openLog path m = _ at h
      unfold LogFiles.openLog at h
      cases habove : Path.parent? path with
      | none =>
          rw [habove] at h
          exact openAtEnd_directs hsound h
      | some above =>
          simp only [habove] at h
          have hensure := Extends.ensureFrom (above.length + 1) above m
          rcases hensured : logFiles.ensure above m with ⟨fault | ⟨⟩, ensured⟩
          · simp [hensured] at h
          · simp only [hensured] at h
            rw [← LogFiles.ensure, hensured] at hensure
            obtain ⟨hextends, hdirects⟩ := openAtEnd_directs (hsound.extends hensure) h
            exact ⟨hensure.trans hextends, hdirects⟩

/-- **The sinks of a journal are those of its paths.**  The file for access lines is opened first;
what is opened for the errors leaves it where it is. -/
theorem directs_of_openOnce {m opened : Machine} (hsound : m.Sound) {logging : LoggingSettings}
    {j : Journal} (h : Journal.openOnce logFiles none logging m = (.ok j, opened)) :
    m.Extends opened ∧ j.threshold = Level.ofName logging.level ∧
      opened.Directs .stdout logging.accessLogFile j.access ∧
      opened.Directs .stderr logging.errorLogFile j.errors := by
  unfold Journal.openOnce Journal.openFrom at h
  rcases haccess : logFiles.openOr .stdout logging.accessLogFile m with ⟨fault | access, first⟩
  · simp [haccess] at h
  rcases herrors : logFiles.openOr .stderr logging.errorLogFile first with ⟨fault | errors, second⟩
  · simp [haccess, herrors] at h
  simp only [haccess, herrors] at h
  cases h
  obtain ⟨hfirst, hdirects⟩ := openOr_directs hsound haccess
  obtain ⟨hsecond, hdirects'⟩ := openOr_directs (hsound.extends hfirst) herrors
  exact ⟨hfirst.trans hsecond, rfl, hdirects.extends hsecond, hdirects'⟩

end Machine

end AssemblyGate
