/-
**What lines bring to an outlet.**

A line that is logged comes to an end of one outlet, a stream or a file, and nothing that stands
anywhere is touched.  A file may have several names; then a line comes to all of them.  So after a
run of events each outlet holds what it held and then what its sink was sent, in order.

Main definitions:

* `AssemblyGate.Outlet`, `AssemblyGate.Machine.contents` — a stream or the place of a file, and what
  it holds;
* `AssemblyGate.Machine.Feeds` — what is written to a sink comes to an outlet;
* `AssemblyGate.Machine.SameFile` — two outlets that are one file.

Main results:

* `AssemblyGate.Machine.contents_of_writeSink`, `AssemblyGate.Machine.contents_of_deliverAll` — **what
  one line and what a run of events adds to an outlet**;
* `AssemblyGate.Machine.Extends.contents` — to open log files changes the content of none;
* `AssemblyGate.Machine.sink_eq_iff` — two sinks are one exactly where their outlets are one file.
-/
import AssemblyGate.Proofs.Posix.LogOpening

set_option autoImplicit false

namespace AssemblyGate

/-! ### Outlets -/

/-- A standard stream, or a file by the names that lead to its place. -/
inductive Outlet
  | stdout
  | stderr
  | file (names : List ByteText)
deriving DecidableEq

/-- A node as a file. -/
def Node.file? : Node → Option (FileInfo × Bytes)
  | .file info content => some (info, content)
  | _ => none

namespace Machine

/-- The file at an outlet. -/
def fileAt? (m : Machine) : Outlet → Option (FileInfo × Bytes)
  | .stdout | .stderr => none
  | .file names => (m.root.get? names).bind Node.file?

/-- The number of the file at an outlet. -/
def numberAt? (m : Machine) (o : Outlet) : Option Nat := (m.fileAt? o).map (·.1.number)

/-- What an outlet holds; where there is no file that is nothing. -/
def contents (m : Machine) : Outlet → Bytes
  | .stdout => m.stdout.reverse.flatten
  | .stderr => m.stderr.reverse.flatten
  | .file names => ((m.fileAt? (.file names)).map (·.2)).getD []

theorem fileAt?_eq_some_iff {m : Machine} {names : List ByteText} {info : FileInfo}
    {content : Bytes} :
    m.fileAt? (.file names) = some (info, content) ↔
      m.root.get? names = some (.file info content) := by
  rw [fileAt?, Option.bind_eq_some_iff]
  constructor
  · rintro ⟨node, hnode, hfile⟩
    cases node <;> cases hfile
    exact hnode
  · intro hnode
    exact ⟨_, hnode, rfl⟩

/-! ### One line -/

theorem fileAt?_changeContent (m : Machine) (number : Nat) (f : Bytes → Bytes) (o : Outlet) :
    (m.changeContent number f).fileAt? o = (m.fileAt? o).map fun file =>
      if file.1.number = number then ({ file.1 with stamp := m.changes }, f file.2) else file := by
  cases o with
  | stdout | stderr => rfl
  | file names =>
      have hget := Node.get?_changeFile (f := fun info content =>
        .file { info with stamp := m.changes } (f content)) (fun _ _ => rfl) number names m.root
      simp only [fileAt?, changeContent, hget]
      rcases m.root.get? names with _ | node
      · rfl
      · cases node with
        | file info content =>
            by_cases h : info.number = number <;> simp [Node.changeFile, Node.file?, h]
        | directory | link | device | descriptor | program => rfl

@[simp] theorem numberAt?_append (m : Machine) (number : Nat) (bytes : Bytes) (o : Outlet) :
    (m.append number bytes).numberAt? o = m.numberAt? o := by
  unfold append numberAt?
  split
  · rfl
  · rw [fileAt?_changeContent, Option.map_map]
    congr 1
    funext file
    rw [Function.comp_apply]
    split <;> rfl

/-- Bytes that are appended to a file come to the outlets that it stands at. -/
theorem contents_append (m : Machine) (number : Nat) (bytes : Bytes) (o : Outlet) :
    (m.append number bytes).contents o =
      m.contents o ++ if m.numberAt? o = some number then bytes else [] := by
  unfold append
  split
  · rename_i hempty
    simp [List.isEmpty_iff.1 hempty]
  cases o with
  | stdout | stderr => simp [contents, changeContent, numberAt?, fileAt?]
  | file names =>
      rw [contents, contents, fileAt?_changeContent, numberAt?]
      rcases m.fileAt? (.file names) with _ | ⟨info, content⟩
      · simp
      · by_cases h : info.number = number <;> simp [h]

/-- What is written to a sink comes to an outlet. -/
def Feeds (m : Machine) : Sink → Outlet → Prop
  | .stdout, o => o = .stdout
  | .stderr, o => o = .stderr
  | .file number, o => m.numberAt? o = some number ∧ number ≠ fullNumber

theorem Feeds.append {m : Machine} {sink : Sink} {o : Outlet} (h : m.Feeds sink o) (number : Nat)
    (bytes : Bytes) : (m.append number bytes).Feeds sink o := by
  cases sink with
  | stdout | stderr => exact h
  | file other => exact ⟨(numberAt?_append ..).trans h.1, h.2⟩

/-- **One line.**  What is written to a sink that has an outlet is added at the end of its outlets,
and no other outlet is changed. -/
theorem contents_of_writeSink {m : Machine} {sink : Sink} {target : Outlet}
    (h : m.Feeds sink target) (bytes : Bytes) :
    ∃ next, m.writeSink sink bytes = .ok next ∧ m.Grows next ∧
      ∀ other o, m.Feeds other o →
        next.Feeds other o ∧
          next.contents o = m.contents o ++ if sink = other then bytes else [] := by
  cases sink with
  | stdout | stderr =>
      -- no file is touched, and of the two streams only the one written to
      refine ⟨_, rfl, ⟨.refl _, rfl, rfl⟩, fun other o hfeeds =>
        ⟨by cases other <;> exact hfeeds, ?_⟩⟩
      cases other with
      | stdout | stderr =>
          obtain rfl := hfeeds
          simp [contents]
      | file number =>
          cases o with
          | file names => simp [contents, fileAt?]
          | stdout | stderr => cases hfeeds.1
  | file number =>
      refine ⟨m.append number bytes, if_neg h.2, .append m number bytes, fun other o hfeeds =>
        ⟨hfeeds.append number bytes, ?_⟩⟩
      rw [contents_append]
      cases other with
      | stdout | stderr =>
          obtain rfl := hfeeds
          simp [numberAt?, fileAt?]
      | file found => simp [hfeeds.1, eq_comm]

/-- Two outlets are one file, which may have several names. -/
def SameFile (m : Machine) (first second : Outlet) : Prop :=
  ∃ number, m.numberAt? first = some number ∧ m.numberAt? second = some number

/-- Two sinks are the same exactly when their outlets are one file, as long as these are not the
same stream. -/
theorem sink_eq_iff {m : Machine} {first second : Sink} {o o' : Outlet} (h : m.Feeds first o)
    (h' : m.Feeds second o') (hstreams : o = o' → ∃ names, o = .file names) :
    first = second ↔ m.SameFile o o' := by
  constructor
  · rintro rfl
    cases first with
    | stdout | stderr =>
        obtain ⟨names, hnames⟩ := hstreams (h.trans h'.symm)
        cases h.symm.trans hnames
    | file number => exact ⟨number, h.1, h'.1⟩
  · rintro ⟨number, hnumber, hnumber'⟩
    -- a sink of an outlet with a number is the file of that number
    have hsink : ∀ {sink : Sink} {o : Outlet}, m.Feeds sink o → m.numberAt? o = some number →
        sink = .file number := by
      intro sink o hfeeds hfound
      cases sink with
      | stdout | stderr =>
          obtain rfl := hfeeds
          cases hfound
      | file other => rw [Option.some.inj (hfeeds.1.symm.trans hfound)]
    rw [hsink h hnumber, hsink h' hnumber']

/-! ### A run of events -/

section Runs

variable {m : Machine} {j : Journal} {access errors : Outlet}

theorem contents_of_deliver (haccess : m.Feeds j.access access) (herrors : m.Feeds j.errors errors)
    (e : Event) :
    ∃ next, Journal.deliver recorder j m e = .ok next ∧ m.Grows next ∧
      ∀ sink o, m.Feeds sink o →
        next.Feeds sink o ∧ next.contents o = m.contents o ++ j.textFor sink [e] := by
  have hsink : ∃ target, m.Feeds (j.sink e) target := by
    cases e with
    | access line => exact ⟨access, haccess⟩
    | note level message =>
        cases level with
        | debug | info => exact ⟨access, haccess⟩
        | warn | error => exact ⟨errors, herrors⟩
  unfold Journal.deliver Journal.textFor Journal.route
  by_cases hadmits : j.admits e = true
  · obtain ⟨target, htarget⟩ := hsink
    obtain ⟨next, hnext, hgrows, hcontents⟩ :=
      contents_of_writeSink htarget (Journal.lineBytes e.line)
    have hwrite : recorder.write (j.sink e) (Journal.lineBytes e.line) m = .ok next := hnext
    exact ⟨next, by simp [hadmits, hwrite], hgrows, by simpa [hadmits] using hcontents⟩
  · exact ⟨m, by simp [hadmits], .refl m, fun sink o h => ⟨h, by simp [hadmits]⟩⟩

/-- **A run of events.**  Where both sinks of a journal have outlets, every event is delivered, and
each outlet of a sink has what the events bring to the sink added at its end. -/
theorem contents_of_deliverAll (haccess : m.Feeds j.access access)
    (herrors : m.Feeds j.errors errors) (events : List Event) :
    ∃ after, Journal.deliverAll recorder j events m = .ok after ∧ m.Grows after ∧
      ∀ sink o, m.Feeds sink o →
        after.Feeds sink o ∧ after.contents o = m.contents o ++ j.textFor sink events := by
  -- one event after the other; the outlets stay those of their sinks
  induction events generalizing m with
  | nil => exact ⟨m, rfl, .refl m, fun sink o h => ⟨h, by simp [Journal.textFor]⟩⟩
  | cons e events ih =>
      obtain ⟨next, hnext, hgrows, hfirst⟩ := contents_of_deliver haccess herrors e
      obtain ⟨after, hafter, hgrows', hrest⟩ := ih (hfirst _ _ haccess).1 (hfirst _ _ herrors).1
      refine ⟨after, ?_, hgrows.trans hgrows', fun sink o h => ?_⟩
      · rw [Journal.deliverAll, List.foldlM_cons, hnext]
        exact hafter
      · obtain ⟨hnextFeeds, hnextContents⟩ := hfirst sink o h
        obtain ⟨hafterFeeds, hafterContents⟩ := hrest sink o hnextFeeds
        refine ⟨hafterFeeds, ?_⟩
        rw [hafterContents, hnextContents, List.append_assoc, ← Journal.textFor_append,
          List.singleton_append]

end Runs

/-! ### Files that are added -/

/-- An outlet holds what it held before files were added. -/
theorem Extends.contents {m other : Machine} (h : m.Extends other) (o : Outlet) :
    other.contents o = m.contents o := by
  cases o with
  | stdout => rw [Machine.contents, Machine.contents, h.stdout]
  | stderr => rw [Machine.contents, Machine.contents, h.stderr]
  | file names =>
      rw [Machine.contents, Machine.contents]
      rcases hold : m.fileAt? (.file names) with _ | ⟨info, content⟩
      · rcases hnew : other.fileAt? (.file names) with _ | ⟨info, content⟩
        · rfl
        · -- a new file is empty
          rcases h.files _ _ _ (fileAt?_eq_some_iff.1 hnew) with hsame | ⟨hempty, -⟩
          · rw [fileAt?_eq_some_iff.2 hsame] at hold
            cases hold
          · simp [hempty]
      · rw [fileAt?_eq_some_iff.2 (h.root.get? (fileAt?_eq_some_iff.1 hold) rfl)]

/-- What is read from the path of an outlet is what the outlet holds. -/
theorem read_of_resolve {m : Machine} {path : ByteText} {place : FileTree.Place}
    (hplace : m.resolve true path = .ok place) (hsort : place.asDirectory = false)
    {number : Nat} (hnumber : m.numberAt? (.file place.names) = some number) :
    m.read path = .ok (m.contents (.file place.names)) := by
  obtain ⟨⟨info, content⟩, hfile, -⟩ := Option.map_eq_some_iff.1 hnumber
  have hget := fileAt?_eq_some_iff.1 hfile
  have hstat : m.stat path = .ok (.file info content) :=
    FileTree.stat_eq_ok_iff.2 ⟨place, hplace, hget, by rw [hsort, Bool.false_and]⟩
  simp [read, hstat, contentOf, contents, hfile]

/-- What was read from a path before files were added is what stands at the place it leads to. -/
theorem contents_of_read {m opened : Machine} (hextends : m.Extends opened) {path : ByteText}
    {place : FileTree.Place} (hplace : opened.resolve true path = .ok place)
    {number : Nat} (hnumber : opened.numberAt? (.file place.names) = some number)
    {content : Bytes} (h : m.read path = .ok content) :
    m.contents (.file place.names) = content := by
  unfold read at h
  cases hstat : m.stat path with
  | error e => simp [hstat] at h
  | ok node =>
      simp only [hstat] at h
      obtain ⟨old, hold, hfound, -⟩ := FileTree.stat_eq_ok_iff.1 hstat
      -- something was read, so the path led to a node, and it leads to the same place now
      have hsame := hextends.resolve hold
        (FileTree.noNewLink_of_grows hextends.root.grows hfound)
      obtain rfl : old = place := Except.ok.inj (hsame.symm.trans hplace)
      have hsort : node.isDirectory = false := by cases node <;> first | rfl | cases h
      obtain ⟨⟨info, kept⟩, hfile, -⟩ := Option.map_eq_some_iff.1 hnumber
      obtain rfl : node = .file info kept := Option.some.inj
        ((hextends.root.get? hfound hsort).symm.trans (fileAt?_eq_some_iff.1 hfile))
      cases h
      rw [contents, fileAt?_eq_some_iff.2 hfound]
      rfl

end Machine

end AssemblyGate
