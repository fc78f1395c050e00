/-
**Trees that grow.**

A new node under a name that was free and other content in a file change what is found in a tree,
but not what was found before: every node stays where it was, of the same sort and open to the same
people, and a link leads where it led.  So every path leads to the same place as before, as long as
it led to something.

Main definitions:

* `AssemblyGate.Node.Grows`, `AssemblyGate.Machine.Grows` — every node of a tree, or of a machine,
  has its place in another one;
* `AssemblyGate.Node.Extends` — besides, only directories have changed;
* `AssemblyGate.Node.Grafts` — a node is put under a name that was free;
* `AssemblyGate.Machine.Opens` — what is opened at a place.

Main results:

* `AssemblyGate.FileTree.resolve_of_grows`, `AssemblyGate.FileTree.stat_of_grows` — a path leads to
  the place that it led to, and what it led to is still there;
* `AssemblyGate.Machine.opens_of_openFile` — what opening a file does;
* `AssemblyGate.Machine.Grows.makeStaging`, `AssemblyGate.Machine.Grows.writeFile` — a staging area
  and a written file take nothing away.
-/
import AssemblyGate.Posix.Process

set_option autoImplicit false

namespace AssemblyGate

namespace Node

/-- What is left of a node without what it holds: its sort, who may do what with it, and where it
leads. -/
def face : Node → Node
  | .file info _ => .file ⟨0, info.mode, 0⟩ []
  | .directory mode _ => .directory mode []
  | other => other

@[simp] theorem isFile_face (node : Node) : node.face.isFile = node.isFile := by
  cases node <;> rfl

@[simp] theorem isDirectory_face (node : Node) : node.face.isDirectory = node.isDirectory := by
  cases node <;> rfl

@[simp] theorem mode_face (node : Node) : node.face.mode = node.mode := by
  cases node <;> rfl

theorem eq_link_of_face {node : Node} {target : ByteText} (h : node.face = (link target).face) :
    node = .link target := by
  cases node <;> simp_all [face]

/-- Every node of a tree has its place in another one. -/
def Grows (root other : Node) : Prop :=
  ∀ names node, root.get? names = some node →
    ∃ kept, other.get? names = some kept ∧ kept.face = node.face

theorem Grows.refl (root : Node) : Grows root root := fun _ node h => ⟨node, h, rfl⟩

theorem Grows.trans {root other third : Node} (h : Grows root other) (h' : Grows other third) :
    Grows root third := by
  intro names node hnode
  obtain ⟨kept, hkept, hface⟩ := h names node hnode
  obtain ⟨last, hlast, hface'⟩ := h' names kept hkept
  exact ⟨last, hlast, hface'.trans hface⟩

/-- Every node of a tree has its place in another one, and what is no directory is there as it
was. -/
def Extends (root other : Node) : Prop :=
  ∀ names node, root.get? names = some node →
    ∃ kept, other.get? names = some kept ∧
      (kept = node ∨ node.isDirectory = true ∧ kept.face = node.face)

theorem Extends.refl (root : Node) : Extends root root := fun _ node h => ⟨node, h, .inl rfl⟩

theorem Extends.trans {root other third : Node} (h : Extends root other)
    (h' : Extends other third) : Extends root third := by
  intro names node hnode
  obtain ⟨kept, hkept, rfl | ⟨hdirectory, hface⟩⟩ := h names node hnode
  · exact h' names kept hkept
  · obtain ⟨last, hlast, rfl | ⟨-, hface'⟩⟩ := h' names kept hkept
    · exact ⟨last, hlast, .inr ⟨hdirectory, hface⟩⟩
    · exact ⟨last, hlast, .inr ⟨hdirectory, hface'.trans hface⟩⟩

theorem Extends.grows {root other : Node} (h : Extends root other) : Grows root other := by
  intro names node hnode
  obtain ⟨kept, hkept, rfl | ⟨-, hface⟩⟩ := h names node hnode
  · exact ⟨kept, hkept, rfl⟩
  · exact ⟨kept, hkept, hface⟩

/-- What is no directory is there as it was. -/
theorem Extends.get? {root other : Node} (h : Extends root other) {names : List ByteText}
    {node : Node} (hnode : root.get? names = some node) (hsort : node.isDirectory = false) :
    other.get? names = some node := by
  obtain ⟨kept, hkept, rfl | ⟨hdirectory, -⟩⟩ := h names node hnode
  · exact hkept
  · simp [hsort] at hdirectory

/-! ### A new name -/

theorem find?_setEntry (name other : ByteText) (node : Node) (entries : List (ByteText × Node)) :
    (setEntry name (some node) entries).find? (fun e => e.1 == other) =
      if name = other then some (name, node) else entries.find? (fun e => e.1 == other) := by
  induction entries with
  | nil => by_cases h : name = other <;> simp [setEntry, h]
  | cons e rest ih =>
      rw [setEntry]
      by_cases hname : e.1 = name
      · rw [if_pos hname, List.find?_cons, List.find?_cons, hname]
        by_cases h : name = other
        · simp [h]
        · simp [h, beq_eq_false_iff_ne.2 h]
      · rw [if_neg hname, List.find?_cons, List.find?_cons, ih]
        by_cases h : e.1 = other
        · have hother : ¬name = other := fun h' => hname (h.trans h'.symm)
          simp [h, hother]
        · simp [beq_eq_false_iff_ne.2 h]

theorem child?_setEntry (mode : Nat) (name other : ByteText) (node : Node)
    (entries : List (ByteText × Node)) :
    (directory mode (setEntry name (some node) entries)).child? other =
      if name = other then some node else (directory mode entries).child? other := by
  unfold child?
  rw [Node.entries, Node.entries, find?_setEntry]
  split <;> rfl

theorem setEntry_self {name : ByteText} {node : Node} {entries : List (ByteText × Node)}
    (h : (entries.find? fun e => e.1 == name).map (·.2) = some node) :
    setEntry name (some node) entries = entries := by
  induction entries with
  | nil => simp at h
  | cons e rest ih =>
      rw [setEntry]
      by_cases hname : e.1 = name
      · obtain rfl : e.2 = node := by simpa [List.find?_cons, hname] using h
        rw [if_pos hname, ← hname]
      · rw [List.find?_cons, beq_eq_false_iff_ne.2 hname] at h
        rw [if_neg hname, ih h]

/-- A node is put into a tree under names that lead to nothing there, but for the last one lead to
directories. -/
inductive Grafts (node : Node) : List ByteText → Node → Node → Prop
  | here {mode : Nat} {entries : List (ByteText × Node)} {name : ByteText} :
      (directory mode entries).child? name = none →
      Grafts node [name] (directory mode entries)
        (directory mode (setEntry name (some node) entries))
  | under {mode : Nat} {entries : List (ByteText × Node)} {name : ByteText}
      {rest : List ByteText} {next other : Node} :
      (directory mode entries).child? name = some next → Grafts node rest next other →
      Grafts node (name :: rest) (directory mode entries)
        (directory mode (setEntry name (some other) entries))

/-- To give a free name a node is to put it there, or it changes nothing because there is no
directory for it. -/
theorem grafts_or_eq {root : Node} {names : List ByteText} (h : root.get? names = none)
    (node : Node) :
    Grafts node names root (root.alter (fun _ => some node) names) ∨
      root.alter (fun _ => some node) names = root ∧
        (root.get? names.dropLast).any isDirectory = false := by
  induction names generalizing root with
  | nil => cases h
  | cons name rest ih =>
      cases root with
      | directory mode entries =>
          cases hchild : (directory mode entries).child? name with
          | none =>
              cases rest with
              | nil =>
                  rw [alter]
                  exact .inl (.here hchild)
              | cons further rest =>
                  exact .inr ⟨by simp only [alter, hchild], by simp [get?, hchild]⟩
          | some next =>
              cases rest with
              | nil => simp [get?, hchild] at h
              | cons further rest =>
                  rw [get?, hchild] at h
                  simp only [alter, hchild]
                  rcases ih h with hgrafts | ⟨heq, hparent⟩
                  · exact .inl (.under hchild hgrafts)
                  · refine .inr ⟨?_, by simpa [get?, hchild] using hparent⟩
                    rw [heq, setEntry_self (by simpa [child?, Node.entries] using hchild)]
      | file info content => cases rest <;> exact .inr ⟨rfl, rfl⟩
      | link target => cases rest <;> exact .inr ⟨rfl, rfl⟩
      | device kind => cases rest <;> exact .inr ⟨rfl, rfl⟩
      | descriptor number => cases rest <;> exact .inr ⟨rfl, rfl⟩
      | program name => cases rest <;> exact .inr ⟨rfl, rfl⟩

/-- Below an entry that is replaced nothing is lost if nothing is lost below the entry. -/
theorem Extends.setEntry {mode : Nat} {entries : List (ByteText × Node)} {name : ByteText}
    {node : Node}
    (h : ∀ next, (directory mode entries).child? name = some next → Extends next node) :
    Extends (directory mode entries) (directory mode (setEntry name (some node) entries)) := by
  intro names found hfound
  cases names with
  | nil =>
      obtain rfl : directory mode entries = found := by simpa [Node.get?] using hfound
      exact ⟨_, rfl, .inr ⟨rfl, rfl⟩⟩
  | cons other rest =>
      rw [Node.get?] at hfound ⊢
      rw [child?_setEntry]
      by_cases hname : name = other
      · subst hname
        cases hchild : (directory mode entries).child? name with
        | none => simp [hchild] at hfound
        | some next =>
            rw [hchild] at hfound
            simpa using h next hchild rest found hfound
      · rw [if_neg hname]
        exact ⟨found, hfound, .inl rfl⟩

theorem Extends.of_grafts {node root other : Node} {names : List ByteText}
    (h : Grafts node names root other) : Extends root other := by
  induction h with
  | here hfree => exact .setEntry fun next hnext => by simp [hfree] at hnext
  | under hchild _ ih =>
      refine .setEntry fun found hfound => ?_
      obtain rfl := Option.some.inj (hchild.symm.trans hfound)
      exact ih

/-- The node is where it was put. -/
theorem Grafts.get?_self {node root other : Node} {names : List ByteText}
    (h : Grafts node names root other) : other.get? names = some node := by
  induction h with
  | here => simp [get?, child?_setEntry]
  | under _ _ ih => simpa [get?, child?_setEntry] using ih

/-- What is found afterwards was there, or belongs to the node. -/
theorem Grafts.get?_or {node root other : Node} {names : List ByteText}
    (h : Grafts node names root other) {others : List ByteText} {found : Node}
    (hfound : other.get? others = some found) (hsort : found.isDirectory = false) :
    root.get? others = some found ∨ ∃ rest, node.get? rest = some found := by
  induction h generalizing others with
  | @here mode entries key =>
      cases others with
      | nil =>
          obtain rfl := Option.some.inj hfound
          cases hsort
      | cons name rest =>
          rw [get?, child?_setEntry] at hfound
          by_cases hname : key = name
          · rw [if_pos hname] at hfound
            exact .inr ⟨rest, hfound⟩
          · rw [if_neg hname] at hfound
            exact .inl hfound
  | @under mode entries key _ next below hchild _ ih =>
      cases others with
      | nil =>
          obtain rfl := Option.some.inj hfound
          cases hsort
      | cons name rest =>
          rw [get?, child?_setEntry] at hfound
          by_cases hname : key = name
          · subst hname
            rw [if_pos rfl] at hfound
            rw [get?, hchild]
            exact ih hfound
          · rw [if_neg hname] at hfound
            exact .inl hfound

theorem Grows.alter {root : Node} {names : List ByteText} (h : root.get? names = none)
    (node : Node) : Grows root (root.alter (fun _ => some node) names) := by
  rcases grafts_or_eq h node with hgrafts | ⟨heq, -⟩
  · exact (Extends.of_grafts hgrafts).grows
  · rw [heq]
    exact .refl root

/-! ### Other content -/

/-- A change of a file that leaves it a file for the same people. -/
def KeepsFace (f : FileInfo → Bytes → Node) : Prop :=
  ∀ info content, (f info content).face = (file info content).face

theorem face_changeFile {f : FileInfo → Bytes → Node} (hf : KeepsFace f) (number : Nat)
    (node : Node) : (changeFile number f node).face = node.face := by
  cases node with
  | file info content =>
      rw [changeFile]
      split
      · exact hf info content
      · rfl
  | directory | link | device | descriptor | program => rfl

theorem find?_changeFileIn (number : Nat) (f : FileInfo → Bytes → Node) (name : ByteText)
    (entries : List (ByteText × Node)) :
    (changeFileIn number f entries).find? (fun e => e.1 == name) =
      (entries.find? fun e => e.1 == name).map fun e => (e.1, changeFile number f e.2) := by
  induction entries with
  | nil => rfl
  | cons e rest ih =>
      obtain ⟨other, node⟩ := e
      rw [changeFileIn, List.find?_cons, List.find?_cons, ih]
      cases other == name <;> rfl

theorem child?_changeFile {f : FileInfo → Bytes → Node} (hf : KeepsFace f) (number : Nat)
    (name : ByteText) (node : Node) :
    (changeFile number f node).child? name = (node.child? name).map (changeFile number f) := by
  cases node with
  | directory mode entries =>
      rw [changeFile, child?, child?, Node.entries, Node.entries, find?_changeFileIn]
      cases entries.find? fun e => e.1 == name <;> rfl
  | file info content =>
      rw [changeFile]
      split
      · -- what a file is changed into has no entries either
        have hface := hf info content
        cases hnode : f info content <;> simp_all [face, child?, Node.entries]
      · rfl
  | link | device | descriptor | program => rfl

theorem get?_changeFile {f : FileInfo → Bytes → Node} (hf : KeepsFace f) (number : Nat)
    (names : List ByteText) (node : Node) :
    (changeFile number f node).get? names = (node.get? names).map (changeFile number f) := by
  induction names generalizing node with
  | nil => rfl
  | cons name rest ih =>
      rw [get?, get?, child?_changeFile hf]
      cases node.child? name with
      | none => rfl
      | some next => exact ih next

theorem Grows.changeFile {f : FileInfo → Bytes → Node} (hf : KeepsFace f) (number : Nat)
    (root : Node) : Grows root (root.changeFile number f) := by
  intro names node hnode
  refine ⟨node.changeFile number f, ?_, face_changeFile hf number node⟩
  rw [get?_changeFile hf, hnode, Option.map_some]

end Node

/-! ### Paths in a tree that grows -/

namespace FileTree

/-- A name that leads to no link is the last one, or it has to be that of a directory. -/
theorem walk_of_not_link {root : Node} {follow : Bool} {links : Nat} {directory : List ByteText}
    {asDirectory : Bool} {name : ByteText} {rest : List ByteText} (hhere : name ≠ ['.'])
    (hup : name ≠ ['.', '.']) (hlong : ¬maxName < name.length)
    (hlink : ∀ target, root.get? (directory ++ [name]) = some (.link target) → False) :
    walk root follow links directory asDirectory (name :: rest) =
      if rest.isEmpty then .ok ⟨directory, some name, asDirectory⟩
      else
        match root.get? (directory ++ [name]) with
        | none => .error Errno.noEntry
        | some node =>
            if node.isDirectory then
              walk root follow links (directory ++ [name]) asDirectory rest
            else .error Errno.notDirectory := by
  rw [walk, if_neg hhere, if_neg hup, if_neg hlong]
  split
  · rename_i target h
    exact (hlink target h).elim
  · rfl

theorem not_link_of_face {node kept : Node} (hface : kept.face = node.face)
    (h : ∀ target, some node = some (Node.link target) → False) (target : ByteText) :
    some kept = some (Node.link target) → False := by
  intro hlink
  cases hlink
  exact h target (congrArg some (Node.eq_link_of_face hface.symm))

theorem get?_link_of_grows {root other : Node} (hgrows : root.Grows other)
    {names : List ByteText} {target : ByteText} (h : root.get? names = some (.link target)) :
    other.get? names = some (.link target) := by
  obtain ⟨kept, hkept, hface⟩ := hgrows names _ h
  rw [hkept, Node.eq_link_of_face hface]

/-- What is a link at a place of the other tree was that link before. -/
def NoNewLink (root other : Node) (names : List ByteText) : Prop :=
  ∀ target, other.get? names = some (.link target) → root.get? names = some (.link target)

theorem noNewLink_of_grows {root other : Node} (hgrows : root.Grows other) {names : List ByteText}
    {node : Node} (hnode : root.get? names = some node) : NoNewLink root other names := by
  intro target htarget
  obtain ⟨kept, hkept, hface⟩ := hgrows names node hnode
  obtain rfl : kept = .link target := Option.some.inj (hkept.symm.trans htarget)
  rw [hnode, Node.eq_link_of_face hface.symm]

/-- A way goes where it went, unless a link is new at its end. -/
theorem walk_of_grows {root other : Node} (hgrows : root.Grows other) {follow : Bool} {links : Nat}
    {directory : List ByteText} {asDirectory : Bool} {names : List ByteText} {place : Place}
    (hwalk : walk root follow links directory asDirectory names = .ok place)
    (hlast : NoNewLink root other place.names) :
    walk other follow links directory asDirectory names = .ok place := by
  -- along the way in the old tree: every name on it is still there, and what is no link stays none
  fun_induction walk root follow links directory asDirectory names generalizing place with
  | case1 => rw [walk, hwalk]
  | case2 links directory asDirectory rest ih =>
      rw [walk, if_pos rfl]
      exact ih hwalk hlast
  | case3 links directory asDirectory rest hhere ih =>
      rw [walk, if_neg hhere, if_pos rfl]
      exact ih hwalk hlast
  | case5 links directory asDirectory name rest hhere hup hlong target hlink hstays =>
      rw [walk, if_neg hhere, if_neg hup, if_neg hlong, get?_link_of_grows hgrows hlink]
      simp only [hstays, if_pos, hwalk]
  | case8 directory asDirectory name rest hhere hup hlong target hlink hfollows links hempty ih =>
      rw [walk, if_neg hhere, if_neg hup, if_neg hlong, get?_link_of_grows hgrows hlink]
      simp only [hfollows, hempty]
      exact ih hwalk hlast
  | case9 links directory asDirectory name rest hhere hup hlong hend hlink =>
      cases hwalk
      -- the last name may lead to nothing, and what is new there is no link
      rw [walk_of_not_link hhere hup hlong fun target h => hlink target (hlast target h),
        if_pos hend]
  | case11 links directory asDirectory name rest hhere hup hlong hend found hdirectory hlink
      hfound ih =>
      obtain ⟨kept, hkept, hface⟩ := hgrows _ _ hfound
      have hdirectory' : kept.isDirectory = true := by
        rw [← Node.isDirectory_face, hface, Node.isDirectory_face, hdirectory]
      rw [hfound] at hlink
      rw [walk_of_not_link hhere hup hlong (hkept ▸ not_link_of_face hface hlink), if_neg hend,
        hkept]
      simp only [hdirectory', if_pos]
      exact ih hwalk hlast
  | case4 | case6 | case7 | case10 | case12 => cases hwalk

/-- A path leads to the place that it led to, unless a link is new there. -/
theorem resolve_of_grows {root other : Node} (hgrows : root.Grows other) {current : List ByteText}
    {follow : Bool} {path : ByteText} {place : Place}
    (hplace : resolve root current follow path = .ok place)
    (hlast : NoNewLink root other place.names) :
    resolve other current follow path = .ok place := by
  unfold resolve at hplace ⊢
  split
  · simp_all
  split
  · simp_all
  rename_i hempty hlong
  rw [if_neg hempty, if_neg hlong] at hplace
  exact walk_of_grows hgrows hplace hlast

/-- A path leads to a node that stands at the place it leads to and is of the sort that it means. -/
theorem stat_eq_ok_iff {root : Node} {current : List ByteText} {follow : Bool} {path : ByteText}
    {node : Node} :
    stat root current follow path = .ok node ↔
      ∃ place, resolve root current follow path = .ok place ∧
        root.get? place.names = some node ∧ (place.asDirectory && !node.isDirectory) = false := by
  unfold stat
  cases resolve root current follow path with
  | error e => simp
  | ok place =>
      cases hfound : root.get? place.names with
      | none => simp [hfound]
      | some found =>
          simp only [Except.ok.injEq, exists_eq_left', hfound, Option.some.injEq]
          cases hsort : place.asDirectory && !found.isDirectory with
          | false =>
              simp only [Bool.false_eq_true, if_false, Except.ok.injEq]
              exact ⟨fun h => ⟨h, h ▸ hsort⟩, And.left⟩
          | true =>
              simp only [if_true, reduceCtorEq, false_iff, not_and]
              rintro rfl
              simp [hsort]

/-- A path that led to a node leads to what is there now. -/
theorem stat_of_grows {root other : Node} (hgrows : root.Grows other) {current : List ByteText}
    {follow : Bool} {path : ByteText} {node : Node} (h : stat root current follow path = .ok node) :
    ∃ kept, stat other current follow path = .ok kept ∧ kept.face = node.face := by
  obtain ⟨place, hplace, hfound, hsort⟩ := stat_eq_ok_iff.1 h
  obtain ⟨kept, hkept, hface⟩ := hgrows _ _ hfound
  have hplace' := resolve_of_grows hgrows hplace (noNewLink_of_grows hgrows hfound)
  have hsort' : (place.asDirectory && !kept.isDirectory) = false := by
    rwa [← Node.isDirectory_face, hface, Node.isDirectory_face]
  exact ⟨kept, stat_eq_ok_iff.2 ⟨place, hplace', hkept, hsort'⟩, hface⟩

end FileTree

namespace Machine

/-- Everything on a machine has its place on another one. -/
structure Grows (m other : Machine) : Prop where
  root : m.root.Grows other.root
  current : other.current = m.current
  environment : other.environment = m.environment

theorem Grows.refl (m : Machine) : Grows m m := ⟨.refl _, rfl, rfl⟩

theorem Grows.trans {m other third : Machine} (h : Grows m other) (h' : Grows other third) :
    Grows m third :=
  ⟨h.root.trans h'.root, h'.current.trans h.current, h'.environment.trans h.environment⟩

theorem Grows.stat {m other : Machine} (h : Grows m other) {path : ByteText} {node : Node}
    (hnode : m.stat path = .ok node) :
    ∃ kept, other.stat path = .ok kept ∧ kept.face = node.face := by
  unfold Machine.stat
  rw [h.current]
  exact FileTree.stat_of_grows h.root hnode

theorem Grows.alter {m : Machine} {names : List ByteText} (h : m.root.get? names = none)
    (node : Node) : Grows m (m.alter names fun _ => some node) :=
  ⟨.alter h node, rfl, rfl⟩

/-- What is made stands where its path leads, and nothing stood there. -/
theorem exists_free_of_make {m other : Machine} {path : ByteText} {node : Node}
    (h : m.make path node = .ok other) :
    ∃ place : FileTree.Place,
      m.root.get? place.names = none ∧ other = m.alter place.names fun _ => some node := by
  unfold Machine.make at h
  cases hplace : m.resolve false path with
  | error e => simp [hplace] at h
  | ok place =>
      cases hfree : m.root.get? place.names with
      | some found => simp [hplace, hfree] at h
      | none =>
          simp only [hplace, hfree] at h
          split at h
          · cases h
          · cases h
            exact ⟨place, hfree, rfl⟩

theorem Grows.make {m other : Machine} {path : ByteText} {node : Node}
    (h : m.make path node = .ok other) : Grows m other := by
  obtain ⟨place, hfree, rfl⟩ := exists_free_of_make h
  exact .alter hfree node

theorem Grows.changeContent (m : Machine) (number : Nat) (f : Bytes → Bytes) :
    Grows m (m.changeContent number f) := by
  have hf : Node.KeepsFace fun info content => .file { info with stamp := m.changes } (f content) :=
    fun _ _ => rfl
  exact ⟨.changeFile hf number m.root, rfl, rfl⟩

theorem Grows.append (m : Machine) (number : Nat) (bytes : Bytes) :
    Grows m (m.append number bytes) := by
  unfold Machine.append
  split
  · exact .refl m
  · exact .changeContent m number _

/-- What is opened at a place, and the machine after it: a file that is made, one that was there, or
something that is no file. -/
inductive Opens (m : Machine) (wish : OpenWish) (place : FileTree.Place) : Opened → Machine → Prop
  | made : m.root.get? place.names = none →
      Opens m wish place (.file m.nextFile)
        { m.alter place.names fun _ => some (.file ⟨m.nextFile, wish.mode, m.changes⟩ []) with
          nextFile := m.nextFile + 1 }
  | file {info : FileInfo} {content : Bytes} :
      m.root.get? place.names = some (.file info content) →
      Opens m wish place (.file info.number)
        (if wish.truncates then m.changeContent info.number fun _ => [] else m)
  | device {kind : Device} :
      m.root.get? place.names = some (.device kind) → Opens m wish place (.device kind) m
  | descriptor {number : Nat} :
      m.root.get? place.names = some (.descriptor number) →
      Opens m wish place (.descriptor number) m

/-- A file is opened at the place that its path leads to, which is not meant as a directory. -/
theorem opens_of_openFile {m other : Machine} {path : ByteText} {wish : OpenWish} {opened : Opened}
    (h : m.openFile path wish = .ok (opened, other)) :
    ∃ place, m.resolve (!wish.isExclusive) path = .ok place ∧ place.asDirectory = false ∧
      Opens m wish place opened other := by
  unfold Machine.openFile at h
  cases hplace : m.resolve (!wish.isExclusive) path with
  | error e => simp [hplace] at h
  | ok place =>
      simp only [hplace] at h
      split at h
      · cases h
      rename_i hsort
      refine ⟨place, rfl, by simpa using hsort, ?_⟩
      cases hfound : m.root.get? place.names with
      | none =>
          simp only [hfound] at h
          cases h
          exact .made hfound
      | some node =>
          simp only [hfound] at h
          split at h
          · cases h
          cases node with
          | file info content =>
              cases h
              exact .file hfound
          | device kind =>
              cases h
              exact .device hfound
          | descriptor number =>
              cases h
              exact .descriptor hfound
          | directory | link | program => cases h

theorem Grows.openFile {m other : Machine} {path : ByteText} {wish : OpenWish} {opened : Opened}
    (h : m.openFile path wish = .ok (opened, other)) : Grows m other := by
  obtain ⟨place, -, -, hopens⟩ := opens_of_openFile h
  cases hopens with
  | made hfree => exact (Grows.alter hfree _).trans ⟨.refl _, rfl, rfl⟩
  | file =>
      split
      · exact .changeContent ..
      · exact .refl m
  | device | descriptor => exact .refl m

theorem Grows.write {m other : Machine} {path : ByteText} {bytes : Bytes} {mode : Nat}
    (h : m.write path bytes mode = .ok other) : Grows m other := by
  unfold Machine.write at h
  split at h
  · cases h
  · rename_i number opened hopened
    cases h
    exact (Grows.openFile hopened).trans (.append opened number bytes)
  · rename_i opened hopened
    split at h
    · cases h
      exact .openFile hopened
    · cases h
  · rename_i opened hopened
    cases h
    exact .openFile hopened

/-- A directory with a name of its own takes nothing away. -/
theorem Grows.makeStaging {m other : Machine} {parent directory : String}
    (h : m.makeStaging parent = (.ok directory, other)) : Grows m other := by
  have hcounted : Grows m { m with stagings := m.stagings + 1 } := ⟨.refl _, rfl, rfl⟩
  unfold Machine.makeStaging at h
  simp only at h
  split at h
  · cases h
  split at h
  · cases h
  · rename_i made hmade
    obtain rfl : made = other := by cases h; rfl
    unfold makeDirectory at hmade
    exact hcounted.trans (Grows.make hmade)

/-- What is done to a path is done, or it fails and changes nothing. -/
theorem withPath_cases {α : Type} (f : ByteText → Machine → Except Errno (α × Machine))
    (path : String) (m : Machine) :
    (∃ fault, withPath f path m = (.error fault, m)) ∨
      ∃ result next, f (ByteText.ofString path) m = .ok (result, next) ∧
        withPath f path m = (.ok result, next) := by
  unfold withPath
  split
  · exact .inl ⟨_, rfl⟩
  cases f (ByteText.ofString path) m with
  | error e => exact .inl ⟨_, rfl⟩
  | ok done => exact .inr ⟨_, _, rfl, rfl⟩

/-- A file that is written takes nothing away. -/
theorem Grows.writeFile {m other : Machine} {path : String} {bytes : Bytes}
    (h : host.writeFile path bytes m = (.ok (), other)) : Grows m other := by
  rcases withPath_cases (fun path m => (m.write path bytes usualFileMode).map fun m => ((), m))
    path m with ⟨fault, hfailed⟩ | ⟨⟨⟩, next, hdone, hwritten⟩
  · cases hfailed.symm.trans h
  obtain rfl : next = other := congrArg Prod.snd (hwritten.symm.trans h)
  cases hwrite : m.write (ByteText.ofString path) bytes usualFileMode with
  | error e => simp [hwrite, Except.map] at hdone
  | ok written =>
      obtain rfl : written = next := by simpa [hwrite, Except.map] using hdone
      exact .write hwrite

end Machine

end AssemblyGate
