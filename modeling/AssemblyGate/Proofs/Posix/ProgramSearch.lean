/-
**Where a program is found.**

A program is looked for at some places in a row: at the one that its path leads to, or under the
directories of the search path.  What runs is the first regular file among them that anyone may run,
unless the look-up of a place in front of it fails in a way that is not passed over, or the file
itself cannot be run.

Main definitions:

* `AssemblyGate.Machine.placesOf`, `AssemblyGate.Machine.first?` — the places, and the first one
  with a node of which something holds;
* `AssemblyGate.Machine.Bars` — a place that ends the search before a program is reached.

Main results:

* `AssemblyGate.Machine.started_of_first?` — what the search comes to where there is a program, and
  `AssemblyGate.Machine.started_of_none` where there is none;
* `AssemblyGate.Machine.exists_first?_of_isAvailable` — the service finds a regular file at one of
  the places.
-/
import AssemblyGate.Proofs.Posix.PathBytes

set_option autoImplicit false

namespace AssemblyGate

/-- A regular file that anyone may run. -/
def Node.isRunnable (node : Node) : Bool := node.isFile && node.isExecutable

theorem Node.isFile_of_isRunnable {node : Node} (h : node.isRunnable = true) :
    node.isFile = true := ((Bool.and_eq_true _ _).mp h).1

@[simp] theorem Node.isRunnable_face (node : Node) : node.face.isRunnable = node.isRunnable := by
  simp [isRunnable, isExecutable]

namespace Machine

theorem isSuch_iff {m : Machine} {p : Node → Bool} {path : ByteText} :
    m.isSuch p path = true ↔ ∃ node, m.stat path = .ok node ∧ p node = true := by
  unfold isSuch
  cases m.stat path <;> simp

/-- The place of a name under a directory of the search path; an empty one is the current
directory. -/
def placeUnder (name directory : ByteText) : ByteText :=
  if directory.isEmpty then name else inside directory name

/-- The places at which a program is looked for. -/
def placesOf (m : Machine) (program : String) : List ByteText :=
  let name := ByteText.ofString program
  let path := (m.getVariable "PATH").map ByteText.ofString
  if name.contains '/' then [name]
  else (ByteText.split ':' (path.getD usualPath.toList)).map (placeUnder name)

/-- The first place of a program with a node of which something holds. -/
def first? (m : Machine) (p : Node → Bool) (program : String) : Option ByteText :=
  (m.placesOf program).find? (m.isSuch p)

/-- What a command runs. -/
def started (m : Machine) (i : Invocation) : Except Errno Image :=
  m.search ((m.getVariable "PATH").map ByteText.ofString) (ByteText.ofString i.program)
    (i.arguments.map ByteText.ofString)

/-- A failure after which the search goes on. -/
def Passes (e : Errno) : Prop := e = Errno.access ∨ e = Errno.noEntry ∨ e = Errno.notDirectory

/-- A failure that ends a search: the look-up of a place in front of the first regular file that can
be run fails, and not in a way that is passed over. -/
def Bars (m : Machine) (places : List ByteText) (e : Errno) : Prop :=
  ∃ place ∈ places.takeWhile fun place => !m.isSuch Node.isRunnable place,
    m.stat place = .error e ∧ ¬Passes e

/-! ### The search -/

/-- A place without a regular file that anyone may run runs nothing. -/
theorem image_of_not_runnable {m : Machine} {place : ByteText}
    (h : m.isSuch Node.isRunnable place = false) (arguments : List ByteText) :
    ∃ e, m.image place arguments = .error e ∧ (e = Errno.access ∨ m.stat place = .error e) := by
  unfold isSuch at h
  unfold image imageFrom
  cases hstat : m.stat place with
  | error e => exact ⟨e, rfl, .inr rfl⟩
  | ok node =>
      rw [hstat] at h
      refine ⟨Errno.access, ?_, .inl rfl⟩
      cases node with
      | file info content =>
          have hmode : info.mode &&& 0o111 = 0 := by
            simpa [Node.isRunnable, Node.isFile, Node.isExecutable, Node.mode] using h
          simp only [if_pos hmode]
      | program name =>
          simp [Node.isRunnable, Node.isFile, Node.isExecutable, Node.mode] at h
      | directory | link | device | descriptor => rfl

variable {m : Machine} {name directory : ByteText} {arguments : List ByteText} {failure : Errno}
  {rest : List ByteText} {e : Errno}

theorem searchIn_cons :
    m.searchIn name arguments failure (directory :: rest) =
      match m.image (placeUnder name directory) arguments with
      | .ok image => .ok image
      | .error e =>
          if e = Errno.access ∨ e = Errno.noEntry ∨ e = Errno.notDirectory then
            m.searchIn name arguments (if failure = Errno.access then failure else e) rest
          else .error e := by
  rw [searchIn]
  rfl

theorem searchIn_of_ok {image : Image}
    (h : m.image (placeUnder name directory) arguments = .ok image) :
    m.searchIn name arguments failure (directory :: rest) = .ok image := by
  rw [searchIn_cons, h]

theorem searchIn_of_passes (h : m.image (placeUnder name directory) arguments = .error e)
    (he : Passes e) : m.searchIn name arguments failure (directory :: rest) =
      m.searchIn name arguments (if failure = Errno.access then failure else e) rest := by
  rw [searchIn_cons, h]
  exact if_pos he

theorem searchIn_of_not_passes (h : m.image (placeUnder name directory) arguments = .error e)
    (he : ¬Passes e) : m.searchIn name arguments failure (directory :: rest) = .error e := by
  rw [searchIn_cons, h]
  exact if_neg he

/-- The search comes to what the first regular file that can be run comes to, unless it is barred
from it or passes over it. -/
theorem searchIn_of_find? {directories : List ByteText} {place : ByteText}
    (h : (directories.map (placeUnder name)).find? (m.isSuch Node.isRunnable) = some place) :
    (∃ e, m.Bars (directories.map (placeUnder name)) e ∧
      m.searchIn name arguments failure directories = .error e) ∨
    ((∀ e, m.image place arguments = .error e → ¬Passes e) →
      m.searchIn name arguments failure directories = m.image place arguments) := by
  induction directories generalizing failure with
  | nil => cases h
  | cons directory rest ih =>
      rw [List.map_cons, List.find?_cons] at h
      cases hrunnable : m.isSuch Node.isRunnable (placeUnder name directory) with
      | true =>
          rw [hrunnable] at h
          obtain rfl := Option.some.inj h
          refine .inr fun hpasses => ?_
          cases himage : m.image (placeUnder name directory) arguments with
          | ok image => exact searchIn_of_ok himage
          | error e => exact searchIn_of_not_passes himage (hpasses e himage)
      | false =>
          rw [hrunnable] at h
          obtain ⟨e, himage, hcause⟩ := image_of_not_runnable hrunnable arguments
          by_cases hpasses : Passes e
          · rw [searchIn_of_passes himage hpasses]
            refine (ih h).imp_left ?_
            rintro ⟨e', ⟨other, hother, hstat⟩, herror⟩
            refine ⟨e', ⟨other, ?_, hstat⟩, herror⟩
            rw [List.map_cons, List.takeWhile_cons, hrunnable]
            exact List.mem_cons_of_mem _ hother
          · -- what ends the search here is the look-up, for a file without a program is passed over
            have hstat : m.stat (placeUnder name directory) = .error e :=
              hcause.resolve_left fun haccess => hpasses (.inl haccess)
            refine .inl ⟨e, ⟨placeUnder name directory, ?_, hstat, hpasses⟩,
              searchIn_of_not_passes himage hpasses⟩
            rw [List.map_cons, List.takeWhile_cons, hrunnable]
            exact List.mem_cons_self

/-- A search without a regular file that can be run fails. -/
theorem searchIn_of_none {directories : List ByteText}
    (h : (directories.map (placeUnder name)).find? (m.isSuch Node.isRunnable) = none) :
    ∃ e, m.searchIn name arguments failure directories = .error e := by
  induction directories generalizing failure with
  | nil => exact ⟨_, rfl⟩
  | cons directory rest ih =>
      rw [List.map_cons, List.find?_cons] at h
      cases hrunnable : m.isSuch Node.isRunnable (placeUnder name directory) with
      | true => simp [hrunnable] at h
      | false =>
          rw [hrunnable] at h
          obtain ⟨e, himage, -⟩ := image_of_not_runnable hrunnable arguments
          by_cases hpasses : Passes e
          · rw [searchIn_of_passes himage hpasses]
            exact ih h
          · exact ⟨e, searchIn_of_not_passes himage hpasses⟩

/-! ### Commands -/

/-- Nothing that can be run is found by the empty name. -/
theorem first?_empty (m : Machine) : m.first? Node.isRunnable "" = none := by
  have hname : ByteText.ofString "" = [] := rfl
  unfold first? placesOf
  rw [hname]
  refine List.find?_eq_none.2 fun place hplace => ?_
  obtain ⟨directory, -, rfl⟩ := List.mem_map.1 hplace
  rw [Bool.not_eq_true]
  by_cases hempty : directory.isEmpty = true
  · rw [placeUnder, if_pos hempty]
    rfl
  rw [placeUnder, if_neg hempty]
  refine m.isSuch_of_meansDirectory (.inl ?_) Node.isRunnable fun node => Node.isFile_of_isRunnable
  unfold inside
  split
  · rename_i hlast
    obtain ⟨front, hfront⟩ := List.getLast?_eq_some_iff.1 hlast
    exact ⟨front, by rw [hfront, List.append_nil]⟩
  · exact List.suffix_append _ _

/-- What a command comes to where there is a program. -/
theorem started_of_first? {i : Invocation} {place : ByteText}
    (h : m.first? Node.isRunnable i.program = some place) :
    (∃ e, m.Bars (m.placesOf i.program) e ∧ m.started i = .error e) ∨
    ((∀ e, m.image place (i.arguments.map ByteText.ofString) = .error e → ¬Passes e) →
      m.started i = m.image place (i.arguments.map ByteText.ofString)) := by
  have hname : ¬(ByteText.ofString i.program).isEmpty = true := by
    rw [List.isEmpty_iff, ByteText.ofString_eq_nil]
    intro hempty
    rw [hempty, first?_empty] at h
    cases h
  unfold first? placesOf at h
  unfold started search placesOf
  rw [if_neg hname]
  by_cases hslash : (ByteText.ofString i.program).contains '/' = true
  · simp only [if_pos hslash] at h ⊢
    obtain rfl := List.mem_singleton.1 (List.mem_of_find?_eq_some h)
    exact .inr fun _ => rfl
  · simp only [if_neg hslash] at h ⊢
    exact searchIn_of_find? h

/-- Where there is no program nothing is run. -/
theorem started_of_none {i : Invocation} (h : m.first? Node.isRunnable i.program = none) :
    ∃ e, m.started i = .error e := by
  unfold first? placesOf at h
  unfold started search
  split
  · exact ⟨_, rfl⟩
  by_cases hslash : (ByteText.ofString i.program).contains '/' = true
  · simp only [if_pos hslash] at h ⊢
    rw [List.find?_singleton] at h
    obtain ⟨e, himage, -⟩ := image_of_not_runnable (by simpa using h) _
    exact ⟨e, himage⟩
  · simp only [if_neg hslash] at h ⊢
    exact searchIn_of_none h

theorem outcome_ne_notStarted (result : Except Shell.Interruption Unit) (ended : Shell.State)
    (cause : Fault) : outcome result ended ≠ .notStarted cause := by
  unfold outcome
  dsimp only
  split
  · exact Run.noConfusion
  split
  · exact Run.noConfusion
  split <;> exact Run.noConfusion

/-- A command is not started because it cannot be handed over, or because nothing is found that can
be run. -/
theorem notStarted_of_run {i : Invocation} {limit : Nat} {cause : Fault}
    (h : (m.run i limit).1 = .notStarted cause) :
    (isUnspeakable i = true ∧ cause = .nulInArgument) ∨
      ∃ e, m.started i = .error e ∧ cause = .os e := by
  unfold Machine.run at h
  by_cases hspeak : isUnspeakable i = true
  · rw [if_pos hspeak] at h
    exact .inl ⟨hspeak, (Run.notStarted.inj h).symm⟩
  rw [if_neg hspeak] at h
  cases hstarted : m.started i with
  | error e =>
      unfold started at hstarted
      simp only [hstarted] at h
      exact .inr ⟨e, rfl, (Run.notStarted.inj h).symm⟩
  | ok image =>
      unfold started at hstarted
      simp only [hstarted] at h
      split at h
      · cases h
      · exact absurd h (outcome_ne_notStarted _ _ cause)

/-! ### What the service finds -/

theorem exists_place_of_isAvailable {program : String}
    (h : Assembler.isAvailable host program m = true) :
    ∃ place ∈ m.placesOf program, m.isFile place = true := by
  have hslash : (ByteText.ofString program).contains '/' = true ↔ '/' ∈ program.toList := by
    rw [List.contains_iff_mem, ByteText.mem_ofString (by decide)]
  unfold placesOf
  by_cases hplain : '/' ∈ program.toList
  · rw [Assembler.isAvailable_of_slash (fun _ => isFile_host_of_meansDirectory m) hplain] at h
    rw [if_pos (hslash.2 hplain)]
    exact ⟨_, List.mem_singleton_self _, (Bool.and_eq_true _ _ ▸ h).2⟩
  · obtain ⟨path, hpath, directory, hdirectory, hfile⟩ :=
      (Assembler.isAvailable_of_plain host m hplain).1 h
    have hvariable : m.getVariable "PATH" = some path := hpath
    have hdirectories :
        ByteText.ofString directory ∈ ByteText.split ':' (ByteText.ofString path) := by
      obtain ⟨piece, hpiece, rfl⟩ := List.mem_map.1 hdirectory
      rw [ByteText.split_ofString (by decide)]
      exact List.mem_map_of_mem hpiece
    have hplace : placeUnder (ByteText.ofString program) (ByteText.ofString directory) =
        ByteText.ofString (Path.join directory program) := (ByteText.ofString_join hplain).symm
    rw [if_neg (mt hslash.1 hplain), hvariable]
    refine ⟨_, List.mem_map_of_mem hdirectories, ?_⟩
    rw [hplace]
    exact (Bool.and_eq_true _ _ ▸ hfile).2

/-- What the service finds is a regular file at one of the places of the program. -/
theorem exists_first?_of_isAvailable {program : String}
    (h : Assembler.isAvailable host program m = true) :
    ∃ place, m.first? Node.isFile program = some place := by
  obtain ⟨place, hplace, hfile⟩ := exists_place_of_isAvailable h
  exact Option.isSome_iff_exists.1 (List.find?_isSome.2 ⟨place, hplace, hfile⟩)

/-- If anyone may run the first regular file, it is the first one that can be run. -/
theorem first?_isRunnable_of_isFile {program : String} {place : ByteText}
    (h : m.first? Node.isFile program = some place)
    (hrun : m.isSuch Node.isRunnable place = true) :
    m.first? Node.isRunnable program = some place := by
  obtain ⟨-, before, after, hplaces, hbefore⟩ := List.find?_eq_some_iff_append.1 h
  refine List.find?_eq_some_iff_append.2 ⟨hrun, before, after, hplaces, fun other hother => ?_⟩
  have hfile := hbefore other hother
  rw [Bool.not_eq_true', Bool.eq_false_iff, Ne, isSuch_iff] at hfile ⊢
  rintro ⟨node, hnode, hrunnable⟩
  exact hfile ⟨node, hnode, Node.isFile_of_isRunnable hrunnable⟩

theorem placesOf_of_grows {other : Machine} (hgrows : m.Grows other) (program : String) :
    other.placesOf program = m.placesOf program := by
  unfold placesOf getVariable
  rw [hgrows.environment]

/-- What can be run is still found when a machine grows. -/
theorem exists_first?_of_grows {other : Machine} (hgrows : m.Grows other) {program : String}
    {place : ByteText} (h : m.first? Node.isRunnable program = some place) :
    ∃ place', other.first? Node.isRunnable program = some place' := by
  have hplace : place ∈ other.placesOf program :=
    placesOf_of_grows hgrows program ▸ List.mem_of_find?_eq_some h
  refine Option.isSome_iff_exists.1 (List.find?_isSome.2 ⟨place, hplace, ?_⟩)
  obtain ⟨node, hnode, hrun⟩ := isSuch_iff.1 (List.find?_some h)
  obtain ⟨kept, hkept, hface⟩ := hgrows.stat hnode
  refine isSuch_iff.2 ⟨kept, hkept, ?_⟩
  rwa [← Node.isRunnable_face, hface, Node.isRunnable_face]

end Machine

end AssemblyGate
