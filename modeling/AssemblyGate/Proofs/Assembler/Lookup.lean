/-
**Where the assembler is looked for.**

An assembler that is given with a slash in it is a path, and one that is given without is a name
under the directories of the search path.  The service does not look for the slash: it counts the
parts of the path that count.  The two differ on paths such as `x/`, `//` and `x/.`, which have a
slash and not more than one part.  All of these end in a slash, or in a point behind one, and so
does every path that is made by putting a directory in front of them; where such paths lead to no
regular file, the service finds neither the one nor the other.

Main definitions:

* `AssemblyGate.Path.MeansDirectory` — a path that can lead to nothing but a directory.

Main results:

* `AssemblyGate.Path.length_components_of_plain`,
  `AssemblyGate.Path.one_lt_length_components` — how many parts count in a path without a slash, and
  in one with a slash that can lead to a file;
* `AssemblyGate.Assembler.isAvailable_of_plain`,
  `AssemblyGate.Assembler.isAvailable_of_slash` — what the service finds in both cases;
* `AssemblyGate.Assembler.isAvailable_iff_by_slash` — **the slash decides where the assembler is
  looked for**.
-/
import AssemblyGate.Assembler.Availability
import AssemblyGate.Posix.ByteText
import Mathlib.Data.List.Infix

set_option autoImplicit false

namespace AssemblyGate

/-! ### Splitting -/

theorem ByteText.split_cons (mark c : Char) (text : ByteText) :
    split mark (c :: text) =
      if c = mark then [] :: split mark text else (split mark text).modifyHead (c :: ·) := by
  unfold split
  rw [List.foldl_reverse, List.foldl_reverse, List.foldr_cons]
  dsimp only
  split <;> rfl

theorem ByteText.split_eq (mark : Char) (text : ByteText) :
    split mark text = text.splitOn mark := by
  induction text with
  | nil => rfl
  | cons c text ih =>
      rw [split_cons, ih, List.splitOn_cons_eq_if_modifyHead]
      simp only [beq_iff_eq]

/-- The directories of a search path are what stands between its colons. -/
theorem Assembler.searchDirectories_eq (path : String) :
    searchDirectories path = (path.toList.splitOn ':').map String.ofList := by
  rw [← ByteText.split_eq]
  rfl

theorem Assembler.mem_searchDirectories {directory path : String} :
    directory ∈ searchDirectories path ↔ directory.toList ∈ path.toList.splitOn ':' := by
  rw [searchDirectories_eq, List.mem_map]
  constructor
  · rintro ⟨piece, hpiece, rfl⟩
    rwa [String.toList_ofList]
  · exact fun h => ⟨_, h, String.ofList_toList⟩

namespace Path

theorem pieces_eq_splitOn (path : List Char) : pieces path = path.splitOn '/' := by
  rw [← ByteText.split_eq]
  rfl

/-- The last piece stands after the last slash. -/
theorem pieces_append (before : List Char) {name : List Char} (h : '/' ∉ name) :
    pieces (before ++ '/' :: name) = pieces before ++ [name] := by
  have hname : name.splitOn '/' = [name] := List.splitOn_eq_singleton h
  have happend : (before ++ '/' :: name).splitOn '/' = before.splitOn '/' ++ name.splitOn '/' :=
    List.splitOnP_append_cons before name (beq_self_eq_true '/')
  rw [pieces_eq_splitOn, pieces_eq_splitOn, happend, hname]

/-! ### Counting the parts of a path -/

/-- A path that can lead to nothing but a directory: it ends in a slash, or in a point behind
one. -/
def MeansDirectory (path : String) : Prop := ['/'] <:+ path.toList ∨ ['/', '.'] <:+ path.toList

/-- A path that is put behind something still means a directory. -/
theorem MeansDirectory.of_suffix {path longer : String} (h : MeansDirectory path)
    (hsuffix : path.toList <:+ longer.toList) : MeansDirectory longer :=
  h.imp (·.trans hsuffix) (·.trans hsuffix)

theorem suffix_join (directory path : String) : path.toList <:+ (join directory path).toList := by
  unfold join
  split
  · exact List.suffix_rfl
  split
  · rw [String.toList_append]
    exact List.suffix_append _ _
  · rw [String.toList_append]
    exact List.suffix_append _ _

theorem isAbsolute_eq_false {path : String} (h : '/' ∉ path.toList) : isAbsolute path = false := by
  unfold isAbsolute
  rw [decide_eq_false_iff_not]
  exact fun hhead => h (List.mem_of_head? hhead)

/-- A path without a slash has one part that counts, at most. -/
theorem length_components_of_plain {path : String} (h : '/' ∉ path.toList) :
    (components path).length ≤ 1 := by
  have hpieces : pieces path.toList = [path.toList] := by
    rw [pieces_eq_splitOn, List.splitOn_eq_singleton h]
  unfold components
  simp only [hpieces, isAbsolute_eq_false h, List.head?_cons, Option.some.injEq]
  split
  · simp_all
  split
  · rename_i hpoint
    simp [hpoint, component?]
  · exact List.length_filterMap_le _ _

/-- What stands before the last slash of a path has a part that counts, if only the root or the
point in front. -/
theorem exists_part_before (before name : List Char) (h : '/' ∉ name) :
    ∃ part parts, components (String.ofList (before ++ '/' :: name)) =
      part :: parts ++ (component? name).toList := by
  have hlast : [name].filterMap component? = (component? name).toList := by
    cases hname : component? name <;> simp [hname]
  unfold components isAbsolute
  simp only [String.toList_ofList, pieces_append before h, List.filterMap_append, hlast]
  cases before with
  | nil => exact ⟨.root, _, rfl⟩
  | cons c before =>
      by_cases hslash : c = '/'
      · subst hslash
        exact ⟨.root, _, rfl⟩
      -- the first piece begins with a character, so it is the point in front or counts by itself
      obtain ⟨first, more, hfirst⟩ : ∃ first more, pieces (c :: before) = (c :: first) :: more := by
        have hcut := ByteText.split_cons '/' c before
        rw [if_neg hslash] at hcut
        rw [pieces_eq_splitOn, ← ByteText.split_eq, hcut]
        unfold ByteText.split
        exact ⟨_, _, rfl⟩
      have habsolute : decide ((c :: before ++ '/' :: name).head? = some '/') = false := by
        simpa using hslash
      rw [habsolute, hfirst]
      by_cases hpoint : c :: first = ['.']
      · refine ⟨.here, more.filterMap component?, ?_⟩
        simp [hpoint, component?]
      · obtain ⟨part, hpart⟩ : ∃ part, component? (c :: first) = some part := by
          unfold component?
          rw [if_neg (by simp [hpoint])]
          split <;> exact ⟨_, rfl⟩
        refine ⟨part, more.filterMap component?, ?_⟩
        simp only [List.cons_append, List.head?_cons, Option.some.injEq, if_neg hpoint,
          List.filterMap_cons, hpart]
        rfl

theorem exists_last_slash {path : List Char} (h : '/' ∈ path) :
    ∃ before name, path = before ++ '/' :: name ∧ '/' ∉ name := by
  obtain ⟨name, before, hreverse, hname⟩ := List.eq_append_cons_of_mem (List.mem_reverse.2 h)
  refine ⟨before.reverse, name.reverse, ?_, by simpa using hname⟩
  rw [← List.reverse_reverse path, hreverse]
  simp

/-- A path with a slash that can lead to a file has more than one part that counts. -/
theorem one_lt_length_components {path : String} (hslash : '/' ∈ path.toList)
    (hfile : ¬MeansDirectory path) : 1 < (components path).length := by
  obtain ⟨before, name, hpath, hname⟩ := exists_last_slash hslash
  obtain ⟨part, parts, hparts⟩ := exists_part_before before name hname
  have hcounts : ∃ last, component? name = some last := by
    unfold component?
    split
    · rename_i hempty
      refine absurd ?_ hfile
      rw [MeansDirectory, hpath]
      rcases hempty with rfl | rfl
      · exact .inl (List.suffix_append _ _)
      · exact .inr (List.suffix_append _ _)
    · split <;> exact ⟨_, rfl⟩
  obtain ⟨last, hlast⟩ := hcounts
  rw [← String.ofList_toList (s := path), hpath, hparts, hlast]
  simp

end Path

/-! ### Finding the assembler -/

namespace Assembler

variable {σ : Type}

/-- Without a slash the assembler is a name under the directories of the search path. -/
theorem isAvailable_of_plain (host : Host σ) {binary : String} (s : σ) (h : '/' ∉ binary.toList) :
    isAvailable host binary s = true ↔ ∃ path, host.searchPath s = some path ∧
      ∃ directory ∈ searchDirectories path,
        host.isFile s (Path.join directory binary) = true := by
  have hparts := Path.length_components_of_plain h
  unfold isAvailable
  rw [if_neg (by omega)]
  cases host.searchPath s with
  | none => simp
  | some path => simp

/-- With a slash the assembler is the file that it leads to, where files cannot have the names of
directories. -/
theorem isAvailable_of_slash {host : Host σ} {binary : String} {s : σ}
    (hfiles : ∀ path, Path.MeansDirectory path → host.isFile s path = false)
    (h : '/' ∈ binary.toList) :
    isAvailable host binary s = true ↔ host.isFile s binary = true := by
  by_cases hmeans : Path.MeansDirectory binary
  · have hjoin (directory : String) : host.isFile s (Path.join directory binary) = false :=
      hfiles _ (hmeans.of_suffix (Path.suffix_join directory binary))
    unfold isAvailable
    rw [hfiles binary hmeans]
    split
    · rfl
    split
    · rfl
    · simp [hjoin]
  · unfold isAvailable
    rw [if_pos (Path.one_lt_length_components h hmeans)]

/-- **The slash decides where the assembler is looked for.**  On every machine on which a path that
ends in a slash, or in a point behind one, leads to no regular file, the assembler is found exactly
if it is given with a slash and leads to a regular file itself, or without one and, under what
stands between some of the colons of the search path, to a regular file there. -/
theorem isAvailable_iff_by_slash (host : Host σ) (binary : String) (s : σ)
    (hfiles : ∀ path : String, "/".toList <:+ path.toList ∨ "/.".toList <:+ path.toList →
      host.isFile s path = false) :
    isAvailable host binary s = true ↔
      ('/' ∈ binary.toList ∧ host.isFile s binary = true) ∨
      ('/' ∉ binary.toList ∧ ∃ path, host.searchPath s = some path ∧
        ∃ directory : String, directory.toList ∈ path.toList.splitOn ':' ∧
          host.isFile s (Path.join directory binary) = true) := by
  by_cases hslash : '/' ∈ binary.toList
  · rw [isAvailable_of_slash hfiles hslash]
    simp [hslash]
  · rw [isAvailable_of_plain host s hslash]
    simp only [hslash, false_and, false_or, not_false_eq_true, true_and, mem_searchDirectories]

/-- A machine with two files, that looks for programs in its current directory and in `/opt`. -/
def twoFilesHost : Host Unit where
  makeStaging := fun _ m => (.ok "/tmp/asm-0", m)
  writeFile := fun _ _ m => (.ok (), m)
  run := fun _ _ m => (.ended (.exited 0) [], m)
  removeTree := fun _ m => m
  isFile := fun _ path => path = "/opt/as" || path = "tools/as"
  searchPath := fun _ => some ":/opt"

/-- A name is found under a directory, a path is found by itself, and a name with a slash behind it
is not found. -/
theorem isAvailable_iff_by_slash_opt :
    (∀ path : String, "/".toList <:+ path.toList ∨ "/.".toList <:+ path.toList →
      twoFilesHost.isFile () path = false) ∧
    isAvailable twoFilesHost "as" () = true ∧ isAvailable twoFilesHost "tools/as" () = true ∧
      isAvailable twoFilesHost "as/" () = false := by
  have hfiles : ∀ path : String, "/".toList <:+ path.toList ∨ "/.".toList <:+ path.toList →
      twoFilesHost.isFile () path = false := by
    intro path hmeans
    rw [← Bool.not_eq_true]
    intro hfile
    obtain rfl | rfl : path = "/opt/as" ∨ path = "tools/as" := by
      simpa [twoFilesHost] using hfile
    · exact absurd hmeans (by decide)
    · exact absurd hmeans (by decide)
  refine ⟨hfiles, ?_, ?_, ?_⟩
  · refine (isAvailable_iff_by_slash twoFilesHost "as" () hfiles).2 (.inr ⟨by decide, ?_⟩)
    exact ⟨":/opt", rfl, "/opt", by decide, by decide⟩
  · exact (isAvailable_iff_by_slash twoFilesHost "tools/as" () hfiles).2
      (.inl ⟨by decide, by decide⟩)
  · rw [← Bool.not_eq_true, isAvailable_iff_by_slash twoFilesHost "as/" () hfiles]
    rintro (⟨-, hfile⟩ | ⟨hplain, -⟩)
    · exact absurd hfile (by decide)
    · exact hplain (by decide)

end Assembler

end AssemblyGate
