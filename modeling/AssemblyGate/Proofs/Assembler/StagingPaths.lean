/-
**The paths of a staging area.**

A staging area is a directory with a name of its own in some parent.  Its source and its result are
the names `input.S` and `input.o` in it, so that two areas with different names share no path and
neither's files lie in the other.

Main definitions:

* `AssemblyGate.Path.stem` — what stands in front of a name in a directory;
* `AssemblyGate.StagingName` — the names that are drawn for staging areas.

Main results:

* `AssemblyGate.StagingArea.source_toList`, `AssemblyGate.StagingArea.result_toList` — the two
  paths.
-/
import AssemblyGate.Assembler.Staging
import Mathlib.Data.List.Infix

set_option autoImplicit false

namespace AssemblyGate

namespace Path

/-! ### The last name of a path -/

/-- One step of cutting a path at its slashes, from its end. -/
def cut (state : List Char × List (List Char)) (c : Char) : List Char × List (List Char) :=
  if c = '/' then ([], state.1 :: state.2) else (c :: state.1, state.2)

theorem pieces_eq (path : List Char) :
    pieces path = (path.reverse.foldl cut ([], [])).1 :: (path.reverse.foldl cut ([], [])).2 := rfl

/-- What has been cut off stays at the end. -/
theorem suffix_foldl_cut (text : List Char) (state : List Char × List (List Char)) :
    state.2 <:+ (text.foldl cut state).2 := by
  induction text generalizing state with
  | nil => exact List.suffix_rfl
  | cons c text ih =>
      refine List.IsSuffix.trans ?_ (ih (cut state c))
      unfold cut
      split
      · exact List.suffix_cons _ _
      · exact List.suffix_rfl

theorem foldl_cut_plain {text : List Char} (h : '/' ∉ text)
    (state : List Char × List (List Char)) :
    text.foldl cut state = (text.reverse ++ state.1, state.2) := by
  induction text generalizing state with
  | nil => rfl
  | cons c text ih =>
      simp only [List.mem_cons, not_or] at h
      rw [List.foldl_cons, cut, if_neg (Ne.symm h.1), ih h.2]
      simp

/-- The last piece of a path is what stands after its last slash. -/
theorem getLast?_pieces (before : List Char) {name : List Char} (h : '/' ∉ name) :
    (pieces (before ++ '/' :: name)).getLast? = some name := by
  have hreverse : (before ++ '/' :: name).reverse = name.reverse ++ '/' :: before.reverse := by simp
  have hfold : (before ++ '/' :: name).reverse.foldl cut ([], [])
      = before.reverse.foldl cut ([], [name]) := by
    have hname : '/' ∉ name.reverse := by simpa using h
    rw [hreverse, List.foldl_append, foldl_cut_plain hname, List.reverse_reverse, List.append_nil,
      List.foldl_cons]
    rfl
  -- the path is cut from its end, so the name is cut off first and ends up last
  obtain ⟨more, hmore⟩ := suffix_foldl_cut before.reverse ([], [name])
  rw [pieces_eq, hfold, ← hmore, ← List.cons_append]
  exact List.getLast?_concat

theorem fileName?_append {before name : List Char} (h : '/' ∉ name) (hne : name ≠ [])
    (hdot : name ≠ ['.']) (hdots : name ≠ ['.', '.']) :
    fileName? (String.ofList (before ++ '/' :: name)) = some (String.ofList name) := by
  have hcomponent : component? name = some (.name (String.ofList name)) := by
    simp [component?, hne, hdot, hdots]
  obtain ⟨init, hinit⟩ := List.getLast?_eq_some_iff.1 (getLast?_pieces before h)
  have hlast : (components (String.ofList (before ++ '/' :: name))).getLast?
      = some (.name (String.ofList name)) := by
    simp only [components, String.toList_ofList, hinit, List.filterMap_append, List.filterMap_cons,
      hcomponent, List.filterMap_nil, ← List.append_assoc, List.getLast?_append,
      List.getLast?_singleton, Option.some_or]
  rw [fileName?, hlast]

/-! ### Joining -/

/-- What stands in front of a name in a directory. -/
def stem (directory : String) : List Char :=
  if directory.toList.getLast? = some '/' then directory.toList else directory.toList ++ ['/']

theorem ne_empty_of_isAbsolute {path : String} (h : isAbsolute path = true) : path ≠ "" := by
  rintro rfl
  exact absurd h (by decide)

theorem stem_head? {directory : String} (h : isAbsolute directory = true) :
    (stem directory).head? = some '/' := by
  have hhead : directory.toList.head? = some '/' := by simpa [isAbsolute] using h
  obtain ⟨rest, hrest⟩ := List.head?_eq_some_iff.1 hhead
  unfold stem
  split <;> simp [hrest]

theorem stem_getLast? (directory : String) : (stem directory).getLast? = some '/' := by
  unfold stem
  split
  · assumption
  · exact List.getLast?_concat

theorem join_toList {directory name : String} (hname : name.toList.head? ≠ some '/')
    (hdirectory : directory ≠ "") :
    (join directory name).toList = stem directory ++ name.toList := by
  unfold join isAbsolute stem
  split
  · simp_all
  · split <;> simp

/-! ### Another extension -/

/-- What follows the last name of a path is dropped, and what stands before it stays. -/
theorem dropTail_suffix (l : List Char) : dropTail l <:+ l := by
  fun_induction dropTail l with
  | case1 => exact List.suffix_rfl
  | case2 => exact List.nil_suffix
  | case3 => exact List.suffix_rfl
  | case4 d rest ih => exact ih.trans (List.suffix_cons _ _)
  | case5 c d rest _ _ ih => exact ih.trans (List.suffix_append [c, d] rest)
  | case6 => exact List.suffix_rfl

/-- Another extension does not lead into another directory. -/
theorem slash_notMem_withExtension {path extension : String} (hpath : '/' ∉ path.toList)
    (hextension : '/' ∉ extension.toList) : '/' ∉ (withExtension path extension).toList := by
  have htrimmed : '/' ∉ (dropTail path.toList.reverse).reverse := fun h =>
    hpath (List.mem_reverse.1 ((dropTail_suffix _).mem (List.mem_reverse.1 h)))
  have hkept : ∀ n, '/' ∉ ((dropTail path.toList.reverse).reverse).take n :=
    fun n h => htrimmed (List.mem_of_mem_take h)
  unfold withExtension
  split
  · exact hpath
  · dsimp only
    split
    · rw [String.toList_ofList, List.mem_append]
      exact not_or.2 ⟨hkept _, by decide⟩
    · rw [String.toList_ofList, List.mem_append, List.mem_cons]
      exact not_or.2 ⟨hkept _, not_or.2 ⟨by decide, hextension⟩⟩

end Path

/-! ### Names of staging areas -/

/-- The names that are drawn for staging areas: six letters or digits after a beginning of their
own. -/
def StagingName (name : String) : Prop :=
  ∃ drawn, name.toList = 'a' :: 's' :: 'm' :: '-' :: drawn ∧ drawn.length = 6 ∧
    ∀ c ∈ drawn, c.isAlphanum = true

theorem StagingName.slash_notMem {name : String} (h : StagingName name) : '/' ∉ name.toList := by
  obtain ⟨drawn, hname, -, halphanum⟩ := h
  rw [hname]
  intro hmem
  have hdrawn : '/' ∈ drawn := by simpa using hmem
  exact absurd (halphanum _ hdrawn) (by decide)

theorem StagingName.exists_cons {name : String} (h : StagingName name) :
    ∃ rest, name.toList = 'a' :: rest := by
  obtain ⟨drawn, hname, -⟩ := h
  exact ⟨_, hname⟩

namespace StagingArea

/-! ### The two files -/

theorem source_toList {a : StagingArea} (hne : a.directory ≠ "") :
    a.source.toList = Path.stem a.directory ++ "input.S".toList := by
  rw [source, Path.join_toList (by decide) hne]
  rfl

theorem result_toList {a : StagingArea} (hne : a.directory ≠ "") :
    a.result.toList = Path.stem a.directory ++ "input.o".toList := by
  obtain ⟨before, hstem⟩ := List.getLast?_eq_some_iff.1 (Path.stem_getLast? a.directory)
  have hsource : a.source = String.ofList (before ++ '/' :: "input.S".toList) := by
    rw [← String.ofList_toList (s := a.source), source_toList hne, hstem, List.append_assoc]
    rfl
  have hname : Path.fileName? a.source = some "input.S" := by
    rw [hsource, Path.fileName?_append (by decide) (by decide) (by decide) (by decide)]
    simp
  -- the name is the last one of the path and ends in a letter, so nothing is cut off behind it
  have htrimmed : (Path.dropTail a.source.toList.reverse).reverse = a.source.toList := by
    rw [source_toList hne]
    simp [Path.dropTail]
  -- without its ending the name is two characters shorter
  have hsplit : Path.splitName "input.S".toList = ("input".toList, some ['S']) := by decide
  have htake : a.source.toList.take (a.source.toList.length - 7 + 5)
      = Path.stem a.directory ++ "input".toList := by
    have hlength : a.source.toList.length - 7 + 5 = (Path.stem a.directory).length + 5 := by
      simp [source_toList hne]
    rw [hlength, source_toList hne, List.take_length_add_append]
    rfl
  rw [result, Path.withExtension, hname]
  dsimp only
  rw [htrimmed, hsplit]
  dsimp only
  rw [if_neg (by simp), String.toList_ofList, show "input.S".length = 7 by decide,
    show "input".toList.length = 5 by decide, htake, List.append_assoc]
  rfl

end StagingArea

end AssemblyGate
