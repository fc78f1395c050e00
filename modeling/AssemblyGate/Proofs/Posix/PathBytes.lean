/-
**Paths as bytes.**

The service sees a path as a text, and the machine sees the bytes of the text.  A letter outside
ASCII is a row of bytes outside ASCII, so that the two agree on where a slash or a colon stands, on
the pieces between them, and on the path of a name under a directory.

Main results:

* `AssemblyGate.ByteText.split_ofString` — what stands between the marks of a text, as bytes;
* `AssemblyGate.ByteText.ofString_join` — a path under a directory, as bytes;
* `AssemblyGate.Machine.isFile_host_of_meansDirectory` — a path that can lead to nothing but a
  directory leads to no regular file.
-/
import AssemblyGate.Proofs.Assembler.Lookup
import AssemblyGate.Proofs.Posix.Growth
import AssemblyGate.Proofs.Text.Utf8

set_option autoImplicit false

namespace AssemblyGate

namespace ByteText

/-! ### Bytes of characters -/

/-- The bytes of a character. -/
def ofChar (c : Char) : ByteText := ofBytes (String.utf8EncodeChar c)

theorem ofString_eq (s : String) : ofString s = s.toList.flatMap ofChar := by
  simp only [ofString, ofBytes, Utf8.encode, List.map_flatMap]
  rfl

@[simp] theorem ofString_append (s t : String) : ofString (s ++ t) = ofString s ++ ofString t := by
  simp only [ofString_eq, String.toList_append, List.flatMap_append]

theorem ofChar_of_ascii {c : Char} (h : c.toNat < 0x80) : ofChar c = [c] := by
  rw [ofChar, Utf8.encodeChar_of_one h, ofBytes, List.map_singleton,
    Utf8.toNat_byte (Nat.lt_trans h (by decide)), Char.ofNat_toNat]

theorem ofChar_ne_nil (c : Char) : ofChar c ≠ [] := by
  obtain ⟨b, rest, hbytes, -⟩ := Utf8.encodeChar_boundary c
  simp [ofChar, hbytes, ofBytes]

/-- A byte of ASCII stands for itself alone. -/
theorem eq_of_mem_ofChar {mark c : Char} (hmark : mark.toNat < 0x80) (h : mark ∈ ofChar c) :
    c = mark := by
  obtain ⟨b, hb, hchar⟩ := List.mem_map.1 h
  have hvalid : b.toNat.isValidChar := .inl (Nat.lt_trans b.toNat_lt (by decide))
  have hnumber : b.toNat = mark.toNat := by
    rw [← hchar, Utf8.toNat_ofNat_of_valid hvalid]
  rcases Utf8.encodeChar_bytes hb with hsame | hhigh
  · rw [← Char.ofNat_toNat c, ← hsame, hchar]
  · omega

theorem mem_ofString {mark : Char} (hmark : mark.toNat < 0x80) {s : String} :
    mark ∈ ofString s ↔ mark ∈ s.toList := by
  rw [ofString_eq, List.mem_flatMap]
  constructor
  · rintro ⟨c, hc, hbyte⟩
    rwa [← eq_of_mem_ofChar hmark hbyte]
  · intro h
    exact ⟨mark, h, by rw [ofChar_of_ascii hmark]; exact List.mem_singleton_self mark⟩

theorem ofString_eq_nil {s : String} : ofString s = [] ↔ s = "" := by
  rw [ofString_eq, List.flatMap_eq_nil_iff, ← String.toList_eq_nil_iff]
  constructor
  · intro h
    exact List.eq_nil_iff_forall_not_mem.2 fun c hc => ofChar_ne_nil c (h c hc)
  · intro h c hc
    simp [h] at hc

/-! ### Pieces of a text -/

theorem split_append_of_notMem {mark : Char} {front : ByteText} (h : mark ∉ front)
    (text : ByteText) : split mark (front ++ text) = (split mark text).modifyHead (front ++ ·) := by
  induction front with
  | nil =>
      rw [List.nil_append]
      cases split mark text <;> rfl
  | cons c front ih =>
      have hc : ¬c = mark := fun h' => h (h' ▸ List.mem_cons_self)
      rw [List.cons_append, split_cons, if_neg hc, ih fun h' => h (List.mem_cons_of_mem c h'),
        List.modifyHead_modifyHead]
      rfl

theorem split_flatMap {mark : Char} (hmark : mark.toNat < 0x80) (text : List Char) :
    split mark (text.flatMap ofChar) = (split mark text).map (·.flatMap ofChar) := by
  induction text with
  | nil => rfl
  | cons c text ih =>
      rw [List.flatMap_cons, split_cons]
      by_cases hc : c = mark
      · rw [if_pos hc, hc, ofChar_of_ascii hmark, List.singleton_append, split_cons, if_pos rfl, ih]
        rfl
      · rw [if_neg hc, split_append_of_notMem fun h => hc (eq_of_mem_ofChar hmark h), ih]
        cases split mark text <;> rfl

/-- The pieces between the marks of a text, as bytes. -/
theorem split_ofString {mark : Char} (hmark : mark.toNat < 0x80) (s : String) :
    split mark (ofString s) = (split mark s.toList).map fun piece => ofString (.ofList piece) := by
  simp only [ofString_eq, String.toList_ofList, split_flatMap hmark]

/-! ### Paths under a directory -/

theorem getLast?_ofString {mark : Char} (hmark : mark.toNat < 0x80) (s : String) :
    (ofString s).getLast? = some mark ↔ s.toList.getLast? = some mark := by
  rw [ofString_eq]
  rcases List.eq_nil_or_concat s.toList with hnil | ⟨front, c, hlast⟩
  · simp [hnil]
  · rw [hlast, List.concat_eq_append, List.flatMap_append, List.flatMap_singleton,
      List.getLast?_append_of_ne_nil _ (ofChar_ne_nil c), List.getLast?_concat]
    constructor
    · intro h
      rw [eq_of_mem_ofChar hmark (List.mem_of_getLast? h)]
    · intro h
      rw [Option.some.inj h, ofChar_of_ascii hmark]
      rfl

/-- A path under a directory, as bytes. -/
theorem ofString_join {directory path : String} (h : '/' ∉ path.toList) :
    ofString (Path.join directory path) =
      if (ofString directory).isEmpty then ofString path
      else Machine.inside (ofString directory) (ofString path) := by
  unfold Path.join Machine.inside
  rw [Path.isAbsolute_eq_false h]
  have hlast : (ofString directory).getLast? = some '/' ↔ directory.toList.getLast? = some '/' :=
    getLast?_ofString (by decide) directory
  simp only [List.isEmpty_iff, ofString_eq_nil, hlast]
  by_cases hempty : directory = ""
  · simp [hempty]
  by_cases hslash : directory.toList.getLast? = some '/'
  · simp [hempty, hslash]
  · have hbytes : ofString "/" = ['/'] := by decide
    simp [hempty, hslash, hbytes]

theorem ofString_suffix {s t : String} (h : s.toList <:+ t.toList) : ofString s <:+ ofString t := by
  obtain ⟨front, hfront⟩ := h
  rw [ofString_eq, ofString_eq, ← hfront, List.flatMap_append]
  exact List.suffix_append _ _

end ByteText

/-! ### Paths that mean a directory -/

namespace FileTree

/-- The last of the names, if there is one, is a point. -/
def EndsInPoint (names : List ByteText) : Prop := ∀ name ∈ names.getLast?, name = ['.']

theorem EndsInPoint.tail {name : ByteText} {rest : List ByteText} (h : EndsInPoint (name :: rest)) :
    EndsInPoint rest := by
  intro last hlast
  refine h last ?_
  rw [Option.mem_def] at hlast ⊢
  rw [List.getLast?_cons, hlast, Option.getD_some]

theorem EndsInPoint.append {names rest : List ByteText} (h : EndsInPoint rest) (hne : rest ≠ []) :
    EndsInPoint (names ++ rest) := by
  intro last hlast
  rw [List.getLast?_append_of_ne_nil _ hne] at hlast
  exact h last hlast

/-- Another name ends no way in a point. -/
theorem not_endsInPoint {name : ByteText} {rest : List ByteText} (hname : ¬name = ['.'])
    (hrest : rest = []) : ¬EndsInPoint (name :: rest) := by
  intro h
  subst hrest
  exact hname (h name rfl)

/-- Where a directory is meant, or the way ends in a point, a directory has to be. -/
theorem asDirectory_of_walk {root : Node} {follow : Bool} {links : Nat} {directory : List ByteText}
    {asDirectory : Bool} {names : List ByteText} {place : Place}
    (hwalk : walk root follow links directory asDirectory names = .ok place)
    (h : asDirectory = true ∨ EndsInPoint names) : place.asDirectory = true := by
  fun_induction walk root follow links directory asDirectory names with
  | case1 =>
      cases hwalk
      rfl
  | case2 links directory asDirectory rest ih => exact ih hwalk (h.imp_right EndsInPoint.tail)
  | case3 links directory asDirectory rest hhere ih => exact ih hwalk (h.imp_right EndsInPoint.tail)
  | case5 links directory asDirectory name rest hhere hup hlong target hlink hstays =>
      simp only [Bool.and_eq_true, Bool.not_eq_true', List.isEmpty_iff] at hstays
      rcases h with h | h
      · rw [h] at hstays
        cases hstays.2
      · exact absurd h (not_endsInPoint hhere hstays.1.1)
  | case8 directory asDirectory name rest hhere hup hlong target hlink hfollows links hempty ih =>
      refine ih hwalk ?_
      -- the names of the link stand in front of the rest, so the end of the way is the same
      rcases h with h | h
      · exact .inl (by rw [h, Bool.true_or])
      · exact .inr (h.tail.append fun hrest => not_endsInPoint hhere hrest h)
  | case9 links directory asDirectory name rest hhere hup hlong hlast hlink =>
      cases hwalk
      exact h.resolve_right (not_endsInPoint hhere (List.isEmpty_iff.1 hlast))
  | case11 links directory asDirectory name rest hhere hup hlong hlast found hdirectory hlink
      hfound ih => exact ih hwalk (h.imp_right EndsInPoint.tail)
  | case4 | case6 | case7 | case10 | case12 => cases hwalk

theorem endsInPoint_namesIn {path : ByteText} (h : ['/', '.'] <:+ path) :
    EndsInPoint (namesIn path) := by
  obtain ⟨front, rfl⟩ := h
  have hlast : ['.'].splitOn '/' = [['.']] := List.splitOn_eq_singleton (by decide)
  have hsplit : (front ++ '/' :: ['.']).splitOn '/' = front.splitOn '/' ++ ['.'].splitOn '/' :=
    List.splitOnP_append_cons front ['.'] (beq_self_eq_true '/')
  rw [namesIn, ByteText.split_eq, hsplit, hlast, List.filter_append]
  intro name hname
  simpa [eq_comm] using hname

/-- A path that ends in a slash, or in a point behind one, leads to directories only. -/
theorem isDirectory_of_stat {root : Node} {current : List ByteText} {follow : Bool}
    {path : ByteText} {node : Node} (h : stat root current follow path = .ok node)
    (hmeans : ['/'] <:+ path ∨ ['/', '.'] <:+ path) : node.isDirectory = true := by
  unfold stat at h
  cases hplace : resolve root current follow path with
  | error e => simp [hplace] at h
  | ok place =>
      have hdirectory : place.asDirectory = true := by
        unfold resolve at hplace
        split at hplace
        · cases hplace
        split at hplace
        · cases hplace
        refine asDirectory_of_walk hplace ?_
        rcases hmeans with ⟨front, hslash⟩ | hpoint
        · refine .inl ?_
          rw [← hslash, endsInSlash, List.getLast?_concat]
          rfl
        · exact .inr (endsInPoint_namesIn hpoint)
      simp only [hplace, hdirectory, Bool.true_and] at h
      split at h
      · cases h
      split at h
      · cases h
      · rename_i hsort
        rw [← Except.ok.inj h]
        simpa using hsort

end FileTree

namespace Machine

/-- Nothing that is a regular file is found at a path that means a directory. -/
theorem isSuch_of_meansDirectory (m : Machine) {path : ByteText}
    (h : ['/'] <:+ path ∨ ['/', '.'] <:+ path) (p : Node → Bool)
    (hp : ∀ node, p node = true → node.isFile = true) : m.isSuch p path = false := by
  unfold isSuch
  cases hstat : m.stat path with
  | error e => rfl
  | ok node =>
      have hdirectory := FileTree.isDirectory_of_stat hstat h
      rw [Bool.eq_false_iff]
      intro hnode
      have hfile := hp node hnode
      cases node <;> simp_all [Node.isDirectory, Node.isFile]

/-- A path that can lead to nothing but a directory leads to no regular file. -/
theorem isFile_host_of_meansDirectory (m : Machine) {path : String} (h : Path.MeansDirectory path) :
    host.isFile m path = false := by
  have hmeans : ['/'] <:+ ByteText.ofString path ∨ ['/', '.'] <:+ ByteText.ofString path :=
    h.imp (ByteText.ofString_suffix (s := "/")) (ByteText.ofString_suffix (s := "/."))
  have hfile := m.isSuch_of_meansDirectory hmeans Node.isFile fun _ h => h
  simp only [host, isFile, hfile, Bool.and_false]

end Machine

end AssemblyGate
