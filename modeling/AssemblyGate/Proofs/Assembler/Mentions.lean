/-
**The assembler's words without the paths.**

What the assembler says is a run of literal bytes with mentions of its two paths between them.  If
the name of the staging area occurs neither in front of the name nor in what a client is to see,
then every occurrence of the name in the assembler's words lies in a mention.  The two replacements
then find the mentions and nothing else, and what they leave does not depend on the name.

Main definitions:

* `AssemblyGate.Mention`, `AssemblyGate.Speech` — a mention of a path, and what the assembler says;
* `AssemblyGate.Speech.bytes`, `AssemblyGate.Speech.shown` — its bytes when the two paths are
  known, and what a client is to see;
* `AssemblyGate.Marks` — a name that occurs nowhere in front of it.

Main results:

* `AssemblyGate.Marks.occurs_eq` — where the name occurs in a text that begins with a mention;
* `AssemblyGate.StagingArea.sanitize_bytes` — **the mentions are replaced and nothing else is**.
-/
import AssemblyGate.Proofs.Assembler.StagingPaths
import AssemblyGate.Proofs.Text.Replacement
import AssemblyGate.Proofs.Text.Utf8

set_option autoImplicit false

namespace AssemblyGate

/-! ### What the assembler says -/

/-- A mention of one of the two paths. -/
inductive Mention
  | source
  | result
deriving DecidableEq

/-- What the assembler says: literal bytes with mentions between them. -/
structure Speech where
  opening : Bytes
  rest : List (Mention × Bytes)
deriving DecidableEq

/-- A text with a text for each mention. -/
def weave (text : Mention → List Char) (opening : List Char) (rest : List (Mention × List Char)) :
    List Char :=
  opening ++ rest.flatMap fun m => text m.1 ++ m.2

theorem weave_cons (text : Mention → List Char) (opening : List Char) (m : Mention)
    (word : List Char) (rest : List (Mention × List Char)) :
    weave text opening ((m, word) :: rest) = opening ++ (text m ++ weave text word rest) := by
  simp [weave]

namespace Mention

/-- The path that is mentioned. -/
def path (area : StagingArea) : Mention → List Char
  | source => area.source.toList
  | result => area.result.toList

/-- What a client is to see in place of the path. -/
def placeholder (placeholder : String) : Mention → List Char
  | source => placeholder.toList
  | result => (StagingArea.resultPlaceholder placeholder).toList

/-- What follows the name of the staging area in the path. -/
def ending : Mention → List Char
  | source => ['/', 'i', 'n', 'p', 'u', 't', '.', 'S']
  | result => ['/', 'i', 'n', 'p', 'u', 't', '.', 'o']

end Mention

namespace Speech

/-- The literal texts as they are shown. -/
def words (speech : Speech) : List (Mention × List Char) :=
  speech.rest.map fun m => (m.1, Utf8.decodeLossy m.2)

/-- The bytes of the assembler's words, with the paths that are mentioned. -/
def bytes (path : Mention → List Char) (speech : Speech) : Bytes :=
  speech.opening ++ speech.rest.flatMap fun m => Utf8.encode (path m.1) ++ m.2

/-- What a client is to see. -/
def shown (placeholder : String) (speech : Speech) : List Char :=
  weave (Mention.placeholder placeholder) (Utf8.decodeLossy speech.opening) speech.words

theorem decodeLossy_bytes {path : Mention → List Char} (hpath : ∀ m, path m ≠ [])
    (speech : Speech) :
    Utf8.decodeLossy (speech.bytes path)
      = weave path (Utf8.decodeLossy speech.opening) speech.words := by
  obtain ⟨opening, rest⟩ := speech
  induction rest generalizing opening with
  | nil => simp [bytes, words, weave]
  | cons m rest ih =>
      obtain ⟨m, literal⟩ := m
      have hbytes : bytes path ⟨opening, (m, literal) :: rest⟩
          = opening ++ Utf8.encode (path m) ++ bytes path ⟨literal, rest⟩ := by
        simp [bytes]
      rw [hbytes, Utf8.decodeLossy_append_encode _ _ (hpath m), ih]
      simp [words, weave]

end Speech

/-! ### Where the name occurs -/

/-- A name that marks the paths of its staging area: it is a name of its own, and it occurs nowhere
in front of itself. -/
structure Marks (stem name : List Char) : Prop where
  begins : stem.head? = some '/'
  ends : stem.getLast? = some '/'
  plain : '/' ∉ name
  first : ∃ rest, name = 'a' :: rest
  apart : ¬name <:+: stem

/-- The path of a mention, put together. -/
def markedPath (stem name : List Char) (m : Mention) : List Char := stem ++ name ++ m.ending

theorem OccursAt.of_markedPath {stem name text : List Char} {m : Mention} {p : Nat}
    (h : OccursAt (markedPath stem name m) text p) : OccursAt name text (p + stem.length) := by
  obtain ⟨rest, hrest⟩ := h
  refine ⟨m.ending ++ rest, ?_⟩
  rw [← List.drop_drop, ← hrest, markedPath]
  simp

theorem infix_markedPath (stem name : List Char) (m : Mention) :
    name <:+: markedPath stem name m := ⟨stem, m.ending, rfl⟩

theorem Mention.notMem_ending (m : Mention) : 'a' ∉ m.ending := by
  cases m <;> decide

theorem Mention.exists_ending (m : Mention) : ∃ rest, m.ending = '/' :: rest := by
  cases m <;> exact ⟨_, rfl⟩

/-- No occurrence of the name begins inside the ending of a path. -/
theorem Marks.not_occursAt_ending {stem name before more : List Char} (hmarks : Marks stem name)
    (m : Mention) {p : Nat} (hlow : before.length ≤ p)
    (hhigh : p < before.length + m.ending.length) :
    ¬OccursAt name (before ++ m.ending ++ more) p := by
  intro h
  obtain ⟨rest, hname⟩ := hmarks.first
  have hchar := h.getElem? (i := 0) (c := 'a') (by simp [hname])
  rw [Nat.add_zero, List.append_assoc, List.getElem?_append_right hlow,
    List.getElem?_append_left (by omega)] at hchar
  exact m.notMem_ending (List.mem_of_getElem? hchar)

/-- In a text that goes on with a mention, the name occurs first in the mention. -/
theorem Marks.occurs_eq {stem name before more : List Char} (hmarks : Marks stem name)
    (hbefore : ¬name <:+: before) (m : Mention) {p : Nat}
    (h : OccursAt name (before ++ (markedPath stem name m ++ more)) p)
    (hp : p < before.length + (markedPath stem name m).length) :
    p = before.length + stem.length := by
  obtain ⟨front, hfront⟩ := List.head?_eq_some_iff.1 hmarks.begins
  obtain ⟨init, hinit⟩ := List.getLast?_eq_some_iff.1 hmarks.ends
  obtain ⟨tail, htail⟩ := m.exists_ending
  have hlength : stem.length = init.length + 1 := by simp [hinit]
  have htext : before ++ (markedPath stem name m ++ more)
      = before ++ stem ++ (name ++ m.ending ++ more) := by simp [markedPath]
  -- three slashes around the name, none of which is inside an occurrence of it
  have hopen : (before ++ (markedPath stem name m ++ more))[before.length]? = some '/' := by
    simp [markedPath, hfront]
  have hlast : (before ++ (markedPath stem name m ++ more))[before.length + init.length]?
      = some '/' := by
    simp [markedPath, hinit]
  have hclose : (before ++ (markedPath stem name m ++ more))[before.length
      + (stem.length + name.length)]? = some '/' := by
    simp [markedPath, htail]
  have hafter : before.length ≤ p := by
    rcases h.apart hmarks.plain hopen with hlt | hle
    · exact hlt.le
    · have hfront : OccursAt name ([] ++ before ++ (markedPath stem name m ++ more)) p := by
        simpa using h
      exact absurd (hfront.within (by simp) (by simpa using hle)) hbefore
  have hstem : before.length + stem.length ≤ p := by
    rcases h.apart hmarks.plain hlast with hlt | hle
    · omega
    · rw [htext] at h
      exact absurd (h.within hafter (by omega)) hmarks.apart
  rcases h.apart hmarks.plain hclose with hlt | hle
  · -- past the last slash there is only the ending, which the name does not begin in
    have hending : before ++ (markedPath stem name m ++ more)
        = (before ++ (stem ++ name)) ++ m.ending ++ more := by simp [markedPath]
    have hwithin : p < (before ++ (stem ++ name)).length + m.ending.length := by
      simp [markedPath] at hp ⊢
      omega
    rw [hending] at h
    exact absurd h (hmarks.not_occursAt_ending m (by simp; omega) hwithin)
  · omega

/-! ### The two replacements -/

/-- The texts for the mentions while only the sources have been replaced. -/
def halfShown (stem name placeholder : List Char) : Mention → List Char
  | .source => placeholder
  | .result => markedPath stem name .result

theorem infix_opening {text : Mention → List Char} {opening : List Char}
    {rest : List (Mention × List Char)} : opening <:+: weave text opening rest :=
  (List.prefix_append _ _).isInfix

theorem infix_weave_cons {text : Mention → List Char} {opening word : List Char} {m : Mention}
    {rest : List (Mention × List Char)} :
    weave text word rest <:+: weave text opening ((m, word) :: rest) := by
  rw [weave_cons, ← List.append_assoc]
  exact (List.suffix_append _ _).isInfix

variable {stem name : List Char}

theorem markedPath_ne_nil (hmarks : Marks stem name) (m : Mention) :
    markedPath stem name m ≠ [] := by
  obtain ⟨front, hfront⟩ := List.head?_eq_some_iff.1 hmarks.begins
  simp [markedPath, hfront]

theorem markedPath_inj {m m' : Mention} {more : List Char}
    (h : markedPath stem name m <+: markedPath stem name m' ++ more) : m = m' := by
  rw [markedPath, markedPath, List.append_assoc _ _ more, List.prefix_append_right_inj] at h
  cases m <;> cases m' <;> simp [Mention.ending] at h ⊢

/-- A text without the name stays as it is. -/
theorem replaceAll_opening (hmarks : Marks stem name) {opening : List Char}
    (hopening : ¬name <:+: opening) (m : Mention) (replacement : List Char) :
    replaceAll (markedPath stem name m) replacement opening = opening :=
  replaceAll_of_not_infix (markedPath_ne_nil hmarks m) replacement
    fun h => hopening ((infix_markedPath stem name m).trans h)

/-- What comes before a mention stays as it is. -/
theorem replaceAll_before (hmarks : Marks stem name) {before : List Char}
    (hbefore : ¬name <:+: before) (m m' : Mention) (replacement more : List Char) :
    replaceAll (markedPath stem name m) replacement (before ++ (markedPath stem name m' ++ more))
      = before ++ replaceAll (markedPath stem name m) replacement
          (markedPath stem name m' ++ more) := by
  refine replaceAll_append (markedPath_ne_nil hmarks m) replacement ?_
  intro p hp hoccurs
  have hname := hmarks.occurs_eq hbefore m' hoccurs.of_markedPath (by simp [markedPath]; omega)
  omega

/-- The name of the area does not occur before the first mention. -/
theorem Marks.le_of_occurs (hmarks : Marks stem name) {opening : List Char}
    (hopening : ¬name <:+: opening) (rest : List (Mention × List Char)) {q : Nat}
    (h : OccursAt name (weave (markedPath stem name) opening rest) q) : stem.length ≤ q := by
  cases rest with
  | nil =>
      rw [weave, List.flatMap_nil, List.append_nil] at h
      exact absurd (h.isInfix.trans (List.drop_suffix _ _).isInfix) hopening
  | cons m rest =>
      obtain ⟨m, word⟩ := m
      rw [weave_cons] at h
      by_cases hq : q < opening.length + (markedPath stem name m).length
      · have := hmarks.occurs_eq hopening m h hq
        omega
      · simp [markedPath] at hq
        omega

/-- A mention of the other path stays as it is. -/
theorem replaceAll_other (hmarks : Marks stem name) {m m' : Mention} (hne : m ≠ m')
    {word : List Char} (hword : ¬name <:+: word) (replacement : List Char)
    (rest : List (Mention × List Char)) :
    replaceAll (markedPath stem name m) replacement
        (markedPath stem name m' ++ weave (markedPath stem name) word rest)
      = markedPath stem name m' ++ replaceAll (markedPath stem name m) replacement
          (weave (markedPath stem name) word rest) := by
  refine replaceAll_append (markedPath_ne_nil hmarks m) replacement ?_
  intro p hp hoccurs
  -- with the path its name occurs, either in the mention itself or in what follows it
  have hname := hoccurs.of_markedPath
  by_cases hq : p + stem.length < (markedPath stem name m').length
  · have hnil : ¬name <:+: [] := by
      obtain ⟨tail, htail⟩ := hmarks.first
      simp [htail]
    have hfront : OccursAt name
        ([] ++ (markedPath stem name m' ++ weave (markedPath stem name) word rest))
        (p + stem.length) := by simpa using hname
    have hstart := hmarks.occurs_eq hnil m' hfront (by simpa using hq)
    obtain rfl : p = 0 := by simpa using hstart
    exact hne (markedPath_inj hoccurs)
  · have hlater : OccursAt name (weave (markedPath stem name) word rest)
        (p + stem.length - (markedPath stem name m').length) := by
      rw [OccursAt, List.drop_append, List.drop_eq_nil_of_le (Nat.le_of_not_lt hq),
        List.nil_append] at hname
      exact hname
    have := hmarks.le_of_occurs hword rest hlater
    omega

/-- The first replacement finds the mentions of the source. -/
theorem replaceAll_source (hmarks : Marks stem name) (text : Mention → List Char)
    {opening : List Char} {rest : List (Mention × List Char)}
    (hfresh : ¬name <:+: weave text opening rest) :
    replaceAll (markedPath stem name .source) (text .source)
        (weave (markedPath stem name) opening rest)
      = weave (halfShown stem name (text .source)) opening rest := by
  induction rest generalizing opening with
  | nil =>
      have hopening : ¬name <:+: opening := fun h => hfresh (h.trans infix_opening)
      simpa [weave] using replaceAll_opening hmarks hopening _ _
  | cons m rest ih =>
      obtain ⟨m, word⟩ := m
      have hopening : ¬name <:+: opening := fun h => hfresh (h.trans infix_opening)
      have htail : ¬name <:+: weave text word rest := fun h => hfresh (h.trans infix_weave_cons)
      have hword : ¬name <:+: word := fun h => htail (h.trans infix_opening)
      rw [weave_cons, weave_cons, replaceAll_before hmarks hopening]
      cases m with
      | source =>
          rw [replaceAll_needle_append (markedPath_ne_nil hmarks _), ih htail]
          rfl
      | result =>
          rw [replaceAll_other hmarks (by decide) hword, ih htail]
          rfl

/-- The second replacement finds the mentions of the result. -/
theorem replaceAll_result (hmarks : Marks stem name) (text : Mention → List Char)
    {opening : List Char} {rest : List (Mention × List Char)}
    (hfresh : ¬name <:+: weave text opening rest) :
    replaceAll (markedPath stem name .result) (text .result)
        (weave (halfShown stem name (text .source)) opening rest)
      = weave text opening rest := by
  induction rest generalizing opening with
  | nil =>
      have hopening : ¬name <:+: opening := fun h => hfresh (h.trans infix_opening)
      simpa [weave] using replaceAll_opening hmarks hopening _ _
  | cons m rest ih =>
      obtain ⟨m, word⟩ := m
      cases m with
      | source =>
          -- what has been replaced is a literal text from now on
          have hmerge : ∀ f : Mention → List Char, f .source = text .source →
              weave f opening ((.source, word) :: rest)
                = weave f (opening ++ text .source ++ word) rest := by
            intro f hf
            simp [weave, hf]
          rw [hmerge text rfl] at hfresh ⊢
          rw [hmerge (halfShown stem name (text .source)) rfl]
          exact ih hfresh
      | result =>
          have hopening : ¬name <:+: opening := fun h => hfresh (h.trans infix_opening)
          have htail : ¬name <:+: weave text word rest := fun h => hfresh (h.trans infix_weave_cons)
          rw [weave_cons, weave_cons, show halfShown stem name (text .source) .result
            = markedPath stem name .result from rfl, replaceAll_before hmarks hopening,
            replaceAll_needle_append (markedPath_ne_nil hmarks _), ih htail]

/-! ### Names of staging areas -/

theorem infix_stem {parent name : String} (hplain : '/' ∉ name.toList) (hne : name.toList ≠ [])
    (h : name.toList <:+: Path.stem parent) : name.toList <:+: parent.toList := by
  unfold Path.stem at h
  split at h
  · exact h
  · rcases List.infix_concat_iff.1 h with hsuffix | hinfix
    · obtain ⟨before, hbefore⟩ := hsuffix
      have hlast : name.toList.getLast? = some '/' := by
        rw [← List.getLast?_append_of_ne_nil before hne, hbefore, List.getLast?_concat]
      exact absurd (List.mem_of_getLast? hlast) hplain
    · exact hinfix

/-- A name that is drawn for a staging area marks its paths unless its parent holds the name. -/
theorem marks_of_stagingName {parent name : String} (hparent : Path.isAbsolute parent = true)
    (hname : StagingName name) (hfresh : ¬name.toList <:+: parent.toList) :
    Marks (Path.stem parent) name.toList := by
  obtain ⟨rest, hrest⟩ := hname.exists_cons
  exact ⟨Path.stem_head? hparent, Path.stem_getLast? parent, hname.slash_notMem, ⟨rest, hrest⟩,
    fun h => hfresh (infix_stem hname.slash_notMem (by simp [hrest]) h)⟩

/-- An area in a parent is a directory of its own: what stands in front of its files ends in its
name and a slash. -/
theorem stem_join {parent name : String} (hparent : Path.isAbsolute parent = true)
    (hname : StagingName name) :
    Path.join parent name ≠ "" ∧
      Path.stem (Path.join parent name) = Path.stem parent ++ name.toList ++ ['/'] := by
  obtain ⟨rest, hrest⟩ := hname.exists_cons
  have hdirectory : (Path.join parent name).toList = Path.stem parent ++ name.toList :=
    Path.join_toList (by simp [hrest]) (Path.ne_empty_of_isAbsolute hparent)
  have hlast : (Path.join parent name).toList.getLast? ≠ some '/' := by
    rw [hdirectory, List.getLast?_append_of_ne_nil _ (by simp [hrest])]
    exact fun h => hname.slash_notMem (List.mem_of_getLast? h)
  refine ⟨fun h => ?_, by rw [Path.stem, if_neg hlast, hdirectory]⟩
  have := congrArg String.toList h
  simp [hdirectory, hrest] at this

/-- The paths of an area in a parent. -/
theorem path_eq_markedPath {parent name : String} (hparent : Path.isAbsolute parent = true)
    (hname : StagingName name) (m : Mention) :
    m.path ⟨Path.join parent name⟩ = markedPath (Path.stem parent) name.toList m := by
  obtain ⟨hne, hstem⟩ := stem_join hparent hname
  cases m with
  | source =>
      rw [Mention.path, StagingArea.source_toList (a := ⟨Path.join parent name⟩) hne, hstem,
        List.append_assoc]
      rfl
  | result =>
      rw [Mention.path, StagingArea.result_toList (a := ⟨Path.join parent name⟩) hne, hstem,
        List.append_assoc]
      rfl

/-! ### Sanitizing -/

/-- **The mentions are replaced and nothing else is**, when the name of the area marks its paths
and does not occur in what a client is to see. -/
theorem StagingArea.sanitize_bytes {area : StagingArea} {placeholder : String} {speech : Speech}
    (hmarks : Marks stem name) (hpaths : ∀ m : Mention, m.path area = markedPath stem name m)
    (hfresh : ¬name <:+: speech.shown placeholder) :
    area.sanitize placeholder (Utf8.decodeLossy (speech.bytes (Mention.path area)))
      = speech.shown placeholder := by
  have hne : ∀ m : Mention, m.path area ≠ [] := fun m => hpaths m ▸ markedPath_ne_nil hmarks m
  have hpath : Mention.path area = markedPath stem name := funext hpaths
  rw [StagingArea.sanitize, Speech.decodeLossy_bytes hne, hpath,
    show area.source.toList = markedPath stem name .source from hpaths .source,
    show area.result.toList = markedPath stem name .result from hpaths .result]
  have hsource := replaceAll_source hmarks (Mention.placeholder placeholder) hfresh
  have hresult := replaceAll_result hmarks (Mention.placeholder placeholder) hfresh
  rw [show placeholder.toList = Mention.placeholder placeholder .source from rfl, hsource]
  exact hresult

end AssemblyGate
