/-
**Whether a path can come back.**

Each of the two replacements goes through the assembler's words once.  A placeholder that it leaves
behind the beginning of a path can complete the path again, and nothing takes it away afterwards.
With the placeholder `input.S` it is enough that the assembler names the directory straight in front
of the source.  Nothing else brings a path back: whatever the placeholder, some path must stand
straight behind a beginning of a path; and there are words that bring one back exactly when a
placeholder could go on with a path from one of its beginnings.

Main definitions:

* `AssemblyGate.StagingArea.Hides` — no path of an area occurs in a text;
* `AssemblyGate.Completes` — a word could go on with a path from one of its beginnings;
* `AssemblyGate.StagingArea.Splices` — words in which a path stands where its placeholder could.

Main results:

* `AssemblyGate.StagingArea.hides_sanitize_of_not_splices` — words that splice no paths are freed of
  all of them;
* `AssemblyGate.StagingArea.sanitize_leaks` — a path that comes back;
* `AssemblyGate.StagingArea.hides_sanitize_iff` — **which placeholders bring no path back**.
-/
import AssemblyGate.Proofs.Assembler.Mentions
import Mathlib.Data.Nat.Find

set_option autoImplicit false

namespace AssemblyGate

/-- A word could go on with a path from one of its beginnings. -/
def Completes (word path : List Char) : Prop := ∃ k < path.length, 0 < k ∧ MeetsAt word path k

instance (word path : List Char) : Decidable (Completes word path) :=
  inferInstanceAs (Decidable (∃ k < path.length, _))

/-- The last character of a path. -/
def Mention.letter : Mention → Char
  | source => 'S'
  | result => 'o'

namespace StagingArea

/-- No path of the area occurs in a text. -/
def Hides (a : StagingArea) (text : List Char) : Prop := ∀ m : Mention, ¬m.path a <:+: text

/-- A path stands straight behind a beginning of a path, which its placeholder could go on with. -/
def Splices (a : StagingArea) (placeholder : String) (words : List Char) : Prop :=
  ∃ m m' : Mention, ∃ k < (m.path a).length, 0 < k ∧
    MeetsAt (m'.placeholder placeholder) (m.path a) k ∧ (m.path a).take k ++ m'.path a <:+: words

/-- What the two paths have in common. -/
def trunk (a : StagingArea) : List Char := Path.stem a.directory ++ "input.".toList

variable {a : StagingArea} {placeholder : String}

theorem path_eq_trunk (hrooted : Path.isAbsolute a.directory = true) (m : Mention) :
    m.path a = a.trunk ++ [m.letter] := by
  have hne := Path.ne_empty_of_isAbsolute hrooted
  cases m with
  | source =>
      rw [Mention.path, source_toList hne, trunk, List.append_assoc]
      rfl
  | result =>
      rw [Mention.path, result_toList hne, trunk, List.append_assoc]
      rfl

theorem path_head? (hrooted : Path.isAbsolute a.directory = true) (m : Mention) :
    (m.path a).head? = some '/' := by
  obtain ⟨rest, hrest⟩ := List.head?_eq_some_iff.1 (Path.stem_head? hrooted)
  rw [path_eq_trunk hrooted, trunk, hrest]
  rfl

theorem path_ne_nil (hrooted : Path.isAbsolute a.directory = true) (m : Mention) :
    m.path a ≠ [] := by
  rw [path_eq_trunk hrooted]
  simp

/-- Neither path occurs at the front of the other. -/
theorem path_prefix_inj (hrooted : Path.isAbsolute a.directory = true) {m m' : Mention}
    {rest : List Char} (h : m.path a <+: m'.path a ++ rest) : m = m' := by
  rw [path_eq_trunk hrooted, path_eq_trunk hrooted, List.append_assoc,
    List.prefix_append_right_inj] at h
  cases m <;> cases m' <;> simp [Mention.letter] at h ⊢

theorem slash_notMem_placeholder (hplain : '/' ∉ placeholder.toList) (m : Mention) :
    '/' ∉ m.placeholder placeholder := by
  cases m with
  | source => exact hplain
  | result => exact Path.slash_notMem_withExtension hplain (by decide)

/-! ### Words that splice no paths -/

/-- What a plain word could go on with in front of a slash, it could go on with in any text. -/
theorem meetsAt_of_append {word text rest : List Char} {k n : Nat} (hplain : '/' ∉ word)
    (h : MeetsAt word (text.take n ++ '/' :: rest) k) (hk : k ≤ (text.take n).length) :
    MeetsAt word text k := by
  rw [MeetsAt, List.drop_append_of_le_length hk] at h
  rcases h with hrest | hword
  · exact absurd (hrest.subset (by simp)) hplain
  · -- the word lacks the slash, so it ends in front of it
    have hfront : word <+: (text.take n).drop k := by
      rcases List.prefix_or_prefix_of_prefix hword (List.prefix_append _ _) with hle | ⟨more, rfl⟩
      · exact hle
      · cases more with
        | nil => simp
        | cons c more =>
            have hslash := (List.prefix_append_right_inj _).1 hword
            obtain rfl := (List.cons_prefix_cons.1 hslash).1
            exact absurd (by simp) hplain
    rw [List.drop_take] at hfront
    exact .inr (hfront.trans (List.take_prefix _ _))

/-- A path behind a beginning of a path, after the first replacement, shows that there were such
two before. -/
theorem splices_of_result (hrooted : Path.isAbsolute a.directory = true)
    (hplain : '/' ∉ placeholder.toList) {words : List Char} {m : Mention} {k : Nat}
    (hk : k < (m.path a).length) (hpos : 0 < k)
    (hmeets : MeetsAt (Mention.placeholder placeholder .result) (m.path a) k)
    (h : (m.path a).take k ++ Mention.path a .result
      <:+: replaceAll (Mention.path a .source) placeholder.toList words) :
    a.Splices placeholder words := by
  obtain ⟨tail, hpath⟩ := List.head?_eq_some_iff.1 (path_head? hrooted m)
  obtain ⟨rest, hresult⟩ := List.head?_eq_some_iff.1 (path_head? hrooted .result)
  have hlength : ((m.path a).take k).length = k := List.length_take_of_le hk.le
  have hhead : ((m.path a).take k ++ Mention.path a .result).head? = some '/' := by
    obtain ⟨k, rfl⟩ := Nat.exists_eq_add_one_of_ne_zero hpos.ne'
    simp [hpath]
  rcases infix_replaceAll (path_ne_nil hrooted _) hhead hplain h with
    ⟨after, hafter, hfound, -⟩ | ⟨j, hj, hjpos, hneedle, hjmeets⟩
  · exact ⟨m, .result, k, hk, hpos, hmeets, hfound.isInfix.trans hafter.isInfix⟩
  rcases Nat.lt_or_ge k j with hlt | hle
  · -- the source stood behind a beginning of the result
    obtain ⟨i, rfl⟩ := Nat.exists_eq_add_of_lt hlt
    rw [List.length_append, hlength] at hj
    have htake : ((m.path a).take k ++ Mention.path a .result).take (k + i + 1)
        = (m.path a).take k ++ (Mention.path a .result).take (i + 1) := by
      rw [List.take_append, hlength, List.take_of_length_le (by omega)]
      congr 2
      omega
    have hdrop : ((m.path a).take k ++ Mention.path a .result).drop (k + i + 1)
        = (Mention.path a .result).drop (i + 1) := by
      rw [List.drop_append, hlength, List.drop_of_length_le (by omega), List.nil_append]
      congr 1
      omega
    rw [MeetsAt, hdrop] at hjmeets
    rw [htake, List.append_assoc] at hneedle
    exact ⟨.result, .source, i + 1, by omega, i.succ_pos, hjmeets,
      (List.suffix_append _ _).isInfix.trans hneedle⟩
  · -- the source stood behind a shorter beginning
    have htake : ((m.path a).take k ++ Mention.path a .result).take j = (m.path a).take j := by
      rw [List.take_append_of_le_length (by omega), List.take_take, Nat.min_eq_left hle]
    rw [htake] at hneedle
    rw [hresult] at hjmeets
    have hback := meetsAt_of_append hplain hjmeets (by omega)
    exact ⟨m, .source, j, by omega, hjpos, hback, hneedle⟩

/-- Where a path in the sanitized words comes from. -/
theorem exists_of_infix_path (hrooted : Path.isAbsolute a.directory = true)
    (hplain : '/' ∉ placeholder.toList) {words : List Char} {m : Mention}
    (h : m.path a <:+: a.sanitize placeholder words) :
    (m = .source ∧ ∃ k < (m.path a).length, 0 < k ∧ MeetsAt placeholder.toList (m.path a) k ∧
      (m.path a).take k ++ Mention.path a .source <:+: words) ∨
    ∃ k < (m.path a).length, 0 < k ∧
      MeetsAt (Mention.placeholder placeholder .result) (m.path a) k ∧
      (m.path a).take k ++ Mention.path a .result
        <:+: replaceAll (Mention.path a .source) placeholder.toList words := by
  have hhead := path_head? hrooted m
  rcases infix_replaceAll (path_ne_nil hrooted .result) hhead
      (slash_notMem_placeholder hplain .result) h with
    ⟨after, hafter, hfound, hkept⟩ | ⟨k, hk, hpos, hneedle, hmeets⟩
  · cases m with
    | result => exact absurd hfound hkept
    | source =>
        have hfirst := hfound.isInfix.trans hafter.isInfix
        rcases infix_replaceAll (path_ne_nil hrooted .source) hhead hplain hfirst with
          ⟨before, -, hbefore, hnone⟩ | ⟨k, hk, hpos, hneedle, hmeets⟩
        · exact absurd hbefore hnone
        · exact .inl ⟨rfl, k, hk, hpos, hmeets, hneedle⟩
  · exact .inr ⟨k, hk, hpos, hmeets, hneedle⟩

/-- Words that splice no paths are freed of all of them. -/
theorem hides_sanitize_of_not_splices (hrooted : Path.isAbsolute a.directory = true)
    (hplain : '/' ∉ placeholder.toList) {words : List Char}
    (h : ¬a.Splices placeholder words) : a.Hides (a.sanitize placeholder words) := by
  intro m hm
  rcases exists_of_infix_path hrooted hplain hm with
    ⟨rfl, k, hk, hpos, hmeets, hneedle⟩ | ⟨k, hk, hpos, hmeets, hneedle⟩
  · exact h ⟨.source, .source, k, hk, hpos, hmeets, hneedle⟩
  · exact h (splices_of_result hrooted hplain hk hpos hmeets hneedle)

/-! ### Words that bring a path back -/

/-- A place inside the paths that is not straight in front of a slash. -/
structure Plain (a : StagingArea) (k : Nat) : Prop where
  le : k ≤ a.trunk.length
  ne : a.trunk[k]? ≠ some '/'

theorem length_path (hrooted : Path.isAbsolute a.directory = true) (m : Mention) :
    (m.path a).length = a.trunk.length + 1 := by
  rw [path_eq_trunk hrooted, List.length_append, List.length_singleton]

theorem getElem?_path (hrooted : Path.isAbsolute a.directory = true) (m : Mention) {i : Nat}
    (hi : i < a.trunk.length) : (m.path a)[i]? = a.trunk[i]? := by
  rw [path_eq_trunk hrooted, List.getElem?_append_left hi]

theorem take_path (hrooted : Path.isAbsolute a.directory = true) (m : Mention) {k : Nat}
    (hk : k ≤ a.trunk.length) : (m.path a).take k = a.trunk.take k := by
  rw [path_eq_trunk hrooted, List.take_append_of_le_length hk]

theorem take_append_drop_path (hrooted : Path.isAbsolute a.directory = true) (m : Mention)
    {k : Nat} (hk : k ≤ a.trunk.length) : a.trunk.take k ++ (m.path a).drop k = m.path a := by
  rw [← take_path hrooted m hk, List.take_append_drop]

theorem Plain.getElem? (hrooted : Path.isAbsolute a.directory = true) {k : Nat} (h : a.Plain k)
    (m : Mention) : ∃ d, (m.path a)[k]? = some d ∧ d ≠ '/' := by
  have hk : k < (m.path a).length := by
    rw [length_path hrooted]
    exact Nat.lt_succ_of_le h.le
  refine ⟨_, List.getElem?_eq_getElem hk, fun heq => ?_⟩
  have hslash := heq ▸ List.getElem?_eq_getElem hk
  rcases h.le.lt_or_eq with hlt | rfl
  · exact h.ne (getElem?_path hrooted m hlt ▸ hslash)
  · rw [path_eq_trunk hrooted, List.getElem?_concat_length] at hslash
    cases m <;> simp [Mention.letter] at hslash

/-- A path does not begin inside a beginning of it that stands in front of another such. -/
theorem Plain.not_occursAt (hrooted : Path.isAbsolute a.directory = true) {k p : Nat}
    (h : a.Plain k) (m : Mention) {rest : List Char} (hrest : a.trunk.take k <+: rest)
    (hp : p < k) : ¬OccursAt (m.path a) (a.trunk.take k ++ rest) p := by
  intro hoccurs
  have hlength : (a.trunk.take k).length = k := List.length_take_of_le h.le
  obtain ⟨d, hd, hne⟩ := h.getElem? hrooted m
  -- the path begins with a slash, so there is one at the place itself and as far into the rest
  have hhead : (m.path a)[0]? = some '/' := by rw [← List.head?_eq_getElem?, path_head? hrooted]
  have hslash : (a.trunk.take k)[p]? = some '/' := by
    have hfront := hoccurs.getElem? hhead
    rwa [Nat.add_zero, List.getElem?_append_left (by omega)] at hfront
  have hagain : (a.trunk.take k ++ rest)[p + k]? = some '/' := by
    obtain ⟨more, rfl⟩ := hrest
    rw [List.getElem?_append_right (by omega), hlength, Nat.add_sub_cancel,
      List.getElem?_append_left (by omega), hslash]
  exact hne (Option.some.inj ((hoccurs.getElem? hd).symm.trans hagain))

/-- A path behind a beginning of it is replaced, and a short text behind it stays. -/
theorem Plain.replaceAll_path (hrooted : Path.isAbsolute a.directory = true) {k : Nat}
    (h : a.Plain k) (m : Mention) (replacement : List Char) {rest : List Char}
    (hrest : rest.length < (m.path a).length) :
    replaceAll (m.path a) replacement (a.trunk.take k ++ (m.path a ++ rest))
      = a.trunk.take k ++ (replacement ++ rest) := by
  have hne := path_ne_nil hrooted m
  have hfront : a.trunk.take k <+: m.path a ++ rest := by
    rw [← take_path hrooted m h.le]
    exact (List.take_prefix _ _).trans (List.prefix_append _ _)
  have hnowhere : ∀ p < (a.trunk.take k).length,
      ¬OccursAt (m.path a) (a.trunk.take k ++ (m.path a ++ rest)) p := fun p hp =>
    h.not_occursAt hrooted m hfront (hp.trans_le (List.length_take_le _ _))
  rw [replaceAll_append hne _ hnowhere, replaceAll_needle_append hne,
    replaceAll_of_not_infix hne _ fun hinfix => absurd hinfix.length_le (by omega)]

/-- The last place from which a word could go on with a path. -/
structure Last (word path : List Char) (k : Nat) : Prop where
  pos : 0 < k
  lt : k < path.length
  meets : MeetsAt word path k
  last : ∀ j, k < j → j < path.length → ¬MeetsAt word path j

theorem exists_last {word path : List Char} (h : Completes word path) :
    ∃ k, Last word path k := by
  obtain ⟨k, hk, hpos, hmeets⟩ := h
  classical
  let P : Nat → Prop := fun j => 0 < j ∧ j < path.length ∧ MeetsAt word path j
  obtain ⟨hpos, hlt, hmeets⟩ : P (Nat.findGreatest P path.length) :=
    Nat.findGreatest_spec hk.le ⟨hpos, hk, hmeets⟩
  refine ⟨_, hpos, hlt, hmeets, fun j hj hlt hmeets => ?_⟩
  exact Nat.findGreatest_is_greatest hj hlt.le ⟨by omega, hlt, hmeets⟩

/-- The empty word could go on with a path from its last character. -/
theorem Last.eq_of_nil {path : List Char} {k : Nat} (h : Last [] path k) :
    k + 1 = path.length := by
  by_contra hne
  exact h.last (k + 1) (by omega) (by have := h.lt; omega) (.inr List.nil_prefix)

theorem Last.plain (hrooted : Path.isAbsolute a.directory = true) {word : List Char} {m : Mention}
    {k : Nat} (h : Last word (m.path a) k) (hplain : '/' ∉ word) : a.Plain k := by
  have hlength := length_path hrooted m
  have hlt := h.lt
  refine ⟨by omega, fun hslash => ?_⟩
  have hk : k < a.trunk.length := (List.getElem?_eq_some_iff.1 hslash).1
  cases word with
  | nil =>
      have := h.eq_of_nil
      omega
  | cons c word =>
      have hdrop : (m.path a).drop k = '/' :: (m.path a).drop (k + 1) := by
        rw [← getElem?_path hrooted m hk, List.getElem?_eq_getElem hlt] at hslash
        rw [List.drop_eq_getElem_cons hlt, Option.some.inj hslash]
      rcases h.meets with hrest | hword
      · rw [hdrop] at hrest
        exact hplain (hrest.subset (by simp))
      · rw [hdrop] at hword
        exact hplain ((List.cons_prefix_cons.1 hword).1 ▸ List.mem_cons_self)

/-- With a plain text behind it, the source does not hold the result. -/
theorem not_infix_result (hrooted : Path.isAbsolute a.directory = true) {rest : List Char}
    (hrest : '/' ∉ rest) : ¬Mention.path a .result <:+: Mention.path a .source ++ rest := by
  intro h
  obtain ⟨p, -, hp⟩ := infix_iff_exists_occursAt.1 h
  obtain ⟨before, hbefore⟩ := List.getLast?_eq_some_iff.1 (Path.stem_getLast? a.directory)
  have hpath : ∀ m : Mention,
      m.path a = before ++ '/' :: ("input.".toList ++ [m.letter]) := by
    intro m
    rw [path_eq_trunk hrooted, trunk, hbefore]
    simp
  have hslash := hp.getElem? (i := before.length) (c := '/') (by simp [hpath])
  cases p with
  | zero => exact absurd (path_prefix_inj hrooted hp) (by decide)
  | succ p =>
      -- behind the last slash of the source there is none
      rw [hpath, List.append_assoc, List.getElem?_append_right (by omega), List.cons_append,
        show p + 1 + before.length - before.length = p + 1 by omega,
        List.getElem?_cons_succ] at hslash
      have hmem := List.mem_of_getElem? hslash
      rw [List.mem_append] at hmem
      rcases hmem with hname | hrest'
      · exact absurd hname (by decide)
      · exact hrest hrest'

/-- Where the source can occur in a text that goes on with the result behind a beginning of it. -/
theorem Plain.not_infix_source (hrooted : Path.isAbsolute a.directory = true) {k : Nat}
    (h : a.Plain k) {rest : List Char}
    (hlater : ∀ p, k < p → p ≤ k + rest.length →
      ¬OccursAt (Mention.path a .source) (a.trunk.take k ++ (Mention.path a .result ++ rest)) p) :
    ¬Mention.path a .source <:+: a.trunk.take k ++ (Mention.path a .result ++ rest) := by
  intro hinfix
  obtain ⟨p, hlength, hp⟩ := infix_iff_exists_occursAt.1 hinfix
  have htake : (a.trunk.take k).length = k := List.length_take_of_le h.le
  simp only [List.length_append, htake, length_path hrooted] at hlength
  have hfront : a.trunk.take k <+: Mention.path a .result ++ rest := by
    rw [← take_path hrooted .result h.le]
    exact (List.take_prefix _ _).trans (List.prefix_append _ _)
  rcases Nat.lt_trichotomy p k with hlt | rfl | hgt
  · exact h.not_occursAt hrooted .source hfront hlt hp
  · rw [OccursAt, List.drop_append_of_le_length htake.ge, List.drop_of_length_le htake.le,
      List.nil_append] at hp
    exact absurd (path_prefix_inj hrooted hp) (by decide)
  · exact hlater p hgt (by omega) hp

/-- A result behind a beginning of the paths leaves its placeholder there. -/
theorem Plain.sanitize_result (hrooted : Path.isAbsolute a.directory = true) {k : Nat}
    (h : a.Plain k) (placeholder : String) (rest : List Char) (hrest : rest.length < a.trunk.length + 1)
    (hlater : ∀ p, k < p → p ≤ k + rest.length →
      ¬OccursAt (Mention.path a .source) (a.trunk.take k ++ (Mention.path a .result ++ rest)) p) :
    a.sanitize placeholder (a.trunk.take k ++ (Mention.path a .result ++ rest))
      = a.trunk.take k ++ (Mention.placeholder placeholder .result ++ rest) := by
  have hsource := replaceAll_of_not_infix (path_ne_nil hrooted .source) placeholder.toList
    (h.not_infix_source hrooted hlater)
  rw [sanitize, show a.source.toList = Mention.path a .source from rfl, hsource]
  exact h.replaceAll_path hrooted .result _ (by rwa [length_path hrooted])

/-- Behind the last beginning that a part of the result could go on with, the source is not
completed by what follows the result. -/
theorem Last.not_occursAt_source (hrooted : Path.isAbsolute a.directory = true)
    {word rest : List Char} {k p : Nat} (h : Last word (Mention.path a .result) k)
    (hrest : (Mention.path a .result).drop k = word ++ rest) (hp : k < p)
    (hp' : p ≤ k + rest.length) :
    ¬OccursAt (Mention.path a .source) (a.trunk.take k ++ (Mention.path a .result ++ rest)) p := by
  intro hoccurs
  have hlt := h.lt
  have hlength := congrArg List.length hrest
  rw [List.length_drop, List.length_append] at hlength
  rw [length_path hrooted] at hlt hlength
  have htake : (a.trunk.take k).length = k := List.length_take_of_le (by omega)
  have htext : ∀ i, (a.trunk.take k ++ (Mention.path a .result ++ rest))[k + i]?
      = (Mention.path a .result ++ rest)[i]? := by
    intro i
    rw [List.getElem?_append_right (by omega), htake, Nat.add_sub_cancel_left]
  rcases Nat.lt_or_ge p (a.trunk.length + 1) with hinside | hbehind
  · -- the result would go on with the word from a later place on
    refine h.last p hp (by rwa [length_path hrooted]) (.inr ?_)
    refine List.prefix_iff_getElem?.2 fun i hi => ?_
    have hword : (Mention.path a .source)[k + i]? = some word[i] := by
      rw [getElem?_path hrooted .source (by omega), ← getElem?_path hrooted .result (by omega),
        ← List.getElem?_drop, hrest, List.getElem?_append_left hi, List.getElem?_eq_getElem hi]
    have hfound := hoccurs.getElem? hword
    rw [show p + (k + i) = k + (p + i) by omega, htext, List.getElem?_append_left
      (by rw [length_path hrooted]; omega)] at hfound
    rw [List.getElem?_drop, hfound]
  · -- nothing is left of the result but its last character, and the source has another
    obtain rfl : word = [] := List.eq_nil_of_length_eq_zero (by omega)
    have hk := h.eq_of_nil
    rw [length_path hrooted] at hk
    obtain rfl : k = a.trunk.length := by omega
    have hsource : (Mention.path a .source)[a.trunk.length]? = some 'S' := by
      rw [path_eq_trunk hrooted, List.getElem?_concat_length]
      rfl
    have hfound := hoccurs.getElem? hsource
    rw [Nat.add_comm, htext, List.getElem?_append_right (by rwa [length_path hrooted]),
      show p - (Mention.path a .result).length = 0 by rw [length_path hrooted]; omega,
      ← List.nil_append rest, ← hrest, List.getElem?_drop, path_eq_trunk hrooted, Nat.add_zero,
      List.getElem?_concat_length] at hfound
    exact absurd hfound (by decide)

/-- A result brings a path back whose rest its placeholder begins with. -/
theorem exists_leak_of_rest (hrooted : Path.isAbsolute a.directory = true) {m : Mention}
    {k : Nat} (hk : a.Plain k)
    (h : (m.path a).drop k <+: Mention.placeholder placeholder .result) :
    ∃ words, m.path a <:+: a.sanitize placeholder words := by
  obtain ⟨more, hmore⟩ := h
  have hclean := hk.sanitize_result hrooted placeholder [] (by simp)
    (fun p hp hp' => absurd hp' (by simpa using hp))
  rw [List.append_nil _, List.append_nil _, ← hmore, ← List.append_assoc (List.take _ _),
    take_append_drop_path hrooted m hk.le] at hclean
  exact ⟨_, hclean ▸ (List.prefix_append _ _).isInfix⟩

/-- A placeholder that could go on with the result brings the result back. -/
theorem exists_leak_result (hrooted : Path.isAbsolute a.directory = true)
    (hplain : '/' ∉ placeholder.toList)
    (h : Completes (Mention.placeholder placeholder .result) (Mention.path a .result)) :
    ∃ words, Mention.path a .result <:+: a.sanitize placeholder words := by
  obtain ⟨k, hlast⟩ := exists_last h
  have hk := hlast.plain hrooted (slash_notMem_placeholder hplain .result)
  rcases hlast.meets with hrest | ⟨rest, hrest⟩
  · exact exists_leak_of_rest hrooted hk hrest
  · -- what follows the placeholder in the result has to follow the result in the words
    have hlength := congrArg List.length hrest
    have hpos := hlast.pos
    rw [List.length_append, List.length_drop, length_path hrooted] at hlength
    have hclean := hk.sanitize_result hrooted placeholder rest (by omega)
      fun p hp hp' => hlast.not_occursAt_source hrooted hrest.symm hp hp'
    rw [hrest, take_append_drop_path hrooted _ hk.le] at hclean
    exact ⟨_, by rw [hclean]⟩

/-- A placeholder for results that could go on with the source brings a path back. -/
theorem exists_leak_other (hrooted : Path.isAbsolute a.directory = true)
    (hplain : '/' ∉ placeholder.toList)
    (h : Completes (Mention.placeholder placeholder .result) (Mention.path a .source)) :
    ∃ words, ∃ m : Mention, m.path a <:+: a.sanitize placeholder words := by
  obtain ⟨k, hlast⟩ := exists_last h
  have hk := hlast.plain hrooted (slash_notMem_placeholder hplain .result)
  rcases hlast.meets with hrest | ⟨rest, hrest⟩
  · obtain ⟨words, hwords⟩ := exists_leak_of_rest hrooted hk hrest
    exact ⟨words, _, hwords⟩
  rcases List.eq_nil_or_concat rest with rfl | ⟨init, c, rfl⟩
  · rw [List.append_nil] at hrest
    obtain ⟨words, hwords⟩ := exists_leak_of_rest hrooted hk (by rw [hrest])
    exact ⟨words, _, hwords⟩
  · -- the last character of the source is not needed, so the result could be gone on with too
    have htrunk : Mention.placeholder placeholder .result <+: a.trunk.drop k := by
      rw [path_eq_trunk hrooted, List.drop_append_of_le_length hk.le, List.concat_eq_append,
        ← List.append_assoc] at hrest
      exact ⟨init, (List.append_inj' hrest rfl).1⟩
    have hresult : Completes (Mention.placeholder placeholder .result)
        (Mention.path a .result) := by
      refine ⟨k, by rw [length_path hrooted]; exact Nat.lt_succ_of_le hk.le, hlast.pos, .inr ?_⟩
      rw [path_eq_trunk hrooted, List.drop_append_of_le_length hk.le]
      exact htrunk.trans (List.prefix_append _ _)
    obtain ⟨words, hwords⟩ := exists_leak_result hrooted hplain hresult
    exact ⟨words, _, hwords⟩

/-- A placeholder that could go on with the source brings the source back. -/
theorem exists_leak_source (hrooted : Path.isAbsolute a.directory = true)
    (hplain : '/' ∉ placeholder.toList)
    (h : Completes placeholder.toList (Mention.path a .source)) :
    ∃ words, Mention.path a .source <:+: a.sanitize placeholder words := by
  obtain ⟨k, hlast⟩ := exists_last h
  have hk := hlast.plain hrooted hplain
  have hlength := length_path hrooted .source
  -- the source behind a beginning of it becomes the source again, and it stays
  have hleak : ∀ rest more : List Char, rest.length < (Mention.path a .source).length →
      '/' ∉ more → placeholder.toList ++ rest = (Mention.path a .source).drop k ++ more →
      ∃ words, Mention.path a .source <:+: a.sanitize placeholder words := by
    intro rest more hshort hmore heq
    have hfirst := hk.replaceAll_path hrooted .source placeholder.toList hshort
    rw [heq, ← List.append_assoc _ _ more, take_append_drop_path hrooted _ hk.le] at hfirst
    have hclean : a.sanitize placeholder (a.trunk.take k ++ (Mention.path a .source ++ rest))
        = Mention.path a .source ++ more := by
      rw [sanitize, show a.source.toList = Mention.path a .source from rfl, hfirst]
      exact replaceAll_of_not_infix (path_ne_nil hrooted .result) _ (not_infix_result hrooted hmore)
    exact ⟨_, hclean ▸ (List.prefix_append _ _).isInfix⟩
  rcases hlast.meets with ⟨more, hmore⟩ | ⟨rest, hrest⟩
  · refine hleak [] more (by simp [hlength]) (fun h => hplain (hmore ▸ ?_)) (by simp [hmore])
    exact List.mem_append_right _ h
  · have hshort := congrArg List.length hrest
    have hpos := hlast.pos
    rw [List.length_append, List.length_drop] at hshort
    exact hleak rest [] (by omega) (by simp) (by simp [hrest])

/-! ### Which placeholders are safe -/

/-- With the usual placeholder, a directory that is named straight in front of the source in it
brings the source back. -/
theorem sanitize_leaks :
    Path.isAbsolute "/tmp/asm-Ab3Xy9" = true ∧ '/' ∉ "input.S".toList ∧
      (source ⟨"/tmp/asm-Ab3Xy9"⟩).toList <:+: sanitize ⟨"/tmp/asm-Ab3Xy9"⟩ "input.S"
        "/tmp/asm-Ab3Xy9//tmp/asm-Ab3Xy9/input.S".toList :=
  ⟨by decide, by decide, by decide +kernel⟩

/-- **Which placeholders bring no path back**, among those without a slash.  Words in which no path
stands straight behind a beginning that its placeholder could go on from are freed of all paths,
whatever the placeholder.  All words whatsoever are freed of all paths exactly when the placeholder
could not go on with the source, nor the placeholder for results with either path. -/
theorem hides_sanitize_iff (hrooted : Path.isAbsolute a.directory = true)
    (hplain : '/' ∉ placeholder.toList) :
    (∀ words, ¬a.Splices placeholder words → a.Hides (a.sanitize placeholder words)) ∧
    ((∀ words, a.Hides (a.sanitize placeholder words)) ↔
      ¬Completes placeholder.toList a.source.toList ∧
      ¬Completes (resultPlaceholder placeholder).toList a.source.toList ∧
      ¬Completes (resultPlaceholder placeholder).toList a.result.toList) := by
  refine ⟨fun words => hides_sanitize_of_not_splices hrooted hplain, fun hall => ⟨?_, ?_, ?_⟩, ?_⟩
  · intro h
    obtain ⟨words, hwords⟩ := exists_leak_source hrooted hplain h
    exact hall words _ hwords
  · intro h
    obtain ⟨words, m, hwords⟩ := exists_leak_other hrooted hplain h
    exact hall words _ hwords
  · intro h
    obtain ⟨words, hwords⟩ := exists_leak_result hrooted hplain h
    exact hall words _ hwords
  · rintro ⟨hsource, hother, hresult⟩ words m hm
    rcases exists_of_infix_path hrooted hplain hm with
      ⟨rfl, k, hk, hpos, hmeets, -⟩ | ⟨k, hk, hpos, hmeets, -⟩
    · exact hsource ⟨k, hk, hpos, hmeets⟩
    · cases m with
      | source => exact hother ⟨k, hk, hpos, hmeets⟩
      | result => exact hresult ⟨k, hk, hpos, hmeets⟩

/-- With angle brackets around its name no path comes back. -/
theorem hides_sanitize_iff_brackets :
    Path.isAbsolute "/tmp/asm-Ab3Xy9" = true ∧ '/' ∉ "<source>.S".toList ∧
      ∀ words, Hides ⟨"/tmp/asm-Ab3Xy9"⟩ (sanitize ⟨"/tmp/asm-Ab3Xy9"⟩ "<source>.S" words) :=
  have hrooted : Path.isAbsolute "/tmp/asm-Ab3Xy9" = true := by decide
  have hplain : '/' ∉ "<source>.S".toList := by decide
  ⟨hrooted, hplain, (hides_sanitize_iff (a := ⟨"/tmp/asm-Ab3Xy9"⟩) hrooted hplain).2.2
    (by decide +kernel)⟩

end StagingArea

end AssemblyGate
