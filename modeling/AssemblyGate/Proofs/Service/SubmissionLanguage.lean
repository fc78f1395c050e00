/-
**The language of submissions.**

A body submits a source exactly when it is the UTF-8 form of an object of the grammar whose last
member named `assembly` is a text that denotes the source.  The numbers in it are those that the
reader's own conversion keeps finite.  This is not the same as having a finite nearest floating
point number: the conversion rounds twice, and next to the largest number it fails a little early.

Main results:

* `AssemblyGate.lastOf_eq_some_iff` — looking a name up finds the last member that bears it;
* `AssemblyGate.ofChars?_eq_object_iff` — the texts that are read as an object;
* `AssemblyGate.sourceOf?_iff_members`, `AssemblyGate.parse?_iff_submission` — a source is a member
  of what is read, and what is read is a submission;
* `AssemblyGate.sourceOf?_eq_some_iff` — **the bodies that submit a source**.
-/
import AssemblyGate.Proofs.Json.ValueReader
import AssemblyGate.Service.Submission

set_option autoImplicit false

namespace AssemblyGate

open JsonText

/-! ### The last member of a name -/

/-- A member at the end is the last of its name, and of no other one. -/
theorem lastMember_concat {α : Type} {name key : String} {entries : List (String × α)}
    {value last : α} :
    LastMember name (entries ++ [(key, last)]) value ↔
      if key = name then last = value else LastMember name entries value := by
  constructor
  · -- the new member is the one that was found, or one of those behind it
    rintro ⟨before, after, heq, hafter⟩
    rcases List.eq_nil_or_concat after with rfl | ⟨after, m, rfl⟩
    · have hlast := (List.append_inj' heq rfl).2
      simp_all
    · have heq' : entries ++ [(key, last)] = (before ++ (name, value) :: after) ++ [m] := by
        simpa using heq
      obtain ⟨rfl, hm⟩ := List.append_inj' heq' rfl
      obtain rfl : (key, last) = m := by simpa using hm
      have hkey : key ≠ name := hafter (key, last) (by simp)
      rw [if_neg hkey]
      exact ⟨before, after, rfl, fun m hm => hafter m (by simp [hm])⟩
  · split
    · rename_i hkey
      rintro rfl
      exact ⟨entries, [], by rw [hkey], by simp⟩
    · rename_i hkey
      rintro ⟨before, after, rfl, hafter⟩
      refine ⟨before, after ++ [(key, last)], by simp, ?_⟩
      intro m hm
      rcases List.mem_append.1 hm with hm | hm
      · exact hafter m hm
      · obtain rfl : m = (key, last) := by simpa using hm
        exact hkey

theorem lastOf_eq_some_iff {α : Type} {name : String} {entries : List (String × α)} {value : α} :
    lastOf name entries = some value ↔ LastMember name entries value := by
  induction entries using List.reverseRecOn with
  | nil => simp [lastOf, LastMember]
  | append_singleton entries entry ih =>
      rw [lastOf_append, lastMember_concat, ← ih]
      split <;> simp

theorem lastOf_texts (name : String) (members : List (String × Json)) :
    lastOf name (texts members) = (lastOf name members).map textOf? := by
  induction members using List.reverseRecOn with
  | nil => rfl
  | append_singleton members m ih =>
      have hlast : texts (members ++ [m]) = texts members ++ [(m.1, textOf? m.2)] := by simp [texts]
      rw [hlast, lastOf_append, lastOf_append, ih]
      split <;> rfl

/-- The last member of a name is a text exactly when it is one among what is kept of the
members. -/
theorem lastMember_texts {name source : String} {members : List (String × Json)} :
    LastMember name (texts members) (some source) ↔ LastMember name members (.text source) := by
  rw [← lastOf_eq_some_iff, ← lastOf_eq_some_iff, lastOf_texts, Option.map_eq_some_iff]
  constructor
  · rintro ⟨v, hv, ht⟩
    cases v <;> simp_all [textOf?]
  · intro h
    exact ⟨_, h, rfl⟩

/-! ### Whole texts -/

/-- The objects that are read are those of the grammar with gaps around them. -/
theorem ofChars?_eq_object_iff {text : List Char} {members : List (String × Option String)} :
    (∃ found, Json.ofChars? text = some (.object found) ∧ texts found = members) ↔
      ∃ g s g', text = g ++ s ++ g' ∧ Gap g ∧ Gap g' ∧ Object Bounded nesting s members := by
  constructor
  · rintro ⟨found, h, rfl⟩
    unfold Json.ofChars? at h
    split at h
    · simp at h
    rename_i value rest hread
    split at h
    · rename_i hrest
      obtain rfl := Option.some.inj h
      obtain ⟨g, hg, htext⟩ := gap_skipGap text
      obtain ⟨s, hs, hobject⟩ := denotes_of_readValue hread
      obtain ⟨g', hg', hgap⟩ := gap_skipGap rest
      rw [List.isEmpty_iff.1 hrest, List.append_nil] at hgap
      exact ⟨g, s, g', by rw [htext, hs, hgap]; simp, hg, hg', hobject⟩
    · simp at h
  · rintro ⟨g, s, g', rfl, hg, hg', hobject⟩
    obtain ⟨found, hfound, htexts⟩ :=
      readsObject hobject (2 * (g ++ s ++ g').length + 2) g' (by simp; omega)
    -- the fuel is twice the length of the whole text, which is enough for its object
    have hend : Json.skipGap g' = [] := by
      simpa using skipGap_append hg' (s := []) (by simp [Solid])
    refine ⟨found, ?_, htexts⟩
    unfold Json.ofChars?
    rw [List.append_assoc g, skipGap_value hg (.object hobject), ← List.append_assoc g,
      Json.maxDepth, ← nesting, hfound]
    simp [hend]

/-- A body has a source when it is read as an object whose last member named `assembly` is a text. -/
theorem sourceOf?_iff_members {body : Bytes} {source : String} :
    sourceOf? body = some source ↔
      ∃ members, Json.parse? body = some (.object members) ∧
        LastMember "assembly" members (.text source) := by
  simp only [← lastOf_eq_some_iff, sourceOf?]
  cases Json.parse? body with
  | none => simp
  | some value =>
      cases value with
      | object members =>
          simp only [Json.lookup, Option.some.injEq, Json.object.injEq, exists_eq_left']
          split <;> simp_all
      | null | bool | number | text | list => simp [Json.lookup]

/-- What is read of a body is an object with such a member exactly when the body is the UTF-8 form
of a submission. -/
theorem parse?_iff_submission {body : Bytes} {source : String} :
    (∃ members, Json.parse? body = some (.object members) ∧
        LastMember "assembly" members (.text source)) ↔
      ∃ text, body = Utf8.encode text ∧ Submission Bounded text source := by
  constructor
  · rintro ⟨found, hparse, hlast⟩
    obtain ⟨text, hdecode, hread⟩ := Option.bind_eq_some_iff.1 hparse
    obtain ⟨g, s, g', htext, hg, hg', hobject⟩ :=
      ofChars?_eq_object_iff.1 ⟨found, hread, rfl⟩
    exact ⟨text, Utf8.decode?_iff_encode.1 hdecode, g, s, g', _, htext, hg, hg', hobject,
      lastMember_texts.2 hlast⟩
  · rintro ⟨text, rfl, g, s, g', members, htext, hg, hg', hobject, hlast⟩
    obtain ⟨found, hread, rfl⟩ :=
      ofChars?_eq_object_iff.2 ⟨g, s, g', htext, hg, hg', hobject⟩
    refine ⟨found, ?_, lastMember_texts.1 hlast⟩
    rw [Json.parse?, Utf8.decode?_iff_encode.2 rfl]
    exact hread

/-- **The bodies that submit a source**: UTF-8 forms of objects whose last member named `assembly`
is a text that denotes it. -/
theorem sourceOf?_eq_some_iff (body : Bytes) (source : String) :
    sourceOf? body = some source ↔
      ∃ text, body = Utf8.encode text ∧ Submission Bounded text source :=
  sourceOf?_iff_members.trans parse?_iff_submission

/-! ### Next to the largest number -/

/-- A body with a number between the largest floating point number and what is rounded up from
it. -/
def nearlyLargest : List Char :=
  "\x7b\"n\":1.7976931348623158e308,\"assembly\":\"ok\"\x7d".toList

/-- The characters that stand for themselves in a quoted text. -/
def isPlain (c : Char) : Bool := c ≠ '"' && c ≠ '\\' && 0x20 ≤ c.toNat

theorem body_of_plain {s : List Char} (h : s.all isPlain = true) : Body s s := by
  induction s with
  | nil => exact .nil
  | cons c s ih =>
      rw [List.all_cons, Bool.and_eq_true] at h
      obtain ⟨⟨hquote, hbackslash⟩, hcontrol⟩ :
          (c ≠ '"' ∧ c ≠ '\\') ∧ 0x20 ≤ c.toNat := by simpa [isPlain] using h.1
      exact .cons (w := [c]) (.plain hquote hbackslash hcontrol) (ih h.2)

theorem quoted_of_plain {text : String}
    (h : text.toList.all isPlain = true) :
    Quoted ('"' :: text.toList ++ ['"']) text :=
  .mk (body_of_plain h)

theorem member_of_value {fits : JsonNumber.Literal → Prop} {n : Nat} {name : String}
    {s : List Char} {t : Option String}
    (hname : name.toList.all isPlain = true) (h : Value fits n s t) :
    Member fits n ('"' :: name.toList ++ '"' :: ':' :: s) (name, t) := by
  simpa using Member.mk gap_nil (quoted_of_plain hname) gap_nil gap_nil h gap_nil

theorem submission_nearlyLargest : Submission NearestFinite nearlyLargest "ok" := by
  let l : JsonNumber.Literal := ⟨false, ['1'], some "7976931348623158".toList,
    some (false, ['3', '0', '8'])⟩
  have hl : Written l _ :=
    .mk (by decide) (by decide) (.some (by decide)) (.bare (e := 'e') (.inl rfl) (by decide))
  have hn : Member NearestFinite 126 _ ("n", none) :=
    member_of_value (by decide) (.number hl (by decide +kernel))
  have hassembly : Member NearestFinite 126 _ ("assembly", some "ok") :=
    member_of_value (by decide) (.text (quoted_of_plain (by decide)))
  refine ⟨[], _, [], _, ?_, gap_nil, gap_nil, .members (.cons hn (.one hassembly)),
    [("n", none)], [], rfl, by simp⟩
  decide +kernel

/-- The conversion of numbers rounds twice, so that a body is refused whose number has a finite
nearest floating point number. -/
theorem sourceOf?_nearlyLargest :
    ¬(sourceOf? (Utf8.encode nearlyLargest) = some "ok" ↔
      ∃ text, Utf8.encode nearlyLargest = Utf8.encode text ∧
        Submission NearestFinite text "ok") := by
  intro h
  have hsource := h.2 ⟨_, rfl, submission_nearlyLargest⟩
  exact absurd hsource (by decide +kernel)

end AssemblyGate
