/-
**What replacing does to a text.**

A text in front of the first occurrence of the needle stays as it is, and an occurrence that begins
where the replacing has got to is replaced.  So the result is known as soon as it is known where the
needle occurs.  What occurs in the result occurred in the text before, unless a replacement has come
to stand behind a beginning of it.

Main definitions:

* `AssemblyGate.OccursAt` — a text occurs in another one at a position;
* `AssemblyGate.MeetsAt` — a text could go on with another one from a position on.

Main results:

* `AssemblyGate.replaceAll_needle_append`, `AssemblyGate.replaceAll_append` — an occurrence at the
  front, and a text without any in front;
* `AssemblyGate.replacing_induction` — induction along the occurrences that are replaced;
* `AssemblyGate.OccursAt.apart` — a character that the needle lacks is not inside an occurrence;
* `AssemblyGate.infix_replaceAll` — where an occurrence in the result comes from.
-/
import AssemblyGate.Text.Replace
import Mathlib.Data.List.Infix

set_option autoImplicit false

namespace AssemblyGate

/-! ### Occurrences -/

/-- A text occurs in another one at a position. -/
def OccursAt (needle text : List Char) (p : Nat) : Prop := needle <+: text.drop p

theorem OccursAt.getElem? {needle text : List Char} {p i : Nat} {c : Char}
    (h : OccursAt needle text p) (hc : needle[i]? = some c) : text[p + i]? = some c := by
  obtain ⟨rest, hrest⟩ := h
  have hi : i < needle.length := (List.getElem?_eq_some_iff.1 hc).1
  rw [← List.getElem?_drop, ← hrest, List.getElem?_append_left hi, hc]

theorem infix_iff_exists_occursAt {needle text : List Char} :
    needle <:+: text ↔ ∃ p, p + needle.length ≤ text.length ∧ OccursAt needle text p := by
  constructor
  · rintro ⟨before, after, rfl⟩
    exact ⟨before.length, by simp, by simp [OccursAt]⟩
  · rintro ⟨p, -, h⟩
    exact h.isInfix.trans (List.drop_suffix p text).isInfix

/-- A character that the needle lacks stands before an occurrence or after it. -/
theorem OccursAt.apart {needle text : List Char} {p k : Nat} {c : Char}
    (h : OccursAt needle text p) (hlacks : c ∉ needle) (hk : text[k]? = some c) :
    k < p ∨ p + needle.length ≤ k := by
  by_contra hinside
  have hi : k - p < needle.length := by omega
  have hchar := h.getElem? (List.getElem?_eq_getElem hi)
  rw [show p + (k - p) = k by omega, hk] at hchar
  exact hlacks (Option.some.inj hchar ▸ List.getElem_mem hi)

/-- An occurrence within a part of a text is one in that part. -/
theorem OccursAt.within {needle before part after : List Char} {p : Nat}
    (h : OccursAt needle (before ++ part ++ after) p) (hlow : before.length ≤ p)
    (hhigh : p + needle.length ≤ before.length + part.length) : needle <:+: part := by
  have hdrop : (before ++ part ++ after).drop p = part.drop (p - before.length) ++ after := by
    rw [List.append_assoc, List.drop_append, List.drop_eq_nil_of_le hlow, List.nil_append,
      List.drop_append_of_le_length (by omega)]
  -- both are at the front of the same text, and the needle is the shorter of the two
  have hprefix : needle <+: part.drop (p - before.length) := by
    rw [OccursAt, hdrop] at h
    refine List.prefix_of_prefix_length_le h (List.prefix_append _ _) ?_
    rw [List.length_drop]
    omega
  exact hprefix.isInfix.trans (List.drop_suffix _ _).isInfix

/-! ### Replacing -/

theorem replaceFrom_skip {needle replacement : List Char} (skipped rest : List Char) :
    replaceFrom needle replacement skipped.length (skipped ++ rest) []
      = replaceFrom needle replacement 0 rest [] := by
  induction skipped with
  | nil => rfl
  | cons c skipped ih => simpa [replaceFrom] using ih

@[simp] theorem replaceAll_nil (needle replacement : List Char) :
    replaceAll needle replacement [] = [] := by
  simp [replaceAll, replaceFrom]

theorem replaceAll_cons {needle : List Char} (hne : needle ≠ [])
    (replacement : List Char) {c : Char} {rest : List Char} (h : ¬needle <+: c :: rest) :
    replaceAll needle replacement (c :: rest) = c :: replaceAll needle replacement rest := by
  have hempty : needle.isEmpty = false := by simpa using hne
  have hprefix : needle.isPrefixOf (c :: rest) = false := by
    rw [Bool.eq_false_iff, Ne, List.isPrefixOf_iff_prefix]
    exact h
  simp only [replaceAll, hempty, Bool.false_eq_true, if_false, replaceFrom, hprefix]
  rw [replaceFrom_eq]
  simp

/-- An occurrence at the front is replaced. -/
theorem replaceAll_needle_append {needle : List Char} (hne : needle ≠ [])
    (replacement rest : List Char) :
    replaceAll needle replacement (needle ++ rest)
      = replacement ++ replaceAll needle replacement rest := by
  obtain ⟨c, tail, rfl⟩ := List.exists_cons_of_ne_nil hne
  have hprefix : (c :: tail).isPrefixOf (c :: (tail ++ rest)) = true :=
    List.isPrefixOf_iff_prefix.2 ⟨rest, rfl⟩
  simp only [replaceAll, List.isEmpty_cons, Bool.false_eq_true, if_false, List.cons_append,
    replaceFrom, hprefix, if_true, List.length_cons, Nat.add_sub_cancel, List.append_nil]
  rw [replaceFrom_eq, replaceFrom_skip, List.reverse_reverse]

/-- What stands in front of every occurrence stays as it is. -/
theorem replaceAll_append {needle : List Char} (hne : needle ≠ []) (replacement : List Char)
    {before rest : List Char} (h : ∀ p < before.length, ¬OccursAt needle (before ++ rest) p) :
    replaceAll needle replacement (before ++ rest)
      = before ++ replaceAll needle replacement rest := by
  induction before with
  | nil => rfl
  | cons c before ih =>
      have hfront : ¬needle <+: c :: (before ++ rest) := h 0 (by simp)
      have htail : ∀ p < before.length, ¬OccursAt needle (before ++ rest) p :=
        fun p hp => h (p + 1) (by simpa using hp)
      rw [List.cons_append, replaceAll_cons hne replacement hfront, ih htail, List.cons_append]

theorem replaceAll_of_not_infix {needle text : List Char} (hne : needle ≠ [])
    (replacement : List Char) (h : ¬needle <:+: text) :
    replaceAll needle replacement text = text := by
  have hnowhere : ∀ p < text.length, ¬OccursAt needle (text ++ []) p := by
    intro p _ hp
    rw [List.append_nil] at hp
    exact h (hp.isInfix.trans (List.drop_suffix _ _).isInfix)
  simpa [replaceAll, replaceFrom] using replaceAll_append hne replacement hnowhere

/-- Induction along the occurrences that are replaced: at each place either the needle is in front
or a character that stays. -/
@[elab_as_elim]
theorem replacing_induction {needle : List Char} (hne : needle ≠ []) {motive : List Char → Prop}
    (nil : motive []) (needle_append : ∀ rest, motive rest → motive (needle ++ rest))
    (cons : ∀ c rest, ¬needle <+: c :: rest → motive rest → motive (c :: rest))
    (text : List Char) : motive text := by
  have hpos : 0 < needle.length := List.length_pos_of_ne_nil hne
  -- the walk goes on behind the needle, so the induction is on how much text is left
  induction hn : text.length using Nat.strong_induction_on generalizing text with
  | _ n ih =>
      cases text with
      | nil => exact nil
      | cons c rest =>
          by_cases hfront : needle <+: c :: rest
          · obtain ⟨after, hafter⟩ := hfront
            have hlength := congrArg List.length hafter
            rw [List.length_append, hn] at hlength
            rw [← hafter]
            exact needle_append after (ih after.length (by omega) after rfl)
          · rw [List.length_cons] at hn
            exact cons c rest hfront (ih rest.length (by omega) rest rfl)

/-! ### What occurs in the result -/

/-- A text could go on with a word from a position on: one of the word and the rest of the text
begins with the other. -/
def MeetsAt (word text : List Char) (k : Nat) : Prop :=
  text.drop k <+: word ∨ word <+: text.drop k

instance (word text : List Char) (k : Nat) : Decidable (MeetsAt word text k) :=
  inferInstanceAs (Decidable (_ ∨ _))

@[simp] theorem meetsAt_cons (word : List Char) (c : Char) (text : List Char) (k : Nat) :
    MeetsAt word (c :: text) (k + 1) ↔ MeetsAt word text k := Iff.rfl

/-- What the result begins with, the text began with, unless the result goes on with a
replacement. -/
theorem prefix_replaceAll {needle replacement : List Char} (hne : needle ≠ []) {text : List Char} :
    ∀ {found : List Char}, found <+: replaceAll needle replacement text →
      found <+: text ∨ ∃ k < found.length, found.take k ++ needle <+: text ∧
        MeetsAt replacement found k := by
  induction text using replacing_induction hne with
  | nil =>
      intro found h
      rw [replaceAll_nil] at h
      exact .inl h
  | needle_append rest _ =>
      intro found h
      rw [replaceAll_needle_append hne] at h
      cases found with
      | nil => exact .inl List.nil_prefix
      | cons c found =>
          -- the replacement stands at the very front, and the two begin alike
          have hmeets := List.prefix_or_prefix_of_prefix h (List.prefix_append _ _)
          exact .inr ⟨0, by simp, by simp, hmeets⟩
  | cons c rest hfront ih =>
      intro found h
      rw [replaceAll_cons hne _ hfront] at h
      cases found with
      | nil => exact .inl List.nil_prefix
      | cons d found =>
          obtain ⟨rfl, hrest⟩ := List.cons_prefix_cons.1 h
          rcases ih hrest with hkept | ⟨k, hk, hneedle, hmeets⟩
          · exact .inl (List.cons_prefix_cons.2 ⟨rfl, hkept⟩)
          · exact .inr ⟨k + 1, by simpa using hk, by simpa using hneedle, by simpa using hmeets⟩

/-- An occurrence does not begin in a text without its first character. -/
theorem infix_of_notMem {before rest found : List Char} {c : Char} (hlacks : c ∉ before)
    (hhead : found.head? = some c) (h : found <:+: before ++ rest) : found <:+: rest := by
  obtain ⟨tail, rfl⟩ := List.head?_eq_some_iff.1 hhead
  induction before with
  | nil => exact h
  | cons d before ih =>
      simp only [List.mem_cons, not_or] at hlacks
      rcases List.infix_cons_iff.1 h with hfront | hlater
      · exact absurd (List.cons_prefix_cons.1 hfront).1 hlacks.1
      · exact ih hlacks.2 hlater

/-- **Where an occurrence in the result comes from**, when its first character is not one of the
replacement: it was there before and was not replaced, or a replacement has come to stand behind a
beginning of it. -/
theorem infix_replaceAll {needle replacement found : List Char} {c : Char} (hne : needle ≠ [])
    (hhead : found.head? = some c) (hlacks : c ∉ replacement) {text : List Char}
    (h : found <:+: replaceAll needle replacement text) :
    (∃ rest, rest <:+ text ∧ found <+: rest ∧ ¬needle <+: rest) ∨
      ∃ k < found.length, 0 < k ∧ found.take k ++ needle <:+: text ∧
        MeetsAt replacement found k := by
  obtain ⟨tail, rfl⟩ := List.head?_eq_some_iff.1 hhead
  induction text using replacing_induction hne with
  | nil =>
      simp at h
  | needle_append rest ih =>
      -- the replacement lacks the first character, so the occurrence begins behind it
      rw [replaceAll_needle_append hne] at h
      have hrest := List.suffix_append needle rest
      rcases ih (infix_of_notMem hlacks rfl h) with
        ⟨after, hafter, hfound⟩ | ⟨k, hk, hpos, hneedle, hmeets⟩
      · exact .inl ⟨after, hafter.trans hrest, hfound⟩
      · exact .inr ⟨k, hk, hpos, hneedle.trans hrest.isInfix, hmeets⟩
  | cons d rest hfront ih =>
      rw [replaceAll_cons hne _ hfront] at h
      rcases List.infix_cons_iff.1 h with hhere | hlater
      · obtain ⟨rfl, htail⟩ := List.cons_prefix_cons.1 hhere
        rcases prefix_replaceAll hne htail with hkept | ⟨k, hk, hneedle, hmeets⟩
        · exact .inl ⟨c :: rest, List.suffix_rfl, List.cons_prefix_cons.2 ⟨rfl, hkept⟩, hfront⟩
        · have hinfix : (c :: tail).take (k + 1) ++ needle <:+: c :: rest := by
            simpa using (List.cons_prefix_cons.2 ⟨rfl, hneedle⟩).isInfix
          exact .inr ⟨k + 1, by simpa using hk, k.succ_pos, hinfix, by simpa using hmeets⟩
      · rcases ih hlater with ⟨after, hafter, hfound⟩ | ⟨k, hk, hpos, hneedle, hmeets⟩
        · exact .inl ⟨after, hafter.trans (List.suffix_cons _ _), hfound⟩
        · exact .inr ⟨k, hk, hpos, hneedle.trans (List.suffix_cons _ _).isInfix, hmeets⟩

end AssemblyGate
