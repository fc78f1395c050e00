/-
**The reader of values keeps to the grammar.**

What the reader takes from the front of its input is a value of the grammar whose numbers are
bounded, and every such value is read whole when its fuel is twice the length of the value.  The
members of an object come out in the order in which they are written.

Soundness goes by induction on the fuel, completeness by induction on the derivation of a value.

Main definitions:

* `AssemblyGate.JsonText.textOf?`, `AssemblyGate.JsonText.texts` — what the grammar keeps of a value
  and of the members of an object;
* `AssemblyGate.JsonText.Denotes` — a text that is written for a value.

Main results:

* `AssemblyGate.JsonText.denotes_of_readValue`, `AssemblyGate.JsonText.readsValue`,
  `AssemblyGate.JsonText.readsObject` — **values are read as the grammar writes them, and nothing
  else is read**.
-/
import AssemblyGate.Proofs.Json.NumberRange
import AssemblyGate.Proofs.Json.QuotedText
import AssemblyGate.Proofs.Json.WrittenNumber

set_option autoImplicit false

namespace AssemblyGate.JsonText

open Json (skipGap isGap readText readNumber readName readValue readItems readMembers)
open Numeral (isDigit isDigit_iff)

/-! ### What is kept of a value -/

/-- The text of a value that is a text. -/
def textOf? : Json → Option String
  | .text t => some t
  | _ => none

/-- The members of an object with the texts of their values. -/
def texts (members : List (String × Json)) : List (String × Option String) :=
  members.map fun m => (m.1, textOf? m.2)

/-- A text that is written for a value, as far as the grammar tells values apart. -/
def Denotes (n : Nat) (s : List Char) : Json → Prop
  | .object members => Object Bounded n s (texts members)
  | v => Value Bounded n s (textOf? v)

theorem Denotes.value {n : Nat} {s : List Char} {v : Json} (h : Denotes n s v) :
    Value Bounded n s (textOf? v) := by
  cases v with
  | object members => exact .object h
  | null | bool | number | text | list => exact h

/-! ### Gaps in front of items and members -/

theorem Gap.append {g g' : List Char} (h : Gap g) (h' : Gap g') : Gap (g ++ g') := by
  intro c hc
  rcases List.mem_append.1 hc with hc | hc
  · exact h c hc
  · exact h' c hc

theorem Items.gap_append {fits : JsonNumber.Literal → Prop} {n : Nat} {g s : List Char} (hg : Gap g)
    (h : Items fits n s) : Items fits n (g ++ s) := by
  cases h with
  | one hg₁ hv hg₂ => simpa using Items.one (hg.append hg₁) hv hg₂
  | cons hg₁ hv hg₂ hrest => simpa using Items.cons (hg.append hg₁) hv hg₂ hrest

theorem Member.gap_append {fits : JsonNumber.Literal → Prop} {n : Nat} {g s : List Char}
    {member : String × Option String} (hg : Gap g) (h : Member fits n s member) :
    Member fits n (g ++ s) member := by
  cases h with
  | mk hg₀ hk hg₁ hg₂ hv hg₃ => simpa using Member.mk (hg.append hg₀) hk hg₁ hg₂ hv hg₃

theorem Members.gap_append {fits : JsonNumber.Literal → Prop} {n : Nat} {g s : List Char}
    {members : List (String × Option String)} (hg : Gap g) (h : Members fits n s members) :
    Members fits n (g ++ s) members := by
  cases h with
  | one hm => exact .one (hm.gap_append hg)
  | cons hm hrest => simpa using Members.cons (hm.gap_append hg) hrest

/-! ### Soundness -/

/-- What the three readers take with an amount of fuel. -/
structure SoundAt (fuel : Nat) : Prop where
  value : ∀ {n : Nat} {input rest : List Char} {v : Json},
    readValue fuel n input = some (v, rest) → ∃ s, input = s ++ rest ∧ Denotes n s v
  items : ∀ {n : Nat} {done : List Json} {input rest : List Char} {v : Json},
    readItems fuel n done input = some (v, rest) →
      ∃ s items, input = s ++ ']' :: rest ∧ Items Bounded n s ∧ v = .list items
  members : ∀ {n : Nat} {done : List (String × Json)} {input rest : List Char} {v : Json},
    readMembers fuel n done input = some (v, rest) →
      ∃ s members, input = s ++ '\x7d' :: rest ∧ Members Bounded n s (texts members) ∧
        v = .object (done.reverse ++ members)

theorem denotes_of_readNumber {n : Nat} {input rest : List Char} {v : Json}
    (h : readNumber input = some (v, rest)) : ∃ s, input = s ++ rest ∧ Denotes n s v := by
  unfold readNumber at h
  split at h
  · simp at h
  · rename_i l tail hread
    simp only [Option.map_eq_some_iff, Prod.mk.injEq] at h
    obtain ⟨x, hx, rfl, rfl⟩ := h
    obtain ⟨s, rfl, hs⟩ := written_of_read? hread
    exact ⟨s, rfl, .number hs ((value?_isSome_iff l).1 (by simp [hx]))⟩

theorem quoted_of_readText {input rest : List Char} {t : String}
    (h : readText [] input = some (t, rest)) :
    ∃ k, '"' :: input = k ++ rest ∧ Quoted k t := by
  obtain ⟨s, text, rfl, hbody, rfl⟩ := body_of_readText h
  exact ⟨'"' :: s ++ ['"'], by simp, .mk (by simpa using hbody)⟩

theorem list_sound {fuel n : Nat} {input rest : List Char} {v : Json} (hfuel : SoundAt fuel)
    (h : (match skipGap input with
      | ']' :: rest => some (Json.list [], rest)
      | rest => readItems fuel n [] rest) = some (v, rest)) :
    ∃ s, '[' :: input = s ++ rest ∧ Denotes (n + 1) s v := by
  obtain ⟨g, hg, hinput⟩ := gap_skipGap input
  split at h
  · rename_i tail heq
    simp only [Option.some.injEq, Prod.mk.injEq] at h
    obtain ⟨rfl, rfl⟩ := h
    exact ⟨'[' :: g ++ [']'], by rw [hinput, heq]; simp, .emptyList hg⟩
  · obtain ⟨s, items, hs, hitems, rfl⟩ := hfuel.items h
    exact ⟨'[' :: (g ++ s) ++ [']'], by rw [hinput, hs]; simp, .list (hitems.gap_append hg)⟩

theorem object_sound {fuel n : Nat} {input rest : List Char} {v : Json} (hfuel : SoundAt fuel)
    (h : (match skipGap input with
      | '\x7d' :: rest => some (Json.object [], rest)
      | rest => readMembers fuel n [] rest) = some (v, rest)) :
    ∃ s, '\x7b' :: input = s ++ rest ∧ Denotes (n + 1) s v := by
  obtain ⟨g, hg, hinput⟩ := gap_skipGap input
  split at h
  · rename_i tail heq
    simp only [Option.some.injEq, Prod.mk.injEq] at h
    obtain ⟨rfl, rfl⟩ := h
    exact ⟨'\x7b' :: g ++ ['\x7d'], by rw [hinput, heq]; simp, .empty hg⟩
  · obtain ⟨s, members, hs, hmembers, rfl⟩ := hfuel.members h
    exact ⟨'\x7b' :: (g ++ s) ++ ['\x7d'], by rw [hinput, hs]; simp,
      .members (by simpa using hmembers.gap_append hg)⟩

theorem value_sound {fuel n : Nat} {input rest : List Char} {v : Json} (hfuel : SoundAt fuel)
    (h : readValue (fuel + 1) n input = some (v, rest)) :
    ∃ s, input = s ++ rest ∧ Denotes n s v := by
  unfold readValue at h
  split at h
  · obtain ⟨rfl, rfl⟩ := Prod.mk.inj (Option.some.inj h)
    exact ⟨['n', 'u', 'l', 'l'], rfl, .null⟩
  · obtain ⟨rfl, rfl⟩ := Prod.mk.inj (Option.some.inj h)
    exact ⟨['t', 'r', 'u', 'e'], rfl, .yes⟩
  · obtain ⟨rfl, rfl⟩ := Prod.mk.inj (Option.some.inj h)
    exact ⟨['f', 'a', 'l', 's', 'e'], rfl, .no⟩
  · simp only [Option.map_eq_some_iff, Prod.exists, Prod.mk.injEq] at h
    obtain ⟨t, tail, h, rfl, rfl⟩ := h
    obtain ⟨k, hk, hquoted⟩ := quoted_of_readText h
    exact ⟨k, hk, .text hquoted⟩
  · split at h
    · simp at h
    · exact list_sound hfuel h
  · split at h
    · simp at h
    · exact object_sound hfuel h
  · exact denotes_of_readNumber h

theorem items_sound {fuel n : Nat} {done : List Json} {input rest : List Char} {v : Json}
    (hfuel : SoundAt fuel) (h : readItems (fuel + 1) n done input = some (v, rest)) :
    ∃ s items, input = s ++ ']' :: rest ∧ Items Bounded n s ∧ v = .list items := by
  unfold readItems at h
  split at h
  · simp at h
  rename_i item tail hitem
  obtain ⟨s, rfl, hs⟩ := hfuel.value hitem
  obtain ⟨g, hg, htail⟩ := gap_skipGap tail
  split at h
  · -- a comma: the gap after it goes to the items that follow
    rename_i more heq
    obtain ⟨g', hg', hmore⟩ := gap_skipGap more
    obtain ⟨s', items, hs', hitems, rfl⟩ := hfuel.items h
    refine ⟨s ++ g ++ ',' :: (g' ++ s'), items, ?_, ?_, rfl⟩
    · rw [htail, heq, hmore, hs']
      simp
    · exact .cons gap_nil hs.value hg (hitems.gap_append hg')
  · rename_i more heq
    obtain ⟨rfl, rfl⟩ := Prod.mk.inj (Option.some.inj h)
    exact ⟨s ++ g, _, by rw [htail, heq]; simp, .one gap_nil hs.value hg, rfl⟩
  · simp at h

theorem quoted_of_readName {input rest : List Char} {name : String}
    (h : readName input = some (name, rest)) :
    ∃ k g₁ g₂, input = k ++ g₁ ++ ':' :: g₂ ++ rest ∧ Quoted k name ∧ Gap g₁ ∧ Gap g₂ := by
  unfold readName at h
  split at h
  · split at h
    · simp at h
    rename_i tail name' more hread
    obtain ⟨k, hk, hquoted⟩ := quoted_of_readText hread
    obtain ⟨g₁, hg₁, hmore⟩ := gap_skipGap more
    split at h
    · rename_i last heq
      obtain ⟨rfl, rfl⟩ := Prod.mk.inj (Option.some.inj h)
      obtain ⟨g₂, hg₂, hlast⟩ := gap_skipGap last
      refine ⟨k, g₁, g₂, ?_, hquoted, hg₁, hg₂⟩
      rw [hk, hmore, heq]
      simpa using hlast
    · simp at h
  · simp at h

theorem members_sound {fuel n : Nat} {done : List (String × Json)} {input rest : List Char}
    {v : Json} (hfuel : SoundAt fuel)
    (h : readMembers (fuel + 1) n done input = some (v, rest)) :
    ∃ s members, input = s ++ '\x7d' :: rest ∧ Members Bounded n s (texts members) ∧
      v = .object (done.reverse ++ members) := by
  unfold readMembers at h
  split at h
  · simp at h
  rename_i name start hname
  obtain ⟨k, g₁, g₂, rfl, hk, hg₁, hg₂⟩ := quoted_of_readName hname
  split at h
  · simp at h
  rename_i value tail hvalue
  obtain ⟨s, rfl, hs⟩ := hfuel.value hvalue
  obtain ⟨g, hg, htail⟩ := gap_skipGap tail
  have hmember := Member.mk gap_nil hk hg₁ hg₂ hs.value hg
  split at h
  · rename_i more heq
    obtain ⟨g', hg', hmore⟩ := gap_skipGap more
    obtain ⟨s', members, hs', hmembers, rfl⟩ := hfuel.members h
    refine ⟨_, (name, value) :: members, ?_, .cons hmember (hmembers.gap_append hg'), by simp⟩
    rw [htail, heq, hmore, hs']
    simp
  · rename_i more heq
    obtain ⟨rfl, rfl⟩ := Prod.mk.inj (Option.some.inj h)
    exact ⟨_, [(name, value)], by rw [htail, heq]; simp, .one hmember, by simp⟩
  · simp at h

theorem soundAt (fuel : Nat) : SoundAt fuel := by
  induction fuel with
  | zero => constructor <;> simp [readValue, readItems, readMembers]
  | succ fuel ih => exact ⟨value_sound ih, items_sound ih, members_sound ih⟩

/-- What is read is a value of the grammar. -/
theorem denotes_of_readValue {fuel n : Nat} {input rest : List Char} {v : Json}
    (h : readValue fuel n input = some (v, rest)) : ∃ s, input = s ++ rest ∧ Denotes n s v :=
  (soundAt fuel).value h

/-! ### The characters around a value -/

/-- The characters that begin a value. -/
def Opens (c : Char) : Prop :=
  c ∈ ['n', 't', 'f', '"', '[', '\x7b', '-'] ∨ isDigit c = true

/-- The characters that follow a value inside a list or an object, up to gaps. -/
def Closes (c : Char) : Prop := c ∈ [',', ']', '\x7d']

theorem Opens.plain {c : Char} (h : Opens c) : isGap c = false ∧ c ≠ ']' ∧ c ≠ '\x7d' := by
  rcases h with h | h
  · simp only [List.mem_cons, List.not_mem_nil, or_false] at h
    rcases h with rfl | rfl | rfl | rfl | rfl | rfl | rfl <;> decide
  · refine ⟨?_, ?_, ?_⟩
    · by_contra hgap
      rw [Bool.not_eq_false, isGap_iff] at hgap
      rcases hgap with rfl | rfl | rfl | rfl <;> exact absurd h (by decide)
    · rintro rfl
      exact absurd h (by decide)
    · rintro rfl
      exact absurd h (by decide)

theorem Closes.cases {c : Char} (h : Closes c) : c = ',' ∨ c = ']' ∨ c = '\x7d' := by
  simpa [Closes] using h

theorem Closes.solid {c : Char} (h : Closes c) (rest : List Char) : Solid (c :: rest) := by
  refine solid_cons ?_ rest
  rcases h.cases with rfl | rfl | rfl <;> decide

theorem Closes.ends {c : Char} (h : Closes c) (rest : List Char) : Ends (c :: rest) := by
  intro d tail hd
  obtain rfl := (List.cons.inj hd).1
  rcases h.cases with rfl | rfl | rfl <;> decide

theorem Ends.gap_append {g rest : List Char} (hg : Gap g) (h : Ends rest) : Ends (g ++ rest) := by
  cases g with
  | nil => exact h
  | cons c g =>
      intro d tail hd
      obtain rfl := (List.cons.inj hd).1
      rcases hg c (by simp) with rfl | rfl | rfl | rfl <;> decide

theorem opens_of_written {l : JsonNumber.Literal} {s : List Char} (h : Written l s) :
    ∃ c tail, s = c :: tail ∧ (c = '-' ∨ isDigit c = true) := by
  cases h with
  | @mk f x hd _ _ _ =>
      cases hnegative : l.negative with
      | true => exact ⟨'-', l.whole ++ f ++ x, by simp [sign], .inl rfl⟩
      | false =>
          obtain ⟨c, tail, hwhole⟩ := List.exists_cons_of_ne_nil hd.1
          have hc : isDigit c = true := isDigit_iff.2 (hd.2 c (by simp [hwhole]))
          exact ⟨c, tail ++ f ++ x, by simp [sign, hwhole], .inr hc⟩

theorem opens_of_quoted {k : List Char} {t : String} (h : Quoted k t) :
    ∃ tail, k = '"' :: tail := by
  cases h with
  | mk h => exact ⟨_, rfl⟩

theorem opens_of_object {fits : JsonNumber.Literal → Prop} {n : Nat} {s : List Char}
    {members : List (String × Option String)} (h : Object fits n s members) :
    ∃ tail, s = '\x7b' :: tail := by
  cases h with
  | empty => exact ⟨_, rfl⟩
  | members => exact ⟨_, rfl⟩

theorem opens_of_value {fits : JsonNumber.Literal → Prop} {n : Nat} {s : List Char}
    {t : Option String} (h : Value fits n s t) : ∃ c tail, s = c :: tail ∧ Opens c := by
  cases h with
  | null | yes | no | emptyList | list => exact ⟨_, _, rfl, .inl (by simp)⟩
  | number hs =>
      obtain ⟨c, tail, rfl, rfl | hc⟩ := opens_of_written hs
      · exact ⟨_, _, rfl, .inl (by simp)⟩
      · exact ⟨_, _, rfl, .inr hc⟩
  | text hs =>
      obtain ⟨tail, rfl⟩ := opens_of_quoted hs
      exact ⟨_, _, rfl, .inl (by simp)⟩
  | object hs =>
      obtain ⟨tail, rfl⟩ := opens_of_object hs
      exact ⟨_, _, rfl, .inl (by simp)⟩

/-- A gap in front of a value is skipped. -/
theorem skipGap_value {fits : JsonNumber.Literal → Prop} {n : Nat} {g s : List Char}
    {t : Option String} (hg : Gap g) (h : Value fits n s t) (rest : List Char) :
    skipGap (g ++ (s ++ rest)) = s ++ rest := by
  obtain ⟨c, tail, rfl, hc⟩ := opens_of_value h
  exact skipGap_append hg (solid_cons hc.plain.1 _)

/-- The first item of a list does not look like its end. -/
theorem skipGap_items {fits : JsonNumber.Literal → Prop} {n : Nat} {s : List Char}
    (h : Items fits n s) (rest : List Char) :
    ∃ c tail, skipGap (s ++ rest) = c :: tail ∧ c ≠ ']' := by
  cases h with
  | one hg hv _ | cons hg hv _ _ =>
      obtain ⟨c, tail, hs, hc⟩ := opens_of_value hv
      simp only [List.append_assoc]
      rw [skipGap_value hg hv, hs]
      exact ⟨_, _, rfl, hc.plain.2.1⟩

theorem skipGap_quoted {g k : List Char} {name : String} (hg : Gap g) (h : Quoted k name)
    (rest : List Char) : skipGap (g ++ (k ++ rest)) = k ++ rest := by
  obtain ⟨tail, rfl⟩ := opens_of_quoted h
  exact skipGap_append hg (solid_cons (by decide) _)

/-- The first member of an object does not look like its end. -/
theorem skipGap_members {fits : JsonNumber.Literal → Prop} {n : Nat} {s : List Char}
    {members : List (String × Option String)} (h : Members fits n s members) (rest : List Char) :
    ∃ c tail, skipGap (s ++ rest) = c :: tail ∧ c ≠ '\x7d' := by
  cases h with
  | one hm | cons hm _ =>
      cases hm with
      | mk hg hk _ _ _ _ =>
          obtain ⟨tail, rfl⟩ := opens_of_quoted hk
          simp only [List.append_assoc]
          rw [skipGap_quoted hg hk]
          exact ⟨_, _, rfl, by decide⟩

/-! ### Completeness -/

/-- A text that is read whole as a value with text `t`, if it has any. -/
def ReadsValue (n : Nat) (s : List Char) (t : Option String) : Prop :=
  ∀ fuel rest, 2 * s.length ≤ fuel → Ends rest →
    ∃ v, readValue fuel n (s ++ rest) = some (v, rest) ∧ textOf? v = t

/-- A text that is read whole as the items of a list, up to the bracket. -/
def ReadsItems (n : Nat) (s : List Char) : Prop :=
  ∀ fuel done rest, 2 * s.length < fuel →
    ∃ items, readItems fuel n done (skipGap (s ++ ']' :: rest)) = some (.list items, rest)

/-- A text that is read whole as an object. -/
def ReadsObject (n : Nat) (s : List Char) (members : List (String × Option String)) : Prop :=
  ∀ fuel rest, 2 * s.length ≤ fuel →
    ∃ found, readValue fuel n (s ++ rest) = some (.object found, rest) ∧ texts found = members

/-- A text that is read whole as the members of an object, up to the brace. -/
def ReadsMembers (n : Nat) (s : List Char) (members : List (String × Option String)) : Prop :=
  ∀ fuel done rest, 2 * s.length < fuel →
    ∃ found, readMembers fuel n done (skipGap (s ++ '\x7d' :: rest))
      = some (.object (done.reverse ++ found), rest) ∧ texts found = members

/-- A text that is read whole as one member, up to what closes it. -/
def ReadsMember (n : Nat) (s : List Char) (member : String × Option String) : Prop :=
  ∀ fuel c rest, 2 * s.length ≤ fuel → Closes c →
    ∃ start v tail, readName (skipGap (s ++ c :: rest)) = some (member.1, start) ∧
      readValue fuel n start = some (v, tail) ∧ skipGap tail = c :: rest ∧ textOf? v = member.2

theorem readsValue_word {n : Nat} {s : List Char} {v : Json} (hs : s ≠ [])
    (h : ∀ fuel rest, readValue (fuel + 1) n (s ++ rest) = some (v, rest)) :
    ReadsValue n s (textOf? v) := by
  intro fuel rest hfuel _
  have hlength := List.length_pos_of_ne_nil hs
  obtain ⟨fuel, rfl⟩ := Nat.exists_eq_add_one_of_ne_zero (n := fuel) (by omega)
  exact ⟨v, h fuel rest, rfl⟩

theorem readValue_number {fuel n : Nat} {c : Char} {tail : List Char}
    (hc : c = '-' ∨ isDigit c = true) :
    readValue (fuel + 1) n (c :: tail) = readNumber (c :: tail) := by
  have hplain : c ≠ 'n' ∧ c ≠ 't' ∧ c ≠ 'f' ∧ c ≠ '"' ∧ c ≠ '[' ∧ c ≠ '\x7b' := by
    rcases hc with rfl | hc
    · decide
    · refine ⟨?_, ?_, ?_, ?_, ?_, ?_⟩ <;>
        · rintro rfl
          exact absurd hc (by decide)
  unfold readValue
  split <;> simp_all

theorem readsValue_number {n : Nat} {l : JsonNumber.Literal} {s : List Char} (h : Written l s)
    (hl : Bounded l) : ReadsValue n s none := by
  intro fuel rest hfuel hrest
  obtain ⟨c, tail, rfl, hc⟩ := opens_of_written h
  obtain ⟨x, hx⟩ := Option.isSome_iff_exists.1 ((value?_isSome_iff l).2 hl)
  obtain ⟨fuel, rfl⟩ := Nat.exists_eq_add_one_of_ne_zero (n := fuel) (by simp at hfuel; omega)
  refine ⟨.number x, ?_, rfl⟩
  have hread := read?_of_written h hrest
  rw [List.cons_append] at hread ⊢
  simp [readValue_number hc, readNumber, hread, hx]

theorem readText_of_quoted {k : List Char} {t : String} (h : Quoted k t) (rest : List Char) :
    ∃ tail, k ++ rest = '"' :: tail ∧ readText [] tail = some (t, rest) := by
  cases h with
  | @mk s _ hbody =>
      refine ⟨s ++ '"' :: rest, by simp, ?_⟩
      simpa using readText_of_body hbody [] rest

theorem readsValue_text {n : Nat} {s : List Char} {t : String} (h : Quoted s t) :
    ReadsValue n s (some t) := by
  intro fuel rest hfuel _
  obtain ⟨tail, hs⟩ := opens_of_quoted h
  obtain ⟨fuel, rfl⟩ := Nat.exists_eq_add_one_of_ne_zero (n := fuel) (by simp [hs] at hfuel; omega)
  obtain ⟨tail, hs, hread⟩ := readText_of_quoted h rest
  exact ⟨.text t, by rw [hs]; simp [readValue, hread], rfl⟩

theorem readsValue_emptyList {n : Nat} {g : List Char} (hg : Gap g) :
    ReadsValue (n + 1) ('[' :: g ++ [']']) none := by
  intro fuel rest hfuel _
  obtain ⟨fuel, rfl⟩ := Nat.exists_eq_add_one_of_ne_zero (n := fuel) (by simp at hfuel; omega)
  have hskip : skipGap (g ++ ']' :: rest) = ']' :: rest :=
    skipGap_append hg (Closes.solid (by simp [Closes]) rest)
  exact ⟨.list [], by simp [readValue, hskip], rfl⟩

theorem readsValue_list {fits : JsonNumber.Literal → Prop} {n : Nat} {s : List Char}
    (h : Items fits n s) (ih : ReadsItems n s) : ReadsValue (n + 1) ('[' :: s ++ [']']) none := by
  intro fuel rest hfuel _
  simp only [List.cons_append, List.length_cons, List.length_append, List.length_nil] at hfuel
  obtain ⟨fuel, rfl⟩ := Nat.exists_eq_add_one_of_ne_zero (n := fuel) (by omega)
  obtain ⟨items, hitems⟩ := ih fuel [] rest (by omega)
  obtain ⟨c, tail, hskip, hc⟩ := skipGap_items h (']' :: rest)
  rw [hskip] at hitems
  exact ⟨.list items, by simp [readValue, hskip, hc, hitems], rfl⟩

theorem readsObject_empty {n : Nat} {g : List Char} (hg : Gap g) :
    ReadsObject (n + 1) ('\x7b' :: g ++ ['\x7d']) [] := by
  intro fuel rest hfuel
  obtain ⟨fuel, rfl⟩ := Nat.exists_eq_add_one_of_ne_zero (n := fuel) (by simp at hfuel; omega)
  have hskip : skipGap (g ++ '\x7d' :: rest) = '\x7d' :: rest :=
    skipGap_append hg (Closes.solid (by simp [Closes]) rest)
  exact ⟨[], by simp [readValue, hskip], rfl⟩

theorem readsObject_members {fits : JsonNumber.Literal → Prop} {n : Nat} {s : List Char}
    {members : List (String × Option String)} (h : Members fits n s members)
    (ih : ReadsMembers n s members) :
    ReadsObject (n + 1) ('\x7b' :: s ++ ['\x7d']) members := by
  intro fuel rest hfuel
  simp only [List.cons_append, List.length_cons, List.length_append, List.length_nil] at hfuel
  obtain ⟨fuel, rfl⟩ := Nat.exists_eq_add_one_of_ne_zero (n := fuel) (by omega)
  obtain ⟨found, hfound, htexts⟩ := ih fuel [] rest (by omega)
  obtain ⟨c, tail, hskip, hc⟩ := skipGap_members h ('\x7d' :: rest)
  rw [hskip] at hfound
  exact ⟨found, by simpa [readValue, hskip, hc] using hfound, htexts⟩

/-- An item and what closes it. -/
theorem readValue_item {n : Nat} {g s g' : List Char} {t : Option String} (hg : Gap g)
    (hs : Value Bounded n s t) (hg' : Gap g') (ih : ReadsValue n s t) (fuel : Nat) (c : Char)
    (rest : List Char) (hfuel : 2 * s.length ≤ fuel) (hc : Closes c) :
    ∃ v tail, readValue fuel n (skipGap (g ++ (s ++ (g' ++ c :: rest)))) = some (v, tail) ∧
      skipGap tail = c :: rest ∧ textOf? v = t := by
  obtain ⟨v, hv, ht⟩ := ih fuel (g' ++ c :: rest) hfuel ((hc.ends rest).gap_append hg')
  exact ⟨v, _, by rw [skipGap_value hg hs, hv], skipGap_append hg' (hc.solid rest), ht⟩

theorem readsItems_one {n : Nat} {g s g' : List Char} {t : Option String} (hg : Gap g)
    (hs : Value Bounded n s t) (hg' : Gap g') (ih : ReadsValue n s t) :
    ReadsItems n (g ++ s ++ g') := by
  intro fuel done rest hfuel
  simp only [List.length_append] at hfuel
  obtain ⟨fuel, rfl⟩ := Nat.exists_eq_add_one_of_ne_zero (n := fuel) (by omega)
  obtain ⟨v, tail, hread, htail, -⟩ := readValue_item hg hs hg' ih fuel ']' rest
    (by omega) (by simp [Closes])
  exact ⟨(v :: done).reverse, by simp [readItems, hread, htail]⟩

theorem readsItems_cons {n : Nat} {g s g' s' : List Char} {t : Option String} (hg : Gap g)
    (hs : Value Bounded n s t) (hg' : Gap g') (ih : ReadsValue n s t) (ihrest : ReadsItems n s') :
    ReadsItems n (g ++ s ++ g' ++ ',' :: s') := by
  intro fuel done rest hfuel
  simp only [List.length_append, List.length_cons] at hfuel
  obtain ⟨fuel, rfl⟩ := Nat.exists_eq_add_one_of_ne_zero (n := fuel) (by omega)
  obtain ⟨v, tail, hread, htail, -⟩ := readValue_item hg hs hg' ih fuel ','
    (s' ++ ']' :: rest) (by omega) (by simp [Closes])
  obtain ⟨items, hitems⟩ := ihrest fuel (v :: done) rest (by omega)
  exact ⟨items, by simp [readItems, hread, htail, hitems]⟩

/-- A member and what closes it. -/
theorem readsMember {n : Nat} {g k g₁ g₂ s g₃ : List Char} {name : String} {t : Option String}
    (hg : Gap g) (hk : Quoted k name) (hg₁ : Gap g₁) (hg₂ : Gap g₂) (hs : Value Bounded n s t)
    (hg₃ : Gap g₃) (ih : ReadsValue n s t) :
    ReadsMember n (g ++ k ++ g₁ ++ ':' :: g₂ ++ s ++ g₃) (name, t) := by
  intro fuel c rest hfuel hc
  simp only [List.length_append, List.length_cons] at hfuel
  obtain ⟨v, tail, hread, htail, ht⟩ := readValue_item hg₂ hs hg₃ ih fuel c rest
    (by omega) hc
  refine ⟨_, v, tail, ?_, hread, htail, ht⟩
  obtain ⟨more, hmore, hname⟩ :=
    readText_of_quoted hk (g₁ ++ ':' :: (g₂ ++ (s ++ (g₃ ++ c :: rest))))
  have hcolon : skipGap (g₁ ++ ':' :: (g₂ ++ (s ++ (g₃ ++ c :: rest))))
      = ':' :: (g₂ ++ (s ++ (g₃ ++ c :: rest))) :=
    skipGap_append hg₁ (solid_cons (by decide) _)
  simp only [List.append_assoc, List.cons_append]
  rw [skipGap_quoted hg hk, hmore]
  simp [readName, hname, hcolon]

theorem readsMembers_one {n : Nat} {s : List Char} {member : String × Option String}
    (ih : ReadsMember n s member) : ReadsMembers n s [member] := by
  intro fuel done rest hfuel
  obtain ⟨fuel, rfl⟩ := Nat.exists_eq_add_one_of_ne_zero (n := fuel) (by omega)
  obtain ⟨start, v, tail, hname, hread, htail, ht⟩ := ih fuel '\x7d' rest (by omega)
    (by simp [Closes])
  exact ⟨[(member.1, v)], by simp [readMembers, hname, hread, htail], by simp [texts, ht]⟩

theorem readsMembers_cons {n : Nat} {s s' : List Char} {member : String × Option String}
    {members : List (String × Option String)} (ih : ReadsMember n s member)
    (ihrest : ReadsMembers n s' members) : ReadsMembers n (s ++ ',' :: s') (member :: members) := by
  intro fuel done rest hfuel
  simp only [List.length_append, List.length_cons] at hfuel
  obtain ⟨fuel, rfl⟩ := Nat.exists_eq_add_one_of_ne_zero (n := fuel) (by omega)
  obtain ⟨start, v, tail, hname, hread, htail, ht⟩ := ih fuel ',' (s' ++ '\x7d' :: rest) (by omega)
    (by simp [Closes])
  obtain ⟨found, hfound, htexts⟩ := ihrest fuel ((member.1, v) :: done) rest (by omega)
  refine ⟨(member.1, v) :: found, ?_, by simpa [texts, ht] using htexts⟩
  simpa [readMembers, hname, hread, htail] using hfound

-- by induction on the derivation, with one of the lemmas above for each of its cases
mutual

theorem readsValue {n : Nat} {s : List Char} {t : Option String} :
    Value Bounded n s t → ReadsValue n s t
  | .null => readsValue_word (v := .null) (by simp) fun _ _ => rfl
  | .yes => readsValue_word (v := .bool true) (by simp) fun _ _ => rfl
  | .no => readsValue_word (v := .bool false) (by simp) fun _ _ => rfl
  | .number h hl => readsValue_number h hl
  | .text h => readsValue_text h
  | .emptyList hg => readsValue_emptyList hg
  | .list h => readsValue_list h (readsItems h)
  | .object h => by
      intro fuel rest hfuel _
      obtain ⟨found, hfound, -⟩ := readsObject h fuel rest hfuel
      exact ⟨_, hfound, rfl⟩

theorem readsItems {n : Nat} {s : List Char} : Items Bounded n s → ReadsItems n s
  | .one hg hv hg' => readsItems_one hg hv hg' (readsValue hv)
  | .cons hg hv hg' h => readsItems_cons hg hv hg' (readsValue hv) (readsItems h)

theorem readsObject {n : Nat} {s : List Char} {members : List (String × Option String)} :
    Object Bounded n s members → ReadsObject n s members
  | .empty hg => readsObject_empty hg
  | .members h => readsObject_members h (readsMembers h)

theorem readsMembers {n : Nat} {s : List Char} {members : List (String × Option String)} :
    Members Bounded n s members → ReadsMembers n s members
  | .one h => readsMembers_one (readsMember_of h)
  | .cons h hrest => readsMembers_cons (readsMember_of h) (readsMembers hrest)

theorem readsMember_of {n : Nat} {s : List Char} {member : String × Option String} :
    Member Bounded n s member → ReadsMember n s member
  | .mk hg hk hg₁ hg₂ hv hg₃ => readsMember hg hk hg₁ hg₂ hv hg₃ (readsValue hv)

end

end AssemblyGate.JsonText
