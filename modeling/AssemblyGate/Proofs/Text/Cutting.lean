/-
**Cutting a text into fields.**

Lines, times and numbers are read from the front, each field up to the character that ends it, a
sign, or the digits behind a point.  As long as the field lacks what ends it, it is found again,
with what stands behind it.

Main definitions:

* `AssemblyGate.cutAt` — a text up to a character, and what stands behind that;
* `AssemblyGate.cutSign`, `AssemblyGate.SignText` — a sign in front of a text, if there is one;
* `AssemblyGate.cutPlaces`, `AssemblyGate.PlacesText` — the digits behind a point, if there is one.

Main results:

* `AssemblyGate.cutAt_append`, `AssemblyGate.cutAt_fst` — a field is found again, with or without
  something behind it;
* `AssemblyGate.append_cons_inj_left`, `AssemblyGate.append_cons_inj_right` — a text decides the
  field in front and the field at its end;
* `AssemblyGate.cutSign_append`, `AssemblyGate.cutPlaces_append` — so are a sign and the digits
  behind a point.
-/
import AssemblyGate.Proofs.Text.Numeral

set_option autoImplicit false

namespace AssemblyGate

/-- A text up to a character, and what stands behind that. -/
def cutAt (stop : Char) (text : List Char) : List Char × List Char :=
  (text.takeWhile (· ≠ stop), (text.dropWhile (· ≠ stop)).drop 1)

theorem cutAt_append {stop : Char} {word : List Char} (h : stop ∉ word) (rest : List Char) :
    cutAt stop (word ++ stop :: rest) = (word, rest) := by
  have hword : ∀ c ∈ word, decide (c ≠ stop) = true := by
    rintro c hc
    rw [decide_eq_true_eq]
    rintro rfl
    exact h hc
  simp only [cutAt, List.takeWhile_append_of_pos hword, List.dropWhile_append_of_pos hword]
  simp

theorem cutAt_fst {stop : Char} {word rest : List Char} (h : stop ∉ word)
    (hrest : rest = [] ∨ rest.head? = some stop) : (cutAt stop (word ++ rest)).1 = word := by
  rcases hrest with rfl | hhead
  · rw [List.append_nil, cutAt, List.takeWhile_eq_self_iff]
    rintro c hc
    rw [decide_eq_true_eq]
    rintro rfl
    exact h hc
  · obtain ⟨more, rfl⟩ := List.head?_eq_some_iff.1 hhead
    rw [cutAt_append h]

/-- The field in front that lacks the character behind it is decided by the text. -/
theorem append_cons_inj_left {stop : Char} {word word' rest rest' : List Char} (h : stop ∉ word)
    (h' : stop ∉ word') (heq : word ++ stop :: rest = word' ++ stop :: rest') :
    word = word' ∧ rest = rest' := by
  rw [← Prod.mk.injEq, ← cutAt_append h, heq, cutAt_append h']

/-- The field at the end that lacks the character before it is decided by the text. -/
theorem append_cons_inj_right {stop : Char} {word word' rest rest' : List Char} (h : stop ∉ word)
    (h' : stop ∉ word') (heq : rest ++ stop :: word = rest' ++ stop :: word') :
    rest = rest' ∧ word = word' := by
  have hreverse :
      word.reverse ++ stop :: rest.reverse = word'.reverse ++ stop :: rest'.reverse := by
    simpa using congrArg List.reverse heq
  obtain ⟨hword, hrest⟩ := append_cons_inj_left (by simpa using h) (by simpa using h') hreverse
  exact ⟨List.reverse_inj.1 hrest, List.reverse_inj.1 hword⟩

/-! ### Signs -/

/-- Whether a minus is in front of a text, and what stands behind the sign, if there is one. -/
def cutSign : List Char → Bool × List Char
  | '-' :: rest => (true, rest)
  | '+' :: rest => (false, rest)
  | text => (false, text)

/-- A sign, or none: whether it is a minus. -/
inductive SignText : List Char → Bool → Prop
  | none : SignText [] false
  | plus : SignText ['+'] false
  | minus : SignText ['-'] true

theorem SignText.of_bool (negative : Bool) : SignText [if negative then '-' else '+'] negative := by
  cases negative
  · exact .plus
  · exact .minus

theorem cutSign_of_ne {text : List Char} (hminus : ∀ rest, text ≠ '-' :: rest)
    (hplus : ∀ rest, text ≠ '+' :: rest) : cutSign text = (false, text) := by
  unfold cutSign
  split
  · exact absurd rfl (hminus _)
  · exact absurd rfl (hplus _)
  · rfl

theorem cutSign_append {sign body : List Char} {negative : Bool} (h : SignText sign negative)
    (hbody : ∀ c ∈ body.head?, c ≠ '+' ∧ c ≠ '-') : cutSign (sign ++ body) = (negative, body) := by
  cases h with
  | none => exact cutSign_of_ne (by rintro _ rfl; simp at hbody) (by rintro _ rfl; simp at hbody)
  | plus => rfl
  | minus => rfl

theorem exists_of_cutSign (text : List Char) : ∃ sign negative body, text = sign ++ body ∧
    SignText sign negative ∧ cutSign text = (negative, body) := by
  unfold cutSign
  split
  · exact ⟨_, _, _, rfl, .minus, rfl⟩
  · exact ⟨_, _, _, rfl, .plus, rfl⟩
  · exact ⟨_, _, _, rfl, .none, rfl⟩

/-! ### Digits behind a point -/

/-- The digits behind a point, if a point is in front of a text, and what stands behind them. -/
def cutPlaces : List Char → List Char × List Char
  | '.' :: rest => rest.span Numeral.isDigit
  | text => ([], text)

/-- A point and the digits behind it, or no point. -/
inductive PlacesText : List Char → List Char → Prop
  | none : PlacesText [] []
  | point {places : List Char} : (∀ c ∈ places, '0' ≤ c ∧ c ≤ '9') →
      PlacesText ('.' :: places) places

/-- No digit is in front of a point. -/
theorem PlacesText.head_append {point places rest : List Char} (h : PlacesText point places)
    (hrest : ∀ c ∈ rest.head?, Numeral.isDigit c = false) :
    ∀ c ∈ (point ++ rest).head?, Numeral.isDigit c = false := by
  cases h with
  | none => exact hrest
  | point =>
      intro c hc
      obtain rfl : '.' = c := by simpa using hc
      decide

theorem cutPlaces_of_ne {text : List Char} (h : ∀ rest, text ≠ '.' :: rest) :
    cutPlaces text = ([], text) := by
  unfold cutPlaces
  split
  · exact absurd rfl (h _)
  · rfl

theorem cutPlaces_append {point places rest : List Char} (h : PlacesText point places)
    (hrest : ∀ c ∈ rest.head?, Numeral.isDigit c = false ∧ c ≠ '.') :
    cutPlaces (point ++ rest) = (places, rest) := by
  cases h with
  | none => exact cutPlaces_of_ne (by rintro _ rfl; simp at hrest)
  | point hplaces => exact Numeral.span_append hplaces fun c hc => (hrest c hc).1

theorem exists_of_cutPlaces (text : List Char) : ∃ point places rest, text = point ++ rest ∧
    PlacesText point places ∧ cutPlaces text = (places, rest) := by
  unfold cutPlaces
  split
  · rename_i rest
    obtain ⟨places, tail, rfl, hplaces, hspan⟩ := Numeral.exists_of_span rest
    exact ⟨_, _, _, rfl, .point hplaces, hspan⟩
  · exact ⟨_, _, _, rfl, .none, rfl⟩

end AssemblyGate
