/-
**Which keys are paths.**

A key of letters, digits, blanks, underscores and hyphens names one entry.  Two such names with a
point between them lead to a field of a section.  Where one of the two has any other character in
it, a point and an opening bracket excepted, the whole key names one entry again, as it does where
one of them is empty.

Main definitions:

* `AssemblyGate.KeyPath.IsName` — a text that can stand in a path.

Main results:

* `AssemblyGate.KeyPath.ofKey_of_isName`, `AssemblyGate.KeyPath.ofKey_dotted` — the path of a name,
  and of two texts with a point between them;
* `AssemblyGate.KeyPath.isName_head` — a path of several steps begins with a name;
* `AssemblyGate.KeyPath.isName_keyOf` — a name in lower case is a name.
-/
import AssemblyGate.Proofs.Text.SmallLetters
import AssemblyGate.Settings.KeyPath
import Mathlib.Data.List.TakeWhile

set_option autoImplicit false

namespace AssemblyGate.KeyPath

/-- The key of the root that a path goes through. -/
def head : KeyPath → String
  | .name key => key
  | .child parent _ => parent.head
  | .item parent _ => parent.head

/-- A text that can stand in a path. -/
def IsName (text : List Char) : Prop := text.all isNameChar = true

instance (text : List Char) : Decidable (IsName text) := inferInstanceAs (Decidable (_ = true))

/-! ### The name at the front -/

/-- What may follow a name: nothing, or a point. -/
def IsBoundary (rest : List Char) : Prop := ∀ c ∈ rest.head?, c = '.'

theorem IsBoundary.nil : IsBoundary [] := by simp [IsBoundary]

theorem IsBoundary.point (rest : List Char) : IsBoundary ('.' :: rest) := by simp [IsBoundary]

theorem IsBoundary.stops {rest : List Char} (h : IsBoundary rest) :
    rest.takeWhile isNameChar = [] ∧ rest.dropWhile isNameChar = rest := by
  cases rest with
  | nil => simp
  | cons c rest =>
      obtain rfl : c = '.' := h c rfl
      have hpoint : isNameChar '.' = false := by decide
      simp [hpoint]

theorem readName_of_isName {text rest : List Char} (hname : IsName text) (hne : text ≠ [])
    (hrest : IsBoundary rest) : readName (text ++ rest) = some (String.ofList text, rest) := by
  have hall : ∀ c ∈ text, isNameChar c = true := List.all_eq_true.1 hname
  simp only [readName, List.takeWhile_append_of_pos hall, List.dropWhile_append_of_pos hall,
    hrest.stops.1, hrest.stops.2, List.append_nil, List.isEmpty_iff, hne, if_false]

theorem readName_whole {text : List Char} (hname : IsName text) (hne : text ≠ []) :
    readName text = some (String.ofList text, []) := by
  have hread := readName_of_isName hname hne IsBoundary.nil
  rwa [List.append_nil] at hread

/-- A text without points and brackets that is no name ends the reading of a path. -/
theorem readName_of_not_isName {text rest : List Char} (h : ∀ c ∈ text, c ≠ '.' ∧ c ≠ '[')
    (hrest : IsBoundary rest) (hname : ¬(IsName text ∧ text ≠ [])) :
    readName (text ++ rest) = none ∨
      ∃ name c more, readName (text ++ rest) = some (name, c :: more) ∧ c ≠ '.' ∧ c ≠ '[' := by
  cases htext : text.dropWhile isNameChar with
  | nil =>
      have hall : ∀ c ∈ text, isNameChar c = true := List.dropWhile_eq_nil_iff.1 htext
      obtain rfl : text = [] := by
        by_contra hne
        exact hname ⟨List.all_eq_true.2 hall, hne⟩
      left
      simp [readName, hrest.stops.1]
  | cons c more =>
      have hdrop : (text ++ rest).dropWhile isNameChar = c :: (more ++ rest) := by
        simp [List.dropWhile_append, htext]
      unfold readName
      dsimp only
      split
      · exact .inl rfl
      · have hc : c ∈ text := (List.dropWhile_sublist isNameChar).mem (htext ▸ List.mem_cons_self)
        exact .inr ⟨_, c, _, by rw [hdrop], h c hc⟩

/-! ### The steps that follow -/

theorem readSteps_blocked {c : Char} (hpoint : c ≠ '.') (hbracket : c ≠ '[') (room : Nat)
    (path : KeyPath) (more : List Char) : readSteps room path (c :: more) = none := by
  cases room with
  | zero => simp [readSteps]
  | succ room => simp [readSteps, hpoint, hbracket]

theorem head_of_readSteps {room : Nat} {path result : KeyPath} {input : List Char}
    (h : readSteps room path input = some result) : result.head = path.head := by
  induction room generalizing path input with
  | zero =>
      cases input with
      | nil =>
          simp only [readSteps, Option.some.injEq] at h
          rw [h]
      | cons c rest => simp [readSteps] at h
  | succ room ih =>
      cases input with
      | nil =>
          simp only [readSteps, Option.some.injEq] at h
          rw [h]
      | cons c rest =>
          by_cases hpoint : c = '.'
          · subst hpoint
            cases hname : readName rest with
            | none => simp [readSteps, hname] at h
            | some found =>
                simp only [readSteps, hname] at h
                have hhead := ih h
                exact hhead
          by_cases hbracket : c = '['
          · subst hbracket
            cases hindex : readIndex rest with
            | none => simp [readSteps, hindex] at h
            | some found =>
                simp only [readSteps, hindex] at h
                have hhead := ih h
                exact hhead
          · simp [readSteps_blocked hpoint hbracket] at h

/-! ### Keys -/

/-- A name is a path of one step. -/
theorem ofKey_of_isName {key : String} (h : IsName key.toList) : ofKey key = .name key := by
  by_cases hempty : key.toList = []
  · have hread : readName key.toList = none := by rw [hempty]; rfl
    simp [ofKey, parse?, hread]
  · have hread := readName_whole h hempty
    simp [ofKey, parse?, hread, readSteps]

/-- A key is one step, or a path that begins with a name. -/
theorem isName_head (key : String) : ofKey key = .name key ∨ IsName (ofKey key).head.toList := by
  unfold ofKey parse?
  split
  · rename_i first rest hread
    cases hsteps : readSteps rest.length (.name first) rest with
    | none => exact .inl rfl
    | some path =>
        right
        rw [Option.getD_some, head_of_readSteps hsteps]
        unfold readName at hread
        dsimp only at hread
        split at hread
        · cases hread
        · obtain ⟨rfl, -⟩ := Prod.mk.inj (Option.some.inj hread)
          simp only [head, IsName, String.toList_ofList, List.all_takeWhile]
  · exact .inl rfl

/-- A path of several steps has a point or an opening bracket in it. -/
theorem mem_key_of_ofKey_ne {key : String} (h : ofKey key ≠ .name key) :
    '.' ∈ key.toList ∨ '[' ∈ key.toList := by
  unfold ofKey parse? at h
  split at h
  · rename_i first rest hread
    unfold readName at hread
    dsimp only at hread
    split at hread
    · cases hread
    obtain ⟨rfl, hrest⟩ := Prod.mk.inj (Option.some.inj hread)
    cases rest with
    | nil =>
        have hall : key.toList.takeWhile isNameChar = key.toList := by
          have hwhole := List.takeWhile_append_dropWhile (p := isNameChar) (l := key.toList)
          rwa [hrest, List.append_nil] at hwhole
        simp [readSteps, hall] at h
    | cons c more =>
        have hc : c ∈ key.toList :=
          (List.dropWhile_sublist isNameChar).mem (hrest ▸ List.mem_cons_self)
        by_cases hpoint : c = '.'
        · exact .inl (hpoint ▸ hc)
        by_cases hbracket : c = '['
        · exact .inr (hbracket ▸ hc)
        · simp [readSteps_blocked hpoint hbracket] at h
  · exact absurd rfl h

/-- Two names with a point between them lead to a field of a section. -/
theorem ofKey_names {sec field : String} (hsec : IsName sec.toList) (hne : sec.toList ≠ [])
    (hfield : IsName field.toList) (hne' : field.toList ≠ []) :
    ofKey (sec ++ "." ++ field) = .child (.name sec) field := by
  have hread := readName_of_isName hsec hne (IsBoundary.point field.toList)
  have hread' := readName_whole hfield hne'
  rw [String.ofList_toList] at hread hread'
  simp [ofKey, parse?, hread, readSteps, hread']

/-- Two texts with a point between them lead to a field of a section, or are one key, unless they
have points or brackets of their own. -/
theorem ofKey_dotted {sec field : String} (hsec : ∀ c ∈ sec.toList, c ≠ '.' ∧ c ≠ '[')
    (hfield : ∀ c ∈ field.toList, c ≠ '.' ∧ c ≠ '[') :
    IsName sec.toList ∧ ofKey (sec ++ "." ++ field) = .child (.name sec) field ∨
      ofKey (sec ++ "." ++ field) = .name (sec ++ "." ++ field) := by
  by_cases hname : IsName sec.toList ∧ sec.toList ≠ []
  · by_cases hname' : IsName field.toList ∧ field.toList ≠ []
    · exact .inl ⟨hname.1, ofKey_names hname.1 hname.2 hname'.1 hname'.2⟩
    · right
      have hread := readName_of_isName hname.1 hname.2 (IsBoundary.point field.toList)
      have hread' := readName_of_not_isName hfield IsBoundary.nil hname'
      rw [List.append_nil] at hread'
      rcases hread' with hread' | ⟨_, c, more, hread', hc⟩
      · simp [ofKey, parse?, hread, readSteps, hread']
      · simp [ofKey, parse?, hread, readSteps, hread', readSteps_blocked hc.1 hc.2]
  · right
    rcases readName_of_not_isName hsec (IsBoundary.point field.toList) hname with
      hread | ⟨_, c, more, hread, hc⟩
    · simp [ofKey, parse?, hread]
    · simp [ofKey, parse?, hread, readSteps_blocked hc.1 hc.2]

/-! ### Lower case -/

theorem lowerChar_of_isNameChar {c : Char} (h : isNameChar c = true) (before after : List Char) :
    ∃ d, lowerIn before c after = [d] ∧ isNameChar d = true := by
  have hcode : c.toNat < 0x80 := by
    simp only [isNameChar, Bool.or_eq_true, Bool.and_eq_true, decide_eq_true_eq] at h
    rcases h with ((((h | h) | h) | rfl) | rfl) | rfl
    · exact Nat.lt_of_le_of_lt (show c.toNat ≤ 'z'.toNat from h.2) (by decide)
    · exact Nat.lt_of_le_of_lt (show c.toNat ≤ 'Z'.toNat from h.2) (by decide)
    · exact Nat.lt_of_le_of_lt (show c.toNat ≤ '9'.toNat from h.2) (by decide)
    all_goals decide
  have hall : ∀ n < 0x80, isNameChar (Char.ofNat n) = true →
      isNameChar (lowerChar (Char.ofNat n)) = true := by decide +kernel
  have hsigma : c ≠ '\u03A3' := by
    rintro rfl
    exact absurd hcode (by decide)
  have hdotted : c ≠ '\u0130' := by
    rintro rfl
    exact absurd hcode (by decide)
  refine ⟨lowerChar c, by simp [lowerIn, hsigma, hdotted], ?_⟩
  have := hall c.toNat hcode
  rw [Char.ofNat_toNat] at this
  exact this h

/-- A name in lower case is a name. -/
theorem isName_keyOf {key : String} (h : IsName key.toList) : IsName (Raw.keyOf key).toList := by
  have hwalk : ∀ (text before : List Char), IsName text → IsName (lowerFrom before [] text) := by
    intro text
    induction text with
    | nil => intro before _; rfl
    | cons c text ih =>
        intro before hname
        simp only [IsName, List.all_cons, Bool.and_eq_true] at hname
        obtain ⟨d, hd, hdname⟩ := lowerChar_of_isNameChar hname.1 before text
        rw [lowerFrom_cons, hd]
        simpa [IsName, hdname] using ih (c :: before) hname.2
  rw [Raw.keyOf, String.toList_ofList]
  exact hwalk key.toList [] h

end AssemblyGate.KeyPath
