/-
**Which texts read as numbers.**

A whole number of 64 bits is a sign, which may be left out, and digits.  A floating point number is
a sign and a name of what is not finite, in any letter case, or a sign and a decimal: digits with a
point before, between or behind them, and a power of ten behind an `e`.  The readers take exactly
these texts, and read a text as one number only.

Main definitions:

* `AssemblyGate.WholeText` — the texts of whole numbers of 64 bits;
* `AssemblyGate.DecimalText`, `AssemblyGate.FloatText` — the texts of decimals and of floating
  point numbers.

Main results:

* `AssemblyGate.Numeral.signed?_eq_some_iff` — **what is read as a whole number**;
* `AssemblyGate.Binary64.ofText?_eq_some_iff` — **what is read as a floating point number**;
* `AssemblyGate.WholeText.space_not_mem`, `AssemblyGate.FloatText.space_not_mem` — no number holds
  a space.
-/
import AssemblyGate.Number.Decimal
import AssemblyGate.Proofs.Text.Cutting
import Mathlib.Algebra.Group.Int.Defs

set_option autoImplicit false

namespace AssemblyGate

/-- A number with a sign. -/
def signedNat (negative : Bool) (n : Nat) : Int := if negative then -(n : Int) else n

@[simp] theorem signedNat_true (n : Nat) : signedNat true n = -(n : Int) := rfl

@[simp] theorem signedNat_false (n : Nat) : signedNat false n = n := rfl

/-- A whole number of 64 bits: a sign or none, and digits. -/
inductive WholeText : List Char → Int → Prop
  | mk {sign digits : List Char} {negative : Bool} : SignText sign negative →
      Numeral.Digits digits → -2 ^ 63 ≤ signedNat negative (Numeral.ofDigits digits) →
      signedNat negative (Numeral.ofDigits digits) < 2 ^ 63 →
      WholeText (sign ++ digits) (signedNat negative (Numeral.ofDigits digits))

/-- A power of ten behind a decimal, or none.  A huge one counts as `2 ^ 62`. -/
inductive PowerText : List Char → Int → Prop
  | none : PowerText [] 0
  | some {mark : Char} {sign digits : List Char} {negative : Bool} : mark = 'e' ∨ mark = 'E' →
      SignText sign negative → Numeral.Digits digits →
      PowerText (mark :: (sign ++ digits))
        (signedNat negative (min (2 ^ 62) (Numeral.ofDigits digits)))

/-- A decimal without a sign: its digits as one number, and the power of ten that they are
multiplied by. -/
inductive DecimalText : List Char → Nat → Int → Prop
  | mk {whole point places power : List Char} {k : Int} : (∀ c ∈ whole, '0' ≤ c ∧ c ≤ '9') →
      PlacesText point places → whole ++ places ≠ [] → PowerText power k →
      DecimalText (whole ++ (point ++ power)) (Numeral.ofDigits (whole ++ places))
        (k - places.length)

/-- A floating point number: a sign or none, and a name or a decimal. -/
inductive FloatText : List Char → Binary64 → Prop
  | infinite {sign name : List Char} {negative : Bool} : SignText sign negative →
      lowerAscii name = "inf".toList ∨ lowerAscii name = "infinity".toList →
      FloatText (sign ++ name) (.infinite negative)
  | nan {sign name : List Char} {negative : Bool} : SignText sign negative →
      lowerAscii name = "nan".toList → FloatText (sign ++ name) .nan
  | decimal {sign body : List Char} {negative : Bool} {significand : Nat} {power : Int} :
      SignText sign negative → DecimalText body significand power →
      FloatText (sign ++ body) (Binary64.ofDecimal negative significand power)

/-! ### Whole numbers -/

namespace Numeral

theorem Digits.head_not_sign {d : List Char} (h : Digits d) :
    ∀ c ∈ d.head?, c ≠ '+' ∧ c ≠ '-' := by
  obtain ⟨c, tail, rfl, hplus, hminus⟩ := h.exists_cons
  simp [hplus, hminus]

/-- Behind a minus there are digits only, and no more than the largest distance from zero. -/
theorem signed?_minus {rest : List Char} {n : Int} :
    signed? ('-' :: rest) = some n ↔
      Digits rest ∧ n = -(ofDigits rest : Int) ∧ ofDigits rest ≤ 2 ^ 63 := by
  have hbound : twoTo 63 = 2 ^ 63 := by decide
  simp only [signed?, hbound]
  cases hrest : natural? rest with
  | none =>
      have hd : ¬Digits rest := fun hd => by simp [natural?_eq_some_iff.2 ⟨hd, rfl⟩] at hrest
      simp [hd]
  | some m =>
      obtain ⟨hd, rfl⟩ := natural?_eq_some_iff.1 hrest
      simp [hd, eq_comm, and_comm]

/-- Without a minus it is a bounded numeral. -/
theorem signed?_of_head {text : List Char} (h : ∀ c ∈ text.head?, c ≠ '-') :
    signed? text = (unsigned? (2 ^ 63 - 1) text).map fun n : Nat => (n : Int) := by
  have hbound : twoTo 63 = 2 ^ 63 := by decide
  unfold signed?
  split
  · exact absurd rfl (h _ rfl)
  · rw [hbound]
    cases unsigned? (2 ^ 63 - 1) text <;> rfl

/-- **What is read as a whole number** is a sign or none, and digits. -/
theorem signed?_eq_some_iff {text : List Char} {n : Int} :
    signed? text = some n ↔ WholeText text n := by
  constructor
  · intro h
    by_cases hminus : ∃ rest, text = '-' :: rest
    · obtain ⟨rest, rfl⟩ := hminus
      obtain ⟨hd, rfl, hle⟩ := signed?_minus.1 h
      exact .mk .minus hd (by simp; omega) (by simp; omega)
    · have hhead : ∀ c ∈ text.head?, c ≠ '-' := by
        rintro c hc rfl
        obtain ⟨rest, rfl⟩ := List.head?_eq_some_iff.1 hc
        exact hminus ⟨rest, rfl⟩
      rw [signed?_of_head hhead] at h
      obtain ⟨m, hm, rfl⟩ := Option.map_eq_some_iff.1 h
      obtain ⟨front, d, rfl, hfront, hd, rfl, hle⟩ := unsigned?_eq_some_iff.1 hm
      rcases hfront with rfl | rfl
      · exact .mk .none hd (by simp) (by simp; omega)
      · exact .mk .plus hd (by simp) (by simp; omega)
  · rintro @⟨sign, digits, negative, hsign, hd, hlow, hhigh⟩
    cases hsign with
    | minus =>
        rw [signedNat_true] at hlow
        have hread : signed? ('-' :: digits) = some (-(ofDigits digits : Int)) :=
          signed?_minus.2 ⟨hd, rfl, by omega⟩
        exact hread
    | none =>
        rw [signedNat_false] at hhigh
        rw [List.nil_append, signed?_of_head fun c hc => (hd.head_not_sign c hc).2,
          Option.map_eq_some_iff]
        exact ⟨_, unsigned?_eq_some_iff.2 ⟨[], _, rfl, .inl rfl, hd, rfl, by omega⟩, rfl⟩
    | plus =>
        rw [signedNat_false] at hhigh
        rw [signed?_of_head (by simp), Option.map_eq_some_iff]
        exact ⟨_, unsigned?_eq_some_iff.2 ⟨['+'], _, rfl, .inr rfl, hd, rfl, by omega⟩, rfl⟩

end Numeral

/-! ### Decimals -/

namespace Binary64

open Numeral

/-- A bound that is kept while the digits are read is kept once at the end. -/
theorem foldl_min_eq (bound : Nat) (digits : List Char) :
    digits.foldl (fun n c => min bound (n * 10 + (digit? c).getD 0)) 0
      = min bound (ofDigits digits) := by
  induction digits using List.reverseRecOn with
  | nil => simp [ofDigits]
  | append_singleton digits c ih =>
      rw [List.foldl_append, ih, ofDigits_concat]
      simp only [List.foldl_cons, List.foldl_nil]
      omega

/-- The power of ten behind a decimal, if that is all that stands there. -/
def power? : List Char → Option Int
  | [] => some 0
  | mark :: rest =>
      if mark = 'e' ∨ mark = 'E' then
        (natural? (cutSign rest).2).map fun n => signedNat (cutSign rest).1 (min (2 ^ 62) n)
      else none

theorem power?_eq_some_iff {text : List Char} {k : Int} :
    power? text = some k ↔ PowerText text k := by
  constructor
  · intro h
    cases text with
    | nil =>
        obtain rfl : 0 = k := by simpa [power?] using h
        exact .none
    | cons mark rest =>
        obtain ⟨sign, negative, digits, rfl, hsign, hcut⟩ := exists_of_cutSign rest
        rw [power?, hcut] at h
        split at h
        · rename_i hmark
          obtain ⟨n, hn, rfl⟩ := Option.map_eq_some_iff.1 h
          obtain ⟨hd, rfl⟩ := natural?_eq_some_iff.1 hn
          exact .some hmark hsign hd
        · cases h
  · rintro (_ | ⟨hmark, hsign, hd⟩)
    · rfl
    · rw [power?, if_pos hmark, cutSign_append hsign hd.head_not_sign, Option.map_eq_some_iff]
      exact ⟨_, natural?_eq_some_iff.2 ⟨hd, rfl⟩, rfl⟩

/-- The digits of a power behind their sign. -/
theorem powerDigits_eq (significand places : Nat) (negative : Bool) (digits : List Char) :
    (if digits.isEmpty || !digits.all isDigit then none
      else some (significand, (bif negative then -1 else 1) * ((digits.foldl
        (fun n c => min (twoTo 62) (n * 10 + (digit? c).getD 0)) 0 : Nat) : Int) - places))
      = ((natural? digits).map fun n => signedNat negative (min (2 ^ 62) n)).map fun k : Int =>
          (significand, k - places) := by
  have hbound : twoTo 62 = 2 ^ 62 := by decide
  have hcond : (digits.isEmpty || !digits.all isDigit)
      = !(!digits.isEmpty && digits.all isDigit) := by
    cases digits.isEmpty <;> rfl
  have hsign : ∀ n : Nat, (bif negative then -1 else 1) * (n : Int) = signedNat negative n := by
    cases negative <;> simp
  rw [foldl_min_eq, hbound, natural?, hcond, hsign]
  cases !digits.isEmpty && digits.all isDigit <;> rfl

/-- The reader of decimals by the digits, the digits behind the point, and the power. -/
theorem decimalParts?_eq (text : List Char) :
    decimalParts? text =
      let (whole, rest) := text.span isDigit
      let (places, rest) := cutPlaces rest
      if whole ++ places = [] then none
      else (power? rest).map fun k => (ofDigits (whole ++ places), k - places.length) := by
  have hempty : ∀ whole places : List Char,
      (whole.isEmpty && places.isEmpty) = true ↔ whole ++ places = [] := by simp
  rw [List.span_eq_takeWhile_dropWhile]
  unfold decimalParts?
  dsimp only
  generalize text.takeWhile isDigit = whole
  generalize text.dropWhile isDigit = rest
  split
  case' h_1 rest =>
    rw [show cutPlaces ('.' :: rest) = (rest.takeWhile isDigit, rest.dropWhile isDigit) from
      List.span_eq_takeWhile_dropWhile ..]
    generalize rest.dropWhile isDigit = tail
  case' h_2 hpoint =>
    rw [cutPlaces_of_ne hpoint]
  all_goals
    dsimp only
    rw [if_congr (hempty _ _) rfl rfl]
    split
    · rfl
    -- nothing behind the places, or a mark with a power behind it
    split
    · simp [power?, Int.negOfNat_eq]
    · rw [power?]
      split
      · split
        · exact powerDigits_eq _ _ true _
        · exact powerDigits_eq _ _ false _
        · rename_i hminus hplus
          rw [cutSign_of_ne hminus hplus]
          exact powerDigits_eq _ _ false _
      · rfl

end Binary64

/-- Neither digits nor a point begin a power. -/
theorem PowerText.head {text : List Char} {k : Int} (h : PowerText text k) :
    ∀ c ∈ text.head?, Numeral.isDigit c = false ∧ c ≠ '.' := by
  cases h with
  | none => simp
  | some hmark =>
      rcases hmark with rfl | rfl <;> simp <;> decide

theorem DecimalText.exists_head {text : List Char} {significand : Nat} {power : Int}
    (h : DecimalText text significand power) :
    ∃ c tail, text = c :: tail ∧ (('0' ≤ c ∧ c ≤ '9') ∨ c = '.') := by
  obtain @⟨whole, point, places, exponent, k, hwhole, hpoint, hne, -⟩ := h
  cases whole with
  | nil =>
      cases hpoint with
      | none => exact absurd rfl hne
      | point => exact ⟨_, _, rfl, .inr rfl⟩
  | cons c whole => exact ⟨_, _, rfl, .inl (hwhole c (by simp))⟩

/-- No sign begins a decimal. -/
theorem DecimalText.head_not_sign {text : List Char} {significand : Nat} {power : Int}
    (h : DecimalText text significand power) : ∀ c ∈ text.head?, c ≠ '+' ∧ c ≠ '-' := by
  obtain ⟨c, tail, rfl, hc⟩ := h.exists_head
  intro d hd
  obtain rfl : c = d := by simpa using hd
  constructor <;> rintro rfl <;> revert hc <;> decide

namespace Binary64

open Numeral

/-- What is read as a decimal. -/
theorem decimalParts?_eq_some_iff {text : List Char} {significand : Nat} {power : Int} :
    decimalParts? text = some (significand, power) ↔ DecimalText text significand power := by
  rw [decimalParts?_eq]
  constructor
  · intro h
    obtain ⟨whole, rest, rfl, hwhole, hspan⟩ := exists_of_span text
    obtain ⟨point, places, rest, rfl, hpoint, hcut⟩ := exists_of_cutPlaces rest
    rw [hspan] at h
    dsimp only at h
    rw [hcut] at h
    dsimp only at h
    split at h
    · cases h
    · rename_i hne
      obtain ⟨k, hk, heq⟩ := Option.map_eq_some_iff.1 h
      obtain ⟨rfl, rfl⟩ := Prod.mk.inj heq
      exact .mk hwhole hpoint hne (power?_eq_some_iff.1 hk)
  · rintro ⟨hwhole, hpoint, hne, hpower⟩
    have hhead := hpower.head
    rw [span_append hwhole (hpoint.head_append fun c hc => (hhead c hc).1)]
    dsimp only
    rw [cutPlaces_append hpoint hhead]
    dsimp only
    rw [if_neg hne, power?_eq_some_iff.2 hpower]
    rfl

/-! ### Floating point numbers -/

/-- The reader by the sign and what stands behind it. -/
theorem ofText?_eq (text : List Char) :
    ofText? text =
      let (negative, body) := cutSign text
      if lowerAscii body = "inf".toList ∨ lowerAscii body = "infinity".toList then
        some (.infinite negative)
      else if lowerAscii body = "nan".toList then some .nan
      else (decimalParts? body).map fun d => ofDecimal negative d.1 d.2 := by
  have hname : ∀ (body : List Char) (s : String),
      String.ofList (lowerAscii body) = s ↔ lowerAscii body = s.toList :=
    fun _ _ => by rw [← String.toList_inj, String.toList_ofList]
  unfold ofText?
  dsimp only
  simp only [hname]
  split
  · rfl
  · rfl
  · rename_i hminus hplus
    rw [cutSign_of_ne hminus hplus]

/-- A name that begins with a letter has no sign in front. -/
theorem head_of_lowerAscii {name : List Char} {letter : Char} {rest : List Char}
    (h : lowerAscii name = letter :: rest) (hletter : letter ≠ '+' ∧ letter ≠ '-') :
    ∀ c ∈ name.head?, c ≠ '+' ∧ c ≠ '-' := by
  intro c hc
  obtain ⟨tail, rfl⟩ := List.head?_eq_some_iff.1 hc
  have hfirst : lowerAsciiChar c = letter := (List.cons.inj h).1
  constructor
  · rintro rfl
    exact hletter.1 hfirst.symm
  · rintro rfl
    exact hletter.2 hfirst.symm

/-- A decimal is no name. -/
theorem lowerAscii_ne_of_decimal {body : List Char} {significand : Nat} {power : Int}
    (h : DecimalText body significand power) {letter : Char} (hletter : 'a' ≤ letter)
    (rest : List Char) : lowerAscii body ≠ letter :: rest := by
  obtain ⟨c, tail, rfl, hc⟩ := h.exists_head
  have hbelow : c.toNat ≤ 57 := by
    rcases hc with ⟨-, hdigit⟩ | rfl
    · exact hdigit
    · decide
  have hsame : lowerAsciiChar c = c := if_neg fun hcapital => by
    have hlow : 65 ≤ c.toNat := hcapital.1
    omega
  intro heq
  have hfirst : lowerAsciiChar c = letter := (List.cons.inj heq).1
  have hlow : 97 ≤ letter.toNat := hletter
  rw [← hfirst, hsame] at hlow
  omega

/-- **What is read as a floating point number** is a sign or none, and a name or a decimal. -/
theorem ofText?_eq_some_iff {text : List Char} {x : Binary64} :
    ofText? text = some x ↔ FloatText text x := by
  constructor
  · intro h
    obtain ⟨sign, negative, body, rfl, hsign, hcut⟩ := exists_of_cutSign text
    rw [ofText?_eq, hcut] at h
    dsimp only at h
    split at h
    · rename_i hname
      obtain rfl := Option.some.inj h
      exact .infinite hsign hname
    · split at h
      · rename_i hname
        obtain rfl := Option.some.inj h
        exact .nan hsign hname
      · obtain ⟨⟨significand, power⟩, hdecimal, rfl⟩ := Option.map_eq_some_iff.1 h
        exact .decimal hsign (decimalParts?_eq_some_iff.1 hdecimal)
  · rintro (@⟨sign, name, negative, hsign, hname⟩ | ⟨hsign, hname⟩ | ⟨hsign, hdecimal⟩)
    · have hhead : ∀ c ∈ name.head?, c ≠ '+' ∧ c ≠ '-' :=
        hname.elim (head_of_lowerAscii · (by decide)) (head_of_lowerAscii · (by decide))
      rw [ofText?_eq, cutSign_append hsign hhead]
      exact if_pos hname
    · rw [ofText?_eq, cutSign_append hsign (head_of_lowerAscii hname (by decide))]
      dsimp only
      rw [if_neg (by rw [hname]; decide), if_pos hname]
    · rw [ofText?_eq, cutSign_append hsign hdecimal.head_not_sign]
      dsimp only
      rw [if_neg, if_neg, decimalParts?_eq_some_iff.2 hdecimal]
      · rfl
      · exact lowerAscii_ne_of_decimal hdecimal (by decide) _
      · rintro (hname | hname)
        · exact lowerAscii_ne_of_decimal hdecimal (by decide) _ hname
        · exact lowerAscii_ne_of_decimal hdecimal (by decide) _ hname

end Binary64

/-! ### Numbers hold no spaces -/

theorem SignText.space_not_mem {sign : List Char} {negative : Bool} (h : SignText sign negative) :
    ' ' ∉ sign := by
  cases h <;> decide

theorem space_not_mem_of_digits {d : List Char} (h : ∀ c ∈ d, '0' ≤ c ∧ c ≤ '9') : ' ' ∉ d :=
  fun hmem => absurd (h ' ' hmem) (by decide)

theorem WholeText.space_not_mem {text : List Char} {n : Int} (h : WholeText text n) :
    ' ' ∉ text := by
  obtain ⟨hsign, hd, -, -⟩ := h
  rw [List.mem_append, not_or]
  exact ⟨hsign.space_not_mem, space_not_mem_of_digits hd.2⟩

theorem PlacesText.space_not_mem {point places : List Char} (h : PlacesText point places) :
    ' ' ∉ point := by
  cases h with
  | none => simp
  | point hplaces => simpa using space_not_mem_of_digits hplaces

theorem PowerText.space_not_mem {text : List Char} {k : Int} (h : PowerText text k) :
    ' ' ∉ text := by
  cases h with
  | none => simp
  | some hmark hsign hd =>
      have hletter : ∀ mark : Char, mark = 'e' ∨ mark = 'E' → ' ' ≠ mark := by
        rintro _ (rfl | rfl) <;> decide
      simp [hletter _ hmark, hsign.space_not_mem, space_not_mem_of_digits hd.2]

theorem space_not_mem_of_lowerAscii {name : List Char} (h : ' ' ∉ lowerAscii name) : ' ' ∉ name :=
  fun hmem => h (List.mem_map.2 ⟨' ', hmem, by decide⟩)

theorem FloatText.space_not_mem {text : List Char} {x : Binary64} (h : FloatText text x) :
    ' ' ∉ text := by
  cases h with
  | infinite hsign hname =>
      rw [List.mem_append, not_or]
      refine ⟨hsign.space_not_mem, space_not_mem_of_lowerAscii ?_⟩
      rcases hname with hname | hname <;> rw [hname] <;> decide
  | nan hsign hname =>
      rw [List.mem_append, not_or]
      exact ⟨hsign.space_not_mem, space_not_mem_of_lowerAscii (by rw [hname]; decide)⟩
  | decimal hsign hdecimal =>
      obtain ⟨hwhole, hpoint, -, hpower⟩ := hdecimal
      simp [hsign.space_not_mem, space_not_mem_of_digits hwhole, hpoint.space_not_mem,
        hpower.space_not_mem]

end AssemblyGate
