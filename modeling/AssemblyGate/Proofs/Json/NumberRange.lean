/-
**Which written numbers are small enough.**

A written number is turned into a floating point number in two roundings.  The leading digits that
make a number of a 64-bit word are kept and rounded, and so is the power of ten that takes the place
of all others; the number is refused when the product of the two is not finite.  This is said here
without the reader, on the digits as they are written.  The exact value, rounded once, is another
matter: near the largest floating point number the two disagree.

Main definitions:

* `AssemblyGate.JsonText.Keeps` — the leading digits that are kept;
* `AssemblyGate.JsonText.Scales` — a word and a power of ten whose rounded product is finite;
* `AssemblyGate.JsonText.Bounded` — **a written number that the reader takes**;
* `AssemblyGate.JsonText.NearestFinite` — a written number whose value is nearest to a finite
  floating point number.

Main results:

* `AssemblyGate.JsonText.value?_isSome_iff` — a literal has a value exactly when it is bounded.
-/
import AssemblyGate.Proofs.Json.Grammar
import AssemblyGate.Proofs.Number.Rounding
import Mathlib.Data.List.Infix

set_option autoImplicit false

namespace AssemblyGate.JsonText

open JsonNumber (Literal)
open JsonNumber.Literal (keepWhole keepFraction exponentValue exponentCap scale? float? wholeValue)
open Numeral (ofDigits ofDigits_concat)

/-! ### The conversion of a number -/

/-- The longest beginning of `digits` that still makes a number of a 64-bit word after `front`. -/
structure Keeps (front digits kept : List Char) : Prop where
  begins : kept <+: digits
  fits : ofDigits (front ++ kept) ≤ maxWord
  longest : kept = digits ∨ ∃ c, kept ++ [c] <+: digits ∧ maxWord < ofDigits (front ++ kept ++ [c])

/-- The power of ten that an exponent denotes; it is counted up to two to the power 31. -/
def power (l : Literal) : Int :=
  match l.exponent with
  | none => 0
  | some (negative, digits) =>
      let n : Int := (min (2 ^ 31) (ofDigits digits) : Nat)
      if negative then -n else n

/-- The rounded word times the rounded power of ten is finite.  A division never fails. -/
def Scales (word : Nat) (power : Int) : Prop :=
  word = 0 ∨ power ≤ 0 ∨
    power ≤ 308 ∧ ((Binary64.ofNat word).mul (Binary64.pow10 power.toNat)).isFinite = true

/-- **A written number that the reader takes**: its leading digits, as many as make a number of a
64-bit word, scaled by the place of the last of them. -/
def Bounded (l : Literal) : Prop :=
  ∃ whole fraction, Keeps [] l.whole whole ∧ Keeps whole (l.fraction.getD []) fraction ∧
    Scales (ofDigits (whole ++ fraction))
      ((l.whole.length : Int) - whole.length - fraction.length + power l)

/-- The exponent of a written number, as it is written. -/
def writtenExponent (l : Literal) : Int :=
  match l.exponent with
  | none => 0
  | some (negative, digits) => if negative then -ofDigits digits else ofDigits digits

/-- A written number whose value, rounded once to the nearest floating point number, is finite: it
stays below the middle between the largest of those and the next power of two. -/
def NearestFinite (l : Literal) : Prop :=
  let digits := ofDigits (l.whole ++ l.fraction.getD [])
  let place := writtenExponent l - (l.fraction.getD []).length
  digits * 10 ^ place.toNat < (2 ^ 1024 - 2 ^ 970) * 10 ^ (-place).toNat

instance : DecidablePred NearestFinite := fun _ => Nat.decLt _ _

/-! ### The digits that are kept -/

/-- More digits make no smaller number. -/
theorem ofDigits_le_append (a b : List Char) : ofDigits a ≤ ofDigits (a ++ b) := by
  induction b using List.reverseRecOn with
  | nil => simp
  | append_singleton b c ih =>
      rw [← List.append_assoc, ofDigits_concat]
      omega

/-- A digit more than what is kept is too much. -/
theorem Keeps.length_le {front digits kept other : List Char} (h : Keeps front digits kept)
    (hbegins : other <+: digits) (hfits : ofDigits (front ++ other) ≤ maxWord) :
    other.length ≤ kept.length := by
  rcases h.longest with rfl | ⟨c, hc, hmore⟩
  · exact hbegins.length_le
  · by_contra hlt
    have hle : (kept ++ [c]).length ≤ other.length := by simp; omega
    obtain ⟨more, rfl⟩ := List.prefix_of_prefix_length_le hc hbegins hle
    have hle' := ofDigits_le_append (front ++ (kept ++ [c])) more
    rw [← List.append_assoc] at hfits hle'
    simp only [List.append_assoc] at *
    omega

/-- There is one longest beginning. -/
theorem Keeps.unique {front digits a b : List Char} (ha : Keeps front digits a)
    (hb : Keeps front digits b) : a = b := by
  have hlen := le_antisymm (hb.length_le ha.begins ha.fits) (ha.length_le hb.begins hb.fits)
  exact (List.prefix_of_prefix_length_le ha.begins hb.begins hlen.le).eq_of_length hlen

/-- What is kept of a number's digits stays kept when a digit is dropped behind. -/
theorem Keeps.concat_of_ne {front digits kept : List Char} (h : Keeps front digits kept)
    (hne : kept ≠ digits) (c : Char) : Keeps front (digits ++ [c]) kept := by
  refine ⟨h.begins.trans (List.prefix_append _ _), h.fits, ?_⟩
  obtain ⟨d, hd, hmore⟩ := h.longest.resolve_left hne
  exact .inr ⟨d, hd.trans (List.prefix_append _ _), hmore⟩

/-- Whether the next digit is kept too is a matter of the bound. -/
theorem Keeps.concat_of_fits {front digits : List Char} {c : Char}
    (h : ofDigits (front ++ digits ++ [c]) ≤ maxWord) :
    Keeps front (digits ++ [c]) (digits ++ [c]) :=
  ⟨List.prefix_rfl, by rwa [← List.append_assoc], .inl rfl⟩

theorem Keeps.concat_of_lt {front digits : List Char} {c : Char}
    (hfits : ofDigits (front ++ digits) ≤ maxWord)
    (h : maxWord < ofDigits (front ++ digits ++ [c])) : Keeps front (digits ++ [c]) digits :=
  ⟨List.prefix_append _ _, hfits, .inr ⟨c, List.prefix_rfl, h⟩⟩

theorem keepWhole_concat (digits : List Char) (c : Char) :
    keepWhole (digits ++ [c]) =
      if (keepWhole digits).2 = 0 ∧
          (keepWhole digits).1 * 10 + (Numeral.digit? c).getD 0 ≤ maxWord then
        ((keepWhole digits).1 * 10 + (Numeral.digit? c).getD 0, 0)
      else ((keepWhole digits).1, (keepWhole digits).2 + 1) := by
  rw [keepWhole, List.foldl_append]
  rfl

/-- The whole digits that the reader keeps are the longest that fit. -/
theorem keeps_keepWhole (digits : List Char) :
    ∃ kept, Keeps [] digits kept ∧
      keepWhole digits = (ofDigits kept, digits.length - kept.length) := by
  -- on the digits from the left: once one has been dropped, all later ones are
  induction digits using List.reverseRecOn with
  | nil => exact ⟨[], ⟨List.prefix_rfl, by decide, .inl rfl⟩, rfl⟩
  | append_singleton digits c ih =>
      obtain ⟨kept, hkeeps, heq⟩ := ih
      rw [keepWhole_concat, heq]
      dsimp only
      have hlen := hkeeps.begins.length_le
      by_cases hall : kept = digits
      · subst hall
        rw [← ofDigits_concat]
        by_cases hfits : ofDigits (kept ++ [c]) ≤ maxWord
        · refine ⟨kept ++ [c], Keeps.concat_of_fits hfits, ?_⟩
          rw [if_pos ⟨by omega, hfits⟩, Nat.sub_self]
        · refine ⟨kept, Keeps.concat_of_lt hkeeps.fits (by simpa using hfits), ?_⟩
          rw [if_neg (by tauto)]
          simp
      · have hlt : kept.length < digits.length :=
          lt_of_le_of_ne hlen fun h => hall (hkeeps.begins.eq_of_length h)
        refine ⟨kept, hkeeps.concat_of_ne hall c, ?_⟩
        rw [if_neg (by omega), List.length_append, List.length_singleton]
        congr 1
        omega

theorem keepFraction_concat (kept : Nat) (digits : List Char) (c : Char) :
    keepFraction kept (digits ++ [c]) =
      let s := keepFraction kept digits
      let longer := s.1 * 10 + (Numeral.digit? c).getD 0
      if !s.2.2 && longer ≤ maxWord then (longer, s.2.1 + 1, false) else (s.1, s.2.1, true) := by
  rw [keepFraction, List.foldl_append]
  rfl

/-- The digits after the point that the reader keeps are the longest that fit. -/
theorem keeps_keepFraction (front digits : List Char) (hfront : ofDigits front ≤ maxWord) :
    ∃ kept, Keeps front digits kept ∧
      keepFraction (ofDigits front) digits
        = (ofDigits (front ++ kept), kept.length, decide (kept ≠ digits)) := by
  induction digits using List.reverseRecOn with
  | nil => exact ⟨[], ⟨List.prefix_rfl, by simpa using hfront, .inl rfl⟩, by simp [keepFraction]⟩
  | append_singleton digits c ih =>
      obtain ⟨kept, hkeeps, heq⟩ := ih
      rw [keepFraction_concat, heq]
      dsimp only
      by_cases hall : kept = digits
      · subst hall
        rw [← ofDigits_concat]
        by_cases hfits : ofDigits (front ++ kept ++ [c]) ≤ maxWord
        · refine ⟨kept ++ [c], Keeps.concat_of_fits hfits, ?_⟩
          simp [hfits, ← List.append_assoc]
        · refine ⟨kept, Keeps.concat_of_lt hkeeps.fits (by simpa using hfits), ?_⟩
          simpa [← List.append_assoc] using hfits
      · refine ⟨kept, hkeeps.concat_of_ne hall c, ?_⟩
        have hne : kept ≠ digits ++ [c] := by
          rintro rfl
          have := hkeeps.begins.length_le
          simp at this
        simp [hall, hne]

/-! ### Scaling -/

/-- Scaling down by few places ends in a finite number. -/
theorem isFinite_scaled {x : Binary64} {k : Nat} {e : Int} (hx : Binary64.Below k x)
    (hk : k ≤ 890) (he : e ≤ 0) (hfew : e.natAbs ≤ 308) :
    (if 0 ≤ e then x.mul (Binary64.pow10 e.natAbs)
      else x.div (Binary64.pow10 e.natAbs)).isFinite = true := by
  split
  · obtain rfl : e = 0 := by omega
    have hone : Binary64.Below 2 (Binary64.pow10 0) := Binary64.ofNat_below (by decide) (by decide)
    exact (Binary64.mul_below hx hone (by omega)).isFinite
  · exact (Binary64.div_below hx (Binary64.isLarge_pow10 hfew) (by omega)).isFinite

/-- Scaling down ends in a finite number. -/
theorem scale?_isSome_of_nonpos (rounds : Nat) {x : Binary64} {k : Nat} {e : Int}
    (hx : Binary64.Below k x) (hk : k + rounds ≤ 890) (he : e ≤ 0) :
    (scale? rounds x e).isSome = true := by
  induction rounds generalizing x k e with
  | zero =>
      unfold scale?
      split
      · rename_i hfew
        simp [isFinite_scaled hx (by omega) he hfew]
      · split
        · rfl
        · rw [if_neg (by omega)]
          rfl
  | succ rounds ih =>
      -- one more division by the largest power, which keeps the bound up to one place
      unfold scale?
      split
      · rename_i hfew
        simp [isFinite_scaled hx (by omega) he hfew]
      · split
        · rfl
        · rw [if_neg (by omega)]
          have hdiv := Binary64.div_below hx (Binary64.isLarge_pow10 (Nat.le_refl 308)) (by omega)
          exact ih hdiv (by omega) (by omega)

/-- A word is scaled to a number exactly when the rounded product is finite. -/
theorem scale?_ofNat_isSome_iff {word : Nat} {e : Int} (hword : word ≤ maxWord) :
    (scale? 3 (Binary64.ofNat word) e).isSome = true ↔ Scales word e := by
  have hlt : word < 2 ^ 64 := lt_of_le_of_lt hword (by decide)
  have hbelow := Binary64.ofNat_below hlt (by decide)
  rcases le_or_gt e 0 with he | he
  · exact iff_of_true (scale?_isSome_of_nonpos 3 hbelow (by decide) he) (.inr (.inl he))
  · -- a positive power is taken in one step, and past the largest one only zero has a value
    unfold scale? Scales
    simp only [if_pos he.le]
    by_cases hfew : e.natAbs ≤ 308
    · have habs : e.natAbs = e.toNat := by omega
      rw [if_pos hfew, habs]
      by_cases hzero : word = 0
      · have hfinite := Binary64.isFinite_mul_of_isZero ((Binary64.isZero_ofNat word).2 hzero)
          (Binary64.isFinite_of_isLarge (Binary64.isLarge_pow10 (k := e.toNat) (by omega)))
        simp [hzero, hzero ▸ hfinite]
      · have he' : e ≤ 308 := by omega
        have hneg : ¬e ≤ 0 := by omega
        simp [hzero, he', hneg]
    · have he' : ¬e ≤ 308 := by omega
      have hneg : ¬e ≤ 0 := by omega
      rw [if_neg hfew]
      by_cases hzero : word = 0
      · simp [hzero, (Binary64.isZero_ofNat 0).2 rfl]
      · have hx : (Binary64.ofNat word).isZero = false := by
          rw [Bool.eq_false_iff, Ne, Binary64.isZero_ofNat]
          exact hzero
        simp [hzero, hx, he', hneg]

/-! ### The value of a literal -/

theorem float?_isSome_iff {negative : Bool} {word : Nat} {e : Int} (hword : word ≤ maxWord) :
    (float? negative word e).isSome = true ↔ Scales word e := by
  rw [float?, Option.isSome_map, scale?_ofNat_isSome_iff hword]

theorem exponentValue_eq (negative : Bool) (digits : List Char) :
    exponentValue negative digits =
      let n : Int := (min (2 ^ 31) (ofDigits digits) : Nat)
      if negative then -n else n := by
  have hfold : digits.foldl
      (fun n c => min exponentCap (n * 10 + (Numeral.digit? c).getD 0)) 0
        = min (2 ^ 31) (ofDigits digits) := by
    induction digits using List.reverseRecOn with
    | nil => simp [ofDigits]
    | append_singleton digits c ih =>
        rw [List.foldl_append, ih, ofDigits_concat]
        simp only [List.foldl_cons, List.foldl_nil, exponentCap, Nat.pow_eq]
        omega
  simp only [exponentValue, hfold]
  cases negative <;> simp [Int.negOfNat_eq]

theorem value?_of_whole {l : Literal} (hfraction : l.fraction = none)
    (hexponent : l.exponent = none) :
    l.value? =
      if (keepWhole l.whole).2 = 0 then some (wholeValue l.negative (keepWhole l.whole).1)
      else float? l.negative (keepWhole l.whole).1 (keepWhole l.whole).2 := by
  simp only [Literal.value?, hfraction, hexponent]

/-- Digits that make a number of a word are all kept. -/
theorem keepWhole_of_le {digits : List Char} (h : ofDigits digits ≤ maxWord) :
    keepWhole digits = (ofDigits digits, 0) := by
  obtain ⟨kept, hkeeps, heq⟩ := keeps_keepWhole digits
  have hlength := hkeeps.length_le List.prefix_rfl (by simpa using h)
  have hall := hkeeps.begins.eq_of_length (le_antisymm hkeeps.begins.length_le hlength)
  rw [heq, hall, Nat.sub_self]

theorem value?_of_parts {l : Literal} (h : l.fraction ≠ none ∨ l.exponent ≠ none) :
    l.value? =
      let kept := keepFraction (keepWhole l.whole).1 (l.fraction.getD [])
      float? l.negative kept.1 (((keepWhole l.whole).2 : Int) - kept.2.1 + power l) := by
  obtain ⟨negative, whole, fraction, exponent⟩ := l
  cases exponent with
  | none =>
      cases fraction with
      | none => simp at h
      | some f => simp only [Literal.value?, power]
  | some x =>
      simp only [Literal.value?, power, exponentValue_eq]

/-- A literal has a value exactly when it is bounded. -/
theorem value?_isSome_iff (l : Literal) : l.value?.isSome = true ↔ Bounded l := by
  obtain ⟨whole, hwhole, heq⟩ := keeps_keepWhole l.whole
  obtain ⟨fraction, hfraction, heq'⟩ :=
    keeps_keepFraction whole (l.fraction.getD []) (by simpa using hwhole.fits)
  have hlen := hwhole.begins.length_le
  -- what is kept is determined, so the grammar and the reader scale the same word
  have hbounded : Bounded l ↔ Scales (ofDigits (whole ++ fraction))
      ((l.whole.length : Int) - whole.length - fraction.length + power l) := by
    constructor
    · rintro ⟨a, b, ha, hb, h⟩
      obtain rfl := ha.unique hwhole
      obtain rfl := hb.unique hfraction
      exact h
    · intro h
      exact ⟨whole, fraction, hwhole, hfraction, h⟩
  rw [hbounded]
  by_cases hparts : l.fraction ≠ none ∨ l.exponent ≠ none
  · rw [value?_of_parts hparts, heq, heq']
    dsimp only
    rw [float?_isSome_iff hfraction.fits, Nat.cast_sub hlen]
  · -- a whole number that fits has a value of its own kind, and its power is not positive
    simp only [not_or, not_not] at hparts
    rw [value?_of_whole hparts.1 hparts.2, heq]
    have hpower : power l = 0 := by simp [power, hparts.2]
    obtain rfl : fraction = [] := by
      simpa [hparts.1] using hfraction.begins
    rw [hpower]
    dsimp only
    split
    · rename_i hall
      exact iff_of_true rfl (.inr (.inl (by simp; omega)))
    · rw [float?_isSome_iff (by simpa using hwhole.fits), Nat.cast_sub hlen]
      simp

end AssemblyGate.JsonText
