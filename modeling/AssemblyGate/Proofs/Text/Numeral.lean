/-
**What counts as a numeral.**

A numeral is one digit or more.  The bounded numerals of headers may have a plus sign in front, and
zeros too; nothing else is read as a number.

Main definitions:

* `AssemblyGate.Numeral.Digits` — one digit or more.

Main results:

* `AssemblyGate.Numeral.natural?_eq_some_iff`, `AssemblyGate.Numeral.word?_eq_some_iff` — the texts
  that are read as a number, and as one of a 64-bit word;
* `AssemblyGate.Numeral.digits_decimal`, `AssemblyGate.Numeral.ofDigits_decimal` — what is written
  for a number is a numeral and denotes it;
* `AssemblyGate.Numeral.natural?_padded` — so is what is written with zeros in front.
-/
import AssemblyGate.Text.Numeral
import Mathlib.Algebra.Group.Nat.Defs
import Mathlib.Data.List.Induction
import Mathlib.Data.List.TakeDrop
import Mathlib.Data.List.TakeWhile

set_option autoImplicit false

namespace AssemblyGate.Numeral

theorem isDigit_iff {c : Char} : isDigit c = true ↔ '0' ≤ c ∧ c ≤ '9' := by
  unfold isDigit digit?
  split <;> simp_all

/-- One digit or more. -/
def Digits (d : List Char) : Prop := d ≠ [] ∧ ∀ c ∈ d, '0' ≤ c ∧ c ≤ '9'

instance : DecidablePred Digits := fun d =>
  @instDecidableAnd _ _ _ (List.decidableBAll _ d)

/-- Digits begin with no sign. -/
theorem Digits.exists_cons {d : List Char} (h : Digits d) :
    ∃ c tail, d = c :: tail ∧ c ≠ '+' ∧ c ≠ '-' := by
  obtain ⟨c, tail, rfl⟩ := List.exists_cons_of_ne_nil h.1
  have hc := h.2 c (by simp)
  refine ⟨c, tail, rfl, ?_, ?_⟩
  · rintro rfl
    exact absurd hc.1 (by decide)
  · rintro rfl
    exact absurd hc.1 (by decide)

theorem natural?_eq_some_iff {text : List Char} {n : Nat} :
    natural? text = some n ↔ Digits text ∧ ofDigits text = n := by
  have hdigits : (!text.isEmpty && text.all isDigit) = true ↔ Digits text := by
    simp [Digits, isDigit_iff]
  unfold natural?
  split
  · rename_i h
    simp [hdigits.1 h]
  · rename_i h
    have hd : ¬Digits text := fun hd => h (hdigits.2 hd)
    simp [hd]

theorem natural?_le_iff {limit n : Nat} {digits : List Char} :
    (match natural? digits with
      | some n => if n ≤ limit then some n else none
      | none => none) = some n ↔ Digits digits ∧ ofDigits digits = n ∧ n ≤ limit := by
  rw [← and_assoc, ← natural?_eq_some_iff]
  cases natural? digits with
  | none => simp
  | some m =>
      dsimp only
      split
      · rename_i hle
        simp only [Option.some.injEq]
        exact ⟨fun hm => ⟨hm, hm ▸ hle⟩, And.left⟩
      · rename_i hle
        simp only [Option.some.injEq, reduceCtorEq, false_iff]
        rintro ⟨rfl, hle'⟩
        exact hle hle'

/-- A bounded numeral is read from digits, with a plus sign in front of them or none. -/
theorem unsigned?_eq_some_iff {limit n : Nat} {text : List Char} :
    unsigned? limit text = some n ↔ ∃ front d, text = front ++ d ∧ (front = [] ∨ front = ['+']) ∧
      Digits d ∧ ofDigits d = n ∧ n ≤ limit := by
  unfold unsigned?
  refine natural?_le_iff.trans ?_
  constructor
  · intro h
    split at h
    · exact ⟨['+'], _, rfl, .inr rfl, h⟩
    · exact ⟨[], _, rfl, .inl rfl, h⟩
  · rintro ⟨front, d, rfl, hfront, hd, h⟩
    obtain ⟨c, tail, rfl, hplus, -⟩ := hd.exists_cons
    rcases hfront with rfl | rfl
    · split
      · rename_i heq
        exact absurd (List.cons.inj heq).1 hplus
      · exact ⟨hd, h⟩
    · exact ⟨hd, h⟩

/-- A word is read from digits, with a plus sign in front of them or none. -/
theorem word?_eq_some_iff {text : List Char} {n : Nat} :
    word? text = some n ↔ ∃ front d, text = front ++ d ∧ (front = [] ∨ front = ['+']) ∧
      Digits d ∧ ofDigits d = n ∧ n ≤ maxWord := unsigned?_eq_some_iff

/-! ### Written numerals -/

/-- The number of digits with one more digit behind them. -/
theorem ofDigits_concat (d : List Char) (c : Char) :
    ofDigits (d ++ [c]) = ofDigits d * 10 + (digit? c).getD 0 := by
  rw [ofDigits, List.foldl_append]
  rfl

theorem digit?_digitChar {n : Nat} (h : n < 10) : digit? (Nat.digitChar n) = some n := by
  have hall : ∀ n < 10, digit? (Nat.digitChar n) = some n := by decide
  exact hall n h

/-- The decimal digits of a number are a numeral. -/
theorem digits_decimal (n : Nat) : Digits (decimal n) := by
  refine ⟨Nat.toDigits_ne_nil, fun c hc => ?_⟩
  have hdigit : c.isDigit = true := Nat.isDigit_of_mem_toDigits (by decide) (by decide) hc
  have hrange : 48 ≤ c.val ∧ c.val ≤ 57 := by simpa [Char.isDigit] using hdigit
  exact hrange

/-- The decimal digits of a number denote it. -/
theorem ofDigits_decimal (n : Nat) : ofDigits (decimal n) = n := by
  induction n using Nat.strongRecOn with
  | ind n ih =>
      unfold decimal at ih ⊢
      rcases Nat.lt_or_ge n 10 with hsmall | hlarge
      · rw [Nat.toDigits_of_lt_base hsmall]
        simp [ofDigits, digit?_digitChar hsmall]
      · rw [Nat.toDigits_of_base_le (by decide) hlarge, ofDigits_concat, ih (n / 10) (by omega),
          digit?_digitChar (Nat.mod_lt n (by decide)), Option.getD_some]
        omega

/-- Only zero has decimal digits that begin with a zero. -/
theorem decimal_of_head {n : Nat} (h : (decimal n).head? = some '0') : decimal n = ['0'] := by
  induction n using Nat.strongRecOn with
  | ind n ih =>
      unfold decimal at ih h ⊢
      rcases Nat.lt_or_ge n 10 with hsmall | hlarge
      · rw [Nat.toDigits_of_lt_base hsmall] at h ⊢
        simpa using h
      · -- the front digits belong to a number that is not zero, and denote it
        have hfront : (Nat.toDigits 10 (n / 10)).head? = some '0' := by
          obtain ⟨c, tail, hc⟩ := List.exists_cons_of_ne_nil
            (Nat.toDigits_ne_nil (b := 10) (n := n / 10))
          rw [Nat.toDigits_of_base_le (by decide) hlarge, hc] at h
          simpa [hc] using h
        have hzero := ofDigits_decimal (n / 10)
        rw [decimal, ih (n / 10) (by omega) hfront] at hzero
        have hnone : ofDigits ['0'] = 0 := by decide
        omega

/-! ### Numerals of a width -/

theorem ofDigits_append (d e : List Char) :
    ofDigits (d ++ e) = ofDigits d * 10 ^ e.length + ofDigits e := by
  induction e using List.reverseRecOn with
  | nil => simp [ofDigits]
  | append_singleton e c ih =>
      rw [← List.append_assoc, ofDigits_concat, ih, ofDigits_concat, List.length_append,
        List.length_singleton, Nat.pow_succ, ← Nat.mul_assoc, Nat.add_mul, Nat.add_assoc]

theorem ofDigits_zeros (n : Nat) : ofDigits (List.replicate n '0') = 0 := by
  induction n with
  | zero => rfl
  | succ n ih =>
      rw [List.replicate_succ', ofDigits_concat, ih]
      rfl

/-- Zeros in front do not count. -/
theorem ofDigits_padded (width n : Nat) : ofDigits (padded width n) = n := by
  have hdecimal : ofDigits (Nat.toDigits 10 n) = n := ofDigits_decimal n
  rw [padded, ofDigits_append, ofDigits_zeros, hdecimal]
  omega

theorem digits_padded (width n : Nat) : Digits (padded width n) := by
  have hdecimal : Digits (Nat.toDigits 10 n) := digits_decimal n
  refine ⟨List.append_ne_nil_of_right_ne_nil _ hdecimal.1, fun c hc => ?_⟩
  rcases List.mem_append.1 hc with hzero | hdigit
  · rw [List.eq_of_mem_replicate hzero]
    decide
  · exact hdecimal.2 c hdigit

theorem natural?_padded (width n : Nat) : natural? (padded width n) = some n :=
  natural?_eq_some_iff.2 ⟨digits_padded width n, ofDigits_padded width n⟩

/-- A numeral that fits has the width. -/
theorem length_padded {width n : Nat} (hwidth : 0 < width) (h : n < 10 ^ width) :
    (padded width n).length = width := by
  have hlength : (Nat.toDigits 10 n).length ≤ width :=
    (Nat.length_toDigits_le_iff (by decide) hwidth).2 h
  rw [padded, List.length_append, List.length_replicate]
  omega

/-- Digits end where no digit follows. -/
theorem span_append {d rest : List Char} (h : ∀ c ∈ d, '0' ≤ c ∧ c ≤ '9')
    (hrest : ∀ c ∈ rest.head?, isDigit c = false) : (d ++ rest).span isDigit = (d, rest) := by
  have hd : ∀ c ∈ d, isDigit c = true := fun c hc => isDigit_iff.2 (h c hc)
  rw [List.span_eq_takeWhile_dropWhile, List.takeWhile_append_of_pos hd,
    List.dropWhile_append_of_pos hd]
  cases rest with
  | nil => simp
  | cons c rest => simp [hrest c rfl]

theorem exists_of_span (text : List Char) : ∃ d rest, text = d ++ rest ∧
    (∀ c ∈ d, '0' ≤ c ∧ c ≤ '9') ∧ text.span isDigit = (d, rest) :=
  ⟨text.takeWhile isDigit, text.dropWhile isDigit, List.takeWhile_append_dropWhile.symm,
    fun _ hc => isDigit_iff.1 (List.mem_takeWhile_imp hc), List.span_eq_takeWhile_dropWhile ..⟩

/-- A numeral does not hold what is not a digit. -/
theorem Digits.not_mem {d : List Char} (h : Digits d) {c : Char} (hc : ¬('0' ≤ c ∧ c ≤ '9')) :
    c ∉ d :=
  fun hmem => hc (h.2 c hmem)

end AssemblyGate.Numeral
