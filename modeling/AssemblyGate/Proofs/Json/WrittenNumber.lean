/-
**The reader of numbers keeps to the grammar.**

The reader takes the longest written number from the front of its input.  So what it takes is a
written number; and a written number is taken whole when what follows it cannot go on with a number,
as is so for everything that may follow a value.

Main definitions:

* `AssemblyGate.JsonText.Ends` — a text that cannot go on with a number.

Main results:

* `AssemblyGate.JsonText.written_of_read?`, `AssemblyGate.JsonText.read?_of_written` — **numbers are
  read as the grammar writes them, and nothing else is read**.
-/
import AssemblyGate.Json.Reader
import AssemblyGate.Proofs.Json.Grammar
import Mathlib.Data.List.TakeWhile

set_option autoImplicit false

namespace AssemblyGate.JsonText

open JsonNumber (Literal)
open JsonNumber.Literal (digits? whole? fraction? exponent? read?)
open Numeral (Digits isDigit isDigit_iff)

/-! ### Digits -/

/-- Whether no digit stands at the front of a text. -/
def NoDigit (rest : List Char) : Prop := ∀ c tail, rest = c :: tail → isDigit c = false

/-- A text that cannot go on with a number. -/
def Ends (rest : List Char) : Prop :=
  ∀ c tail, rest = c :: tail → isDigit c = false ∧ c ≠ '.' ∧ c ≠ 'e' ∧ c ≠ 'E'

theorem Ends.noDigit {rest : List Char} (h : Ends rest) : NoDigit rest :=
  fun c tail hc => (h c tail hc).1

theorem digits_of_digits? {input d rest : List Char} (h : digits? input = some (d, rest)) :
    input = d ++ rest ∧ Digits d := by
  unfold digits? at h
  dsimp only at h
  split at h
  · simp at h
  · rename_i hne
    simp only [Option.some.injEq, Prod.mk.injEq] at h
    obtain ⟨rfl, rfl⟩ := h
    refine ⟨List.takeWhile_append_dropWhile.symm, by simpa using hne, ?_⟩
    intro c hc
    exact isDigit_iff.1 (List.mem_takeWhile_imp hc)

theorem digits?_append {d rest : List Char} (hd : Digits d) (hrest : NoDigit rest) :
    digits? (d ++ rest) = some (d, rest) := by
  have hall : ∀ c ∈ d, isDigit c = true := fun c hc => isDigit_iff.2 (hd.2 c hc)
  have htake : (d ++ rest).takeWhile isDigit = d := by
    rw [List.takeWhile_append_of_pos hall]
    cases rest with
    | nil => simp
    | cons c tail => simp [hrest c tail rfl]
  have hdrop : (d ++ rest).dropWhile isDigit = rest := by
    rw [List.dropWhile_append_of_pos hall]
    cases rest with
    | nil => simp
    | cons c tail => simp [hrest c tail rfl]
  have hne : d.isEmpty = false := by simpa using hd.1
  simp [digits?, htake, hdrop, hne]

/-! ### The parts of a number -/

theorem whole_of_whole? {input d rest : List Char} (h : whole? input = some (d, rest)) :
    input = d ++ rest ∧ Digits d ∧ (d.head? = some '0' → d = ['0']) := by
  unfold whole? at h
  split at h
  · simp at h
  · rename_i hzero
    obtain ⟨rfl, hd⟩ := digits_of_digits? h
    refine ⟨rfl, hd, ?_⟩
    intro hhead
    cases d with
    | nil => simp at hhead
    | cons c tail =>
        obtain rfl : c = '0' := by simpa using hhead
        -- a zero with a character behind it has been refused already, or is alone
        cases tail with
        | nil => rfl
        | cons c more => exact absurd h (hzero c more rest)

theorem whole?_append {d rest : List Char} (hd : Digits d) (hzero : d.head? = some '0' → d = ['0'])
    (hrest : NoDigit rest) : whole? (d ++ rest) = some (d, rest) := by
  unfold whole?
  rw [digits?_append hd hrest]
  split
  · rename_i h
    simp only [Option.some.injEq, Prod.mk.injEq] at h
    obtain ⟨rfl, -⟩ := h
    simp at hzero
  · rfl

theorem fraction_of_fraction? {input rest : List Char} {f : Option (List Char)}
    (h : fraction? input = some (f, rest)) : ∃ s, input = s ++ rest ∧ Fraction f s := by
  unfold fraction? at h
  split at h
  · rename_i tail
    simp only [Option.map_eq_some_iff, Prod.exists, Prod.mk.injEq] at h
    obtain ⟨d, rest', h, rfl, rfl⟩ := h
    obtain ⟨rfl, hd⟩ := digits_of_digits? h
    exact ⟨'.' :: d, rfl, .some hd⟩
  · simp only [Option.some.injEq, Prod.mk.injEq] at h
    obtain ⟨rfl, rfl⟩ := h
    exact ⟨[], rfl, .none⟩

theorem fraction?_append {f : Option (List Char)} {s rest : List Char} (h : Fraction f s)
    (hrest : NoDigit rest) (hpoint : ∀ tail, rest ≠ '.' :: tail) :
    fraction? (s ++ rest) = some (f, rest) := by
  cases h with
  | none =>
      unfold fraction?
      split
      · rename_i tail heq
        exact absurd heq (hpoint tail)
      · rfl
  | some hd => simp [fraction?, digits?_append hd hrest]

theorem exponent_of_signed {e : Char} {tail rest : List Char} {x : Option (Bool × List Char)}
    (he : e = 'e' ∨ e = 'E')
    (h : (match tail with
      | '+' :: tail => (digits? tail).map fun (found, rest) => (some (false, found), rest)
      | '-' :: tail => (digits? tail).map fun (found, rest) => (some (true, found), rest)
      | _ => (digits? tail).map fun (found, rest) => (some (false, found), rest))
        = some (x, rest)) :
    ∃ s, e :: tail = s ++ rest ∧ Exponent x s := by
  split at h
  all_goals
    simp only [Option.map_eq_some_iff, Prod.exists, Prod.mk.injEq] at h
    obtain ⟨d, rest', h, rfl, rfl⟩ := h
    obtain ⟨rfl, hd⟩ := digits_of_digits? h
  · exact ⟨e :: '+' :: d, rfl, .plus he hd⟩
  · exact ⟨e :: '-' :: d, rfl, .minus he hd⟩
  · exact ⟨e :: d, rfl, .bare he hd⟩

theorem exponent_of_exponent? {input rest : List Char} {x : Option (Bool × List Char)}
    (h : exponent? input = some (x, rest)) : ∃ s, input = s ++ rest ∧ Exponent x s := by
  unfold exponent? at h
  dsimp only at h
  split at h
  · exact exponent_of_signed (.inl rfl) h
  · exact exponent_of_signed (.inr rfl) h
  · simp only [Option.some.injEq, Prod.mk.injEq] at h
    obtain ⟨rfl, rfl⟩ := h
    exact ⟨[], rfl, .none⟩

theorem exponent?_append {x : Option (Bool × List Char)} {s rest : List Char} (h : Exponent x s)
    (hrest : Ends rest) : exponent? (s ++ rest) = some (x, rest) := by
  cases h with
  | none =>
      cases rest with
      | nil => rfl
      | cons c tail =>
          obtain ⟨-, -, he, he'⟩ := hrest c tail rfl
          simp [exponent?, he, he']
  | @bare e d he hd =>
      have hread := digits?_append hd hrest.noDigit
      obtain ⟨c, tail, rfl, hplus, hminus⟩ := hd.exists_cons
      rw [List.cons_append] at hread
      rcases he with rfl | rfl <;> simp [exponent?, hplus, hminus, hread]
  | @plus e d he hd =>
      have hread := digits?_append hd hrest.noDigit
      rcases he with rfl | rfl <;> simp [exponent?, hread]
  | @minus e d he hd =>
      have hread := digits?_append hd hrest.noDigit
      rcases he with rfl | rfl <;> simp [exponent?, hread]

/-! ### The whole number -/

/-- The parts of a number after its sign, one after the other. -/
def readParts (negative : Bool) (input : List Char) : Option (Literal × List Char) :=
  (whole? input).bind fun (whole, rest) => (fraction? rest).bind fun (fraction, rest) =>
    (exponent? rest).bind fun (exponent, rest) => some (⟨negative, whole, fraction, exponent⟩, rest)

theorem readParts_eq (negative : Bool) (input : List Char) :
    readParts negative input =
      match whole? input with
      | none => none
      | some (whole, rest) =>
          match fraction? rest with
          | none => none
          | some (fraction, rest) =>
              match exponent? rest with
              | none => none
              | some (exponent, rest) => some (⟨negative, whole, fraction, exponent⟩, rest) := by
  unfold readParts
  rcases whole? input with _ | ⟨whole, rest⟩
  · rfl
  dsimp only [Option.bind_some]
  rcases fraction? rest with _ | ⟨fraction, rest⟩
  · rfl
  dsimp only [Option.bind_some]
  rcases exponent? rest with _ | ⟨exponent, rest⟩ <;> rfl

theorem read?_minus (input : List Char) : read? ('-' :: input) = readParts true input := by
  rw [readParts_eq]
  rfl

theorem read?_bare {input : List Char} (h : ∀ tail, input ≠ '-' :: tail) :
    read? input = readParts false input := by
  rw [readParts_eq]
  unfold read?
  split
  rename_i heq
  split at heq
  · exact absurd rfl (h _)
  simp only [Prod.mk.injEq] at heq
  obtain ⟨rfl, rfl⟩ := heq
  rfl

theorem written_of_readParts {negative : Bool} {input rest : List Char} {l : Literal}
    (h : readParts negative input = some (l, rest)) :
    ∃ s, sign negative ++ input = s ++ rest ∧ Written l s := by
  simp only [readParts, Option.bind_eq_some_iff, Prod.exists, Option.some.injEq,
    Prod.mk.injEq] at h
  obtain ⟨w, r₁, hw, f, r₂, hf, x, r₃, hx, rfl, rfl⟩ := h
  obtain ⟨rfl, hd, hzero⟩ := whole_of_whole? hw
  obtain ⟨sf, rfl, hfraction⟩ := fraction_of_fraction? hf
  obtain ⟨sx, rfl, hexponent⟩ := exponent_of_exponent? hx
  exact ⟨_, by simp, .mk hd hzero hfraction hexponent⟩

/-- What is read is a written number. -/
theorem written_of_read? {input rest : List Char} {l : Literal}
    (h : read? input = some (l, rest)) : ∃ s, input = s ++ rest ∧ Written l s := by
  by_cases hminus : ∃ tail, input = '-' :: tail
  · obtain ⟨tail, rfl⟩ := hminus
    rw [read?_minus] at h
    exact written_of_readParts h
  · rw [read?_bare fun tail hc => hminus ⟨tail, hc⟩] at h
    exact written_of_readParts h

/-- What follows the whole digits of a written number is no digit. -/
theorem noDigit_fraction {f : Option (List Char)} {s rest : List Char} (h : Fraction f s)
    (hrest : NoDigit rest) : NoDigit (s ++ rest) := by
  cases h with
  | none => exact hrest
  | some hd =>
      intro c tail hc
      obtain rfl : '.' = c := (List.cons.inj hc).1
      decide

/-- What follows the fraction of a written number is neither a digit nor a point. -/
theorem plain_exponent {x : Option (Bool × List Char)} {s rest : List Char} (h : Exponent x s)
    (hrest : Ends rest) {c : Char} {tail : List Char} (hc : s ++ rest = c :: tail) :
    isDigit c = false ∧ c ≠ '.' := by
  cases h with
  | none =>
      obtain ⟨hdigit, hpoint, -⟩ := hrest c tail hc
      exact ⟨hdigit, hpoint⟩
  | bare he _ | plus he _ | minus he _ =>
      obtain rfl := (List.cons.inj hc).1
      rcases he with rfl | rfl <;> decide

theorem readParts_of_written {l : Literal} {f x rest : List Char} (hd : Digits l.whole)
    (hzero : l.whole.head? = some '0' → l.whole = ['0']) (hf : Fraction l.fraction f)
    (hx : Exponent l.exponent x) (hrest : Ends rest) :
    readParts l.negative (l.whole ++ (f ++ (x ++ rest))) = some (l, rest) := by
  have hplain : NoDigit (x ++ rest) := fun c tail hc => (plain_exponent hx hrest hc).1
  have hpoint : ∀ tail, x ++ rest ≠ '.' :: tail := fun tail hc =>
    (plain_exponent hx hrest hc).2 rfl
  simp [readParts, whole?_append hd hzero (noDigit_fraction hf hplain),
    fraction?_append hf hplain hpoint, exponent?_append hx hrest]

/-- A written number is read whole. -/
theorem read?_of_written {l : Literal} {s rest : List Char} (h : Written l s) (hrest : Ends rest) :
    read? (s ++ rest) = some (l, rest) := by
  cases h with
  | @mk f x hd hzero hf hx =>
      have hparts := readParts_of_written hd hzero hf hx hrest
      cases hnegative : l.negative with
      | true =>
          rw [hnegative] at hparts
          simpa [sign, read?_minus] using hparts
      | false =>
          rw [hnegative] at hparts
          obtain ⟨c, tail, hwhole, -, hminus⟩ := hd.exists_cons
          have hbare : ∀ more, l.whole ++ (f ++ (x ++ rest)) ≠ '-' :: more := by
            intro more hc
            rw [hwhole] at hc
            exact hminus (List.cons.inj hc).1
          simpa [sign, read?_bare hbare] using hparts

end AssemblyGate.JsonText
