/-
**How far rounding can go.**

A rounded quotient is at most one place of its last digit away from the exact one.  From this alone
follows what the readers of numbers need: a quotient that is not too large is rounded to a finite
number that is not much larger, a division by a number of at least one keeps it so, and a whole
number other than zero is not rounded to zero.

Main definitions:

* `AssemblyGate.Binary64.Below` — a finite number below a power of two;
* `AssemblyGate.Binary64.isLarge` — a finite number of at least one.

Main results:

* `AssemblyGate.Binary64.ofRatio_below` — the bound of a rounded quotient;
* `AssemblyGate.Binary64.div_below` — a division by a large number keeps a bound;
* `AssemblyGate.Binary64.isZero_ofNat` — only zero is rounded to zero.
-/
import AssemblyGate.Number.Binary64
import Mathlib.Tactic.Linarith
import Mathlib.Tactic.Positivity
import Mathlib.Tactic.Ring

set_option autoImplicit false

namespace AssemblyGate.Binary64

/-! ### Rounded quotients -/

theorem div_le_roundDiv (num den : Nat) : num / den ≤ roundDiv num den := by
  unfold roundDiv
  dsimp only
  split
  · exact le_rfl
  · split
    · exact Nat.le_succ _
    · split
      · exact le_rfl
      · exact Nat.le_succ _

theorem roundDiv_le (num den : Nat) : roundDiv num den ≤ num / den + 1 := by
  unfold roundDiv
  dsimp only
  split
  · exact Nat.le_succ _
  · split
    · exact le_rfl
    · split
      · exact Nat.le_succ _
      · exact le_rfl

/-- The exponent of a quotient below a power of two. -/
theorem exponentOf_le {num den k : Nat} (hnum : num ≠ 0) (h : num < den * 2 ^ k) :
    exponentOf num den ≤ max minExponent ((k : Int) - 52) := by
  have hden : den < 2 ^ (den.log2 + 1) := Nat.lt_log2_self
  have hlog : num.log2 < den.log2 + 1 + k := by
    rw [Nat.log2_lt hnum, pow_add]
    exact lt_of_lt_of_le h (Nat.mul_le_mul_right _ hden.le)
  unfold exponentOf
  dsimp only
  split <;> omega

/-- A finite number whose absolute value is below `2 ^ k`. -/
def Below (k : Nat) (x : Binary64) : Prop :=
  ∃ s m e, x = .finite s m e ∧ (ratio m e).1 < (ratio m e).2 * 2 ^ k

theorem Below.isFinite {k : Nat} {x : Binary64} (h : Below k x) : x.isFinite = true := by
  obtain ⟨s, m, e, rfl, -⟩ := h
  rfl

theorem ratio_of_nonneg {m : Nat} {e : Int} (h : 0 ≤ e) : ratio m e = (m * 2 ^ e.toNat, 1) := by
  simp [ratio, h]

theorem ratio_of_neg {m : Nat} {e : Int} (h : e < 0) : ratio m e = (m, 2 ^ (-e).toNat) := by
  simp [ratio, not_le.2 h]

theorem ratio_pos (m : Nat) (e : Int) : 0 < (ratio m e).2 := by
  rcases lt_or_ge e 0 with h | h
  · rw [ratio_of_neg h]
    positivity
  · rw [ratio_of_nonneg h]
    exact Nat.one_pos

/-- Rounding to a place below `2 ^ k` at most doubles the bound of a quotient. -/
theorem ratio_roundDiv_lt {num den k : Nat} {e : Int} (hden : 0 < den) (h : num < den * 2 ^ k)
    (he : e ≤ k) :
    (ratio (roundDiv (unscale num den e).1 (unscale num den e).2) e).1
      < (ratio (roundDiv (unscale num den e).1 (unscale num den e).2) e).2 * 2 ^ (k + 1) := by
  have hround := roundDiv_le (unscale num den e).1 (unscale num den e).2
  generalize roundDiv (unscale num den e).1 (unscale num den e).2 = m at hround
  rw [pow_succ]
  rcases lt_or_ge e 0 with hneg | hpos
  · -- below the point the numerator has been scaled up, and one place is less than the bound
    rw [ratio_of_neg hneg]
    simp only [unscale, if_neg (not_le.2 hneg), Nat.pow_eq] at hround
    have hp : 0 < 2 ^ (-e).toNat := by positivity
    generalize 2 ^ (-e).toNat = p at hround hp
    have hdiv : num * p / den < 2 ^ k * p := by
      rw [Nat.div_lt_iff_lt_mul hden]
      calc num * p < den * 2 ^ k * p := Nat.mul_lt_mul_of_pos_right h hp
        _ = 2 ^ k * p * den := by ring
    nlinarith
  · -- above it the denominator has been, and one place is no more than the bound
    rw [ratio_of_nonneg hpos]
    simp only [unscale, if_pos hpos, Nat.pow_eq] at hround
    have hp : 0 < 2 ^ e.toNat := by positivity
    have hpk : 2 ^ e.toNat ≤ 2 ^ k := Nat.pow_le_pow_right (by decide) (by omega)
    generalize 2 ^ e.toNat = p at hround hp hpk
    have hdiv : num / (den * p) * p < 2 ^ k := by
      have hle : num / (den * p) * (den * p) ≤ num := Nat.div_mul_le_self _ _
      refine lt_of_mul_lt_mul_left (a := den) ?_ (Nat.zero_le den)
      calc den * (num / (den * p) * p) = num / (den * p) * (den * p) := by ring
        _ ≤ num := hle
        _ < den * 2 ^ k := h
    dsimp only
    nlinarith

/-- Half a mantissa at the next exponent is no larger. -/
theorem ratio_half_lt {m k : Nat} {e : Int} (h : (ratio m e).1 < (ratio m e).2 * 2 ^ k) :
    (ratio (m / 2) (e + 1)).1 < (ratio (m / 2) (e + 1)).2 * 2 ^ k := by
  -- from -1 to 0 the power of two changes from the denominator to the numerator
  rcases lt_trichotomy e (-1) with hlt | rfl | hgt
  · have he : (-e).toNat = (-(e + 1)).toNat + 1 := by omega
    rw [ratio_of_neg (by omega), he] at h
    rw [ratio_of_neg (by omega)]
    dsimp only at h ⊢
    rw [Nat.div_lt_iff_lt_mul (by decide)]
    calc m < 2 ^ ((-(e + 1)).toNat + 1) * 2 ^ k := h
      _ = 2 ^ (-(e + 1)).toNat * 2 ^ k * 2 := by ring
  · rw [ratio_of_neg (by decide)] at h
    rw [ratio_of_nonneg (by decide)]
    simp at h ⊢
    omega
  · have he : (e + 1).toNat = e.toNat + 1 := by omega
    rw [ratio_of_nonneg (by omega)] at h
    rw [ratio_of_nonneg (by omega), he, pow_succ]
    dsimp only at h ⊢
    have hle : m / 2 * 2 ≤ m := Nat.div_mul_le_self m 2
    calc m / 2 * (2 ^ e.toNat * 2) = m / 2 * 2 * 2 ^ e.toNat := by ring
      _ ≤ m * 2 ^ e.toNat := Nat.mul_le_mul_right _ hle
      _ < 1 * 2 ^ k := h

/-- The bound of a rounded quotient. -/
theorem ofRatio_below {num den k : Nat} (s : Bool) (hden : 0 < den) (hk : k ≤ 900)
    (h : num < den * 2 ^ k) : Below (k + 1) (ofRatio s num den) := by
  by_cases hnum : num = 0
  · refine ⟨s, 0, minExponent, by simp [ofRatio, hnum, zero], ?_⟩
    have hpos := ratio_pos 0 minExponent
    rw [ratio_of_neg (by decide)] at hpos ⊢
    positivity
  · have he := exponentOf_le hnum h
    have hlt := ratio_roundDiv_lt (e := exponentOf num den) hden h
      (by unfold minExponent at he; omega)
    simp only [ofRatio, if_neg hnum]
    generalize roundDiv (unscale num den (exponentOf num den)).1
      (unscale num den (exponentOf num den)).2 = m at hlt
    generalize exponentOf num den = e at he hlt
    have hmax : ¬maxExponent < e + 1 := by unfold minExponent at he; unfold maxExponent; omega
    -- rounding up to a power of two leaves a mantissa that is halved
    split
    · rw [if_neg (by omega)]
      exact ⟨s, m, e, rfl, hlt⟩
    · exact ⟨s, m / 2, e + 1, rfl, ratio_half_lt hlt⟩

/-! ### Products and quotients -/

/-- The bound of a product is that of its factors, up to the rounding. -/
theorem mul_below {x y : Binary64} {j k : Nat} (hx : Below j x) (hy : Below k y)
    (hjk : j + k ≤ 900) : Below (j + k + 1) (x.mul y) := by
  obtain ⟨s, m, e, rfl, hm⟩ := hx
  obtain ⟨t, n, f, rfl, hn⟩ := hy
  refine ofRatio_below _ (Nat.mul_pos (ratio_pos m e) (ratio_pos n f)) hjk ?_
  calc (ratio m e).1 * (ratio n f).1 < (ratio m e).2 * 2 ^ j * ((ratio n f).2 * 2 ^ k) :=
        Nat.mul_lt_mul'' hm hn
    _ = (ratio m e).2 * (ratio n f).2 * 2 ^ (j + k) := by ring

/-- A zero times a finite number is finite. -/
theorem isFinite_mul_of_isZero {x y : Binary64} (hx : x.isZero = true) (hy : y.isFinite = true) :
    (x.mul y).isFinite = true := by
  cases x with
  | nan => simp [isZero] at hx
  | infinite s => simp [isZero] at hx
  | finite s m e =>
      cases y with
      | nan => simp [isFinite] at hy
      | infinite t => simp [isFinite] at hy
      | finite t n f =>
          obtain rfl : m = 0 := by simpa [isZero] using hx
          have hzero : (ratio 0 e).1 = 0 := by
            unfold ratio
            split <;> simp
          simp only [mul, hzero, Nat.zero_mul, ofRatio, if_true, zero, isFinite]

/-- Whether a number is finite and at least one in absolute value. -/
def isLarge : Binary64 → Bool
  | .finite _ m e => 0 < (ratio m e).1 && (ratio m e).2 ≤ (ratio m e).1
  | _ => false

/-- A division by a large number keeps a bound, up to the rounding. -/
theorem div_below {x y : Binary64} {k : Nat} (hx : Below k x) (hy : y.isLarge = true)
    (hk : k ≤ 900) : Below (k + 1) (x.div y) := by
  obtain ⟨s, m, e, rfl, hlt⟩ := hx
  cases y with
  | nan => simp [isLarge] at hy
  | infinite t => simp [isLarge] at hy
  | finite t n f =>
      simp only [isLarge, Bool.and_eq_true, decide_eq_true_eq] at hy
      have hb := ratio_pos m e
      simp only [div, if_neg (Nat.ne_of_gt hy.1)]
      refine ofRatio_below _ (Nat.mul_pos hb hy.1) hk ?_
      calc (ratio m e).1 * (ratio n f).2 ≤ (ratio m e).1 * (ratio n f).1 :=
            Nat.mul_le_mul_left _ hy.2
        _ < (ratio m e).2 * 2 ^ k * (ratio n f).1 := Nat.mul_lt_mul_of_pos_right hlt hy.1
        _ = (ratio m e).2 * (ratio n f).1 * 2 ^ k := by ring

/-- The powers of ten that are floating point numbers are large. -/
theorem isLarge_pow10 {k : Nat} (h : k ≤ 308) : (pow10 k).isLarge = true := by
  have hall : ∀ k < 309, (pow10 k).isLarge = true := by decide +kernel
  exact hall k (by omega)

theorem isFinite_of_isLarge {x : Binary64} (h : x.isLarge = true) : x.isFinite = true := by
  cases x <;> simp_all [isLarge, isFinite]

/-! ### Whole numbers -/

theorem ofNat_below {n k : Nat} (h : n < 2 ^ k) (hk : k ≤ 900) : Below (k + 1) (ofNat n) :=
  ofRatio_below false Nat.one_pos hk (by rwa [one_mul])

/-- A whole number has at least one place before its point. -/
theorem unscale_div_pos {n : Nat} (hn : n ≠ 0) :
    0 < (unscale n 1 (exponentOf n 1)).1 / (unscale n 1 (exponentOf n 1)).2 := by
  have hlog : n < 1 * 2 ^ (n.log2 + 1) := by
    rw [one_mul]
    exact Nat.lt_log2_self
  have he := exponentOf_le hn hlog
  generalize exponentOf n 1 = e at he
  rcases lt_or_ge e 0 with hneg | hpos
  · simp only [unscale, if_neg (not_le.2 hneg), Nat.pow_eq, Nat.div_one]
    positivity
  · simp only [unscale, if_pos hpos, Nat.pow_eq, one_mul]
    refine Nat.div_pos ?_ (by positivity)
    calc 2 ^ e.toNat ≤ 2 ^ n.log2 := by
          refine Nat.pow_le_pow_right (by decide) ?_
          unfold minExponent at he
          omega
      _ ≤ n := Nat.log2_self_le hn

/-- Only zero is rounded to zero. -/
theorem isZero_ofNat (n : Nat) : (ofNat n).isZero = true ↔ n = 0 := by
  constructor
  · intro h
    by_contra hn
    -- the mantissa is at least one, and it is halved only where it is far larger
    have hm := lt_of_lt_of_le (unscale_div_pos hn) (div_le_roundDiv _ _)
    simp only [ofNat, ofRatio, if_neg hn] at h
    generalize roundDiv (unscale n 1 (exponentOf n 1)).1 (unscale n 1 (exponentOf n 1)).2 = m
      at h hm
    split at h
    · split at h
      · simp [isZero] at h
      · simp [isZero] at h
        omega
    · rename_i hlarge
      split at h
      · simp [isZero] at h
      · simp [isZero] at h
        simp at hlarge
        omega
  · rintro rfl
    rfl

end AssemblyGate.Binary64
