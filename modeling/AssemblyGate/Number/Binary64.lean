/-
**Floating point numbers of 64 bits.**

A number is a sign, a whole mantissa and a power of two, or an infinity, or no number at all.  All
arithmetic is exact arithmetic on whole numbers followed by one rounding,
`AssemblyGate.Binary64.ofRatio`, which takes the nearest representable number and, of two that are
equally near, the one with the even mantissa.

Main definitions:

* `AssemblyGate.Binary64` — the numbers;
* `AssemblyGate.Binary64.ofRatio` — the number nearest to a quotient;
* `AssemblyGate.Binary64.mul`, `AssemblyGate.Binary64.div` — rounded product and quotient;
* `AssemblyGate.Binary64.toWord` — the nearest 64-bit unsigned whole number.
-/

import AssemblyGate.Number.Power

set_option autoImplicit false

namespace AssemblyGate

/-- A floating point number.  The value of `finite negative mantissa exponent` is
`± mantissa * 2 ^ exponent`. -/
inductive Binary64
  | nan
  | infinite (negative : Bool)
  | finite (negative : Bool) (mantissa : Nat) (exponent : Int)
deriving DecidableEq

namespace Binary64

/-- The exponent of the smallest positive number. -/
def minExponent : Int := -1074

/-- The largest exponent of a finite number. -/
def maxExponent : Int := 971

/-- A zero of either sign. -/
def zero (negative : Bool) : Binary64 := .finite negative 0 minExponent

/-! ### Rounding -/

/-- The whole number nearest to `num / den`; of two equally near ones, the even one. -/
def roundDiv (num den : Nat) : Nat :=
  let q := num / den
  let r := num % den
  if 2 * r < den then q
  else if den < 2 * r then q + 1
  else if q % 2 = 0 then q else q + 1

/-- The quotient `num / den / 2 ^ e`, as a numerator and a denominator. -/
def unscale (num den : Nat) (e : Int) : Nat × Nat :=
  if 0 ≤ e then (num, den * twoTo e.toNat) else (num * twoTo (-e).toNat, den)

/-- The exponent at which the positive quotient `num / den` has a mantissa of 53 bits, or the
smallest exponent there is. -/
def exponentOf (num den : Nat) : Int :=
  let e : Int := (Nat.log2 num : Int) - (Nat.log2 den : Int) - 53
  let (n, d) := unscale num den e
  max minExponent (if n / d < twoTo 53 then e else e + 1)

/-- The number nearest to `± num / den`, for a positive `den`. -/
def ofRatio (negative : Bool) (num den : Nat) : Binary64 :=
  if num = 0 then zero negative
  else
    let e := exponentOf num den
    let (n, d) := unscale num den e
    let m := roundDiv n d
    let (m, e) := if m < twoTo 53 then (m, e) else (m / 2, e + 1)
    if maxExponent < e then .infinite negative else .finite negative m e

/-- The number nearest to a whole number. -/
def ofNat (n : Nat) : Binary64 := ofRatio false n 1

/-- The number nearest to an integer. -/
def ofInt (n : Int) : Binary64 := ofRatio (n < 0) n.natAbs 1

/-! ### Arithmetic -/

/-- The same number with the sign changed. -/
def neg : Binary64 → Binary64
  | .nan => .nan
  | .infinite s => .infinite (!s)
  | .finite s m e => .finite (!s) m e

/-- The absolute value of a finite number as a numerator and a denominator. -/
def ratio (mantissa : Nat) (exponent : Int) : Nat × Nat :=
  if 0 ≤ exponent then (mantissa * twoTo exponent.toNat, 1) else (mantissa, twoTo (-exponent).toNat)

/-- The rounded product of two finite numbers; anything else has no product here. -/
def mul : Binary64 → Binary64 → Binary64
  | .finite s m e, .finite t n f =>
      let (a, b) := ratio m e
      let (c, d) := ratio n f
      ofRatio (s != t) (a * c) (b * d)
  | _, _ => .nan

/-- The rounded quotient of two finite numbers, the second of them not zero. -/
def div : Binary64 → Binary64 → Binary64
  | .finite s m e, .finite t n f =>
      let (a, b) := ratio m e
      let (c, d) := ratio n f
      if c = 0 then .nan else ofRatio (s != t) (a * d) (b * c)
  | _, _ => .nan

/-- The number nearest to ten to the power `k`. -/
def pow10 (k : Nat) : Binary64 := ofNat (tenTo k)

/-! ### Tests and conversions -/

/-- Whether the number is an infinity. -/
def isInfinite : Binary64 → Bool
  | .infinite _ => true
  | _ => false

/-- Whether the number is neither an infinity nor missing. -/
def isFinite : Binary64 → Bool
  | .finite .. => true
  | _ => false

/-- Whether the number is a zero of either sign. -/
def isZero : Binary64 → Bool
  | .finite _ m _ => m = 0
  | _ => false

/-- The nearest whole number, a half going away from zero, kept between zero and `limit`.  What is
no number counts as zero. -/
def toBounded (limit : Nat) : Binary64 → Nat
  | .nan => 0
  | .infinite negative => if negative then 0 else limit
  | .finite negative m e =>
      if negative then 0
      else
        let (n, d) := ratio m e
        min limit ((2 * n + d) / (2 * d))

/-- The nearest 64-bit unsigned whole number. -/
def toWord (x : Binary64) : Nat := x.toBounded (twoTo 64 - 1)

example : ofRatio false 1 10 = .finite false 7205759403792794 (-56) := by decide +kernel

example : mul (ofNat 3) (ofRatio false 1 10) = .finite false 5404319552844596 (-54) := by
  decide +kernel

end Binary64

end AssemblyGate
