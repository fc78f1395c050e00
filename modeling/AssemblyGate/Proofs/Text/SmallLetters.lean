/-
**Lower case leaves small letters alone.**

The small letters of the table of capitals are no capitals themselves, so a text that is in lower
case already stays as it is.  The table has runs of capitals; that the small letters of one run lie
apart from the capitals of another is checked on the ends of the two runs, and on odd and even where
every other code point is a capital.

Main definitions:

* `AssemblyGate.IsSmall` — a character that lower case leaves as it is.

Main results:

* `AssemblyGate.isSmall_of_mem_lowerCase`, `AssemblyGate.lowerCase_of_isSmall` — lower case makes
  small characters, and changes nothing in them;
* `AssemblyGate.lowerCase_lowerCase` — **what is in lower case stays as it is**.
-/
import AssemblyGate.Proofs.Text.Utf8
import AssemblyGate.Text.LowerCase

set_option autoImplicit false

namespace AssemblyGate

/-! ### The table of capitals -/

/-- A run of capitals: first and last code point, step, and distance to the small letters. -/
abbrev CapitalRun := Nat × Nat × Nat × Int

namespace CapitalRun

/-- A code point is a capital of a run. -/
def Holds (r : CapitalRun) (n : Nat) : Prop := r.1 ≤ n ∧ n ≤ r.2.1 ∧ (n - r.1) % r.2.2.1 = 0

/-- The code point of the small letter of a capital of a run. -/
def smallOf (r : CapitalRun) (n : Nat) : Nat := ((n : Int) + r.2.2.2).toNat

/-- Whether the small letters from `first` to `last` are no capitals of a run: they lie on one side
of it, or between its capitals. -/
def isPassedBy (first last step : Nat) (r : CapitalRun) : Bool :=
  Nat.blt last r.1 || Nat.blt r.2.1 first ||
    (Nat.beq r.2.2.1 2 && (Nat.beq step 2 || Nat.beq first last) && Nat.beq ((first + r.1) % 2) 1)

/-- Whether the small letters of a run are characters above the ASCII capitals, and no capitals. -/
def isProper (r : CapitalRun) : Bool :=
  (r.2.2.1 == 1 || r.2.2.1 == 2) && decide (0 ≤ (r.1 : Int) + r.2.2.2) &&
    Nat.blt 90 (r.smallOf r.1) &&
    (Nat.blt (r.smallOf r.2.1) 0xD800 ||
      (Nat.blt 0xDFFF (r.smallOf r.1) && Nat.blt (r.smallOf r.2.1) 0x110000)) &&
    (Nat.blt (r.smallOf r.2.1) 0x130 || Nat.blt 0x130 (r.smallOf r.1)) &&
    capitalRuns.all (isPassedBy (r.smallOf r.1) (r.smallOf r.2.1) r.2.2.1)

/-- Every run of the table is proper. -/
theorem isProper_of_mem {r : CapitalRun} (h : r ∈ capitalRuns) : r.isProper = true := by
  have htable : capitalRuns.all isProper = true := by decide +kernel
  exact List.all_eq_true.1 htable r h

/-- What a proper run says of the small letter of one of its capitals. -/
theorem smallOf_bounds {r : CapitalRun} {n : Nat} (hr : r.isProper = true) (hn : r.Holds n) :
    90 < r.smallOf n ∧ (r.smallOf n).isValidChar ∧ r.smallOf n ≠ 0x130 := by
  obtain ⟨hfirst, hlast, -⟩ := hn
  simp only [isProper, smallOf, Bool.and_eq_true, Bool.or_eq_true, decide_eq_true_eq,
    Nat.blt_eq] at hr
  unfold smallOf Nat.isValidChar
  omega

/-- The small letter of a capital of a proper run is no capital. -/
theorem not_holds_smallOf {r other : CapitalRun} {n : Nat} (hr : r.isProper = true)
    (hother : other ∈ capitalRuns) (hn : r.Holds n) : ¬other.Holds (r.smallOf n) := by
  rintro ⟨hlow, hhigh, hstep⟩
  obtain ⟨hfirst, hlast, hown⟩ := hn
  simp only [isProper, Bool.and_eq_true, Bool.or_eq_true, decide_eq_true_eq, beq_iff_eq,
    List.all_eq_true] at hr
  obtain ⟨⟨⟨⟨⟨hsteps, hpositive⟩, -⟩, -⟩, -⟩, hall⟩ := hr
  have hpassed := hall other hother
  simp only [isPassedBy, smallOf, Bool.and_eq_true, Bool.or_eq_true, Nat.blt_eq,
    Nat.beq_eq] at hpassed
  unfold smallOf at hlow hhigh hstep
  -- with every other code point a capital, the two differ by an odd number
  rcases hpassed with (hbefore | hafter) | ⟨⟨htwo, hone⟩, hodd⟩
  · omega
  · omega
  · rw [htwo] at hstep
    rcases hone with hown2 | heq
    · rw [hown2] at hown
      omega
    · omega

end CapitalRun

/-! ### Small characters -/

/-- A character that lower case leaves as it is. -/
structure IsSmall (c : Char) : Prop where
  notSigma : c ≠ '\u03A3'
  notDotted : c ≠ '\u0130'
  fixed : lowerChar c = c

theorem IsSmall.lowerIn {c : Char} (h : IsSmall c) (before after : List Char) :
    lowerIn before c after = [c] := by
  rw [AssemblyGate.lowerIn, if_neg h.notSigma, if_neg h.notDotted, h.fixed]

/-- The small letter of an ASCII character is small. -/
theorem isSmall_lowerAsciiChar {c : Char} (h : c.toNat < 0x80) : IsSmall (lowerAsciiChar c) := by
  have hall : ∀ n < 0x80, IsSmall (lowerAsciiChar (Char.ofNat n)) := by
    have hfixed : ∀ n < 0x80, lowerAsciiChar (Char.ofNat n) ≠ '\u03A3' ∧
        lowerAsciiChar (Char.ofNat n) ≠ '\u0130' ∧
        lowerChar (lowerAsciiChar (Char.ofNat n)) = lowerAsciiChar (Char.ofNat n) := by
      decide +kernel
    intro n hn
    obtain ⟨hsigma, hdotted, hlower⟩ := hfixed n hn
    exact ⟨hsigma, hdotted, hlower⟩
  rw [← Char.ofNat_toNat c]
  exact hall c.toNat h

/-- The test by which runs are looked up. -/
theorem find?_capitalRuns {n : Nat} {r : CapitalRun}
    (h : capitalRuns.find? (fun r => r.1 ≤ n && n ≤ r.2.1 && (n - r.1) % r.2.2.1 == 0) = some r) :
    r ∈ capitalRuns ∧ r.Holds n := by
  refine ⟨List.mem_of_find?_eq_some h, ?_⟩
  simpa [CapitalRun.Holds, and_assoc] using List.find?_some h

/-- A character above ASCII that is no capital of a run stays as it is. -/
theorem lowerChar_of_not_holds {c : Char} (hascii : 0x80 ≤ c.toNat)
    (h : ∀ r ∈ capitalRuns, ¬CapitalRun.Holds r c.toNat) : lowerChar c = c := by
  unfold lowerChar
  dsimp only
  rw [if_neg (by omega)]
  split
  · rename_i r hr
    obtain ⟨hmem, hholds⟩ := find?_capitalRuns hr
    exact absurd hholds (h r hmem)
  · rfl

/-- The small letter of a capital of the table is small. -/
theorem isSmall_ofNat_smallOf {r : CapitalRun} {n : Nat} (hmem : r ∈ capitalRuns)
    (hholds : r.Holds n) : IsSmall (Char.ofNat (r.smallOf n)) := by
  have hproper := CapitalRun.isProper_of_mem hmem
  obtain ⟨hlow, hvalid, hdotted⟩ := CapitalRun.smallOf_bounds hproper hholds
  have hcode : (Char.ofNat (r.smallOf n)).toNat = r.smallOf n := Utf8.toNat_ofNat_of_valid hvalid
  have hcapital :
      ∀ other ∈ capitalRuns, ¬CapitalRun.Holds other (Char.ofNat (r.smallOf n)).toNat := by
    intro other hother
    rw [hcode]
    exact CapitalRun.not_holds_smallOf hproper hother hholds
  refine ⟨fun h => ?_, fun h => ?_, ?_⟩
  · -- the capital sigma is in a run itself
    have hsigma : CapitalRun.Holds (0x3A3, 0x3AB, 1, 32) '\u03A3'.toNat := by
      simp [CapitalRun.Holds]
    exact hcapital _ (by decide) (h ▸ hsigma)
  · rw [h] at hcode
    exact hdotted hcode.symm
  · by_cases hascii : (Char.ofNat (r.smallOf n)).toNat < 0x80
    · have hletter : ¬('A' ≤ Char.ofNat (r.smallOf n) ∧ Char.ofNat (r.smallOf n) ≤ 'Z') := by
        rintro ⟨-, hle⟩
        have hle' : (Char.ofNat (r.smallOf n)).toNat ≤ 90 := hle
        omega
      simp only [lowerChar, if_pos hascii, lowerAsciiChar, if_neg hletter]
    · exact lowerChar_of_not_holds (by omega) hcapital

theorem isSmall_lowerChar {c : Char} (hsigma : c ≠ '\u03A3') (hdotted : c ≠ '\u0130') :
    IsSmall (lowerChar c) := by
  by_cases hascii : c.toNat < 0x80
  · have heq : lowerChar c = lowerAsciiChar c := by simp [lowerChar, hascii]
    exact heq ▸ isSmall_lowerAsciiChar hascii
  cases hfind : capitalRuns.find?
      (fun r => r.1 ≤ c.toNat && c.toNat ≤ r.2.1 && (c.toNat - r.1) % r.2.2.1 == 0) with
  | none =>
      have heq : lowerChar c = c := by simp only [lowerChar, if_neg hascii, hfind]
      rw [heq]
      exact ⟨hsigma, hdotted, heq⟩
  | some r =>
      have heq : lowerChar c = Char.ofNat (CapitalRun.smallOf r c.toNat) := by
        simp only [lowerChar, if_neg hascii, hfind, CapitalRun.smallOf]
      obtain ⟨hmem, hholds⟩ := find?_capitalRuns hfind
      exact heq ▸ isSmall_ofNat_smallOf hmem hholds

/-- Every character of a lower-case form is small. -/
theorem isSmall_of_mem_lowerIn {before after : List Char} {c d : Char}
    (h : d ∈ lowerIn before c after) : IsSmall d := by
  unfold lowerIn at h
  split at h
  · have hd : d = '\u03C2' ∨ d = '\u03C3' := by
      split at h <;> simp_all
    rcases hd with rfl | rfl <;> exact ⟨by decide, by decide, by decide +kernel⟩
  split at h
  · have hd : d = 'i' ∨ d = '\u0307' := by simpa using h
    rcases hd with rfl | rfl <;> exact ⟨by decide, by decide, by decide +kernel⟩
  · rename_i hsigma hdotted
    obtain rfl := List.mem_singleton.1 h
    exact isSmall_lowerChar hsigma hdotted

/-! ### Texts -/

/-- What has been written stays in front. -/
theorem lowerFrom_eq (before done text : List Char) :
    lowerFrom before done text = done.reverse ++ lowerFrom before [] text := by
  induction text generalizing before done with
  | nil => simp [lowerFrom]
  | cons c text ih =>
      rw [lowerFrom, lowerFrom, ih, ih _ ((lowerIn before c text).reverse ++ [])]
      simp

theorem lowerFrom_cons (before : List Char) (c : Char) (text : List Char) :
    lowerFrom before [] (c :: text) = lowerIn before c text ++ lowerFrom (c :: before) [] text := by
  rw [lowerFrom, lowerFrom_eq]
  simp

theorem isSmall_of_mem_lowerFrom {before text : List Char} {d : Char}
    (h : d ∈ lowerFrom before [] text) : IsSmall d := by
  induction text generalizing before with
  | nil => simp [lowerFrom] at h
  | cons c text ih =>
      rw [lowerFrom_cons, List.mem_append] at h
      rcases h with h | h
      · exact isSmall_of_mem_lowerIn h
      · exact ih h

theorem mem_lowerFrom_of_isSmall {before text : List Char} {c : Char} (hc : IsSmall c)
    (h : c ∈ text) : c ∈ lowerFrom before [] text := by
  induction text generalizing before with
  | nil => simp at h
  | cons d text ih =>
      rw [lowerFrom_cons, List.mem_append]
      rcases List.mem_cons.1 h with rfl | h
      · exact .inl (by simp [hc.lowerIn])
      · exact .inr (ih h)

theorem lowerFrom_of_isSmall {text : List Char} (h : ∀ c ∈ text, IsSmall c) (before : List Char) :
    lowerFrom before [] text = text := by
  induction text generalizing before with
  | nil => rfl
  | cons c text ih =>
      rw [lowerFrom_cons, (h c (by simp)).lowerIn, ih fun d hd => h d (by simp [hd])]
      rfl

theorem isSmall_of_mem_lowerCase {text : List Char} {c : Char} (h : c ∈ lowerCase text) :
    IsSmall c := isSmall_of_mem_lowerFrom h

/-- A small character of a text is in its lower-case form. -/
theorem mem_lowerCase_of_isSmall {text : List Char} {c : Char} (hc : IsSmall c) (h : c ∈ text) :
    c ∈ lowerCase text := mem_lowerFrom_of_isSmall hc h

theorem lowerCase_of_isSmall {text : List Char} (h : ∀ c ∈ text, IsSmall c) :
    lowerCase text = text := lowerFrom_of_isSmall h []

/-- **What is in lower case stays as it is.** -/
theorem lowerCase_lowerCase (text : List Char) : lowerCase (lowerCase text) = lowerCase text :=
  lowerCase_of_isSmall fun _ => isSmall_of_mem_lowerCase

end AssemblyGate
