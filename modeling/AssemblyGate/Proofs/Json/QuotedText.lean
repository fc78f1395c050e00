/-
**The reader of quoted texts keeps to the grammar.**

Reading goes on from any text that has been read already, so both directions are stated for an
arbitrary such beginning.  What the reader takes from the front of its input is the body of a quoted
text and a closing quote; and a body with a closing quote is read whole, whatever follows.

Main results:

* `AssemblyGate.JsonText.gap_skipGap`, `AssemblyGate.JsonText.skipGap_append` — the skipped part is
  a gap, and gaps are skipped;
* `AssemblyGate.JsonText.body_of_readText`, `AssemblyGate.JsonText.readText_of_body` — **quoted
  texts are read as the grammar denotes them, and nothing else is read**.
-/
import Mathlib.Data.List.TakeWhile
import AssemblyGate.Json.Reader
import AssemblyGate.Proofs.Json.Grammar
import AssemblyGate.Proofs.Text.Utf8

set_option autoImplicit false

namespace AssemblyGate.JsonText

open Json (skipGap isGap unit? isHigh isLow pair shortEscape? readText)

/-! ### Gaps -/

theorem isGap_iff {c : Char} : isGap c = true ↔ c = ' ' ∨ c = '\t' ∨ c = '\n' ∨ c = '\r' := by
  simp [isGap, or_assoc]

/-- What is skipped is a gap. -/
theorem gap_skipGap (input : List Char) : ∃ g, Gap g ∧ input = g ++ skipGap input := by
  refine ⟨input.takeWhile isGap, ?_, (List.takeWhile_append_dropWhile).symm⟩
  intro c hc
  exact isGap_iff.1 (List.mem_takeWhile_imp hc)

/-- Whether no gap stands at the front of a text. -/
def Solid (s : List Char) : Prop := ∀ c rest, s = c :: rest → isGap c = false

theorem solid_cons {c : Char} (h : isGap c = false) (rest : List Char) : Solid (c :: rest) := by
  intro d tail hd
  exact (List.cons.inj hd).1 ▸ h

theorem skipGap_of_solid {s : List Char} (h : Solid s) : skipGap s = s := by
  cases s with
  | nil => rfl
  | cons c rest => simp [skipGap, h c rest rfl]

/-- A gap in front of what is no gap is skipped. -/
theorem skipGap_append {g s : List Char} (hg : Gap g) (hs : Solid s) : skipGap (g ++ s) = s := by
  induction g with
  | nil => exact skipGap_of_solid hs
  | cons c g ih =>
      have hc : isGap c = true := isGap_iff.2 (hg c (by simp))
      have htail : Gap g := fun d hd => hg d (by simp [hd])
      rw [List.cons_append, skipGap, List.dropWhile_cons_of_pos hc]
      exact ih htail

/-! ### Escapes -/

theorem hexDigit_of_hexDigit? {c : Char} {n : Nat} (h : Numeral.hexDigit? c = some n) :
    HexDigit c n := by
  unfold Numeral.hexDigit? at h
  split at h
  · rename_i hc
    exact Option.some.inj h ▸ .decimal hc.1 hc.2
  split at h
  · rename_i hc
    exact Option.some.inj h ▸ .lower hc.1 hc.2
  split at h
  · rename_i hc
    exact Option.some.inj h ▸ .upper hc.1 hc.2
  · simp at h

theorem hexDigit?_of_hexDigit {c : Char} {n : Nat} (h : HexDigit c n) :
    Numeral.hexDigit? c = some n := by
  cases h with
  | decimal hlow hhigh => simp [Numeral.hexDigit?, hlow, hhigh]
  | lower hlow hhigh =>
      have hd : ¬('0' ≤ c ∧ c ≤ '9') := fun hc =>
        absurd (Char.le_trans hlow hc.2) (by decide)
      simp only [Numeral.hexDigit?, hd, hlow, hhigh, and_self, if_true, if_false]
  | upper hlow hhigh =>
      have hd : ¬('0' ≤ c ∧ c ≤ '9') := fun hc =>
        absurd (Char.le_trans hlow hc.2) (by decide)
      have hl : ¬('a' ≤ c ∧ c ≤ 'f') := fun hc =>
        absurd (Char.le_trans hc.1 hhigh) (by decide)
      simp only [Numeral.hexDigit?, hd, hl, hlow, hhigh, and_self, if_true, if_false]

theorem codeUnit_of_unit? {a b c d : Char} {u : Nat} (h : unit? a b c d = some u) :
    CodeUnit [a, b, c, d] u := by
  unfold unit? at h
  split at h
  · rename_i ha hb hc hd
    exact Option.some.inj h ▸ .mk (hexDigit_of_hexDigit? ha) (hexDigit_of_hexDigit? hb)
      (hexDigit_of_hexDigit? hc) (hexDigit_of_hexDigit? hd)
  · simp at h

/-- A code unit is four characters that are read as its number. -/
theorem CodeUnit.exists_unit? {w : List Char} {u : Nat} (h : CodeUnit w u) :
    ∃ a b c d, w = [a, b, c, d] ∧ unit? a b c d = some u := by
  cases h with
  | mk ha hb hc hd =>
      refine ⟨_, _, _, _, rfl, ?_⟩
      simp only [unit?, hexDigit?_of_hexDigit ha, hexDigit?_of_hexDigit hb,
        hexDigit?_of_hexDigit hc, hexDigit?_of_hexDigit hd]

theorem short_of_shortEscape? {e c : Char} (h : shortEscape? e = some c) : Short e c := by
  unfold shortEscape? at h
  split at h
  · rename_i he
    obtain rfl := Option.some.inj h
    rcases he with rfl | rfl | rfl
    · exact .quote
    · exact .backslash
    · exact .slash
  split at h
  · rename_i he
    exact Option.some.inj h ▸ he ▸ .backspace
  split at h
  · rename_i he
    exact Option.some.inj h ▸ he ▸ .formFeed
  split at h
  · rename_i he
    exact Option.some.inj h ▸ he ▸ .lineFeed
  split at h
  · rename_i he
    exact Option.some.inj h ▸ he ▸ .carriageReturn
  split at h
  · rename_i he
    exact Option.some.inj h ▸ he ▸ .tab
  · simp at h

theorem shortEscape?_of_short {e c : Char} (h : Short e c) : shortEscape? e = some c ∧ e ≠ 'u' := by
  cases h <;> decide

/-! ### Soundness -/

theorem isHigh_iff {u : Nat} : isHigh u = true ↔ 0xD800 ≤ u ∧ u < 0xDC00 := by
  simp [isHigh]

theorem isLow_iff {u : Nat} : isLow u = true ↔ 0xDC00 ≤ u ∧ u < 0xE000 := by
  simp [isLow]

/-- Four hexadecimal digits denote a number below 65536. -/
theorem CodeUnit.lt {w : List Char} {u : Nat} (h : CodeUnit w u) : u < 0x10000 := by
  have hdigit : ∀ {c : Char} {n : Nat}, HexDigit c n → n < 16 := by
    intro c n hc
    cases hc with
    | decimal hlow hhigh =>
        have h57 : c.toNat ≤ 57 := hhigh
        have h48 : '0'.toNat = 48 := rfl
        omega
    | lower hlow hhigh =>
        have h102 : c.toNat ≤ 102 := hhigh
        have h97 : 'a'.toNat = 97 := rfl
        omega
    | upper hlow hhigh =>
        have h70 : c.toNat ≤ 70 := hhigh
        have h65 : 'A'.toNat = 65 := rfl
        omega
  cases h with
  | mk ha hb hc hd =>
      have := hdigit ha
      have := hdigit hb
      have := hdigit hc
      have := hdigit hd
      omega

/-- The character of a pair of halves has the number that the halves denote. -/
theorem toNat_pair {high low : Nat} (hh : isHigh high = true) (hl : isLow low = true) :
    (pair high low).toNat = 0x10000 + (high - 0xD800) * 0x400 + (low - 0xDC00) := by
  rw [isHigh_iff] at hh
  rw [isLow_iff] at hl
  exact Utf8.toNat_ofNat_of_valid (.inr (by omega))

/-- A character in one of its forms in front of a body. -/
theorem exists_body_cons {done rest input : List Char} {w tail : List Char} {c : Char} {t : String}
    (hw : Symbol w c)
    (ih : ∃ s text, tail = s ++ '"' :: rest ∧ Body s text ∧
      t = String.ofList ((c :: done).reverse ++ text))
    (hinput : input = w ++ tail) :
    ∃ s text, input = s ++ '"' :: rest ∧ Body s text ∧
      t = String.ofList (done.reverse ++ text) := by
  obtain ⟨s, text, rfl, hbody, rfl⟩ := ih
  exact ⟨w ++ s, c :: text, by simp [hinput], .cons hw hbody, by simp⟩

/-- What is read up to the closing quote is the body of a quoted text. -/
theorem body_of_readText {done input : List Char} {t : String} {rest : List Char}
    (h : readText done input = some (t, rest)) :
    ∃ s text, input = s ++ '"' :: rest ∧ Body s text ∧
      t = String.ofList (done.reverse ++ text) := by
  fun_induction readText done input with
  | case2 done tail =>
      -- the closing quote
      simp only [Option.some.injEq, Prod.mk.injEq] at h
      obtain ⟨rfl, rfl⟩ := h
      exact ⟨[], [], rfl, .nil, by simp⟩
  | case7 done a b c d high hu hhigh x y i j k l tail hesc low hv hlow _ _ ih =>
      -- a pair of halves
      obtain ⟨rfl, rfl⟩ := hesc
      have hpair := toNat_pair hhigh hlow
      rw [isHigh_iff] at hhigh
      rw [isLow_iff] at hlow
      exact exists_body_cons (.pair (codeUnit_of_unit? hu) (codeUnit_of_unit? hv) hhigh.1 hhigh.2
        hlow.1 hlow.2 hpair) (ih h) rfl
  | case12 done a b c d tail u hu hhigh hlow _ _ ih =>
      -- a character by its number
      have hunit := codeUnit_of_unit? hu
      have hvalid : (Char.ofNat u).toNat = u := by
        have hlt := hunit.lt
        rw [isHigh_iff] at hhigh
        rw [isLow_iff] at hlow
        exact Utf8.toNat_ofNat_of_valid (by unfold Nat.isValidChar; omega)
      exact exists_body_cons (.unit (hvalid.symm ▸ hunit)) (ih h) rfl
  | case15 done e tail hu c hshort _ _ ih =>
      -- a short escape
      exact exists_body_cons (.short (short_of_shortEscape? hshort)) (ih h) rfl
  | case16 done c tail hquote hcontrol hbackslash ih =>
      -- a character that stands for itself
      exact exists_body_cons (.plain hquote hbackslash (by omega)) (ih h) rfl
  | _ => simp at h

/-! ### Completeness -/

theorem readText_plain {done rest : List Char} {c : Char} (hquote : c ≠ '"') (hbackslash : c ≠ '\\')
    (hcontrol : 0x20 ≤ c.toNat) : readText done (c :: rest) = readText (c :: done) rest := by
  have hc : ¬c.toNat < 0x20 := by omega
  rw [Json.readText.eq_def]
  dsimp only
  rw [if_neg hquote, if_neg hc, if_neg hbackslash]

theorem readText_short {done rest : List Char} {e c : Char} (h : shortEscape? e = some c)
    (hu : e ≠ 'u') : readText done ('\\' :: e :: rest) = readText (c :: done) rest := by
  rw [Json.readText.eq_def]
  simp [hu, h]

theorem readText_unit (done rest : List Char) {a b c d : Char} {u : Nat}
    (h : unit? a b c d = some u) (hhigh : isHigh u = false) (hlow : isLow u = false) :
    readText done ('\\' :: 'u' :: a :: b :: c :: d :: rest)
      = readText (Char.ofNat u :: done) rest := by
  simp [readText, h, hhigh, hlow]

theorem readText_pair (done rest : List Char) {a b c d i j k l : Char} {high low : Nat}
    (h : unit? a b c d = some high) (hhigh : isHigh high = true)
    (h' : unit? i j k l = some low) (hlow : isLow low = true) :
    readText done ('\\' :: 'u' :: a :: b :: c :: d :: '\\' :: 'u' :: i :: j :: k :: l :: rest)
      = readText (pair high low :: done) rest := by
  simp [readText, h, hhigh, h', hlow]

/-- A character in any of its forms is read as itself. -/
theorem readText_symbol {w : List Char} {c : Char} (h : Symbol w c) (done rest : List Char) :
    readText done (w ++ rest) = readText (c :: done) rest := by
  cases h with
  | plain hquote hbackslash hcontrol => exact readText_plain hquote hbackslash hcontrol
  | short hshort =>
      obtain ⟨hread, hu⟩ := shortEscape?_of_short hshort
      exact readText_short hread hu
  | unit hunit =>
      obtain ⟨a, b, i, j, rfl, hu⟩ := hunit.exists_unit?
      -- the number of a character is not that of a half
      have hvalid : c.toNat.isValidChar := c.valid
      have hhigh : isHigh c.toNat = false := by
        rw [Bool.eq_false_iff, Ne, isHigh_iff]
        unfold Nat.isValidChar at hvalid
        omega
      have hlow : isLow c.toNat = false := by
        rw [Bool.eq_false_iff, Ne, isLow_iff]
        unfold Nat.isValidChar at hvalid
        omega
      simpa using readText_unit done rest hu hhigh hlow
  | @pair v w high low _ hv hw hh hh' hl hl' hc =>
      obtain ⟨a, b, i, j, rfl, hu⟩ := hv.exists_unit?
      obtain ⟨a', b', i', j', rfl, hu'⟩ := hw.exists_unit?
      have hhigh := isHigh_iff.2 ⟨hh, hh'⟩
      have hlow := isLow_iff.2 ⟨hl, hl'⟩
      have hpair : pair high low = c := by
        rw [← Char.ofNat_toNat (pair high low), toNat_pair hhigh hlow, ← hc, Char.ofNat_toNat]
      simpa [hpair] using readText_pair done rest hu hhigh hu' hlow

/-- A body with a closing quote is read whole. -/
theorem readText_of_body {s text : List Char} (h : Body s text) (done rest : List Char) :
    readText done (s ++ '"' :: rest) = some (String.ofList (done.reverse ++ text), rest) := by
  induction h generalizing done with
  | nil =>
      rw [Json.readText.eq_def]
      simp
  | cons hw _ ih =>
      rw [List.append_assoc, readText_symbol hw, ih]
      simp

end AssemblyGate.JsonText
