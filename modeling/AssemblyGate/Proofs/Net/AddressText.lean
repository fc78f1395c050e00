/-
**Which texts denote an address.**

The texts of addresses are said here as a relation between a text and what it denotes, and without
a reader: numbers without needless zeros with points between them; groups of hexadecimal digits with
colons between them, an IPv4 address in place of the last two groups, and one double colon for what
is missing; brackets, and a scope behind a percent sign.

The reader takes as much as it can at each place.  It finds what the relation says because of what
stands behind a phrase: digits end where no digit follows, a group of digits that a colon or a
bracket follows is no beginning of an IPv4 address, and a series of groups ends before a double
colon, since no group begins with one.

Main definitions:

* `AssemblyGate.Ipv4.Denotes`, `AssemblyGate.Ipv6.Denotes` — the texts of addresses;
* `AssemblyGate.Ipv6.Series` — groups with colons between them;
* `AssemblyGate.SocketAddress.Names` — a text in front of a port, and the socket address of both.

Main results:

* `AssemblyGate.Ipv4.read?_eq_some_iff` — an IPv4 address at the front of a text;
* `AssemblyGate.Ipv6.denotes_of_read?`, `AssemblyGate.Ipv6.read?_of_denotes` — an IPv6 address;
* `AssemblyGate.SocketAddress.parse?_glued_iff` — **a host and a port are read as the socket address
  that they name**, and nothing else is.
-/
import AssemblyGate.Net.AddressReader
import AssemblyGate.Proofs.Text.Cutting

set_option autoImplicit false

namespace AssemblyGate

open Numeral (Digits decimal isDigit isDigit_iff ofDigits)

/-! ### Reading as long as a test holds -/

/-- A text that does not go on with what a test holds of. -/
def Stops (p : Char → Bool) (rest : List Char) : Prop := ∀ c ∈ rest.head?, p c = false

@[simp] theorem stops_nil (p : Char → Bool) : Stops p [] := by simp [Stops]

@[simp] theorem stops_cons {p : Char → Bool} {c : Char} {rest : List Char} :
    Stops p (c :: rest) ↔ p c = false := by simp [Stops]

/-- What is read as long as a test holds is what stands in front of the first character of which it
does not hold. -/
theorem read_while_iff {α : Type} (p : Char → Bool) (bad : List Char → Prop) [DecidablePred bad]
    (f : List Char → α) {input rest : List Char} {v : α} :
    (if bad (input.takeWhile p) then none
      else some (f (input.takeWhile p), input.dropWhile p)) = some (v, rest) ↔
      ∃ d, input = d ++ rest ∧ Stops p rest ∧ (∀ c ∈ d, p c = true) ∧ ¬bad d ∧ f d = v := by
  constructor
  · intro h
    obtain ⟨hgood, hread⟩ := Option.ite_none_left_eq_some.1 h
    obtain ⟨rfl, rfl⟩ := Prod.mk.inj (Option.some.inj hread)
    refine ⟨_, List.takeWhile_append_dropWhile.symm, fun c hc => ?_,
      fun c hc => List.mem_takeWhile_imp hc, hgood, rfl⟩
    have hstop := List.head?_dropWhile_not p input
    rw [Option.mem_def.1 hc] at hstop
    simpa using hstop
  · rintro ⟨d, rfl, hrest, hd, hgood, rfl⟩
    have hfront : (d ++ rest).takeWhile p = d ∧ (d ++ rest).dropWhile p = rest := by
      rw [List.takeWhile_append_of_pos hd, List.dropWhile_append_of_pos hd]
      cases rest with
      | nil => simp
      | cons c rest => simp [stops_cons.1 hrest]
    rw [hfront.1, hfront.2, if_neg hgood]

theorem after?_eq_some_iff {c : Char} {input rest : List Char} :
    after? c input = some rest ↔ input = c :: rest := by
  cases input with
  | nil => simp [after?]
  | cons x input => simp [after?]

/-! ### Decimal numbers -/

theorem decimal?_eq_some_iff {limit n : Nat} {input rest : List Char} :
    decimal? limit input = some (n, rest) ↔ ∃ d, input = d ++ rest ∧ Stops isDigit rest ∧
      Digits d ∧ ofDigits d = n ∧ n ≤ limit := by
  refine (read_while_iff isDigit (fun d => (d.isEmpty || decide (limit < ofDigits d)) = true)
    ofDigits).trans ?_
  simp only [Digits, isDigit_iff, Bool.or_eq_true, List.isEmpty_iff, decide_eq_true_eq, not_or,
    Nat.not_lt]
  constructor
  · rintro ⟨d, hinput, hrest, hd, ⟨hne, hlimit⟩, rfl⟩
    exact ⟨d, hinput, hrest, ⟨hne, hd⟩, rfl, hlimit⟩
  · rintro ⟨d, hinput, hrest, ⟨hne, hd⟩, rfl, hlimit⟩
    exact ⟨d, hinput, hrest, hd, ⟨hne, hlimit⟩, rfl⟩

/-- Digits that begin with no zero denote as much as their number says. -/
theorem Numeral.pow_le_ofDigits {c : Char} {tail : List Char} (hc : '0' ≤ c ∧ c ≤ '9')
    (hzero : c ≠ '0') : 10 ^ tail.length ≤ ofDigits (c :: tail) := by
  have hvalue : 1 ≤ ofDigits [c] := by
    have hlow : '0'.toNat < c.toNat :=
      Nat.lt_of_le_of_ne hc.1 fun h => hzero (Char.toNat_inj.1 h.symm)
    simp only [ofDigits, digit?, if_pos hc, List.foldl_cons, List.foldl_nil, Option.getD_some]
    omega
  rw [← List.singleton_append, ofDigits_append]
  exact Nat.le_add_right_of_le (Nat.le_mul_of_pos_left _ hvalue)

/-! ### IPv4 addresses -/

namespace Ipv4

/-- One of the four numbers, without needless zeros. -/
structure IsPart (d : List Char) (n : UInt8) : Prop where
  digits : Digits d
  noZero : d.head? = some '0' → d = ['0']
  value : ofDigits d = n.toNat

theorem IsPart.length_le {d : List Char} {n : UInt8} (h : IsPart d n) : d.length ≤ 3 := by
  obtain ⟨c, tail, rfl⟩ := List.exists_cons_of_ne_nil h.digits.1
  by_cases hzero : c = '0'
  · rw [h.noZero (by rw [hzero]; rfl)]
    decide
  · refine Nat.succ_le_of_lt (Nat.lt_of_not_le fun hlong => ?_)
    have hpow : 10 ^ tail.length ≤ ofDigits (c :: tail) :=
      Numeral.pow_le_ofDigits (h.digits.2 c (by simp)) hzero
    have hlarge : 10 ^ 3 ≤ 10 ^ tail.length := Nat.pow_le_pow_right (by decide) hlong
    have hsmall := n.toNat_lt
    rw [h.value] at hpow
    omega

theorem part?_eq_some_iff {input rest : List Char} {n : UInt8} :
    part? input = some (n, rest) ↔
      ∃ d, input = d ++ rest ∧ Stops isDigit rest ∧ IsPart d n := by
  refine (read_while_iff isDigit (fun d => (d.isEmpty || decide (3 < d.length)
    || (decide (1 < d.length) && decide (d.head? = some '0')) || decide (255 < ofDigits d)) = true)
    fun d => UInt8.ofNat (ofDigits d)).trans ?_
  refine exists_congr fun d => and_congr_right fun _ => and_congr_right fun _ => ?_
  simp only [isDigit_iff, Bool.or_eq_true, Bool.and_eq_true, List.isEmpty_iff, decide_eq_true_eq,
    not_or, not_and, Nat.not_lt]
  constructor
  · rintro ⟨hd, ⟨⟨⟨hne, -⟩, hzero⟩, hlarge⟩, rfl⟩
    refine ⟨⟨hne, hd⟩, fun hhead => ?_, ?_⟩
    · obtain ⟨tail, rfl⟩ := List.head?_eq_some_iff.1 hhead
      cases tail with
      | nil => rfl
      | cons x tail => exact absurd hhead (hzero (by simp))
    · rw [UInt8.toNat_ofNat', Nat.mod_eq_of_lt (Nat.lt_succ_of_le hlarge)]
  · intro h
    have hlarge : ofDigits d ≤ 255 := by
      rw [h.value]
      exact Nat.le_of_lt_succ n.toNat_lt
    refine ⟨h.digits.2, ⟨⟨⟨h.digits.1, h.length_le⟩, fun hlong hhead => ?_⟩, hlarge⟩, ?_⟩
    · rw [h.noZero hhead] at hlong
      exact absurd hlong (by decide)
    · rw [h.value, UInt8.ofNat_toNat]

theorem nextPart?_eq_some_iff {input rest : List Char} {n : UInt8} :
    nextPart? input = some (n, rest) ↔
      ∃ d, input = '.' :: d ++ rest ∧ Stops isDigit rest ∧ IsPart d n := by
  simp only [nextPart?, Option.bind_eq_some_iff, after?_eq_some_iff, part?_eq_some_iff]
  constructor
  · rintro ⟨start, rfl, d, rfl, hrest, hd⟩
    exact ⟨d, rfl, hrest, hd⟩
  · rintro ⟨d, rfl, hrest, hd⟩
    exact ⟨d ++ rest, rfl, d, rfl, hrest, hd⟩

/-- A text that denotes an address: four numbers with points between them. -/
inductive Denotes : List Char → Ipv4 → Prop
  | mk {s t u v : List Char} {a b c d : UInt8} : IsPart s a → IsPart t b → IsPart u c →
      IsPart v d → Denotes (s ++ '.' :: t ++ '.' :: u ++ '.' :: v) ⟨a, b, c, d⟩

/-- **An IPv4 address at the front of a text** is one that no further digit follows. -/
theorem read?_eq_some_iff {input rest : List Char} {ip : Ipv4} :
    read? input = some (ip, rest) ↔
      ∃ t, input = t ++ rest ∧ Stops isDigit rest ∧ Denotes t ip := by
  constructor
  · intro h
    unfold read? at h
    split at h
    · simp at h
    rename_i a after_a ha
    split at h
    · simp at h
    rename_i b after_b hb
    split at h
    · simp at h
    rename_i c after_c hc
    split at h
    · simp at h
    rename_i d after_d hd
    obtain ⟨rfl, rfl⟩ := Prod.mk.inj (Option.some.inj h)
    obtain ⟨s, rfl, -, hs⟩ := part?_eq_some_iff.1 ha
    obtain ⟨t, rfl, -, ht⟩ := nextPart?_eq_some_iff.1 hb
    obtain ⟨u, rfl, -, hu⟩ := nextPart?_eq_some_iff.1 hc
    obtain ⟨v, rfl, hrest, hv⟩ := nextPart?_eq_some_iff.1 hd
    exact ⟨_, by simp, hrest, .mk hs ht hu hv⟩
  · rintro ⟨-, rfl, hrest, @⟨s, t, u, v, a, b, c, d, hs, ht, hu, hv⟩⟩
    have hpoint (more : List Char) : Stops isDigit ('.' :: more) := stops_cons.2 (by decide)
    have ha : part? (s ++ '.' :: t ++ '.' :: u ++ '.' :: v ++ rest) =
        some (a, '.' :: t ++ '.' :: u ++ '.' :: v ++ rest) :=
      part?_eq_some_iff.2 ⟨s, by simp, hpoint _, hs⟩
    have hb : nextPart? ('.' :: t ++ '.' :: u ++ '.' :: v ++ rest) =
        some (b, '.' :: u ++ '.' :: v ++ rest) :=
      nextPart?_eq_some_iff.2 ⟨t, by simp, hpoint _, ht⟩
    have hc : nextPart? ('.' :: u ++ '.' :: v ++ rest) = some (c, '.' :: v ++ rest) :=
      nextPart?_eq_some_iff.2 ⟨u, by simp, hpoint _, hu⟩
    have hd : nextPart? ('.' :: v ++ rest) = some (d, rest) :=
      nextPart?_eq_some_iff.2 ⟨v, rfl, hrest, hv⟩
    simp only [read?, ha, hb, hc, hd]

theorem Denotes.exists_point {t : List Char} {ip : Ipv4} (h : Denotes t ip) :
    ∃ d more, t = d ++ '.' :: more ∧ Digits d := by
  cases h with
  | @mk s t u v _ _ _ _ hs ht hu hv =>
      exact ⟨s, t ++ '.' :: u ++ '.' :: v, by simp, hs.digits⟩

end Ipv4

/-! ### Groups of IPv6 addresses -/

namespace Ipv6

/-- The number that hexadecimal digits denote. -/
def ofHexDigits (digits : List Char) : Nat :=
  digits.foldl (fun n c => n * 16 + (Numeral.hexDigit? c).getD 0) 0

/-- A hexadecimal digit, in either case. -/
def IsHex (c : Char) : Prop :=
  ('0' ≤ c ∧ c ≤ '9') ∨ ('a' ≤ c ∧ c ≤ 'f') ∨ ('A' ≤ c ∧ c ≤ 'F')

theorem isHexDigit_iff {c : Char} : isHexDigit c = true ↔ IsHex c := by
  unfold isHexDigit Numeral.hexDigit? IsHex
  split
  · simp_all
  split
  · simp_all
  split <;> simp_all

/-- One group: one to four hexadecimal digits. -/
structure IsGroup (w : List Char) (g : UInt16) : Prop where
  ne_nil : w ≠ []
  length_le : w.length ≤ 4
  hex : ∀ c ∈ w, IsHex c
  value : ofHexDigits w = g.toNat

theorem hexDigit_lt (c : Char) : (Numeral.hexDigit? c).getD 0 < 16 := by
  have hnine : '9'.toNat = 57 := rfl
  have hsmall : 'f'.toNat = 102 := rfl
  have hlarge : 'F'.toNat = 70 := rfl
  unfold Numeral.hexDigit?
  split
  · rename_i h
    have hle : c.toNat ≤ '9'.toNat := h.2
    simp only [Option.getD_some, Char.reduceToNat]
    omega
  split
  · rename_i h
    have hle : c.toNat ≤ 'f'.toNat := h.2
    simp only [Option.getD_some, Char.reduceToNat]
    omega
  split
  · rename_i h
    have hle : c.toNat ≤ 'F'.toNat := h.2
    simp only [Option.getD_some, Char.reduceToNat]
    omega
  · decide

theorem ofHexDigits_concat (w : List Char) (c : Char) :
    ofHexDigits (w ++ [c]) = ofHexDigits w * 16 + (Numeral.hexDigit? c).getD 0 := by
  rw [ofHexDigits, List.foldl_append]
  rfl

theorem ofHexDigits_lt (w : List Char) : ofHexDigits w < 16 ^ w.length := by
  induction w using List.reverseRecOn with
  | nil => decide
  | append_singleton w c ih =>
      have hc := hexDigit_lt c
      rw [ofHexDigits_concat, List.length_append, List.length_singleton, Nat.pow_succ]
      omega

theorem group?_eq_some_iff {input rest : List Char} {g : UInt16} :
    group? input = some (g, rest) ↔
      ∃ w, input = w ++ rest ∧ Stops isHexDigit rest ∧ IsGroup w g := by
  refine (read_while_iff isHexDigit (fun w => (w.isEmpty || decide (4 < w.length)) = true)
    fun w => UInt16.ofNat (ofHexDigits w)).trans ?_
  refine exists_congr fun w => and_congr_right fun _ => and_congr_right fun _ => ?_
  simp only [isHexDigit_iff, Bool.or_eq_true, List.isEmpty_iff, decide_eq_true_eq, not_or,
    Nat.not_lt]
  constructor
  · rintro ⟨hw, ⟨hne, hlength⟩, rfl⟩
    have hvalue : ofHexDigits w < 2 ^ 16 :=
      Nat.lt_of_lt_of_le (ofHexDigits_lt w) (Nat.pow_le_pow_right (n := 16) (by decide) hlength)
    refine ⟨hne, hlength, hw, ?_⟩
    rw [UInt16.toNat_ofNat', Nat.mod_eq_of_lt hvalue]
  · intro h
    exact ⟨h.hex, ⟨h.ne_nil, h.length_le⟩, by rw [h.value, UInt16.ofNat_toNat]⟩

theorem isHex_of_digit {c : Char} (h : '0' ≤ c ∧ c ≤ '9') : IsHex c := .inl h

/-- What does not begin with a hexadecimal digit begins with no group. -/
theorem group?_of_stops {input : List Char} (h : Stops isHexDigit input) : group? input = none := by
  rw [Option.eq_none_iff_forall_ne_some]
  rintro ⟨g, rest⟩ hread
  obtain ⟨w, rfl, -, hw⟩ := group?_eq_some_iff.1 hread
  obtain ⟨c, tail, rfl⟩ := List.exists_cons_of_ne_nil hw.ne_nil
  have hc := isHexDigit_iff.2 (hw.hex c (by simp))
  rw [stops_cons.1 h] at hc
  cases hc

/-- What begins with hexadecimal digits and no point behind them begins with no IPv4 address. -/
theorem ipv4_read?_of_hex {w rest : List Char} (hw : ∀ c ∈ w, IsHex c)
    (hrest : Stops isHexDigit rest) (hpoint : rest.head? ≠ some '.') :
    Ipv4.read? (w ++ rest) = none := by
  rw [Option.eq_none_iff_forall_ne_some]
  rintro ⟨ip, after⟩ hread
  obtain ⟨t, ht, -, hdenotes⟩ := Ipv4.read?_eq_some_iff.1 hread
  obtain ⟨d, more, rfl, hd⟩ := hdenotes.exists_point
  rw [List.append_assoc, List.cons_append] at ht
  have hnone : '.' ∉ w := fun hmem => absurd (hw _ hmem) (by unfold IsHex; decide)
  -- the point stands in the digits, right behind them, or behind a further digit
  rcases List.append_eq_append_iff.1 ht with ⟨front, rfl, hfront⟩ | ⟨front, rfl, hfront⟩
  · cases front with
    | nil => exact hpoint (by rw [hfront]; rfl)
    | cons c front =>
        have hc := isHexDigit_iff.2 (isHex_of_digit (hd.2 c (by simp)))
        rw [hfront, List.cons_append, stops_cons] at hrest
        rw [hrest] at hc
        cases hc
  · cases front with
    | nil => exact hpoint (by rw [← List.nil_append rest, ← hfront]; rfl)
    | cons c front =>
        obtain ⟨rfl, -⟩ := List.cons.inj hfront
        exact hnone (by simp)

/-! ### Series of groups -/

/-- Groups with colons between them, and whether an IPv4 address stands in place of the last two of
them. -/
inductive Series : Bool → List Char → List UInt16 → Prop
  | one {w : List Char} {g : UInt16} : IsGroup w g → Series false w [g]
  | ipv4 {t : List Char} {ip : Ipv4} : Ipv4.Denotes t ip → Series true t ip.groups
  | cons {b : Bool} {w s : List Char} {g : UInt16} {gs : List UInt16} : IsGroup w g →
      Series b s gs → Series b (w ++ ':' :: s) (g :: gs)

/-- A series, or nothing. -/
inductive Half : Bool → List Char → List UInt16 → Prop
  | none : Half false [] []
  | some {b : Bool} {s : List Char} {gs : List UInt16} : Series b s gs → Half b s gs

theorem Half.series {b : Bool} {s : List Char} {gs : List UInt16} (h : Half b s gs)
    (hne : gs ≠ []) : Series b s gs := by
  cases h with
  | none => exact absurd rfl hne
  | some hseries => exact hseries

theorem ne_nil (ip : Ipv6) : ip.groups ≠ [] :=
  List.ne_nil_of_length_pos (ip.length_groups ▸ Nat.succ_pos 7)

/-- A text that denotes an address: eight groups, or less than eight with a double colon in place
of zeros. -/
inductive Denotes : List Char → Ipv6 → Prop
  | full {b : Bool} {s : List Char} {ip : Ipv6} : Series b s ip.groups → Denotes s ip
  | shortened {b : Bool} {s t : List Char} {front back : List UInt16} {ip : Ipv6} :
      Half false s front → Half b t back → front.length + back.length < 8 →
      ip.groups = front ++ List.replicate (8 - front.length - back.length) 0 ++ back →
      Denotes (s ++ ':' :: ':' :: t) ip

/-- The colon that stands before every group but the first. -/
def separator (first : Bool) : List Char := if first then [] else [':']

theorem start_eq_some_iff {first : Bool} {input start : List Char} :
    (if first then some input else after? ':' input) = some start ↔
      input = separator first ++ start := by
  cases first <;> simp [separator, after?_eq_some_iff]

/-- What is read as a series is one. -/
theorem half_of_readGroups (room : Nat) (first : Bool) (input : List Char) :
    (readGroups room first input).groups.length ≤ room ∧
      ((readGroups room first input) = ⟨[], false, input⟩ ∨
        ∃ s, input = separator first ++ s ++ (readGroups room first input).rest ∧
          Series (readGroups room first input).endsInIpv4 s
            (readGroups room first input).groups) := by
  induction room generalizing first input with
  | zero => exact ⟨Nat.le_refl 0, .inl rfl⟩
  | succ room ih =>
      unfold readGroups
      split
      · exact ⟨Nat.zero_le _, .inl rfl⟩
      rename_i start hstart
      rw [start_eq_some_iff] at hstart
      split
      · rename_i ip rest hread
        obtain ⟨hroom, hread⟩ := Option.ite_none_left_eq_some.1 hread
        obtain ⟨t, rfl, -, ht⟩ := Ipv4.read?_eq_some_iff.1 hread
        refine ⟨?_, .inr ⟨t, by rw [hstart, List.append_assoc], .ipv4 ht⟩⟩
        simp only [Ipv4.groups, List.length_cons, List.length_nil]
        omega
      split
      · exact ⟨Nat.zero_le _, .inl rfl⟩
      rename_i g rest hread
      obtain ⟨w, rfl, -, hw⟩ := group?_eq_some_iff.1 hread
      obtain ⟨hlength, hmore⟩ := ih false rest
      refine ⟨Nat.succ_le_succ hlength, .inr ?_⟩
      rcases hmore with hnone | ⟨s, hrest, hseries⟩
      · rw [hnone]
        exact ⟨w, by rw [hstart, List.append_assoc], .one hw⟩
      · refine ⟨w ++ ':' :: s, ?_, .cons hw hseries⟩
        rw [hstart]
        conv_lhs => rw [hrest]
        simp [separator]

/-- A series, or nothing, is read again when nothing stands before it. -/
theorem exists_half_of_readGroups (room : Nat) (input : List Char) :
    ∃ s, input = s ++ (readGroups room true input).rest ∧
      Half (readGroups room true input).endsInIpv4 s (readGroups room true input).groups := by
  rcases (half_of_readGroups room true input).2 with hnone | ⟨s, hinput, hseries⟩
  · rw [hnone]
    exact ⟨[], rfl, .none⟩
  · exact ⟨s, hinput, .some hseries⟩

/-- What may stand behind a series of groups: an end, or a double colon. -/
inductive Closes : List Char → Prop
  | last {rest : List Char} : Stops isHexDigit rest → rest.head? ≠ some '.' →
      rest.head? ≠ some ':' → Closes rest
  | gap (rest : List Char) : Closes (':' :: ':' :: rest)

theorem Closes.stops {rest : List Char} (h : Closes rest) : Stops isHexDigit rest := by
  cases h with
  | last hstops => exact hstops
  | gap rest => exact stops_cons.2 (by decide)

theorem Closes.no_point {rest : List Char} (h : Closes rest) : rest.head? ≠ some '.' := by
  cases h with
  | last _ hpoint => exact hpoint
  | gap rest => simp

theorem stops_isDigit {rest : List Char} (h : Stops isHexDigit rest) : Stops isDigit rest := by
  intro c hc
  refine Bool.eq_false_iff.2 fun hdigit => ?_
  have hhex := isHexDigit_iff.2 (isHex_of_digit (isDigit_iff.1 hdigit))
  rw [h c hc] at hhex
  cases hhex

/-- Behind a series no further group is read. -/
theorem readGroups_of_closes {rest : List Char} (h : Closes rest) (room : Nat) (first : Bool) :
    readGroups room first rest = ⟨[], false, rest⟩ := by
  cases room with
  | zero => rfl
  | succ room =>
      unfold readGroups
      split
      · rfl
      rename_i start hstart
      rw [start_eq_some_iff] at hstart
      have hstops : Stops isHexDigit start ∧ start.head? ≠ some '.' := by
        cases first with
        | true =>
            obtain rfl : rest = start := hstart
            exact ⟨h.stops, h.no_point⟩
        | false =>
            cases h with
            | last _ _ hcolon => exact absurd (by rw [hstart]; rfl) hcolon
            | gap more =>
                obtain ⟨-, rfl⟩ := List.cons.inj hstart
                exact ⟨stops_cons.2 (by decide), by simp⟩
      have hipv4 : Ipv4.read? start = none :=
        ipv4_read?_of_hex (w := []) (by simp) hstops.1 hstops.2
      simp only [hipv4, ite_self, group?_of_stops hstops.1]

/-- A series is read as a whole, if there is room for it. -/
theorem readGroups_of_series {b : Bool} {s : List Char} {gs : List UInt16} (h : Series b s gs)
    {room : Nat} (hroom : gs.length ≤ room) {rest : List Char} (hrest : Closes rest)
    (first : Bool) : readGroups room first (separator first ++ s ++ rest) = ⟨gs, b, rest⟩ := by
  have hstart (start : List Char) :
      (if first then some (separator first ++ start) else after? ':' (separator first ++ start)) =
        some start := start_eq_some_iff.2 rfl
  induction h generalizing room first with
  | @one w g hw =>
      obtain ⟨room, rfl⟩ := Nat.exists_eq_add_of_le' hroom
      have hipv4 := ipv4_read?_of_hex hw.hex hrest.stops hrest.no_point
      have hgroup : group? (w ++ rest) = some (g, rest) :=
        group?_eq_some_iff.2 ⟨w, rfl, hrest.stops, hw⟩
      rw [List.length_singleton, readGroups, List.append_assoc, hstart]
      simp only [hipv4, ite_self, hgroup, readGroups_of_closes hrest]
  | @ipv4 t ip ht =>
      obtain ⟨room, rfl⟩ := Nat.exists_eq_add_of_le' hroom
      have hread : Ipv4.read? (t ++ rest) = some (ip, rest) :=
        Ipv4.read?_eq_some_iff.2 ⟨t, rfl, stops_isDigit hrest.stops, ht⟩
      change readGroups (room + 1 + 1) first _ = _
      rw [readGroups, List.append_assoc, hstart]
      simp only [Nat.add_one_ne_zero, if_false, hread]
  | @cons b w s g gs hw hseries ih =>
      obtain ⟨room, rfl⟩ := Nat.exists_eq_add_of_le' hroom
      have hstops : Stops isHexDigit (':' :: s ++ rest) := stops_cons.2 (by decide)
      have hipv4 := ipv4_read?_of_hex hw.hex hstops (by simp)
      have hgroup : group? (w ++ (':' :: s ++ rest)) = some (g, ':' :: s ++ rest) :=
        group?_eq_some_iff.2 ⟨w, rfl, hstops, hw⟩
      have hmore := ih (Nat.le_add_left gs.length room) false
        fun start => start_eq_some_iff.2 rfl
      have hassoc : separator first ++ (w ++ ':' :: s) ++ rest =
          separator first ++ (w ++ (':' :: s ++ rest)) := by simp
      change readGroups (room + gs.length + 1) first _ = _
      rw [readGroups, hassoc, hstart]
      simp only [hipv4, ite_self, hgroup]
      rw [show ':' :: s ++ rest = separator false ++ s ++ rest from rfl, hmore]

theorem readGroups_of_half {b : Bool} {s : List Char} {gs : List UInt16} (h : Half b s gs)
    {room : Nat} (hroom : gs.length ≤ room) {rest : List Char} (hrest : Closes rest) :
    readGroups room true (s ++ rest) = ⟨gs, b, rest⟩ := by
  cases h with
  | none => exact readGroups_of_closes hrest room true
  | some hseries => exact readGroups_of_series hseries hroom hrest true

/-! ### IPv6 addresses -/

theorem ofGroups?_eq_some_iff {groups : List UInt16} {ip : Ipv6} :
    ofGroups? groups = some ip ↔ ip.groups = groups := by
  unfold ofGroups?
  constructor
  · intro h
    obtain ⟨hlength, hip⟩ := Option.dite_none_right_eq_some.1 h
    rw [← Option.some.inj hip]
  · rintro rfl
    rw [dif_pos ip.length_groups]

/-- What is read as an address denotes it. -/
theorem denotes_of_read? {input rest : List Char} {ip : Ipv6} (h : read? input = some (ip, rest)) :
    ∃ t, input = t ++ rest ∧ Denotes t ip := by
  obtain ⟨s, hinput, hfront⟩ := exists_half_of_readGroups 8 input
  unfold read? at h
  dsimp only at h
  split at h
  · obtain ⟨_, hip, hread⟩ := Option.map_eq_some_iff.1 h
    obtain ⟨rfl, rfl⟩ := Prod.mk.inj hread
    rw [← ofGroups?_eq_some_iff.1 hip] at hfront
    exact ⟨s, hinput, .full (hfront.series (ne_nil _))⟩
  split at h
  · simp at h
  rename_i hshort hend
  rw [Bool.not_eq_true] at hend
  split at h
  · simp at h
  rename_i start hstart
  obtain ⟨_, hip, hread⟩ := Option.map_eq_some_iff.1 h
  obtain ⟨rfl, rfl⟩ := Prod.mk.inj hread
  obtain ⟨t, ht, hback⟩ :=
    exists_half_of_readGroups (7 - (readGroups 8 true input).groups.length) start
  have hroom := (half_of_readGroups 8 true input).1
  have hmore :=
    (half_of_readGroups (7 - (readGroups 8 true input).groups.length) true start).1
  simp only [Option.bind_eq_some_iff, after?_eq_some_iff] at hstart
  obtain ⟨_, hcolon, rfl⟩ := hstart
  rw [hend] at hfront
  refine ⟨s ++ ':' :: ':' :: t, ?_, .shortened hfront hback (by omega)
    (ofGroups?_eq_some_iff.1 hip)⟩
  conv_lhs => rw [hinput, hcolon, ht]
  simp

/-- A text that denotes an address is read as a whole. -/
theorem read?_of_denotes {t rest : List Char} {ip : Ipv6} (h : Denotes t ip)
    (hstops : Stops isHexDigit rest) (hpoint : rest.head? ≠ some '.')
    (hcolon : rest.head? ≠ some ':') : read? (t ++ rest) = some (ip, rest) := by
  have hrest : Closes rest := .last hstops hpoint hcolon
  cases h with
  | @full b s _ hseries =>
      have hread := readGroups_of_half (.some hseries) (Nat.le_of_eq ip.length_groups) hrest
      simp only [read?, hread, ip.length_groups, if_true, ofGroups?_eq_some_iff.2 rfl,
        Option.map_some]
  | @shortened b s t front back _ hs ht hlength hgroups =>
      have hfront := readGroups_of_half hs (show front.length ≤ 8 by omega) (Closes.gap (t ++ rest))
      have hback := readGroups_of_half ht (show back.length ≤ 7 - front.length by omega) hrest
      have hassoc : s ++ ':' :: ':' :: t ++ rest = s ++ ':' :: ':' :: (t ++ rest) := by simp
      have hcolons : (after? ':' (':' :: ':' :: (t ++ rest))).bind (after? ':') =
          some (t ++ rest) := rfl
      rw [read?, hassoc]
      simp only [hfront, hcolons, hback, ← hgroups, if_neg (show ¬front.length = 8 by omega),
        Bool.false_eq_true, if_false, ofGroups?_eq_some_iff.2 rfl, Option.map_some]

end Ipv6

/-! ### Socket addresses -/

namespace SocketAddress

/-- A text in front of a port, and the socket address that both name: an IPv4 address, or an IPv6
address in brackets, behind which a scope may stand after a percent sign. -/
inductive Names : List Char → UInt16 → SocketAddress → Prop
  | v4 {t : List Char} {ip : Ipv4} {port : UInt16} : Ipv4.Denotes t ip →
      Names t port (.v4 ip port)
  | v6 {t : List Char} {ip : Ipv6} {port : UInt16} : Ipv6.Denotes t ip →
      Names ('[' :: t ++ [']']) port (.v6 ip 0 port)
  | v6Scoped {t d : List Char} {ip : Ipv6} {scope : UInt32} {port : UInt16} : Ipv6.Denotes t ip →
      Digits d → ofDigits d = scope.toNat →
      Names ('[' :: t ++ '%' :: d ++ [']']) port (.v6 ip scope port)

theorem Names.port_eq {host : List Char} {port : UInt16} {a : SocketAddress}
    (h : Names host port a) : a.port = port := by
  cases h <;> rfl

theorem port?_eq_some_iff {input : List Char} {port : UInt16} :
    port? input = some port ↔ ∃ d, input = ':' :: d ∧ Digits d ∧ ofDigits d = port.toNat := by
  have hread {d : List Char} {n : Nat} :
      (after? ':' input).bind (decimal? (twoTo 16 - 1)) = some (n, d) ↔
        ∃ e, input = ':' :: e ++ d ∧ Stops isDigit d ∧ Digits e ∧ ofDigits e = n ∧
          n ≤ twoTo 16 - 1 := by
    simp only [Option.bind_eq_some_iff, after?_eq_some_iff, decimal?_eq_some_iff]
    constructor
    · rintro ⟨_, rfl, e, rfl, h⟩
      exact ⟨e, rfl, h⟩
    · rintro ⟨e, rfl, h⟩
      exact ⟨e ++ d, rfl, e, rfl, h⟩
  unfold port?
  constructor
  · intro h
    split at h
    · rename_i n hn
      obtain rfl := Option.some.inj h
      obtain ⟨e, rfl, -, he, rfl, hle⟩ := hread.1 hn
      refine ⟨e, by simp, he, ?_⟩
      have hlt : ofDigits e < 2 ^ 16 := Nat.lt_succ_of_le hle
      rw [UInt16.toNat_ofNat', Nat.mod_eq_of_lt hlt]
    · cases h
  · rintro ⟨d, hinput, hd, hvalue⟩
    have hle : port.toNat ≤ twoTo 16 - 1 := Nat.le_of_lt_succ port.toNat_lt
    rw [hread.2 ⟨d, by simpa using hinput, stops_nil _, hd, hvalue, hle⟩]
    simp only [UInt16.ofNat_toNat]

/-- What is read of a scope: nothing, or its digits behind a percent sign. -/
theorem of_readScope {input rest : List Char} {n : Nat} (h : readScope input = (n, rest)) :
    (n = 0 ∧ input = rest) ∨
      ∃ d, input = '%' :: d ++ rest ∧ Digits d ∧ ofDigits d = n ∧ n < 2 ^ 32 := by
  unfold readScope at h
  split at h
  · rename_i found hfound
    obtain rfl : found = (n, rest) := h
    simp only [Option.bind_eq_some_iff, after?_eq_some_iff, decimal?_eq_some_iff] at hfound
    obtain ⟨_, rfl, d, rfl, -, hd, hvalue, hle⟩ := hfound
    exact .inr ⟨d, rfl, hd, hvalue, Nat.lt_succ_of_le hle⟩
  · obtain ⟨rfl, rfl⟩ := Prod.mk.inj h
    exact .inl ⟨rfl, rfl⟩

theorem readScope_bracket (rest : List Char) : readScope (']' :: rest) = (0, ']' :: rest) := rfl

theorem readScope_percent {d : List Char} {scope : UInt32} (hd : Digits d)
    (hvalue : ofDigits d = scope.toNat) (rest : List Char) :
    readScope ('%' :: d ++ ']' :: rest) = (scope.toNat, ']' :: rest) := by
  have hle : scope.toNat ≤ twoTo 32 - 1 := Nat.le_of_lt_succ scope.toNat_lt
  have hread : decimal? (twoTo 32 - 1) (d ++ ']' :: rest) = some (scope.toNat, ']' :: rest) :=
    decimal?_eq_some_iff.2 ⟨d, rfl, stops_cons.2 (by decide), hd, hvalue, hle⟩
  simp only [readScope, after?, List.cons_append, if_true, Option.bind_some, hread]

/-- The port at the end of a host and a port. -/
theorem host_port_inj {host t d : List Char} {port found : UInt16}
    (heq : host ++ ':' :: decimal port.toNat = t ++ ':' :: d) (hd : Digits d)
    (hvalue : ofDigits d = found.toNat) : host = t ∧ port = found := by
  have hcolon {e : List Char} (he : Digits e) : ':' ∉ e := he.not_mem (by decide)
  obtain ⟨rfl, rfl⟩ := append_cons_inj_right (hcolon (Numeral.digits_decimal _)) (hcolon hd) heq
  rw [Numeral.ofDigits_decimal] at hvalue
  exact ⟨rfl, UInt16.toNat_inj.1 hvalue⟩

theorem names_of_parseV4? {host : List Char} {port : UInt16} {a : SocketAddress}
    (h : parseV4? (host ++ ':' :: decimal port.toNat) = some a) : Names host port a := by
  unfold parseV4? at h
  split at h
  · cases h
  rename_i ip rest hread
  obtain ⟨found, hport, rfl⟩ := Option.map_eq_some_iff.1 h
  obtain ⟨t, ht, -, hdenotes⟩ := Ipv4.read?_eq_some_iff.1 hread
  obtain ⟨d, rfl, hd, hvalue⟩ := port?_eq_some_iff.1 hport
  obtain ⟨rfl, rfl⟩ := host_port_inj ht hd hvalue
  exact .v4 hdenotes

theorem names_of_parseV6? {host : List Char} {port : UInt16} {a : SocketAddress}
    (h : parseV6? (host ++ ':' :: decimal port.toNat) = some a) : Names host port a := by
  unfold parseV6? at h
  split at h
  · cases h
  rename_i ip rest hread
  simp only [Option.bind_eq_some_iff, after?_eq_some_iff] at hread
  obtain ⟨_, hbracket, hread⟩ := hread
  obtain ⟨t, rfl, hdenotes⟩ := Ipv6.denotes_of_read? hread
  dsimp only at h
  obtain ⟨n, behind, hscope⟩ : ∃ n behind, readScope rest = (n, behind) := ⟨_, _, rfl⟩
  rw [hscope] at h
  dsimp only at h
  split at h
  · cases h
  rename_i after_ hclose
  rw [after?_eq_some_iff] at hclose
  obtain ⟨found, hport, rfl⟩ := Option.map_eq_some_iff.1 h
  obtain ⟨d, rfl, hd, hvalue⟩ := port?_eq_some_iff.1 hport
  subst hclose
  rcases of_readScope hscope with ⟨rfl, rfl⟩ | ⟨e, rfl, he, hn, hlt⟩
  · have hsplit : host ++ ':' :: decimal port.toNat = ('[' :: t ++ [']']) ++ ':' :: d := by
      rw [hbracket]
      simp
    obtain ⟨rfl, rfl⟩ := host_port_inj hsplit hd hvalue
    exact .v6 hdenotes
  · have hsplit : host ++ ':' :: decimal port.toNat =
        ('[' :: t ++ '%' :: e ++ [']']) ++ ':' :: d := by
      rw [hbracket]
      simp
    obtain ⟨rfl, rfl⟩ := host_port_inj hsplit hd hvalue
    refine .v6Scoped hdenotes he ?_
    rw [UInt32.toNat_ofNat', Nat.mod_eq_of_lt hlt, hn]

theorem port?_decimal (port : UInt16) : port? (':' :: decimal port.toNat) = some port :=
  port?_eq_some_iff.2 ⟨_, rfl, Numeral.digits_decimal _, Numeral.ofDigits_decimal _⟩

theorem parse?_of_bracket (rest : List Char) :
    parse? ('[' :: rest) = parseV6? ('[' :: rest) := by
  have hread : Ipv4.read? ('[' :: rest) = none :=
    Ipv6.ipv4_read?_of_hex (w := []) (by simp) (stops_cons.2 (by decide)) (by simp)
  simp only [parse?, parseV4?, hread]

theorem parse?_of_names {host : List Char} {port : UInt16} {a : SocketAddress}
    (h : Names host port a) : parse? (host ++ ':' :: decimal port.toNat) = some a := by
  cases h with
  | @v4 _ ip _ ht =>
      have hread : Ipv4.read? (host ++ ':' :: decimal port.toNat) =
          some (ip, ':' :: decimal port.toNat) :=
        Ipv4.read?_eq_some_iff.2 ⟨host, rfl, stops_cons.2 (by decide), ht⟩
      simp only [parse?, parseV4?, hread, port?_decimal, Option.map_some]
  | @v6 t ip _ ht =>
      have hread : Ipv6.read? (t ++ ']' :: ':' :: decimal port.toNat) =
          some (ip, ']' :: ':' :: decimal port.toNat) :=
        Ipv6.read?_of_denotes ht (stops_cons.2 (by decide)) (by simp) (by simp)
      have hassoc : '[' :: t ++ [']'] ++ ':' :: decimal port.toNat =
          '[' :: (t ++ ']' :: ':' :: decimal port.toNat) := by simp
      rw [hassoc, parse?_of_bracket]
      simp only [parseV6?, after?, if_true, Option.bind_some, hread, readScope_bracket,
        port?_decimal, Option.map_some]
      rfl
  | @v6Scoped t d ip scope _ ht hd hvalue =>
      have hread : Ipv6.read? (t ++ ('%' :: d ++ ']' :: ':' :: decimal port.toNat)) =
          some (ip, '%' :: d ++ ']' :: ':' :: decimal port.toNat) :=
        Ipv6.read?_of_denotes ht (stops_cons.2 (by decide)) (by simp) (by simp)
      have hassoc : '[' :: t ++ '%' :: d ++ [']'] ++ ':' :: decimal port.toNat =
          '[' :: (t ++ ('%' :: d ++ ']' :: ':' :: decimal port.toNat)) := by simp
      rw [hassoc, parse?_of_bracket]
      simp only [parseV6?, after?, if_true, Option.bind_some, hread, readScope_percent hd hvalue,
        port?_decimal, Option.map_some, UInt32.ofNat_toNat]

/-- **A host and a port with a colon between them are read as the socket address that they name**,
and as none if they name none. -/
theorem parse?_glued_iff {host : List Char} {port : UInt16} {a : SocketAddress} :
    parse? (host ++ ':' :: decimal port.toNat) = some a ↔ Names host port a := by
  refine ⟨fun h => ?_, parse?_of_names⟩
  unfold parse? at h
  split at h
  · rename_i address hv4
    obtain rfl := Option.some.inj h
    exact names_of_parseV4? hv4
  · exact names_of_parseV6? h

end SocketAddress

end AssemblyGate
