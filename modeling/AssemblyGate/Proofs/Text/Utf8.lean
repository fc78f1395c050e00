/-
**The scanner reads exactly what the encoder writes.**

`AssemblyGate/Text/Utf8.lean` cuts a byte list into pieces one byte at a time.  Here the scanner is
held against the encoding of single characters: it makes one piece of each encoded character, and a
byte list of which every piece is a character is an encoded text.  A character never begins with a
byte that could continue another one, so whatever stands before an encoded text, broken or not, is
read as if nothing followed it.

Main results:

* `AssemblyGate.Utf8.scan_encodeChar` — an encoded character is one piece;
* `AssemblyGate.Utf8.pieces_encode_append`, `AssemblyGate.Utf8.decodeLossy_append_encode` — an
  encoded text is read as itself, at the front of a byte list and after any other bytes;
* `AssemblyGate.Utf8.decode?_iff_encode` — **the strict reader inverts the encoder, and answers
  nothing else**.
-/
import AssemblyGate.Text.Utf8

set_option autoImplicit false

namespace AssemblyGate.Utf8

/-! ### First bytes -/

theorem lead_of_one {b : UInt8} (h : b.toNat < 0x80) : lead b = .whole (Char.ofNat b.toNat) := by
  simp only [lead]
  rw [if_pos h]

theorem lead_of_two {b : UInt8} (h : 0xC2 ≤ b.toNat) (h' : b.toNat < 0xE0) :
    lead b = .opening ⟨b.toNat - 0xC0, 0x80, 0xBF, 0⟩ := by
  simp only [lead]
  rw [if_neg (by omega), if_neg (by omega), if_pos h']

theorem lead_of_three {b : UInt8} (h : 0xE0 ≤ b.toNat) (h' : b.toNat < 0xF0) :
    lead b = .opening ⟨b.toNat - 0xE0, if b.toNat = 0xE0 then 0xA0 else 0x80,
      if b.toNat = 0xED then 0x9F else 0xBF, 1⟩ := by
  simp only [lead]
  rw [if_neg (by omega), if_neg (by omega), if_neg (by omega)]
  by_cases h₀ : b.toNat = 0xE0
  · simp [h₀]
  · by_cases h₁ : b.toNat = 0xED
    · simp [h₁]
    · rw [if_neg h₀, if_neg h₁, if_pos h', if_neg h₀, if_neg h₁]

theorem lead_of_four {b : UInt8} (h : 0xF0 ≤ b.toNat) (h' : b.toNat < 0xF5) :
    lead b = .opening ⟨b.toNat - 0xF0, if b.toNat = 0xF0 then 0x90 else 0x80,
      if b.toNat = 0xF4 then 0x8F else 0xBF, 2⟩ := by
  simp only [lead]
  rw [if_neg (by omega), if_neg (by omega), if_neg (by omega), if_neg (by omega),
    if_neg (by omega), if_neg (by omega)]
  by_cases h₀ : b.toNat = 0xF0
  · simp [h₀]
  · rw [if_neg h₀, if_neg h₀]
    by_cases h₁ : b.toNat = 0xF4
    · simp [h₁]
    · rw [if_pos (by omega), if_neg h₁]

theorem lead_of_stray {b : UInt8} (h : 0x80 ≤ b.toNat)
    (h' : b.toNat < 0xC2 ∨ 0xF5 ≤ b.toNat) : lead b = .stray := by
  simp only [lead]
  rcases h' with h' | h'
  · rw [if_neg (by omega), if_pos h']
  · rw [if_neg (by omega), if_neg (by omega), if_neg (by omega), if_neg (by omega),
      if_neg (by omega), if_neg (by omega), if_neg (by omega), if_neg (by omega),
      if_neg (by omega)]

/-- What a first byte can be. -/
theorem lead_cases (b : UInt8) :
    (b.toNat < 0x80 ∧ lead b = .whole (Char.ofNat b.toNat)) ∨
    (0xC2 ≤ b.toNat ∧ b.toNat < 0xE0 ∧ lead b = .opening ⟨b.toNat - 0xC0, 0x80, 0xBF, 0⟩) ∨
    (0xE0 ≤ b.toNat ∧ b.toNat < 0xF0 ∧
      lead b = .opening ⟨b.toNat - 0xE0, if b.toNat = 0xE0 then 0xA0 else 0x80,
        if b.toNat = 0xED then 0x9F else 0xBF, 1⟩) ∨
    (0xF0 ≤ b.toNat ∧ b.toNat < 0xF5 ∧
      lead b = .opening ⟨b.toNat - 0xF0, if b.toNat = 0xF0 then 0x90 else 0x80,
        if b.toNat = 0xF4 then 0x8F else 0xBF, 2⟩) ∨
    lead b = .stray := by
  rcases Nat.lt_or_ge b.toNat 0x80 with h₁ | h₁
  · exact .inl ⟨h₁, lead_of_one h₁⟩
  rcases Nat.lt_or_ge b.toNat 0xC2 with h₂ | h₂
  · exact .inr (.inr (.inr (.inr (lead_of_stray h₁ (.inl h₂)))))
  rcases Nat.lt_or_ge b.toNat 0xE0 with h₃ | h₃
  · exact .inr (.inl ⟨h₂, h₃, lead_of_two h₂ h₃⟩)
  rcases Nat.lt_or_ge b.toNat 0xF0 with h₄ | h₄
  · exact .inr (.inr (.inl ⟨h₃, h₄, lead_of_three h₃ h₄⟩))
  rcases Nat.lt_or_ge b.toNat 0xF5 with h₅ | h₅
  · exact .inr (.inr (.inr (.inl ⟨h₄, h₅, lead_of_four h₄ h₅⟩)))
  · exact .inr (.inr (.inr (.inr (lead_of_stray h₁ (.inr h₅)))))

/-! ### One character -/

/-- The number of a byte that was made of a number below 256. -/
theorem toNat_byte {n : Nat} (h : n < 256) : (UInt8.ofNat n).toNat = n := by
  simp [Nat.mod_eq_of_lt h]

theorem encodeChar_of_one {c : Char} (h : c.toNat < 0x80) :
    String.utf8EncodeChar c = [UInt8.ofNat c.toNat] :=
  if_pos (Nat.le_of_lt_succ h)

theorem encodeChar_of_two {c : Char} (h : 0x80 ≤ c.toNat) (h' : c.toNat < 0x800) :
    String.utf8EncodeChar c =
      [UInt8.ofNat (c.toNat / 64 % 32 + 0xC0), UInt8.ofNat (c.toNat % 64 + 0x80)] :=
  (if_neg (Nat.not_le_of_lt h)).trans (if_pos (Nat.le_of_lt_succ h'))

theorem encodeChar_of_three {c : Char} (h : 0x800 ≤ c.toNat) (h' : c.toNat < 0x10000) :
    String.utf8EncodeChar c =
      [UInt8.ofNat (c.toNat / 4096 % 16 + 0xE0), UInt8.ofNat (c.toNat / 64 % 64 + 0x80),
        UInt8.ofNat (c.toNat % 64 + 0x80)] :=
  (if_neg (Nat.not_le_of_lt (Nat.lt_of_lt_of_le (by decide) h))).trans
    ((if_neg (Nat.not_le_of_lt h)).trans (if_pos (Nat.le_of_lt_succ h')))

theorem encodeChar_of_four {c : Char} (h : 0x10000 ≤ c.toNat) :
    String.utf8EncodeChar c =
      [UInt8.ofNat (c.toNat / 262144 % 8 + 0xF0), UInt8.ofNat (c.toNat / 4096 % 64 + 0x80),
        UInt8.ofNat (c.toNat / 64 % 64 + 0x80), UInt8.ofNat (c.toNat % 64 + 0x80)] :=
  (if_neg (Nat.not_le_of_lt (Nat.lt_of_lt_of_le (by decide) h))).trans
    ((if_neg (Nat.not_le_of_lt (Nat.lt_of_lt_of_le (by decide) h))).trans
      (if_neg (Nat.not_le_of_lt h)))

/-- A byte within the range of an unfinished character continues it. -/
theorem feed_of_mem {found : List Piece} {u : Unfinished} {b : UInt8}
    (h : u.low.toNat ≤ b.toNat) (h' : b.toNat ≤ u.high.toNat) :
    Scan.feed ⟨found, some u⟩ b =
      match u.more with
      | 0 => ⟨some (Char.ofNat (u.payload * 64 + (b.toNat - 0x80))) :: found, none⟩
      | more + 1 => ⟨found, some ⟨u.payload * 64 + (b.toNat - 0x80), 0x80, 0xBF, more⟩⟩ := by
  have hmem : u.low ≤ b ∧ b ≤ u.high := ⟨UInt8.le_iff_toNat_le.2 h, UInt8.le_iff_toNat_le.2 h'⟩
  exact (if_pos hmem).trans rfl

/-- A byte outside the range of an unfinished character breaks it and is read afresh. -/
theorem feed_of_notMem {found : List Piece} {u : Unfinished} {b : UInt8}
    (h : b.toNat < u.low.toNat ∨ u.high.toNat < b.toNat) :
    Scan.feed ⟨found, some u⟩ b = Scan.start (none :: found) b := by
  have hmem : ¬(u.low ≤ b ∧ b ≤ u.high) := by
    rw [UInt8.le_iff_toNat_le, UInt8.le_iff_toNat_le]
    omega
  simp only [Scan.feed, hmem, if_false]

@[simp] theorem scan_nil (s : Scan) : scan s [] = s := rfl

theorem scan_cons (s : Scan) (b : UInt8) (rest : Bytes) :
    scan s (b :: rest) = scan (s.feed b) rest :=
  rfl

theorem feed_of_opening {found : List Piece} {b : UInt8} {u : Unfinished}
    (h : lead b = .opening u) : Scan.feed ⟨found, none⟩ b = ⟨found, some u⟩ := by
  simp only [Scan.feed, Scan.start, h]

theorem feed_of_whole {found : List Piece} {b : UInt8} {c : Char} (h : lead b = .whole c) :
    Scan.feed ⟨found, none⟩ b = ⟨some c :: found, none⟩ := by
  simp only [Scan.feed, Scan.start, h]

/-- An encoded character is one piece. -/
theorem scan_encodeChar (found : List Piece) (c : Char) :
    scan ⟨found, none⟩ (String.utf8EncodeChar c) = ⟨some c :: found, none⟩ := by
  -- the ranges of the second byte are met because a character is no half and not past the last one
  have hvalid : c.toNat < 0xD800 ∨ 0xDFFF < c.toNat ∧ c.toNat < 0x110000 := c.valid
  have hc : ∀ n, n = c.toNat → Char.ofNat n = c := fun n h => by rw [h, Char.ofNat_toNat]
  rcases Nat.lt_or_ge c.toNat 0x80 with h₁ | h₁
  · have hb := toNat_byte (show c.toNat < 256 by omega)
    rw [encodeChar_of_one h₁, scan_cons, feed_of_whole (lead_of_one (by omega)), hb,
      Char.ofNat_toNat, scan_nil]
  rcases Nat.lt_or_ge c.toNat 0x800 with h₂ | h₂
  · have ha := toNat_byte (show c.toNat / 64 % 32 + 0xC0 < 256 by omega)
    have hb := toNat_byte (show c.toNat % 64 + 0x80 < 256 by omega)
    rw [encodeChar_of_two h₁ h₂, scan_cons, feed_of_opening (lead_of_two (by omega) (by omega)),
      scan_cons, feed_of_mem (by simp only [hb]; simp) (by simp only [hb]; simp; omega), scan_nil]
    simp only [ha, hb]
    rw [hc _ (by omega)]
  rcases Nat.lt_or_ge c.toNat 0x10000 with h₃ | h₃
  · have ha := toNat_byte (show c.toNat / 4096 % 16 + 0xE0 < 256 by omega)
    have hb := toNat_byte (show c.toNat / 64 % 64 + 0x80 < 256 by omega)
    have hd := toNat_byte (show c.toNat % 64 + 0x80 < 256 by omega)
    rw [encodeChar_of_three h₂ h₃, scan_cons, feed_of_opening (lead_of_three (by omega) (by omega)),
      scan_cons, feed_of_mem ?low ?high, scan_cons, feed_of_mem (by simp only [hd]; simp)
        (by simp only [hd]; simp; omega), scan_nil]
    case low => simp only [ha, hb]; split <;> simp; omega
    case high => simp only [ha, hb]; split <;> (simp; omega)
    simp only [ha, hb, hd]
    rw [hc _ (by omega)]
  · have ha := toNat_byte (show c.toNat / 262144 % 8 + 0xF0 < 256 by omega)
    have hb := toNat_byte (show c.toNat / 4096 % 64 + 0x80 < 256 by omega)
    have hd := toNat_byte (show c.toNat / 64 % 64 + 0x80 < 256 by omega)
    have he := toNat_byte (show c.toNat % 64 + 0x80 < 256 by omega)
    rw [encodeChar_of_four h₃, scan_cons, feed_of_opening (lead_of_four (by omega) (by omega)),
      scan_cons, feed_of_mem ?low ?high, scan_cons, feed_of_mem (by simp only [hd]; simp)
        (by simp only [hd]; simp; omega), scan_cons, feed_of_mem (by simp only [he]; simp)
        (by simp only [he]; simp; omega), scan_nil]
    case low => simp only [ha, hb]; split <;> simp; omega
    case high => simp only [ha, hb]; split <;> (simp; omega)
    simp only [ha, hb, hd, he]
    rw [hc _ (by omega)]

/-! ### Pieces -/

theorem start_found (found : List Piece) (b : UInt8) :
    Scan.start found b = ⟨(Scan.start [] b).found ++ found, (Scan.start [] b).pending⟩ := by
  simp only [Scan.start]
  cases lead b <;> rfl

/-- What has been found stays behind what a further byte finds. -/
theorem feed_found (found : List Piece) (pending : Option Unfinished) (b : UInt8) :
    Scan.feed ⟨found, pending⟩ b =
      ⟨(Scan.feed ⟨[], pending⟩ b).found ++ found, (Scan.feed ⟨[], pending⟩ b).pending⟩ := by
  cases pending with
  | none => exact start_found found b
  | some u =>
      simp only [Scan.feed]
      split
      · cases u.more <;> rfl
      · rw [start_found (none :: found), start_found [none]]
        simp

/-- What has been found stays in front of what is found later. -/
theorem close_scan (found : List Piece) (pending : Option Unfinished) (bytes : Bytes) :
    (scan ⟨found, pending⟩ bytes).close = found.reverse ++ (scan ⟨[], pending⟩ bytes).close := by
  induction bytes generalizing found pending with
  | nil => cases pending <;> simp [scan, Scan.close]
  | cons b rest ih =>
      rw [scan_cons, scan_cons, feed_found, ih, ih (Scan.feed ⟨[], pending⟩ b).found]
      simp

/-- An encoded text is read as itself at the front of a byte list. -/
theorem pieces_encode_append (text : List Char) (rest : Bytes) :
    pieces (encode text ++ rest) = text.map some ++ pieces rest := by
  induction text with
  | nil => rfl
  | cons c text ih =>
      have hsplit : encode (c :: text) ++ rest
          = String.utf8EncodeChar c ++ (encode text ++ rest) := by simp [encode]
      rw [hsplit, pieces, scan_append, scan_encodeChar, close_scan]
      simpa [pieces] using ih

/-! ### Boundaries -/

/-- Whether a byte can stand where a character begins, and so continues none. -/
def IsBoundary (b : UInt8) : Prop := b.toNat < 0x80 ∨ 0xC0 ≤ b.toNat

/-- A scan waits for nothing but continuation bytes. -/
def Scan.Waits (s : Scan) : Prop :=
  ∀ u, s.pending = some u → 0x80 ≤ u.low.toNat ∧ u.high.toNat ≤ 0xBF

theorem Scan.Waits.start (found : List Piece) (b : UInt8) : (Scan.start found b).Waits := by
  intro u hu
  rcases lead_cases b with ⟨-, h⟩ | ⟨-, -, h⟩ | ⟨-, -, h⟩ | ⟨-, -, h⟩ | h
  · simp [Scan.start, h] at hu
  · simp only [Scan.start, h, Option.some.injEq] at hu
    simp [← hu]
  · simp only [Scan.start, h, Option.some.injEq] at hu
    rw [← hu]
    constructor <;> dsimp only <;> split <;> simp
  · simp only [Scan.start, h, Option.some.injEq] at hu
    rw [← hu]
    constructor <;> dsimp only <;> split <;> simp
  · simp [Scan.start, h] at hu

theorem Scan.Waits.feed {s : Scan} (b : UInt8) : (s.feed b).Waits := by
  obtain ⟨found, pending⟩ := s
  cases pending with
  | none => exact Scan.Waits.start found b
  | some u =>
      simp only [Scan.feed]
      split
      · split
        · intro u hu
          simp at hu
        · intro u hu
          obtain rfl := Option.some.inj hu
          simp
      · exact Scan.Waits.start _ b

theorem Scan.Waits.scan {s : Scan} (h : s.Waits) (bytes : Bytes) : (scan s bytes).Waits := by
  induction bytes generalizing s with
  | nil => exact h
  | cons b rest ih => exact ih (Scan.Waits.feed b)

/-- Nothing is read across a boundary. -/
theorem pieces_append_boundary (before : Bytes) {b : UInt8} (hb : IsBoundary b) (rest : Bytes) :
    pieces (before ++ b :: rest) = pieces before ++ pieces (b :: rest) := by
  have hwaits : (scan ⟨[], none⟩ before).Waits := by
    refine Scan.Waits.scan ?_ before
    intro u hu
    simp at hu
  rw [pieces, scan_append, pieces, pieces]
  generalize scan ⟨[], none⟩ before = s at hwaits
  obtain ⟨found, pending⟩ := s
  cases pending with
  | none => exact close_scan found none (b :: rest)
  | some u =>
      obtain ⟨hlow, hhigh⟩ := hwaits u rfl
      -- the unfinished character is given up, and the boundary is read as if nothing preceded
      have hfresh : Scan.feed ⟨found, some u⟩ b = Scan.feed ⟨none :: found, none⟩ b := by
        rw [feed_of_notMem (by unfold IsBoundary at hb; omega)]
        rfl
      rw [scan_cons, hfresh, ← scan_cons]
      exact close_scan (none :: found) none (b :: rest)

/-- An encoded character begins at a boundary. -/
theorem encodeChar_boundary (c : Char) :
    ∃ b rest, String.utf8EncodeChar c = b :: rest ∧ IsBoundary b := by
  rcases Nat.lt_or_ge c.toNat 0x80 with h₁ | h₁
  · have ha := toNat_byte (show c.toNat < 256 by omega)
    exact ⟨_, _, encodeChar_of_one h₁, .inl (by omega)⟩
  rcases Nat.lt_or_ge c.toNat 0x800 with h₂ | h₂
  · have ha := toNat_byte (show c.toNat / 64 % 32 + 0xC0 < 256 by omega)
    exact ⟨_, _, encodeChar_of_two h₁ h₂, .inr (by omega)⟩
  rcases Nat.lt_or_ge c.toNat 0x10000 with h₃ | h₃
  · have ha := toNat_byte (show c.toNat / 4096 % 16 + 0xE0 < 256 by omega)
    exact ⟨_, _, encodeChar_of_three h₂ h₃, .inr (by omega)⟩
  · have ha := toNat_byte (show c.toNat / 262144 % 8 + 0xF0 < 256 by omega)
    exact ⟨_, _, encodeChar_of_four h₃, .inr (by omega)⟩

/-- The bytes of a character are its own number, or lie above all numbers of one byte. -/
theorem encodeChar_bytes {c : Char} {b : UInt8} (h : b ∈ String.utf8EncodeChar c) :
    b.toNat = c.toNat ∨ 0x80 ≤ b.toNat := by
  rcases Nat.lt_or_ge c.toNat 0x80 with h₁ | h₁
  · rw [encodeChar_of_one h₁, List.mem_singleton] at h
    exact .inl (h ▸ toNat_byte (show c.toNat < 256 by omega))
  -- all bytes of a longer form have their highest bit set
  refine .inr ?_
  rcases Nat.lt_or_ge c.toNat 0x800 with h₂ | h₂
  · rw [encodeChar_of_two h₁ h₂] at h
    simp only [List.mem_cons, List.not_mem_nil, or_false] at h
    rcases h with rfl | rfl <;> rw [toNat_byte (by omega)] <;> omega
  rcases Nat.lt_or_ge c.toNat 0x10000 with h₃ | h₃
  · rw [encodeChar_of_three h₂ h₃] at h
    simp only [List.mem_cons, List.not_mem_nil, or_false] at h
    rcases h with rfl | rfl | rfl <;> rw [toNat_byte (by omega)] <;> omega
  · rw [encodeChar_of_four h₃] at h
    simp only [List.mem_cons, List.not_mem_nil, or_false] at h
    rcases h with rfl | rfl | rfl | rfl <;> rw [toNat_byte (by omega)] <;> omega

/-- An encoded text is read as itself after any bytes, and they as if nothing followed. -/
theorem pieces_append_encode (before : Bytes) (text : List Char) (hne : text ≠ []) (rest : Bytes) :
    pieces (before ++ encode text ++ rest) = pieces before ++ text.map some ++ pieces rest := by
  obtain ⟨c, more, rfl⟩ := List.exists_cons_of_ne_nil hne
  obtain ⟨b, tail, hc, hb⟩ := encodeChar_boundary c
  have hsplit : encode (c :: more) ++ rest = b :: (tail ++ encode more ++ rest) := by
    simp [encode, hc]
  rw [List.append_assoc, hsplit, pieces_append_boundary before hb, ← hsplit, pieces_encode_append,
    List.append_assoc]

/-! ### The lenient reader -/

/-- Bytes are shown the same way whether or not an encoded text follows them. -/
theorem decodeLossy_append_encode (before : Bytes) (text : List Char) (hne : text ≠ [])
    (rest : Bytes) :
    decodeLossy (before ++ encode text ++ rest)
      = decodeLossy before ++ text ++ decodeLossy rest := by
  rw [decodeLossy, pieces_append_encode before text hne]
  simp [decodeLossy, Function.comp_def]

/-! ### The strict reader -/

/-- The bytes `tail` complete a character of which `payload` has been read and `more` bytes follow
the next one, which is between `low` and `high`. -/
def Completes : Nat → Nat → Nat → Nat → Bytes → Char → Prop
  | 0, payload, low, high, tail, c =>
      ∃ b : UInt8, tail = [b] ∧ low ≤ b.toNat ∧ b.toNat ≤ high ∧
        c = Char.ofNat (payload * 64 + (b.toNat - 0x80))
  | more + 1, payload, low, high, tail, c =>
      ∃ (b : UInt8) (rest : Bytes), tail = b :: rest ∧ low ≤ b.toNat ∧ b.toNat ≤ high ∧
        Completes more (payload * 64 + (b.toNat - 0x80)) 0x80 0xBF rest c

/-- A scan in the middle of a character that finds characters only finds that character next. -/
theorem exists_completes {u : Unfinished} {bytes : Bytes} {text : List Char}
    (h : (scan ⟨[], some u⟩ bytes).close = text.map some) :
    ∃ tail rest c more, bytes = tail ++ rest ∧ text = c :: more ∧
      Completes u.more u.payload u.low.toNat u.high.toNat tail c ∧ pieces rest = more.map some := by
  induction bytes generalizing u with
  | nil =>
      have hhead := congrArg List.head? h
      cases text <;> simp [scan, Scan.close] at hhead
  | cons b rest ih =>
      rw [scan_cons] at h
      by_cases hmem : u.low.toNat ≤ b.toNat ∧ b.toNat ≤ u.high.toNat
      · rw [feed_of_mem hmem.1 hmem.2] at h
        cases hmore : u.more with
        | zero =>
            rw [hmore] at h
            dsimp only at h
            rw [close_scan] at h
            cases text with
            | nil => simp at h
            | cons c more =>
                simp only [List.reverse_singleton, List.singleton_append, List.map_cons,
                  List.cons.injEq, Option.some.injEq] at h
                exact ⟨[b], rest, c, more, rfl, rfl, ⟨b, rfl, hmem.1, hmem.2, h.1.symm⟩, h.2⟩
        | succ n =>
            rw [hmore] at h
            obtain ⟨tail, rest', c, more, rfl, rfl, hc, hrest⟩ := ih h
            exact ⟨b :: tail, rest', c, more, rfl, rfl, ⟨b, tail, rfl, hmem.1, hmem.2, hc⟩, hrest⟩
      · -- the character is broken off, which leaves a piece that is none
        rw [feed_of_notMem (by omega), start_found, close_scan] at h
        have hhead := congrArg List.head? h
        cases text <;> simp at hhead

theorem toNat_ofNat_of_valid {n : Nat} (h : n.isValidChar) : (Char.ofNat n).toNat = n := by
  rw [Char.ofNat, dif_pos h]
  rfl

/-- A byte is made of its number. -/
theorem ofNat_eq_byte {n : Nat} {b : UInt8} (h : n = b.toNat) : UInt8.ofNat n = b := by
  rw [h, UInt8.ofNat_toNat]

theorem encodeChar_of_whole {b : UInt8} {c : Char} (hlead : lead b = .whole c) :
    String.utf8EncodeChar c = [b] := by
  rcases lead_cases b with ⟨h, hb⟩ | ⟨-, -, hb⟩ | ⟨-, -, hb⟩ | ⟨-, -, hb⟩ | hb
  · obtain rfl := Lead.whole.inj (hb.symm.trans hlead)
    have hv := toNat_ofNat_of_valid (n := b.toNat) (.inl (by omega))
    rw [encodeChar_of_one (by omega), hv, UInt8.ofNat_toNat]
  all_goals simp [hb] at hlead

/-- Two bytes in the ranges of a character of two bytes are its encoding. -/
theorem encodeChar_ofNat_two {b b₁ : UInt8} (hb : 0xC2 ≤ b.toNat) (hb' : b.toNat < 0xE0)
    (hlow : 0x80 ≤ b₁.toNat) (hhigh : b₁.toNat ≤ 0xBF) :
    String.utf8EncodeChar (Char.ofNat ((b.toNat - 0xC0) * 64 + (b₁.toNat - 0x80)))
      = [b, b₁] := by
  have hv := toNat_ofNat_of_valid (n := (b.toNat - 0xC0) * 64 + (b₁.toNat - 0x80))
    (.inl (by omega))
  rw [encodeChar_of_two (by omega) (by omega), hv, ofNat_eq_byte (b := b) (by omega),
    ofNat_eq_byte (b := b₁) (by omega)]

/-- The same for three bytes.  The range of the second one keeps out overlong forms and halves of
pairs. -/
theorem encodeChar_ofNat_three {b b₁ b₂ : UInt8} (hb : 0xE0 ≤ b.toNat) (hb' : b.toNat < 0xF0)
    (hlow : (if b.toNat = 0xE0 then 0xA0 else 0x80) ≤ b₁.toNat)
    (hhigh : b₁.toNat ≤ if b.toNat = 0xED then 0x9F else 0xBF)
    (hlow₂ : 0x80 ≤ b₂.toNat) (hhigh₂ : b₂.toNat ≤ 0xBF) :
    String.utf8EncodeChar
        (Char.ofNat (((b.toNat - 0xE0) * 64 + (b₁.toNat - 0x80)) * 64 + (b₂.toNat - 0x80)))
      = [b, b₁, b₂] := by
  have hrange : 0x80 ≤ b₁.toNat ∧ b₁.toNat ≤ 0xBF := by
    split at hlow <;> split at hhigh <;> omega
  have hv := toNat_ofNat_of_valid
    (n := ((b.toNat - 0xE0) * 64 + (b₁.toNat - 0x80)) * 64 + (b₂.toNat - 0x80)) (by
      unfold Nat.isValidChar
      split at hlow <;> split at hhigh <;> omega)
  rw [encodeChar_of_three (by split at hlow <;> omega) (by omega), hv,
    ofNat_eq_byte (b := b) (by omega), ofNat_eq_byte (b := b₁) (by omega),
    ofNat_eq_byte (b := b₂) (by omega)]

/-- The same for four bytes.  The range of the second one keeps out overlong forms and what is past
the last character. -/
theorem encodeChar_ofNat_four {b b₁ b₂ b₃ : UInt8} (hb : 0xF0 ≤ b.toNat) (hb' : b.toNat < 0xF5)
    (hlow : (if b.toNat = 0xF0 then 0x90 else 0x80) ≤ b₁.toNat)
    (hhigh : b₁.toNat ≤ if b.toNat = 0xF4 then 0x8F else 0xBF)
    (hlow₂ : 0x80 ≤ b₂.toNat) (hhigh₂ : b₂.toNat ≤ 0xBF)
    (hlow₃ : 0x80 ≤ b₃.toNat) (hhigh₃ : b₃.toNat ≤ 0xBF) :
    String.utf8EncodeChar
        (Char.ofNat ((((b.toNat - 0xF0) * 64 + (b₁.toNat - 0x80)) * 64 + (b₂.toNat - 0x80)) * 64
          + (b₃.toNat - 0x80)))
      = [b, b₁, b₂, b₃] := by
  have hrange : 0x80 ≤ b₁.toNat ∧ b₁.toNat ≤ 0xBF := by
    split at hlow <;> split at hhigh <;> omega
  have hv := toNat_ofNat_of_valid
    (n := (((b.toNat - 0xF0) * 64 + (b₁.toNat - 0x80)) * 64 + (b₂.toNat - 0x80)) * 64
      + (b₃.toNat - 0x80)) (by
      unfold Nat.isValidChar
      split at hlow <;> split at hhigh <;> omega)
  rw [encodeChar_of_four (by split at hlow <;> omega), hv,
    ofNat_eq_byte (b := b) (by split at hhigh <;> omega), ofNat_eq_byte (b := b₁) (by omega),
    ofNat_eq_byte (b := b₂) (by omega), ofNat_eq_byte (b := b₃) (by omega)]

/-- The bytes of a character from its opening one on are its encoding. -/
theorem encodeChar_of_completes {b : UInt8} {u : Unfinished} {tail : Bytes} {c : Char}
    (hlead : lead b = .opening u)
    (h : Completes u.more u.payload u.low.toNat u.high.toNat tail c) :
    String.utf8EncodeChar c = b :: tail := by
  rcases lead_cases b with ⟨-, hb⟩ | ⟨h₁, h₂, hb⟩ | ⟨h₁, h₂, hb⟩ | ⟨h₁, h₂, hb⟩ | hb
  · simp [hb] at hlead
  · obtain rfl := Lead.opening.inj (hb.symm.trans hlead)
    simp only [Completes, UInt8.reduceToNat] at h
    obtain ⟨b₁, rfl, hlow, hhigh, hc⟩ := h
    rw [hc]
    exact encodeChar_ofNat_two h₁ h₂ hlow hhigh
  · obtain rfl := Lead.opening.inj (hb.symm.trans hlead)
    simp only [Completes, apply_ite UInt8.toNat, UInt8.reduceToNat] at h
    obtain ⟨b₁, _, rfl, hlow, hhigh, b₂, rfl, hlow₂, hhigh₂, hc⟩ := h
    rw [hc]
    exact encodeChar_ofNat_three h₁ h₂ hlow hhigh hlow₂ hhigh₂
  · obtain rfl := Lead.opening.inj (hb.symm.trans hlead)
    simp only [Completes, apply_ite UInt8.toNat, UInt8.reduceToNat] at h
    obtain ⟨b₁, _, rfl, hlow, hhigh, b₂, _, rfl, hlow₂, hhigh₂, b₃, rfl, hlow₃, hhigh₃, hc⟩ := h
    rw [hc]
    exact encodeChar_ofNat_four h₁ h₂ hlow hhigh hlow₂ hhigh₂ hlow₃ hhigh₃
  · simp [hb] at hlead

/-- A byte list of which every piece is a character is an encoded text. -/
theorem eq_encode_of_pieces {bytes : Bytes} {text : List Char} (h : pieces bytes = text.map some) :
    bytes = encode text := by
  -- on the length: a character takes one to four bytes off the front
  induction hn : bytes.length using Nat.strongRecOn generalizing bytes text with
  | _ n ih =>
      cases bytes with
      | nil =>
          cases text with
          | nil => rfl
          | cons c more => simp [pieces, scan, Scan.close] at h
      | cons b rest =>
          rw [pieces, scan_cons] at h
          cases hlead : lead b with
          | whole c =>
              rw [feed_of_whole hlead, close_scan] at h
              cases text with
              | nil => simp at h
              | cons c' more =>
                  simp only [List.reverse_singleton, List.singleton_append, List.map_cons,
                    List.cons.injEq, Option.some.injEq] at h
                  obtain ⟨rfl, hrest⟩ := h
                  have hmore := ih rest.length (by simp at hn; omega) hrest rfl
                  rw [hmore]
                  simp [encode, encodeChar_of_whole hlead]
          | opening u =>
              rw [feed_of_opening hlead] at h
              obtain ⟨tail, rest', c, more, rfl, rfl, hc, hrest⟩ := exists_completes h
              have hmore := ih rest'.length (by simp at hn; omega) hrest rfl
              simp [encode, encodeChar_of_completes hlead hc, hmore]
          | stray =>
              -- a stray byte is a piece that is no character
              have hfeed : Scan.feed ⟨[], none⟩ b = ⟨[none], none⟩ := by
                simp only [Scan.feed, Scan.start, hlead]
              rw [hfeed, close_scan] at h
              cases text <;> simp at h

/-- **The strict reader inverts the encoder, and answers nothing else.** -/
theorem decode?_iff_encode {bytes : Bytes} {text : List Char} :
    decode? bytes = some text ↔ bytes = encode text := by
  rw [decode?_eq_some_iff]
  constructor
  · exact eq_encode_of_pieces
  · rintro rfl
    have h := pieces_encode_append text []
    rwa [List.append_nil, show pieces [] = [] from rfl, List.append_nil] at h

end AssemblyGate.Utf8
