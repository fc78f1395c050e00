/-
**Bytes and characters.**

A body, a file or a stream is a list of bytes; a text is a list of characters.  One scanner goes
from the first to the second.  It reads a byte at a time and cuts the input into pieces, each a
character or a maximal part of the input that no continuation can complete.  Two readers are built
on it: a strict one, which refuses every broken piece, and a lenient one, which shows each broken
piece as one replacement character.

Main definitions:

* `AssemblyGate.Utf8.encode` — the bytes of a text;
* `AssemblyGate.Utf8.pieces` — the pieces of a byte list;
* `AssemblyGate.Utf8.decode?`, `AssemblyGate.Utf8.decodeLossy` — the strict and the lenient reader.

Main results:

* `AssemblyGate.Utf8.scan_append` — a scan of two lists in a row goes on where the first one
  stopped;
* `AssemblyGate.Utf8.decode?_eq_some_iff` — the strict reader answers exactly when every piece is a
  character.
-/

set_option autoImplicit false

namespace AssemblyGate

/-- What is sent, stored or printed, as it stands on the wire. -/
abbrev Bytes := List UInt8

namespace Utf8

/-! ### Writing -/

/-- The UTF-8 bytes of a text. -/
def encode (text : List Char) : Bytes := text.flatMap String.utf8EncodeChar

@[simp] theorem encode_nil : encode [] = [] := rfl

@[simp] theorem encode_append (s t : List Char) : encode (s ++ t) = encode s ++ encode t := by
  simp [encode]

/-! ### Scanning -/

/-- A character of which some bytes have been read: its payload so far, the range of the byte that
must come next, and how many more follow that one. -/
structure Unfinished where
  payload : Nat
  low : UInt8
  high : UInt8
  more : Nat
deriving DecidableEq

/-- What a byte can be where a character may begin. -/
inductive Lead
  | whole (c : Char)
  | opening (rest : Unfinished)
  | stray

/-- The role of a first byte.  The ranges leave out overlong forms, surrogates and everything above
the last code point. -/
def lead (b : UInt8) : Lead :=
  let n := b.toNat
  if n < 0x80 then .whole (Char.ofNat n)
  else if n < 0xC2 then .stray
  else if n < 0xE0 then .opening ⟨n - 0xC0, 0x80, 0xBF, 0⟩
  else if n = 0xE0 then .opening ⟨0, 0xA0, 0xBF, 1⟩
  else if n = 0xED then .opening ⟨13, 0x80, 0x9F, 1⟩
  else if n < 0xF0 then .opening ⟨n - 0xE0, 0x80, 0xBF, 1⟩
  else if n = 0xF0 then .opening ⟨0, 0x90, 0xBF, 2⟩
  else if n < 0xF4 then .opening ⟨n - 0xF0, 0x80, 0xBF, 2⟩
  else if n = 0xF4 then .opening ⟨4, 0x80, 0x8F, 2⟩
  else .stray

/-- A piece of the input: a character, or `none` for a part that belongs to no character. -/
abbrev Piece := Option Char

/-- A scan under way: the pieces found, last one first, and the character being read. -/
structure Scan where
  found : List Piece
  pending : Option Unfinished

/-- Read a byte where a character may begin. -/
def Scan.start (found : List Piece) (b : UInt8) : Scan :=
  match lead b with
  | .whole c => ⟨some c :: found, none⟩
  | .opening u => ⟨found, some u⟩
  | .stray => ⟨none :: found, none⟩

/-- Read one more byte.  A byte that cannot continue the character being read ends it as a broken
piece and is then read afresh. -/
def Scan.feed (s : Scan) (b : UInt8) : Scan :=
  match s.pending with
  | none => Scan.start s.found b
  | some u =>
      if u.low ≤ b ∧ b ≤ u.high then
        let payload := u.payload * 64 + (b.toNat - 0x80)
        match u.more with
        | 0 => ⟨some (Char.ofNat payload) :: s.found, none⟩
        | more + 1 => ⟨s.found, some ⟨payload, 0x80, 0xBF, more⟩⟩
      else Scan.start (none :: s.found) b

/-- The pieces of a finished scan, in order. -/
def Scan.close (s : Scan) : List Piece :=
  match s.pending with
  | none => s.found.reverse
  | some _ => (none :: s.found).reverse

/-- Scan a byte list from a given point. -/
def scan (s : Scan) (bytes : Bytes) : Scan := bytes.foldl Scan.feed s

/-- A scan of two lists in a row goes on where the first one stopped. -/
theorem scan_append (s : Scan) (a b : Bytes) : scan s (a ++ b) = scan (scan s a) b :=
  List.foldl_append

/-- The pieces of a byte list. -/
def pieces (bytes : Bytes) : List Piece := (scan ⟨[], none⟩ bytes).close

/-! ### Reading -/

/-- The text of a byte list, if every piece of it is a character. -/
def decode? (bytes : Bytes) : Option (List Char) :=
  let found := pieces bytes
  if found.all Option.isSome then some (found.filterMap id) else none

/-- The text of a byte list, with one replacement character for each broken piece. -/
def decodeLossy (bytes : Bytes) : List Char := (pieces bytes).map (·.getD '\uFFFD')

/-- The strict reader answers exactly when every piece is a character. -/
theorem decode?_eq_some_iff {bytes : Bytes} {text : List Char} :
    decode? bytes = some text ↔ pieces bytes = text.map some := by
  unfold decode?
  constructor
  · intro h
    dsimp only at h
    split at h
    · rename_i hall
      simp only [Option.some.injEq] at h
      subst h
      generalize pieces bytes = found at hall
      induction found with
      | nil => rfl
      | cons p rest ih =>
          cases p with
          | none => simp at hall
          | some c =>
              simp only [List.all_cons, Bool.and_eq_true] at hall
              simpa using ih hall.2
    · simp at h
  · intro h
    simp [h]

end Utf8

end AssemblyGate
