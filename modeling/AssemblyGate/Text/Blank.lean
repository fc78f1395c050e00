/-
**Blank text.**

The characters with the Unicode property White_Space, and the texts made of them alone.
-/

set_option autoImplicit false

namespace AssemblyGate

/-- The code point ranges of the property White_Space. -/
def blankRanges : List (Nat × Nat) :=
  [(0x09, 0x0D), (0x20, 0x20), (0x85, 0x85), (0xA0, 0xA0), (0x1680, 0x1680), (0x2000, 0x200A),
    (0x2028, 0x2029), (0x202F, 0x202F), (0x205F, 0x205F), (0x3000, 0x3000)]

/-- Whether a character leaves no mark: a space, a line end, or one of their wider kin. -/
def isBlankChar (c : Char) : Bool :=
  blankRanges.any fun r => r.1 ≤ c.toNat && c.toNat ≤ r.2

/-- Whether a text shows nothing at all. -/
def isBlank (text : List Char) : Bool := text.all isBlankChar

end AssemblyGate
