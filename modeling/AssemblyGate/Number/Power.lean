/-
**Powers of two and of ten.**

The sizes of words and the places of decimals are powers of two small bases.

Main definitions:

* `AssemblyGate.twoTo`, `AssemblyGate.tenTo` — the powers of two and of ten.
-/
set_option autoImplicit false

namespace AssemblyGate

/-- A power of two. -/
abbrev twoTo (n : Nat) : Nat := Nat.pow 2 n

/-- A power of ten. -/
abbrev tenTo (n : Nat) : Nat := Nat.pow 10 n

end AssemblyGate
