/-
**Levels of log messages.**

Four levels, from the most to the least talkative.  A message is written when its level is at least
the threshold that is set.
-/
import AssemblyGate.Text.LowerCase

set_option autoImplicit false

namespace AssemblyGate

/-- The level of a message, or the threshold that messages must reach. -/
inductive Level
  | debug
  | info
  | warn
  | error
deriving DecidableEq

namespace Level

/-- The place of a level in the order. -/
def rank : Level → Nat
  | .debug => 0
  | .info => 1
  | .warn => 2
  | .error => 3

instance : LE Level := ⟨fun a b => a.rank ≤ b.rank⟩

instance (a b : Level) : Decidable (a ≤ b) := inferInstanceAs (Decidable (a.rank ≤ b.rank))

instance : Ord Level := ⟨fun a b => compare a.rank b.rank⟩

/-- The level of a name, which is compared without regard to the case of ASCII letters.  A name
that is not known means `info`. -/
def ofName (name : String) : Level :=
  let small := String.ofList (lowerAscii name.toList)
  if small = "debug" ∨ small = "trace" then .debug
  else if small = "warn" ∨ small = "warning" then .warn
  else if small = "error" then .error
  else .info

theorem le_trans {a b c : Level} (h : a ≤ b) (k : b ≤ c) : a ≤ c := Nat.le_trans h k

end Level

end AssemblyGate
