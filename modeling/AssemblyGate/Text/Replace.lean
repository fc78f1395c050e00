/-
**Replacing one text by another.**

`AssemblyGate.replaceAll` goes through a text from left to right and puts the replacement in place
of every occurrence of the needle that does not overlap an earlier one.  An empty needle occurs
nowhere.
-/

set_option autoImplicit false

namespace AssemblyGate

/-- The walk behind `replaceAll`: `skip` characters belong to an occurrence that has been replaced
already, and `done` is the output so far, last character first. -/
def replaceFrom (needle replacement : List Char) : Nat → List Char → List Char → List Char
  | _, [], done => done.reverse
  | skip + 1, _ :: rest, done => replaceFrom needle replacement skip rest done
  | 0, c :: rest, done =>
      if needle.isPrefixOf (c :: rest) then
        replaceFrom needle replacement (needle.length - 1) rest (replacement.reverse ++ done)
      else replaceFrom needle replacement 0 rest (c :: done)

/-- Put `replacement` in place of every occurrence of `needle`. -/
def replaceAll (needle replacement text : List Char) : List Char :=
  if needle.isEmpty then text else replaceFrom needle replacement 0 text []

/-- What has been written stays in front. -/
theorem replaceFrom_eq (needle replacement : List Char) (text : List Char) :
    ∀ (skip : Nat) (done : List Char),
      replaceFrom needle replacement skip text done
        = done.reverse ++ replaceFrom needle replacement skip text [] := by
  induction text with
  | nil => intro skip done; cases skip <;> simp [replaceFrom]
  | cons c rest ih =>
      intro skip done
      cases skip with
      | succ skip => simpa [replaceFrom] using ih skip done
      | zero =>
          simp only [replaceFrom]
          split
          · rw [ih, ih _ (replacement.reverse ++ [])]; simp
          · rw [ih, ih _ [c]]; simp

end AssemblyGate
