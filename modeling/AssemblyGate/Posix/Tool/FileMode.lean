/-
**Modes of files.**

Who may do what with a file is told by nine bits and three more.  A mode is written in octal digits
or as a list of changes, and it is shown by letters.

Main definitions:

* `AssemblyGate.FileMode.change?` — the mode after changes;
* `AssemblyGate.FileMode.shown` — a mode in letters.
-/
import AssemblyGate.Posix.Machine

set_option autoImplicit false

namespace AssemblyGate.FileMode

/-- The bits that letters for persons stand for. -/
def personBits (c : Char) : Option Nat :=
  match c with
  | 'u' => some 0o4700
  | 'g' => some 0o2070
  | 'o' => some 0o1007
  | 'a' => some 0o7777
  | _ => none

/-- The bits that a letter for a permission stands for, for everyone. -/
def permissionBits (isDirectory : Bool) (mode : Nat) (c : Char) : Option Nat :=
  match c with
  | 'r' => some 0o444
  | 'w' => some 0o222
  | 'x' => some 0o111
  | 'X' => some (if isDirectory || mode &&& 0o111 != 0 then 0o111 else 0)
  | 's' => some 0o6000
  | 't' => some 0o1000
  | 'u' => some (mode / 64 % 8 * 0o111)
  | 'g' => some (mode / 8 % 8 * 0o111)
  | 'o' => some (mode % 8 * 0o111)
  | _ => none

/-- The bits of a number that another one does not have. -/
def without (n taken : Nat) : Nat := n - (n &&& taken)

/-- The mode after a sign with its permissions, and all that follow for the same persons. -/
def applySigns (isDirectory : Bool) (bits : Nat) : Nat → List Char → Nat → Option Nat
  | 0, _, _ => none
  | _, [], mode => some mode
  | room + 1, sign :: rest, mode =>
      let letters := rest.takeWhile fun c => (permissionBits isDirectory mode c).isSome
      let after := rest.drop letters.length
      let wanted := letters.foldl
        (fun n c => n ||| (permissionBits isDirectory mode c).getD 0) 0 &&& bits
      match sign with
      | '+' => applySigns isDirectory bits room after (mode ||| wanted)
      | '-' => applySigns isDirectory bits room after (without mode wanted)
      | '=' => applySigns isDirectory bits room after (without mode (bits &&& 0o7777) ||| wanted)
      | _ => none

/-- The mode after one change of a list.  Where no person is named, the bits of a mask are left
alone. -/
def applyClause (mask : Nat) (isDirectory : Bool) (clause : List Char) (mode : Nat) : Option Nat :=
  let persons := clause.takeWhile fun c => (personBits c).isSome
  let rest := clause.drop persons.length
  let bits := if persons.isEmpty then without 0o7777 mask
    else persons.foldl (fun n c => n ||| (personBits c).getD 0) 0
  if rest.isEmpty then none else applySigns isDirectory bits (rest.length + 1) rest mode

/-- The mode after the changes that a text spells, or the one that its octal digits are. -/
def change? (mask : Nat) (isDirectory : Bool) (text : List Char) (mode : Nat) : Option Nat :=
  if text.isEmpty then none
  else if text.all fun c => '0' ≤ c && c ≤ '7' then
    let n := text.foldl (fun n c => n * 8 + (c.toNat - '0'.toNat)) 0
    if n ≤ 0o7777 then some n else none
  else
    (ByteText.split ',' text).foldl
      (fun mode clause => mode.bind (applyClause mask isDirectory clause)) (some mode)

/-- Three bits of a mode in letters. -/
def shownBits (bits : Nat) (special : Bool) (letter : Char) : List Char :=
  [if bits &&& 4 != 0 then 'r' else '-', if bits &&& 2 != 0 then 'w' else '-',
    if special then (if bits &&& 1 != 0 then letter else letter.toUpper)
    else if bits &&& 1 != 0 then 'x' else '-']

/-- A mode in letters. -/
def shown (mode : Nat) : List Char :=
  shownBits (mode / 64 % 8) (mode &&& 0o4000 != 0) 's' ++
    shownBits (mode / 8 % 8) (mode &&& 0o2000 != 0) 's'
    ++ shownBits (mode % 8) (mode &&& 0o1000 != 0) 't'

end AssemblyGate.FileMode
