/-
**The grammar of JSON texts.**

Which texts are JSON is said here once more, as a relation between a phrase and what it denotes, and
without a reader: gaps, quoted texts with their escapes, written numbers, lists and objects.  Of a
value the relation keeps what a client's submission needs, the text if it is a text and nothing
otherwise; of an object it keeps the members in order.

The depth of a phrase is the number of lists and objects that may still stand inside one another.
Which written numbers are small enough is a parameter `fits`; the grammar has no other link to
numbers.

Main definitions:

* `AssemblyGate.JsonText.Symbol`, `AssemblyGate.JsonText.Quoted` — a character of a quoted text in
  one of its forms, and the whole quoted text;
* `AssemblyGate.JsonText.Written` — the written form of a number;
* `AssemblyGate.JsonText.Value`, `AssemblyGate.JsonText.Object` — a value, and an object with its
  members;
* `AssemblyGate.JsonText.Submission` — **a text that submits a source**.
-/
import AssemblyGate.Json.Number
import AssemblyGate.Proofs.Text.Numeral

set_option autoImplicit false

namespace AssemblyGate.JsonText

open Numeral (Digits)

/-! ### Gaps -/

/-- What may stand between two phrases: spaces, tabs and line ends. -/
def Gap (s : List Char) : Prop := ∀ c ∈ s, c = ' ' ∨ c = '\t' ∨ c = '\n' ∨ c = '\r'

theorem gap_nil : Gap [] := by simp [Gap]

/-! ### Quoted texts -/

/-- A hexadecimal digit and its value. -/
inductive HexDigit : Char → Nat → Prop
  | decimal {c : Char} : '0' ≤ c → c ≤ '9' → HexDigit c (c.toNat - '0'.toNat)
  | lower {c : Char} : 'a' ≤ c → c ≤ 'f' → HexDigit c (c.toNat - 'a'.toNat + 10)
  | upper {c : Char} : 'A' ≤ c → c ≤ 'F' → HexDigit c (c.toNat - 'A'.toNat + 10)

/-- Four hexadecimal digits and the number that they denote. -/
inductive CodeUnit : List Char → Nat → Prop
  | mk {a b c d : Char} {i j k l : Nat} : HexDigit a i → HexDigit b j → HexDigit c k →
      HexDigit d l → CodeUnit [a, b, c, d] (((i * 16 + j) * 16 + k) * 16 + l)

/-- The characters that stand for another one, or for themselves, after a backslash. -/
inductive Short : Char → Char → Prop
  | quote : Short '"' '"'
  | backslash : Short '\\' '\\'
  | slash : Short '/' '/'
  | backspace : Short 'b' '\x08'
  | formFeed : Short 'f' '\x0c'
  | lineFeed : Short 'n' '\n'
  | carriageReturn : Short 'r' '\r'
  | tab : Short 't' '\t'

/-- One character of a quoted text in one of its written forms: itself, a short escape, its number,
or the numbers of a pair of halves.  A number that belongs to a half has no form of its own. -/
inductive Symbol : List Char → Char → Prop
  | plain {c : Char} : c ≠ '"' → c ≠ '\\' → 0x20 ≤ c.toNat → Symbol [c] c
  | short {e c : Char} : Short e c → Symbol ['\\', e] c
  | unit {w : List Char} {c : Char} : CodeUnit w c.toNat → Symbol ('\\' :: 'u' :: w) c
  | pair {v w : List Char} {high low : Nat} {c : Char} : CodeUnit v high → CodeUnit w low →
      0xD800 ≤ high → high < 0xDC00 → 0xDC00 ≤ low → low < 0xE000 →
      c.toNat = 0x10000 + (high - 0xD800) * 0x400 + (low - 0xDC00) →
      Symbol ('\\' :: 'u' :: v ++ '\\' :: 'u' :: w) c

/-- What stands between the quotes of a quoted text, and the characters that it denotes. -/
inductive Body : List Char → List Char → Prop
  | nil : Body [] []
  | cons {w s : List Char} {c : Char} {text : List Char} : Symbol w c → Body s text →
      Body (w ++ s) (c :: text)

/-- A quoted text and the text that it denotes. -/
inductive Quoted : List Char → String → Prop
  | mk {s : List Char} {text : String} : Body s text.toList → Quoted ('"' :: s ++ ['"']) text

/-! ### Numbers -/

/-- A fraction, which may be missing. -/
inductive Fraction : Option (List Char) → List Char → Prop
  | none : Fraction none []
  | some {d : List Char} : Digits d → Fraction (some d) ('.' :: d)

/-- An exponent, which may be missing. -/
inductive Exponent : Option (Bool × List Char) → List Char → Prop
  | none : Exponent none []
  | bare {e : Char} {d : List Char} : e = 'e' ∨ e = 'E' → Digits d →
      Exponent (some (false, d)) (e :: d)
  | plus {e : Char} {d : List Char} : e = 'e' ∨ e = 'E' → Digits d →
      Exponent (some (false, d)) (e :: '+' :: d)
  | minus {e : Char} {d : List Char} : e = 'e' ∨ e = 'E' → Digits d →
      Exponent (some (true, d)) (e :: '-' :: d)

/-- The sign in front of a number. -/
def sign (negative : Bool) : List Char := if negative then ['-'] else []

/-- The written form of a number.  Only a lone zero begins with a zero. -/
inductive Written : JsonNumber.Literal → List Char → Prop
  | mk {l : JsonNumber.Literal} {f x : List Char} : Digits l.whole →
      (l.whole.head? = some '0' → l.whole = ['0']) → Fraction l.fraction f → Exponent l.exponent x →
      Written l (sign l.negative ++ l.whole ++ f ++ x)

/-! ### Values -/

mutual

/-- A value of a depth, and its text if it is a text. -/
inductive Value (fits : JsonNumber.Literal → Prop) : Nat → List Char → Option String → Prop
  | null {n : Nat} : Value fits n ['n', 'u', 'l', 'l'] none
  | yes {n : Nat} : Value fits n ['t', 'r', 'u', 'e'] none
  | no {n : Nat} : Value fits n ['f', 'a', 'l', 's', 'e'] none
  | number {n : Nat} {l : JsonNumber.Literal} {s : List Char} : Written l s → fits l →
      Value fits n s none
  | text {n : Nat} {s : List Char} {text : String} : Quoted s text → Value fits n s (some text)
  | emptyList {n : Nat} {g : List Char} : Gap g → Value fits (n + 1) ('[' :: g ++ [']']) none
  | list {n : Nat} {s : List Char} : Items fits n s → Value fits (n + 1) ('[' :: s ++ [']']) none
  | object {n : Nat} {s : List Char} {members : List (String × Option String)} :
      Object fits n s members → Value fits n s none

/-- The items of a list with commas between them. -/
inductive Items (fits : JsonNumber.Literal → Prop) : Nat → List Char → Prop
  | one {n : Nat} {g s g' : List Char} {v : Option String} : Gap g → Value fits n s v → Gap g' →
      Items fits n (g ++ s ++ g')
  | cons {n : Nat} {g s g' rest : List Char} {v : Option String} : Gap g → Value fits n s v →
      Gap g' → Items fits n rest → Items fits n (g ++ s ++ g' ++ ',' :: rest)

/-- An object and its members, each a name with the text of its value if that is a text. -/
inductive Object (fits : JsonNumber.Literal → Prop) :
    Nat → List Char → List (String × Option String) → Prop
  | empty {n : Nat} {g : List Char} : Gap g → Object fits (n + 1) ('\x7b' :: g ++ ['\x7d']) []
  | members {n : Nat} {s : List Char} {members : List (String × Option String)} :
      Members fits n s members → Object fits (n + 1) ('\x7b' :: s ++ ['\x7d']) members

/-- The members of an object with commas between them. -/
inductive Members (fits : JsonNumber.Literal → Prop) :
    Nat → List Char → List (String × Option String) → Prop
  | one {n : Nat} {s : List Char} {member : String × Option String} : Member fits n s member →
      Members fits n s [member]
  | cons {n : Nat} {s rest : List Char} {member : String × Option String}
      {members : List (String × Option String)} : Member fits n s member →
      Members fits n rest members → Members fits n (s ++ ',' :: rest) (member :: members)

/-- A member of an object: a name and a value with a colon between them. -/
inductive Member (fits : JsonNumber.Literal → Prop) :
    Nat → List Char → String × Option String → Prop
  | mk {n : Nat} {g k g₁ g₂ s g₃ : List Char} {name : String} {v : Option String} : Gap g →
      Quoted k name → Gap g₁ → Gap g₂ → Value fits n s v → Gap g₃ →
      Member fits n (g ++ k ++ g₁ ++ ':' :: g₂ ++ s ++ g₃) (name, v)

end

/-! ### Submissions -/

/-- The deepest nesting of lists and objects, the outermost object included. -/
def nesting : Nat := 127

/-- The last member of a name has the given value. -/
def LastMember {α : Type} (name : String) (members : List (String × α)) (value : α) : Prop :=
  ∃ before after, members = before ++ (name, value) :: after ∧ ∀ m ∈ after, m.1 ≠ name

/-- **A text that submits a source**: one object with gaps around it, in which the last member named
`assembly` is a text that denotes the source. -/
def Submission (fits : JsonNumber.Literal → Prop) (text : List Char) (source : String) : Prop :=
  ∃ g s g' members, text = g ++ s ++ g' ∧ Gap g ∧ Gap g' ∧ Object fits nesting s members ∧
    LastMember "assembly" members (some source)

end AssemblyGate.JsonText
