/-
**Reading JSON.**

A text is read from left to right by one function for each kind of phrase; each returns what it read
and what follows.  Lists and objects may stand inside one another at most 127 deep.  The amount of
fuel is the length of the text and never runs out.

Main definitions:

* `AssemblyGate.Json.readText` — the rest of a quoted text, its opening quote being read already;
* `AssemblyGate.Json.readValue` — a value;
* `AssemblyGate.Json.parse?` — the value of a whole UTF-8 text.
-/
import AssemblyGate.Json.Number
import AssemblyGate.Text.Utf8

set_option autoImplicit false

namespace AssemblyGate.Json

/-- The deepest nesting of lists and objects. -/
def maxDepth : Nat := 127

/-- The characters that may stand between two phrases. -/
def isGap (c : Char) : Bool := c = ' ' || c = '\t' || c = '\n' || c = '\r'

/-- What follows the gap at the front of a text. -/
def skipGap (input : List Char) : List Char := input.dropWhile isGap

/-! ### Quoted texts -/

/-- The number that four hexadecimal digits denote. -/
def unit? (a b c d : Char) : Option Nat :=
  match Numeral.hexDigit? a, Numeral.hexDigit? b, Numeral.hexDigit? c, Numeral.hexDigit? d with
  | some a, some b, some c, some d => some (((a * 16 + b) * 16 + c) * 16 + d)
  | _, _, _, _ => none

/-- Whether a number is the first half of a pair. -/
def isHigh (u : Nat) : Bool := 0xD800 ≤ u && u < 0xDC00

/-- Whether a number is the second half of a pair. -/
def isLow (u : Nat) : Bool := 0xDC00 ≤ u && u < 0xE000

/-- The character of a pair of halves. -/
def pair (high low : Nat) : Char :=
  Char.ofNat (0x10000 + (high - 0xD800) * 0x400 + (low - 0xDC00))

/-- The character that a one-letter escape stands for. -/
def shortEscape? (c : Char) : Option Char :=
  if c = '"' ∨ c = '\\' ∨ c = '/' then some c
  else if c = 'b' then some '\x08'
  else if c = 'f' then some '\x0c'
  else if c = 'n' then some '\n'
  else if c = 'r' then some '\r'
  else if c = 't' then some '\t'
  else none

/-- Read up to the closing quote; `done` has been read already, last character first. -/
def readText (done : List Char) : List Char → Option (String × List Char)
  | [] => none
  | c :: rest =>
      if c = '"' then some (String.ofList done.reverse, rest)
      else if c.toNat < 0x20 then none
      else if c = '\\' then
        match rest with
        | [] => none
        | e :: rest =>
            if e = 'u' then
              match rest with
              | h₁ :: h₂ :: h₃ :: h₄ :: rest =>
                  match unit? h₁ h₂ h₃ h₄ with
                  | none => none
                  | some u =>
                      if isHigh u then
                        match rest with
                        | b :: v :: l₁ :: l₂ :: l₃ :: l₄ :: rest =>
                            if b = '\\' ∧ v = 'u' then
                              match unit? l₁ l₂ l₃ l₄ with
                              | none => none
                              | some l => if isLow l then readText (pair u l :: done) rest else none
                            else none
                        | _ => none
                      else if isLow u then none
                      else readText (Char.ofNat u :: done) rest
              | _ => none
            else
              match shortEscape? e with
              | none => none
              | some x => readText (x :: done) rest
      else readText (c :: done) rest

/-! ### Values -/

/-- Read a number. -/
def readNumber (input : List Char) : Option (Json × List Char) :=
  match JsonNumber.Literal.read? input with
  | none => none
  | some (literal, rest) => literal.value?.map fun n => (.number n, rest)

/-- Read the name of a member and the colon after it. -/
def readName (input : List Char) : Option (String × List Char) :=
  match input with
  | '"' :: rest =>
      match readText [] rest with
      | none => none
      | some (name, rest) =>
          match skipGap rest with
          | ':' :: rest => some (name, skipGap rest)
          | _ => none
  | _ => none

mutual

/-- Read a value of which `depth` levels may still be lists or objects. -/
def readValue : Nat → Nat → List Char → Option (Json × List Char)
  | 0, _, _ => none
  | fuel + 1, depth, input =>
      match input with
      | 'n' :: 'u' :: 'l' :: 'l' :: rest => some (.null, rest)
      | 't' :: 'r' :: 'u' :: 'e' :: rest => some (.bool true, rest)
      | 'f' :: 'a' :: 'l' :: 's' :: 'e' :: rest => some (.bool false, rest)
      | '"' :: rest => (readText [] rest).map fun (s, rest) => (.text s, rest)
      | '[' :: rest =>
          match depth with
          | 0 => none
          | depth + 1 =>
              match skipGap rest with
              | ']' :: rest => some (.list [], rest)
              | rest => readItems fuel depth [] rest
      | '\x7b' :: rest =>
          match depth with
          | 0 => none
          | depth + 1 =>
              match skipGap rest with
              | '\x7d' :: rest => some (.object [], rest)
              | rest => readMembers fuel depth [] rest
      | _ => readNumber input

/-- Read the items of a list up to its closing bracket; `done` has been read, last item first. -/
def readItems : Nat → Nat → List Json → List Char → Option (Json × List Char)
  | 0, _, _, _ => none
  | fuel + 1, depth, done, input =>
      match readValue fuel depth input with
      | none => none
      | some (item, rest) =>
          match skipGap rest with
          | ',' :: rest => readItems fuel depth (item :: done) (skipGap rest)
          | ']' :: rest => some (.list (item :: done).reverse, rest)
          | _ => none

/-- Read the members of an object up to its closing brace; `done` has been read, last one first. -/
def readMembers : Nat → Nat → List (String × Json) → List Char → Option (Json × List Char)
  | 0, _, _, _ => none
  | fuel + 1, depth, done, input =>
      match readName input with
      | none => none
      | some (name, rest) =>
          match readValue fuel depth rest with
          | none => none
          | some (value, rest) =>
              match skipGap rest with
              | ',' :: rest => readMembers fuel depth ((name, value) :: done) (skipGap rest)
              | '\x7d' :: rest => some (.object ((name, value) :: done).reverse, rest)
              | _ => none

end

/-- The value of a whole text: one value with nothing but gaps around it. -/
def ofChars? (input : List Char) : Option Json :=
  match readValue (2 * input.length + 2) maxDepth (skipGap input) with
  | none => none
  | some (value, rest) => if (skipGap rest).isEmpty then some value else none

/-- The value of a UTF-8 text. -/
def parse? (bytes : Bytes) : Option Json := (Utf8.decode? bytes).bind ofChars?

end AssemblyGate.Json
