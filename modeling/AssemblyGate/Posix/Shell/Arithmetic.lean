/-
**Arithmetic of the shell.**

Expressions over integers of 64 bits that wrap around.  An expression is worked out while it is
read; a branch that does not count is read without effect.  Variables are looked up, and the
expression may give them values, which count from there on.

Main definitions:

* `AssemblyGate.Shell.Arithmetic.tokens` — the tokens of a text;
* `AssemblyGate.Shell.Arithmetic.evaluate` — the value of a text, with the variables that it sets.
-/
import AssemblyGate.Posix.Pattern.CharSet
import AssemblyGate.Posix.Shell.Reading

set_option autoImplicit false

namespace AssemblyGate.Shell.Arithmetic

/-! ### Tokens -/

/-- A token of an expression. -/
inductive Token
  | number (n : Int)
  | name (text : ByteText)
  | sign (text : String)
  | unknown
deriving DecidableEq

/-- The signs, longer ones first. -/
def signs : List String :=
  ["<<=", ">>=", "<<", ">>", "<=", ">=", "==", "!=", "&&", "||", "+=", "-=", "*=", "/=", "%=", "&=",
    "|=", "^=", "+", "-", "*", "/", "%", "<", ">", "=", "!", "~", "&", "|", "^", "?", ":", "(", ")"]

/-- The largest integer. -/
def maxInteger : Int := twoTo 63 - 1

/-- An integer brought into the range of 64 bits. -/
def wrap (n : Int) : Int := Int.bmod n (twoTo 64)

/-- The digits of a base at the front of a text, and what follows them. -/
def digits (base : Nat) (text : ByteText) : ByteText × ByteText :=
  text.span fun c => (Numeral.hexDigit? c).any (· < base)

/-- The number that digits of a base denote. -/
def ofDigits (base : Nat) (text : ByteText) : Nat :=
  text.foldl (fun n c => n * base + (Numeral.hexDigit? c).getD 0) 0

/-- The number at the front of a text, in the base that its first characters tell, and what follows
it; nothing where there is no digit. -/
def literal? (text : ByteText) : Option (Nat × ByteText) :=
  let inBase (base : Nat) (text : ByteText) : Option (Nat × ByteText) :=
    match digits base text with
    | ([], _) => none
    | (found, rest) => some (ofDigits base found, rest)
  match text with
  | '0' :: 'x' :: rest | '0' :: 'X' :: rest => (inBase 16 rest).orElse fun _ => some (0, text.tail)
  | '0' :: _ => inBase 8 text
  | _ => inBase 10 text

/-- The tokens of a text, up to the first character that means nothing. -/
def tokensFrom : Nat → List Token → ByteText → List Token
  | 0, done, _ => done.reverse
  | _, done, [] => done.reverse
  | room + 1, done, c :: rest =>
      let input := c :: rest
      if c = ' ' || c = '\t' || c = '\n' then tokensFrom room done rest
      else if isNameStart c then
        tokensFrom room (.name (input.takeWhile isNameChar) :: done) (input.dropWhile isNameChar)
      else
        match literal? input with
        | some (n, rest) => tokensFrom room (.number (min n maxInteger) :: done) rest
        | none =>
            match signs.find? fun s => s.toList.isPrefixOf input with
            | some s => tokensFrom room (.sign s :: done) (input.drop s.length)
            | none => (Token.unknown :: done).reverse

/-- The tokens of a text. -/
def tokens (text : ByteText) : List Token := tokensFrom (text.length + 1) [] text

/-! ### Signs -/

/-- How tightly a sign between two operands binds. -/
def strength? (sign : String) : Option Nat :=
  match sign with
  | "|" => some 1
  | "^" => some 2
  | "&" => some 3
  | "==" | "!=" => some 4
  | "<" | "<=" | ">" | ">=" => some 5
  | "<<" | ">>" => some 6
  | "+" | "-" => some 7
  | "*" | "/" | "%" => some 8
  | _ => none

/-- The sign of an assignment without its equals sign. -/
def assignment? (sign : String) : Option String :=
  match sign with
  | "=" => some ""
  | "+=" => some "+"
  | "-=" => some "-"
  | "*=" => some "*"
  | "/=" => some "/"
  | "%=" => some "%"
  | "<<=" => some "<<"
  | ">>=" => some ">>"
  | "&=" => some "&"
  | "|=" => some "|"
  | "^=" => some "^"
  | _ => none

/-- One for a condition that holds, zero otherwise. -/
def ofBool (b : Bool) : Int := if b then 1 else 0

/-- What a sign between two numbers makes of them; nothing is divided by zero. -/
def combine? (sign : String) (a b : Int) : Option Int :=
  let word (n : Int) : Nat := (n % twoTo 64).toNat
  match sign with
  | "" => some b
  | "+" => some (wrap (a + b))
  | "-" => some (wrap (a - b))
  | "*" => some (wrap (a * b))
  | "/" => if b = 0 then none else some (wrap (Int.tdiv a b))
  | "%" => if b = 0 then none else some (wrap (Int.tmod a b))
  | "<<" => some (wrap (a * twoTo (word b % 64)))
  | ">>" => some (Int.fdiv a (twoTo (word b % 64)))
  | "&" => some (wrap (word a &&& word b : Nat))
  | "|" => some (wrap (word a ||| word b : Nat))
  | "^" => some (wrap (word a ^^^ word b : Nat))
  | "==" => some (ofBool (a == b))
  | "!=" => some (ofBool (a != b))
  | "<" => some (ofBool (a < b))
  | "<=" => some (ofBool (a ≤ b))
  | ">" => some (ofBool (a > b))
  | ">=" => some (ofBool (a ≥ b))
  | _ => none

/-! ### Values -/

/-- Variables with their values. -/
abbrev Values := List (ByteText × ByteText)

/-- What is wrong with an expression: its form, or a variable that is no number. -/
inductive Flaw
  | form (cause : String)
  | illegal (text : ByteText)
deriving DecidableEq

/-- The integer that a whole text denotes, with blanks around it; no text at all denotes zero. -/
def integer? (text : ByteText) : Except Flaw Int :=
  let isBlank (c : Char) : Bool := CharSet.inRanges CharSet.spaceRanges c
  let start := text.dropWhile isBlank
  let (negative, body) := match start with
    | '-' :: rest => (true, rest)
    | '+' :: rest => (false, rest)
    | _ => (false, start)
  match literal? body with
  | none => if text.isEmpty then .ok 0 else .error (.illegal text)
  | some (n, rest) =>
      let fits := if negative then n ≤ twoTo 63 else n < twoTo 63
      if fits && rest.all isBlank then .ok (if negative then -n else n) else .error (.illegal text)

/-- The work on an expression: the tokens that are left, and the variables. -/
structure Work where
  rest : List Token
  values : Values

/-- A step of the work. -/
abbrev WorkM := StateT Work (Except Flaw)

/-- Give up because of the form of the expression. -/
def wrong {α : Type} (cause : String) : WorkM α := throw (.form cause)

/-- The sign that comes next. -/
def nextSign : WorkM String := do
  match (← get).rest with
  | .sign s :: _ => return s
  | _ => return ""

/-- Go past a token. -/
def advance : WorkM Unit := modify fun w => { w with rest := w.rest.tail }

/-- The number of a variable; one that is not set counts as zero. -/
def lookUp (name : ByteText) : WorkM Int := do
  match (← get).values.find? fun v => v.1 == name with
  | some (_, text) =>
      match integer? text with
      | .ok n => return n
      | .error flaw => throw flaw
  | none => return 0

/-- What a sign makes of two numbers. -/
def combine (sign : String) (a b : Int) : WorkM Int :=
  match combine? sign a b with
  | some n => return n
  | none => wrong "division by zero"

/-- What is read: an assignment or less, a choice or less, operands joined by or or less, by and or
less, by a sign that binds at least with a strength, or a single operand; operands joined by signs
may go on after a first one. -/
inductive Goal
  | whole
  | choice
  | either
  | both
  | joined
  | further (least : Nat) (first : Int)
  | operand
deriving DecidableEq

/-- Read and work out what is wanted.  `idle` tells that it does not count. -/
def work : Nat → Goal → Bool → WorkM Int
  | 0, _, _ => wrong "expecting primary"
  | room + 1, .whole, idle => do
      match (← get).rest with
      | .name name :: .sign s :: rest =>
          match assignment? s with
          | none => work room .choice idle
          | some sign =>
              modify fun w => { w with rest }
              let b ← work room .whole idle
              if idle then return b
              else
                let n ← if sign = "" then pure b else combine sign (← lookUp name) b
                modify fun w => { w with values := (name, Numeral.integer n) :: w.values }
                return n
      | _ => work room .choice idle
  | room + 1, .choice, idle => do
      let condition ← work room .either idle
      if (← nextSign) = "?" then
        advance
        let a ← work room .whole (idle || condition = 0)
        if (← nextSign) ≠ ":" then wrong "expecting ':'"
        else
          advance
          let b ← work room .choice (idle || condition ≠ 0)
          return if condition ≠ 0 then a else b
      else return condition
  | room + 1, .either, idle => do
      let a ← work room .both idle
      if (← nextSign) = "||" then
        advance
        let b ← work room .either (idle || a ≠ 0)
        return ofBool (a ≠ 0 || b ≠ 0)
      else return a
  | room + 1, .both, idle => do
      let a ← work room .joined idle
      if (← nextSign) = "&&" then
        advance
        let b ← work room .both (idle || a = 0)
        return ofBool (a ≠ 0 && b ≠ 0)
      else return a
  | room + 1, .joined, idle => do
      let a ← work room .operand idle
      work room (.further 1 a) idle
  | room + 1, .further least a, idle => do
      let sign ← nextSign
      match strength? sign with
      | none => return a
      | some strength =>
          if strength < least then return a
          else
            advance
            let operand ← work room .operand idle
            let b ← work room (.further (strength + 1) operand) idle
            let n ← if idle then pure b else combine sign a b
            work room (.further least n) idle
  | room + 1, .operand, idle => do
      match (← get).rest with
      | .number n :: _ =>
          advance
          return n
      | .name name :: _ =>
          advance
          if idle then return 0 else lookUp name
      | .sign "(" :: _ =>
          advance
          let n ← work room .whole idle
          if (← nextSign) = ")" then
            advance
            return n
          else wrong "expecting ')'"
      | .sign "-" :: _ =>
          advance
          return wrap (-(← work room .operand idle))
      | .sign "+" :: _ =>
          advance
          work room .operand idle
      | .sign "!" :: _ =>
          advance
          return ofBool ((← work room .operand idle) = 0)
      | .sign "~" :: _ =>
          advance
          return -(← work room .operand idle) - 1
      | _ => wrong "expecting primary"

/-- The value of a text, with the variables that it sets, first one first. -/
def evaluate (values : Values) (text : ByteText) : Except Flaw (Int × Values) :=
  let all := tokens text
  let whole : WorkM Int := do
    let n ← work (20 * all.length + 20) .whole false
    if (← get).rest.isEmpty then return n else wrong "expecting EOF"
  match whole.run ⟨all, values⟩ with
  | .ok (n, w) => .ok (n, (w.values.take (w.values.length - values.length)).reverse)
  | .error flaw => .error flaw

/-- What is said about an expression. -/
def Flaw.message (text : ByteText) : Flaw → ByteText
  | .form cause =>
      ("arithmetic expression: " ++ cause ++ ": ").toList ++ '"' :: text ++ ['"']
  | .illegal value => "Illegal number: ".toList ++ value

end AssemblyGate.Shell.Arithmetic
