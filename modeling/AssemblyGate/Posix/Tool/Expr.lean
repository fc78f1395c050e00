/-
**Expressions among arguments.**

The arguments of a command form an expression: each operator and each operand is one word.  Its
value is a text or a number, and the status of the command tells whether it is nothing.

Main definitions:

* `AssemblyGate.WordExpr.Value` — the values;
* `AssemblyGate.WordExpr.evaluate` — the value of an expression and the words behind it;
* `AssemblyGate.Tool.expr` — the tool.
-/
import AssemblyGate.Posix.Pattern.RegexSyntax
import AssemblyGate.Posix.Tool.Basic

set_option autoImplicit false

namespace AssemblyGate

namespace WordExpr

/-- A value. -/
inductive Value
  | text (t : ByteText)
  | number (n : Int)
deriving DecidableEq

namespace Value

/-- A value as it is said. -/
def shown : Value → ByteText
  | .text t => t
  | .number n => (if n < 0 then ['-'] else []) ++ Numeral.decimal n.natAbs

/-- Whether a value is nothing: an empty text or zero. -/
def isNothing : Value → Bool
  | .number n => n = 0
  | .text t =>
      let digits := if t.head? = some '-' then t.tail else t
      t.isEmpty || !digits.isEmpty && digits.all (· = '0')

/-- The number that a value is or spells. -/
def number? : Value → Option Int
  | .number n => some n
  | .text t =>
      let (negative, digits) := match t with
        | '-' :: digits => (true, digits)
        | digits => (false, digits)
      if digits.isEmpty || !digits.all Numeral.isDigit then none
      else
        let n : Int := Numeral.ofDigits digits
        some (if negative then -n else n)

/-- The value of a truth. -/
def ofBool (b : Bool) : Value := .number (if b then 1 else 0)

end Value

/-- The levels of an expression, the loosest one first. -/
inductive Level
  | either
  | both
  | comparison
  | sum
  | product
  | matching
  | call
  | operand
deriving DecidableEq

/-- The level below a level. -/
def Level.next : Level → Level
  | .either => .both
  | .both => .comparison
  | .comparison => .sum
  | .sum => .product
  | .product => .matching
  | .matching => .call
  | .call | .operand => .operand

/-- The operators of a level. -/
def Level.operators : Level → List String
  | .either => ["|"]
  | .both => ["&"]
  | .comparison => ["<", "<=", "=", "==", "!=", ">=", ">"]
  | .sum => ["+", "-"]
  | .product => ["*", "/", "%"]
  | .matching => [":"]
  | .call | .operand => []

/-- The words of an expression that were read, last one first, and those that were not. -/
structure Words where
  before : List ByteText
  rest : List ByteText

/-- Go past a word. -/
def Words.pass (w : Words) : Words :=
  match w.rest with
  | word :: rest => ⟨word :: w.before, rest⟩
  | [] => w

/-- What is said when a word is missing. -/
def missing {α : Type} (w : Words) : Except ByteText α :=
  .error (chars "syntax error: missing argument after " ++ inPlainQuotes (w.before.headD []))

/-- Match an expression at the front of a text: the text of its first group, or the number of
characters that match. -/
def matched (text pattern : ByteText) : Except ByteText Value :=
  match Regex.parse ⟨.basic, false, false, false⟩ pattern with
  | .error flaw => .error (chars flaw.message)
  | .ok regex =>
      let ends := Regex.ends .plain regex.refersBack regex ⟨0, none, text, []⟩
      match Regex.longest? ends with
      | none => .ok (if 0 < regex.groupCount then .text [] else .number 0)
      | some p =>
          if 0 < regex.groupCount then
            .ok (.text (((p.groups.find? fun g => g.1 == 1).map (·.2)).getD []))
          else .ok (.number p.index)

/-- Whether a comparison holds of an order. -/
def holds (operator : String) (order : Ordering) : Bool :=
  match operator with
  | "<" => order = .lt
  | "<=" => order ≠ .gt
  | "=" | "==" => order = .eq
  | "!=" => order ≠ .eq
  | ">=" => order ≠ .lt
  | _ => order = .gt

/-- The value that an operator makes of two values. -/
def combine (operator : String) (a b : Value) : Except ByteText Value :=
  match operator with
  | "|" => .ok (if !a.isNothing then a else if !b.isNothing then b else .number 0)
  | "&" => .ok (if a.isNothing || b.isNothing then .number 0 else a)
  | ":" => matched a.shown b.shown
  | "+" | "-" | "*" | "/" | "%" =>
      match a.number?, b.number? with
      | some x, some y =>
          match operator with
          | "+" => .ok (.number (x + y))
          | "-" => .ok (.number (x - y))
          | "*" => .ok (.number (x * y))
          | _ =>
              if y = 0 then .error (chars "division by zero")
              else .ok (.number (if operator = "/" then x.tdiv y else x.tmod y))
      | _, _ => .error (chars "non-integer argument")
  | _ =>
      let order := match a.number?, b.number? with
        | some x, some y => compare x y
        | _, _ => if a.shown < b.shown then .lt else if b.shown < a.shown then .gt else .eq
      .ok (.ofBool (holds operator order))

/-- The characters of a text from a place on. -/
def part (text : ByteText) (place count : Value) : Value :=
  match place.number?, count.number? with
  | some p, some c =>
      if p ≤ 0 || c ≤ 0 then .text [] else .text ((text.drop (p.toNat - 1)).take c.toNat)
  | _, _ => .text []

mutual

/-- The value of an expression of a level, and the words behind it.  Where `isLive` does not hold,
the value does not matter, and nothing can go wrong with it. -/
def evaluate : Nat → Level → Bool → Words → Except ByteText (Value × Words)
  | 0, _, _, w => .ok (.number 0, w)
  | room + 1, level, isLive, w =>
      match level with
      | .operand => operand room isLive w
      | .call => callValue room isLive w
      | level =>
          match evaluate room level.next isLive w with
          | .error e => .error e
          | .ok (value, w) => operations room level isLive value w

/-- Apply the operators of a level that follow a value. -/
def operations : Nat → Level → Bool → Value → Words → Except ByteText (Value × Words)
  | 0, _, _, value, w => .ok (value, w)
  | room + 1, level, isLive, value, w =>
      match w.rest with
      | [] => .ok (value, w)
      | word :: _ =>
          match level.operators.find? fun operator => operator.toList == word with
          | none => .ok (value, w)
          | some operator =>
              let isNeeded := match level with
                | .either => isLive && value.isNothing
                | .both => isLive && !value.isNothing
                | _ => isLive
              match evaluate room level.next isNeeded w.pass with
              | .error e => .error e
              | .ok (other, w) =>
                  if !isLive then operations room level isLive value w
                  else
                    match combine operator value other with
                    | .error e => .error e
                    | .ok value => operations room level isLive value w

/-- The value of a call, or of an operand. -/
def callValue : Nat → Bool → Words → Except ByteText (Value × Words)
  | 0, _, w => .ok (.number 0, w)
  | room + 1, isLive, w =>
      let name := (w.rest.head?.map String.ofList).getD ""
      match name with
      | "+" =>
          match w.pass.rest with
          | word :: _ => .ok (.text word, w.pass.pass)
          | [] => missing w.pass
      | "length" =>
          match callValue room isLive w.pass with
          | .error e => .error e
          | .ok (value, w) => .ok (.number value.shown.length, w)
      | "match" | "index" =>
          match callValue room isLive w.pass with
          | .error e => .error e
          | .ok (a, w) =>
              match callValue room isLive w with
              | .error e => .error e
              | .ok (b, w) =>
                  if name = "index" then
                    let place : Nat := match a.shown.findIdx? fun c => b.shown.contains c with
                      | some i => i + 1
                      | none => 0
                    .ok (.number place, w)
                  else if !isLive then .ok (a, w)
                  else (matched a.shown b.shown).map fun value => (value, w)
      | "substr" =>
          match callValue room isLive w.pass with
          | .error e => .error e
          | .ok (a, w) =>
              match callValue room isLive w with
              | .error e => .error e
              | .ok (b, w) =>
                  match callValue room isLive w with
                  | .error e => .error e
                  | .ok (c, w) => .ok (part a.shown b c, w)
      | _ => operand room isLive w

/-- The value of an operand: a word, or an expression in parentheses. -/
def operand : Nat → Bool → Words → Except ByteText (Value × Words)
  | 0, _, w => .ok (.number 0, w)
  | room + 1, isLive, w =>
      match w.rest with
      | [] => missing w
      | ['('] :: _ =>
          match evaluate room .either isLive w.pass with
          | .error e => .error e
          | .ok (value, w) =>
              match w.rest with
              | [')'] :: _ => .ok (value, w.pass)
              | [] =>
                  .error (chars "syntax error: expecting ')' after " ++
                    inPlainQuotes (w.before.headD []))
              | word :: _ =>
                  .error (chars "syntax error: expecting ')' instead of " ++ inPlainQuotes word)
      | [')'] :: _ => .error (chars "syntax error: unexpected ')'")
      | word :: _ => .ok (.text word, w.pass)

end

/-- The value of words. -/
def valueOf (words : List ByteText) : Except ByteText Value :=
  match evaluate (12 * words.length + 12) .either true ⟨[], words⟩ with
  | .error e => .error e
  | .ok (value, w) =>
      match w.rest with
      | [] => .ok value
      | word :: _ => .error (chars "syntax error: unexpected argument " ++ inPlainQuotes word)

end WordExpr

/-- Say the value of the expression that the arguments form. -/
def Tool.expr : Tool := fun t m =>
  let words := if t.arguments.head? = some ['-', '-'] then t.arguments.tail else t.arguments
  if words.isEmpty then t.missing m 2
  else
    match WordExpr.valueOf words with
    | .error text => .failed m (t.complain text) 2
    | .ok value => .ended m [⟨false, value.shown ++ ['\n']⟩] (if value.isNothing then 1 else 0)

end AssemblyGate
