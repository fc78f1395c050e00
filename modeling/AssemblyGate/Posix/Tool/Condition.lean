/-
**Conditions.**

The conditions that can be asked of words and of files.  A condition is read from left to right;
what a word means depends on the words after it.

Main definitions:

* `AssemblyGate.Condition.unary`, `AssemblyGate.Condition.binary` — conditions about one and two
  words;
* `AssemblyGate.Condition.holds` — whether the condition that words spell holds;
* `AssemblyGate.Tool.test` — the tool that asks.
-/
import AssemblyGate.Posix.Tool.Basic

set_option autoImplicit false

namespace AssemblyGate

namespace Condition

/-! ### Signs -/

/-- What a sign stands between or in front of. -/
inductive Kind
  | unary
  | binary
  | negation
  | both
  | either
  | opening
  | closing
deriving DecidableEq

/-- The signs in front of one word, without their hyphens. -/
def unarySigns : List Char :=
  ['r', 'w', 'x', 'e', 'f', 'd', 'c', 'b', 'p', 'u', 'g', 'k', 's', 't', 'z', 'n', 'h', 'O', 'G', 'L',
    'S']

/-- The signs between two words. -/
def binarySigns : List String :=
  ["=", "!=", "<", ">", "-eq", "-ne", "-ge", "-gt", "-le", "-lt", "-nt", "-ot", "-ef"]

/-- The kind of a word that is a sign. -/
def kind? (word : ByteText) : Option Kind :=
  match word with
  | ['!'] => some .negation
  | ['-', 'a'] => some .both
  | ['-', 'o'] => some .either
  | ['('] => some .opening
  | [')'] => some .closing
  | ['-', c] => if unarySigns.contains c then some .unary else none
  | _ => if binarySigns.contains (String.ofList word) then some .binary else none

/-- Whether a word, with those after it, stands for itself though it looks like a sign in front of
one. -/
def standsAlone (after : List ByteText) : Bool :=
  match after with
  | [] => true
  | [_] => false
  | word :: _ => kind? word = some .binary

/-- The kind that the first of some words has; nothing where it stands for itself. -/
def kindAt (words : List ByteText) : Option Kind :=
  match words with
  | [] => none
  | word :: after =>
      match kind? word with
      | some .unary => if standsAlone after then none else some .unary
      | some .opening => if after.isEmpty then none else some .opening
      | other => other

/-! ### Single conditions -/

/-- A condition about one word. -/
def unary (m : Machine) (sign : Char) (word : ByteText) : Bool :=
  match sign with
  | 'n' => !word.isEmpty
  | 'z' => word.isEmpty
  | 'e' | 'r' | 'w' | 'O' | 'G' => m.holds word
  | 'f' => m.isFile word
  | 'd' => m.isDirectory word
  | 'x' => m.isSuch Node.isExecutable word
  | 's' => m.isSuch (fun node => match node with | .program _ => true | _ => node.size != 0) word
  | 'c' => m.isSuch (fun node => match node with | .device _ => true | _ => false) word
  | 'h' | 'L' => match m.lstat word with | .ok node => node.isLink | .error _ => false
  | 'u' => m.isSuch (fun node => node.mode &&& 0o4000 != 0) word
  | 'g' => m.isSuch (fun node => node.mode &&& 0o2000 != 0) word
  | 'k' => m.isSuch (fun node => node.mode &&& 0o1000 != 0) word
  | _ => false

/-- An integer that stands in a condition. -/
def integer? (word : ByteText) : Option Int :=
  let isBlank (c : Char) : Bool := c = ' ' || ('\t' ≤ c && c ≤ '\r')
  Numeral.signed? (((word.dropWhile isBlank).reverse.dropWhile isBlank).reverse)

/-- When the file that a path leads to was changed, if there is one. -/
def stampOf? (m : Machine) (path : ByteText) : Option Nat :=
  match m.stat path with
  | .ok (.file info _) => some info.stamp
  | .ok _ => some 0
  | .error _ => none

/-- Whether two paths lead to the same node. -/
def isSame (m : Machine) (a b : ByteText) : Bool :=
  match m.resolve true a, m.resolve true b, m.stat a, m.stat b with
  | .ok p, .ok q, .ok (.file i _), .ok (.file j _) => p.names = q.names || i.number = j.number
  | .ok p, .ok q, .ok _, .ok _ => p.names = q.names
  | _, _, _, _ => false

/-- A condition about two words; a word that is no integer may be in the way. -/
def binary (m : Machine) (sign : String) (a b : ByteText) : Except ByteText Bool :=
  let compare (p : Int → Int → Bool) : Except ByteText Bool :=
    match integer? a, integer? b with
    | some x, some y => .ok (p x y)
    | none, _ => .error (chars "Illegal number: " ++ a)
    | _, none => .error (chars "Illegal number: " ++ b)
  match sign with
  | "=" => .ok (a = b)
  | "!=" => .ok (a ≠ b)
  | "<" => .ok (decide (a < b))
  | ">" => .ok (decide (b < a))
  | "-eq" => compare (· == ·)
  | "-ne" => compare (· != ·)
  | "-lt" => compare (· < ·)
  | "-le" => compare (· ≤ ·)
  | "-gt" => compare (· > ·)
  | "-ge" => compare (· ≥ ·)
  | "-nt" =>
      .ok (match stampOf? m a, stampOf? m b with
        | some x, some y => decide (y < x)
        | some _, none => true
        | none, _ => false)
  | "-ot" =>
      .ok (match stampOf? m a, stampOf? m b with
        | some x, some y => decide (x < y)
        | none, some _ => true
        | _, none => false)
  | _ => .ok (isSame m a b)

/-! ### Joined conditions -/

/-- The answer of a condition, with its last word and those after it, or what is wrong with it. -/
abbrev Answer := Except ByteText (Bool × List ByteText)

/-- How conditions are joined: by or, by and, or not at all. -/
inductive Level
  | either
  | both
  | single
deriving DecidableEq

/-- Read a condition at the front of words, the first of which has a kind. -/
def read (m : Machine) : Nat → Level → Option Kind → List ByteText → Answer
  | 0, _, _, words => .ok (false, words)
  | room + 1, .either, kind, words =>
      match read m room .both kind words with
      | .error e => .error e
      | .ok (a, rest) =>
          if kindAt rest.tail = some .either then
            let next := rest.drop 2
            (read m room .either (kindAt next) next).map fun (b, rest) => (a || b, rest)
          else .ok (a, rest)
  | room + 1, .both, kind, words =>
      match read m room .single kind words with
      | .error e => .error e
      | .ok (a, rest) =>
          if kindAt rest.tail = some .both then
            let next := rest.drop 2
            (read m room .both (kindAt next) next).map fun (b, rest) => (a && b, rest)
          else .ok (a, rest)
  | room + 1, .single, kind, words =>
      match words with
      | [] => .ok (false, [])
      | word :: rest =>
          match kind with
          | some .negation =>
              if rest.isEmpty then .ok (true, words)
              else (read m room .single (kindAt rest) rest).map fun (a, rest) => (!a, rest)
          | some .opening =>
              if kindAt rest = some .closing then .ok (false, rest)
              else
                match read m room .either (kindAt rest) rest with
                | .error e => .error e
                | .ok (a, rest) =>
                    if kindAt rest.tail = some .closing then .ok (a, rest.tail)
                    else .error (chars "closing paren expected")
          | some .unary =>
              match rest with
              | [] => .error (word ++ chars ": argument expected")
              | operand :: _ => .ok (unary m ((word.drop 1).headD 'n') operand, rest)
          | _ =>
              match rest with
              | sign :: more =>
                  if kindAt rest = some .binary then
                    match more with
                    | [] => .error (sign ++ chars ": argument expected")
                    | operand :: _ =>
                        (binary m (String.ofList sign) word operand).map fun a => (a, more)
                  else .ok (!word.isEmpty, words)
              | [] => .ok (!word.isEmpty, words)

/-- Whether the condition that words spell holds, or what is wrong with it.  A few words are looked
at as a whole. -/
def holds (m : Machine) : Nat → List ByteText → Except ByteText Bool
  | 0, _ => .ok false
  | room + 1, words =>
      let whole (words : List ByteText) (kind : Option Kind) : Except ByteText Bool :=
        match read m (4 * words.length + 8) .either kind words with
        | .error e => .error e
        | .ok (answer, rest) =>
            match rest with
            | word :: _ :: _ => .error (word ++ chars ": unexpected operator")
            | _ => .ok answer
      let few (words : List ByteText) : Except ByteText Bool :=
        match words with
        | ['('] :: inner =>
            if inner.getLast? = some [')'] then whole inner.dropLast (kindAt inner.dropLast)
            else whole words (kindAt words)
        | ['!'] :: rest => (holds m room rest).map fun answer => !answer
        | _ => whole words (kindAt words)
      match words with
      | [] => .ok false
      | [_, sign, _] => if kind? sign = some .binary then whole words none else few words
      | [_, _, _, _] => few words
      | _ => whole words (kindAt words)

end Condition

namespace Tool

/-- Ask a condition. -/
def test : Tool := fun t m =>
  match Condition.holds m (t.arguments.length + 1) t.arguments with
  | .ok true => .quiet m 0
  | .ok false => .quiet m 1
  | .error text => .failed m (t.complain text) 2

/-- Ask a condition that a bracket closes. -/
def bracket : Tool := fun t m =>
  if t.arguments.getLast? = some [']'] then test { t with arguments := t.arguments.dropLast } m
  else .failed m (t.complain (chars "missing ]")) 2

end Tool

end AssemblyGate
