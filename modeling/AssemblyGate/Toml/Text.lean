/-
**Texts in TOML.**

A text stands between quotes, and escapes are read between double quotes only; three quotes open a
text of several lines, in which every line end counts as one line feed.

Main definitions:

* `AssemblyGate.Toml.readQuoted` — a text of one line;
* `AssemblyGate.Toml.readText` — a text of either kind.
-/
import AssemblyGate.Text.Numeral

set_option autoImplicit false

namespace AssemblyGate.Toml

/-- Whether a character may stand in a comment or, quotes and backslashes apart, in a text. -/
def isPlain (c : Char) : Bool := c = '\t' || (0x20 ≤ c.toNat && c.toNat ≠ 0x7F)

/-- Whether a character is a blank of one line. -/
def isGap (c : Char) : Bool := c = ' ' || c = '\t'

/-- What follows the blanks at the front of an input. -/
def skipGap (input : List Char) : List Char := input.dropWhile isGap

/-- What follows the line end at the front of an input. -/
def newline? : List Char → Option (List Char)
  | '\n' :: rest => some rest
  | '\r' :: '\n' :: rest => some rest
  | _ => none

/-! ### Escapes -/

/-- The character of a hexadecimal number, if it is one. -/
def scalar? (digits : List Char) : Option Char :=
  if digits.all (fun c => (Numeral.hexDigit? c).isSome) then
    let n := digits.foldl (fun n c => n * 16 + (Numeral.hexDigit? c).getD 0) 0
    if n < 0xD800 ∨ (0xDFFF < n ∧ n < 0x110000) then some (Char.ofNat n) else none
  else none

/-- The character that a one-letter escape stands for. -/
def shortEscape? (c : Char) : Option Char :=
  if c = '"' ∨ c = '\\' then some c
  else if c = 'b' then some '\x08'
  else if c = 'f' then some '\x0c'
  else if c = 'n' then some '\n'
  else if c = 'r' then some '\r'
  else if c = 't' then some '\t'
  else none

/-- Whether a backslash before this input joins two lines. -/
def joinsLines (input : List Char) : Bool := (newline? (skipGap input)).isSome

/-! ### One line -/

/-- Read up to the closing double quote; `done` has been read, last character first. -/
def readBasic (done : List Char) : List Char → Option (String × List Char)
  | [] => none
  | c :: rest =>
      if c = '"' then some (String.ofList done.reverse, rest)
      else if c = '\\' then
        match rest with
        | [] => none
        | e :: rest =>
            if e = 'u' then
              match rest with
              | a :: b :: c :: d :: rest =>
                  match scalar? [a, b, c, d] with
                  | some x => readBasic (x :: done) rest
                  | none => none
              | _ => none
            else if e = 'U' then
              match rest with
              | a :: b :: c :: d :: e :: f :: g :: h :: rest =>
                  match scalar? [a, b, c, d, e, f, g, h] with
                  | some x => readBasic (x :: done) rest
                  | none => none
              | _ => none
            else
              match shortEscape? e with
              | some x => readBasic (x :: done) rest
              | none => none
      else if isPlain c then readBasic (c :: done) rest
      else none

/-- Read up to the closing single quote; nothing is escaped. -/
def readLiteral (done : List Char) : List Char → Option (String × List Char)
  | [] => none
  | c :: rest =>
      if c = '\x27' then some (String.ofList done.reverse, rest)
      else if isPlain c then readLiteral (c :: done) rest
      else none

/-- A text of one line, between quotes of either kind. -/
def readQuoted : List Char → Option (String × List Char)
  | '"' :: rest => readBasic [] rest
  | '\x27' :: rest => readLiteral [] rest
  | _ => none

/-! ### Several lines -/

/-- The end of a text at a run of quotes: the quotes that belong to the text, and what follows.
Three quotes close it, and up to two may stand before them. -/
def closing? (quote : Char) (input : List Char) : Option (Nat × List Char) :=
  let run := (input.take 5).takeWhile (· = quote)
  if 3 ≤ run.length then some (run.length - 3, input.drop run.length) else none

/-- Read a text of several lines up to its three double quotes.  While `joining`, line ends and
blanks are passed over. -/
def readLongBasic (joining : Bool) (done : List Char) : List Char → Option (String × List Char)
  | [] => none
  | c :: rest =>
      if joining && (isGap c || c = '\n') then readLongBasic true done rest
      else if c = '\n' then readLongBasic false ('\n' :: done) rest
      else if c = '\r' then
        match rest with
        | '\n' :: rest => readLongBasic joining (if joining then done else '\n' :: done) rest
        | _ => none
      else if c = '"' then
        match closing? '"' (c :: rest) with
        | some (quotes, rest) =>
            some (String.ofList (done.reverse ++ List.replicate quotes '"'), rest)
        | none => readLongBasic false ('"' :: done) rest
      else if c = '\\' then
        if joinsLines rest then readLongBasic true done rest
        else
          match rest with
          | [] => none
          | e :: rest =>
              if e = 'u' then
                match rest with
                | a :: b :: c :: d :: rest =>
                    match scalar? [a, b, c, d] with
                    | some x => readLongBasic false (x :: done) rest
                    | none => none
                | _ => none
              else if e = 'U' then
                match rest with
                | a :: b :: c :: d :: e :: f :: g :: h :: rest =>
                    match scalar? [a, b, c, d, e, f, g, h] with
                    | some x => readLongBasic false (x :: done) rest
                    | none => none
                | _ => none
              else
                match shortEscape? e with
                | some x => readLongBasic false (x :: done) rest
                | none => none
      else if isPlain c then readLongBasic false (c :: done) rest
      else none

/-- Read a text of several lines up to its three single quotes. -/
def readLongLiteral (done : List Char) : List Char → Option (String × List Char)
  | [] => none
  | c :: rest =>
      if c = '\n' then readLongLiteral ('\n' :: done) rest
      else if c = '\r' then
        match rest with
        | '\n' :: rest => readLongLiteral ('\n' :: done) rest
        | _ => none
      else if c = '\x27' then
        match closing? '\x27' (c :: rest) with
        | some (quotes, rest) =>
            some (String.ofList (done.reverse ++ List.replicate quotes '\x27'), rest)
        | none => readLongLiteral ('\x27' :: done) rest
      else if isPlain c then readLongLiteral (c :: done) rest
      else none

/-- What follows the line end that may open a text of several lines. -/
def skipFirstNewline (input : List Char) : List Char := (newline? input).getD input

/-- A text of either kind. -/
def readText : List Char → Option (String × List Char)
  | '"' :: '"' :: '"' :: rest => readLongBasic false [] (skipFirstNewline rest)
  | '\x27' :: '\x27' :: '\x27' :: rest => readLongLiteral [] (skipFirstNewline rest)
  | input => readQuoted input

end AssemblyGate.Toml
