/-
**Reading programs of rules.**

The words of a program are read from left to right.  Expressions are read by levels: each level
knows its operators and reads what stands between them on the level below.  Variables get their
places when they are first met.

Main definitions:

* `AssemblyGate.Rules.Complaint` — what may be wrong with a program;
* `AssemblyGate.Rules.Reading` — the work of reading;
* `AssemblyGate.Rules.readProgram` — the program that a text spells.
-/
import AssemblyGate.Posix.Rules.Token
import AssemblyGate.Posix.Rules.Value

set_option autoImplicit false

namespace AssemblyGate.Rules

/-- What is wrong with a program: the line, whether the line is announced as such, and a message. -/
structure Complaint where
  line : Nat
  isNamed : Bool
  message : ByteText

/-- What is known while a program is read: the words that are left, the number of open parentheses
and braces, the names of the variables that all actions share and of those of the function, how
shared variables were used, the name of the function, the number of open loops, whether records are
at hand, the functions that were called, each with the number of arguments and the line, and the
names of the functions that were met. -/
structure Cursor where
  tokens : List (Token × Nat)
  parens : Nat
  braces : Nat
  names : List ByteText
  own : List ByteText
  arrays : List (Nat × Bool)
  function : Option ByteText
  loops : Nat
  hasRecord : Bool
  calls : List (ByteText × Nat × Nat)
  known : List ByteText

/-- The work of reading. -/
abbrev Reading := EStateM Complaint Cursor

namespace Reading

/-! ### Words -/

/-- The next word. -/
def peek : Reading Token := do return ((← get).tokens.head?.map (·.1)).getD .finish

/-- The word after the next one. -/
def peekSecond : Reading Token := do return ((← get).tokens.tail.head?.map (·.1)).getD .finish

/-- The line of the next word. -/
def line : Reading Nat := do return ((← get).tokens.head?.map (·.2)).getD 1

/-- Go past a word. -/
def advance : Reading Unit :=
  modify fun c => { c with tokens := match c.tokens with | _ :: t :: rest => t :: rest | all => all }

/-- Complain. -/
def complain {α : Type} (message : ByteText) : Reading α := do
  throw ⟨← line, true, message⟩

/-- Complain about the next word. -/
def unexpected {α : Type} : Reading α := do
  let c ← get
  let t ← peek
  let closes : Bool := match t with
    | .lineEnd | .finish => true
    | .sign s => s = ";" || s = "\x7d"
    | _ => false
  match t with
  | .flaw message =>
      throw ⟨← line, !(chars "unexpected character").isPrefixOf message, message⟩
  | _ =>
      if closes && 0 < c.parens then complain (chars "missing ) near " ++ t.told)
      else if t = .finish && 0 < c.braces then complain (chars "missing \x7d near end of file")
      else if t.isSign "\x7d" && c.braces = 0 then
        let line ← line
        let more := if (← peekSecond) = .lineEnd then
            chars "\nawk: line " ++ Numeral.decimal line ++
              chars ": syntax error at or near end of line"
          else []
        complain (chars "extra '\x7d'" ++ more)
      else if t.isSign ")" && c.parens = 0 then complain (chars "extra ')'")
      else complain (chars "syntax error at or near " ++ t.told)

/-- Go past a sign if it comes next. -/
def accept (s : String) : Reading Bool := do
  if (← peek).isSign s then advance; return true
  else return false

/-- Go past a sign that has to come next. -/
def expect (s : String) : Reading Unit := do
  if !(← accept s) then unexpected

/-- Go past a word that is no name if it comes next. -/
def acceptWord (w : String) : Reading Bool := do
  if (← peek) = .keyword w then advance; return true
  else return false

/-- Go past line ends. -/
def skipLines : Reading Unit :=
  modify fun c => { c with tokens := c.tokens.dropWhile fun t => t.1 = .lineEnd }

/-- Go past an opening parenthesis that has to come next. -/
def openParen : Reading Unit := do
  expect "("
  modify fun c => { c with parens := c.parens + 1 }

/-- Go past a closing parenthesis that has to come next. -/
def closeParen : Reading Unit := do
  expect ")"
  modify fun c => { c with parens := c.parens - 1 }

/-! ### Variables -/

/-- The variable of a name. -/
def variableOf (name : ByteText) : Reading Name := do
  let c ← get
  match c.own.findIdx? (· == name) with
  | some i => return .own i
  | none =>
      match c.names.findIdx? (· == name) with
      | some i => return .shared i
      | none =>
          set { c with names := c.names ++ [name] }
          return .shared c.names.length

/-- Use a variable as an array, or as one that has a value. -/
def use (n : Name) (asArray : Bool) : Reading Unit := do
  match n with
  | .own _ => return ()
  | .shared i =>
      let c ← get
      match c.arrays.find? fun e => e.1 == i with
      | none => set { c with arrays := (i, asArray) :: c.arrays }
      | some (_, isArray) =>
          if isArray != asArray then
            complain (chars "illegal reference to " ++
              chars (if isArray then "array " else "variable ")
              ++ c.names.getD i [])

/-- The name of a variable. -/
def nameWord : Reading ByteText := do
  match ← peek with
  | .name name _ => advance; return name
  | _ => unexpected

/-- The array whose name comes next. -/
def arrayName : Reading Name := do
  let n ← variableOf (← nameWord)
  use n true
  return n

/-! ### Expressions -/

/-- The expression that a text spells. -/
def readRegex (t : ByteText) : Reading Regex := do
  match regexOf t with
  | .ok regex => return regex
  | .error message => complain message

/-- An expression of which the text is known when the program is read has to be one. -/
def checkPattern (e : Expr) : Reading Expr := do
  match e with
  | .text t => return .regex (← readRegex t)
  | e => return e

/-- Whether an expression is a place for a value. -/
def isPlace : Expr → Bool
  | .name _ | .element .. | .field _ => true
  | _ => false

/-- The operators that give a place a value, with the operation they stand for. -/
def assignments : List (String × Option Operation) :=
  [("=", none), ("+=", some .sum), ("-=", some .difference), ("*=", some .product),
    ("/=", some .quotient), ("%=", some .remainder), ("^=", some .power)]

/-- The operators of comparisons. -/
def comparisons : List (String × Comparison) :=
  [("<", .less), ("<=", .atMost), ("==", .equal), ("!=", .unequal), (">=", .atLeast),
    (">", .greater)]

/-- The levels of expressions that have operators between operands, the loosest one first. -/
inductive Level
  | either
  | both
  | member
  | fit
  | comparison
  | join
  | sum
  | product
deriving DecidableEq

/-- The level below a level, if it has operators between operands too. -/
def Level.next : Level → Option Level
  | .either => some .both
  | .both => some .member
  | .member => some .fit
  | .fit => some .comparison
  | .comparison => some .join
  | .join => some .sum
  | .sum => some .product
  | .product => none

/-- Whether an operand may begin with a word. -/
def beginsOperand : Token → Bool
  | .number .. | .text _ | .regex _ | .name .. | .builtin _ => true
  | .keyword k => k = "getline"
  | .sign s => s = "$" || s = "!" || s = "(" || s = "++" || s = "--" || s = "-" || s = "+"
  | _ => false

/-- Whether an expression ends before a word. -/
def endsItems : Token → Bool
  | .lineEnd | .finish => true
  | .sign s => s = ";" || s = "\x7d" || s = ">" || s = ">>" || s = "|"
  | _ => false

/-- The words behind the parenthesis that closes the one which is open. -/
def behindParen : Nat → List (Token × Nat) → List (Token × Nat)
  | _, [] => []
  | depth, (t, _) :: rest =>
      if t.isSign "(" then behindParen (depth + 1) rest
      else if t.isSign ")" then
        match depth with
        | 0 => rest
        | depth + 1 => behindParen depth rest
      else behindParen depth rest

/-- Mark the values among arguments of a function that every program has as such. -/
def useArguments (function : Builtin) (arguments : List Expr) : Reading Unit := do
  for (e, i) in arguments.zipIdx do
    match e with
    | .name n =>
        if function = .split && i = 1 then use n true
        else if function ≠ .length then use n false
    | _ => pure ()

/-- Check the arguments of a function that every program has. -/
def finishBuiltin (function : Builtin) (arguments : List Expr) : Reading Expr := do
  useArguments function arguments
  match function, arguments with
  | .split, [a, .name n, e] => return .builtin .split [a, .name n, ← separatorPattern e]
  | .split, [_, .name _] => return .builtin .split arguments
  | .split, _ => unexpected
  | .match, [a, e] => return .builtin .match [a, ← checkPattern e]
  | .sub, [e, a] => return .builtin .sub [← checkPattern e, a]
  | .sub, [e, a, b] =>
      if isPlace b then return .builtin .sub [← checkPattern e, a, b] else unexpected
  | .gsub, [e, a] => return .builtin .gsub [← checkPattern e, a]
  | .gsub, [e, a, b] =>
      if isPlace b then return .builtin .gsub [← checkPattern e, a, b] else unexpected
  | _, _ => return .builtin function arguments
where
  /-- A separator of one character or none is no expression to check. -/
  separatorPattern (e : Expr) : Reading Expr := do
    match e with
    | .text t => if t.length ≤ 1 then return e else return .regex (← readRegex t)
    | e => return e

/-- Go on with a level: given the way to read an operand and a value, apply the operators that
follow. -/
def operations (operand : Reading Expr) (isPrinted : Bool) (level : Level) :
    Nat → Expr → Reading Expr
  | 0, e => return e
  | room + 1, e => do
      let next (e : Expr) : Reading Expr := operations operand isPrinted level room e
      let t ← peek
      match level, t with
      | .either, .sign "||" => advance; skipLines; next (.either e (← operand))
      | .both, .sign "&&" => advance; skipLines; next (.both e (← operand))
      | .member, .keyword "in" => advance; next (.isIn [e] (← arrayName))
      | .fit, .sign "~" => advance; next (.fits false e (← checkPattern (← operand)))
      | .fit, .sign "!~" => advance; next (.fits true e (← checkPattern (← operand)))
      | .comparison, .sign s =>
          match comparisons.find? fun c => c.1 == s with
          | some (_, how) =>
              if isPrinted && (s = ">" || s = ">=") then return e
              else advance; next (.compare how e (← operand))
          | none => return e
      | .join, t => if beginsOperand t then next (.join e (← operand)) else return e
      | .sum, .sign "+" => advance; next (.apply .sum e (← operand))
      | .sum, .sign "-" => advance; next (.apply .difference e (← operand))
      | .product, .sign "*" => advance; next (.apply .product e (← operand))
      | .product, .sign "/" => advance; next (.apply .quotient e (← operand))
      | .product, .sign "%" => advance; next (.apply .remainder e (← operand))
      | _, _ => return e

/-- How many operators of a level there may be in a row. -/
def longRow : Nat := 100000

mutual

/-- An expression.  Where it is printed, a sign for what is greater ends it. -/
def expr : Nat → Bool → Reading Expr
  | 0, _ => unexpected
  | room + 1, isPrinted => do
      let condition ← level room isPrinted .either
      if ← accept "?" then
        let yes ← expr room isPrinted
        expect ":"
        let no ← expr room isPrinted
        return .choice condition yes no
      else return condition

/-- An expression of a level. -/
def level : Nat → Bool → Level → Reading Expr
  | 0, _, _ => unexpected
  | room + 1, isPrinted, l => do
      let operand : Reading Expr :=
        match l.next with
        | some next => level room isPrinted next
        | none => signed room
      let e ← operand
      if l = .join && isPlace e then
        match ← peek with
        | .sign s =>
            match assignments.find? fun a => a.1 == s with
            | some (_, operation) =>
                advance
                match e with
                | .name n => use n false
                | _ => pure ()
                return .assign operation e (← expr room isPrinted)
            | none => operations operand isPrinted l longRow e
        | _ => operations operand isPrinted l longRow e
      else operations operand isPrinted l longRow e

/-- An expression with signs in front of it. -/
def signed : Nat → Reading Expr
  | 0 => unexpected
  | room + 1 => do
      match ← peek with
      | .sign "!" => advance; return .isNot (← signed room)
      | .sign "-" => advance; return .negative (← signed room)
      | .sign "+" => advance; return .positive (← signed room)
      | _ => commanded room (← powered room)

/-- An expression that names a command, and the records that are read from it. -/
def commanded : Nat → Expr → Reading Expr
  | 0, e => return e
  | room + 1, e => do
      if (← peek).isSign "|" && (← peekSecond) = .keyword "getline" then
        advance
        advance
        commanded room (.getline .command (some e) (← place? room))
      else return e

/-- An expression with its power. -/
def powered : Nat → Reading Expr
  | 0 => unexpected
  | room + 1 => do
      let e ← stepped room
      if ← accept "^" then return .apply .power e (← signed room)
      else return e

/-- A place whose value is counted up or down, or another operand. -/
def stepped : Nat → Reading Expr
  | 0 => unexpected
  | room + 1 => do
      let e ← operand room
      if isPlace e then
        match ← peek with
        | .sign "++" => advance; return .step e false true
        | .sign "--" => advance; return .step e false false
        | _ => return e
      else return e

/-- A place if one comes next. -/
def place? : Nat → Reading (Option Expr)
  | 0 => return none
  | room + 1 => do
      match ← peek with
      | .name _ false => return some (← operand room)
      | .sign "$" => return some (← operand room)
      | _ => return none

/-- An operand. -/
def operand : Nat → Reading Expr
  | 0 => unexpected
  | room + 1 => do
      match ← peek with
      | .number x _ => advance; return .number (ofBinary x)
      | .text t => advance; return .text t
      | .regex t =>
          let regex ← readRegex t
          advance
          return .regex regex
      | .sign "(" =>
          openParen
          let first ← expr room false
          if (← peek).isSign "," then
            let all ← items room false [first]
            closeParen
            if ← acceptWord "in" then return .isIn all (← arrayName) else unexpected
          else
            closeParen
            return .grouped first
      | .sign "$" =>
          advance
          match ← peek with
          | .sign "-" | .sign "!" | .sign "+" => return .field (← signed room)
          | _ => return .field (← operand room)
      | .sign "++" => advance; counted room true
      | .sign "--" => advance; counted room false
      | .name name isCall =>
          let line ← line
          advance
          if isCall || (← get).known.contains name && (← peek).isSign "(" then
            openParen
            let arguments ← callArguments room
            closeParen
            modify fun c =>
              { c with
                calls := c.calls ++ [(name, arguments.length, line)]
                known := name :: c.known }
            return .call name arguments
          let n ← variableOf name
          if ← accept "[" then
            use n true
            let subscripts ← items room false [← expr room false]
            expect "]"
            return .element n subscripts
          else
            use n false
            return .name n
      | .builtin name => advance; builtinCall room name
      | .keyword "getline" =>
          advance
          let place ← place? room
          if ← accept "<" then return .getline .file (some (← powered room)) place
          else return .getline .input none place
      | _ => unexpected

/-- A place that is counted up or down before its value is taken. -/
def counted : Nat → Bool → Reading Expr
  | 0, _ => unexpected
  | room + 1, isUp => do
      let e ← operand room
      if isPlace e then return .step e true isUp else unexpected

/-- A call of a function that every program has. -/
def builtinCall : Nat → ByteText → Reading Expr
  | 0, _ => unexpected
  | room + 1, name => do
      match Builtin.find? name with
      | none => unexpected
      | some (function, least, most) =>
          if (← peek).isSign "(" then
            openParen
            let arguments ← callArguments room
            let isFree := [Builtin.split, .sub, .gsub, .match, .length].contains function
            if isFree && arguments.length < least then unexpected
            else if arguments.length < least || most < arguments.length then
              complain (chars "wrong number of arguments in call to " ++ name)
            else
              closeParen
              finishBuiltin function arguments
          else if function = .length then return .builtin .length []
          else unexpected

/-- The arguments of a call; a name alone may be that of an array. -/
def callArguments : Nat → Reading (List Expr)
  | 0 => unexpected
  | room + 1 => do
      if (← peek).isSign ")" then return []
      else moreArguments room []

/-- The arguments of a call from one on. -/
def moreArguments : Nat → List Expr → Reading (List Expr)
  | 0, _ => unexpected
  | room + 1, done => do
      let second ← peekSecond
      let isAlone := second.isSign "," || second.isSign ")"
      let argument : Expr ← match ← peek with
        | .name name false =>
            if isAlone then do
              advance
              pure (Expr.name (← variableOf name))
            else expr room false
        | _ => expr room false
      if ← accept "," then
        skipLines
        moreArguments room (done ++ [argument])
      else return done ++ [argument]

/-- The expressions behind commas, after others. -/
def items : Nat → Bool → List Expr → Reading (List Expr)
  | 0, _, _ => unexpected
  | room + 1, isPrinted, done => do
      if ← accept "," then
        skipLines
        items room isPrinted (done ++ [← expr room isPrinted])
      else return done

end

/-! ### Statements -/

/-- The end of a statement: a semicolon, line ends, or the brace behind it. -/
def endStatement : Reading Unit := do
  match ← peek with
  | .lineEnd => skipLines
  | .sign ";" => advance; skipLines
  | .sign "\x7d" => return ()
  | _ => unexpected

/-- What is printed, and where. -/
def printed (room : Nat) : Reading (List Expr × Option (TextTarget × Expr)) := do
  let t ← peek
  let c ← get
  let inParens : Bool :=
    t.isSign "(" && (match behindParen 0 c.tokens.tail with
      | (after, _) :: _ => endsItems after
      | [] => true)
  let all ←
    if endsItems t then pure []
    else if inParens then do
      openParen
      let all ← if (← peek).isSign ")" then pure [] else do items room false [← expr room false]
      closeParen
      pure all
    else do items room true [← expr room true]
  let target ← match ← peek with
    | .sign ">" => advance; pure (some (TextTarget.file, ← expr room true))
    | .sign ">>" => advance; pure (some (TextTarget.fileEnd, ← expr room true))
    | .sign ">=" => complain (chars "syntax error at or near =")
    | .sign "|" => advance; pure (some (TextTarget.command, ← expr room true))
    | _ => pure none
  return (all, target)

/-- A statement that is no more than an expression, if one comes next. -/
def simple? (room : Nat) (isClosing : Token → Bool) : Reading (Option Statement) := do
  if isClosing (← peek) then return none
  else return some (.value (← expr room false))

/-- A statement of a word alone. -/
def wordStatement (room : Nat) (word : String) : Reading Statement := do
  let c ← get
  match word with
  | "next" | "nextfile" =>
      if !c.hasRecord then complain (chars "improper use of " ++ chars word)
      else advance; endStatement; return (if word = "next" then .next else .nextFile)
  | "break" =>
      if c.loops = 0 then complain (chars "break statement outside of loop")
      else advance; endStatement; return .leave
  | "continue" =>
      if c.loops = 0 then complain (chars "continue statement outside of loop")
      else advance; endStatement; return .goOn
  | _ =>
      if word = "return" && c.function.isNone then complain (chars "return outside function body")
      else
        advance
        let e ← if endsItems (← peek) then pure none else do pure (some (← expr room false))
        endStatement
        return (if word = "return" then .giveBack e else .exit e)

/-- The array and the subscripts of what is deleted. -/
def deletion (room : Nat) : Reading Statement := do
  advance
  let inParens ← accept "("
  let n ← arrayName
  let subscripts ← if ← accept "[" then do
      let subscripts ← items room false [← expr room false]
      expect "]"
      pure subscripts
    else pure []
  if inParens then expect ")"
  endStatement
  return .delete n subscripts

/-- Read the body of a loop. -/
def inLoop {α : Type} (read : Reading α) : Reading α := do
  modify fun c => { c with loops := c.loops + 1 }
  let result ← read
  modify fun c => { c with loops := c.loops - 1 }
  return result

mutual

/-- A statement. -/
def statement : Nat → Reading Statement
  | 0 => unexpected
  | room + 1 => do
      match ← peek with
      | .sign "\x7b" => return .block (← block room)
      | .sign ";" => advance; skipLines; return .block []
      | .keyword "if" =>
          advance
          openParen
          let condition ← expr room false
          closeParen
          skipLines
          let yes ← statement room
          if ← acceptWord "else" then
            skipLines
            return .ifElse condition yes (← statement room)
          else return .ifElse condition yes (.block [])
      | .keyword "while" =>
          advance
          openParen
          let condition ← expr room false
          closeParen
          if ← accept ";" then
            skipLines
            return .loop none (some condition) none (.block [])
          else
            skipLines
            return .loop none (some condition) none (← inLoop (statement room))
      | .keyword "do" =>
          advance
          skipLines
          let body ← inLoop (statement room)
          skipLines
          if ← acceptWord "while" then
            openParen
            let condition ← expr room false
            closeParen
            endStatement
            return .doLoop body condition
          else unexpected
      | .keyword "for" => advance; openParen; forLoop room
      | .keyword "print" =>
          advance
          let (all, target) ← printed room
          endStatement
          return .print all target
      | .keyword "printf" =>
          advance
          let (all, target) ← printed room
          if all.isEmpty then complain (chars "no arguments in call to printf")
          else endStatement; return .printf all target
      | .keyword "delete" => deletion room
      | .keyword "getline" =>
          let e ← expr room false
          endStatement
          return .value e
      | .keyword word =>
          if ["next", "nextfile", "exit", "return", "break", "continue"].contains word then
            wordStatement room word
          else unexpected
      | _ =>
          let e ← expr room false
          endStatement
          return .value e

/-- The rest of a loop behind its opening parenthesis. -/
def forLoop : Nat → Reading Statement
  | 0 => unexpected
  | room + 1 => do
      let words : List Token := (← get).tokens.map (·.1)
      match words with
      | .name place false :: .keyword "in" :: .name _ _ :: .sign ")" :: _ =>
          advance
          advance
          let n ← variableOf place
          use n false
          let array ← arrayName
          closeParen
          skipLines
          return .forEach n array (← inLoop (statement room))
      | _ =>
          let start ← simple? room (·.isSign ";")
          expect ";"
          skipLines
          let condition ← if (← peek).isSign ";" then pure none
            else do pure (some (← expr room false))
          expect ";"
          skipLines
          let step ← simple? room (·.isSign ")")
          closeParen
          if ← accept ";" then
            skipLines
            return .loop start condition step (.block [])
          else
            skipLines
            return .loop start condition step (← inLoop (statement room))

/-- The statements between braces. -/
def block : Nat → Reading (List Statement)
  | 0 => unexpected
  | room + 1 => do
      expect "\x7b"
      modify fun c => { c with braces := c.braces + 1 }
      skipLines
      let body ← statements room []
      expect "\x7d"
      modify fun c => { c with braces := c.braces - 1 }
      skipLines
      return body

/-- Statements up to a closing brace, after others, last one first. -/
def statements : Nat → List Statement → Reading (List Statement)
  | 0, done => return done.reverse
  | room + 1, done => do
      if (← peek).isSign "\x7d" then return done.reverse
      else
        let s ← statement room
        skipLines
        statements room (s :: done)

end

/-! ### Programs -/

/-- The names of parameters up to a closing parenthesis. -/
def parameters (function : ByteText) : Nat → List ByteText → Reading (List ByteText)
  | 0, done => return done
  | room + 1, done => do
      match ← peek with
      | .name name _ =>
          if name = function then complain (chars "function parameter cannot be the function")
          else if done.contains name then
            complain (name ++ chars " is duplicated in argument list")
          else
            advance
            let done := done ++ [name]
            if ← accept "," then
              skipLines
              parameters function room done
            else return done
      | _ => if done.isEmpty then return done else unexpected

/-- A function behind the word that announces it. -/
def functionItem (room : Nat) : Reading Function := do
  let name ← nameWord
  openParen
  let own ← parameters name room []
  closeParen
  skipLines
  modify fun c => { c with own, function := some name, hasRecord := true, known := name :: c.known }
  let body ← block room
  modify fun c => { c with own := [], function := none }
  return ⟨name, own.length, body⟩

/-- Go past what may stand behind the closing brace of an action. -/
def endItem : Reading Unit := do
  let _ ← accept ";"
  skipLines

/-- The items of a program. -/
def programItems : Nat → Program → Reading Program
  | 0, p => return p
  | room + 1, p => do
      skipLines
      match ← peek with
      | .finish => return p
      | .keyword "function" =>
          advance
          let f ← functionItem room
          if p.functions.any fun g => g.name == f.name then
            complain (chars "redefinition of " ++ f.name)
          else
            endItem
            programItems room { p with functions := p.functions ++ [f] }
      | .keyword "BEGIN" =>
          advance
          modify fun c => { c with hasRecord := false }
          let body ← block room
          endItem
          programItems room { p with before := p.before ++ [body] }
      | .keyword "END" =>
          advance
          modify fun c => { c with hasRecord := false }
          let body ← block room
          endItem
          programItems room { p with after := p.after ++ [body] }
      | .sign "\x7b" =>
          modify fun c => { c with hasRecord := true }
          let body ← block room
          endItem
          programItems room { p with rules := p.rules ++ [⟨.all, some body⟩] }
      | _ =>
          modify fun c => { c with hasRecord := true }
          let first ← expr room false
          let selector ← if ← accept "," then do
              skipLines
              pure (Selector.range first (← expr room false))
            else pure (.one first)
          match ← peek with
          | .sign "\x7b" =>
              let body ← block room
              endItem
              programItems room { p with rules := p.rules ++ [⟨selector, some body⟩] }
          | .sign ";" | .lineEnd =>
              advance
              programItems room { p with rules := p.rules ++ [⟨selector, none⟩] }
          | _ => unexpected

/-- Every function that is called has to be there, with enough parameters. -/
def checkCalls (p : Program) : Reading Unit := do
  for (name, count, line) in (← get).calls do
    match p.functions.find? fun f => f.name == name with
    | none => complain (chars "function " ++ name ++ chars " never defined")
    | some f =>
        if f.arity < count then
          throw ⟨line, true, chars "too many arguments in call to " ++ name⟩

/-- How deep reading may go for each word. -/
def roomPerWord : Nat := 24

end Reading

/-- The program that a text spells, or what is wrong with it. -/
def readProgram (text : ByteText) (names : List ByteText) : Except Complaint Program :=
  let tokens := Token.cut text
  let shared := Special.names.map (fun e => chars e.2) ++ names
  let arrays := Special.names.map fun e =>
    (e.1.place, decide (e.1 = .environment ∨ e.1 = .arguments))
  let work : Reading Program := do
    let p ← Reading.programItems (Reading.roomPerWord * (tokens.length + 4)) ⟨[], [], [], [], []⟩
    Reading.checkCalls p
    return { p with names := (← get).names }
  match work.run ⟨tokens, 0, 0, shared, [], arrays, none, 0, false, [], []⟩ with
  | .ok p _ => .ok p
  | .error e _ => .error e

end AssemblyGate.Rules
