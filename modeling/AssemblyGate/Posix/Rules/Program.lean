/-
**Programs of rules.**

A program is run on the records of its input.  Each of its rules has a pattern that selects records
and an action that is carried out for them; some actions come before the first record, some after
the last one.  Actions are made of statements, and these of expressions whose values are numbers and
texts.

Main definitions:

* `AssemblyGate.Rules.Expr` — the expressions;
* `AssemblyGate.Rules.Statement` — the statements;
* `AssemblyGate.Rules.Program` — the programs.
-/
import AssemblyGate.Posix.Pattern.RegexSyntax
import AssemblyGate.Posix.ByteText

set_option autoImplicit false

namespace AssemblyGate.Rules

/-- Where a variable is kept: in a place that all actions share, or in one of the call of a
function. -/
inductive Name
  | shared (place : Nat)
  | own (place : Nat)
deriving DecidableEq, Inhabited

/-- An operation on two numbers. -/
inductive Operation
  | sum
  | difference
  | product
  | quotient
  | remainder
  | power
deriving DecidableEq

/-- A comparison. -/
inductive Comparison
  | less
  | atMost
  | equal
  | unequal
  | atLeast
  | greater
deriving DecidableEq

/-- The functions that every program has. -/
inductive Builtin
  | length
  | substr
  | index
  | split
  | sub
  | gsub
  | match
  | sprintf
  | sin
  | cos
  | atan2
  | exp
  | log
  | sqrt
  | int
  | rand
  | srand
  | tolower
  | toupper
  | system
  | close
  | fflush
  | systime
deriving DecidableEq

/-- Where a record comes from: the input of the program, a file, or what a command says. -/
inductive RecordSource
  | input
  | file
  | command
deriving DecidableEq

/-- Where a text is written: to a file that is made anew, to the end of a file, or to a command. -/
inductive TextTarget
  | file
  | fileEnd
  | command
deriving DecidableEq

/-- An expression. -/
inductive Expr
  | number (x : Float)
  | text (t : ByteText)
  | regex (body : Regex)
  | name (n : Name)
  | grouped (e : Expr)
  | element (array : Name) (subscripts : List Expr)
  | field (index : Expr)
  | assign (operation : Option Operation) (place value : Expr)
  | step (place : Expr) (isBefore isUp : Bool)
  | choice (condition yes no : Expr)
  | both (a b : Expr)
  | either (a b : Expr)
  | isNot (a : Expr)
  | negative (a : Expr)
  | positive (a : Expr)
  | apply (operation : Operation) (a b : Expr)
  | join (a b : Expr)
  | compare (how : Comparison) (a b : Expr)
  | fits (isNegated : Bool) (text pattern : Expr)
  | isIn (subscripts : List Expr) (array : Name)
  | call (function : ByteText) (arguments : List Expr)
  | builtin (function : Builtin) (arguments : List Expr)
  | getline (source : RecordSource) (path place : Option Expr)
deriving Inhabited

/-- A statement. -/
inductive Statement
  | value (e : Expr)
  | print (items : List Expr) (target : Option (TextTarget × Expr))
  | printf (items : List Expr) (target : Option (TextTarget × Expr))
  | block (body : List Statement)
  | ifElse (condition : Expr) (yes no : Statement)
  | loop (start : Option Statement) (condition : Option Expr) (step : Option Statement)
      (body : Statement)
  | doLoop (body : Statement) (condition : Expr)
  | forEach (place : Name) (array : Name) (body : Statement)
  | delete (array : Name) (subscripts : List Expr)
  | next
  | nextFile
  | exit (status : Option Expr)
  | giveBack (value : Option Expr)
  | leave
  | goOn
deriving Inhabited

/-- What selects the records of a rule: nothing selects every one, and two conditions select what
comes from a record of the first up to one of the second. -/
inductive Selector
  | all
  | one (condition : Expr)
  | range (first last : Expr)

/-- A rule: what selects records, and what is done with them.  Without an action they are said. -/
structure Rule where
  selector : Selector
  action : Option (List Statement)

/-- A function: its name, the number of its parameters, and its statements. -/
structure Function where
  name : ByteText
  arity : Nat
  body : List Statement

/-- A program: what is done before the first record, the rules, what is done after the last record,
the functions, and the names of the variables that all actions share. -/
structure Program where
  before : List (List Statement)
  rules : List Rule
  after : List (List Statement)
  functions : List Function
  names : List ByteText

/-! ### Expressions for texts -/

/-- The spelling of the expressions for texts. -/
def regexSpelling : Regex.Spelling := ⟨.program, true, false, false⟩

/-- What is told of a flaw of an expression for texts. -/
def flawText : Regex.Flaw → String
  | .nothingToRepeat => "missing operand"
  | .repeatedStart => "syntax error ^* or ^+"
  | .openGroup => "missing ')'"
  | .badBounds | .tooBig => "bad interval expression"
  | .endsInBracket | .openBracket | .unknownClass | .collation | .bareClass =>
      "bad class -- [], [^] or ["
  | flaw => flaw.message

/-- The expression that a text spells, or what is told where it spells none. -/
def regexOf (t : ByteText) : Except ByteText Regex :=
  match Regex.parse regexSpelling t with
  | .ok regex => .ok regex
  | .error flaw =>
      .error ("regular expression compile failed (".toList ++ (flawText flaw).toList
        ++ ")\n".toList ++ t)

/-! ### Variables with a meaning -/

/-- The variables with a meaning of their own, each at its place. -/
inductive Special
  | fieldCount
  | recordCount
  | fileRecordCount
  | fieldSeparator
  | outputFieldSeparator
  | outputRecordSeparator
  | recordSeparator
  | fileName
  | subscriptSeparator
  | matchStart
  | matchLength
  | textFormat
  | outputFormat
  | environment
  | argumentCount
  | arguments
deriving DecidableEq

/-- The variables with a meaning of their own and how they are called, in the order of their
places. -/
def Special.names : List (Special × String) :=
  [(.fieldCount, "NF"), (.recordCount, "NR"), (.fileRecordCount, "FNR"), (.fieldSeparator, "FS"),
    (.outputFieldSeparator, "OFS"), (.outputRecordSeparator, "ORS"), (.recordSeparator, "RS"),
    (.fileName, "FILENAME"), (.subscriptSeparator, "SUBSEP"), (.matchStart, "RSTART"),
    (.matchLength, "RLENGTH"), (.textFormat, "CONVFMT"), (.outputFormat, "OFMT"),
    (.environment, "ENVIRON"), (.argumentCount, "ARGC"), (.arguments, "ARGV")]

/-- The place of a variable with a meaning of its own. -/
def Special.place (s : Special) : Nat := (Special.names.findIdx? fun e => e.1 = s).getD 0

/-! ### Functions that every program has -/

/-- The functions that every program has, by their names, with the least and the largest number of
their arguments. -/
def Builtin.table : List (String × Builtin × Nat × Nat) :=
  [("length", .length, 0, 1), ("substr", .substr, 2, 3), ("index", .index, 2, 2),
    ("split", .split, 2, 3), ("sub", .sub, 2, 3), ("gsub", .gsub, 2, 3), ("match", .match, 2, 2),
    ("sprintf", .sprintf, 1, 255), ("sin", .sin, 1, 1), ("cos", .cos, 1, 1),
      ("atan2", .atan2, 2, 2),
    ("exp", .exp, 1, 1), ("log", .log, 1, 1), ("sqrt", .sqrt, 1, 1), ("int", .int, 1, 1),
    ("rand", .rand, 0, 0), ("srand", .srand, 0, 1), ("tolower", .tolower, 1, 1),
    ("toupper", .toupper, 1, 1), ("system", .system, 1, 1), ("close", .close, 1, 1),
    ("fflush", .fflush, 0, 1), ("systime", .systime, 0, 0)]

/-- The function of a name, with the numbers of its arguments. -/
def Builtin.find? (name : ByteText) : Option (Builtin × Nat × Nat) :=
  match Builtin.table.find? fun e => e.1.toList == name with
  | some (_, found) => some found
  | none => none

end AssemblyGate.Rules
