/-
**The tool that runs programs of rules.**

The program is the first operand or comes from files; the other operands are the files it is run on,
and variables that are given values before the next of them is read.

Main definitions:

* `AssemblyGate.Rules.Setup` — what the arguments ask for;
* `AssemblyGate.Tool.awk` — the tool.
-/
import AssemblyGate.Posix.Rules.Reader
import AssemblyGate.Posix.Rules.Run

set_option autoImplicit false

namespace AssemblyGate

namespace Rules

/-- What the arguments ask for: the files that hold the program, the separator of fields, the values
of variables, and the operands. -/
structure Setup where
  files : List ByteText
  separator : Option ByteText
  values : List (ByteText × ByteText)
  operands : List ByteText

namespace Setup

/-- What is told of the use of the tool. -/
def usage : String :=
  "Usage: mawk [Options] [Program] [file ...]\n
Program:
    The -f option value is the name of a file containing program text.
    If no -f option is given, a \"--\" ends option processing; the following
    parameters are the program text.\n
Options:
    -f program-file  Program  text is read from file instead of from the
                     command-line.  Multiple -f options are accepted.
    -F value         sets the field separator, FS, to value.
    -v var=value     assigns value to program variable var.
    --               unambiguous end of options.\n
    Implementation-specific options are prefixed with \"-W\".  They can be
    abbreviated:\n
    -W version       show version information and exit.
    -W compat        pre-POSIX 2001.
    -W dump          show assembler-like listing of program and exit.
    -W help          show this message and exit.
    -W interactive   set unbuffered output, line-buffered input.
    -W exec file     use file as program as well as last option.
    -W posix         stricter POSIX checking.
    -W random=number set initial random seed.
    -W sprintf=number adjust size of sprintf buffer.
    -W usage         show this message and exit.\n"

/-- Take one more option and its value into account, or tell what is wrong with it. -/
def add (s : Setup) (letter : Char) (value : ByteText) : Except ByteText Setup :=
  match letter with
  | 'F' => .ok { s with separator := some (Token.resolve value) }
  | 'f' => .ok { s with files := s.files ++ [value] }
  | _ =>
      match Work.assignment? value with
      | some given => .ok { s with values := s.values ++ [given] }
      | none => .error (chars "improper assignment: -v " ++ value)

/-- What arguments ask for, or what is wrong with them. -/
def read : Nat → Setup → List ByteText → Except ByteText Setup
  | 0, s, rest => .ok { s with operands := rest }
  | _, s, [] => .ok s
  | room + 1, s, argument :: rest =>
      match argument with
      | ['-', '-'] => .ok { s with operands := rest }
      | '-' :: letter :: value =>
          if letter = 'F' || letter = 'f' || letter = 'v' then
            match value, rest with
            | [], given :: rest =>
                match s.add letter given with
                | .ok s => read room s rest
                | .error e => .error e
            | [], [] => .error (chars "option -" ++ [letter] ++ chars " lacks argument")
            | value, rest =>
                match s.add letter value with
                | .ok s => read room s rest
                | .error e => .error e
          else .error (chars "not an option: " ++ argument)
      | _ => .ok { s with operands := argument :: rest }

end Setup

/-- The names that operands and options give values. -/
def namesGiven (s : Setup) : List ByteText :=
  let known := Special.names.map fun e => chars e.2
  let given := s.values.map (·.1)
    ++ s.operands.filterMap fun o => (Work.assignment? o).map (·.1)
  (given.filter fun n => !known.contains n).eraseDups

/-- An array of texts that were read. -/
def tableOfTexts (all : List (ByteText × ByteText)) : Table :=
  all.zipIdx.foldl (fun t (e, i) => t.insert e.1 ⟨.input e.2, i, none⟩) ∅

/-- What a variable with a meaning of its own holds before the first action. -/
def Special.start (s : Special) (arguments : Nat) : Holder :=
  match s with
  | .fieldCount | .recordCount | .fileRecordCount => .value (.number 0)
  | .matchStart | .matchLength => .value .unset
  | .fieldSeparator | .outputFieldSeparator => .value (.text [' '])
  | .outputRecordSeparator | .recordSeparator => .value (.text ['\n'])
  | .fileName => .value (.text [])
  | .subscriptSeparator => .value (.text ['\x1c'])
  | .textFormat | .outputFormat => .value (.text (chars "%.6g"))
  | .environment => .array 0
  | .argumentCount => .value (.ofNat arguments)
  | .arguments => .array 1

/-- What is known before the first action. -/
def State.before (t : Task) (m : Machine) (p : Program) (operands : List ByteText) : State :=
  let arguments := t.name :: operands
  let specials := Special.names.map fun e => e.1.start arguments.length
  let others := List.replicate (p.names.length - specials.length) (Holder.value .unset)
  let environment := tableOfTexts t.environment
  let numbered := tableOfTexts (arguments.zipIdx.map fun (a, i) => (Numeral.decimal i, a))
  { task := t, machine := m, shared := (specials ++ others).toArray, own := #[]
    tables := #[environment, numbered], clock := 1, record := .input [], fields := #[], operand := 1
    text := none, hasRead := false, input := t.input.toOption.getD [], usesInput := false
    readers := [], outputs := [], commands := [], waiting := [], said := [], ranges := []
    status := 0, seed := 1, names := p.names }

/-- Run a program with the variables that options give values. -/
def perform (s : Setup) (p : Program) : Work Unit := do
  match s.separator with
  | some t => Work.setSpecial .fieldSeparator (.input t)
  | none => pure ()
  for (name, value) in s.values do
    Work.assign name value
  p.run

/-- Run a program on its operands. -/
def runProgram (t : Task) (m : Machine) (s : Setup) (p : Program) (operands : List ByteText) : Effect :=
  let finish (state : State) : State :=
    match closeAll 1000 state with
    | .ok _ state => state
    | .error _ state => state
  let ended (state : State) (status : Nat) (isEndless : Bool) : Effect :=
    let state := finish state
    { machine := state.machine, said := state.said.reverse, status, waited := 0
      reads := state.usesInput, unread := 0, isEndless }
  match perform s p (State.before t m p operands) with
  | .ok _ state => ended state state.status false
  | .error b state =>
      match b with
      | .failure message =>
          ended { state with said := t.complain message :: state.said } 2 false
      | .never => ended state 0 true
      | _ => ended state state.status false

end Rules

/-- Run a program of rules on the records of files. -/
def Tool.awk : Tool := fun task m =>
  let t := { task with name := chars "awk" }
  match Rules.Setup.read (t.arguments.length + 1) ⟨[], none, [], []⟩ t.arguments with
  | .error text =>
      if t.arguments.contains (chars "--help") then .say m (chars Rules.Setup.usage)
      else .failed m (t.complain text) 2
  | .ok s =>
      let begin (file : Option ByteText) (text : ByteText) (operands : List ByteText) : Effect :=
        match Rules.readProgram text (Rules.namesGiven s) with
        | .ok p => Rules.runProgram t m s p operands
        | .error c =>
            let place := if c.isNamed then
                (match file with | some path => path ++ chars ": " | none => []) ++ chars "line "
              else []
            .failed m (t.complain (place ++ Numeral.decimal c.line ++ chars ": " ++ c.message)) 2
      match s.files, s.operands with
      | [], [] => .ended m [⟨false, chars Rules.Setup.usage⟩] 0
      | [], text :: operands => begin none text operands
      | files, operands =>
          let texts := files.map fun path => (path, (t.source m path).text)
          match texts.find? fun e => match e.2 with | .ok _ => false | .error _ => true with
          | some (path, .error e) =>
              .failed m (t.complain (chars "cannot open \"" ++ path ++ chars "\" ("
                ++ chars (Errno.message e) ++ chars ")")) 2
          | _ =>
              let all := texts.map fun e => match e.2 with | .ok text => text | .error _ => []
              begin files.getLast? (joinWith ['\n'] all) operands

end AssemblyGate
