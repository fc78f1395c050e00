/-
**Running programs of rules.**

The actions that come first are carried out, then the rules for each record of the input, and at
last the actions that come after all.  Expressions have values and may change what is known; a
statement may break off what is going on.

Main definitions:

* `AssemblyGate.Rules.eval` — the value of an expression;
* `AssemblyGate.Rules.exec` — what a statement does;
* `AssemblyGate.Rules.Program.run` — what a program does.
-/
import AssemblyGate.Posix.Rules.State

set_option autoImplicit false

namespace AssemblyGate.Rules

open Work

/-! ### Functions that every program has -/

/-- The part of a text from a place on. -/
def substring (text : ByteText) (start : Float) (count : Option Float) : ByteText :=
  let wholeOf (x : Float) : Int := (toBinary x).truncated.getD (if x < 0 then -(twoTo 62) else twoTo 62)
  let first := wholeOf start
  let rest := text.drop ((max first 1).toNat - 1)
  match count with
  | none => rest
  | some x =>
      let size := wholeOf x
      rest.take (if first < 1 then size - first else size).toNat

/-- A replacement with the match put where a sign stands for it. -/
def filled (matched : ByteText) : ByteText → ByteText
  | [] => []
  | '\\' :: '&' :: rest => '&' :: filled matched rest
  | '\\' :: '\\' :: '&' :: rest => '\\' :: matched ++ filled matched rest
  | '&' :: rest => matched ++ filled matched rest
  | c :: rest => c :: filled matched rest

/-- A text with the first match replaced, or all of them, and their number. -/
def replaced (all : Bool) (regex : Regex) (replacement text : ByteText) : ByteText × Nat :=
  if all then
    let (found, rest) := Regex.cut .plain regex text
    (found.flatMap (fun f => f.before ++ filled f.matched replacement) ++ rest, found.length)
  else
    match Regex.search? .plain regex text with
    | some f => (f.before ++ filled f.matched replacement ++ f.after, 1)
    | none => (text, 0)

/-- The next number of a row in which no rule is seen easily. -/
def nextSeed (seed : Nat) : Nat := (seed * 6364136223846793005 + 1442695040888963407) % twoTo 64

/-- Where a part of a text begins, counted from one; zero where it does not occur. -/
def indexIn (part : ByteText) : Nat → ByteText → Nat
  | n, [] => if part.isEmpty then n else 0
  | n, c :: rest => if part.isPrefixOf (c :: rest) then n else indexIn part (n + 1) rest

/-- The value of a function of one number. -/
def applyReal (function : Builtin) (x : Float) : Float :=
  match function with
  | .sin => x.sin
  | .cos => x.cos
  | .exp => x.exp
  | .log => x.log
  | .sqrt => x.sqrt
  | _ => truncate x

/-! ### Places -/

/-- A place that was found: a variable, an element, or a field. -/
inductive Target
  | variable (n : Name)
  | element (table : Nat) (key : Subscript)
  | field (number : Nat)

/-- The value at a place. -/
def Target.get : Target → Work Value
  | .variable n => valueOf n
  | .element table key => Work.element table key
  | .field number => Work.field number

/-- Put a value at a place. -/
def Target.set (t : Target) (v : Value) : Work Unit :=
  match t with
  | .variable n => setValue n v
  | .element table key => setElement table key v
  | .field number => setField number v

/-! ### Loops -/

/-- Do something as long as a condition holds, and between two rounds something else. -/
def rounds (condition : Work Bool) (body step : Work Unit) : Nat → Work Unit
  | 0 => throw .never
  | room + 1 => do
      if maxSteps < (← tick) then throw .never
      else if ← condition then
        let goesOn : Bool ← tryCatch (do body; pure true) fun b =>
          match b with
          | .goOn => pure true
          | .leave => pure false
          | other => throw other
        if goesOn then
          step
          rounds condition body step room
        else return ()
      else return ()

/-- Do something with each text of a list. -/
def overEach (body : ByteText → Work Unit) : List ByteText → Work Unit
  | [] => return ()
  | key :: rest => do
      let goesOn : Bool ← tryCatch (do body key; pure true) fun b =>
        match b with
        | .goOn => pure true
        | .leave => pure false
        | other => throw other
      if goesOn then overEach body rest else return ()

mutual

/-- The value of an expression. -/
def eval (p : Program) : Nat → Expr → Work Value
  | 0, _ => throw .never
  | room + 1, e => do
      match e with
      | .number x => return .number x
      | .text t => return .text t
      | .regex body => return .ofBool (Regex.occurs .plain body (← textOf (← field 0)))
      | .name n => valueOf n
      | .grouped e => eval p room e
      | .element array keys =>
          let key ← subscriptOf (← evalAll p room keys)
          element (← tableOf array) key
      | .field index => field (← fieldNumber (← eval p room index))
      | .assign operation place value =>
          let target ← locate p room place
          let v ← eval p room value
          let v : Value ← match operation with
            | none => pure v
            | some o => do pure (.number (o.apply (← target.get).toNumber v.toNumber))
          target.set v
          return v
      | .step place isBefore isUp =>
          let target ← locate p room place
          let x := (← target.get).toNumber
          let y := if isUp then x + 1 else x - 1
          target.set (.number y)
          return .number (if isBefore then y else x)
      | .choice condition yes no =>
          if (← eval p room condition).isTrue then eval p room yes else eval p room no
      | .both a b =>
          if (← eval p room a).isTrue then return .ofBool (← eval p room b).isTrue
          else return .ofBool false
      | .either a b =>
          if (← eval p room a).isTrue then return .ofBool true
          else return .ofBool (← eval p room b).isTrue
      | .isNot a => return .ofBool !(← eval p room a).isTrue
      | .negative a => return .number (-(← eval p room a).toNumber)
      | .positive a => return .number (← eval p room a).toNumber
      | .apply operation a b =>
          let x := (← eval p room a).toNumber
          let y := (← eval p room b).toNumber
          return .number (operation.apply x y)
      | .join a b =>
          let s ← textOf (← eval p room a)
          let t ← textOf (← eval p room b)
          return .text (s ++ t)
      | .compare how a b =>
          let x ← eval p room a
          let y ← eval p room b
          return .ofBool (Printing.holds how (Printing.order (← textFormat) x y))
      | .fits isNegated text pattern =>
          let t ← textOf (← eval p room text)
          let regex ← patternOf p room pattern
          return .ofBool (Regex.occurs .plain regex t != isNegated)
      | .isIn keys array =>
          let key ← subscriptOf (← evalAll p room keys)
          let number ← tableOf array
          return .ofBool (((← get).tables.getD number ∅).contains key.text)
      | .call function arguments => call p room function arguments
      | .builtin function arguments => builtin p room function arguments
      | .getline source path place => readLine p room source path place

/-- The values of expressions. -/
def evalAll (p : Program) : Nat → List Expr → Work (List Value)
  | 0, _ => throw .never
  | _, [] => return []
  | room + 1, e :: rest => do
      let v ← eval p room e
      return v :: (← evalAll p room rest)

/-- The expression for texts that an expression gives. -/
def patternOf (p : Program) : Nat → Expr → Work Regex
  | 0, _ => throw .never
  | room + 1, e => do
      match e with
      | .regex body => return body
      | e => readRegex (← textOf (← eval p room e))

/-- The place that an expression means. -/
def locate (p : Program) : Nat → Expr → Work Target
  | 0, _ => throw .never
  | room + 1, e => do
      match e with
      | .name n => return .variable n
      | .element array keys =>
          let key ← subscriptOf (← evalAll p room keys)
          return .element (← tableOf array) key
      | .field index => return .field (← fieldNumber (← eval p room index))
      | _ => throw .never

/-- The value of a call.  An argument that is a variable without a value may be an array. -/
def call (p : Program) : Nat → ByteText → List Expr → Work Value
  | 0, _, _ => throw .never
  | room + 1, name, arguments => do
      match p.functions.find? fun f => f.name == name with
      | none => return .unset
      | some f =>
          let holders ← holdersOf p room arguments
          let outer := (← get).own
          let missing := List.replicate (f.arity - holders.length) (Holder.value .unset)
          modify fun s => { s with own := (holders ++ missing).toArray }
          if maxSteps < (← tick) then throw .never
          let result : Value ← tryCatch (do execAll p room f.body; pure .unset) fun b =>
            match b with
            | .giveBack v => pure v
            | other => throw other
          modify fun s => { s with own := outer }
          return result

/-- What arguments hold. -/
def holdersOf (p : Program) : Nat → List Expr → Work (List Holder)
  | 0, _ => throw .never
  | _, [] => return []
  | room + 1, e :: rest => do
      let h : Holder ← match e with
        | .name n => do
            match ← holder n with
            | .value .unset => do pure (Holder.array (← tableOf n))
            | h => pure h
        | e => do pure (Holder.value (← eval p room e))
      return h :: (← holdersOf p room rest)

/-- The value of a function that every program has. -/
def builtin (p : Program) : Nat → Builtin → List Expr → Work Value
  | 0, _, _ => throw .never
  | room + 1, function, arguments => do
      match function, arguments with
      | .length, [] => return .ofNat (← textOf (← field 0)).length
      | .length, [.name n] =>
          match ← holder n with
          | .array number => return .ofNat ((← get).tables.getD number ∅).size
          | .value v => return .ofNat (← textOf v).length
      | .split, a :: .name n :: rest =>
          let text ← textOf (← eval p room a)
          let all ← match rest with
            | [.regex body] => pure (parts (.regex body) text)
            | [e] => do pure (parts (← separatorOf (← textOf (← eval p room e))) text)
            | _ => fieldsOf text
          let table ← tableOf n
          changeTable table fun _ => ∅
          for (t, i) in all.zipIdx do
            setElement table ⟨Numeral.decimal (i + 1), some (i + 1)⟩ (.input t)
          return .ofNat all.length
      | .sub, e :: r :: rest => replaceIn p room false e r rest
      | .gsub, e :: r :: rest => replaceIn p room true e r rest
      | .match, [a, e] =>
          let text ← textOf (← eval p room a)
          let regex ← patternOf p room e
          let (start, size) : Nat × Int := match Regex.search? .plain regex text with
            | some f => (f.before.length + 1, f.matched.length)
            | none => (0, -1)
          setSpecial .matchStart (.ofNat start)
          setSpecial .matchLength (.number (Float.ofInt size))
          return .ofNat start
      | _, _ =>
          let values ← evalAll p room arguments
          match function, values with
          | .length, [v] => return .ofNat (← textOf v).length
          | .substr, [v, a] => return .text (substring (← textOf v) a.toNumber none)
          | .substr, [v, a, b] =>
              return .text (substring (← textOf v) a.toNumber (some b.toNumber))
          | .index, [a, b] =>
              let part ← textOf b
              let text ← textOf a
              return .ofNat (indexIn part 1 text)
          | .sprintf, v :: rest => return .text (← formatted v rest "sprintf")
          | .atan2, [a, b] => return .number (Float.atan2 a.toNumber b.toNumber)
          | .rand, _ =>
              let seed ← modifyGet fun s => (s.seed, { s with seed := nextSeed s.seed })
              return .number ((nextSeed seed / twoTo 33).toFloat / 2147483648.0)
          | .srand, values =>
              let next : Nat := match values with
                | [v] => (toInteger v.toNumber).natAbs
                | _ => 1
              let seed ← modifyGet fun s => (s.seed, { s with seed := next })
              return .ofNat seed
          | .tolower, [v] => return .text ((← textOf v).map Char.toLower)
          | .toupper, [v] => return .text ((← textOf v).map Char.toUpper)
          | .system, [v] =>
              flush
              let (_, status) ← run (← textOf v) none false
              return .ofNat status
          | .close, [v] => return .number (Float.ofInt (← close (← textOf v)))
          | .fflush, _ =>
              flush
              return .number 0
          | .systime, _ => return .ofNat ((← get).machine.clock / 1000)
          | function, [v] => return .number (applyReal function v.toNumber)
          | _, _ => return .unset

/-- Replace matches in the record or at a place: their number. -/
def replaceIn (p : Program) : Nat → Bool → Expr → Expr → List Expr → Work Value
  | 0, _, _, _, _ => throw .never
  | room + 1, all, e, r, rest => do
      let regex ← patternOf p room e
      let replacement ← textOf (← eval p room r)
      let target ← match rest with
        | place :: _ => locate p room place
        | [] => pure (.field 0)
      let (text, count) := replaced all regex replacement (← textOf (← target.get))
      if 0 < count then target.set (.text text)
      return .ofNat count

/-- Values printed by a format; what went wrong is told with the name of the function. -/
def formatted (format : Value) (values : List Value) (who : String) : Work ByteText := do
  let f ← textOf format
  let (text, flaw) := Printing.print (← textFormat) f values
  match flaw with
  | none => return text
  | some flaw =>
      if who = "printf" then say text
      let place := chars who ++ chars "(\"" ++ f ++ chars "\")"
      match flaw with
      | .tooFew => fail (chars "not enough arguments passed to " ++ place)
      | .improper number =>
          fail (chars "improper conversion(number " ++ Numeral.decimal number ++ chars ") in "
            ++ place)

/-- Read a record. -/
def readLine (p : Program) : Nat → RecordSource → Option Expr → Option Expr → Work Value
  | 0, _, _, _ => throw .never
  | room + 1, source, path, place => do
      let found : Option (Option ByteText) ← match source, path with
        | .input, _ => do pure (some (← nextRecord? 100000))
        | source, some e => do nextOf source (← textOf (← eval p room e))
        | _, none => pure none
      match found with
      | none => return .number (-1)
      | some none => return .number 0
      | some (some record) =>
          match place with
          | some e => (← locate p room e).set (.input record)
          | none => setRecord (.input record)
          return .number 1

/-- Carry statements out. -/
def execAll (p : Program) : Nat → List Statement → Work Unit
  | 0, _ => throw .never
  | _, [] => return ()
  | room + 1, s :: rest => do
      exec p room s
      execAll p room rest

/-- Carry a statement out. -/
def exec (p : Program) : Nat → Statement → Work Unit
  | 0, _ => throw .never
  | room + 1, s => do
      match s with
      | .value e => let _ ← eval p room e
      | .print items target =>
          let values ← if items.isEmpty then do pure [← field 0] else evalAll p room items
          let format ← specialText .outputFormat
          let texts := values.map (Printing.toText format)
          let text := joinWith (← specialText .outputFieldSeparator) texts
            ++ (← specialText .outputRecordSeparator)
          sayTo p room target text
      | .printf items target =>
          match ← evalAll p room items with
          | [] => return ()
          | f :: values => sayTo p room target (← formatted f values "printf")
      | .block body => execAll p room body
      | .ifElse condition yes no =>
          if (← eval p room condition).isTrue then exec p room yes else exec p room no
      | .loop start condition step body =>
          match start with
          | some s => exec p room s
          | none => pure ()
          let isOn : Work Bool := match condition with
            | some e => do pure (← eval p room e).isTrue
            | none => pure true
          let next : Work Unit := match step with
            | some s => exec p room s
            | none => pure ()
          rounds isOn (exec p room body) next maxSteps
      | .doLoop body condition =>
          let isOn : Work Bool := do pure (← eval p room condition).isTrue
          let goesOn : Bool ← tryCatch (do exec p room body; pure true) fun b =>
            match b with
            | .goOn => pure true
            | .leave => pure false
            | other => throw other
          if goesOn then rounds isOn (exec p room body) (pure ()) maxSteps else return ()
      | .forEach place array body =>
          let number ← tableOf array
          let keys := subscripts ((← get).tables.getD number ∅)
          overEach (fun key => do setValue place (.input key); exec p room body) keys
      | .delete array keys =>
          let number ← tableOf array
          if keys.isEmpty then changeTable number fun _ => ∅
          else
            let key ← subscriptOf (← evalAll p room keys)
            changeTable number fun t => t.erase key.text
      | .next => throw .next
      | .nextFile => throw .nextFile
      | .exit status =>
          match status with
          | some e =>
              let n := toInteger (← eval p room e).toNumber
              modify fun s => { s with status := (n % 256).toNat }
          | none => pure ()
          throw .exit
      | .giveBack value =>
          match value with
          | some e => throw (.giveBack (← eval p room e))
          | none => throw (.giveBack .unset)
      | .leave => throw .leave
      | .goOn => throw .goOn

/-- Say a text, or write it where it is wanted. -/
def sayTo (p : Program) : Nat → Option (TextTarget × Expr) → ByteText → Work Unit
  | 0, _, _ => throw .never
  | room + 1, target, text => do
      match target with
      | none => say text
      | some (kind, e) => write kind (← textOf (← eval p room e)) text

end

/-! ### Programs -/

/-- How deep the work goes at most. -/
def depth : Nat := 10000

/-- Whether a rule with a number is for the record. -/
def isSelected (p : Program) (number : Nat) (selector : Selector) : Work Bool := do
  match selector with
  | .all => return true
  | .one e => return (← eval p depth e).isTrue
  | .range first last =>
      let isOpen := (← get).ranges.contains number
      let begins ← if isOpen then pure true else do pure (← eval p depth first).isTrue
      if begins then
        let ends := (← eval p depth last).isTrue
        modify fun s =>
          let others := s.ranges.filter (· ≠ number)
          { s with ranges := if ends then others else number :: others }
        return true
      else return false

/-- Apply rules, each with its number, to the record. -/
def applyRules (p : Program) : List (Rule × Nat) → Work Unit
  | [] => return ()
  | (rule, number) :: rest => do
      if ← isSelected p number rule.selector then
        match rule.action with
        | some body => execAll p depth body
        | none =>
            say ((← textOf (← field 0)) ++ (← specialText .outputRecordSeparator))
      applyRules p rest

/-- Apply the rules to the records of the input. -/
def overRecords (p : Program) : Nat → Work Unit
  | 0 => throw .never
  | room + 1 => do
      match ← nextRecord? 100000 with
      | none => return ()
      | some record =>
          setRecord (.input record)
          tryCatch (applyRules p p.rules.zipIdx) fun b =>
            match b with
            | .next => pure ()
            | .nextFile => modify fun s => { s with text := none }
            | other => throw other
          overRecords p room

/-- Carry actions out one after the other. -/
def actions (p : Program) : List (List Statement) → Work Unit
  | [] => return ()
  | body :: rest => do
      execAll p depth body
      actions p rest

/-- Do something, and go on after it if it ends the program. -/
def untilExit (work : Work Unit) : Work Bool :=
  tryCatch (do work; pure true) fun b =>
    match b with
    | .exit => pure false
    | other => throw other

/-- Close what is still open: the commands are run, and what was said is handed over. -/
def closeAll : Nat → Work Unit
  | 0 => flush
  | room + 1 => do
      match (← get).commands with
      | [] => flush
      | (path, _) :: _ =>
          let _ ← close path
          closeAll room

/-- What a program does from its start to its end. -/
def Program.run (p : Program) : Work Unit := do
  let goesOn ← untilExit (actions p p.before)
  if goesOn then
    if !p.rules.isEmpty || !p.after.isEmpty then
      let _ ← untilExit (overRecords p maxSteps)
  let _ ← untilExit (actions p p.after)

end AssemblyGate.Rules
