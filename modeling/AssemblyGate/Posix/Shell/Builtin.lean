/-
**What a shell does itself.**

Commands that change the shell: its variables, its parameters, its directory, its course.  None of
them runs further commands.  Each ends with a status; what is wrong with a call is told and given
up.

Main definitions:

* `AssemblyGate.Shell.runTool` — a tool run with the descriptors of a shell;
* `AssemblyGate.Shell.Builtin.find?` — the commands by their names.
-/
import AssemblyGate.Posix.Shell.Expansion
import AssemblyGate.Posix.Shell.Jobs
import AssemblyGate.Posix.Tool.FileMode

set_option autoImplicit false

namespace AssemblyGate.Shell

/-! ### Variables -/

/-- A word as a name and, after an equals sign, a value. -/
def splitAssignment (word : ByteText) : ByteText × Option ByteText :=
  let name := word.takeWhile (· ≠ '=')
  match word.drop name.length with
  | _ :: value => (name, some value)
  | [] => (name, none)

/-- The variables of which something holds, as lines that begin with a text. -/
def State.listing (s : State) (start : ByteText) (p : Variable → Bool) : ByteText :=
  let lines := (s.bindings.filter p).map fun v =>
    v.name ++ (match v.value with | some value => '=' :: shown value | none => [])
  joinLines ((sortTexts lines).map fun line => start ++ line)

/-- Refuse what is no name. -/
def checkName (name : ByteText) : Action Unit :=
  if isName name then return () else fail (name ++ chars ": bad variable name")

/-- Have variables given to programs or not be changed any more, or list those of which this is
so. -/
def declare (title : String) (isExported isFixed : Bool) : Builtin := fun arguments => do
  let (options, words) ← letters "p" arguments
  if words.isEmpty || options.contains 'p' then
    let s ← get
    say (s.listing (chars (title ++ " ")) fun v => isExported && v.isExported || isFixed && v.isFixed)
  else
    words.forM fun word => do
      let (name, value) := splitAssignment word
      checkName name
      match value with
      | some value => setVariable name value
      | none => pure ()
      mark isExported isFixed name
    return 0

/-- Have variables come back when the function is left, and give them values. -/
def makeLocals : Builtin := fun arguments => do
  let s ← get
  if s.scopes.isEmpty || s.calls = 0 then fail (chars "not in a function")
  else
    arguments.forM fun word => do
      let (name, value) := splitAssignment word
      if name ≠ ['-'] then
        checkName name
        makeLocal name
        match value with
        | some value => setVariable name value
        | none => pure ()
    return 0

/-- Take variables or functions away. -/
def unsetAll : Builtin := fun arguments => do
  let (options, names) ← letters "fv" arguments
  if options.getLast? = some 'f' then
    modify fun s => { s with functions := s.functions.filter fun f => !names.contains f.1 }
  else
    names.forM fun word => do
      let name := (splitAssignment word).1
      checkName name
      unsetVariable name
  return 0

/-! ### Options and parameters -/

/-- The options with their letters. -/
def optionNames : List (String × Char) :=
  [("errexit", 'e'), ("noglob", 'f'), ("ignoreeof", 'I'), ("interactive", 'i'), ("monitor", 'm'),
    ("noexec", 'n'), ("stdin", 's'), ("xtrace", 'x'), ("verbose", 'v'), ("vi", 'V'), ("emacs", 'E'),
    ("noclobber", 'C'), ("allexport", 'a'), ("notify", 'b'), ("nounset", 'u'), ("privileged", 'p'),
    ("nolog", 'L'), ("debug", 'D')]

/-- What is said where jobs are to be brought under control and there is no terminal. -/
def noTerminal : String := "can\x27t access tty; job control turned off"

/-- Turn an option on or off.  Jobs cannot be brought under control where there is no terminal. -/
def setOption (isOn : Bool) (letter : Char) : Action Unit := do
  if isOn && letter = 'm' then complain (chars noTerminal)
  else
    modify fun s =>
      let others := s.options.filter (· ≠ letter)
      { s with options := if isOn then letter :: others else others }

/-- Turn the options of letters on or off. -/
def setLetters (isOn : Bool) (text : List Char) : Action Unit :=
  text.forM fun c =>
    if State.optionLetters.contains c then setOption isOn c
    else fail (chars "Illegal option " ++ [if isOn then '-' else '+', c])

/-- Turn the option of a name on or off. -/
def setNamed (isOn : Bool) (name : ByteText) : Action Unit :=
  match optionNames.find? fun e => e.1.toList == name with
  | some (_, letter) => setOption isOn letter
  | none => fail (chars "Illegal option " ++ [if isOn then '-' else '+', 'o', ' '] ++ name)

/-- The options as they are shown, plainly or as commands that set them. -/
def State.optionListing (s : State) (asCommands : Bool) : ByteText :=
  if asCommands then
    optionNames.flatMap fun (name, letter) =>
      chars ("set " ++ (if s.hasOption letter then "-" else "+") ++ "o " ++ name ++ "\n")
  else
    chars "Current option settings\n" ++ optionNames.flatMap fun (name, letter) =>
      alignLeft 15 (chars name) ++ ' ' :: chars (if s.hasOption letter then "on\n" else "off\n")

/-- Set options, then parameters. -/
def setOptions : Nat → List ByteText → Action Nat
  | 0, _ => return 0
  | room + 1, arguments => do
      let place (parameters : List ByteText) : Action Nat := do
        modify fun s => { s with parameters, spot := ⟨1, 0⟩ }
        return 0
      match arguments with
      | [] => return 0
      | ['-', '-'] :: rest => place rest
      | ['-'] :: rest =>
          setLetters false ['v', 'x']
          if rest.isEmpty then return 0 else place rest
      | (sign :: 'o' :: []) :: rest =>
          if sign = '-' || sign = '+' then
            match rest with
            | name :: rest =>
                setNamed (sign = '-') name
                setOptions room rest
            | [] => say ((← get).optionListing (sign = '+'))
          else place arguments
      | (sign :: c :: more) :: rest =>
          if sign = '-' || sign = '+' then
            setLetters (sign = '-') (c :: more)
            setOptions room rest
          else place arguments
      | _ => place arguments

/-- Set options and parameters, or list the variables. -/
def configure : Builtin := fun arguments => do
  if arguments.isEmpty then say ((← get).listing [] fun v => v.value.isSome)
  else setOptions (arguments.length + 1) arguments

/-- Leave out the first parameters. -/
def shift : Builtin := fun arguments => do
  let n ← match arguments with
    | word :: _ => numberOf word
    | [] => pure 1
  let s ← get
  if s.parameters.length < n then fail (chars "can\x27t shift that many")
  else
    set { s with parameters := s.parameters.drop n, spot := ⟨1, 0⟩ }
    return 0

/-- Where the next option of words stands: the letter, what follows it in its word, and the number
of the next word; nothing at the end of the options, with the number of the first word behind
them. -/
def nextOption (words : List ByteText) (spot : OptionSpot) :
    Except Nat (Char × ByteText × Nat) :=
  let inWord := if spot.next ≤ 1 || spot.letter = 0 then []
    else ((words[spot.next - 2]?).getD []).drop spot.letter
  match inWord with
  | c :: rest => .ok (c, rest, spot.next)
  | [] =>
      match words[spot.next - 1]? with
      | some ['-', '-'] => .error (spot.next + 1)
      | some ('-' :: c :: rest) => .ok (c, rest, spot.next + 1)
      | _ => .error spot.next

/-- Read the next option of the parameters or of words into a variable. -/
def getOptions : Builtin := fun arguments => do
  match arguments with
  | form :: name :: words =>
      let s ← get
      let words := if words.isEmpty then s.parameters else words
      let quiet := form.head? = some ':'
      let done (value : Char) (argument : Option ByteText) (next letter : Nat) (status : Nat) :
          Action Nat := do
        match argument with
        | some text => setVariable (chars "OPTARG") text
        | none => unsetVariable (chars "OPTARG")
        setVariable (chars "OPTIND") (Numeral.decimal next)
        setVariable name [value]
        modify fun s => { s with spot := ⟨next, letter⟩ }
        return status
      match nextOption words s.spot with
      | .error next =>
          setVariable (chars "OPTIND") (Numeral.decimal next)
          setVariable name ['?']
          return 1
      | .ok (c, rest, next) =>
          let letter := if rest.isEmpty then 0
            else ((words[next - 2]?).getD []).length - rest.length
          let known := (form.dropWhile (· = ':')).dropWhile (· ≠ c)
          if known.isEmpty || c = ':' then
            if quiet then done '?' (some [c]) next letter 0
            else
              report (chars "Illegal option -" ++ [c, '\n'])
              done '?' none next letter 0
          else if known.tail.head? = some ':' then
            if !rest.isEmpty then done c (some rest) next 0 0
            else
              match words[next - 1]? with
              | some argument => done c (some argument) (next + 1) 0 0
              | none =>
                  if quiet then done ':' (some [c]) next 0 0
                  else
                    report (chars "No arg for -" ++ [c] ++ chars " option\n")
                    done '?' none next 0 0
          else done c (some []) next letter 0
  | _ => fail (chars "Usage: getopts optstring var [arg]")

/-! ### Reading -/

/-- A piece of a line that is read: a character, one that was quoted, or a place where a quoted line
end was left out. -/
inductive LinePiece
  | plain (c : Char)
  | quoted (c : Char)
  | seam

/-- The pieces of a line at the front of an input, the number of characters it takes, and whether it
has an end. -/
def takeLine (isRaw : Bool) : Bool → List LinePiece → Nat → ByteText → List LinePiece × Nat × Bool
  | _, done, count, [] => (done.reverse, count, false)
  | escaped, done, count, c :: rest =>
      if c = '\x00' then takeLine isRaw escaped done (count + 1) rest
      else if escaped then
        takeLine isRaw false ((if c = '\n' then .seam else .quoted c) :: done) (count + 1) rest
      else if c = '\\' && !isRaw then takeLine isRaw true done (count + 1) rest
      else if c = '\n' then (done.reverse, count + 1, true)
      else takeLine isRaw false (.plain c :: done) (count + 1) rest

/-- The splitting of a line: how many fields may still end, those that ended, the text of the one
that has begun, whether only blanks follow a field, and what is kept of the last field if nothing
but separators follows. -/
structure LineSplit where
  room : Nat
  done : List ByteText
  text : ByteText
  isBehind : Bool
  kept : Option ByteText

/-- Take in one piece of a line.  The last field goes on behind its first separator, which is cut
off again at the end unless something else follows. -/
def LineSplit.add (separators : ByteText) (w : LineSplit) : LinePiece → LineSplit
  | .seam => { w with isBehind := false }
  | .quoted c => { w with text := w.text ++ [c], isBehind := false }
  | .plain c =>
      let isSeparator := separators.contains c
      let isBlank := isSeparator && (c = ' ' || c = '\t' || c = '\n')
      if w.room = 0 then
        if isBlank then { w with text := w.text ++ [c], kept := w.kept.or (some w.text) }
        else
          { w with
            text := w.text ++ [c], isBehind := false
            kept := if isSeparator && w.isBehind then w.kept else none }
      else if w.isBehind && isSeparator then { w with text := [], isBehind := isBlank }
      else if w.isBehind then { w with text := [c], isBehind := false }
      else if !isSeparator then { w with text := w.text ++ [c] }
      else if w.text.isEmpty && isBlank then w
      else if w.room = 1 then
        { w with room := 0, text := w.text ++ [c], isBehind := isBlank, kept := some w.text }
      else
        { w with room := w.room - 1, done := w.done ++ [w.text], text := [], isBehind := isBlank }

/-- The fields of a line for so many variables: the last one takes all that is left. -/
def lineFields (separators : ByteText) (count : Nat) (line : List LinePiece) : List ByteText :=
  let w := line.foldl (LineSplit.add separators) ⟨count, [], [], false, none⟩
  let last := w.kept.getD w.text
  let fields := w.done ++ if last.isEmpty then [] else [last]
  fields ++ List.replicate (count - fields.length) []

/-- Read a line into variables. -/
def readLine : Builtin := fun arguments => do
  let (options, names) ← letters "p:r" arguments
  let isRaw := options.contains 'r'
  if names.isEmpty then fail (chars "arg count")
  else
    awaitInput 0
    let s ← get
    let (input, isEndless) := match s.input 0 with
      | .ok found => found
      | .error _ => ([], false)
    let (line, count, hasEnd) := takeLine isRaw false [] 0 input
    if !hasEnd && isEndless then throw .overdue
    takeInput 0 count
    let values := lineFields s.separators names.length line
    (names.zip values).forM fun (word, value) => do
      let name := (splitAssignment word).1
      checkName name
      setVariable name value
    return if hasEnd then 0 else 1

/-! ### Directories -/

/-- A path without the names that lead nowhere. -/
def normalPath (path : ByteText) : ByteText :=
  let names := (FileTree.namesIn path).foldl
    (fun names n =>
      if n = ['.'] then names else if n = ['.', '.'] then names.dropLast else names ++ [n])
    ([] : List ByteText)
  let start : ByteText := match path with
    | '/' :: '/' :: '/' :: _ => ['/']
    | '/' :: '/' :: _ => ['/', '/']
    | _ => ['/']
  start ++ joinWith ['/'] names

/-- The path of the current directory, as the shell came to it. -/
def State.directory (s : State) : ByteText :=
  match s.get? (chars "PWD") with
  | some path =>
      let fits := FileTree.isAbsolute path
        && match s.world.machine.resolve true path with
          | .ok place => place.names = s.world.machine.current
          | .error _ => false
      if fits then path else s.world.machine.currentPath
  | none => s.world.machine.currentPath

/-- Say where the shell is. -/
def workingDirectory : Builtin := fun arguments => do
  let (options, _) ← letters "LP" arguments
  let s ← get
  say ((if options.getLast? = some 'P' then s.world.machine.currentPath else s.directory) ++ ['\n'])

/-- Go to another directory. -/
def changeDirectory : Builtin := fun arguments => do
  let (options, operands) ← letters "LP" arguments
  let s ← get
  let isPhysical := options.getLast? = some 'P'
  let go (target path : ByteText) (isTold : Bool) : Action Nat := do
    let full := if FileTree.isAbsolute path then path else Machine.inside s.directory path
    let path := if isPhysical then full else normalPath full
    match s.world.machine.resolve true path, s.world.machine.isDirectory path with
    | .ok place, true =>
        let before := s.directory
        modifyWorld fun w => { w with machine := { w.machine with current := place.names } }
        modify fun s => { s with located := s.located.map fun l => { l with isDoubtful := true } }
        setVariable (chars "OLDPWD") before
        let here := if isPhysical then Machine.pathOf place.names else path
        setVariable (chars "PWD") here
        if isTold then say (here ++ ['\n']) else return 0
    | _, _ => fail (chars "can\x27t cd to " ++ target)
  let (target, isTold) := match operands with
    | [] => ((s.get? (chars "HOME")).getD [], false)
    | ['-'] :: _ => ((s.get? (chars "OLDPWD")).getD [], true)
    | word :: _ => (word, false)
  let first := target.takeWhile (· ≠ '/')
  if FileTree.isAbsolute target || first = ['.'] || first = ['.', '.'] then go target target isTold
  else
    let target := if target.isEmpty then ['.'] else target
    let listed := ((s.get? (chars "CDPATH")).map (ByteText.split ':')).getD []
    let tried := listed.map fun d => if d.isEmpty then (target, false)
      else (d ++ '/' :: target, true)
    match tried.find? fun t => s.world.machine.isDirectory t.1 with
    | some (path, isListed) => go target path (isTold || isListed)
    | none => go target target isTold

/-! ### Other commands -/

/-- Leave the shell. -/
def exit : Builtin := fun arguments => do
  match arguments with
  | word :: _ =>
      let n ← numberOf word
      leave n
  | [] => leave (← get).status

/-- Leave a function or a script that was read in. -/
def comeBack : Builtin := fun arguments => do
  let n ← match arguments with
    | word :: _ => numberOf word
    | [] => pure (← get).status
  modify fun s => { s with skip := .returning }
  return n

/-- Leave or repeat loops. -/
def skipLoops (f : Nat → Skip) : Builtin := fun arguments => do
  let n ← match arguments with
    | word :: _ => do
        let n ← numberOf word
        if n = 0 then illegalNumber word else pure n
    | [] => pure 1
  let s ← get
  if 0 < s.depth then set { s with skip := f (min n s.depth) }
  return 0

/-- Give names texts that they stand for, or show them. -/
def abbreviate : Builtin := fun arguments => do
  let s ← get
  let line (a : ByteText × ByteText) : ByteText := a.1 ++ '=' :: shown a.2 ++ ['\n']
  if arguments.isEmpty then say ((s.aliases.mergeSort fun a b => !decide (b.1 < a.1)).flatMap line)
  else
    arguments.foldlM
      (fun status word => do
        let (name, text) := splitAssignment word
        match text, s.aliases.find? fun a => a.1 == name with
        | some text, _ =>
            modify fun s => { s with aliases := (name, text) :: s.aliases.filter fun a =>
              a.1 != name }
            return status
        | none, some found =>
            let _ ← say (line found)
            return status
        | none, none =>
            report (chars "alias: " ++ word ++ chars " not found\n")
            return 1) 0

/-- Take away what names stand for. -/
def unalias : Builtin := fun arguments => do
  let (options, names) ← letters "a" arguments
  if options.contains 'a' then
    modify fun s => { s with aliases := [] }
    return 0
  else
    names.foldlM
      (fun status name => do
        let s ← get
        if s.aliases.any fun a => a.1 == name then
          set { s with aliases := s.aliases.filter fun a => a.1 != name }
          return status
        else
          report (chars "unalias: " ++ name ++ chars " not found\n")
          return 1) 0

/-- The letters for what three bits of a mask leave allowed. -/
def allowed (bits : Nat) : ByteText :=
  (if bits &&& 4 = 0 then ['r'] else []) ++ (if bits &&& 2 = 0 then ['w'] else [])
    ++ (if bits &&& 1 = 0 then ['x'] else [])

/-- Show or set what nobody may do with files that are made. -/
def changeMask : Builtin := fun arguments => do
  let (options, operands) ← letters "S" arguments
  let s ← get
  match operands with
  | [] =>
      if options.contains 'S' then
        say (chars "u=" ++ allowed (s.mask / 64) ++ chars ",g=" ++ allowed (s.mask / 8 % 8)
          ++ chars ",o=" ++ allowed (s.mask % 8) ++ ['\n'])
      else
        let digits := Nat.toDigits 8 s.mask
        say (List.replicate (4 - digits.length) '0' ++ digits ++ ['\n'])
  | word :: _ =>
      if (word.headD ' ').isDigit then
        if word.any fun c => c < '0' || '7' < c then illegalNumber word
        let n := word.foldl (fun n c => n * 8 + (c.toNat - '0'.toNat)) 0
        set { s with mask := n % 512 }
        return 0
      else
        match FileMode.change? 0 true word (0o777 - s.mask) with
        | some mode =>
            set { s with mask := 0o777 - mode % 512 }
            return 0
        | none => fail (chars "Illegal mode: " ++ word)

/-- Show or set limits. -/
def limits : Builtin := fun arguments => do
  let (options, operands) ← letters "HSacdfklmnpstvwrqeiux" arguments
  if !operands.isEmpty then return 0
  else if options.contains 'n' then say (chars "1024\n")
  else say (chars "unlimited\n")

/-! ### Tools -/

/-- Write what a tool said, in order; what is told if something cannot be written. -/
def writeRemarks (said : List Remark) : Action (Option Errno) :=
  (said.splitBy fun a b => a.isError == b.isError).foldlM
    (fun failed run => do
      let text := run.flatMap (·.text)
      if run.any (·.isError) then
        report text
        return failed
      else return failed.or (← write 1 text))
    none

/-- What a tool is given by a shell. -/
def State.task (s : State) (name : ByteText) (arguments : List ByteText) (call : Call) : Task :=
  { name, arguments
    environment := s.environment
    input := (s.input 0).map (·.1)
    isFromFile := s.canGoBack 0
    mask := s.mask
    call }

/-- No command can be run. -/
def noCall : Call := fun _ _ _ _ => .error Errno.noEntry

/-- Run a tool that belongs to the shell itself and does not read. -/
def runOwn (tool : Tool) : Builtin := fun arguments => do
  let s ← get
  let name := s.command.getD []
  let title := s.name ++ chars ": " ++ Numeral.decimal s.line ++ chars ": " ++ name
  let effect := tool (s.task title arguments noCall) s.world.machine
  modifyWorld fun w => { w with machine := effect.machine }
  match ← writeRemarks effect.said with
  | none => return effect.status
  | some _ =>
      complain (name ++ chars ": I/O error")
      return max effect.status 1

/-- Say the arguments with their escapes resolved, with blanks between them and a line end after
them unless `-n` is given. -/
def echo : Builtin := fun arguments => do
  let (hasEnd, words) := match arguments with
    | ['-', 'n'] :: rest => (false, rest)
    | all => (true, all)
  let (text, goesOn) := Escape.resolve (joinWith [' '] words)
  say (text ++ if hasEnd && goesOn then ['\n'] else [])

/-! ### The table -/

/-- Say how much time was used. -/
def times : Builtin := fun _ => say (chars "0m0.00s 0m0.00s\n0m0.00s 0m0.00s\n")

namespace Builtin

/-- The commands that run no others. -/
def table : List (String × Builtin) :=
  [(":", fun _ => return 0), ("[", runOwn Tool.bracket), ("alias", abbreviate), ("bg", controlJob),
    ("break", skipLoops .leaving), ("cd", changeDirectory), ("chdir", changeDirectory),
    ("continue", skipLoops .repeating), ("echo", echo), ("exit", exit),
    ("export", declare "export" true false), ("false", fun _ => return 1), ("fg", controlJob),
    ("getopts", getOptions), ("jobs", listJobs), ("kill", kill),
    ("local", makeLocals), ("printf", runOwn Tool.printf), ("pwd", workingDirectory),
    ("read", readLine), ("readonly", declare "readonly" false true), ("return", comeBack),
    ("set", configure), ("shift", shift), ("test", runOwn Tool.test), ("times", times),
      ("trap", trap),
    ("true", fun _ => return 0), ("ulimit", limits), ("umask", changeMask), ("unalias", unalias),
    ("unset", unsetAll), ("wait", wait)]

/-- The commands that run others. -/
def runners : List String := [".", "command", "eval", "exec", "hash", "type"]

/-- The command of a name that runs no others. -/
def find? (name : ByteText) : Option Builtin :=
  (table.find? fun e => e.1.toList == name).map (·.2)

/-- Whether a name is that of a command of the shell itself. -/
def isKnown (name : ByteText) : Bool :=
  (find? name).isSome || runners.any fun r => r.toList == name

/-- The commands whose assignments stay and whose errors end the shell. -/
def isSpecial (name : ByteText) : Bool :=
  [".", ":", "break", "continue", "eval", "exec", "exit", "export", "local", "readonly", "return",
    "set", "shift", "times", "trap", "unset"].any fun n => n.toList == name

/-- The commands whose arguments may be assignments. -/
def takesAssignments (name : ByteText) : Bool :=
  ["alias", "export", "local", "readonly"].any fun n => n.toList == name

end Builtin

end AssemblyGate.Shell
