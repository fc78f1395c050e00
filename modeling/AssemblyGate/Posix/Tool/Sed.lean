/-
**The stream editor.**

The script comes from options and files or is the first operand; the other operands are the files it
is run on.

Main definitions:

* `AssemblyGate.Sed.Chunk` — a part of a script, as it was given;
* `AssemblyGate.Tool.sed` — the tool.
-/
import AssemblyGate.Posix.Sed.Reader
import AssemblyGate.Posix.Sed.Run

set_option autoImplicit false

namespace AssemblyGate

namespace Sed

/-- A part of a script: its text, and the file it comes from, if it does not stand among the
arguments. -/
structure Chunk where
  text : ByteText
  file : Option ByteText

/-- The options of the stream editor. -/
def options : OptionForm :=
  ⟨"bsnrzuEe:f:l:i::pd", [("quiet", 'n'), ("silent", 'n'), ("expression", 'e'), ("file", 'f'),
    ("regexp-extended", 'E'), ("in-place", 'i'), ("line-length", 'l'), ("null-data", 'z'),
    ("zero-terminated", 'z'), ("separate", 's'), ("unbuffered", 'u'), ("posix", 'p'),
    ("debug", 'd'), ("sandbox", 'p'), ("follow-symlinks", 'p'), ("binary", 'b')], true⟩

/-- What is said of a wrong call. -/
def usage (said : List Remark) : List Remark :=
  said ++ [⟨true,
    chars "Usage: sed [OPTION]... \x7bscript-only-if-no-other-script\x7d [input-file]...\n\n"⟩]

/-- The parts of the script that options give, or the name of a file that cannot be read. -/
def chunks (t : Task) (m : Machine) (o : Options) : Except (ByteText × Errno) (List Chunk) :=
  o.given.foldlM
    (fun done (letter, value) =>
      match letter with
      | 'e' => .ok (done ++ [⟨value, none⟩])
      | 'f' =>
          match (t.source m value).text with
          | .ok text =>
              .ok (done ++ [⟨if text.getLast? = some '\n' then text.dropLast else text,
                some value⟩])
          | .error e => .error (value, e)
      | _ => .ok done)
    []

/-- Where in a script so many characters were read: the part, its number among those that stand
among the arguments, and the characters read of it. -/
def locate : Nat → Nat → List Chunk → Chunk × Nat × Nat
  | number, read, [] => (⟨[], none⟩, number, read)
  | number, read, [last] => (last, number + 1, read)
  | number, read, chunk :: rest =>
      if read ≤ chunk.text.length then (chunk, number + 1, read)
      else locate (if chunk.file.isNone then number + 1
        else number) (read - chunk.text.length - 1) rest

/-- What is said of a flaw in a script. -/
def tell (t : Task) (all : List Chunk) (size : Nat) (flaw : Flaw) : Remark :=
  match flaw.rest with
  | none => t.complain (chars "-e expression #1, char 0: " ++ chars flaw.message)
  | some rest =>
      if flaw.message = Regex.Flaw.message .bareClass then t.complain (chars flaw.message)
      else
        let (chunk, number, read) := locate 0 (size - rest) all
        match chunk.file with
        | none =>
            t.complain (chars "-e expression #" ++ Numeral.decimal number ++ chars ", char "
              ++ Numeral.decimal read ++ chars ": " ++ chars flaw.message)
        | some path =>
            let line := (chunk.text.take read).count '\n' + 1
            t.complain (chars "file " ++ path ++ chars " line " ++ Numeral.decimal line ++ chars ": "
              ++ chars flaw.message)

/-- The status of a flaw. -/
def flawStatus (flaw : Flaw) : Nat :=
  if flaw.message = Regex.Flaw.message .bareClass then 4 else 1

/-- The files that a script writes to. -/
def writtenFiles (script : List Command) : List ByteText :=
  (script.filterMap fun command => match command.action with
    | .write path | .writeFirst path => some path
    | .substitute how => how.file
    | _ => none).eraseDups

/-- Open the files that a script writes to. -/
def openAll (t : Task) : List ByteText → List (ByteText × Machine.Opened) → Machine →
    Except (ByteText × Errno) (List (ByteText × Machine.Opened) × Machine)
  | [], done, m => .ok (done, m)
  | path :: rest, done, m =>
      match m.openFile path ⟨true, false, 0o666 &&& (0o777 - t.mask)⟩ with
      | .ok (opened, m) => openAll t rest ((path, opened) :: done) m
      | .error e => .error (path, e)

/-- The input: its lines, what is said of files that cannot be read, and the status for them.  A
directory ends the input. -/
structure Input where
  lines : List InputLine
  notes : List Remark
  status : Nat

/-- The lines of a text. -/
def inputLines (ending : Char) (file : Nat) (path text : ByteText) : List InputLine :=
  let hasEnd := text.isEmpty || text.getLast? = some ending
  let all := if text.isEmpty then []
    else ByteText.split ending (if hasEnd then text.dropLast else text)
  all.zipIdx.map fun (line, i) => ⟨line, hasEnd || i + 1 < all.length, file, path⟩

/-- The input of operands. -/
def readInput (t : Task) (m : Machine) (inPlace : Bool) (ending : Char) :
    List (ByteText × Nat) → Input
  | [] => ⟨[], [], 0⟩
  | (path, file) :: rest =>
      match (t.source m path).text with
      | .ok text =>
          let more := readInput t m inPlace ending rest
          { more with lines := inputLines ending file path text ++ more.lines }
      | .error e =>
          let isDirectory := e = Errno.isDirectory
          let source := t.source m path
          if source.isOpened && !inPlace then
            let shown := if source.isInput then chars "stdin" else path
            ⟨[], [t.complainOf (chars "read error on " ++ shown) e], 4⟩
          else
            let more := readInput t m inPlace ending rest
            let note :=
              if isDirectory then
                t.complain (chars "couldn't edit " ++ path ++ chars ": not a regular file")
              else t.complain (chars "can't read " ++ path ++ chars ": " ++ chars (Errno.message e))
            { more with
              notes := note :: more.notes
              status := max more.status (if isDirectory then 4 else 2) }

/-- The path that a file is kept under before it is changed. -/
def backupPath (path suffix : ByteText) : ByteText :=
  if suffix.contains '*' then suffix.flatMap fun c => if c = '*' then path else [c]
  else path ++ suffix

/-- Put what was said for files in their place. -/
def settle (t : Task) (suffix : ByteText) (s : State) (paths : List (ByteText × Nat)) : Machine :=
  paths.foldl
    (fun m (path, file) =>
      if !m.isFile path then m
      else
        let text := s.said.reverse.flatMap fun (owner, text) => if owner = some file then text else []
        let m := match suffix.isEmpty, m.read path with
          | false, .ok bytes =>
              (m.write (backupPath path suffix) bytes (0o666 &&& (0o777 - t.mask))).toOption.getD m
          | _, _ => m
        (m.write path (ByteText.toBytes text) (0o666 &&& (0o777 - t.mask))).toOption.getD m)
    s.machine

/-- Run a script on files. -/
def edit (t : Task) (m : Machine) (o : Options) (all : List Chunk) (operands : List ByteText) : Effect :=
  let text := joinWith ['\n'] (all.map (·.text))
  match readScript (o.has 'E' || o.has 'r') text with
  | .error flaw => .failed m (tell t all text.length flaw) (flawStatus flaw)
  | .ok commands =>
      match missingLabel commands with
      | some label =>
          .failed m (t.complain (chars "can't find label for jump to \x60" ++ label ++ ['\x27'])) 4
      | none =>
          match openAll t (writtenFiles commands) [] m with
          | .error (path, e) =>
              .failed m (t.complain (chars "couldn't open file " ++ path ++ chars ": "
                ++ chars (Errno.message e))) 4
          | .ok (outputs, m) =>
              let inPlace := o.has 'i'
              let ending := if o.has 'z' then '\x00' else '\n'
              let paths := (if operands.isEmpty then [['-']] else operands).zipIdx.map fun (p, i) =>
                (p, i + 1)
              let input := readInput t m inPlace ending paths
              let manner : Manner :=
                { isQuiet := o.has 'n' || ['#', 'n'].isPrefixOf text
                  byFile := o.has 's' || inPlace, inPlace, ending
                  width := ((o.value? 'l').map Numeral.ofDigits).getD 70, task := t }
              let script := commands.toArray
              let (s, ended) := run manner script (State.before script input.lines outputs m)
              let (status, failure, isEndless) : Nat × List Remark × Bool := match ended with
                | .status n => (if n = 0 then input.status else n, [], false)
                | .failure message n =>
                    (n, [t.complain (chars "-e expression #1, char 0: " ++ chars message)], false)
                | .never => (0, [], true)
              let notes := s.notes.reverse.map fun text => (⟨true, text⟩ : Remark)
              let said := s.said.reverse.flatMap fun (owner, text) => if owner.isNone then text else []
              let m := if inPlace then
                  settle t ((o.value? 'i').getD []) s (paths.filter fun e => e.2 ≤ s.file)
                else s.machine
              { (Effect.ended m (input.notes ++ notes ++ failure ++
                [⟨false, said⟩]) status).reading m
                  operands with isEndless }

end Sed

/-- Run a script on the lines of files. -/
def Tool.sed : Tool := fun t m =>
  match Sed.options.readFrom (t.arguments.length + 1) [] [] t.arguments with
  | .error text => .ended m (Sed.usage [t.complain text]) 1
  | .ok o =>
      match Sed.chunks t m o with
      | .error (path, e) =>
          .failed m (t.complain (chars "couldn't open file " ++ path ++ chars ": "
            ++ chars (Errno.message e))) 4
      | .ok [] =>
          match o.operands with
          | [] => .ended m (Sed.usage []) 1
          | script :: operands => Sed.edit t m o [⟨script, none⟩] operands
      | .ok all => Sed.edit t m o all o.operands

end AssemblyGate
