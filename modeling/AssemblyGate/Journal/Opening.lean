/-
**Opening a journal.**

The settings name a file for each kind of lines, or none for a standard stream.  The directories
above a file are made if they are missing, and lines go to the end of what the file holds.  A
journal is opened once.

Main definitions:

* `AssemblyGate.LogFiles` — what is asked of the machine;
* `AssemblyGate.LogFiles.ensure` — a directory with all those above it;
* `AssemblyGate.Journal.openFrom`, `AssemblyGate.Journal.openOnce` — the journal that settings
  describe.
-/
import AssemblyGate.Host.Path
import AssemblyGate.Journal.Delivery
import AssemblyGate.Settings.Basic

set_option autoImplicit false

namespace AssemblyGate

/-- What is asked of the machine to open log files. -/
structure LogFiles (σ : Type) where
  /-- Make one directory. -/
  makeDirectory : String → σ → Except Fault Unit × σ
  /-- Whether a path leads to a directory. -/
  isDirectory : σ → String → Bool
  /-- Open a file to write at its end, making it if it is not there. -/
  openAtEnd : String → σ → Except Fault Sink × σ

/-- Why a journal was not opened. -/
inductive JournalError
  | file (fault : Fault)
  | alreadyOpen
deriving DecidableEq

namespace JournalError

/-- The text of an error. -/
def message : JournalError → String
  | .file fault => fault.message
  | .alreadyOpen => "Log writer already initialized"

/-- The kind of an error. -/
def kind : JournalError → String
  | .file fault => fault.kind
  | .alreadyOpen => Errno.kind Errno.inUse

/-- The form in which a program shows the error that ended it. -/
def detail : JournalError → String
  | .file fault => fault.detail
  | .alreadyOpen =>
      "Custom \x7b kind: " ++ Errno.kind Errno.inUse ++ ", error: "
        ++ String.ofList (Quoted.quote (JournalError.message .alreadyOpen).toList)
        ++ " \x7d"

end JournalError

namespace LogFiles

variable {σ : Type}

/-- What is left of an error about a directory: none, if the directory is there all the same. -/
def excuse (files : LogFiles σ) (path : String) (fault : Fault) (s : σ) : Except Fault Unit × σ :=
  (if files.isDirectory s path then .ok () else .error fault, s)

/-- Make a directory; that it is there already is no error. -/
def settle (files : LogFiles σ) (path : String) (s : σ) : Except Fault Unit × σ :=
  match files.makeDirectory path s with
  | (.ok (), s) => (.ok (), s)
  | (.error fault, s) => files.excuse path fault s

/-- Make a directory and those above it that are missing, at most as many as there is room for. -/
def ensureFrom (files : LogFiles σ) : Nat → String → σ → Except Fault Unit × σ
  | 0, _, s => (.ok (), s)
  | room + 1, path, s =>
      if path.isEmpty then (.ok (), s)
      else
        match files.makeDirectory path s with
        | (.ok (), s) => (.ok (), s)
        | (.error fault, s) =>
            if fault = .os Errno.noEntry then
              match Path.parent? path with
              | none => (.error (.other "failed to create whole tree"), s)
              | some above =>
                  match ensureFrom files room above s with
                  | (.error fault, s) => (.error fault, s)
                  | (.ok (), s) => files.settle path s
            else files.excuse path fault s

/-- Make a directory and those above it that are missing. -/
def ensure (files : LogFiles σ) (path : String) (s : σ) : Except Fault Unit × σ :=
  files.ensureFrom (path.length + 1) path s

/-- Open a log file. -/
def openLog (files : LogFiles σ) (path : String) (s : σ) : Except Fault Sink × σ :=
  match Path.parent? path with
  | none => files.openAtEnd path s
  | some above =>
      match files.ensure above s with
      | (.error fault, s) => (.error fault, s)
      | (.ok (), s) => files.openAtEnd path s

/-- Open the log file that is named, or take a standard stream. -/
def openOr (files : LogFiles σ) (standard : Sink) (path : Option String) (s : σ) :
    Except Fault Sink × σ :=
  match path with
  | none => (.ok standard, s)
  | some path => files.openLog path s

end LogFiles

namespace Journal

variable {σ : Type}

/-- The journal that settings describe.  The file for access lines is opened first. -/
def openFrom (files : LogFiles σ) (logging : LoggingSettings) (s : σ) : Except Fault Journal × σ :=
  match files.openOr .stdout logging.accessLogFile s with
  | (.error fault, s) => (.error fault, s)
  | (.ok access, s) =>
      match files.openOr .stderr logging.errorLogFile s with
      | (.error fault, s) => (.error fault, s)
      | (.ok errors, s) => (.ok ⟨Level.ofName logging.level, access, errors⟩, s)

/-- Open the journal of a service, which may have opened one before.  The files are opened in any
case, but a journal that is there stays. -/
def openOnce (files : LogFiles σ) (present : Option Journal) (logging : LoggingSettings) (s : σ) :
    Except JournalError Journal × σ :=
  match openFrom files logging s with
  | (.error fault, s) => (.error (.file fault), s)
  | (.ok journal, s) =>
      match present with
      | some _ => (.error .alreadyOpen, s)
      | none => (.ok journal, s)

end Journal

end AssemblyGate
