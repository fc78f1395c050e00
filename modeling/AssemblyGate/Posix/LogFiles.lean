/-
**Log files of a machine.**

How a machine makes the directories of log files, opens them and writes to them.  The null device
and the device without room stand under numbers that no file has: what is written to the one is
gone, and nothing can be written to the other.
-/
import AssemblyGate.Journal.Opening
import AssemblyGate.Posix.Machine

set_option autoImplicit false

namespace AssemblyGate.Machine

/-- Whether a text holds a character that no name may hold. -/
def hasNul (text : String) : Bool := text.toList.contains '\x00'

/-- The number under which the null device stands. -/
def nullNumber : Nat := 0

/-- The number under which the device without room stands. -/
def fullNumber : Nat := 1

/-- The sink of what was opened. -/
def Opened.sink : Opened → Sink
  | .file number => .file number
  | .device .full => .file fullNumber
  | .device _ => .file nullNumber
  | .descriptor 1 => .stdout
  | .descriptor 2 => .stderr
  | .descriptor _ => .file nullNumber

/-- Write to a sink. -/
def writeSink (m : Machine) (sink : Sink) (bytes : Bytes) : Except Fault Machine :=
  match sink with
  | .stdout => .ok { m with stdout := bytes :: m.stdout }
  | .stderr => .ok { m with stderr := bytes :: m.stderr }
  | .file number =>
      if number = fullNumber then .error (.os Errno.noSpace) else .ok (m.append number bytes)

/-- Do something to a path that the machine can be asked about. -/
def withPath {α : Type} (f : ByteText → Machine → Except Errno (α × Machine)) (path : String)
    (m : Machine) : Except Fault α × Machine :=
  if hasNul path then (.error .nulInName, m)
  else
    match f (ByteText.ofString path) m with
    | .ok (result, m) => (.ok result, m)
    | .error e => (.error (.os e), m)

/-- The log files of a machine. -/
def logFiles : LogFiles Machine :=
  { makeDirectory := withPath fun path m => (m.makeDirectory path usualDirectoryMode).map fun m => ((), m)
    isDirectory := fun m path => !hasNul path && m.isDirectory (ByteText.ofString path)
    openAtEnd := withPath fun path m =>
      (m.openFile path .atEnd).map fun (opened, m) => (opened.sink, m) }

/-- The streams and files of a machine as places to write to. -/
def recorder : Recorder Machine := ⟨fun sink bytes m => m.writeSink sink bytes⟩

end AssemblyGate.Machine
