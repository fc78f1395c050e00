/-
**Outputs and inputs that fail.**

A tool whose output cannot be written says so in words of its own, and ends with a status of its
own.  Some tools close their input when they end and say that this failed where there is none.

Main definitions:

* `AssemblyGate.Tool.writeTrouble` — what is said of an output that cannot be written;
* `AssemblyGate.Tool.closeTrouble` — what is said of an input that cannot be closed.
-/
import AssemblyGate.Posix.Tool.Basic

set_option autoImplicit false

namespace AssemblyGate.Tool

/-- What a tool says of an output that cannot be written, behind its name and a colon, and the
status it ends with instead of the one it would have had. -/
def writeTrouble (program : String) (e : Errno) (status : Nat) : List ByteText × Nat :=
  let cause := chars (Errno.message e)
  let usual := chars "write error: " ++ cause
  let isClosed := e = Errno.badDescriptor
  match program with
  | "cat" => ([if isClosed then chars "standard output: " ++ cause else usual], 1)
  | "tee" => ([chars "'standard output': " ++ cause], 1)
  | "wc" => ([if isClosed then usual else chars "write error"], 1)
  | "sort" =>
      ([chars "fflush failed: 'standard output': " ++ cause, chars "write error"], 2)
  | "sed" =>
      ([chars (if isClosed then "couldn't close stdout: " else "couldn't flush stdout: ") ++ cause], 4)
  | "awk" | "mawk" | "nawk" =>
      ([chars "close failed on file \"/dev/stdout\" (" ++ cause ++ [')']], 2)
  | "cmp" => if isClosed then ([], status) else ([chars "standard output: " ++ cause], 2)
  | "hostname" => ([], status)
  | "rev" => if isClosed then ([], status) else ([usual], 1)
  | "grep" | "egrep" | "fgrep" | "ls" | "printenv" => ([usual], 2)
  | "expr" | "tty" => ([usual], 3)
  | _ => ([usual], max status 1)

/-- The name by which a tool says what it says of its output. -/
def writerName (program : String) (title : ByteText) : ByteText :=
  match program with
  | "egrep" | "fgrep" => chars "grep"
  | "mawk" | "nawk" => chars "awk"
  | _ => title

/-- What a tool calls its input when it says that it cannot be closed, if it says so. -/
def inputTitle? (program : String) : Option String :=
  match program with
  | "cat" => some "closing standard input"
  | "cut" | "expand" | "fold" | "head" | "nl" | "paste" | "tac" | "tail" | "wc" => some "-"
  | "od" | "tee" => some "standard input"
  | _ => none

/-- What a tool that read its input says when this cannot be closed, as there is none. -/
def closeTrouble (program : String) (t : Task) : List Remark :=
  match t.input, inputTitle? program with
  | .error e, some title =>
      if e = Errno.badDescriptor then [t.complainOf (chars title) e] else []
  | _, _ => []

end AssemblyGate.Tool
