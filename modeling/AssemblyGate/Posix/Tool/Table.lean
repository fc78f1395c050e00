/-
**The table of tools.**

The tools of the machine by the names they are called by.
-/
import AssemblyGate.Posix.Tool.Awk
import AssemblyGate.Posix.Tool.Batch
import AssemblyGate.Posix.Tool.Clock
import AssemblyGate.Posix.Tool.Condition
import AssemblyGate.Posix.Tool.Directory
import AssemblyGate.Posix.Tool.Dump
import AssemblyGate.Posix.Tool.Expr
import AssemblyGate.Posix.Tool.Find
import AssemblyGate.Posix.Tool.Format
import AssemblyGate.Posix.Tool.Grep
import AssemblyGate.Posix.Tool.Merge
import AssemblyGate.Posix.Tool.Print
import AssemblyGate.Posix.Tool.Sed
import AssemblyGate.Posix.Tool.Sort

set_option autoImplicit false

namespace AssemblyGate.Tool

/-- The tools that say things. -/
def printers : List (String × Tool) :=
  [("printf", printf), ("echo", echo), ("true", succeed), ("false", failing), ("pwd", pwd),
    ("printenv", printenv), ("yes", yes), ("seq", seq), ("sleep", sleep), ("basename", basename),
    ("dirname", dirname), ("test", test), ("[", bracket), ("id", id), ("whoami", saying "root"),
    ("hostname", saying "localhost"), ("nproc", saying "1"), ("arch", saying "x86_64"),
    ("uname", uname), ("tty", tty), ("date", date), ("expr", expr)]

/-- The tools that work on texts. -/
def readers : List (String × Tool) :=
  [("cat", cat), ("tac", tac), ("rev", rev), ("nl", nl), ("head", head), ("tail", tail),
    ("tee", tee),
    ("cut", cut), ("paste", paste), ("fold", fold), ("expand", expand), ("tr", tr), ("wc", wc),
    ("sort", sort), ("uniq", uniq), ("comm", comm), ("od", od), ("cmp", cmp), ("base64", base64),
    ("grep", grep), ("egrep", egrep), ("fgrep", fgrep), ("sed", sed), ("awk", awk), ("mawk", awk),
    ("nawk", awk), ("xargs", xargs)]

/-- The tools that work on files. -/
def keepers : List (String × Tool) :=
  [("ls", ls), ("find", find), ("readlink", readlink), ("realpath", realpath), ("stat", stat),
    ("mktemp", mktemp),
    ("install", install), ("mkdir", mkdir), ("rmdir", rmdir), ("rm", rm), ("unlink", unlink),
    ("cp", cp), ("mv", mv), ("ln", ln), ("link", link), ("touch", touch), ("chmod", chmod),
    ("truncate", truncate)]

/-- The tools with their names. -/
def table : List (String × Tool) := printers ++ readers ++ keepers

/-- The tool of a name. -/
def find? (name : String) : Option Tool := (table.find? fun entry => entry.1 == name).map (·.2)

end AssemblyGate.Tool
