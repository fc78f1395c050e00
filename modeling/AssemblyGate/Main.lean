/-
**The command line.**

The first argument names the file of settings.  The program is run on a picture of the machine that
holds the environment, the current directory and the files that may hold settings; what it writes is
passed on.  It serves until its input ends.
-/
import AssemblyGate.Posix.Platform

set_option autoImplicit false

namespace AssemblyGate.CommandLine

/-- The variables of an environment as the system lists them. -/
def readEnvironment (bytes : Bytes) : List (String × String) :=
  (ByteText.split '\x00' (ByteText.ofBytes bytes)).filterMap fun entry =>
    let name := entry.takeWhile (· ≠ '=')
    if name.isEmpty || name.length = entry.length then none
    else some (ByteText.toString name, ByteText.toString (entry.drop (name.length + 1)))

/-- The bytes of a file, or none. -/
def contents (path : String) : IO (Option Bytes) :=
  try
    let bytes ← IO.FS.readBinFile path
    return some bytes.toList
  catch _ => return none

/-- The paths under which settings are looked for. -/
def settingsPaths (arguments : List String) : List String :=
  let name := arguments.headD Settings.defaultName
  [name, name ++ ".toml", name ++ ".json"]

/-- The picture of the machine. -/
def picture (arguments : List String) : IO Machine := do
  let directory ← IO.currentDir
  let environment := readEnvironment ((← contents "/proc/self/environ").getD [])
  let start := Machine.standard.ensureDirectory (Machine.namesOf directory.toString)
  let mut m := { start with environment, current := Machine.namesOf directory.toString }
  for path in settingsPaths arguments do
    if let some bytes ← contents path then
      m := m.install (Machine.namesOf (Path.join directory.toString path)) bytes false
  return m

/-- Pass on what was written to the standard streams. -/
def passOn (m : Machine) : IO Machine := do
  (← IO.getStdout).write (ByteArray.mk m.stdout.reverse.flatten.toArray)
  (← IO.getStderr).write (ByteArray.mk m.stderr.reverse.flatten.toArray)
  (← IO.getStdout).flush
  return { m with stdout := [], stderr := [] }

/-- Pass on what was written to log files. -/
def passOnFiles (settings : Settings) (m : Machine) : IO Unit := do
  let paths := settings.logging.accessLogFile.toList ++ settings.logging.errorLogFile.toList
  for path in paths.eraseDups do
    if let .ok bytes := m.read (ByteText.ofString path) then
      if let some directory := Path.parent? path then
        unless directory.isEmpty do IO.FS.createDirAll directory
      IO.FS.withFile path .append fun file => file.write (ByteArray.mk bytes.toArray)

/-- Say how the program ended, and with which status. -/
def conclude (ended : Except Halt Unit) : IO UInt32 := do
  if let .error halt := ended then IO.eprintln halt.report
  return UInt32.ofNat (Program.exitCode ended)

/-- Wait until the input ends. -/
partial def awaitEnd (input : IO.FS.Stream) : IO Unit := do
  let bytes ← input.read 4096
  unless bytes.isEmpty do awaitEnd input

/-- Run the program. -/
def run (arguments : List String) : IO UInt32 := do
  let (started, m) := Program.start Machine.platform arguments (← picture arguments)
  let m ← passOn m
  match started with
  | .error halt => conclude (.error halt)
  | .ok running =>
      awaitEnd (← IO.getStdin)
      let (ended, m) := Program.finish Machine.platform .terminate running m
      let m ← passOn m
      passOnFiles running.settings m
      conclude ended

end AssemblyGate.CommandLine

/-- The command line of the program. -/
def main (arguments : List String) : IO UInt32 := AssemblyGate.CommandLine.run arguments
