/-
**Loading the settings.**

Every option has a value from the first of three layers that has one: the environment, the file, the
defaults.  The values are converted to their types, and last the assembler's time limit is checked
against the time that a connection may last.

Main definitions:

* `AssemblyGate.Settings.defaults` — the layer of the defaults;
* `AssemblyGate.Settings.merged` — the three layers in one tree;
* `AssemblyGate.Settings.load` — the settings.
-/
import AssemblyGate.Settings.Convert
import AssemblyGate.Settings.Environment
import AssemblyGate.Settings.File
import AssemblyGate.Settings.KeyPath

set_option autoImplicit false

namespace AssemblyGate.Settings

/-- The name of the file of settings where none is given. -/
def defaultName : String := "config"

/-- The defaults that stand in a layer of their own. -/
def defaults : List (String × Scalar) :=
  [("server.host", .text "127.0.0.1"), ("server.port", .int 8080), ("logging.level", .text "info"),
    ("logging.access_log", .bool true), ("performance.keep_alive_timeout", .int 75),
    ("performance.read_timeout", .int 30), ("performance.write_timeout", .int 30),
    ("performance.shutdown_timeout", .int 10), ("http.server_name", .text "asm-validator"),
    ("http.enable_cors", .bool false), ("http.max_body_size", .int 1048576),
    ("assembler.binary", .text "arm-linux-gnueabihf-as"), ("assembler.locale", .text "en"),
    ("assembler.timeout_ms", .int 10000), ("assembler.max_source_bytes", .int 262144)]

/-- The flags of the assembler by default. -/
def defaultFlags : List String := ["-mthumb"]

/-- The layer of the defaults. -/
def defaultLayer : List (String × Raw) :=
  defaults.map (fun (key, value) => (key, Raw.scalar none value))
    ++ [("assembler.flags", .list none (defaultFlags.map fun s => .scalar none (.text s)))]

/-- The three layers in one tree.  File and environment are laid over one another before they are
laid over the defaults. -/
def merged (file environment : List (String × Raw)) : Raw :=
  let given := (Raw.empty.overlay file).overlay environment
  (Raw.empty.overlay defaultLayer).overlay given.tableParts.2

/-- Settings whose connections last long enough for the assembler. -/
def checked (s : Settings) : Except LoadError Settings :=
  if s.outlasts then .ok s
  else .error (.tooSlow s.assembler.timeoutMs.toNat s.connectionMs)

/-- The settings that file and environment give. -/
def ofLayers (file environment : List (String × Raw)) : Except LoadError Settings :=
  match ofRaw (merged file environment) with
  | .error e => .error e
  | .ok s => s.checked

/-- The settings of a service that is told the name of its file. -/
def load (view : FileView) (environment : List (String × String)) (name : String) :
    Except LoadError Settings :=
  match ConfigFile.layer view name with
  | .error e => .error e
  | .ok file => ofLayers file (Environment.layer environment)

/-- A time in milliseconds as it is shown: in milliseconds below a second, and otherwise in seconds
with the digits after the point that matter. -/
def durationForm (milliseconds : Nat) : List Char :=
  if milliseconds = 0 then "0ns".toList
  else if milliseconds < 1000 then Nat.toDigits 10 milliseconds ++ "ms".toList
  else
    let rest := milliseconds % 1000
    let places := ((Numeral.padded 3 rest).reverse.dropWhile (· = '0')).reverse
    Nat.toDigits 10 (milliseconds / 1000) ++ (if rest = 0 then [] else '.' :: places) ++ ['s']

end AssemblyGate.Settings
