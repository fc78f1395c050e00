/-
**Settings from a file.**

The file is looked for under its name as it is given, if that ends in the name of a known format,
and otherwise under the name with the ending of each known format.  No file, or one that is not
text, is the same as an empty one; a file that breaks the rules of its format is an error.

Main definitions:

* `AssemblyGate.FileView` — what can be seen of the files;
* `AssemblyGate.ConfigFile.find?` — the file that a name leads to, and its format;
* `AssemblyGate.ConfigFile.layer` — the layer that it holds.
-/
import AssemblyGate.Host.Path
import AssemblyGate.Json.Reader
import AssemblyGate.Settings.Mismatch
import AssemblyGate.Toml.Reader

set_option autoImplicit false

namespace AssemblyGate

/-- The current directory, and the contents of the regular files; a file that cannot be read has
none. -/
structure FileView where
  current : String
  isFile : String → Bool
  contents? : String → Option Bytes

namespace ConfigFile

/-- The formats that are read here.  Files in other formats are not looked for, and a file that is
named in full and ends in the name of another format is taken for none. -/
inductive Format
  | toml
  | json
deriving DecidableEq

/-- The ending of a format's names. -/
def Format.ending : Format → String
  | .toml => "toml"
  | .json => "json"

/-- The formats, in the order in which they are tried.  Where files of one name in several formats
stand side by side no order is promised; here it is a fixed one. -/
def formats : List Format := [.toml, .json]

/-- The file that a name leads to, and its format. -/
def find? (view : FileView) (name : String) : Option (String × Format) :=
  let path := Path.join view.current name
  if view.isFile path then
    (formats.find? (fun f => Path.extension? path == some f.ending)).map fun f => (path, f)
  else
    let candidates := formats.map fun f => (Path.addExtension path f.ending, f)
    candidates.find? fun c => view.isFile c.1

mutual

/-- A TOML value as a raw one. -/
def ofToml (origin : Option String) : Toml → Raw
  | .text s | .moment s => .scalar origin (.text s)
  | .integer n => .scalar origin (.int n)
  | .float x => .scalar origin (.float x)
  | .bool b => .scalar origin (.bool b)
  | .list items => .list origin (ofTomlItems origin items)
  | .table entries => .table origin (ofTomlEntries origin entries)

/-- The items of a TOML list as raw values. -/
def ofTomlItems (origin : Option String) : List Toml → List Raw
  | [] => []
  | item :: rest => ofToml origin item :: ofTomlItems origin rest

/-- The entries of a TOML table as raw values. -/
def ofTomlEntries (origin : Option String) : List (String × Toml) → List (String × Raw)
  | [] => []
  | (key, value) :: rest => (key, ofToml origin value) :: ofTomlEntries origin rest

end

/-- A JSON number as a scalar.  A whole number beyond the signed 64-bit range is a floating point
one. -/
def ofJsonNumber : JsonNumber → Scalar
  | .whole n => if n < twoTo 63 then .int n else .float (Binary64.ofInt n)
  | .float x => .float x

mutual

/-- A JSON value as a raw one.  Of several members of one name the last one counts. -/
def ofJson (origin : Option String) : Json → Raw
  | .null => .scalar origin .unset
  | .bool b => .scalar origin (.bool b)
  | .number n => .scalar origin (ofJsonNumber n)
  | .text s => .scalar origin (.text s)
  | .list items => .list origin (ofJsonItems origin items)
  | .object members => .table origin (sortNamed (ofJsonMembers origin members))

/-- The items of a JSON list as raw values. -/
def ofJsonItems (origin : Option String) : List Json → List Raw
  | [] => []
  | item :: rest => ofJson origin item :: ofJsonItems origin rest

/-- The members of a JSON object as raw values. -/
def ofJsonMembers (origin : Option String) : List (String × Json) → List (String × Raw)
  | [] => []
  | (name, value) :: rest => (name, ofJson origin value) :: ofJsonMembers origin rest

end

/-- The layer that a text of a format holds. -/
def parse (origin : String) (format : Format) (text : List Char) :
    Except LoadError (List (String × Raw)) :=
  match format with
  | .toml =>
      match Toml.parse? text with
      | some entries => .ok (ofTomlEntries (some origin) entries)
      | none => .error .malformed
  | .json =>
      match Json.ofChars? text with
      | some (.object members) => .ok (sortNamed (ofJsonMembers (some origin) members))
      | _ => .error .malformed

/-- The layer of the file that a name leads to. -/
def layer (view : FileView) (name : String) : Except LoadError (List (String × Raw)) :=
  match find? view name with
  | none => .ok []
  | some (path, format) =>
      match (view.contents? path).bind Utf8.decode? with
      | none => .ok []
      | some text => parse (Path.relativeTo view.current path) format text

end ConfigFile

end AssemblyGate
