/-
**From raw settings to typed ones.**

Scalars convert into one another where that makes sense: texts are read, truth values count as one
and zero, and numbers are rounded.  A section is a table, or a list that gives its fields in order.

Main definitions:

* `AssemblyGate.Raw.toBool`, `AssemblyGate.Raw.toWord`, `AssemblyGate.Raw.toPort`,
  `AssemblyGate.Raw.toText`, `AssemblyGate.Raw.toTexts` — the conversions of single values;
* `AssemblyGate.Settings.ofRaw` — the conversion of all settings.
-/
import AssemblyGate.Settings.Basic
import AssemblyGate.Settings.Mismatch

set_option autoImplicit false

namespace AssemblyGate

namespace Raw

/-! ### Single values -/

/-- The origin of a value. -/
def origin : Raw → Option String
  | .scalar origin _ | .list origin _ | .table origin _ => origin

/-- What a value is said to be when it cannot be converted. -/
def refuse {α : Type} (expected : Expected) (value : Raw) : Except LoadError α :=
  .error (.mismatch (Found.ofRaw value) expected [] value.origin)

/-- The texts that mean yes, in lower case. -/
def yesTexts : List String := ["true", "on", "yes"]

/-- The texts that mean no, in lower case. -/
def noTexts : List String := ["false", "off", "no"]

/-- A truth value: itself, whether a number differs from zero, or a text that means yes or no. -/
def toBool (value : Raw) : Except LoadError Bool :=
  match value with
  | .scalar _ (.bool b) => .ok b
  | .scalar _ (.int n) => .ok (n != 0)
  | .scalar _ (.float x) => .ok !x.isZero
  | .scalar origin (.text s) =>
      let small := keyOf s
      if small = "1" ∨ small ∈ yesTexts then .ok true
      else if small = "0" ∨ small ∈ noTexts then .ok false
      else .error (.mismatch (.text small) .bool [] origin)
  | other => refuse .bool other

/-- An unsigned 64-bit number: itself, one or zero for a truth value, the nearest one of a floating
point number, or the one that a text denotes. -/
def toWord (value : Raw) : Except LoadError UInt64 :=
  match value with
  | .scalar _ (.bool b) => .ok (if b then 1 else 0)
  | .scalar origin (.int n) =>
      if 0 ≤ n then .ok (UInt64.ofNat n.toNat) else .error (.mismatch (.signed n) .word [] origin)
  | .scalar _ (.float x) => .ok (UInt64.ofNat x.toWord)
  | .scalar origin (.text s) =>
      let small := keyOf s
      if small ∈ yesTexts then .ok 1
      else if small ∈ noTexts then .ok 0
      else
        match Numeral.word? s.toList with
        | some n => .ok (UInt64.ofNat n)
        | none => .error (.mismatch (.text s) .integer [] origin)
  | other => refuse .integer other

/-- A port: an unsigned number of at most sixteen bits. -/
def toPort (value : Raw) : Except LoadError UInt16 :=
  match value.toWord with
  | .error e => .error e
  | .ok n =>
      if n.toNat < twoTo 16 then .ok (UInt16.ofNat n.toNat)
      else .error (.mismatch (.unsigned n.toNat) .port [] none)

/-- A text: itself, or the written form of a truth value or a number. -/
def toText (value : Raw) : Except LoadError String :=
  match value with
  | .scalar _ (.text s) => .ok s
  | .scalar _ (.bool b) => .ok (toString b)
  | .scalar _ (.int n) => .ok (toString n)
  | .scalar _ (.float x) => .ok (String.ofList x.positional)
  | other => refuse .text other

/-- The texts of a list's items, the first of which has the given position. -/
def textsFrom (position : Nat) : List Raw → Except LoadError (List String)
  | [] => .ok []
  | item :: rest =>
      match item.toText with
      | .error e => .error (e.under (.index position))
      | .ok s =>
          match textsFrom (position + 1) rest with
          | .error e => .error e
          | .ok more => .ok (s :: more)

/-- A list of texts. -/
def toTexts (value : Raw) : Except LoadError (List String) :=
  match value with
  | .list _ items => textsFrom 0 items
  | other => .error (.noList (Found.ofRaw other))

/-- A value that may be unset. -/
def toOption {α : Type} (convert : Raw → Except LoadError α) (value : Raw) :
    Except LoadError (Option α) :=
  match value with
  | .scalar _ .unset => .ok none
  | other => (convert other).map some

end Raw

/-! ### Sections -/

/-- The fields of a section, by name or in order. -/
inductive Fields
  | named (entries : List (String × Raw))
  | ordered (items : List Raw)

namespace Fields

/-- The fields of a section of the given shape. -/
def ofRaw (shape : Shape) (value : Raw) : Except LoadError Fields :=
  match value with
  | .table _ entries => .ok (.named entries)
  | .list _ items => .ok (.ordered items)
  | other => .error (.noSection (Found.ofRaw other) shape)

/-- The value of a field, and the step that leads to it. -/
def get? (fields : Fields) (position : Nat) (name : String) : Option (KeyStep × Raw) :=
  match fields with
  | .named entries => (Raw.find? name entries).map fun value => (.key name, value)
  | .ordered items => items[position]?.map fun value => (.index position, value)

/-- A field, converted, or what stands in for one that is not there. -/
def field {α : Type} (fields : Fields) (position : Nat) (name : String)
    (convert : Raw → Except LoadError α) (absent : Except LoadError α) : Except LoadError α :=
  match fields.get? position name with
  | none => absent
  | some (step, value) => (convert value).mapError (LoadError.under step)

/-- The error of a field that has to be there. -/
def absent {α : Type} (fields : Fields) (shape : Shape) (position : Nat) (name : String) :
    Except LoadError α :=
  match fields with
  | .named _ => .error (.missing name)
  | .ordered _ => .error (.tooFew position shape)

/-- A field that has to be there. -/
def required {α : Type} (fields : Fields) (shape : Shape) (position : Nat) (name : String)
    (convert : Raw → Except LoadError α) : Except LoadError α :=
  fields.field position name convert (fields.absent shape position name)

/-- A field that may be left out of a table, but not out of a list. -/
def optional {α : Type} (fields : Fields) (shape : Shape) (position : Nat) (name : String)
    (convert : Raw → Except LoadError α) : Except LoadError (Option α) :=
  fields.field position name (Raw.toOption convert)
    (match fields with
      | .named _ => .ok none
      | .ordered _ => fields.absent shape position name)

/-- A field that has a value of its own where it is left out. -/
def orElse {α : Type} (fields : Fields) (position : Nat) (name : String)
    (convert : Raw → Except LoadError α) (default : α) : Except LoadError α :=
  fields.field position name convert (.ok default)

end Fields

/-- The section of the server. -/
def ServerSettings.ofRaw (value : Raw) : Except LoadError ServerSettings := do
  let shape : Shape := ⟨"ServerConfig", 3⟩
  let fields ← Fields.ofRaw shape value
  let host ← fields.required shape 0 "host" Raw.toText
  let port ← fields.required shape 1 "port" Raw.toPort
  let workers ← fields.optional shape 2 "workers" Raw.toWord
  return ⟨host, port, workers⟩

/-- The section of the logs. -/
def LoggingSettings.ofRaw (value : Raw) : Except LoadError LoggingSettings := do
  let shape : Shape := ⟨"LoggingConfig", 5⟩
  let fields ← Fields.ofRaw shape value
  let level ← fields.required shape 0 "level" Raw.toText
  let accessLog ← fields.required shape 1 "access_log" Raw.toBool
  let format ← fields.orElse 2 "access_log_format" Raw.toText LoggingSettings.standardFormat
  let accessFile ← fields.orElse 3 "access_log_file" (Raw.toOption Raw.toText) none
  let errorFile ← fields.orElse 4 "error_log_file" (Raw.toOption Raw.toText) none
  return ⟨level, accessLog, format, accessFile, errorFile⟩

/-- The section of the limits. -/
def PerformanceSettings.ofRaw (value : Raw) : Except LoadError PerformanceSettings := do
  let shape : Shape := ⟨"PerformanceConfig", 5⟩
  let fields ← Fields.ofRaw shape value
  let keepAlive ← fields.required shape 0 "keep_alive_timeout" Raw.toWord
  let read ← fields.required shape 1 "read_timeout" Raw.toWord
  let write ← fields.required shape 2 "write_timeout" Raw.toWord
  let connections ← fields.optional shape 3 "max_connections" Raw.toWord
  let shutdown ← fields.required shape 4 "shutdown_timeout" Raw.toWord
  return ⟨keepAlive, read, write, connections, shutdown⟩

/-- The section of requests and responses. -/
def HttpSettings.ofRaw (value : Raw) : Except LoadError HttpSettings := do
  let shape : Shape := ⟨"HttpConfig", 3⟩
  let fields ← Fields.ofRaw shape value
  let name ← fields.required shape 0 "server_name" Raw.toText
  let cors ← fields.required shape 1 "enable_cors" Raw.toBool
  let size ← fields.required shape 2 "max_body_size" Raw.toWord
  return ⟨name, cors, size⟩

/-- The section of the health probes. -/
def HealthSettings.ofRaw (value : Raw) : Except LoadError HealthSettings := do
  let standard := HealthSettings.standard
  let fields ← Fields.ofRaw ⟨"HealthConfig", 3⟩ value
  let enabled ← fields.orElse 0 "enabled" Raw.toBool standard.enabled
  let liveness ← fields.orElse 1 "liveness_path" Raw.toText standard.livenessPath
  let readiness ← fields.orElse 2 "readiness_path" Raw.toText standard.readinessPath
  return ⟨enabled, liveness, readiness⟩

/-- The section of the assembler. -/
def AssemblerSettings.ofRaw (value : Raw) : Except LoadError AssemblerSettings := do
  let shape : Shape := ⟨"AssemblerConfig", 7⟩
  let fields ← Fields.ofRaw shape value
  let binary ← fields.required shape 0 "binary" Raw.toText
  let flags ← fields.required shape 1 "flags" Raw.toTexts
  let locale ← fields.required shape 2 "locale" Raw.toText
  let timeout ← fields.required shape 3 "timeout_ms" Raw.toWord
  let limit ← fields.required shape 4 "max_source_bytes" Raw.toWord
  let staging ← fields.orElse 5 "staging_dir" (Raw.toOption Raw.toText) none
  let placeholder ←
    fields.orElse 6 "placeholder" Raw.toText AssemblerSettings.standardPlaceholder
  return ⟨binary, flags, locale, timeout, limit, staging, placeholder⟩

/-- All settings. -/
def Settings.ofRaw (value : Raw) : Except LoadError Settings := do
  let shape : Shape := ⟨"Config", 6⟩
  let fields ← Fields.ofRaw shape value
  let server ← fields.required shape 0 "server" ServerSettings.ofRaw
  let logging ← fields.required shape 1 "logging" LoggingSettings.ofRaw
  let performance ← fields.required shape 2 "performance" PerformanceSettings.ofRaw
  let http ← fields.required shape 3 "http" HttpSettings.ofRaw
  let health ← fields.orElse 4 "health" HealthSettings.ofRaw HealthSettings.standard
  let assembler ← fields.required shape 5 "assembler" AssemblerSettings.ofRaw
  return ⟨server, logging, performance, http, health, assembler⟩

end AssemblyGate
