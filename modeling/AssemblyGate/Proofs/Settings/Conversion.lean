/-
**The settings are the converted options.**

Twenty-six options make up the settings.  Each stands in a section under a name, has a conversion,
and goes to one field.  An option that is given is converted; one that is not is the field's value
in the standard settings.  This holds of all of them alike, although some of the standard values
come from a layer of their own and others from the conversion of a section.

Main definitions:

* `AssemblyGate.Setting`, `AssemblyGate.Settings.all` — the options;
* `AssemblyGate.Settings.standard` — the settings of a service that is given none;
* `AssemblyGate.Settings.Reads` — settings that are made of given options.

Main results:

* `AssemblyGate.Settings.ofRaw_eq_ok_iff` — **a tree converts to the settings that are made of its
  options**;
* `AssemblyGate.Settings.exists_reads_iff` — there are such settings when every option converts.
-/
import AssemblyGate.Proofs.Settings.Variables
import AssemblyGate.Settings.Load

set_option autoImplicit false

namespace AssemblyGate

open Raw

/-! ### Results that may be errors -/

theorem except_bind_eq_ok_iff {ε α β : Type} {x : Except ε α} {f : α → Except ε β} {b : β} :
    (x >>= f) = .ok b ↔ ∃ a, x = .ok a ∧ f a = .ok b := by
  cases x <;> simp [Bind.bind, Except.bind]

theorem except_pure_eq_ok_iff {ε α : Type} {a b : α} : (pure a : Except ε α) = .ok b ↔ a = b := by
  simp [Pure.pure, Except.pure]

theorem mapError_eq_ok_iff {ε ε' α : Type} {x : Except ε α} {f : ε → ε'} {a : α} :
    x.mapError f = .ok a ↔ x = .ok a := by
  cases x <;> simp [Except.mapError]

/-! ### Single options -/

/-- A given value is converted; otherwise the standard value counts. -/
def Takes {α : Type} (convert : Raw → Except LoadError α) (standard : α) : Option Raw → α → Prop
  | some raw, a => convert raw = .ok a
  | none, a => a = standard

theorem Takes.of_or {α : Type} {convert : Raw → Except LoadError α} {standard : α}
    {layer : Option Raw} (hlayer : ∀ raw ∈ layer, convert raw = .ok standard) (given : Option Raw)
    (a : α) : Takes convert standard (given.or layer) a ↔ Takes convert standard given a := by
  cases given with
  | some raw => rfl
  | none =>
      cases layer with
      | none => rfl
      | some raw =>
          change convert raw = .ok a ↔ a = standard
          rw [hlayer raw rfl, Except.ok.injEq, eq_comm]

section Fields

variable {α : Type} {entries : List (String × Raw)} {name : String} {position : Nat}
  {convert : Raw → Except LoadError α} {a : α}

theorem field_eq_ok_iff {absent : Except LoadError α} :
    (Fields.named entries).field position name convert absent = .ok a ↔
      match find? name entries with
      | some raw => convert raw = .ok a
      | none => absent = .ok a := by
  simp only [Fields.field, Fields.get?]
  cases find? name entries with
  | none => rfl
  | some raw => exact mapError_eq_ok_iff

theorem required_eq_ok_iff {shape : Shape} (h : find? name entries ≠ none) (standard : α) :
    (Fields.named entries).required shape position name convert = .ok a ↔
      Takes convert standard (find? name entries) a := by
  rw [Fields.required, field_eq_ok_iff]
  cases hfind : find? name entries with
  | none => exact absurd hfind h
  | some raw => rfl

theorem orElse_eq_ok_iff {standard : α} :
    (Fields.named entries).orElse position name convert standard = .ok a ↔
      Takes convert standard (find? name entries) a := by
  rw [Fields.orElse, field_eq_ok_iff]
  cases find? name entries with
  | none => simp only [Takes, Except.ok.injEq, eq_comm]
  | some raw => rfl

theorem optional_eq_ok_iff {shape : Shape} {b : Option α} :
    (Fields.named entries).optional shape position name convert = .ok b ↔
      Takes (toOption convert) none (find? name entries) b := by
  rw [Fields.optional, field_eq_ok_iff]
  cases find? name entries with
  | none => simp only [Takes, Except.ok.injEq, eq_comm]
  | some raw => rfl

end Fields

/-! ### The options -/

/-- An option: its section and its name there, how it is converted, and the field it goes to. -/
structure Setting where
  sec : String
  field : String
  Value : Type
  convert : Raw → Except LoadError Value
  get : Settings → Value

namespace Settings

/-- The settings of a service that is given none. -/
def standard : Settings where
  server := ⟨"127.0.0.1", 8080, none⟩
  logging := ⟨"info", true, LoggingSettings.standardFormat, none, none⟩
  performance := ⟨75, 30, 30, none, 10⟩
  http := ⟨"asm-validator", false, 1048576⟩
  health := HealthSettings.standard
  assembler :=
    ⟨"arm-linux-gnueabihf-as", defaultFlags, "en", 10000, 262144, none,
      AssemblerSettings.standardPlaceholder⟩

/-- All options. -/
def all : List Setting :=
  [⟨"server", "host", String, toText, (·.server.host)⟩,
    ⟨"server", "port", UInt16, toPort, (·.server.port)⟩,
    ⟨"server", "workers", Option UInt64, toOption toWord, (·.server.workers)⟩,
    ⟨"logging", "level", String, toText, (·.logging.level)⟩,
    ⟨"logging", "access_log", Bool, Raw.toBool, (·.logging.accessLog)⟩,
    ⟨"logging", "access_log_format", String, toText, (·.logging.accessLogFormat)⟩,
    ⟨"logging", "access_log_file", Option String, toOption toText, (·.logging.accessLogFile)⟩,
    ⟨"logging", "error_log_file", Option String, toOption toText, (·.logging.errorLogFile)⟩,
    ⟨"performance", "keep_alive_timeout", UInt64, toWord, (·.performance.keepAliveTimeout)⟩,
    ⟨"performance", "read_timeout", UInt64, toWord, (·.performance.readTimeout)⟩,
    ⟨"performance", "write_timeout", UInt64, toWord, (·.performance.writeTimeout)⟩,
    ⟨"performance", "max_connections", Option UInt64, toOption toWord,
      (·.performance.maxConnections)⟩,
    ⟨"performance", "shutdown_timeout", UInt64, toWord, (·.performance.shutdownTimeout)⟩,
    ⟨"http", "server_name", String, toText, (·.http.serverName)⟩,
    ⟨"http", "enable_cors", Bool, Raw.toBool, (·.http.enableCors)⟩,
    ⟨"http", "max_body_size", UInt64, toWord, (·.http.maxBodySize)⟩,
    ⟨"health", "enabled", Bool, Raw.toBool, (·.health.enabled)⟩,
    ⟨"health", "liveness_path", String, toText, (·.health.livenessPath)⟩,
    ⟨"health", "readiness_path", String, toText, (·.health.readinessPath)⟩,
    ⟨"assembler", "binary", String, toText, (·.assembler.binary)⟩,
    ⟨"assembler", "flags", List String, toTexts, (·.assembler.flags)⟩,
    ⟨"assembler", "locale", String, toText, (·.assembler.locale)⟩,
    ⟨"assembler", "timeout_ms", UInt64, toWord, (·.assembler.timeoutMs)⟩,
    ⟨"assembler", "max_source_bytes", UInt64, toWord, (·.assembler.maxSourceBytes)⟩,
    ⟨"assembler", "staging_dir", Option String, toOption toText, (·.assembler.stagingDir)⟩,
    ⟨"assembler", "placeholder", String, toText, (·.assembler.placeholder)⟩]

/-- Where the options stand: section and name. -/
def places : List (String × String) := all.map fun o => (o.sec, o.field)

/-- The known sections. -/
def sections : List String := places.map Prod.fst

/-- The settings are made of the given options. -/
def Reads (given : String → String → Option Raw) (s : Settings) : Prop :=
  ∀ o ∈ all, Takes o.convert (o.get standard) (given o.sec o.field) (o.get s)

/-! ### Sections -/

section Sections

variable {origin : Option String} {entries : List (String × Raw)}

theorem server_eq_ok_iff (h : ∀ name ∈ ["host", "port"], find? name entries ≠ none)
    (x : ServerSettings) :
    ServerSettings.ofRaw (.table origin entries) = .ok x ↔
      Takes toText standard.server.host (find? "host" entries) x.host ∧
      Takes toPort standard.server.port (find? "port" entries) x.port ∧
      Takes (toOption toWord) standard.server.workers (find? "workers" entries) x.workers := by
  simp only [List.forall_mem_cons] at h
  simp only [ServerSettings.ofRaw, Fields.ofRaw, except_bind_eq_ok_iff, except_pure_eq_ok_iff,
    Except.ok.injEq, exists_eq_left', required_eq_ok_iff h.1 standard.server.host,
    required_eq_ok_iff h.2.1 standard.server.port, optional_eq_ok_iff]
  constructor
  · rintro ⟨host, hhost, port, hport, workers, hworkers, rfl⟩
    exact ⟨hhost, hport, hworkers⟩
  · rintro ⟨hhost, hport, hworkers⟩
    exact ⟨_, hhost, _, hport, _, hworkers, rfl⟩

theorem logging_eq_ok_iff (h : ∀ name ∈ ["level", "access_log"], find? name entries ≠ none)
    (x : LoggingSettings) :
    LoggingSettings.ofRaw (.table origin entries) = .ok x ↔
      Takes toText standard.logging.level (find? "level" entries) x.level ∧
      Takes Raw.toBool standard.logging.accessLog (find? "access_log" entries) x.accessLog ∧
      Takes toText standard.logging.accessLogFormat (find? "access_log_format" entries)
        x.accessLogFormat ∧
      Takes (toOption toText) standard.logging.accessLogFile (find? "access_log_file" entries)
        x.accessLogFile ∧
      Takes (toOption toText) standard.logging.errorLogFile (find? "error_log_file" entries)
        x.errorLogFile := by
  simp only [List.forall_mem_cons] at h
  simp only [LoggingSettings.ofRaw, Fields.ofRaw, except_bind_eq_ok_iff, except_pure_eq_ok_iff,
    Except.ok.injEq, exists_eq_left', required_eq_ok_iff h.1 standard.logging.level,
    required_eq_ok_iff h.2.1 standard.logging.accessLog, orElse_eq_ok_iff]
  constructor
  · rintro ⟨level, hlevel, log, hlog, format, hformat, access, haccess, errors, herrors, rfl⟩
    exact ⟨hlevel, hlog, hformat, haccess, herrors⟩
  · rintro ⟨hlevel, hlog, hformat, haccess, herrors⟩
    exact ⟨_, hlevel, _, hlog, _, hformat, _, haccess, _, herrors, rfl⟩

theorem performance_eq_ok_iff
    (h : ∀ name ∈ ["keep_alive_timeout", "read_timeout", "write_timeout", "shutdown_timeout"],
      find? name entries ≠ none) (x : PerformanceSettings) :
    PerformanceSettings.ofRaw (.table origin entries) = .ok x ↔
      Takes toWord standard.performance.keepAliveTimeout (find? "keep_alive_timeout" entries)
        x.keepAliveTimeout ∧
      Takes toWord standard.performance.readTimeout (find? "read_timeout" entries) x.readTimeout ∧
      Takes toWord standard.performance.writeTimeout (find? "write_timeout" entries)
        x.writeTimeout ∧
      Takes (toOption toWord) standard.performance.maxConnections (find? "max_connections" entries)
        x.maxConnections ∧
      Takes toWord standard.performance.shutdownTimeout (find? "shutdown_timeout" entries)
        x.shutdownTimeout := by
  simp only [List.forall_mem_cons] at h
  simp only [PerformanceSettings.ofRaw, Fields.ofRaw, except_bind_eq_ok_iff, except_pure_eq_ok_iff,
    Except.ok.injEq, exists_eq_left', optional_eq_ok_iff,
    required_eq_ok_iff h.1 standard.performance.keepAliveTimeout,
    required_eq_ok_iff h.2.1 standard.performance.readTimeout,
    required_eq_ok_iff h.2.2.1 standard.performance.writeTimeout,
    required_eq_ok_iff h.2.2.2.1 standard.performance.shutdownTimeout]
  constructor
  · rintro ⟨idle, hidle, read, hread, write, hwrite, most, hmost, grace, hgrace, rfl⟩
    exact ⟨hidle, hread, hwrite, hmost, hgrace⟩
  · rintro ⟨hidle, hread, hwrite, hmost, hgrace⟩
    exact ⟨_, hidle, _, hread, _, hwrite, _, hmost, _, hgrace, rfl⟩

theorem http_eq_ok_iff
    (h : ∀ name ∈ ["server_name", "enable_cors", "max_body_size"], find? name entries ≠ none)
    (x : HttpSettings) :
    HttpSettings.ofRaw (.table origin entries) = .ok x ↔
      Takes toText standard.http.serverName (find? "server_name" entries) x.serverName ∧
      Takes Raw.toBool standard.http.enableCors (find? "enable_cors" entries) x.enableCors ∧
      Takes toWord standard.http.maxBodySize (find? "max_body_size" entries) x.maxBodySize := by
  simp only [List.forall_mem_cons] at h
  simp only [HttpSettings.ofRaw, Fields.ofRaw, except_bind_eq_ok_iff, except_pure_eq_ok_iff,
    Except.ok.injEq, exists_eq_left', required_eq_ok_iff h.1 standard.http.serverName,
    required_eq_ok_iff h.2.1 standard.http.enableCors,
    required_eq_ok_iff h.2.2.1 standard.http.maxBodySize]
  constructor
  · rintro ⟨name, hname, cors, hcors, size, hsize, rfl⟩
    exact ⟨hname, hcors, hsize⟩
  · rintro ⟨hname, hcors, hsize⟩
    exact ⟨_, hname, _, hcors, _, hsize, rfl⟩

theorem health_eq_ok_iff (x : HealthSettings) :
    HealthSettings.ofRaw (.table origin entries) = .ok x ↔
      Takes Raw.toBool standard.health.enabled (find? "enabled" entries) x.enabled ∧
      Takes toText standard.health.livenessPath (find? "liveness_path" entries) x.livenessPath ∧
      Takes toText standard.health.readinessPath (find? "readiness_path" entries)
        x.readinessPath := by
  simp only [HealthSettings.ofRaw, Fields.ofRaw, except_bind_eq_ok_iff, except_pure_eq_ok_iff,
    Except.ok.injEq, exists_eq_left', orElse_eq_ok_iff]
  constructor
  · rintro ⟨enabled, henabled, live, hlive, ready, hready, rfl⟩
    exact ⟨henabled, hlive, hready⟩
  · rintro ⟨henabled, hlive, hready⟩
    exact ⟨_, henabled, _, hlive, _, hready, rfl⟩

theorem assembler_eq_ok_iff
    (h : ∀ name ∈ ["binary", "flags", "locale", "timeout_ms", "max_source_bytes"],
      find? name entries ≠ none) (x : AssemblerSettings) :
    AssemblerSettings.ofRaw (.table origin entries) = .ok x ↔
      Takes toText standard.assembler.binary (find? "binary" entries) x.binary ∧
      Takes toTexts standard.assembler.flags (find? "flags" entries) x.flags ∧
      Takes toText standard.assembler.locale (find? "locale" entries) x.locale ∧
      Takes toWord standard.assembler.timeoutMs (find? "timeout_ms" entries) x.timeoutMs ∧
      Takes toWord standard.assembler.maxSourceBytes (find? "max_source_bytes" entries)
        x.maxSourceBytes ∧
      Takes (toOption toText) standard.assembler.stagingDir (find? "staging_dir" entries)
        x.stagingDir ∧
      Takes toText standard.assembler.placeholder (find? "placeholder" entries)
        x.placeholder := by
  simp only [List.forall_mem_cons] at h
  simp only [AssemblerSettings.ofRaw, Fields.ofRaw, except_bind_eq_ok_iff, except_pure_eq_ok_iff,
    Except.ok.injEq, exists_eq_left', orElse_eq_ok_iff,
    required_eq_ok_iff h.1 standard.assembler.binary,
    required_eq_ok_iff h.2.1 standard.assembler.flags,
    required_eq_ok_iff h.2.2.1 standard.assembler.locale,
    required_eq_ok_iff h.2.2.2.1 standard.assembler.timeoutMs,
    required_eq_ok_iff h.2.2.2.2.1 standard.assembler.maxSourceBytes]
  constructor
  · rintro ⟨binary, hbinary, flags, hflags, locale, hlocale, time, htime, size, hsize, dir, hdir,
      shown, hshown, rfl⟩
    exact ⟨hbinary, hflags, hlocale, htime, hsize, hdir, hshown⟩
  · rintro ⟨hbinary, hflags, hlocale, htime, hsize, hdir, hshown⟩
    exact ⟨_, hbinary, _, hflags, _, hlocale, _, htime, _, hsize, _, hdir, _, hshown, rfl⟩

theorem table_eq_ok_iff
    (h : ∀ name ∈ ["server", "logging", "performance", "http", "assembler"],
      find? name entries ≠ none) (s : Settings) :
    ofRaw (.table origin entries) = .ok s ↔
      Takes ServerSettings.ofRaw standard.server (find? "server" entries) s.server ∧
      Takes LoggingSettings.ofRaw standard.logging (find? "logging" entries) s.logging ∧
      Takes PerformanceSettings.ofRaw standard.performance (find? "performance" entries)
        s.performance ∧
      Takes HttpSettings.ofRaw standard.http (find? "http" entries) s.http ∧
      Takes HealthSettings.ofRaw standard.health (find? "health" entries) s.health ∧
      Takes AssemblerSettings.ofRaw standard.assembler (find? "assembler" entries) s.assembler := by
  simp only [List.forall_mem_cons] at h
  simp only [ofRaw, Fields.ofRaw, except_bind_eq_ok_iff, except_pure_eq_ok_iff, Except.ok.injEq,
    exists_eq_left', orElse_eq_ok_iff, required_eq_ok_iff h.1 standard.server,
    required_eq_ok_iff h.2.1 standard.logging, required_eq_ok_iff h.2.2.1 standard.performance,
    required_eq_ok_iff h.2.2.2.1 standard.http, required_eq_ok_iff h.2.2.2.2.1 standard.assembler]
  constructor
  · rintro ⟨server, hserver, logging, hlogging, performance, hperformance, http, hhttp, health,
      hhealth, assembler, hassembler, rfl⟩
    exact ⟨hserver, hlogging, hperformance, hhttp, hhealth, hassembler⟩
  · rintro ⟨hserver, hlogging, hperformance, hhttp, hhealth, hassembler⟩
    exact ⟨_, hserver, _, hlogging, _, hperformance, _, hhttp, _, hhealth, _, hassembler, rfl⟩

end Sections

/-! ### All settings -/

/-- The value of an option in the layer of the defaults. -/
def default? (sec field : String) : Option Raw := find? (sec ++ "." ++ field) defaultLayer

/-- Every default converts to the standard value. -/
theorem convert_default? : ∀ o ∈ all, ∀ raw ∈ default? o.sec o.field,
    o.convert raw = .ok (o.get standard) := by
  simp [all, default?, find?, defaultLayer, defaults, standard, toText, toPort, toWord, Raw.toBool,
    toTexts, textsFrom, defaultFlags, twoTo]

/-- A tree with the known sections and the given options over the defaults. -/
structure Holds (root : Raw) (given : String → String → Option Raw) : Prop where
  isOrderly : IsOrderly sections root
  option?_eq : ∀ place ∈ places,
    root.option? place.1 place.2 = (given place.1 place.2).or (default? place.1 place.2)

variable {root : Raw} {given : String → String → Option Raw}

theorem Holds.takes_iff (h : Holds root given) {s : Settings} :
    (∀ o ∈ all, Takes o.convert (o.get standard) (root.option? o.sec o.field) (o.get s)) ↔
      Reads given s := by
  refine forall_congr' fun o => forall_congr' fun ho => ?_
  have hplace : (o.sec, o.field) ∈ places := List.mem_map.2 ⟨o, ho, rfl⟩
  rw [h.option?_eq _ hplace, Takes.of_or (convert_default? o ho)]

theorem Holds.option?_ne_none (h : Holds root given) {sec field : String}
    (hplace : (sec, field) ∈ places) (hdefault : default? sec field ≠ none) :
    root.option? sec field ≠ none := by
  rw [h.option?_eq _ hplace, Ne, Option.or_eq_none_iff]
  exact fun hnone => hdefault hnone.2

/-- A section with a default is there. -/
theorem Holds.exists_section (h : Holds root given) {sec field : String}
    (hplace : (sec, field) ∈ places) (hdefault : default? sec field ≠ none) :
    ∃ origin entries, root.child? sec = some (.table origin entries) := by
  cases hchild : root.child? sec with
  | none =>
      have hoption : root.option? sec field = none := by rw [option?, hchild, Option.bind_none]
      exact absurd hoption (h.option?_ne_none hplace hdefault)
  | some value =>
      have hsec : sec ∈ sections := List.mem_map.2 ⟨_, hplace, rfl⟩
      obtain ⟨origin, entries, rfl, -⟩ := h.isOrderly.sections sec hsec value hchild
      exact ⟨origin, entries, rfl⟩

/-- The entries of a section are its options. -/
theorem find?_of_child? {sec : String} {origin : Option String} {entries : List (String × Raw)}
    (h : root.child? sec = some (.table origin entries)) (field : String) :
    find? field entries = root.option? sec field := by
  rw [option?, h]
  rfl

theorem Holds.find?_ne_none (h : Holds root given) {sec : String} {origin : Option String}
    {entries : List (String × Raw)} (hchild : root.child? sec = some (.table origin entries))
    {fields : List String}
    (hfields : ∀ field ∈ fields, (sec, field) ∈ places ∧ default? sec field ≠ none) :
    ∀ field ∈ fields, find? field entries ≠ none := by
  intro field hfield
  rw [find?_of_child? hchild]
  exact h.option?_ne_none (hfields field hfield).1 (hfields field hfield).2

/-- The section of the health probes need not be there. -/
theorem Holds.health_iff (h : Holds root given) (x : HealthSettings) :
    Takes HealthSettings.ofRaw standard.health (root.child? "health") x ↔
      Takes Raw.toBool standard.health.enabled (root.option? "health" "enabled") x.enabled ∧
      Takes toText standard.health.livenessPath (root.option? "health" "liveness_path")
        x.livenessPath ∧
      Takes toText standard.health.readinessPath (root.option? "health" "readiness_path")
        x.readinessPath := by
  cases hchild : root.child? "health" with
  | none =>
      have hnone : ∀ field, root.option? "health" field = none := by simp [option?, hchild]
      simp only [hnone, Takes]
      constructor
      · rintro rfl
        exact ⟨rfl, rfl, rfl⟩
      · obtain ⟨enabled, live, ready⟩ := x
        rintro ⟨rfl, rfl, rfl⟩
        rfl
  | some value =>
      obtain ⟨origin, entries, rfl, -⟩ :=
        h.isOrderly.sections "health" (by decide) value hchild
      simp only [← find?_of_child? hchild]
      exact health_eq_ok_iff x

/-- **A tree converts to the settings that are made of the options given in it.** -/
theorem ofRaw_eq_ok_iff (h : Holds root given) (s : Settings) :
    ofRaw root = .ok s ↔ Reads given s := by
  rw [← h.takes_iff]
  obtain ⟨_, _, hserver⟩ :=
    h.exists_section (show ("server", "host") ∈ places by decide) (by decide)
  obtain ⟨_, _, hlogging⟩ :=
    h.exists_section (show ("logging", "level") ∈ places by decide) (by decide)
  obtain ⟨_, _, hperformance⟩ :=
    h.exists_section (show ("performance", "read_timeout") ∈ places by decide) (by decide)
  obtain ⟨_, _, hhttp⟩ :=
    h.exists_section (show ("http", "server_name") ∈ places by decide) (by decide)
  obtain ⟨_, _, hassembler⟩ :=
    h.exists_section (show ("assembler", "binary") ∈ places by decide) (by decide)
  have hhealth := h.health_iff s.health
  obtain ⟨origin, entries, rfl, -⟩ := h.isOrderly.isTidyTable
  have hchild : ∀ sec, find? sec entries = (Raw.table origin entries).child? sec := fun _ => rfl
  rw [table_eq_ok_iff (by simp [hchild, hserver, hlogging, hperformance, hhttp, hassembler])]
  simp only [hchild, hserver, hlogging, hperformance, hhttp, hassembler, hhealth]
  simp only [Takes, server_eq_ok_iff (h.find?_ne_none hserver (by decide)),
    logging_eq_ok_iff (h.find?_ne_none hlogging (by decide)),
    performance_eq_ok_iff (h.find?_ne_none hperformance (by decide)),
    http_eq_ok_iff (h.find?_ne_none hhttp (by decide)),
    assembler_eq_ok_iff (h.find?_ne_none hassembler (by decide)),
    find?_of_child? hserver, find?_of_child? hlogging, find?_of_child? hperformance,
    find?_of_child? hhttp, find?_of_child? hassembler]
  simp only [all, List.forall_mem_cons, List.not_mem_nil, false_implies, implies_true, and_true,
    and_assoc]

/-- There are settings made of given options when every option converts. -/
theorem exists_reads_iff :
    (∃ s, Reads given s) ↔
      ∀ o ∈ all, ∃ a, Takes o.convert (o.get standard) (given o.sec o.field) a := by
  constructor
  · rintro ⟨s, hreads⟩ o ho
    exact ⟨o.get s, hreads o ho⟩
  · intro h
    simp only [all, List.forall_mem_cons, List.not_mem_nil, false_implies, implies_true,
      and_true] at h
    obtain ⟨⟨host, hhost⟩, ⟨port, hport⟩, ⟨workers, hworkers⟩, ⟨level, hlevel⟩, ⟨log, hlog⟩,
      ⟨format, hformat⟩, ⟨access, haccess⟩, ⟨errors, herrors⟩, ⟨idle, hidle⟩, ⟨read, hread⟩,
      ⟨write, hwrite⟩, ⟨most, hmost⟩, ⟨grace, hgrace⟩, ⟨name, hname⟩, ⟨cors, hcors⟩, ⟨body, hbody⟩,
      ⟨enabled, henabled⟩, ⟨live, hlive⟩, ⟨ready, hready⟩, ⟨binary, hbinary⟩, ⟨flags, hflags⟩,
      ⟨locale, hlocale⟩, ⟨time, htime⟩, ⟨size, hsize⟩, ⟨dir, hdir⟩, ⟨shown, hshown⟩⟩ := h
    refine ⟨⟨⟨host, port, workers⟩, ⟨level, log, format, access, errors⟩,
      ⟨idle, read, write, most, grace⟩, ⟨name, cors, body⟩, ⟨enabled, live, ready⟩,
      ⟨binary, flags, locale, time, size, dir, shown⟩⟩, ?_⟩
    simp only [Reads, all, List.forall_mem_cons, List.not_mem_nil, false_implies, implies_true,
      and_true]
    exact ⟨hhost, hport, hworkers, hlevel, hlog, hformat, haccess, herrors, hidle, hread, hwrite,
      hmost, hgrace, hname, hcors, hbody, henabled, hlive, hready, hbinary, hflags, hlocale, htime,
      hsize, hdir, hshown⟩

end Settings

end AssemblyGate
