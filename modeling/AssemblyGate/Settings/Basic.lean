/-
**The settings of the service.**

Settings come in six sections.  They are read from several layers elsewhere; here are their types,
the check that ties two of them together, and the address that the service listens on.

Main definitions:

* `AssemblyGate.Settings` — all settings;
* `AssemblyGate.Settings.connectionSpan` — how long a connection may last, in milliseconds;
* `AssemblyGate.Settings.outlasts` — the check that a connection outlasts the assembler;
* `AssemblyGate.Settings.socketAddress?` — the address to listen on.
-/
import AssemblyGate.Net.AddressReader

set_option autoImplicit false

namespace AssemblyGate

/-- Where the service listens, and with how many worker threads. -/
structure ServerSettings where
  host : String
  port : UInt16
  workers : Option UInt64
deriving DecidableEq

/-- What is logged, how and where to. -/
structure LoggingSettings where
  level : String
  accessLog : Bool
  accessLogFormat : String
  accessLogFile : Option String
  errorLogFile : Option String
deriving DecidableEq

/-- Limits of connections; the times are in seconds. -/
structure PerformanceSettings where
  keepAliveTimeout : UInt64
  readTimeout : UInt64
  writeTimeout : UInt64
  maxConnections : Option UInt64
  shutdownTimeout : UInt64
deriving DecidableEq

/-- What concerns every request and response. -/
structure HttpSettings where
  serverName : String
  enableCors : Bool
  maxBodySize : UInt64
deriving DecidableEq

/-- The health probes. -/
structure HealthSettings where
  enabled : Bool
  livenessPath : String
  readinessPath : String
deriving DecidableEq

/-- The assembler and how it is run. -/
structure AssemblerSettings where
  binary : String
  flags : List String
  locale : String
  timeoutMs : UInt64
  maxSourceBytes : UInt64
  stagingDir : Option String
  placeholder : String
deriving DecidableEq

/-- All settings. -/
structure Settings where
  server : ServerSettings
  logging : LoggingSettings
  performance : PerformanceSettings
  http : HttpSettings
  health : HealthSettings
  assembler : AssemblerSettings
deriving DecidableEq

/-- The probes of a service that says nothing about them. -/
def HealthSettings.standard : HealthSettings := ⟨true, "/healthz", "/readyz"⟩

/-- The name that clients see in place of the path of a source. -/
def AssemblerSettings.standardPlaceholder : String := "input.S"

/-- The access log format of a service that says nothing about it. -/
def LoggingSettings.standardFormat : String := "combined"

namespace Settings

/-- How long a connection may last, in seconds. -/
def connectionSeconds (s : Settings) : Nat :=
  max s.performance.readTimeout.toNat s.performance.writeTimeout.toNat

/-- How long a connection may last, in milliseconds. -/
def connectionSpan (s : Settings) : Nat := s.connectionSeconds * 1000

/-- The same as far as a word can tell; the settings are checked by it. -/
def connectionMs (s : Settings) : Nat := min maxWord s.connectionSpan

/-- Whether a connection outlasts the assembler.  Otherwise a slow assembly would lose its
connection before it could be answered. -/
def outlasts (s : Settings) : Bool := s.assembler.timeoutMs.toNat < s.connectionMs

/-- The address to listen on: host and port with a colon between them, read as one. -/
def socketAddress? (s : Settings) : Option SocketAddress :=
  SocketAddress.parse? (s.server.host.toList ++ ':' :: Nat.toDigits 10 s.server.port.toNat)

/-- What is said of settings that name no address. -/
def addressError : String := "Invalid address: invalid socket address syntax"

end Settings

end AssemblyGate
