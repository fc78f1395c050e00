/-
**Faults of the machine.**

What can go wrong when the service asks the machine for something: the operating system refuses with
an error number, a name holds a NUL character, or some other part reports a text.  A fault may be
told together with the path it happened at.

Main definitions:

* `AssemblyGate.Errno` — the error numbers, with their messages and the names of their kinds;
* `AssemblyGate.Fault` — the faults;
* `AssemblyGate.Fault.message`, `AssemblyGate.Fault.detail` — the text for a log and the form in
  which a program that ends shows its last error.
-/
import AssemblyGate.Text.Quoted

set_option autoImplicit false

namespace AssemblyGate

/-- A number by which the operating system names an error. -/
abbrev Errno := Nat

namespace Errno

/-- The messages of the error numbers from one on. -/
def messages : List String :=
  ["Operation not permitted", "No such file or directory", "No such process",
    "Interrupted system call", "Input/output error", "No such device or address",
    "Argument list too long", "Exec format error", "Bad file descriptor", "No child processes",
    "Resource temporarily unavailable", "Cannot allocate memory", "Permission denied",
    "Bad address", "Block device required", "Device or resource busy", "File exists",
    "Invalid cross-device link", "No such device", "Not a directory", "Is a directory",
    "Invalid argument", "Too many open files in system", "Too many open files",
    "Inappropriate ioctl for device", "Text file busy", "File too large", "No space left on device",
    "Illegal seek", "Read-only file system", "Too many links", "Broken pipe",
    "Numerical argument out of domain", "Numerical result out of range",
    "Resource deadlock avoided", "File name too long", "No locks available",
    "Function not implemented", "Directory not empty", "Too many levels of symbolic links",
    "Unknown error 41", "No message of desired type", "Identifier removed",
    "Channel number out of range", "Level 2 not synchronized", "Level 3 halted", "Level 3 reset",
    "Link number out of range", "Protocol driver not attached", "No CSI structure available",
    "Level 2 halted", "Invalid exchange", "Invalid request descriptor", "Exchange full", "No anode",
    "Invalid request code", "Invalid slot", "Unknown error 58", "Bad font file format",
    "Device not a stream", "No data available", "Timer expired", "Out of streams resources",
    "Machine is not on the network", "Package not installed", "Object is remote",
    "Link has been severed", "Advertise error", "Srmount error", "Communication error on send",
    "Protocol error", "Multihop attempted", "RFS specific error", "Bad message",
    "Value too large for defined data type", "Name not unique on network",
    "File descriptor in bad state", "Remote address changed",
    "Can not access a needed shared library", "Accessing a corrupted shared library",
    ".lib section in a.out corrupted", "Attempting to link in too many shared libraries",
    "Cannot exec a shared library directly", "Invalid or incomplete multibyte or wide character",
    "Interrupted system call should be restarted", "Streams pipe error", "Too many users",
    "Socket operation on non-socket", "Destination address required", "Message too long",
    "Protocol wrong type for socket", "Protocol not available", "Protocol not supported",
    "Socket type not supported", "Operation not supported", "Protocol family not supported",
    "Address family not supported by protocol", "Address already in use",
    "Cannot assign requested address", "Network is down", "Network is unreachable",
    "Network dropped connection on reset", "Software caused connection abort",
    "Connection reset by peer", "No buffer space available",
    "Transport endpoint is already connected", "Transport endpoint is not connected",
    "Cannot send after transport endpoint shutdown", "Too many references: cannot splice",
    "Connection timed out", "Connection refused", "Host is down", "No route to host",
    "Operation already in progress", "Operation now in progress", "Stale file handle",
    "Structure needs cleaning", "Not a XENIX named type file", "No XENIX semaphores available",
    "Is a named type file", "Remote I/O error", "Disk quota exceeded", "No medium found",
    "Wrong medium type", "Operation canceled", "Required key not available", "Key has expired",
    "Key has been revoked", "Key was rejected by service", "Owner died", "State not recoverable",
    "Operation not possible due to RF-kill", "Memory page has hardware error"]

/-- The kinds of error numbers. -/
def kinds : List (Errno × String) :=
  [(1, "PermissionDenied"), (2, "NotFound"), (4, "Interrupted"), (7, "ArgumentListTooLong"),
    (11, "WouldBlock"), (12, "OutOfMemory"), (13, "PermissionDenied"), (16, "ResourceBusy"),
    (17, "AlreadyExists"), (18, "CrossesDevices"), (20, "NotADirectory"), (21, "IsADirectory"),
    (22, "InvalidInput"), (26, "ExecutableFileBusy"), (27, "FileTooLarge"), (28, "StorageFull"),
    (29, "NotSeekable"), (30, "ReadOnlyFilesystem"), (31, "TooManyLinks"), (32, "BrokenPipe"),
    (35, "Deadlock"), (36, "InvalidFilename"), (38, "Unsupported"), (39, "DirectoryNotEmpty"),
    (40, "FilesystemLoop"), (95, "Unsupported"), (98, "AddrInUse"), (99, "AddrNotAvailable"),
    (100, "NetworkDown"), (101, "NetworkUnreachable"), (103, "ConnectionAborted"),
    (104, "ConnectionReset"), (107, "NotConnected"), (110, "TimedOut"), (111, "ConnectionRefused"),
    (113, "HostUnreachable"), (115, "InProgress"), (116, "StaleNetworkFileHandle"),
    (122, "QuotaExceeded")]

/-- The message of an error number. -/
def message (e : Errno) : String :=
  let unknown := "Unknown error " ++ toString e
  match e with
  | 0 => "Success"
  | n + 1 => messages[n]?.getD unknown

/-- The kind of an error number. -/
def kind (e : Errno) : String :=
  match kinds.find? (fun entry => entry.1 == e) with
  | some entry => entry.2
  | none => "Uncategorized"

/-- The operation is not permitted. -/
def notPermitted : Errno := 1

/-- No such file or directory. -/
def noEntry : Errno := 2

/-- The file is no program. -/
def execFormat : Errno := 8

/-- The descriptor leads nowhere. -/
def badDescriptor : Errno := 9

/-- Permission denied. -/
def access : Errno := 13

/-- Something is in use in another way. -/
def busy : Errno := 16

/-- The name is in use. -/
def inUse : Errno := 17

/-- A part of a path is no directory. -/
def notDirectory : Errno := 20

/-- The path leads to a directory. -/
def isDirectory : Errno := 21

/-- What is asked for makes no sense. -/
def invalid : Errno := 22

/-- The file is a program that is being run. -/
def textBusy : Errno := 26

/-- There is no room left. -/
def noSpace : Errno := 28

/-- A name is too long. -/
def nameTooLong : Errno := 36

/-- The directory has entries. -/
def notEmpty : Errno := 39

/-- A path leads in circles. -/
def tooManyLinks : Errno := 40

end Errno

/-- Why the machine did not do what it was asked for. -/
inductive Fault
  | os (code : Errno)
  | nulInName
  | nulInArgument
  | other (message : String)
  | located (cause : Fault) (path : String)
deriving DecidableEq

namespace Fault

/-- The text for a log. -/
def message : Fault → String
  | .os code => Errno.message code ++ " (os error " ++ toString code ++ ")"
  | .nulInName => "file name contained an unexpected NUL byte"
  | .nulInArgument => "nul byte found in provided data"
  | .other text => text
  | .located cause path =>
      cause.message ++ " at path " ++ String.ofList (Quoted.quote path.toList)

/-- The kind of a fault. -/
def kind : Fault → String
  | .os code => Errno.kind code
  | .nulInName | .nulInArgument => "InvalidInput"
  | .other _ => "Other"
  | .located cause _ => cause.kind

/-- The form in which a program shows the fault that ended it. -/
def detail : Fault → String
  | .os code =>
      "Os \x7b code: " ++ toString code ++ ", kind: " ++ Errno.kind code ++ ", message: "
        ++ String.ofList (Quoted.quote (Errno.message code).toList) ++ " \x7d"
  | .nulInName =>
      "Error \x7b kind: InvalidInput, message: "
        ++ String.ofList (Quoted.quote (Fault.message .nulInName).toList) ++ " \x7d"
  | .nulInArgument =>
      "Error \x7b kind: InvalidInput, message: "
        ++ String.ofList (Quoted.quote (Fault.message .nulInArgument).toList) ++ " \x7d"
  | .other text =>
      "Custom \x7b kind: Other, error: "
        ++ String.ofList (Quoted.quote text.toList) ++ " \x7d"
  | .located cause path =>
      "Custom \x7b kind: " ++ cause.kind ++ ", error: PathError \x7b path: "
        ++ String.ofList (Quoted.quote path.toList) ++ ", err: " ++ cause.detail
        ++ " \x7d \x7d"

end Fault

end AssemblyGate
