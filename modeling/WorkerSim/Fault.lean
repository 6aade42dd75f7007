import WorkerSim.Toml.Report

/-!
# Faults

Everything that can stop a worker or keep it from starting, by cause, with the text that names it,
the exit code of a program that ends with it, and a word of advice.
-/

set_option autoImplicit false

namespace WorkerSim

/-- Kinds of input and output failures. -/
inductive IoKind
  | notFound
  | permissionDenied
  | brokenPipe
  | alreadyExists
  | wouldBlock
  | invalidInput
  | invalidData
  | timedOut
  | writeZero
  | interrupted
  | unexpectedEof
  | other
  deriving DecidableEq, Repr

def IoKind.message : IoKind → String
  | notFound => "entity not found"
  | permissionDenied => "permission denied"
  | brokenPipe => "broken pipe"
  | alreadyExists => "entity already exists"
  | wouldBlock => "operation would block"
  | invalidInput => "invalid input parameter"
  | invalidData => "invalid data"
  | timedOut => "timed out"
  | writeZero => "write zero"
  | interrupted => "operation interrupted"
  | unexpectedEof => "unexpected end of file"
  | other => "other error"

/-- What the operating system calls its error numbers, from one on. -/
def systemErrors : Array String := #[
  "Operation not permitted", "No such file or directory", "No such process",
  "Interrupted system call", "Input/output error", "No such device or address",
  "Argument list too long", "Exec format error", "Bad file descriptor", "No child processes",
  "Resource temporarily unavailable", "Cannot allocate memory", "Permission denied", "Bad address",
  "Block device required", "Device or resource busy", "File exists", "Invalid cross-device link",
  "No such device", "Not a directory", "Is a directory", "Invalid argument",
  "Too many open files in system", "Too many open files", "Inappropriate ioctl for device",
  "Text file busy", "File too large", "No space left on device", "Illegal seek",
  "Read-only file system", "Too many links", "Broken pipe", "Numerical argument out of domain",
  "Numerical result out of range", "Resource deadlock avoided", "File name too long",
  "No locks available", "Function not implemented", "Directory not empty",
  "Too many levels of symbolic links", "Unknown error 41", "No message of desired type",
  "Identifier removed", "Channel number out of range", "Level 2 not synchronized", "Level 3 halted",
  "Level 3 reset", "Link number out of range", "Protocol driver not attached",
  "No CSI structure available", "Level 2 halted", "Invalid exchange", "Invalid request descriptor",
  "Exchange full", "No anode", "Invalid request code", "Invalid slot", "Unknown error 58",
  "Bad font file format", "Device not a stream", "No data available", "Timer expired",
  "Out of streams resources", "Machine is not on the network", "Package not installed",
  "Object is remote", "Link has been severed", "Advertise error", "Srmount error",
  "Communication error on send", "Protocol error", "Multihop attempted", "RFS specific error",
  "Bad message", "Value too large for defined data type", "Name not unique on network",
  "File descriptor in bad state", "Remote address changed",
  "Can not access a needed shared library", "Accessing a corrupted shared library",
  ".lib section in a.out corrupted", "Attempting to link in too many shared libraries",
  "Cannot exec a shared library directly", "Invalid or incomplete multibyte or wide character",
  "Interrupted system call should be restarted", "Streams pipe error", "Too many users",
  "Socket operation on non-socket", "Destination address required", "Message too long",
  "Protocol wrong type for socket", "Protocol not available", "Protocol not supported",
  "Socket type not supported", "Operation not supported", "Protocol family not supported",
  "Address family not supported by protocol", "Address already in use",
  "Cannot assign requested address", "Network is down", "Network is unreachable",
  "Network dropped connection on reset", "Software caused connection abort",
  "Connection reset by peer", "No buffer space available",
  "Transport endpoint is already connected", "Transport endpoint is not connected",
  "Cannot send after transport endpoint shutdown", "Too many references: cannot splice",
  "Connection timed out", "Connection refused", "Host is down", "No route to host",
  "Operation already in progress", "Operation now in progress", "Stale file handle",
  "Structure needs cleaning", "Not a XENIX named type file", "No XENIX semaphores available",
  "Is a named type file", "Remote I/O error", "Disk quota exceeded", "No medium found",
  "Wrong medium type", "Operation canceled", "Required key not available", "Key has expired",
  "Key has been revoked", "Key was rejected by service", "Owner died", "State not recoverable",
  "Operation not possible due to RF-kill", "Memory page has hardware error"]

def systemError (code : Int) : String :=
  if code = 0 then "Success"
  else if code < 0 then "Unknown error " ++ toString code
  else (systemErrors[code.toNat - 1]?).getD ("Unknown error " ++ toString code)

/-- Why reading or writing failed: an error number of the system, a kind alone, a kind with a message
of its own, or one of the failures that the library itself finds. -/
inductive IoCause
  | system (code : Int)
  | kind (kind : IoKind)
  | stated (kind : IoKind) (message : String)
  | notUtf8
  | nulInPath
  | nothingWritten
  deriving DecidableEq, Repr

def IoCause.message : IoCause → String
  | system code => systemError code ++ " (os error " ++ toString code ++ ")"
  | kind k => k.message
  | stated _ message => message
  | notUtf8 => "stream did not contain valid UTF-8"
  | nulInPath => "file name contained an unexpected NUL byte"
  | nothingWritten => "failed to write whole buffer"

inductive ConfigCause
  | notToml
  | misfit (report : Toml.Report)
  | stated (message : String)
  deriving DecidableEq, Repr

def ConfigCause.message : ConfigCause → String
  | notToml => "TOML parsing error: "
  | misfit report => "TOML parsing error: " ++ String.ofList report.chars
  | stated message => message

/-- What is wrong with a single value. -/
inductive ValueCause
  | below (least : UInt64)
  | blank
  | stated (message : String)
  deriving DecidableEq, Repr

def ValueCause.message : ValueCause → String
  | below least => "Value must be at least " ++ toString least
  | blank => "Value cannot be empty or whitespace-only"
  | stated message => message

inductive Fault
  | io (cause : IoCause)
  | config (cause : ConfigCause)
  | value (field given : String) (cause : ValueCause)
  deriving DecidableEq, Repr

namespace Fault

def message : Fault → String
  | io cause => "IO error: " ++ cause.message
  | config cause => "Configuration error: " ++ cause.message
  | value field given cause =>
    "Invalid value '" ++ given ++ "' for " ++ field ++ ": " ++ cause.message

def exitCode : Fault → UInt8
  | io _ => 74
  | config _ => 1
  | value _ _ _ => 1

def suggestion : Fault → String
  | io _ => "Check that stdout is still open and the config file is readable"
  | config _ => "Make sure the config file is valid TOML"
  | value _ _ _ => "Fix the value in the config file or on the command line"

end Fault

end WorkerSim
