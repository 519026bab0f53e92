/-!
# Errors of system calls

What can be wrong with a call to the operating system, and the text that a message shows for it.
Most errors are numbers that the system gave; their texts are a fixed table.
-/

namespace AppLauncher

/-- The texts of the numbered system errors, in order from 0. An empty text is a number that no
error has. -/
def systemErrorNames : Array String :=
  #["Success", "Operation not permitted", "No such file or directory", "No such process",
    "Interrupted system call", "Input/output error", "No such device or address",
    "Argument list too long", "Exec format error", "Bad file descriptor", "No child processes",
    "Resource temporarily unavailable", "Cannot allocate memory", "Permission denied",
    "Bad address", "Block device required", "Device or resource busy", "File exists",
    "Invalid cross-device link", "No such device", "Not a directory", "Is a directory",
    "Invalid argument", "Too many open files in system", "Too many open files",
    "Inappropriate ioctl for device", "Text file busy", "File too large",
    "No space left on device", "Illegal seek", "Read-only file system", "Too many links",
    "Broken pipe", "Numerical argument out of domain", "Numerical result out of range",
    "Resource deadlock avoided", "File name too long", "No locks available",
    "Function not implemented", "Directory not empty", "Too many levels of symbolic links", "",
    "No message of desired type", "Identifier removed", "Channel number out of range",
    "Level 2 not synchronized", "Level 3 halted", "Level 3 reset", "Link number out of range",
    "Protocol driver not attached", "No CSI structure available", "Level 2 halted",
    "Invalid exchange", "Invalid request descriptor", "Exchange full", "No anode",
    "Invalid request code", "Invalid slot", "", "Bad font file format", "Device not a stream",
    "No data available", "Timer expired", "Out of streams resources",
    "Machine is not on the network", "Package not installed", "Object is remote",
    "Link has been severed", "Advertise error", "Srmount error", "Communication error on send",
    "Protocol error", "Multihop attempted", "RFS specific error", "Bad message",
    "Value too large for defined data type", "Name not unique on network",
    "File descriptor in bad state", "Remote address changed",
    "Can not access a needed shared library", "Accessing a corrupted shared library",
    ".lib section in a.out corrupted", "Attempting to link in too many shared libraries",
    "Cannot exec a shared library directly", "Invalid or incomplete multibyte or wide character",
    "Interrupted system call should be restarted", "Streams pipe error", "Too many users",
    "Socket operation on non-socket", "Destination address required", "Message too long",
    "Protocol wrong type for socket", "Protocol not available", "Protocol not supported",
    "Socket type not supported", "Operation not supported", "Protocol family not supported",
    "Address family not supported by protocol", "Address already in use",
    "Cannot assign requested address", "Network is down", "Network is unreachable",
    "Network dropped connection on reset", "Software caused connection abort",
    "Connection reset by peer", "No buffer space available",
    "Transport endpoint is already connected", "Transport endpoint is not connected",
    "Cannot send after transport endpoint shutdown", "Too many references: cannot splice",
    "Connection timed out", "Connection refused", "Host is down", "No route to host",
    "Operation already in progress", "Operation now in progress", "Stale file handle",
    "Structure needs cleaning", "Not a XENIX named type file", "No XENIX semaphores available",
    "Is a named type file", "Remote I/O error", "Disk quota exceeded", "No medium found",
    "Wrong medium type", "Operation canceled", "Required key not available", "Key has expired",
    "Key has been revoked", "Key was rejected by service", "Owner died", "State not recoverable",
    "Operation not possible due to RF-kill", "Memory page has hardware error"]

/-- An error of a call to the operating system. -/
inductive SystemError where
  /-- An error that the system numbered. -/
  | code (number : Nat)
  /-- Something was not there, with no number at hand. -/
  | notFound
  /-- Something was not allowed, with no number at hand. -/
  | permissionDenied
  /-- A call was made with a wrong parameter, with no number at hand. -/
  | invalidInput
  /-- A path with a zero byte in it, which no system call can take. -/
  | zeroInPath
  /-- An argument of a new process with a zero byte in it. -/
  | zeroInArgument
  /-- An error described by its text alone. -/
  | custom (text : String)
  deriving DecidableEq, Repr

namespace SystemError

/-- The text of a numbered error. -/
def numberText (number : Nat) : String :=
  match systemErrorNames[number]? with
  | some text => if text.isEmpty then s!"Unknown error {number}" else text
  | none => s!"Unknown error {number}"

/-- The text that messages show. -/
def message : SystemError → String
  | code number => s!"{numberText number} (os error {number})"
  | notFound => "entity not found"
  | permissionDenied => "permission denied"
  | invalidInput => "invalid input parameter"
  | zeroInPath => "file name contained an unexpected NUL byte"
  | zeroInArgument => "nul byte found in provided data"
  | custom text => text

/-- Nothing has the name. -/
def missing : SystemError := code 2

/-- An argument is longer than a new process can take. -/
def argumentTooLong : SystemError := code 7

/-- A step of a path goes through something that is not a directory. -/
def notDirectory : SystemError := code 20

/-- A directory stands where a file is wanted. -/
def isDirectory : SystemError := code 21

/-- A path or one of its names is too long. -/
def nameTooLong : SystemError := code 36

/-- A path leads through too many links. -/
def tooManyLinks : SystemError := code 40

end SystemError

end AppLauncher
