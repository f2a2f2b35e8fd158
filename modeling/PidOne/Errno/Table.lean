/-!
# The table of error numbers

What Linux calls its error numbers: the constant, the library's own text, the text of the C library
and the portable kind each number belongs to. Numbers 41 and 58 are unused, and 0 stands for every
number that is not in the table.
-/

namespace PidOne

inductive ErrorKind where
  | uncategorized
  | permissionDenied
  | notFound
  | interrupted
  | inputOutputError
  | argumentListTooLong
  | wouldBlock
  | outOfMemory
  | resourceBusy
  | alreadyExists
  | crossesDevices
  | notADirectory
  | isADirectory
  | invalidInput
  | tooManyOpenFiles
  | executableFileBusy
  | fileTooLarge
  | storageFull
  | notSeekable
  | readOnlyFilesystem
  | tooManyLinks
  | brokenPipe
  | deadlock
  | invalidFilename
  | unsupported
  | directoryNotEmpty
  | filesystemLoop
  | addrInUse
  | addrNotAvailable
  | networkDown
  | networkUnreachable
  | connectionAborted
  | connectionReset
  | notConnected
  | timedOut
  | connectionRefused
  | hostUnreachable
  | inProgress
  | staleNetworkFileHandle
  | quotaExceeded
  | other
  deriving DecidableEq, Repr

def ErrorKind.name : ErrorKind → String
  | .uncategorized => "Uncategorized"
  | .permissionDenied => "PermissionDenied"
  | .notFound => "NotFound"
  | .interrupted => "Interrupted"
  | .inputOutputError => "InputOutputError"
  | .argumentListTooLong => "ArgumentListTooLong"
  | .wouldBlock => "WouldBlock"
  | .outOfMemory => "OutOfMemory"
  | .resourceBusy => "ResourceBusy"
  | .alreadyExists => "AlreadyExists"
  | .crossesDevices => "CrossesDevices"
  | .notADirectory => "NotADirectory"
  | .isADirectory => "IsADirectory"
  | .invalidInput => "InvalidInput"
  | .tooManyOpenFiles => "TooManyOpenFiles"
  | .executableFileBusy => "ExecutableFileBusy"
  | .fileTooLarge => "FileTooLarge"
  | .storageFull => "StorageFull"
  | .notSeekable => "NotSeekable"
  | .readOnlyFilesystem => "ReadOnlyFilesystem"
  | .tooManyLinks => "TooManyLinks"
  | .brokenPipe => "BrokenPipe"
  | .deadlock => "Deadlock"
  | .invalidFilename => "InvalidFilename"
  | .unsupported => "Unsupported"
  | .directoryNotEmpty => "DirectoryNotEmpty"
  | .filesystemLoop => "FilesystemLoop"
  | .addrInUse => "AddrInUse"
  | .addrNotAvailable => "AddrNotAvailable"
  | .networkDown => "NetworkDown"
  | .networkUnreachable => "NetworkUnreachable"
  | .connectionAborted => "ConnectionAborted"
  | .connectionReset => "ConnectionReset"
  | .notConnected => "NotConnected"
  | .timedOut => "TimedOut"
  | .connectionRefused => "ConnectionRefused"
  | .hostUnreachable => "HostUnreachable"
  | .inProgress => "InProgress"
  | .staleNetworkFileHandle => "StaleNetworkFileHandle"
  | .quotaExceeded => "QuotaExceeded"
  | .other => "Other"

namespace Errno

structure Entry where
  code : Nat
  name : String
  text : String
  /-- Text of the C library, shown for operating system errors. -/
  message : String
  kind : ErrorKind

def entries : List Entry := [
  ⟨0, "UnknownErrno", "Unknown errno", "Success", .uncategorized⟩,
  ⟨1, "EPERM", "Operation not permitted", "Operation not permitted", .permissionDenied⟩,
  ⟨2, "ENOENT", "No such file or directory", "No such file or directory", .notFound⟩,
  ⟨3, "ESRCH", "No such process", "No such process", .uncategorized⟩,
  ⟨4, "EINTR", "Interrupted system call", "Interrupted system call", .interrupted⟩,
  ⟨5, "EIO", "I/O error", "Input/output error", .inputOutputError⟩,
  ⟨6, "ENXIO", "No such device or address", "No such device or address", .uncategorized⟩,
  ⟨7, "E2BIG", "Argument list too long", "Argument list too long", .argumentListTooLong⟩,
  ⟨8, "ENOEXEC", "Exec format error", "Exec format error", .uncategorized⟩,
  ⟨9, "EBADF", "Bad file number", "Bad file descriptor", .uncategorized⟩,
  ⟨10, "ECHILD", "No child processes", "No child processes", .uncategorized⟩,
  ⟨11, "EAGAIN", "Try again", "Resource temporarily unavailable", .wouldBlock⟩,
  ⟨12, "ENOMEM", "Out of memory", "Cannot allocate memory", .outOfMemory⟩,
  ⟨13, "EACCES", "Permission denied", "Permission denied", .permissionDenied⟩,
  ⟨14, "EFAULT", "Bad address", "Bad address", .uncategorized⟩,
  ⟨15, "ENOTBLK", "Block device required", "Block device required", .uncategorized⟩,
  ⟨16, "EBUSY", "Device or resource busy", "Device or resource busy", .resourceBusy⟩,
  ⟨17, "EEXIST", "File exists", "File exists", .alreadyExists⟩,
  ⟨18, "EXDEV", "Cross-device link", "Invalid cross-device link", .crossesDevices⟩,
  ⟨19, "ENODEV", "No such device", "No such device", .uncategorized⟩,
  ⟨20, "ENOTDIR", "Not a directory", "Not a directory", .notADirectory⟩,
  ⟨21, "EISDIR", "Is a directory", "Is a directory", .isADirectory⟩,
  ⟨22, "EINVAL", "Invalid argument", "Invalid argument", .invalidInput⟩,
  ⟨23, "ENFILE", "File table overflow", "Too many open files in system", .tooManyOpenFiles⟩,
  ⟨24, "EMFILE", "Too many open files", "Too many open files", .tooManyOpenFiles⟩,
  ⟨25, "ENOTTY", "Not a typewriter", "Inappropriate ioctl for device", .uncategorized⟩,
  ⟨26, "ETXTBSY", "Text file busy", "Text file busy", .executableFileBusy⟩,
  ⟨27, "EFBIG", "File too large", "File too large", .fileTooLarge⟩,
  ⟨28, "ENOSPC", "No space left on device", "No space left on device", .storageFull⟩,
  ⟨29, "ESPIPE", "Illegal seek", "Illegal seek", .notSeekable⟩,
  ⟨30, "EROFS", "Read-only file system", "Read-only file system", .readOnlyFilesystem⟩,
  ⟨31, "EMLINK", "Too many links", "Too many links", .tooManyLinks⟩,
  ⟨32, "EPIPE", "Broken pipe", "Broken pipe", .brokenPipe⟩,
  ⟨33, "EDOM", "Math argument out of domain of func",
    "Numerical argument out of domain", .uncategorized⟩,
  ⟨34, "ERANGE", "Math result not representable", "Numerical result out of range", .uncategorized⟩,
  ⟨35, "EDEADLK", "Resource deadlock would occur", "Resource deadlock avoided", .deadlock⟩,
  ⟨36, "ENAMETOOLONG", "File name too long", "File name too long", .invalidFilename⟩,
  ⟨37, "ENOLCK", "No record locks available", "No locks available", .uncategorized⟩,
  ⟨38, "ENOSYS", "Function not implemented", "Function not implemented", .unsupported⟩,
  ⟨39, "ENOTEMPTY", "Directory not empty", "Directory not empty", .directoryNotEmpty⟩,
  ⟨40, "ELOOP", "Too many symbolic links encountered",
    "Too many levels of symbolic links", .filesystemLoop⟩,
  ⟨42, "ENOMSG", "No message of desired type", "No message of desired type", .uncategorized⟩,
  ⟨43, "EIDRM", "Identifier removed", "Identifier removed", .uncategorized⟩,
  ⟨44, "ECHRNG", "Channel number out of range", "Channel number out of range", .uncategorized⟩,
  ⟨45, "EL2NSYNC", "Level 2 not synchronized", "Level 2 not synchronized", .uncategorized⟩,
  ⟨46, "EL3HLT", "Level 3 halted", "Level 3 halted", .uncategorized⟩,
  ⟨47, "EL3RST", "Level 3 reset", "Level 3 reset", .uncategorized⟩,
  ⟨48, "ELNRNG", "Link number out of range", "Link number out of range", .uncategorized⟩,
  ⟨49, "EUNATCH", "Protocol driver not attached", "Protocol driver not attached", .uncategorized⟩,
  ⟨50, "ENOCSI", "No CSI structure available", "No CSI structure available", .uncategorized⟩,
  ⟨51, "EL2HLT", "Level 2 halted", "Level 2 halted", .uncategorized⟩,
  ⟨52, "EBADE", "Invalid exchange", "Invalid exchange", .uncategorized⟩,
  ⟨53, "EBADR", "Invalid request descriptor", "Invalid request descriptor", .uncategorized⟩,
  ⟨54, "EXFULL", "Exchange full", "Exchange full", .uncategorized⟩,
  ⟨55, "ENOANO", "No anode", "No anode", .uncategorized⟩,
  ⟨56, "EBADRQC", "Invalid request code", "Invalid request code", .uncategorized⟩,
  ⟨57, "EBADSLT", "Invalid slot", "Invalid slot", .uncategorized⟩,
  ⟨59, "EBFONT", "Bad font file format", "Bad font file format", .uncategorized⟩,
  ⟨60, "ENOSTR", "Device not a stream", "Device not a stream", .uncategorized⟩,
  ⟨61, "ENODATA", "No data available", "No data available", .uncategorized⟩,
  ⟨62, "ETIME", "Timer expired", "Timer expired", .uncategorized⟩,
  ⟨63, "ENOSR", "Out of streams resources", "Out of streams resources", .uncategorized⟩,
  ⟨64, "ENONET", "Machine is not on the network", "Machine is not on the network", .uncategorized⟩,
  ⟨65, "ENOPKG", "Package not installed", "Package not installed", .uncategorized⟩,
  ⟨66, "EREMOTE", "Object is remote", "Object is remote", .uncategorized⟩,
  ⟨67, "ENOLINK", "Link has been severed", "Link has been severed", .uncategorized⟩,
  ⟨68, "EADV", "Advertise error", "Advertise error", .uncategorized⟩,
  ⟨69, "ESRMNT", "Srmount error", "Srmount error", .uncategorized⟩,
  ⟨70, "ECOMM", "Communication error on send", "Communication error on send", .uncategorized⟩,
  ⟨71, "EPROTO", "Protocol error", "Protocol error", .uncategorized⟩,
  ⟨72, "EMULTIHOP", "Multihop attempted", "Multihop attempted", .uncategorized⟩,
  ⟨73, "EDOTDOT", "RFS specific error", "RFS specific error", .uncategorized⟩,
  ⟨74, "EBADMSG", "Not a data message", "Bad message", .uncategorized⟩,
  ⟨75, "EOVERFLOW", "Value too large for defined data type",
    "Value too large for defined data type", .uncategorized⟩,
  ⟨76, "ENOTUNIQ", "Name not unique on network", "Name not unique on network", .uncategorized⟩,
  ⟨77, "EBADFD", "File descriptor in bad state", "File descriptor in bad state", .uncategorized⟩,
  ⟨78, "EREMCHG", "Remote address changed", "Remote address changed", .uncategorized⟩,
  ⟨79, "ELIBACC", "Can not access a needed shared library",
    "Can not access a needed shared library", .uncategorized⟩,
  ⟨80, "ELIBBAD", "Accessing a corrupted shared library",
    "Accessing a corrupted shared library", .uncategorized⟩,
  ⟨81, "ELIBSCN", ".lib section in a.out corrupted",
    ".lib section in a.out corrupted", .uncategorized⟩,
  ⟨82, "ELIBMAX", "Attempting to link in too many shared libraries",
    "Attempting to link in too many shared libraries", .uncategorized⟩,
  ⟨83, "ELIBEXEC", "Cannot exec a shared library directly",
    "Cannot exec a shared library directly", .uncategorized⟩,
  ⟨84, "EILSEQ", "Illegal byte sequence",
    "Invalid or incomplete multibyte or wide character", .uncategorized⟩,
  ⟨85, "ERESTART", "Interrupted system call should be restarted",
    "Interrupted system call should be restarted", .uncategorized⟩,
  ⟨86, "ESTRPIPE", "Streams pipe error", "Streams pipe error", .uncategorized⟩,
  ⟨87, "EUSERS", "Too many users", "Too many users", .uncategorized⟩,
  ⟨88, "ENOTSOCK", "Socket operation on non-socket",
    "Socket operation on non-socket", .uncategorized⟩,
  ⟨89, "EDESTADDRREQ", "Destination address required",
    "Destination address required", .uncategorized⟩,
  ⟨90, "EMSGSIZE", "Message too long", "Message too long", .uncategorized⟩,
  ⟨91, "EPROTOTYPE", "Protocol wrong type for socket",
    "Protocol wrong type for socket", .uncategorized⟩,
  ⟨92, "ENOPROTOOPT", "Protocol not available", "Protocol not available", .uncategorized⟩,
  ⟨93, "EPROTONOSUPPORT", "Protocol not supported", "Protocol not supported", .uncategorized⟩,
  ⟨94, "ESOCKTNOSUPPORT", "Socket type not supported", "Socket type not supported", .uncategorized⟩,
  ⟨95, "EOPNOTSUPP", "Operation not supported on transport endpoint",
    "Operation not supported", .unsupported⟩,
  ⟨96, "EPFNOSUPPORT", "Protocol family not supported",
    "Protocol family not supported", .uncategorized⟩,
  ⟨97, "EAFNOSUPPORT", "Address family not supported by protocol",
    "Address family not supported by protocol", .uncategorized⟩,
  ⟨98, "EADDRINUSE", "Address already in use", "Address already in use", .addrInUse⟩,
  ⟨99, "EADDRNOTAVAIL", "Cannot assign requested address",
    "Cannot assign requested address", .addrNotAvailable⟩,
  ⟨100, "ENETDOWN", "Network is down", "Network is down", .networkDown⟩,
  ⟨101, "ENETUNREACH", "Network is unreachable", "Network is unreachable", .networkUnreachable⟩,
  ⟨102, "ENETRESET", "Network dropped connection because of reset",
    "Network dropped connection on reset", .uncategorized⟩,
  ⟨103, "ECONNABORTED", "Software caused connection abort",
    "Software caused connection abort", .connectionAborted⟩,
  ⟨104, "ECONNRESET", "Connection reset by peer", "Connection reset by peer", .connectionReset⟩,
  ⟨105, "ENOBUFS", "No buffer space available", "No buffer space available", .uncategorized⟩,
  ⟨106, "EISCONN", "Transport endpoint is already connected",
    "Transport endpoint is already connected", .uncategorized⟩,
  ⟨107, "ENOTCONN", "Transport endpoint is not connected",
    "Transport endpoint is not connected", .notConnected⟩,
  ⟨108, "ESHUTDOWN", "Cannot send after transport endpoint shutdown",
    "Cannot send after transport endpoint shutdown", .uncategorized⟩,
  ⟨109, "ETOOMANYREFS", "Too many references: cannot splice",
    "Too many references: cannot splice", .uncategorized⟩,
  ⟨110, "ETIMEDOUT", "Connection timed out", "Connection timed out", .timedOut⟩,
  ⟨111, "ECONNREFUSED", "Connection refused", "Connection refused", .connectionRefused⟩,
  ⟨112, "EHOSTDOWN", "Host is down", "Host is down", .uncategorized⟩,
  ⟨113, "EHOSTUNREACH", "No route to host", "No route to host", .hostUnreachable⟩,
  ⟨114, "EALREADY", "Operation already in progress",
    "Operation already in progress", .uncategorized⟩,
  ⟨115, "EINPROGRESS", "Operation now in progress", "Operation now in progress", .inProgress⟩,
  ⟨116, "ESTALE", "Stale file handle", "Stale file handle", .staleNetworkFileHandle⟩,
  ⟨117, "EUCLEAN", "Structure needs cleaning", "Structure needs cleaning", .uncategorized⟩,
  ⟨118, "ENOTNAM", "Not a XENIX named type file", "Not a XENIX named type file", .uncategorized⟩,
  ⟨119, "ENAVAIL", "No XENIX semaphores available",
    "No XENIX semaphores available", .uncategorized⟩,
  ⟨120, "EISNAM", "Is a named type file", "Is a named type file", .uncategorized⟩,
  ⟨121, "EREMOTEIO", "Remote I/O error", "Remote I/O error", .uncategorized⟩,
  ⟨122, "EDQUOT", "Quota exceeded", "Disk quota exceeded", .quotaExceeded⟩,
  ⟨123, "ENOMEDIUM", "No medium found", "No medium found", .uncategorized⟩,
  ⟨124, "EMEDIUMTYPE", "Wrong medium type", "Wrong medium type", .uncategorized⟩,
  ⟨125, "ECANCELED", "Operation canceled", "Operation canceled", .uncategorized⟩,
  ⟨126, "ENOKEY", "Required key not available", "Required key not available", .uncategorized⟩,
  ⟨127, "EKEYEXPIRED", "Key has expired", "Key has expired", .uncategorized⟩,
  ⟨128, "EKEYREVOKED", "Key has been revoked", "Key has been revoked", .uncategorized⟩,
  ⟨129, "EKEYREJECTED", "Key was rejected by service",
    "Key was rejected by service", .uncategorized⟩,
  ⟨130, "EOWNERDEAD", "Owner died", "Owner died", .uncategorized⟩,
  ⟨131, "ENOTRECOVERABLE", "State not recoverable", "State not recoverable", .uncategorized⟩,
  ⟨132, "ERFKILL", "Operation not possible due to RF-kill",
    "Operation not possible due to RF-kill", .uncategorized⟩,
  ⟨133, "EHWPOISON", "Memory page has hardware error",
    "Memory page has hardware error", .uncategorized⟩]

end Errno

end PidOne
