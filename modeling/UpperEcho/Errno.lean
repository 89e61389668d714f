/-! Error numbers of the system (0 stands for every unlisted one), with their symbolic name, their
summary and the sentence the I/O layer prints. -/
namespace UpperEcho

structure Errno where
  code : Nat
  deriving DecidableEq, Repr

namespace Errno

def table : List (Nat × String × String) := [
  (1, "EPERM", "Operation not permitted"), (2, "ENOENT", "No such file or directory"),
  (3, "ESRCH", "No such process"), (4, "EINTR", "Interrupted system call"),
  (5, "EIO", "I/O error"), (6, "ENXIO", "No such device or address"),
  (7, "E2BIG", "Argument list too long"), (8, "ENOEXEC", "Exec format error"),
  (9, "EBADF", "Bad file number"), (10, "ECHILD", "No child processes"),
  (11, "EAGAIN", "Try again"), (12, "ENOMEM", "Out of memory"),
  (13, "EACCES", "Permission denied"), (14, "EFAULT", "Bad address"),
  (15, "ENOTBLK", "Block device required"), (16, "EBUSY", "Device or resource busy"),
  (17, "EEXIST", "File exists"), (18, "EXDEV", "Cross-device link"),
  (19, "ENODEV", "No such device"), (20, "ENOTDIR", "Not a directory"),
  (21, "EISDIR", "Is a directory"), (22, "EINVAL", "Invalid argument"),
  (23, "ENFILE", "File table overflow"), (24, "EMFILE", "Too many open files"),
  (25, "ENOTTY", "Not a typewriter"), (26, "ETXTBSY", "Text file busy"),
  (27, "EFBIG", "File too large"), (28, "ENOSPC", "No space left on device"),
  (29, "ESPIPE", "Illegal seek"), (30, "EROFS", "Read-only file system"),
  (31, "EMLINK", "Too many links"), (32, "EPIPE", "Broken pipe"),
  (33, "EDOM", "Math argument out of domain of func"),
  (34, "ERANGE", "Math result not representable"),
  (35, "EDEADLK", "Resource deadlock would occur"), (36, "ENAMETOOLONG", "File name too long"),
  (37, "ENOLCK", "No record locks available"), (38, "ENOSYS", "Function not implemented"),
  (39, "ENOTEMPTY", "Directory not empty"), (40, "ELOOP", "Too many symbolic links encountered"),
  (42, "ENOMSG", "No message of desired type"), (43, "EIDRM", "Identifier removed"),
  (44, "ECHRNG", "Channel number out of range"), (45, "EL2NSYNC", "Level 2 not synchronized"),
  (46, "EL3HLT", "Level 3 halted"), (47, "EL3RST", "Level 3 reset"),
  (48, "ELNRNG", "Link number out of range"), (49, "EUNATCH", "Protocol driver not attached"),
  (50, "ENOCSI", "No CSI structure available"), (51, "EL2HLT", "Level 2 halted"),
  (52, "EBADE", "Invalid exchange"), (53, "EBADR", "Invalid request descriptor"),
  (54, "EXFULL", "Exchange full"), (55, "ENOANO", "No anode"),
  (56, "EBADRQC", "Invalid request code"), (57, "EBADSLT", "Invalid slot"),
  (59, "EBFONT", "Bad font file format"), (60, "ENOSTR", "Device not a stream"),
  (61, "ENODATA", "No data available"), (62, "ETIME", "Timer expired"),
  (63, "ENOSR", "Out of streams resources"), (64, "ENONET", "Machine is not on the network"),
  (65, "ENOPKG", "Package not installed"), (66, "EREMOTE", "Object is remote"),
  (67, "ENOLINK", "Link has been severed"), (68, "EADV", "Advertise error"),
  (69, "ESRMNT", "Srmount error"), (70, "ECOMM", "Communication error on send"),
  (71, "EPROTO", "Protocol error"), (72, "EMULTIHOP", "Multihop attempted"),
  (73, "EDOTDOT", "RFS specific error"), (74, "EBADMSG", "Not a data message"),
  (75, "EOVERFLOW", "Value too large for defined data type"),
  (76, "ENOTUNIQ", "Name not unique on network"), (77, "EBADFD", "File descriptor in bad state"),
  (78, "EREMCHG", "Remote address changed"),
  (79, "ELIBACC", "Can not access a needed shared library"),
  (80, "ELIBBAD", "Accessing a corrupted shared library"),
  (81, "ELIBSCN", ".lib section in a.out corrupted"),
  (82, "ELIBMAX", "Attempting to link in too many shared libraries"),
  (83, "ELIBEXEC", "Cannot exec a shared library directly"),
  (84, "EILSEQ", "Illegal byte sequence"),
  (85, "ERESTART", "Interrupted system call should be restarted"),
  (86, "ESTRPIPE", "Streams pipe error"), (87, "EUSERS", "Too many users"),
  (88, "ENOTSOCK", "Socket operation on non-socket"),
  (89, "EDESTADDRREQ", "Destination address required"), (90, "EMSGSIZE", "Message too long"),
  (91, "EPROTOTYPE", "Protocol wrong type for socket"),
  (92, "ENOPROTOOPT", "Protocol not available"), (93, "EPROTONOSUPPORT", "Protocol not supported"),
  (94, "ESOCKTNOSUPPORT", "Socket type not supported"),
  (95, "EOPNOTSUPP", "Operation not supported on transport endpoint"),
  (96, "EPFNOSUPPORT", "Protocol family not supported"),
  (97, "EAFNOSUPPORT", "Address family not supported by protocol"),
  (98, "EADDRINUSE", "Address already in use"),
  (99, "EADDRNOTAVAIL", "Cannot assign requested address"), (100, "ENETDOWN", "Network is down"),
  (101, "ENETUNREACH", "Network is unreachable"),
  (102, "ENETRESET", "Network dropped connection because of reset"),
  (103, "ECONNABORTED", "Software caused connection abort"),
  (104, "ECONNRESET", "Connection reset by peer"), (105, "ENOBUFS", "No buffer space available"),
  (106, "EISCONN", "Transport endpoint is already connected"),
  (107, "ENOTCONN", "Transport endpoint is not connected"),
  (108, "ESHUTDOWN", "Cannot send after transport endpoint shutdown"),
  (109, "ETOOMANYREFS", "Too many references: cannot splice"),
  (110, "ETIMEDOUT", "Connection timed out"), (111, "ECONNREFUSED", "Connection refused"),
  (112, "EHOSTDOWN", "Host is down"), (113, "EHOSTUNREACH", "No route to host"),
  (114, "EALREADY", "Operation already in progress"),
  (115, "EINPROGRESS", "Operation now in progress"), (116, "ESTALE", "Stale file handle"),
  (117, "EUCLEAN", "Structure needs cleaning"), (118, "ENOTNAM", "Not a XENIX named type file"),
  (119, "ENAVAIL", "No XENIX semaphores available"), (120, "EISNAM", "Is a named type file"),
  (121, "EREMOTEIO", "Remote I/O error"), (122, "EDQUOT", "Quota exceeded"),
  (123, "ENOMEDIUM", "No medium found"), (124, "EMEDIUMTYPE", "Wrong medium type"),
  (125, "ECANCELED", "Operation canceled"), (126, "ENOKEY", "Required key not available"),
  (127, "EKEYEXPIRED", "Key has expired"), (128, "EKEYREVOKED", "Key has been revoked"),
  (129, "EKEYREJECTED", "Key was rejected by service"), (130, "EOWNERDEAD", "Owner died"),
  (131, "ENOTRECOVERABLE", "State not recoverable"),
  (132, "ERFKILL", "Operation not possible due to RF-kill"),
  (133, "EHWPOISON", "Memory page has hardware error")]

def lookup? (n : Nat) : Option (String × String) := (table.find? (·.1 == n)).map (·.2)

def ofInt (n : Int) : Errno :=
  if n < 0 then ⟨0⟩ else if (lookup? n.toNat).isSome then ⟨n.toNat⟩ else ⟨0⟩

def name (e : Errno) : String := ((lookup? e.code).map (·.1)).getD "UnknownErrno"

def summary (e : Errno) : String := ((lookup? e.code).map (·.2)).getD "Unknown errno"

def describe (e : Errno) : String := e.name ++ ": " ++ e.summary

def perm : Errno := ⟨1⟩
def noEntry : Errno := ⟨2⟩
def interrupted : Errno := ⟨4⟩
def noDeviceAddress : Errno := ⟨6⟩
def badDescriptor : Errno := ⟨9⟩
def again : Errno := ⟨11⟩
def alreadyExists : Errno := ⟨17⟩
def notDirectory : Errno := ⟨20⟩
def isDirectory : Errno := ⟨21⟩
def invalid : Errno := ⟨22⟩
def tooManyFiles : Errno := ⟨24⟩
def fileTooLarge : Errno := ⟨27⟩
def noSpace : Errno := ⟨28⟩
def brokenPipe : Errno := ⟨32⟩
def range : Errno := ⟨34⟩
def notEmpty : Errno := ⟨39⟩
def notSocket : Errno := ⟨88⟩
def messageSize : Errno := ⟨90⟩
def wrongProtocol : Errno := ⟨91⟩
def addressInUse : Errno := ⟨98⟩
def addressUnavailable : Errno := ⟨99⟩
def networkUnreachable : Errno := ⟨101⟩
def connectionReset : Errno := ⟨104⟩
def connectionRefused : Errno := ⟨111⟩

theorem ofInt_code (e : Errno) (h : (lookup? e.code).isSome) : ofInt e.code = e := by
  have : ¬ ((e.code : Int) < 0) := by omega
  simp [ofInt, h, this]

end Errno

def osMessages : List String := [
  "Success", "Operation not permitted", "No such file or directory", "No such process",
  "Interrupted system call", "Input/output error", "No such device or address",
  "Argument list too long", "Exec format error", "Bad file descriptor", "No child processes",
  "Resource temporarily unavailable", "Cannot allocate memory", "Permission denied",
  "Bad address", "Block device required", "Device or resource busy", "File exists",
  "Invalid cross-device link", "No such device", "Not a directory", "Is a directory",
  "Invalid argument", "Too many open files in system", "Too many open files",
  "Inappropriate ioctl for device", "Text file busy", "File too large",
  "No space left on device", "Illegal seek", "Read-only file system", "Too many links",
  "Broken pipe", "Numerical argument out of domain", "Numerical result out of range",
  "Resource deadlock avoided", "File name too long", "No locks available",
  "Function not implemented", "Directory not empty", "Too many levels of symbolic links",
  "Unknown error 41", "No message of desired type", "Identifier removed",
  "Channel number out of range", "Level 2 not synchronized", "Level 3 halted",
  "Level 3 reset", "Link number out of range", "Protocol driver not attached",
  "No CSI structure available", "Level 2 halted", "Invalid exchange",
  "Invalid request descriptor", "Exchange full", "No anode", "Invalid request code",
  "Invalid slot", "Unknown error 58", "Bad font file format", "Device not a stream",
  "No data available", "Timer expired", "Out of streams resources",
  "Machine is not on the network", "Package not installed", "Object is remote",
  "Link has been severed", "Advertise error", "Srmount error", "Communication error on send",
  "Protocol error", "Multihop attempted", "RFS specific error", "Bad message",
  "Value too large for defined data type", "Name not unique on network",
  "File descriptor in bad state", "Remote address changed",
  "Can not access a needed shared library", "Accessing a corrupted shared library",
  ".lib section in a.out corrupted", "Attempting to link in too many shared libraries",
  "Cannot exec a shared library directly",
  "Invalid or incomplete multibyte or wide character",
  "Interrupted system call should be restarted", "Streams pipe error", "Too many users",
  "Socket operation on non-socket", "Destination address required", "Message too long",
  "Protocol wrong type for socket", "Protocol not available", "Protocol not supported",
  "Socket type not supported", "Operation not supported", "Protocol family not supported",
  "Address family not supported by protocol", "Address already in use",
  "Cannot assign requested address", "Network is down", "Network is unreachable",
  "Network dropped connection on reset", "Software caused connection abort",
  "Connection reset by peer", "No buffer space available",
  "Transport endpoint is already connected", "Transport endpoint is not connected",
  "Cannot send after transport endpoint shutdown", "Too many references: cannot splice",
  "Connection timed out", "Connection refused", "Host is down", "No route to host",
  "Operation already in progress", "Operation now in progress", "Stale file handle",
  "Structure needs cleaning", "Not a XENIX named type file", "No XENIX semaphores available",
  "Is a named type file", "Remote I/O error", "Disk quota exceeded", "No medium found",
  "Wrong medium type", "Operation canceled", "Required key not available", "Key has expired",
  "Key has been revoked", "Key was rejected by service", "Owner died",
  "State not recoverable", "Operation not possible due to RF-kill",
  "Memory page has hardware error"]

def osMessage (code : Int) : String :=
  if code < 0 then "Unknown error " ++ toString code
  else (osMessages[code.toNat]?).getD ("Unknown error " ++ toString code)

end UpperEcho
