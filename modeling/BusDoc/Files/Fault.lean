/-!
# Failures of file operations

The kinds in which file operations fail, with the words for each.
-/

namespace BusDoc

/-- Why a file operation failed. -/
inductive FileFault
  | addressInUse | addressNotAvailable | alreadyExists | argumentListTooLong | brokenPipe
  | connectionAborted | connectionRefused | connectionReset | crossesDevices | deadlock
  | directoryNotEmpty | executableBusy | fileTooLarge | filesystemLoop | hostUnreachable
  | inProgress | interrupted | invalidData | invalidFilename | invalidInput | isDirectory
  | networkDown | networkUnreachable | notDirectory | notConnected | notFound | notSeekable
  | other | outOfMemory | permissionDenied | quotaExceeded | readOnlyFilesystem | resourceBusy
  | staleNetworkFileHandle | storageFull | timedOut | tooManyLinks | uncategorized
  | unexpectedEnd | unsupported | wouldBlock | writeZero
  deriving DecidableEq, Repr, Inhabited

namespace FileFault

/-- Every kind of failure with its name and its words. -/
def table : List (FileFault × String × String) := [
  (addressInUse, "AddrInUse", "address in use"),
  (addressNotAvailable, "AddrNotAvailable", "address not available"),
  (alreadyExists, "AlreadyExists", "entity already exists"),
  (argumentListTooLong, "ArgumentListTooLong", "argument list too long"),
  (brokenPipe, "BrokenPipe", "broken pipe"),
  (connectionAborted, "ConnectionAborted", "connection aborted"),
  (connectionRefused, "ConnectionRefused", "connection refused"),
  (connectionReset, "ConnectionReset", "connection reset"),
  (crossesDevices, "CrossesDevices", "cross-device link or rename"),
  (deadlock, "Deadlock", "deadlock"),
  (directoryNotEmpty, "DirectoryNotEmpty", "directory not empty"),
  (executableBusy, "ExecutableFileBusy", "executable file busy"),
  (fileTooLarge, "FileTooLarge", "file too large"),
  (filesystemLoop, "FilesystemLoop", "filesystem loop or indirection limit (e.g. symlink loop)"),
  (hostUnreachable, "HostUnreachable", "host unreachable"),
  (inProgress, "InProgress", "in progress"),
  (interrupted, "Interrupted", "operation interrupted"),
  (invalidData, "InvalidData", "invalid data"),
  (invalidFilename, "InvalidFilename", "invalid filename"),
  (invalidInput, "InvalidInput", "invalid input parameter"),
  (isDirectory, "IsADirectory", "is a directory"),
  (networkDown, "NetworkDown", "network down"),
  (networkUnreachable, "NetworkUnreachable", "network unreachable"),
  (notDirectory, "NotADirectory", "not a directory"),
  (notConnected, "NotConnected", "not connected"),
  (notFound, "NotFound", "entity not found"),
  (notSeekable, "NotSeekable", "seek on unseekable file"),
  (other, "Other", "other error"),
  (outOfMemory, "OutOfMemory", "out of memory"),
  (permissionDenied, "PermissionDenied", "permission denied"),
  (quotaExceeded, "QuotaExceeded", "quota exceeded"),
  (readOnlyFilesystem, "ReadOnlyFilesystem", "read-only filesystem or storage medium"),
  (resourceBusy, "ResourceBusy", "resource busy"),
  (staleNetworkFileHandle, "StaleNetworkFileHandle", "stale network file handle"),
  (storageFull, "StorageFull", "no storage space"),
  (timedOut, "TimedOut", "timed out"),
  (tooManyLinks, "TooManyLinks", "too many links"),
  (uncategorized, "Uncategorized", "uncategorized error"),
  (unexpectedEnd, "UnexpectedEof", "unexpected end of file"),
  (unsupported, "Unsupported", "unsupported"),
  (wouldBlock, "WouldBlock", "operation would block"),
  (writeZero, "WriteZero", "write zero")]

/-- The failure in words. -/
def text (f : FileFault) : String := ((table.find? fun e => e.1 = f).map fun e => e.2.2).getD ""

/-- The kind of failure with the given name. -/
def ofName? (name : String) : Option FileFault :=
  (table.find? fun e => e.2.1 = name).map Prod.fst

end FileFault

end BusDoc
