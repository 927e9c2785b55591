/-! # Kinds of socket and file errors

The portable classification of what an operating system or a socket reports. `Kind.describe` is the
text of an error that carries nothing but its kind; `Kind.ofName?` reads `Kind.name` back. -/

namespace SecureStream.IoError

/-- What went wrong, independent of the platform. -/
inductive Kind
  | addrInUse
  | addrNotAvailable
  | alreadyExists
  | argumentListTooLong
  | brokenPipe
  | connectionAborted
  | connectionRefused
  | connectionReset
  | crossesDevices
  | deadlock
  | directoryNotEmpty
  | executableFileBusy
  | fileTooLarge
  | filesystemLoop
  | hostUnreachable
  | inProgress
  | inputOutputError
  | interrupted
  | invalidData
  | invalidFilename
  | invalidInput
  | isADirectory
  | networkDown
  | networkUnreachable
  | notADirectory
  | notConnected
  | notFound
  | notSeekable
  | other
  | outOfMemory
  | permissionDenied
  | quotaExceeded
  | readOnlyFilesystem
  | resourceBusy
  | staleNetworkFileHandle
  | storageFull
  | timedOut
  | tooManyLinks
  | tooManyOpenFiles
  | uncategorized
  | unexpectedEof
  | unsupported
  | wouldBlock
  | writeZero
deriving DecidableEq, Repr

namespace Kind

/-- Every kind. -/
def all : List Kind :=
  [.addrInUse, .addrNotAvailable, .alreadyExists, .argumentListTooLong, .brokenPipe,
   .connectionAborted, .connectionRefused, .connectionReset, .crossesDevices, .deadlock,
   .directoryNotEmpty, .executableFileBusy, .fileTooLarge, .filesystemLoop,
   .hostUnreachable, .inProgress, .inputOutputError, .interrupted, .invalidData,
   .invalidFilename, .invalidInput, .isADirectory, .networkDown, .networkUnreachable,
   .notADirectory, .notConnected, .notFound, .notSeekable, .other, .outOfMemory,
   .permissionDenied, .quotaExceeded, .readOnlyFilesystem, .resourceBusy,
   .staleNetworkFileHandle, .storageFull, .timedOut, .tooManyLinks,
   .tooManyOpenFiles, .uncategorized, .unexpectedEof, .unsupported, .wouldBlock, .writeZero]

/-- The name of a kind. -/
def name : Kind → String
  | addrInUse => "AddrInUse"
  | addrNotAvailable => "AddrNotAvailable"
  | alreadyExists => "AlreadyExists"
  | argumentListTooLong => "ArgumentListTooLong"
  | brokenPipe => "BrokenPipe"
  | connectionAborted => "ConnectionAborted"
  | connectionRefused => "ConnectionRefused"
  | connectionReset => "ConnectionReset"
  | crossesDevices => "CrossesDevices"
  | deadlock => "Deadlock"
  | directoryNotEmpty => "DirectoryNotEmpty"
  | executableFileBusy => "ExecutableFileBusy"
  | fileTooLarge => "FileTooLarge"
  | filesystemLoop => "FilesystemLoop"
  | hostUnreachable => "HostUnreachable"
  | inProgress => "InProgress"
  | inputOutputError => "InputOutputError"
  | interrupted => "Interrupted"
  | invalidData => "InvalidData"
  | invalidFilename => "InvalidFilename"
  | invalidInput => "InvalidInput"
  | isADirectory => "IsADirectory"
  | networkDown => "NetworkDown"
  | networkUnreachable => "NetworkUnreachable"
  | notADirectory => "NotADirectory"
  | notConnected => "NotConnected"
  | notFound => "NotFound"
  | notSeekable => "NotSeekable"
  | other => "Other"
  | outOfMemory => "OutOfMemory"
  | permissionDenied => "PermissionDenied"
  | quotaExceeded => "QuotaExceeded"
  | readOnlyFilesystem => "ReadOnlyFilesystem"
  | resourceBusy => "ResourceBusy"
  | staleNetworkFileHandle => "StaleNetworkFileHandle"
  | storageFull => "StorageFull"
  | timedOut => "TimedOut"
  | tooManyLinks => "TooManyLinks"
  | tooManyOpenFiles => "TooManyOpenFiles"
  | uncategorized => "Uncategorized"
  | unexpectedEof => "UnexpectedEof"
  | unsupported => "Unsupported"
  | wouldBlock => "WouldBlock"
  | writeZero => "WriteZero"

/-- The text of an error of which only the kind is known. -/
def describe : Kind → String
  | addrInUse => "address in use"
  | addrNotAvailable => "address not available"
  | alreadyExists => "entity already exists"
  | argumentListTooLong => "argument list too long"
  | brokenPipe => "broken pipe"
  | connectionAborted => "connection aborted"
  | connectionRefused => "connection refused"
  | connectionReset => "connection reset"
  | crossesDevices => "cross-device link or rename"
  | deadlock => "deadlock"
  | directoryNotEmpty => "directory not empty"
  | executableFileBusy => "executable file busy"
  | fileTooLarge => "file too large"
  | filesystemLoop => "filesystem loop or indirection limit (e.g. symlink loop)"
  | hostUnreachable => "host unreachable"
  | inProgress => "in progress"
  | inputOutputError => "input/output error"
  | interrupted => "operation interrupted"
  | invalidData => "invalid data"
  | invalidFilename => "invalid filename"
  | invalidInput => "invalid input parameter"
  | isADirectory => "is a directory"
  | networkDown => "network down"
  | networkUnreachable => "network unreachable"
  | notADirectory => "not a directory"
  | notConnected => "not connected"
  | notFound => "entity not found"
  | notSeekable => "seek on unseekable file"
  | other => "other error"
  | outOfMemory => "out of memory"
  | permissionDenied => "permission denied"
  | quotaExceeded => "quota exceeded"
  | readOnlyFilesystem => "read-only filesystem or storage medium"
  | resourceBusy => "resource busy"
  | staleNetworkFileHandle => "stale network file handle"
  | storageFull => "no storage space"
  | timedOut => "timed out"
  | tooManyLinks => "too many links"
  | tooManyOpenFiles => "too many open files"
  | uncategorized => "uncategorized error"
  | unexpectedEof => "unexpected end of file"
  | unsupported => "unsupported"
  | wouldBlock => "operation would block"
  | writeZero => "write zero"

/-- The kind of that name. -/
def ofName? (s : String) : Option Kind := all.find? fun k => k.name == s

end Kind

end SecureStream.IoError
