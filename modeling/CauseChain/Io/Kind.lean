/-!
# Kinds of input and output failure

`Kind` is the portable category of a failure and `HostKind` the category that the host's own
errors carry. The host knows every portable kind by name and three more: `inputOutput`, for a
device that failed, `tooManyOpenFiles` and `uncategorized`. All three are `other` to us. Two
portable kinds have no counterpart that the host lets a caller rely on, a loop in the filesystem
and an operation in progress: they pass for `other` in either direction.
-/

set_option autoImplicit false

namespace CauseChain

/-- A portable category of input and output failures. -/
inductive Kind where
  | notFound
  | permissionDenied
  | alreadyExists
  | invalidInput
  | invalidData
  | invalidFilename
  | isADirectory
  | notADirectory
  | directoryNotEmpty
  | readOnlyFilesystem
  | filesystemLoop
  | storageFull
  | fileTooLarge
  | tooManyLinks
  | quotaExceeded
  | resourceBusy
  | executableFileBusy
  | crossesDevices
  | staleNetworkFileHandle
  | brokenPipe
  | interrupted
  | wouldBlock
  | inProgress
  | timedOut
  | addrInUse
  | addrNotAvailable
  | connectionAborted
  | connectionRefused
  | connectionReset
  | notConnected
  | networkDown
  | networkUnreachable
  | hostUnreachable
  | argumentListTooLong
  | deadlock
  | outOfMemory
  | notSeekable
  | unsupported
  | writeZero
  | unexpectedEof
  | other
  deriving DecidableEq, Repr

namespace Kind

def all : List Kind := [
  .notFound, .permissionDenied, .alreadyExists, .invalidInput, .invalidData, .invalidFilename,
  .isADirectory, .notADirectory, .directoryNotEmpty, .readOnlyFilesystem, .filesystemLoop,
  .storageFull, .fileTooLarge, .tooManyLinks, .quotaExceeded, .resourceBusy, .executableFileBusy,
  .crossesDevices, .staleNetworkFileHandle, .brokenPipe, .interrupted, .wouldBlock, .inProgress,
  .timedOut, .addrInUse, .addrNotAvailable, .connectionAborted, .connectionRefused,
  .connectionReset, .notConnected, .networkDown, .networkUnreachable, .hostUnreachable,
  .argumentListTooLong, .deadlock, .outOfMemory, .notSeekable, .unsupported, .writeZero,
  .unexpectedEof, .other]

def name : Kind → String
  | .notFound => "NotFound"
  | .permissionDenied => "PermissionDenied"
  | .alreadyExists => "AlreadyExists"
  | .invalidInput => "InvalidInput"
  | .invalidData => "InvalidData"
  | .invalidFilename => "InvalidFilename"
  | .isADirectory => "IsADirectory"
  | .notADirectory => "NotADirectory"
  | .directoryNotEmpty => "DirectoryNotEmpty"
  | .readOnlyFilesystem => "ReadOnlyFilesystem"
  | .filesystemLoop => "FilesystemLoop"
  | .storageFull => "StorageFull"
  | .fileTooLarge => "FileTooLarge"
  | .tooManyLinks => "TooManyLinks"
  | .quotaExceeded => "QuotaExceeded"
  | .resourceBusy => "ResourceBusy"
  | .executableFileBusy => "ExecutableFileBusy"
  | .crossesDevices => "CrossesDevices"
  | .staleNetworkFileHandle => "StaleNetworkFileHandle"
  | .brokenPipe => "BrokenPipe"
  | .interrupted => "Interrupted"
  | .wouldBlock => "WouldBlock"
  | .inProgress => "InProgress"
  | .timedOut => "TimedOut"
  | .addrInUse => "AddrInUse"
  | .addrNotAvailable => "AddrNotAvailable"
  | .connectionAborted => "ConnectionAborted"
  | .connectionRefused => "ConnectionRefused"
  | .connectionReset => "ConnectionReset"
  | .notConnected => "NotConnected"
  | .networkDown => "NetworkDown"
  | .networkUnreachable => "NetworkUnreachable"
  | .hostUnreachable => "HostUnreachable"
  | .argumentListTooLong => "ArgumentListTooLong"
  | .deadlock => "Deadlock"
  | .outOfMemory => "OutOfMemory"
  | .notSeekable => "NotSeekable"
  | .unsupported => "Unsupported"
  | .writeZero => "WriteZero"
  | .unexpectedEof => "UnexpectedEof"
  | .other => "Other"

def text : Kind → String
  | .notFound => "entity not found"
  | .permissionDenied => "permission denied"
  | .alreadyExists => "entity already exists"
  | .invalidInput => "invalid input parameter"
  | .invalidData => "invalid data"
  | .invalidFilename => "invalid filename"
  | .isADirectory => "is a directory"
  | .notADirectory => "not a directory"
  | .directoryNotEmpty => "directory not empty"
  | .readOnlyFilesystem => "read-only filesystem or storage medium"
  | .filesystemLoop => "filesystem loop or indirection limit (e.g. symlink loop)"
  | .storageFull => "no storage space"
  | .fileTooLarge => "file too large"
  | .tooManyLinks => "too many links"
  | .quotaExceeded => "quota exceeded"
  | .resourceBusy => "resource busy"
  | .executableFileBusy => "executable file busy"
  | .crossesDevices => "cross-device link or rename"
  | .staleNetworkFileHandle => "stale network file handle"
  | .brokenPipe => "broken pipe"
  | .interrupted => "operation interrupted"
  | .wouldBlock => "operation would block"
  | .inProgress => "in progress"
  | .timedOut => "timed out"
  | .addrInUse => "address in use"
  | .addrNotAvailable => "address not available"
  | .connectionAborted => "connection aborted"
  | .connectionRefused => "connection refused"
  | .connectionReset => "connection reset"
  | .notConnected => "not connected"
  | .networkDown => "network down"
  | .networkUnreachable => "network unreachable"
  | .hostUnreachable => "host unreachable"
  | .argumentListTooLong => "argument list too long"
  | .deadlock => "deadlock"
  | .outOfMemory => "out of memory"
  | .notSeekable => "seek on unseekable file"
  | .unsupported => "unsupported"
  | .writeZero => "write zero"
  | .unexpectedEof => "unexpected end of file"
  | .other => "other error"

def index (k : Kind) : Nat := k.ctorIdx

def ofName? (s : String) : Option Kind := all.find? fun k => k.name == s

instance : Ord Kind where compare a b := compare a.index b.index

def insertSorted (k : Kind) : List Kind → List Kind
  | [] => [k]
  | x :: rest =>
    match compare k x with
    | .lt => k :: x :: rest
    | .eq => x :: rest
    | .gt => x :: insertSorted k rest

def sorted (ks : List Kind) : List Kind := ks.foldr insertSorted []

def least? (ks : List Kind) : Option Kind := (sorted ks).head?

end Kind

/-- The category that an error of the host carries. -/
inductive HostKind where
  | known (kind : Kind)
  | inputOutput
  | tooManyOpenFiles
  | uncategorized
  deriving DecidableEq, Repr

namespace HostKind

def name : HostKind → String
  | .known k => k.name
  | .inputOutput => "InputOutputError"
  | .tooManyOpenFiles => "TooManyOpenFiles"
  | .uncategorized => "Uncategorized"

def text : HostKind → String
  | .known k => k.text
  | .inputOutput => "input/output error"
  | .tooManyOpenFiles => "too many open files"
  | .uncategorized => "uncategorized error"

def ofName? (s : String) : Option HostKind :=
  match s with
  | "InputOutputError" => some .inputOutput
  | "TooManyOpenFiles" => some .tooManyOpenFiles
  | "Uncategorized" => some .uncategorized
  | _ => (Kind.ofName? s).map .known

end HostKind

def Kind.toHost : Kind → HostKind
  | .filesystemLoop => .known .other
  | .inProgress => .known .other
  | k => .known k

def HostKind.portable : HostKind → Kind
  | .known .filesystemLoop => .other
  | .known .inProgress => .other
  | .known k => k
  | .inputOutput => .other
  | .tooManyOpenFiles => .other
  | .uncategorized => .other

/-- Once a kind has been to the host and back, the trip changes nothing more. -/
theorem HostKind.toHost_portable_toHost (k : Kind) :
    k.toHost.portable.toHost = k.toHost := by
  cases k <;> rfl

end CauseChain
