import CauseChain.Io.Kind
import CauseChain.Io.SystemMessage
import CauseChain.Text.Shape

/-!
# System error codes

An `OsCode` is the number with which a failing system call says what went wrong. A fixed table
sorts codes into kinds. A code outside it counts as `other` here and as `uncategorized` for the
host, but for a few codes that the host alone has kinds for. A system without a table of its own
knows the code and nothing more.
-/

set_option autoImplicit false

namespace CauseChain

/-- An error code of the system. -/
structure OsCode where
  raw : Int
  deriving DecidableEq, Repr

namespace OsCode

def kinds : List (Int × Kind) := [
  (1, .permissionDenied),
  (2, .notFound),
  (4, .interrupted),
  (7, .argumentListTooLong),
  (11, .wouldBlock),
  (12, .outOfMemory),
  (13, .permissionDenied),
  (16, .resourceBusy),
  (17, .alreadyExists),
  (18, .crossesDevices),
  (20, .notADirectory),
  (21, .isADirectory),
  (22, .invalidInput),
  (26, .executableFileBusy),
  (27, .fileTooLarge),
  (28, .storageFull),
  (29, .notSeekable),
  (30, .readOnlyFilesystem),
  (31, .tooManyLinks),
  (32, .brokenPipe),
  (35, .deadlock),
  (36, .invalidFilename),
  (38, .unsupported),
  (39, .directoryNotEmpty),
  (40, .filesystemLoop),
  (95, .unsupported),
  (98, .addrInUse),
  (99, .addrNotAvailable),
  (100, .networkDown),
  (101, .networkUnreachable),
  (103, .connectionAborted),
  (104, .connectionReset),
  (107, .notConnected),
  (110, .timedOut),
  (111, .connectionRefused),
  (113, .hostUnreachable),
  (115, .inProgress),
  (116, .staleNetworkFileHandle),
  (122, .quotaExceeded)]

def tabled? (c : OsCode) : Option Kind := kinds.lookup c.raw

def kind (c : OsCode) : Kind := c.tabled?.getD .other

def hostOnlyKinds : List (Int × HostKind) := [
  (5, .inputOutput),
  (23, .tooManyOpenFiles),
  (24, .tooManyOpenFiles)]

def hostKind (c : OsCode) : HostKind :=
  match c.tabled? with
  | some k => .known k
  | none => (hostOnlyKinds.lookup c.raw).getD .uncategorized

def describe (c : OsCode) : String :=
  (systemMessage? c.raw).getD s!"unknown error {c.raw}"

def hostText (c : OsCode) : String :=
  (systemMessage? c.raw).getD s!"Unknown error {c.raw}"

def hostMessage (c : OsCode) : String := s!"{c.hostText} (os error {c.raw})"

/-- A code is displayed as its description, whatever the specification asks. -/
def display {ε : Type} (c : OsCode) : Transcript ε := .ofText c.describe

def shape {ε : Type} (c : OsCode) : Shape ε :=
  .record "PlatformError" [
    ("code", .atom (toString c.raw)),
    ("kind", .atom c.kind.name),
    ("message", .quoted c.describe)]

/-- The code left behind by the last system call; zero means that none has failed. -/
def captured? (code : Int) : Option OsCode := if code = 0 then none else some ⟨code⟩

/-- The message for capturing a code when no system call has failed. -/
def nothingCaptured : String :=
  "assertion `left != right` failed: no operating system error to capture\n  left: 0\n right: 0"

/-- The kind of a code on a system without a table. -/
def untabledKind (_ : OsCode) : Kind := .other

/-- The description of a code on a system without messages. -/
def untabledText (c : OsCode) : String := s!"unknown error {c.raw}"

end OsCode

end CauseChain
