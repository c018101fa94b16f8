import CauseChain.Io.OsCode

/-!
# Errors of input and output

An `IoError` has one of four shapes: a code of the system, a bare kind, a kind with a message, or
a kind with a payload of some type `α`. A `HostError` is what the host's own readers and writers
fail with; it has the same shapes, but its kinds are the host's and its message is a fixed text
that cannot be taken out again.
-/

set_option autoImplicit false

namespace CauseChain

/-- An error of input or output, which may carry a payload. -/
inductive IoError (α : Type) where
  | system (code : OsCode)
  | bare (kind : Kind)
  | described (kind : Kind) (message : String)
  | rich (kind : Kind) (payload : α)

/-- An error of the host, which may carry another error. -/
inductive HostError (α : Type) where
  | system (code : OsCode)
  | bare (kind : HostKind)
  | fixed (kind : HostKind) (message : String)
  | rich (kind : HostKind) (inner : α)

namespace IoError
variable {α : Type}

def kind : IoError α → Kind
  | .system c => c.kind
  | .bare k => k
  | .described k _ => k
  | .rich k _ => k

def code? : IoError α → Option OsCode
  | .system c => some c
  | _ => none

def message? : IoError α → Option String
  | .described _ m => some m
  | _ => none

def payload? : IoError α → Option α
  | .rich _ p => some p
  | _ => none

end IoError

namespace HostError
variable {α : Type}

def kind : HostError α → HostKind
  | .system c => c.hostKind
  | .bare k => k
  | .fixed k _ => k
  | .rich k _ => k

def code? : HostError α → Option OsCode
  | .system c => some c
  | _ => none

def inner? : HostError α → Option α
  | .rich _ e => some e
  | _ => none

def endOfInput : HostError α := .fixed (.known .unexpectedEof) "failed to fill whole buffer"

/-- A writer took nothing of what it was handed. -/
def nothingTaken : HostError α := .fixed (.known .writeZero) "failed to write whole buffer"

def badFileName : HostError α :=
  .fixed (.known .invalidInput) "file name contained an unexpected NUL byte"

def notText : HostError α := .fixed (.known .invalidData) "stream did not contain valid UTF-8"

end HostError

end CauseChain
