import CauseChain.Io.OsCode
import CauseChain.Terminal.ColorChoice
import CauseChain.Terminal.ColorLevel

/-!
# Environments, streams and layout options

The variables of a process have values of arbitrary bytes. A value that is not well-formed text
counts as absent wherever text is asked for, and still as present wherever its bytes are.

What a report has to know of the stream it is printed on: whether it may use color, and how wide
it is. The color choice and `NO_COLOR` decide first, and only an automatic choice looks at the
terminal.
-/

set_option autoImplicit false

namespace CauseChain

/-! ## Environments -/

/-- The variables that are set; a later setting of a name stands before an earlier one. -/
structure Environment where
  settings : List (String × ByteArray) := []

namespace Environment

def empty : Environment := {}

def set (env : Environment) (name : String) (value : ByteArray) : Environment :=
  { settings := (name, value) :: env.settings }

def bytes? (env : Environment) (name : String) : Option ByteArray := env.settings.lookup name

def text? (env : Environment) (name : String) : Option String :=
  (env.bytes? name).bind String.fromUTF8?

end Environment

/-! ## Streams -/

/-- The size of a terminal window in character cells. -/
structure Window where
  columns : Nat
  rows : Nat
  deriving DecidableEq, Repr

/-- What the system says of a stream: whether it is a terminal, and the size of its window or the
code with which the query failed. -/
structure StreamState where
  isTerminal : Bool
  window : Except OsCode Window

namespace StreamState

def file : StreamState := { isTerminal := false, window := .error ⟨25⟩ }

def terminal (window : Window) : StreamState := { isTerminal := true, window := .ok window }

end StreamState

def usesColor (choice : ColorChoice) (env : Environment) (stream : StreamState) : Bool :=
  let refused := (env.bytes? "NO_COLOR").any fun bytes => !bytes.isEmpty
  match choice with
  | .never => false
  | .always => !refused
  | .auto => !refused && (ColorLevel.ofStream env.text? stream.isTerminal).basic

/-- How a report is laid out. -/
structure Options where
  colors : Bool
  columns : Nat
  deriving DecidableEq, Repr

namespace Options

def fallbackColumns : Nat := 80

def plain : Options := { colors := false, columns := fallbackColumns }

/-- The width that a window query gives; a failed query and a window without columns count for
nothing. -/
def columnsOf : Except OsCode Window → Nat
  | .ok window => if 0 < window.columns then window.columns else fallbackColumns
  | .error _ => fallbackColumns

def ofStream (choice : ColorChoice) (env : Environment) (stream : StreamState) : Options :=
  { colors := usesColor choice env stream, columns := columnsOf stream.window }

def shape {ε : Type} (o : Options) : Shape ε :=
  .record "FormattingOptions" [
    ("colors", .atom (toString o.colors)),
    ("columns", .atom (toString o.columns))]

theorem columnsOf_pos (w : Except OsCode Window) : 0 < columnsOf w := by
  cases w with
  | error e => simp [columnsOf, fallbackColumns]
  | ok window =>
    by_cases h : 0 < window.columns
    · simp [columnsOf, h]
    · simp [columnsOf, h, fallbackColumns]

end Options

end CauseChain
