import CauseChain.Io.Error
import CauseChain.Terminal.ColorChoice
import CauseChain.Terminal.Style
import CauseChain.Text.Numeral

/-!
# Values

A `Value` is something that can be carried by a report: text, numbers, the errors of this library
and of its host, and foreign values, of which nothing is known but their type, a label and, unless
they are sealed, how they are displayed. The type of a value is known by its full name.
-/

set_option autoImplicit false

namespace CauseChain

/-- How much a type lets others see of its values: errors and shown values have a display and a
debug form, sealed ones have neither. -/
inductive Nature where
  | error
  | shown
  | sealed
  deriving DecidableEq, Repr

/-- The integer types. -/
inductive IntegerType where
  | u8
  | u16
  | u32
  | u64
  | u128
  | i8
  | i16
  | i32
  | i64
  | i128
  deriving DecidableEq, Repr

namespace IntegerType

def all : List IntegerType := [.u8, .u16, .u32, .u64, .u128, .i8, .i16, .i32, .i64, .i128]

def name : IntegerType → String
  | .u8 => "u8"
  | .u16 => "u16"
  | .u32 => "u32"
  | .u64 => "u64"
  | .u128 => "u128"
  | .i8 => "i8"
  | .i16 => "i16"
  | .i32 => "i32"
  | .i64 => "i64"
  | .i128 => "i128"

def ofName? (s : String) : Option IntegerType := all.find? fun t => t.name == s

end IntegerType

/-- A value of the named type was expected and none was there. -/
structure Missing where
  type : String
  deriving DecidableEq, Repr

namespace Missing

def message (e : Missing) : String :=
  "expected a value of type `" ++ e.type ++ "`, found none"

def shape {ε : Type} (e : Missing) : Shape ε := .record "NoneError" [("type_name", .quoted e.type)]

end Missing

/-- A value of a type that this library does not know. `label` tells the values of a type apart. -/
structure Foreign where
  type : String
  label : String
  nature : Nature := .sealed
  display : Spec → Writing := fun _ => .skip
  shape : Shape Empty := .atom ""

namespace Foreign

/-- A foreign value of which nothing can be seen but its label. -/
def hidden (type label : String) : Foreign := { type := type, label := label }

/-- A foreign value that writes the same under every specification. -/
def steady (nature : Nature) (type label : String) (writing : Writing) (shape : Shape Empty) :
    Foreign :=
  { type := type, label := label, nature := nature, display := fun _ => writing, shape := shape }

end Foreign

/-- Something that a report can carry. -/
inductive Value where
  | literal (s : String)
  | string (s : String)
  | integer (type : IntegerType) (n : Int)
  | bool (b : Bool)
  | char (c : Char)
  | kind (k : Kind)
  | choice (c : ColorChoice)
  | styled (style : Style) (s : String)
  | io (e : IoError Value)
  | code (c : OsCode)
  | missing (e : Missing)
  | unknownChoice (e : UnknownChoice)
  | formatFailure
  | host (e : HostError Value)
  | numeral (fault : NumeralFault)
  | foreign (f : Foreign)

namespace TypeName

def literal : String := "&str"

def string : String := "alloc::string::String"

def bool : String := "bool"

def char : String := "char"

def kind : String := "violet::io::error_kind::ErrorKind"

def choice : String := "violet::terminal::ColorChoice"

def styled : String := "violet::terminal::style::Styled<alloc::string::String>"

def io : String := "violet::io::error::IoError"

def code : String := "violet::io::platform::PlatformError"

def missing : String := "violet::option_ext::NoneError"

def unknownChoice : String := "violet::terminal::ParseColorChoiceError"

def formatFailure : String := "core::fmt::Error"

def host : String := "core::io::error::Error"

def numeral : String := "core::num::error::ParseIntError"

def report : String := "violet::report::owned::Report"

/-- The placeholder for a value of a named type; the fingerprint of the type differs from one
build to the next and stands as a word. -/
def placeholder (name : String) : String := "<type " ++ name ++ "@HASH>"

end TypeName

namespace Value

def typeName : Value → String
  | .literal _ => TypeName.literal
  | .string _ => TypeName.string
  | .integer t _ => t.name
  | .bool _ => TypeName.bool
  | .char _ => TypeName.char
  | .kind _ => TypeName.kind
  | .choice _ => TypeName.choice
  | .styled _ _ => TypeName.styled
  | .io _ => TypeName.io
  | .code _ => TypeName.code
  | .missing _ => TypeName.missing
  | .unknownChoice _ => TypeName.unknownChoice
  | .formatFailure => TypeName.formatFailure
  | .host _ => TypeName.host
  | .numeral _ => TypeName.numeral
  | .foreign f => f.type

def nature : Value → Nature
  | .literal _ => .shown
  | .string _ => .shown
  | .integer _ _ => .shown
  | .bool _ => .shown
  | .char _ => .shown
  | .kind _ => .shown
  | .choice _ => .shown
  | .styled _ _ => .shown
  | .io _ => .error
  | .code _ => .error
  | .missing _ => .error
  | .unknownChoice _ => .error
  | .formatFailure => .error
  | .host _ => .error
  | .numeral _ => .error
  | .foreign f => f.nature

end Value

end CauseChain
