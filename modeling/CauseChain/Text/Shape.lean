import CauseChain.Text.Transcript

/-!
# Debug shapes

The debug form of text stands between double quotes, with the quote, the backslash and the control
characters escaped. A single character stands between single quotes, and it is the single quote that
is escaped there. As a JSON string, text stands between double quotes too, but only the characters
below the space count as control characters, and they have other escapes.

The debug form of a value is a tree: text as it stands, a tuple or a record. `Shape.print` writes
the tree on one line, or one part per line with four spaces of indent and a comma after each.
-/

set_option autoImplicit false

namespace CauseChain

/-! ## Quoted text -/

namespace Quoted

/-- The control characters: below the space, and from delete to the end of the second block. -/
def isControl (c : Char) : Bool :=
  c.toNat < 0x20 || (0x7f ≤ c.toNat && c.toNat < 0xa0)

def byNumber (c : Char) : String :=
  "\\u\x7b" ++ String.ofList (Nat.toDigits 16 c.toNat) ++ "\x7d"

def escape (quote c : Char) : String :=
  if c = quote || c = '\\' then "\\" ++ c.toString
  else if c = '\n' then "\\n"
  else if c = '\r' then "\\r"
  else if c = '\t' then "\\t"
  else if c = '\x00' then "\\0"
  else if isControl c then byNumber c
  else c.toString

def text (s : String) : String :=
  "\"" ++ String.join (s.toList.map (escape '"')) ++ "\""

def char (c : Char) : String := "'" ++ escape '\'' c ++ "'"

/-- The escape of a character below the space in a JSON string: a letter for the common ones, and
the number in four hexadecimal digits for the others. -/
def jsonControl (c : Char) : String :=
  if c = '\x08' then "\\b"
  else if c = '\t' then "\\t"
  else if c = '\n' then "\\n"
  else if c = '\x0c' then "\\f"
  else if c = '\r' then "\\r"
  else "\\u" ++ String.ofList ((Nat.toDigits 16 c.toNat).leftpad 4 '0')

def jsonEscape (c : Char) : String :=
  if c = '"' || c = '\\' then "\\" ++ c.toString
  else if c.toNat < 0x20 then jsonControl c
  else c.toString

def json (s : String) : String :=
  "\"" ++ String.join (s.toList.map jsonEscape) ++ "\""

end Quoted

/-! ## Trees -/

/-- The debug form of a value. A leaf is what some run wrote. -/
inductive Shape (ε : Type) where
  | leaf (t : Transcript ε)
  | tuple (name : String) (items : List (Shape ε))
  | record (name : String) (fields : List (String × Shape ε))

namespace Shape
variable {ε : Type}

def atom (s : String) : Shape ε := .leaf (.ofText s)

def quoted (s : String) : Shape ε := .atom (Quoted.text s)

def line (t : Transcript ε) : Transcript ε := (t ++ .ofText ",\n").indented

/-- Parts between brackets, on one line or one per line; `gap` stands inside the brackets on
one line. -/
def group (pretty : Bool) (opening gap closing : String) (parts : List (Transcript ε)) :
    Transcript ε :=
  if pretty then
    .ofText (opening ++ "\n") ++ .concat (parts.map line) ++ .ofText closing
  else
    .ofText (opening ++ gap) ++ .concat (parts.intersperse (.ofText ", "))
      ++ .ofText (gap ++ closing)

/-- A name and its items in parentheses; the name alone if there are none. -/
def tupleForm (pretty : Bool) (name : String) (items : List (Transcript ε)) : Transcript ε :=
  if items.isEmpty then .ofText name else group pretty (name ++ "(") "" ")" items

def labelled (field : String × Transcript ε) : Transcript ε :=
  .ofText (field.1 ++ ": ") ++ field.2

/-- A name and its labelled fields in braces; the name alone if there are none. -/
def recordForm (pretty : Bool) (name : String) (fields : List (String × Transcript ε)) :
    Transcript ε :=
  if fields.isEmpty then .ofText name
  else group pretty (name ++ " \x7b") " " "\x7d" (fields.map labelled)

mutual

/-- Writes a debug form, on one line or, if `pretty`, one part per line. -/
def print (pretty : Bool) : Shape ε → Transcript ε
  | .leaf t => t
  | .tuple name items => tupleForm pretty name (printItems pretty items)
  | .record name fields => recordForm pretty name (printFields pretty fields)

def printItems (pretty : Bool) : List (Shape ε) → List (Transcript ε)
  | [] => []
  | s :: rest => s.print pretty :: printItems pretty rest

def printFields (pretty : Bool) : List (String × Shape ε) → List (String × Transcript ε)
  | [] => []
  | (label, s) :: rest => (label, s.print pretty) :: printFields pretty rest

end

end Shape

end CauseChain
