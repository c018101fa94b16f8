import CauseChain.Value.Basic

/-!
# The display and the debug form of a value

Text, truth values, characters, integers and the fixed messages of the host obey the format
specification they are displayed under; all other values write their text as it is. A host's error
hands the specification on to the error inside it, and an `IoError` shows its payload plainly.
A display fails only where a foreign value's does. Every value has a debug form, in which text is
quoted and errors show what they are made of.
-/

set_option autoImplicit false

namespace CauseChain

/-! ## Displays -/

def fitted {ε : Type} (spec : Spec) (s : String) : Transcript ε := .ofTexts (spec.fit s)

theorem text_fitted {ε : Type} {spec : Spec} (unsized : spec.Unsized) (s : String) :
    (fitted spec s : Transcript ε).text = s := by
  rw [fitted, Spec.fit_of_unsized unsized, Transcript.text_ofTexts]
  simp

def IoError.heading {α : Type} : IoError α → List String
  | .system c => ["I/O error (system error «", toString c.raw, "»): ", c.describe]
  | .bare k => ["I/O error: ", k.text]
  | .described k m => ["I/O error (", k.text, "): ", m]
  | .rich k _ => ["I/O error (", k.text, "): "]

namespace Value

def display {ε : Type} : Value → Spec → Transcript ε
  | .literal s, spec => fitted spec s
  | .string s, spec => fitted spec s
  | .integer _ n, spec => .ofTexts (spec.fitInt n)
  | .bool b, spec => fitted spec (toString b)
  | .char c, spec => fitted spec c.toString
  | .kind k, _ => .ofText k.text
  | .choice c, _ => .ofText c.text
  | .styled style s, spec => style.paint (fitted spec s)
  | .io (.rich k p), _ => .ofTexts (IoError.rich k p).heading ++ p.display .plain
  | .io e, _ => .ofTexts e.heading
  | .code c, _ => c.display
  | .missing e, _ => .ofText e.message
  | .unknownChoice e, _ => .ofText e.message
  | .formatFailure, spec => fitted spec "an error occurred when formatting an argument"
  | .host (.system c), _ => .ofText c.hostMessage
  | .host (.bare k), _ => .ofText k.text
  | .host (.fixed _ m), spec => fitted spec m
  | .host (.rich _ inner), spec => inner.display spec
  | .numeral fault, spec => fitted spec fault.message
  | .foreign f, spec =>
    match f.nature with
    | .sealed => .ofText (TypeName.placeholder f.type)
    | _ => (f.display spec).lift

/-- The text of a value under the plain specification, if its display succeeds. -/
def text? (v : Value) : Option String := (v.display .plain : Writing).text?

theorem marks_display {ε : Type} (v : Value) (spec : Spec) :
    (v.display spec : Transcript ε).marks = [] := by
  fun_induction display v spec with
  | case9 k p spec ih =>
    exact Transcript.marks_append_eq_nil (Transcript.marks_ofTexts _) ih
  | case11 c => exact Transcript.marks_ofText _
  | case18 kind inner spec ih => exact ih
  | _ => simp [fitted, Style.marks_paint]

end Value

/-! ## Debug forms -/

namespace Shape

mutual

def lift {ε : Type} : Shape Empty → Shape ε
  | .leaf t => .leaf t.lift
  | .tuple name items => .tuple name (liftItems items)
  | .record name fields => .record name (liftFields fields)

def liftItems {ε : Type} : List (Shape Empty) → List (Shape ε)
  | [] => []
  | s :: rest => s.lift :: liftItems rest

def liftFields {ε : Type} : List (String × Shape Empty) → List (String × Shape ε)
  | [] => []
  | (label, s) :: rest => (label, s.lift) :: liftFields rest

end

end Shape

namespace Value

def shape {ε : Type} : Value → Shape ε
  | .literal s => .quoted s
  | .string s => .quoted s
  | .integer _ n => .atom (toString n)
  | .bool b => .atom (toString b)
  | .char c => .atom (Quoted.char c)
  | .kind k => .atom k.name
  | .choice c => .atom c.name
  | .styled style s => .record "Styled" [("style", style.shape), ("value", .quoted s)]
  | .io (.system c) => c.shape
  | .io (.bare k) => .tuple "Kind" [.atom k.name]
  | .io (.described k m) => .record "Error" [("kind", .atom k.name), ("message", .quoted m)]
  | .io (.rich k p) => .record "Custom" [("kind", .atom k.name), ("payload", p.shape)]
  | .code c => c.shape
  | .missing e => e.shape
  | .unknownChoice e => e.shape
  | .formatFailure => .atom "Error"
  | .host (.system c) =>
    .record "Os" [
      ("code", .atom (toString c.raw)),
      ("kind", .atom c.hostKind.name),
      ("message", .quoted c.hostText)]
  | .host (.bare k) => .tuple "Kind" [.atom k.name]
  | .host (.fixed k m) => .record "Error" [("kind", .atom k.name), ("message", .quoted m)]
  | .host (.rich k inner) => .record "Custom" [("kind", .atom k.name), ("error", inner.shape)]
  | .numeral fault => .record "ParseIntError" [("kind", .atom fault.name)]
  | .foreign f =>
    match f.nature with
    | .sealed => .atom (TypeName.placeholder f.type)
    | _ => f.shape.lift

def debug {ε : Type} (v : Value) (pretty : Bool) : Transcript ε := v.shape.print pretty

end Value

end CauseChain
