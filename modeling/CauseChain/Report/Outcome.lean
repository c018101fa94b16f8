import CauseChain.Report.Basic

/-!
# Messages and outcomes

A computation ends with a value or with a report. What ended otherwise, with an error of its own
or with nothing where a value was expected, is turned into a report by the first layer put on it;
a report stays the report it is. A layer may add one frame of context, and none does anything to a
value, not even make its context.

A message is fixed text with numbers in it. As the payload of a frame it is text that is part of
the program if it is all fixed, and text made at run time otherwise.
-/

set_option autoImplicit false

namespace CauseChain

/-! ## Messages -/

/-- A part of a message: fixed text, a number under a format specification, or the hexadecimal
digits of a number of 64 bits. -/
inductive MessagePart where
  | fixed (s : String)
  | number (spec : Spec) (n : Int)
  | hexadecimal (n : Int)

namespace MessagePart

def text : MessagePart → String
  | .fixed s => s
  | .number spec n => String.join (spec.fitInt n)
  | .hexadecimal n => "0x" ++ String.ofList (Nat.toDigits 16 (BitVec.ofInt 64 n).toNat)

def isFixed : MessagePart → Bool
  | .fixed _ => true
  | _ => false

end MessagePart

/-- Fixed text with numbers in it. -/
abbrev Message := List MessagePart

namespace Message

def text (m : Message) : String := String.join (m.map MessagePart.text)

def value (m : Message) : Value :=
  if m.all MessagePart.isFixed then .literal m.text else .string m.text

end Message

namespace Report

/-- A report of one value, with the first handler that suits it. -/
def ofValue (v : Value) (l : Location) : Report :=
  .single ⟨.value v, .preferred v.nature, l⟩

def ofError (e : Value) (l : Location) : Report := .single ⟨.value e, .error, l⟩

end Report

/-! ## Outcomes -/

/-- A value or a report. -/
abbrev Outcome := Except Report Value

/-- How a computation ended before any layer was put on it. -/
inductive Start where
  | value (v : Value)
  | error (e : Value)
  | report (r : Report)
  | nothing (type : String)

namespace Start

/-- The end of a computation as an outcome; what becomes a report does so at the given place. -/
def outcome (l : Location) : Start → Outcome
  | .value v => .ok v
  | .error e => .error (.ofError e l)
  | .report r => .error r
  | .nothing type => .error (.ofError (.missing ⟨type⟩) l)

def ofOutcome : Outcome → Start
  | .ok v => .value v
  | .error r => .report r

end Start

/-- How a layer comes by its context and has it displayed: it is at hand or made only when it is
needed, displayed as a value with a display, or it is at hand and displayed by a handler of
choice. -/
inductive Manner where
  | eager
  | lazy
  | custom (handler : Handler)

namespace Manner

def handler : Manner → Handler
  | .eager => .display
  | .lazy => .display
  | .custom h => h

def isLazy : Manner → Bool
  | .lazy => true
  | _ => false

end Manner

/-- A context that a layer would add, given in some form. -/
structure Addition (α : Type) where
  manner : Manner
  context : α

/-- A layer: its place and the context that it would add, if it is one that adds any. -/
structure Layer where
  addition : Option (Addition Payload)
  location : Location

/-- What came of a layer: the outcome, whether a context was made for it, and the context that was
not used. -/
structure Layered where
  outcome : Outcome
  called : Bool := false
  unused : Option Payload := none

namespace Layer

def apply (layer : Layer) (start : Start) : Layered :=
  match start.outcome layer.location, layer.addition with
  | .error r, some a =>
    { outcome := .error (r.push ⟨a.context, a.manner.handler, layer.location⟩)
      called := a.manner.isLazy }
  | outcome, a => { outcome := outcome, unused := a.map Addition.context }

/-- Puts layers on, the first one first, and says what came of each. -/
def applyAll (start : Start) : List Layer → Start × List Layered
  | [] => (start, [])
  | layer :: rest =>
    let layered := layer.apply start
    let (last, later) := applyAll (.ofOutcome layered.outcome) rest
    (last, layered :: later)

end Layer

end CauseChain
