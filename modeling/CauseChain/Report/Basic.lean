import CauseChain.Value.Basic

/-!
# Reports

A report is a chain of frames, the latest first. A frame carries a payload, the handler that
displays it and the place where it was made. A payload is a value or, again, a whole report. New
frames go on top; a report can also be set under another one, and then all frames of the other
read as later context. The last frame of a chain is its root.
-/

set_option autoImplicit false

namespace CauseChain

/-- A place in a program text. -/
structure Location where
  file : String
  line : Nat
  column : Nat
  deriving DecidableEq, Repr

namespace Location

def text (l : Location) : String :=
  l.file ++ ":" ++ toString l.line ++ ":" ++ toString l.column

def shape {ε : Type} (l : Location) : Shape ε :=
  .record "Location" [
    ("file", .quoted l.file),
    ("line", .atom (toString l.line)),
    ("column", .atom (toString l.column))]

end Location

/-- A handler that takes the plain text of a payload whole and displays a text of its own in its
place. The debug form stays that of the payload, on one line and between two fixed texts. -/
structure Rewording where
  name : String
  display : String → String
  debugBefore : String
  debugAfter : String

/-- Decides how the payload of a frame is displayed: as an error, as a value with a display, by
the name of its type alone, or in other words. -/
inductive Handler where
  | error
  | display
  | any
  | reworded (r : Rewording)

namespace Handler

def name : Handler → String
  | .error => "Error"
  | .display => "Display"
  | .any => "Any"
  | .reworded r => r.name

/-- The first handler that suits values of a nature. -/
def preferred : Nature → Handler
  | .error => .error
  | .shown => .display
  | .sealed => .any

end Handler

/-- A frame over payloads of a given type. -/
structure FrameOf (α : Type) where
  payload : α
  handler : Handler
  location : Location

/-- What a frame carries: a value, or the chain of a report. -/
inductive Payload where
  | value (v : Value)
  | report (chain : List (FrameOf Payload))

/-- One frame of a report. -/
abbrev Frame := FrameOf Payload

/-- A chain of frames, the latest first. -/
structure Report where
  frames : List Frame

namespace Payload

def typeName : Payload → String
  | .value v => v.typeName
  | .report _ => TypeName.report

def nature : Payload → Nature
  | .value v => v.nature
  | .report _ => .shown

def value? : Payload → Option Value
  | .value v => some v
  | .report _ => none

variable {M : Payload → Prop}

mutual

/-- What holds of values, and of a report whenever it holds of the payloads of its frames, holds of
every payload. -/
theorem induct (value : ∀ v, M (.value v))
    (report : ∀ chain : List Frame, (∀ f ∈ chain, M f.payload) → M (.report chain)) :
    ∀ p : Payload, M p
  | .value v => value v
  | .report chain => report chain (induct_chain value report chain)

theorem induct_chain (value : ∀ v, M (.value v))
    (report : ∀ chain : List Frame, (∀ f ∈ chain, M f.payload) → M (.report chain)) :
    ∀ chain : List (FrameOf Payload), ∀ f ∈ chain, M f.payload
  | [], _, hf => absurd hf List.not_mem_nil
  | ⟨p, handler, l⟩ :: below, f, hf => by
    rcases List.mem_cons.mp hf with rfl | hbelow
    · exact induct value report p
    · exact induct_chain value report below f hbelow

end

end Payload

namespace FrameOf

def typeName (f : Frame) : String := f.payload.typeName

def holds (f : Frame) (type : String) : Bool := f.typeName == type

end FrameOf

namespace Report

def empty : Report := ⟨[]⟩

def single (f : Frame) : Report := ⟨[f]⟩

def push (r : Report) (f : Frame) : Report := ⟨f :: r.frames⟩

def payload (r : Report) : Payload := .report r.frames

def isEmpty (r : Report) : Bool := r.frames.isEmpty

def count (r : Report) : Nat := r.frames.length

def current? (r : Report) : Option Frame := r.frames.head?

def root? (r : Report) : Option Frame := r.frames.getLast?

/-- The latest frame with a payload of the named type. -/
def find? (r : Report) (type : String) : Option Frame := r.frames.find? fun f => f.holds type

def current?As (r : Report) (type : String) : Option Frame :=
  r.current?.filter fun f => f.holds type

def root?As (r : Report) (type : String) : Option Frame := r.root?.filter fun f => f.holds type

/-! ## What the operations do to the frames -/

@[simp] theorem frames_empty : empty.frames = [] := rfl

@[simp] theorem frames_single (f : Frame) : (single f).frames = [f] := rfl

@[simp] theorem frames_push (r : Report) (f : Frame) : (r.push f).frames = f :: r.frames := rfl

theorem ext_frames {r s : Report} (h : r.frames = s.frames) : r = s := by
  cases r
  cases s
  exact congrArg Report.mk h

end Report

end CauseChain
