import CauseChain.Report.Basic
import CauseChain.Terminal.Stream

/-!
# Layouts and hook code

A layout has the fixed texts around the messages of a rendered report: a banner, what surrounds the
place of the root, and what surrounds the number of each later context.

Two kinds of code can be supplied from outside: an override, which displays the frames whose
payload has a certain type, and a formatter, which lays out whole reports. `Code` is the language
of both, one instruction at a time: write a text, display something of the report, take such a
display as text and go on from it, change the registries, or fail. An override can display its own
payload but no frame as a whole, so no override displays itself for ever.
-/

set_option autoImplicit false

namespace CauseChain

/-! ## Layouts -/

/-- The fixed texts and styles of a rendered report. -/
structure Layout where
  fill : Char
  title : String
  bannerStyle : Style
  location : Brackets
  index : Brackets
  indexStyle : Style
  deriving DecidableEq, Repr

namespace Layout

def unicode : Layout where
  fill := '━'
  title := " Error: "
  bannerStyle := (Style.plain.fg (.rgb 91 0 0)).having .bold
  location := ⟨" [", "]"⟩
  index := ⟨"    ~> #", ": "⟩
  indexStyle := Style.plain.having .bold

def ascii : Layout := { unicode with fill := '=' }

def standard : Layout := unicode

/-- How many fill characters stand on either side of a title of a given length. -/
def fillAround (columns length : Nat) : Nat × Nat :=
  let fill := columns - length
  (fill / 2, fill - fill / 2)

theorem fillAround_sum (columns length : Nat) :
    (fillAround columns length).1 + (fillAround columns length).2 = columns - length := by
  simp only [fillAround]
  omega

end Layout

/-! ## Hook code -/

/-- What a piece of hook code is there for. -/
inductive Role where
  | override
  | formatter
  deriving DecidableEq, Repr

/-- What hook code can display: an override the payload of its frame, through the frame's handler
or by itself; a formatter any frame, any report, and a report in a layout. -/
inductive Subject : Role → Type where
  | handled : Subject .override
  | payload : Subject .override
  | frame (f : Frame) : Subject .formatter
  | report (r : Report) : Subject .formatter
  | layout (l : Layout) (r : Report) (o : Options) : Subject .formatter

/-- A display taken as text: what was written, and whether the display succeeded. -/
structure Captured where
  text : String
  ok : Bool
  deriving DecidableEq, Repr

/-- Hook code of a role. -/
inductive Code : Role → Type where
  | done {r : Role} : Code r
  | fail {r : Role} : Code r
  | write {r : Role} (s : String) (next : Code r) : Code r
  | display {r : Role} (subject : Subject r) (spec : Spec) (next : Code r) : Code r
  | capture {r : Role} (subject : Subject r) (spec : Spec) (next : Captured → Code r) : Code r
  | setOverride {r : Role} (type : String) (override : Frame → Spec → Code .override)
      (next : Code r) : Code r
  | removeOverride {r : Role} (type : String) (next : Bool → Code r) : Code r
  | setLayout {r : Role} (l : Layout) (next : Code r) : Code r
  | setFormatter {r : Role} (format : Report → Options → Spec → Code .formatter)
      (next : Code r) : Code r

/-- What displays the frames with payloads of a certain type: code for each frame and format
specification. -/
abbrev Override := Frame → Spec → Code .override

/-- What lays out reports: a layout, or code for each report, options and format specification. -/
inductive Formatter where
  | layout (l : Layout)
  | code (format : Report → Options → Spec → Code .formatter)

/-- Code that leaves the registries alone and does not ask what they hold. -/
def Code.Inert {r : Role} : Code r → Prop
  | .done => True
  | .fail => True
  | .write _ next => next.Inert
  | .display _ _ next => next.Inert
  | .capture _ _ next => ∀ c, (next c).Inert
  | _ => False

def Override.Inert (o : Override) : Prop := ∀ f spec, (o f spec).Inert

def Code.writeAll {r : Role} (ss : List String) (next : Code r) : Code r :=
  ss.foldr Code.write next

end CauseChain
