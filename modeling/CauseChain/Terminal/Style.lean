import CauseChain.Text.Shape

/-!
# Styles

A style is a set of text attributes and at most one color, on the foreground or the background.
It is written as a list of SGR sequences, one per attribute in a fixed order and then one for the
color, and taken back by a reset after the styled text. A plain style writes nothing at all. Each
sequence is written in several pieces, and the reset in one.
-/

set_option autoImplicit false

namespace CauseChain

/-- The texts on either side of a part. -/
structure Brackets where
  before : String
  after : String
  deriving DecidableEq, Repr

/-- A terminal color: one of the sixteen named ones, or a mixture of red, green and blue. -/
inductive Color where
  | black
  | red
  | green
  | yellow
  | blue
  | magenta
  | cyan
  | white
  | brightBlack
  | brightRed
  | brightGreen
  | brightYellow
  | brightBlue
  | brightMagenta
  | brightCyan
  | brightWhite
  | rgb (red green blue : UInt8)
  deriving DecidableEq, Repr

/-- What a color is given to. -/
inductive Ground where
  | foreground
  | background
  deriving DecidableEq, Repr

namespace Color

/-- The named colors, normal ones first. -/
def named : List Color := [
  .black, .red, .green, .yellow, .blue, .magenta, .cyan, .white,
  .brightBlack, .brightRed, .brightGreen, .brightYellow, .brightBlue, .brightMagenta,
  .brightCyan, .brightWhite]

/-- The name of a color; a mixture shows its parts. -/
def name : Color → String
  | .black => "Black"
  | .red => "Red"
  | .green => "Green"
  | .yellow => "Yellow"
  | .blue => "Blue"
  | .magenta => "Magenta"
  | .cyan => "Cyan"
  | .white => "White"
  | .brightBlack => "BrightBlack"
  | .brightRed => "BrightRed"
  | .brightGreen => "BrightGreen"
  | .brightYellow => "BrightYellow"
  | .brightBlue => "BrightBlue"
  | .brightMagenta => "BrightMagenta"
  | .brightCyan => "BrightCyan"
  | .brightWhite => "BrightWhite"
  | .rgb _ _ _ => "Rgb"

def ofName? (s : String) : Option Color := named.find? fun c => c.name == s

def shape {ε : Type} : Color → Shape ε
  | .rgb r g b => .tuple "Rgb" [.atom (toString r), .atom (toString g), .atom (toString b)]
  | c => .atom c.name

def parameters (ground : Ground) : Color → List Nat
  | .rgb r g b =>
    let selector := match ground with
      | .foreground => 38
      | .background => 48
    [selector, 2, r.toNat, g.toNat, b.toNat]
  | c =>
    let (normal, bright) := match ground with
      | .foreground => (30, 90)
      | .background => (40, 100)
    [if c.ctorIdx < 8 then normal + c.ctorIdx else bright + (c.ctorIdx - 8)]

/-- The parameters of a color in the pieces in which they are written. -/
def pieces (ground : Ground) : Color → List String
  | .rgb r g b =>
    let selector := match ground with
      | .foreground => "38"
      | .background => "48"
    [selector, ";2;", toString r, ";", toString g, ";", toString b]
  | c => (c.parameters ground).map toString

theorem join_pieces (ground : Ground) (c : Color) :
    String.join (c.pieces ground) = String.intercalate ";" ((c.parameters ground).map toString) := by
  cases c with
  | rgb r g b => cases ground <;> simp [pieces, parameters, String.append_assoc] <;> rfl
  | _ => simp [pieces, parameters]

end Color

inductive Attribute where
  | bold
  | dim
  | italic
  | underline
  | inverse
  | strikethrough
  deriving DecidableEq, Repr

namespace Attribute

def all : List Attribute := [.bold, .dim, .italic, .underline, .inverse, .strikethrough]

def parameter : Attribute → Nat
  | .bold => 1
  | .dim => 2
  | .italic => 3
  | .underline => 4
  | .inverse => 7
  | .strikethrough => 9

theorem mem_all (a : Attribute) : a ∈ all := by cases a <;> decide

end Attribute

structure Attributes where
  bold : Bool := false
  dim : Bool := false
  italic : Bool := false
  underline : Bool := false
  inverse : Bool := false
  strikethrough : Bool := false
  deriving DecidableEq, Repr

namespace Attributes

def none : Attributes := {}

def has (s : Attributes) : Attribute → Bool
  | .bold => s.bold
  | .dim => s.dim
  | .italic => s.italic
  | .underline => s.underline
  | .inverse => s.inverse
  | .strikethrough => s.strikethrough

def add (s : Attributes) : Attribute → Attributes
  | .bold => { s with bold := true }
  | .dim => { s with dim := true }
  | .italic => { s with italic := true }
  | .underline => { s with underline := true }
  | .inverse => { s with inverse := true }
  | .strikethrough => { s with strikethrough := true }

/-- The attributes of the set, in the order in which they are written. -/
def toList (s : Attributes) : List Attribute := Attribute.all.filter s.has

/-- The set as a number, one bit for each attribute from the lowest up. -/
def mask (s : Attributes) : Nat :=
  s.toList.foldl (fun n a => n + 1 <<< a.ctorIdx) 0

@[simp] theorem has_add (s : Attributes) (a b : Attribute) :
    (s.add a).has b = (decide (a = b) || s.has b) := by
  cases a <;> cases b <;> rfl

theorem ext_has {s t : Attributes} (h : ∀ a, s.has a = t.has a) : s = t := by
  cases s
  cases t
  have hb := h .bold
  have hd := h .dim
  have hi := h .italic
  have hu := h .underline
  have hv := h .inverse
  have hs := h .strikethrough
  simp_all [has]

@[simp] theorem mem_toList (s : Attributes) (a : Attribute) : a ∈ s.toList ↔ s.has a = true := by
  simp [toList, Attribute.mem_all]

end Attributes

/-- Attributes and at most one color. -/
structure Style where
  color : Option (Color × Ground) := none
  attributes : Attributes := {}
  deriving DecidableEq, Repr

namespace Style

def plain : Style := {}

def having (s : Style) (a : Attribute) : Style := { s with attributes := s.attributes.add a }

def fg (s : Style) (c : Color) : Style := { s with color := some (c, .foreground) }

def bg (s : Style) (c : Color) : Style := { s with color := some (c, .background) }

/-- One call on a style under construction. -/
inductive Call where
  | having (a : Attribute)
  | colored (ground : Ground) (c : Color)
  deriving DecidableEq, Repr

def call (s : Style) : Call → Style
  | .having a => s.having a
  | .colored .foreground c => s.fg c
  | .colored .background c => s.bg c

def build (calls : List Call) : Style := calls.foldl call plain

/-- Whether the style changes nothing. -/
def isPlain (s : Style) : Bool := s.color.isNone && s.attributes == {}

def shape {ε : Type} (s : Style) : Shape ε :=
  .record "Style" [
    ("color", match s.color with
      | none => .atom "None"
      | some (c, ground) =>
        .tuple "Some" [.tuple "" [c.shape, .atom (toString (ground == .foreground))]]),
    ("attributes", .atom (toString s.attributes.mask))]

def sequence (parameters : List Nat) : String :=
  "\x1b[" ++ String.intercalate ";" (parameters.map toString) ++ "m"

/-- The parameters of each sequence that switches the terminal to the style. -/
def selections (s : Style) : List (List Nat) :=
  s.attributes.toList.map (fun a => [a.parameter])
    ++ (s.color.map fun (c, ground) => c.parameters ground).toList

/-- A sequence in the pieces in which it is written, given those of its parameters. -/
def inSequence (parameters : List String) : List String := "\x1b[" :: (parameters ++ ["m"])

/-- What switches the terminal to the style, piece by piece. -/
def pieces (s : Style) : List String :=
  s.attributes.toList.flatMap (fun a => inSequence [toString a.parameter])
    ++ (s.color.toList.flatMap fun (c, ground) => inSequence (c.pieces ground))

/-- What is written before a text in the style. -/
def opening (s : Style) : String := String.join s.pieces

def reset : String := sequence [0]

/-- A text in this style, with a reset behind it; a plain style leaves the text alone. -/
def paint {ε : Type} (s : Style) (body : Transcript ε) : Transcript ε :=
  if s.isPlain then body else .ofTexts s.pieces ++ body ++ .ofText reset

theorem join_flatMap {α : Type} (xs : List α) (pieces : α → List String) :
    String.join (xs.flatMap pieces) = String.join (xs.map fun x => String.join (pieces x)) := by
  induction xs with
  | nil => rfl
  | cons x rest ih =>
    rw [List.flatMap_cons, String.join_append, ih, List.map_cons, String.join_cons]

theorem join_inSequence (parameters : List String) :
    String.join (inSequence parameters) = "\x1b[" ++ String.join parameters ++ "m" := by
  simp [inSequence, String.append_assoc]

theorem join_inSequence_attribute (a : Attribute) :
    String.join (inSequence [toString a.parameter]) = sequence [a.parameter] := by
  simp [join_inSequence, sequence]

theorem join_inSequence_color (ground : Ground) (c : Color) :
    String.join (inSequence (c.pieces ground)) = sequence (c.parameters ground) := by
  rw [join_inSequence, Color.join_pieces, sequence]

/-- The pieces make up the sequences of the style. -/
theorem opening_eq (s : Style) : s.opening = String.join (s.selections.map sequence) := by
  simp only [opening, pieces, selections, String.join_append, join_flatMap, List.map_append,
    List.map_map, Function.comp_def, join_inSequence_attribute, join_inSequence_color]
  cases s.color <;> rfl

/-- The texts on either side of a text in the style. -/
def brackets (s : Style) : Brackets := if s.isPlain then ⟨"", ""⟩ else ⟨s.opening, reset⟩

theorem text_paint {ε : Type} (s : Style) {body : Transcript ε} (ok : body.ok = true) :
    (s.paint body).text = s.brackets.before ++ body.text ++ s.brackets.after := by
  rw [paint, brackets]
  split
  · simp
  · have hok : (Transcript.ofTexts s.pieces ++ body).ok = true := by simp [ok]
    rw [Transcript.text_append _ _ hok, Transcript.text_append _ _ rfl, Transcript.text_ofTexts,
      Transcript.text_ofText, opening]

@[simp] theorem paint_plain {ε : Type} (body : Transcript ε) : plain.paint body = body := rfl

@[simp] theorem ok_paint {ε : Type} (s : Style) (body : Transcript ε) :
    (s.paint body).ok = body.ok := by
  unfold paint
  split
  · rfl
  · simp

theorem marks_paint {ε : Type} (s : Style) {body : Transcript ε} (h : body.marks = []) :
    (s.paint body).marks = [] := by
  unfold paint
  split
  · exact h
  · refine Transcript.marks_append_eq_nil (Transcript.marks_append_eq_nil ?_ h) ?_ <;> simp

end Style

end CauseChain
