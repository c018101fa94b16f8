import CauseChain.Text.Shape

/-!
# The color choice

The policy that a process sets for itself: color always, never, or as the stream allows.
-/

set_option autoImplicit false

namespace CauseChain

/-- Whether reports are printed in color. -/
inductive ColorChoice where
  | always
  | never
  | auto
  deriving DecidableEq, Repr, Inhabited

/-- A text that names no choice. -/
structure UnknownChoice where
  input : String
  deriving DecidableEq, Repr

namespace ColorChoice

def initial : ColorChoice := .auto

def text : ColorChoice → String
  | .always => "always"
  | .never => "never"
  | .auto => "auto"

def name : ColorChoice → String
  | .always => "Always"
  | .never => "Never"
  | .auto => "Auto"

/-- Reads a choice; only the exact texts are taken. -/
def ofText (s : String) : Except UnknownChoice ColorChoice :=
  match s with
  | "always" => .ok .always
  | "never" => .ok .never
  | "auto" => .ok .auto
  | _ => .error ⟨s⟩

@[simp] theorem ofText_text (c : ColorChoice) : ofText c.text = .ok c := by cases c <;> rfl

/-- The number that a process keeps of a choice. -/
def code : ColorChoice → UInt8
  | .always => 0
  | .never => 1
  | .auto => 2

/-- A number that is kept of no other choice stands for the automatic one. -/
def ofCode (code : UInt8) : ColorChoice :=
  match code with
  | 0 => .always
  | 1 => .never
  | _ => .auto

@[simp] theorem ofCode_code (c : ColorChoice) : ofCode c.code = c := by cases c <;> rfl

end ColorChoice

/-- The choice that a process has made, or starts with. -/
structure ColorPolicy where
  code : UInt8 := ColorChoice.initial.code
  deriving DecidableEq, Repr

namespace ColorPolicy

def set (p : ColorPolicy) (c : ColorChoice) : ColorPolicy := { p with code := c.code }

def choice (p : ColorPolicy) : ColorChoice := .ofCode p.code

@[simp] theorem choice_initial : ({} : ColorPolicy).choice = .initial := rfl

@[simp] theorem choice_set (p : ColorPolicy) (c : ColorChoice) : (p.set c).choice = c :=
  ColorChoice.ofCode_code c

end ColorPolicy

namespace UnknownChoice

def message (e : UnknownChoice) : String :=
  "unknown color choice `" ++ e.input ++ "`, expected one of `always`, `never` or `auto`"

def shape {ε : Type} (e : UnknownChoice) : Shape ε :=
  .record "ParseColorChoiceError" [("input", .quoted e.input)]

end UnknownChoice

end CauseChain
