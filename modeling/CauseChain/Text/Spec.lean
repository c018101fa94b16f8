/-!
# Format specifications

A `Spec` is what a caller asks of a display: a least width, a greatest length, an alignment and a
few flags. Whether a display obeys it is the display's own affair; this module only gives the two
rules that obedient displays share, `Spec.fit` for text and `Spec.fitInt` for integers, as lists
of the pieces written.
-/

set_option autoImplicit false

namespace CauseChain

/-- The side on which a text is set within its width. -/
inductive Align where
  | left
  | right
  | center
  deriving DecidableEq, Repr

/-- What a caller asks of a display; a width of zero asks for nothing. -/
structure Spec where
  fill : Char := ' '
  align : Option Align := none
  alternate : Bool := false
  plus : Bool := false
  zero : Bool := false
  width : Nat := 0
  precision : Option Nat := none
  deriving DecidableEq, Repr

namespace Spec

/-- Asks for nothing. -/
def plain : Spec := {}

/-- The alternate form, and nothing else. -/
def alternated : Spec := { alternate := true }

/-- How many fill characters stand before and after a text that is `room` short of its width. -/
def margins (align : Align) (room : Nat) : Nat × Nat :=
  match align with
  | .left => (0, room)
  | .right => (room, 0)
  | .center => (room / 2, room - room / 2)

/-- `n` copies of the fill, each written on its own. -/
def fillers (fill : Char) (n : Nat) : List String :=
  List.replicate n fill.toString

def cut (spec : Spec) (s : String) : String :=
  match spec.precision with
  | none => s
  | some n => String.ofList (s.toList.take n)

/-- `body` between the margins that bring `length` characters up to the width. -/
def between (spec : Spec) (default : Align) (length : Nat) (body : List String) : List String :=
  let (before, after) := margins (spec.align.getD default) (spec.width - length)
  fillers spec.fill before ++ body ++ fillers spec.fill after

/-- Text is cut to the precision and then set in the width, to the left unless told otherwise;
the zero flag means nothing to text. -/
def fit (spec : Spec) (s : String) : List String :=
  let shown := spec.cut s
  spec.between .left shown.length [shown]

def sign (spec : Spec) (n : Int) : String :=
  if n < 0 then "-" else if spec.plus then "+" else ""

/-- Integers ignore the precision and stand to the right unless told otherwise; the zero flag
fills with zeros between the sign and the digits. -/
def fitInt (spec : Spec) (n : Int) : List String :=
  let sign := spec.sign n
  let digits := toString n.natAbs
  let length := sign.length + digits.length
  if spec.zero then
    sign :: { spec with fill := '0', align := some .right }.between .right length [digits]
  else
    spec.between .right length [sign, digits]

theorem join_fillers (fill : Char) (n : Nat) :
    String.join (fillers fill n) = String.ofList (List.replicate n fill) := by
  apply String.toList_inj.mp
  rw [String.toList_join, fillers, List.flatMap_replicate, String.toList_ofList]
  simp

def Unsized (spec : Spec) : Prop := spec.width = 0 ∧ spec.precision = none

theorem fit_of_unsized {spec : Spec} (unsized : spec.Unsized) (s : String) :
    spec.fit s = [s] := by
  obtain ⟨width, precision⟩ := unsized
  unfold fit between cut margins
  rw [width, precision]
  cases spec.align.getD .left <;> simp [fillers]

end Spec

end CauseChain
