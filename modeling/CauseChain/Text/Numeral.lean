/-!
# Reading bounded numerals

A numeral is an optional sign and one or more decimal digits, read from the left into an integer
type of bounded range. A text is refused for the first thing that is wrong with it from the left:
a character that is no digit, or a digit that takes the value out of range.
-/

set_option autoImplicit false

namespace CauseChain

/-- Why a text is no numeral of the range. -/
inductive NumeralFault where
  | empty
  | invalidDigit
  | tooLarge
  | tooSmall
  deriving DecidableEq, Repr

namespace NumeralFault

def message : NumeralFault → String
  | .empty => "cannot parse integer from empty string"
  | .invalidDigit => "invalid digit found in string"
  | .tooLarge => "number too large to fit in target type"
  | .tooSmall => "number too small to fit in target type"

def name : NumeralFault → String
  | .empty => "Empty"
  | .invalidDigit => "InvalidDigit"
  | .tooLarge => "PosOverflow"
  | .tooSmall => "NegOverflow"

end NumeralFault

namespace Numeral

def digit? (c : Char) : Option Nat :=
  if '0' ≤ c ∧ c ≤ '9' then some (c.toNat - '0'.toNat) else none

/-- Reads digits onto `value`, which may grow up to `bound`. -/
def magnitude (bound : Nat) (fault : NumeralFault) (value : Nat) :
    List Char → Except NumeralFault Nat
  | [] => .ok value
  | c :: rest =>
    match digit? c with
    | none => .error .invalidDigit
    | some d =>
      if 10 * value + d ≤ bound then magnitude bound fault (10 * value + d) rest
      else .error fault

/-- Digits after a sign: at least one. -/
def afterSign (bound : Nat) (fault : NumeralFault) (cs : List Char) : Except NumeralFault Nat :=
  if cs.isEmpty then .error .invalidDigit else magnitude bound fault 0 cs

/-- Reads a natural number up to `bound`; a plus sign may stand before it. -/
def unsigned (bound : Nat) (s : String) : Except NumeralFault Nat :=
  match s.toList with
  | [] => .error .empty
  | '+' :: rest => afterSign bound .tooLarge rest
  | cs => magnitude bound .tooLarge 0 cs

/-- Reads an integer from `-(bound + 1)` to `bound`; either sign may stand before it. -/
def signed (bound : Nat) (s : String) : Except NumeralFault Int :=
  match s.toList with
  | [] => .error .empty
  | '+' :: rest => (afterSign bound .tooLarge rest).map Int.ofNat
  | '-' :: rest => (afterSign (bound + 1) .tooSmall rest).map fun n => -(n : Int)
  | cs => (magnitude bound .tooLarge 0 cs).map Int.ofNat

def fault32? (s : String) : Option NumeralFault :=
  match signed (UInt32.size / 2 - 1) s with
  | .ok _ => none
  | .error e => some e

end Numeral

end CauseChain
