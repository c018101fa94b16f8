import CauseChain.Terminal.Style

/-!
# Reading styled text

A terminal reads a text as characters to show and SGR sequences that change its pen. `tokens`
takes a text apart, `erase` keeps the characters alone, and `shown` says with which pen each of
them appears. An escape that begins no complete sequence is an ordinary character.
-/

set_option autoImplicit false

namespace CauseChain.Sgr

/-- One thing that a terminal reads: a character to show, or parameters for the pen. -/
inductive Token where
  | glyph (c : Char)
  | select (parameters : List Nat)
  deriving DecidableEq, Repr

def escape : Char := '\x1b'

/-- Whether a character may stand among the parameters of a sequence. -/
def isParameter (c : Char) : Bool := c.isDigit || c == ';'

/-- Where a reader is: outside any sequence, behind an escape, or among parameters, of which it
holds what it has read, the latest first. -/
inductive State where
  | outside
  | escaped
  | within (read : List Char)
  deriving DecidableEq, Repr

/-- The numbers that a list of digits and semicolons stands for; an empty one is zero. -/
def numbers (read : List Char) : List Nat :=
  (read.splitOnP (· == ';')).map fun ds => ds.foldl (fun n d => 10 * n + (d.toNat - 48)) 0

def State.pending : State → List Token
  | .outside => []
  | .escaped => [.glyph escape]
  | .within read => .glyph escape :: .glyph '[' :: read.reverse.map .glyph

def tokensFrom (state : State) : List Char → List Token
  | [] => state.pending
  | c :: rest =>
    let restart := state.pending ++
      if c == escape then tokensFrom .escaped rest else .glyph c :: tokensFrom .outside rest
    match state with
    | .outside => restart
    | .escaped => if c == '[' then tokensFrom (.within []) rest else restart
    | .within read =>
      if isParameter c then tokensFrom (.within (c :: read)) rest
      else if c == 'm' then .select (numbers read.reverse) :: tokensFrom .outside rest
      else restart

/-- Takes a text apart. -/
def tokens (cs : List Char) : List Token := tokensFrom .outside cs

def erase (s : String) : String :=
  String.ofList ((tokens s.toList).filterMap fun
    | .glyph c => some c
    | .select _ => none)

/-- How a terminal writes at the moment. -/
structure Pen where
  attributes : Attributes := {}
  foreground : Option Color := none
  background : Option Color := none
  deriving DecidableEq, Repr

namespace Pen

def default : Pen := {}

def colored (p : Pen) (ground : Ground) (c : Color) : Pen :=
  match ground with
  | .foreground => { p with foreground := some c }
  | .background => { p with background := some c }

def selectOne (p : Pen) (n : Nat) : Pen :=
  if n = 0 then default
  else match Attribute.all.find? fun a => a.parameter == n with
    | some a => { p with attributes := p.attributes.add a }
    | none =>
      match Color.named.find? fun c => c.parameters .foreground == [n] with
      | some c => p.colored .foreground c
      | none =>
        match Color.named.find? fun c => c.parameters .background == [n] with
        | some c => p.colored .background c
        | none => p

def select (p : Pen) : List Nat → Pen
  | 38 :: 2 :: r :: g :: b :: rest =>
    (p.colored .foreground (.rgb r.toUInt8 g.toUInt8 b.toUInt8)).select rest
  | 48 :: 2 :: r :: g :: b :: rest =>
    (p.colored .background (.rgb r.toUInt8 g.toUInt8 b.toUInt8)).select rest
  | n :: rest => (p.selectOne n).select rest
  | [] => p

end Pen

/-- The characters shown, each with the pen it is written with, and the pen in the end. -/
def showTokens (p : Pen) : List Token → List (Char × Pen) × Pen
  | [] => ([], p)
  | .glyph c :: rest =>
    let (cells, last) := showTokens p rest
    ((c, p) :: cells, last)
  | .select ns :: rest => showTokens (p.select ns) rest

/-- What a terminal that reads a text shows, and the pen it is left with. -/
def shown (p : Pen) (s : String) : List (Char × Pen) × Pen := showTokens p (tokens s.toList)

end CauseChain.Sgr
