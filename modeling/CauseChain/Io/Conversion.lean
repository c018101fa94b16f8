import CauseChain.Value.Display

/-!
# Between the host's errors and ours

An `IoError` can be handed to the host and taken back. Codes of the system pass unchanged both
ways. On the way out a message becomes an error of its own inside the host's, and a payload goes
inside together with the whole error around it; on the way back only the text of what is inside is
kept. The way back fails where that text cannot be had. A `Held` error can be carried back and
forth, copied and opened any number of times.
-/

set_option autoImplicit false

namespace CauseChain

def IoError.toHost : IoError Value → HostError Value
  | .system c => .system c
  | .bare k => .bare k.toHost
  | .described k m => .rich k.toHost (.string m)
  | .rich k p => .rich k.toHost (.io (.rich k p))

/-- Takes an error back from the host, unless the error inside it fails to display. -/
def HostError.toIo? : HostError Value → Option (IoError Value)
  | .system c => some (.system c)
  | .bare k => some (.bare k.portable)
  | .fixed k _ => some (.bare k.portable)
  | .rich k inner => inner.text?.map fun m => .described k.portable m

def Value.io? : Value → Option (IoError Value)
  | .io e => some e
  | _ => none

/-- An error in hand, on one side or the other, or nothing any more. -/
inductive Held where
  | ours (e : IoError Value)
  | host (e : HostError Value)
  | gone

/-- What can be done with an error in hand: hand it to the host, take it back, copy it, or open it
and go on with the error inside. -/
inductive Hop where
  | out
  | back
  | copy
  | inner
  deriving DecidableEq, Repr

namespace Held

def ofValue (v : Option Value) : Held :=
  match v.bind Value.io? with
  | some e => .ours e
  | none => .gone

/-- Does one thing with an error, unless the way back fails. What does not apply to an error leaves
it as it is. -/
def step : Held → Hop → Option Held
  | .ours e, .out => some (.host e.toHost)
  | .host e, .back => e.toIo?.map .ours
  | .ours e, .inner => some (.ofValue e.payload?)
  | .host e, .inner => some (.ofValue e.inner?)
  | x, _ => some x

def code? : Held → Option OsCode
  | .ours e => e.code?
  | .host e => e.code?
  | .gone => none

end Held

@[simp] theorem IoError.code?_toHost (e : IoError Value) : e.toHost.code? = e.code? := by
  cases e <;> rfl

end CauseChain
