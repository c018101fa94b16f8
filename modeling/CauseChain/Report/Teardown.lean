import CauseChain.Report.Release

/-!
# Taking a chain apart

How a chain is let go of, one step after the other. A node owns the chain in its slot, so a node that
is freed with a chain in its slot lets go of this chain as well, and so on down to the root. The owner
of a chain therefore takes all that hangs below the head out of its slot first, and then walks along
it: of every node that it comes to it takes the rest of the chain out of the slot, and lets go of the
node alone. The head is freed last.
-/

set_option autoImplicit false

namespace CauseChain

/-- A node of a chain: a frame, and the chain in the slot below it. -/
structure Node where
  frame : Frame
  slot : List Frame

namespace Node

def ofChain? : List Frame → Option Node
  | [] => none
  | f :: below => some ⟨f, below⟩

def chain (n : Node) : List Frame := n.frame :: n.slot

/-- Takes the chain out of the slot. -/
def takeNext (n : Node) : List Frame × Node := (n.slot, { n with slot := [] })

end Node

/-- What a payload counts as when it is released. -/
def Payload.mark : Payload → Released
  | .value v => .value v
  | .report _ => .report

/-- Something that is still to be done: the owner of a chain lets go of it, the rest of a chain is
walked along, a node is freed, or a payload released. -/
inductive Duty where
  | drop (chain : List Frame)
  | walk (chain : List Frame)
  | free (n : Node)
  | release (p : Payload)

namespace Duty

/-- What a duty comes down to, the first thing first. A node that is freed lets go of what is in its
slot before it releases its payload. -/
def parts : Duty → List Duty
  | drop chain =>
    match Node.ofChain? chain with
    | none => []
    | some n =>
      let (next, n) := n.takeNext
      [walk next, free n]
  | walk chain =>
    match Node.ofChain? chain with
    | none => []
    | some n =>
      let (next, n) := n.takeNext
      [drop n.chain, walk next]
  | free n => [drop n.slot, release n.frame.payload]
  | release (.value _) => []
  | release (.report chain) => [drop chain]

/-- The node that is freed at once. -/
def frees : Duty → List Node
  | free n => [n]
  | _ => []

/-- What is released at once. -/
def releases : Duty → List Released
  | release p => [p.mark]
  | _ => []

@[simp] theorem parts_drop_nil : (drop []).parts = [] := rfl

@[simp] theorem parts_drop_cons (f : Frame) (below : List Frame) :
    (drop (f :: below)).parts = [walk below, free ⟨f, []⟩] := rfl

@[simp] theorem parts_walk_nil : (walk []).parts = [] := rfl

@[simp] theorem parts_walk_cons (f : Frame) (below : List Frame) :
    (walk (f :: below)).parts = [drop [f], walk below] := rfl

@[simp] theorem parts_release_value (v : Value) : (release (.value v)).parts = [] := rfl

@[simp] theorem parts_release_report (chain : List Frame) :
    (release (.report chain)).parts = [drop chain] := rfl

end Duty

/-- How far a chain has been taken apart: what is still to be done, the next thing first, and the
nodes that were freed and the payloads that were released, in this order. -/
structure Teardown where
  duties : List Duty
  freed : List Node := []
  released : List Released := []

namespace Teardown

/-- The owner of a chain is about to let go of it. -/
def ofChain (chain : List Frame) : Teardown := { duties := [.drop chain] }

def step (t : Teardown) : Teardown :=
  match t.duties with
  | [] => t
  | duty :: rest =>
    { duties := duty.parts ++ rest
      freed := t.freed ++ duty.frees
      released := t.released ++ duty.releases }

end Teardown

end CauseChain
