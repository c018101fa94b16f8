import CauseChain.Report.Chain
import CauseChain.Report.Outcome
import CauseChain.Report.Release

/-!
# Shelves

A shelf keeps reports in numbered slots; a slot that was never used holds an empty report. A
`Move` creates, grows, joins, takes apart or releases what is on the shelf. What a move puts into a
slot releases what was there, and what it is handed and does not use is released as well, so that
every payload is on the shelf, given back or released.
-/

set_option autoImplicit false

namespace CauseChain

/-- Reports in numbered slots. -/
structure Shelf where
  slots : List Report := []

/-- Where a payload comes from: a value that is handed in, or the report in a slot. -/
inductive Origin where
  | value (v : Value)
  | slot (n : Nat)

/-- How a computation ended that a layer is put on; a report comes out of a slot. -/
inductive Ended where
  | value (v : Value)
  | error (e : Value)
  | slot (n : Nat)
  | nothing (type : String)

/-- One change to a shelf. -/
inductive Move where
  | create (slot : Nat) (origin : Origin) (handler : Handler) (l : Location)
  | push (slot : Nat) (origin : Origin) (handler : Handler) (l : Location)
  | place (slot : Nat) (r : Report)
  | merge (slot other : Nat)
  | take (source target : Nat)
  | layer (slot : Nat) (ended : Ended) (addition : Option (Addition Origin)) (l : Location)
  | link (slot : Nat) (origin : Origin) (handler : Handler) (l : Location) (tail : Option Nat)
  | detach (slot target : Nat)
  | relink (slot : Nat) (tail : Option Nat)
  | splice (slot tail : Nat)

/-- What a move leaves: the shelf, what was released, the value given back, and whether there was
something to do and a context was made. -/
structure Moved where
  shelf : Shelf
  released : List Released := []
  returned : Option Value := none
  found : Bool := true
  called : Bool := false

namespace Shelf

def get (s : Shelf) (n : Nat) : Report := s.slots.getD n .empty

/-- The shelf with a report in a slot, whatever was there. -/
def set (s : Shelf) (n : Nat) (r : Report) : Shelf :=
  if n < s.slots.length then ⟨s.slots.set n r⟩
  else ⟨s.slots ++ List.replicate (n - s.slots.length) .empty ++ [r]⟩

/-- Takes the report out of a slot, which keeps what is left behind. -/
def pull (s : Shelf) (n : Nat) : Report × Shelf :=
  let (r, left) := (s.get n).take
  (r, s.set n left)

def put (s : Shelf) (n : Nat) (r : Report) : Moved :=
  { shelf := s.set n r, released := (s.get n).release }

def supply (s : Shelf) : Origin → Payload × Shelf
  | .value v => (.value v, s)
  | .slot n =>
    let (r, s) := s.pull n
    (r.payload, s)

def supplyAddition (s : Shelf) : Option (Addition Origin) → Option (Addition Payload) × Shelf
  | none => (none, s)
  | some a =>
    let (p, s) := s.supply a.context
    (some ⟨a.manner, p⟩, s)

def start (s : Shelf) : Ended → Start × Shelf
  | .value v => (.value v, s)
  | .error e => (.error e, s)
  | .slot n =>
    let (r, s) := s.pull n
    (.report r, s)
  | .nothing type => (.nothing type, s)

def tail (s : Shelf) : Option Nat → List Frame × Shelf
  | none => ([], s)
  | some n =>
    let (r, s) := s.pull n
    (r.frames, s)

/-- Gives back the value that came of a layer, or puts the report that came of it into a slot. The
context that was not used is released first. -/
def settle (s : Shelf) (slot : Nat) (layered : Layered) : Moved :=
  let unused := (layered.unused.map Payload.release).getD []
  match layered.outcome with
  | .ok v => { shelf := s, released := unused, returned := some v }
  | .error r =>
    let moved := s.put slot r
    { moved with released := unused ++ moved.released, called := layered.called }

/-- Makes a change. -/
def apply (s : Shelf) : Move → Moved
  | .create slot origin handler l =>
    let (p, s) := s.supply origin
    s.put slot (.single ⟨p, handler, l⟩)
  | .push slot origin handler l =>
    let (p, s) := s.supply origin
    let (r, s) := s.pull slot
    s.put slot (r.push ⟨p, handler, l⟩)
  | .place slot r => s.put slot r
  | .merge slot other =>
    let (cause, s) := s.pull slot
    let (context, s) := s.pull other
    let merged := cause.merge context
    let moved := s.put slot merged.report
    { moved with released := merged.displaced.release ++ moved.released }
  | .take source target =>
    let (r, s) := s.pull source
    s.put target r
  | .layer slot ended addition l =>
    let (addition, s) := s.supplyAddition addition
    let (start, s) := s.start ended
    s.settle slot ((Layer.mk addition l).apply start)
  | .link slot origin handler l tail =>
    let (p, s) := s.supply origin
    let (below, s) := s.tail tail
    s.put slot ⟨⟨p, handler, l⟩ :: below⟩
  | .detach slot target =>
    match (s.get slot).frames with
    | head :: next :: below =>
      let s := s.set slot ⟨[head]⟩
      s.put target ⟨next :: below⟩
    | _ => { shelf := s, found := false }
  | .relink slot tail =>
    let (below, s) := s.tail tail
    match (s.get slot).frames with
    | [] => { shelf := s, released := (Report.mk below).release, found := false }
    | head :: old => { shelf := s.set slot ⟨head :: below⟩, released := (Report.mk old).release }
  | .splice slot tail =>
    let (below, s) := s.pull tail
    if (s.get slot).isEmpty || below.isEmpty then
      { shelf := s, released := below.release, found := false }
    else
      let merged := below.merge (s.get slot)
      { shelf := s.set slot merged.report, released := merged.displaced.release }

def applyAll (s : Shelf) : List Move → Shelf × List Moved
  | [] => (s, [])
  | m :: rest =>
    let moved := s.apply m
    let (last, later) := moved.shelf.applyAll rest
    (last, moved :: later)

/-- Releases every slot, the first one first. -/
def close (s : Shelf) : List Released := s.slots.flatMap Report.release

/-! ## Slots -/

theorem get_set (s : Shelf) (n m : Nat) (r : Report) :
    (s.set n r).get m = if m = n then r else s.get m := by
  cases s with
  | mk slots =>
    simp only [get, set, List.getD_eq_getElem?_getD]
    by_cases hn : n < slots.length
    · by_cases hm : m = n
      · subst hm
        simp [hn]
      · have hne : n ≠ m := fun h => hm h.symm
        simp [hn, hm, hne]
    · have hlen : (slots ++ List.replicate (n - slots.length) Report.empty).length = n := by
        simp only [List.length_append, List.length_replicate]
        omega
      rw [if_neg hn]
      rcases Nat.lt_trichotomy m n with hlt | heq | hgt
      · rw [if_neg (Nat.ne_of_lt hlt), List.getElem?_append_left (by omega)]
        by_cases hs : m < slots.length
        · rw [List.getElem?_append_left hs]
        · have hm : m - slots.length < n - slots.length := by omega
          rw [List.getElem?_append_right (by omega), List.getElem?_replicate, if_pos hm,
            List.getElem?_eq_none (by omega)]
          rfl
      · subst heq
        rw [if_pos rfl, List.getElem?_append_right (by omega), hlen]
        simp
      · rw [if_neg (Nat.ne_of_gt hgt), List.getElem?_eq_none (by simp; omega),
          List.getElem?_eq_none (by omega)]

end Shelf

end CauseChain
