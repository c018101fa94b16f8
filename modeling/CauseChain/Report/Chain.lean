import CauseChain.Report.Basic

/-!
# Walking a chain

Two walks lead down the chain of a report. An iteration reads one frame after the other. A walk
along the slots, of which there is one below every frame, ends at the slot in which nothing hangs,
and there another report can be hung.
-/

set_option autoImplicit false

namespace CauseChain

/-- The frames that an iteration has not come to yet. -/
structure Iteration where
  ahead : List Frame

namespace Iteration

def next? : Iteration → Option (Frame × Iteration)
  | ⟨[]⟩ => none
  | ⟨f :: below⟩ => some (f, ⟨below⟩)

theorem ahead_eq_of_next? {it later : Iteration} {f : Frame} (h : it.next? = some (f, later)) :
    it.ahead = f :: later.ahead := by
  rcases it with ⟨_ | ⟨g, below⟩⟩
  · simp [next?] at h
  · simp only [next?, Option.some.injEq, Prod.mk.injEq] at h
    obtain ⟨rfl, rfl⟩ := h
    rfl

theorem ahead_eq_nil_of_next? {it : Iteration} (h : it.next? = none) : it.ahead = [] := by
  rcases it with ⟨_ | ⟨g, below⟩⟩
  · rfl
  · simp [next?] at h

/-- Takes up to `n` steps, and counts those that came to a frame. -/
def advance (it : Iteration) : Nat → Nat × Iteration
  | 0 => (0, it)
  | n + 1 =>
    match it.next? with
    | none => (0, it)
    | some (_, later) =>
      let (taken, last) := later.advance n
      (taken + 1, last)

def collect (it : Iteration) : List Frame :=
  match _h : it.next? with
  | none => []
  | some (f, later) => f :: later.collect
termination_by it.ahead.length
decreasing_by simp [ahead_eq_of_next? _h]

theorem collect_eq_ahead (it : Iteration) : it.collect = it.ahead := by
  fun_induction collect it with
  | case1 it h => rw [ahead_eq_nil_of_next? h]
  | case2 it f later h ih => rw [ih, ahead_eq_of_next? h]

/-- Reads on until a frame holds a payload of the named type. -/
def seek? (it : Iteration) (type : String) : Option Frame :=
  match _h : it.next? with
  | none => none
  | some (f, later) => if f.holds type then some f else later.seek? type
termination_by it.ahead.length
decreasing_by simp [ahead_eq_of_next? _h]

/-- Reads on to the end. What was read last is kept. -/
def last? (it : Iteration) (kept : Option Frame) : Option Frame :=
  match _h : it.next? with
  | none => kept
  | some (f, later) => later.last? (some f)
termination_by it.ahead.length
decreasing_by simp [ahead_eq_of_next? _h]

theorem seek?_eq_find? (it : Iteration) (type : String) :
    it.seek? type = it.ahead.find? fun f => f.holds type := by
  fun_induction seek? it type with
  | case1 it h => rw [ahead_eq_nil_of_next? h, List.find?_nil]
  | case2 it f later h holds => rw [ahead_eq_of_next? h, List.find?_cons, holds]
  | case3 it f later h holds ih =>
    rw [ahead_eq_of_next? h, List.find?_cons, Bool.eq_false_iff.mpr holds, ih]

theorem last?_eq_getLast? (it : Iteration) (kept : Option Frame) :
    it.last? kept = it.ahead.getLast?.or kept := by
  fun_induction last? it kept with
  | case1 it kept h => rw [ahead_eq_nil_of_next? h, List.getLast?_nil, Option.none_or]
  | case2 it kept f later h ih =>
    rw [ih, ahead_eq_of_next? h, List.getLast?_cons]
    cases later.ahead.getLast? <;> rfl

end Iteration

/-- A slot of a chain: the frames above it, the nearest first, and the chain that hangs in it. -/
structure Slot where
  above : List Frame
  hanging : List Frame

namespace Slot

/-- Goes on from slot to slot until nothing hangs in the one that is reached. -/
def walk (above : List Frame) : List Frame → Slot
  | [] => ⟨above, []⟩
  | f :: below => walk (f :: above) below

def chain (s : Slot) : List Frame := s.above.reverse ++ s.hanging

def hang (s : Slot) (chain : List Frame) : Slot := { s with hanging := chain }

/-- Nothing hangs in the slot where a walk ends. -/
@[simp] theorem hanging_walk (above below : List Frame) : (walk above below).hanging = [] := by
  induction below generalizing above with
  | nil => rfl
  | cons f below ih => exact ih (f :: above)

@[simp] theorem chain_walk (above below : List Frame) :
    (walk above below).chain = above.reverse ++ below := by
  induction below generalizing above with
  | nil => rfl
  | cons f below ih => rw [walk, ih, List.reverse_cons, List.append_assoc, List.singleton_append]

theorem above_walk (above below : List Frame) :
    (walk above below).above.reverse = above.reverse ++ below := by
  have h := chain_walk above below
  rwa [chain, hanging_walk, List.append_nil] at h

end Slot

/-- A report hung below another one, and what it found in the slot where it was put. -/
structure Merged where
  report : Report
  displaced : Report

namespace Report

/-- Reads the frames, the latest first. -/
def iter (r : Report) : Iteration := ⟨r.frames⟩

/-- Moves the chain out of a report: the report that it moves to, and what is left behind. -/
def take (r : Report) : Report × Report := (⟨r.frames⟩, .empty)

/-- Sets a report under another one: if neither is empty, its chain is put into the last slot of the
other one's chain. -/
def merge (cause context : Report) : Merged :=
  match context.frames with
  | [] => ⟨cause, .empty⟩
  | head :: below =>
    match cause.frames with
    | [] => ⟨⟨head :: below⟩, .empty⟩
    | next :: rest =>
      let slot := Slot.walk [head] below
      ⟨⟨(slot.hang (next :: rest)).chain⟩, ⟨slot.hanging⟩⟩

def under (cause context : Report) : Report := (cause.merge context).report

/-! ## What the walks do to the frames -/

@[simp] theorem collect_iter (r : Report) : r.iter.collect = r.frames :=
  Iteration.collect_eq_ahead r.iter

@[simp] theorem frames_under (r s : Report) : (r.under s).frames = s.frames ++ r.frames := by
  rcases r with ⟨_ | ⟨next, rest⟩⟩
  · rcases s with ⟨_ | ⟨head, below⟩⟩ <;> simp [under, merge]
  · rcases s with ⟨_ | ⟨head, below⟩⟩
    · rfl
    · simp [under, merge, Slot.hang, Slot.chain, Slot.above_walk]

/-- A report is always hung in a slot that was empty. -/
@[simp] theorem displaced_merge (r s : Report) : (r.merge s).displaced = .empty := by
  rcases r with ⟨_ | ⟨next, rest⟩⟩ <;> rcases s with ⟨_ | ⟨head, below⟩⟩ <;> simp [merge, empty]

theorem under_single (r : Report) (f : Frame) : r.under (single f) = r.push f :=
  ext_frames (by simp)

end Report

end CauseChain
