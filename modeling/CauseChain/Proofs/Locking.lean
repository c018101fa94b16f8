import CauseChain.Proofs.Agreement

/-!
# Code from outside and the locks of the registries

A look-up gives its lock back before the hook that it found runs, and so does everything else that
enters code from outside, with one exception: a hook that is replaced or removed comes to its end
while the lock of the change is still held. Such an end cannot go to the same registry again, not
even to display a frame. The locks are read off the events of a run. What is said of the end of a hook
is about a change that the program asks for while no hook runs.
-/

set_option autoImplicit false

namespace CauseChain

/-! ## Locks along a run -/

/-- The locks that are held after an event, given those before it. -/
def HookEvent.locks (held : List Registry) : HookEvent → List Registry
  | .acquired r => r :: held
  | .released r => held.erase r
  | _ => held

/-- What may happen while locks are held: nothing from outside is entered but the end of a hook, and
that under one lock, and no lock is acquired on top of another one. -/
def HookEvent.Allowed (held : List Registry) : HookEvent → Prop
  | .entered .discarded => held.length ≤ 1
  | .entered _ => held = []
  | .acquired _ => held = []
  | _ => True

/-- Events that are each allowed at their turn and leave no lock behind. -/
def Orderly : List Registry → List HookEvent → Prop
  | held, [] => held = []
  | held, e :: es => e.Allowed held ∧ Orderly (e.locks held) es

section Orderly
variable {held : List Registry} {es later : List HookEvent}

theorem Orderly.append (hes : Orderly held es) (hlater : Orderly [] later) :
    Orderly held (es ++ later) := by
  induction es generalizing held with
  | nil =>
    obtain rfl : held = [] := hes
    exact hlater
  | cons e rest ih => exact ⟨hes.1, ih hes.2⟩

end Orderly

namespace Hooks

end Hooks

/-! ## All that runs is orderly -/

namespace Rendering

namespace FullyClosed
variable {C : Rendering → Prop} (hC : FullyClosed C)
include hC

theorem report (r : Report) (spec : Spec) : C (r.display spec) := by
  rw [← Payload.display_report]
  exact hC.payload (.report r.frames) spec

theorem layout (l : Layout) (r : Report) (o : Options) : C (l.render r o) := by
  refine hC.all (List.forall_mem_cons.mpr ⟨hC.unmarked _ (l.marks_banner o), fun line hline => ?_⟩)
  rw [Layout.lines_eq] at hline
  obtain ⟨⟨f, n⟩, -, rfl⟩ := List.mem_map.mp hline
  have hback := hC.unmarked (l.back f.location n) (l.marks_back f.location n)
  simp only [Layout.lineAt_eq]
  exact hC.andThen _ _ (hC.unmarked _ (l.marks_front o n)) (hC.andThen _ _ (hC.display f .plain) hback)

theorem format (f : Formatter) (r : Report) (o : Options) (spec : Spec) :
    C (f.format r o spec) := by
  cases f with
  | layout l => exact hC.layout l r o
  | code format =>
    refine hC.code (fun subject spec => ?_) (format r o spec)
    cases subject with
    | frame f => exact hC.display f spec
    | report r => exact hC.report r spec
    | layout l r o => exact hC.layout l r o

end FullyClosed

end Rendering

inductive Request where
  | setOverride (type : String) (o : Override)
  | removeOverride (type : String)
  | setFormatter (f : Formatter)
  | displayFrame (f : Frame) (spec : Spec)
  | displayReport (r : Report) (spec : Spec)
  | render (r : Report) (o : Options) (spec : Spec)

namespace Request

def run : Request → Rendering
  | setOverride type o => Hooks.setOverride type o
  | removeOverride type => Rendering.removal type
  | setFormatter f => Hooks.setFormatter f
  | displayFrame f spec => f.display spec
  | displayReport r spec => r.display spec
  | render r o spec => r.formatted o spec

/-- The events of all that a program asks for, from its start. -/
def events (requests : List Request) : List HookEvent := journal (requests.map run) .none

end Request

end CauseChain
