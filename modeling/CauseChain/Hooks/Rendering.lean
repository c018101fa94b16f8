import CauseChain.Hooks.Registry

/-!
# Renderings

A `Rendering` is anything that can be written out, from a single payload to a whole report: given
the hooks registered at the start, it says what the run does. Runs follow one another with the hooks
that the ones before have left. A run does not depend on what was written before it, only on the
hooks.
-/

set_option autoImplicit false

namespace CauseChain

/-- Anything that can be written out, given the hooks at the start. -/
abbrev Rendering := Hooks → Transcript HookEvent

/-- How far a sequence of runs has come. -/
structure Run where
  done : Transcript HookEvent
  hooks : Hooks

namespace Run

def start (h : Hooks) : Run := ⟨.skip, h⟩

/-- Runs one thing more, unless something has failed. -/
def step (run : Run) (f : Rendering) : Run :=
  match run with
  | ⟨done, hooks⟩ =>
    if done.ok then
      let t := f hooks
      ⟨done ++ t, hooks.after t⟩
    else ⟨done, hooks⟩

end Run

namespace Rendering

/-- Does nothing. -/
def skip : Rendering := fun _ => .skip

def failure : Rendering := fun _ => .failure

def text (s : String) : Rendering := fun _ => .ofText s

/-- Does the same whatever the hooks. -/
def steady (t : Transcript HookEvent) : Rendering := fun _ => t

/-- Enters code from outside. -/
def guest (g : Guest) (f : Rendering) : Rendering := fun h => Hooks.marked [.entered g] ++ f h

/-- Removes the override for a type. -/
def removal (type : String) : Rendering := fun h => (h.removeOverride type).done

/-- Does one thing and then another. -/
def andThen (f g : Rendering) : Rendering := fun h =>
  let t := f h
  if t.ok then t ++ g (h.after t) else t

/-- Does one thing with its text going elsewhere, and then what suits this text. -/
def capture (f : Rendering) (next : Captured → Rendering) : Rendering := fun h =>
  let t := f h
  t.muted ++ next ⟨t.text, t.ok⟩ (h.after t)

def all (fs : List Rendering) : Rendering := fun h => (fs.foldl Run.step (Run.start h)).done

def leaves (f : Rendering) (h : Hooks) : Hooks := h.after (f h)

def captured (f : Rendering) (h : Hooks) : Captured := ⟨(f h).text, (f h).ok⟩

end Rendering

namespace Code
variable {r : Role}

def runFrom (shows : Subject r → Spec → Rendering) : Code r → Run → Run
  | .done, run => run
  | .fail, run => run.step Rendering.failure
  | .write s next, run => next.runFrom shows (run.step (Rendering.text s))
  | .display subject spec next, run => next.runFrom shows (run.step (shows subject spec))
  | .capture subject spec next, run =>
    let t := shows subject spec run.hooks
    (next ⟨t.text, t.ok⟩).runFrom shows (run.step (Rendering.steady t.muted))
  | .setOverride type o next, run =>
    next.runFrom shows (run.step (Hooks.setOverride type o))
  | .removeOverride type next, run =>
    let removal := run.hooks.removeOverride type
    (next removal.removed).runFrom shows (run.step (Rendering.steady removal.done))
  | .setLayout l next, run => next.runFrom shows (run.step (Hooks.setFormatter (.layout l)))
  | .setFormatter format next, run =>
    next.runFrom shows (run.step (Hooks.setFormatter (.code format)))

/-- What hook code does. -/
def run (shows : Subject r → Spec → Rendering) (code : Code r) : Rendering := fun h =>
  (code.runFrom shows (Run.start h)).done

end Code

/-! ## Sequences of runs -/

@[simp] theorem Run.hooks_start (h : Hooks) : (Run.start h).hooks = h := rfl

@[simp] theorem Run.done_start (h : Hooks) : (Run.start h).done = .skip := rfl

theorem Run.step_of_not_ok (run : Run) (failed : run.done.ok = false) (f : Rendering) :
    run.step f = run := by
  cases run with
  | mk done hooks =>
    have h : done.ok = false := failed
    simp [Run.step, h]

theorem Run.step_of_ok (run : Run) (ok : run.done.ok = true) (f : Rendering) :
    run.step f = ⟨run.done ++ f run.hooks, run.hooks.after (f run.hooks)⟩ := by
  cases run with
  | mk done hooks =>
    have h : done.ok = true := ok
    simp [Run.step, h]

theorem Run.foldl_step_of_not_ok (run : Run) (failed : run.done.ok = false) (fs : List Rendering) :
    fs.foldl Run.step run = run := by
  induction fs with
  | nil => rfl
  | cons f rest ih => rw [List.foldl_cons, Run.step_of_not_ok run failed, ih]

@[simp] theorem Rendering.all_nil : Rendering.all [] = Rendering.skip := rfl

theorem Rendering.all_foldl (fs : List Rendering) (run : Run) (ok : run.done.ok = true) :
    (fs.foldl Run.step run).done = run.done ++ Rendering.all fs run.hooks := by
  induction fs generalizing run with
  | nil => simp [Rendering.all, Run.start]
  | cons f rest ih =>
    have hstart : (Run.start run.hooks).done.ok = true := rfl
    rw [Rendering.all, List.foldl_cons, List.foldl_cons, Run.step_of_ok run ok,
      Run.step_of_ok (Run.start run.hooks) hstart]
    by_cases hf : (f run.hooks).ok = true
    · have hdone : (run.done ++ f run.hooks).ok = true := by simp [ok, hf]
      have hskip : (Transcript.skip ++ f run.hooks).ok = true := by simpa using hf
      rw [ih ⟨run.done ++ f run.hooks, run.hooks.after (f run.hooks)⟩ hdone,
        ih ⟨(Run.start run.hooks).done ++ f (Run.start run.hooks).hooks, _⟩ hskip]
      simp [Run.start, Transcript.append_assoc]
    · have hfail : (f run.hooks).ok = false := by simpa using hf
      have hdone : (run.done ++ f run.hooks).ok = false := by simp [hfail]
      have hskip : (Transcript.skip ++ f run.hooks).ok = false := by simpa using hfail
      rw [Run.foldl_step_of_not_ok ⟨run.done ++ f run.hooks, _⟩ hdone,
        Run.foldl_step_of_not_ok ⟨(Run.start run.hooks).done ++ f (Run.start run.hooks).hooks, _⟩
          hskip]
      simp [Run.start]

theorem Rendering.all_cons (f : Rendering) (fs : List Rendering) :
    Rendering.all (f :: fs) = f.andThen (Rendering.all fs) := by
  funext h
  have hstart : (Run.start h).done.ok = true := rfl
  rw [Rendering.all, List.foldl_cons, Run.step_of_ok (Run.start h) hstart, Rendering.andThen]
  by_cases hf : (f h).ok = true
  · have hskip : ((Run.start h).done ++ f (Run.start h).hooks).ok = true := by
      simpa [Run.start] using hf
    rw [Rendering.all_foldl fs ⟨_, _⟩ hskip]
    simp [Run.start, hf]
  · have hfail : (f h).ok = false := by simpa using hf
    have hskip : ((Run.start h).done ++ f (Run.start h).hooks).ok = false := by
      simpa [Run.start] using hfail
    rw [Run.foldl_step_of_not_ok ⟨_, _⟩ hskip]
    simp [Run.start, hfail]

/-! ## One thing and then another -/

def Captured.andThen (a b : Captured) : Captured := if a.ok then ⟨a.text ++ b.text, b.ok⟩ else a

namespace Rendering
variable (f g : Rendering) (h : Hooks)

theorem andThen_of_ok (ok : (f h).ok = true) : f.andThen g h = f h ++ g (f.leaves h) := if_pos ok

theorem andThen_of_not_ok (failed : (f h).ok = false) : f.andThen g h = f h := by
  simp [andThen, failed]

theorem leaves_eq_applyAll : f.leaves h = h.applyAll (f h).marks := Hooks.after_eq_applyAll h (f h)

theorem leaves_steady {t : Transcript HookEvent} (unmarked : t.marks = []) (h : Hooks) :
    (steady t).leaves h = h := by
  rw [leaves_eq_applyAll, steady, unmarked, Hooks.applyAll_nil]

theorem leaves_andThen_of_ok (ok : (f h).ok = true) :
    (f.andThen g).leaves h = g.leaves (f.leaves h) := by
  rw [leaves, andThen_of_ok f g h ok, Hooks.after_append h _ _ ok]
  rfl

theorem leaves_andThen_of_not_ok (failed : (f h).ok = false) :
    (f.andThen g).leaves h = f.leaves h := by
  rw [leaves, andThen_of_not_ok f g h failed, leaves]

theorem captured_andThen :
    (f.andThen g).captured h = (f.captured h).andThen (g.captured (f.leaves h)) := by
  by_cases ok : (f h).ok = true
  · simp [captured, Captured.andThen, andThen_of_ok f g h ok, ok, Transcript.text_append _ _ ok]
  · have failed : (f h).ok = false := by simpa using ok
    simp [captured, Captured.andThen, andThen_of_not_ok f g h failed, failed]

theorem captured_guest (place : Guest) : (guest place f).captured h = f.captured h := by
  rw [captured, guest, Transcript.text_append _ _ rfl, Transcript.ok_append]
  simp [captured]

theorem leaves_guest (place : Guest) : (guest place f).leaves h = f.leaves h :=
  Hooks.after_append h _ _ rfl

theorem capture_eq (next : Captured → Rendering) :
    f.capture next h = (f h).muted ++ next (f.captured h) (f.leaves h) := rfl

theorem leaves_capture (next : Captured → Rendering) :
    (f.capture next).leaves h = (next (f.captured h)).leaves (f.leaves h) := by
  rw [leaves, capture_eq, Hooks.after_append _ _ _ (Transcript.ok_muted _), Hooks.after_muted]
  rfl

theorem captured_capture (next : Captured → Rendering) :
    (f.capture next).captured h = (next (f.captured h)).captured (f.leaves h) := by
  simp only [captured, capture_eq, Transcript.text_append _ _ (Transcript.ok_muted _),
    Transcript.text_muted, String.empty_append, Transcript.ok_append, Transcript.ok_muted,
    Bool.true_and]

end Rendering

/-! ## Hook code, one instruction at a time -/

namespace Code
variable {r : Role} (shows : Subject r → Spec → Rendering)

theorem runFrom_of_not_ok (code : Code r) (run : Run) (failed : run.done.ok = false) :
    code.runFrom shows run = run := by
  induction code with
  | done => rfl
  | fail => exact run.step_of_not_ok failed _
  | write s next ih => rw [runFrom, run.step_of_not_ok failed, ih]
  | display subject spec next ih => rw [runFrom, run.step_of_not_ok failed, ih]
  | capture subject spec next ih =>
    simp only [runFrom]
    rw [run.step_of_not_ok failed, ih]
  | setOverride type o next _ ih => rw [runFrom, run.step_of_not_ok failed, ih]
  | removeOverride type next ih =>
    simp only [runFrom]
    rw [run.step_of_not_ok failed, ih]
  | setLayout l next ih => rw [runFrom, run.step_of_not_ok failed, ih]
  | setFormatter format next _ ih => rw [runFrom, run.step_of_not_ok failed, ih]

/-- What an instruction adds to a run together with those after it, given what these add. -/
theorem runFrom_step {next : Code r} (ih : ∀ run : Run, run.done.ok = true →
      (next.runFrom shows run).done = run.done ++ next.run shows run.hooks)
    (f : Rendering) (run : Run) (ok : run.done.ok = true) :
    (next.runFrom shows (run.step f)).done =
      run.done ++ (next.runFrom shows ((Run.start run.hooks).step f)).done := by
  -- a step that fails ends both runs; after any other, both go on from the same hooks
  rw [run.step_of_ok ok, (Run.start run.hooks).step_of_ok rfl]
  by_cases hf : (f run.hooks).ok = true
  · rw [ih _ (by simp [ok, hf]), ih _ (by simp [hf])]
    simp [Transcript.append_assoc]
  · rw [runFrom_of_not_ok shows next _ (by simp [hf]),
      runFrom_of_not_ok shows next _ (by simp [hf])]
    simp

theorem runFrom_of_ok (code : Code r) (run : Run) (ok : run.done.ok = true) :
    (code.runFrom shows run).done = run.done ++ code.run shows run.hooks := by
  induction code generalizing run with
  | done => exact (Transcript.append_skip _).symm
  | fail =>
    rw [runFrom, run.step_of_ok ok]
    rfl
  | write s next ih => exact runFrom_step shows (ih shows) _ run ok
  | display subject spec next ih => exact runFrom_step shows (ih shows) _ run ok
  | capture subject spec next ih => exact runFrom_step shows (ih _ shows) _ run ok
  | setOverride type o next _ ih => exact runFrom_step shows (ih shows) _ run ok
  | removeOverride type next ih => exact runFrom_step shows (ih _ shows) _ run ok
  | setLayout l next ih => exact runFrom_step shows (ih shows) _ run ok
  | setFormatter format next _ ih => exact runFrom_step shows (ih shows) _ run ok

theorem run_step (next : Code r) (f : Rendering) (h : Hooks) :
    (next.runFrom shows ((Run.start h).step f)).done = f.andThen (next.run shows) h := by
  rw [(Run.start h).step_of_ok rfl, Rendering.andThen]
  by_cases hf : (f h).ok = true
  · rw [runFrom_of_ok shows next _ (by simp [hf]), if_pos hf]
    simp
  · rw [runFrom_of_not_ok shows next _ (by simp [hf]), if_neg hf]
    simp

@[simp] theorem run_done : (done : Code r).run shows = Rendering.skip := rfl

theorem run_write (s : String) (next : Code r) :
    (write s next).run shows = (Rendering.text s).andThen (next.run shows) :=
  funext fun h => run_step shows next _ h

theorem run_display (subject : Subject r) (spec : Spec) (next : Code r) :
    (display subject spec next).run shows = (shows subject spec).andThen (next.run shows) :=
  funext fun h => run_step shows next _ h

theorem run_capture (subject : Subject r) (spec : Spec) (next : Captured → Code r) :
    (capture subject spec next).run shows =
      (shows subject spec).capture fun c => (next c).run shows := by
  funext h
  rw [Code.run, runFrom]
  simp only [Run.hooks_start]
  rw [run_step, Rendering.andThen]
  simp only [Rendering.steady, Transcript.ok_muted, if_true, Hooks.after_muted, Rendering.capture]

theorem run_setOverride (type : String) (o : Frame → Spec → Code .override) (next : Code r) :
    (setOverride type o next).run shows =
      Rendering.andThen (Hooks.setOverride type o) (next.run shows) :=
  funext fun h => run_step shows next _ h

theorem run_removeOverride (type : String) (next : Bool → Code r) :
    (removeOverride type next).run shows = fun h => (Rendering.removal type).andThen
      ((next (h.removeOverride type).removed).run shows) h :=
  funext fun h => run_step shows (next (h.removeOverride type).removed) _ h

theorem run_setLayout (l : Layout) (next : Code r) :
    (setLayout l next).run shows =
      Rendering.andThen (Hooks.setFormatter (.layout l)) (next.run shows) :=
  funext fun h => run_step shows next _ h

theorem run_setFormatter (format : Report → Options → Spec → Code .formatter) (next : Code r) :
    (setFormatter format next).run shows =
      Rendering.andThen (Hooks.setFormatter (.code format)) (next.run shows) :=
  funext fun h => run_step shows next _ h

end Code

end CauseChain
