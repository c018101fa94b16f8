import CauseChain.Proofs.Overrides
import CauseChain.Proofs.Printing

/-!
# All ways to a rendering agree

The formatter that was registered last lays out every report, whichever way it is asked for: as a
text, as something to display, on a device, or as a debug form. In a layout no frame sees the
specification that the rendering as a whole is asked for, so a rendering depends on its frames only
through the places where they were made and the ways in which they are displayed plainly.
-/

set_option autoImplicit false

namespace CauseChain

/-! ## The formatter in force -/

def HookEvent.formatter? : HookEvent → Option Formatter
  | .formatterSet f => some f
  | _ => none

/-- The formatter that was registered last, and the standard layout as long as there is none. -/
def lastRegistered (es : List HookEvent) : Formatter :=
  (es.reverse.findSome? HookEvent.formatter?).getD (.layout .standard)

/-- The events of runs that follow one another. -/
def journal : List Rendering → Hooks → List HookEvent
  | [], _ => []
  | f :: rest, h => (f h).marks ++ journal rest (f.leaves h)

/-- The registries that runs leave, one after the other. -/
def Hooks.through (h : Hooks) (fs : List Rendering) : Hooks := fs.foldl (fun h f => f.leaves h) h

namespace Hooks

theorem through_eq_applyAll (h : Hooks) (fs : List Rendering) :
    h.through fs = h.applyAll (journal fs h) := by
  induction fs generalizing h with
  | nil => rfl
  | cons f rest ih =>
    change (f.leaves h).through rest = h.applyAll ((f h).marks ++ journal rest (f.leaves h))
    rw [ih, applyAll_append, Rendering.leaves_eq_applyAll]

theorem formatter?_applyAll (h : Hooks) (es : List HookEvent) :
    (h.applyAll es).formatter? = (es.reverse.findSome? HookEvent.formatter?).or h.formatter? := by
  induction es generalizing h with
  | nil => rfl
  | cons e rest ih =>
    rw [applyAll_cons, ih, List.reverse_cons, List.findSome?_append]
    cases rest.reverse.findSome? HookEvent.formatter? with
    | some f => rfl
    | none => cases e <;> rfl

theorem formatter_applyAll_none (es : List HookEvent) :
    (none.applyAll es).formatter = lastRegistered es := by
  rw [formatter, formatter?_applyAll, lastRegistered]
  cases es.reverse.findSome? HookEvent.formatter? <;> rfl

theorem formatter_setFormatter (f : Formatter) (h : Hooks) :
    ((Rendering.leaves (setFormatter f)) h).formatter = f := by
  rw [Rendering.leaves_eq_applyAll, formatter, formatter?_applyAll, setFormatter, marks_marked]
  cases h.formatter?.isSome <;> rfl

theorem formatter_registered (fs : List Formatter) (h : Hooks) :
    (h.through (fs.map setFormatter)).formatter = fs.getLast?.getD h.formatter := by
  induction fs generalizing h with
  | nil => rfl
  | cons f rest ih =>
    change ((Rendering.leaves (setFormatter f) h).through (rest.map setFormatter)).formatter = _
    rw [ih, formatter_setFormatter, List.getLast?_cons]
    rfl

end Hooks

/-! ## What a layout sees of the frames -/

namespace FrameOf

/-- Where a frame was made, and how it is displayed plainly. -/
def plainly (f : Frame) : Location × Rendering := (f.location, f.display .plain)

end FrameOf

namespace Layout
variable (l : Layout) (o : Options)

theorem lineAt_congr (n : Nat) {f f' : Frame} (same : f.plainly = f'.plainly) :
    l.lineAt o n f = l.lineAt o n f' := by
  obtain ⟨hlocation, hdisplay⟩ := Prod.mk.inj same
  rw [lineAt_eq, lineAt_eq, hlocation, hdisplay]

theorem lines_congr (n : Nat) {fs fs' : List Frame}
    (same : fs.map FrameOf.plainly = fs'.map FrameOf.plainly) :
    ((fs.zipIdx n).map fun (f, n) => l.lineAt o n f) =
      (fs'.zipIdx n).map fun (f, n) => l.lineAt o n f := by
  induction fs generalizing n fs' with
  | nil =>
    rw [List.map_eq_nil_iff.mp same.symm]
  | cons f rest ih =>
    cases fs' with
    | nil => simp at same
    | cons f' rest' =>
      obtain ⟨hf, hrest⟩ := List.cons.inj same
      simp only [List.zipIdx_cons, List.map_cons, l.lineAt_congr o n hf, ih (n + 1) hrest]

theorem render_congr {r r' : Report}
    (same : r.frames.map FrameOf.plainly = r'.frames.map FrameOf.plainly) :
    l.render r o = l.render r' o := by
  have holdest : r.frames.reverse.map FrameOf.plainly = r'.frames.reverse.map FrameOf.plainly := by
    rw [List.map_reverse, List.map_reverse, same]
  rw [render_eq, render_eq, lines_eq, lines_eq, l.lines_congr o 0 holdest]

end Layout

/-! ## Agreement -/

/-- At every point of every run, the formatter in force is the one that was registered last. A
rendering is the same text as something to display, as what a device that never fails for good is
handed, and with plain options as the debug form. In a layout all of them are the same under every
specification, put together from the plain displays of the frames and of nothing else. A formatter
that is code writes what this code does for the report, the options and the specification. -/
theorem Report.renderings_agree (past : List Rendering) :
    let h := Hooks.none.through past
    h.formatter = lastRegistered (journal past .none) ∧
    (∀ f : Formatter, (Hooks.none.through (past ++ [Hooks.setFormatter f])).formatter = f) ∧
    (∀ fs : List Formatter, (Hooks.none.through (fs.map Hooks.setFormatter)).formatter =
      fs.getLast?.getD (.layout .standard)) ∧
    (∀ (r : Report) (o : Options),
      (r.formatted o .plain).captured h = (r.render o).captured h ∧
      (∀ (σ : Type) (d : Device σ) (s : σ),
        (∀ bytes s, (d.writeAll bytes s).error = none) →
        (r.deliver o d s h).accepted.toList = bytesOf (r.render o h).text ∧
        ((r.deliver o d s h).ending = .broken ↔ (r.render o h).ok = false))) ∧
    (∀ r : Report, (r.debug false).captured h = (r.render .plain).captured h) ∧
    (∀ format, h.formatter = .code format → ∀ (r : Report) (o : Options) (spec : Spec),
      (r.formatted o spec).captured h = ((format r o spec).run formatterSubjects).captured h) ∧
    ∀ l : Layout, h.formatter = .layout l → ∀ r : Report,
      (∀ (o : Options) (spec : Spec),
        (r.formatted o spec).captured h = (r.render o).captured h ∧
        (r.formatted .plain spec).captured h = (r.debug false).captured h) ∧
      (∀ pretty, (r.debug pretty).captured h = (r.debug false).captured h) ∧
      (∀ o : Options, let turns := Rendering.each (r.frames.reverse.map fun f => f.display .plain) h
        (r.render o).captured h = ⟨l.bannerText o ++
          String.join (l.linesSoFar o 0 r.frames.reverse turns), turns.all Captured.ok⟩) ∧
      (∀ r' : Report, r.frames.map FrameOf.plainly = r'.frames.map FrameOf.plainly →
        ∀ (o : Options) (spec : Spec),
          (r.formatted o spec).captured h = (r'.formatted o spec).captured h) := by
  intro h
  refine ⟨?_, fun f => ?_, fun fs => Hooks.formatter_registered fs .none, fun r o => ⟨rfl, ?_⟩,
    fun r => rfl, fun format inForce r o spec => ?_, fun l inForce r => ⟨fun o spec => ⟨?_, ?_⟩, fun pretty => ?_, fun o => ?_,
    fun r' same o spec => ?_⟩⟩
  · exact (congrArg Hooks.formatter (Hooks.none.through_eq_applyAll past)).trans
      (Hooks.formatter_applyAll_none _)
  · rw [Hooks.through, List.foldl_append]
    exact Hooks.formatter_setFormatter f _
  · intro σ d s never
    have all := r.accepted_deliver_of_never o s h never
    refine ⟨all, ((r.render o h).ending_eq_broken_iff d s h).trans ?_⟩
    exact and_iff_left all
  · rw [captured_formatted_eq_format, inForce, Formatter.format]
  · exact (r.captured_formatted inForce o spec).trans (r.captured_formatted inForce o .plain).symm
  · exact (r.captured_formatted inForce .plain spec).trans
      (r.captured_formatted inForce .plain .plain).symm
  · exact (r.captured_formatted inForce .plain { alternate := pretty }).trans
      (r.captured_formatted inForce .plain .plain).symm
  · exact (r.captured_formatted inForce o .plain).trans (l.captured_render_eq o r h)
  · rw [r.captured_formatted inForce, r'.captured_formatted inForce, l.render_congr o same]

/-- A report in a report is shown by its head in a layout, whatever the rendering is asked for, and in
full by code that asks for this. -/
theorem Report.renderings_agree_nested :
    let site : Location := ⟨"main.rs", 3, 5⟩
    let inner : Report := ⟨[⟨.value (.string "b"), .display, site⟩,
      ⟨.value (.string "a"), .display, site⟩]⟩
    let r : Report := ⟨[⟨inner.payload, .display, site⟩, ⟨.value (.string "c"), .display, site⟩]⟩
    let h := Hooks.none.through
      [Hooks.setFormatter .oneLine, Hooks.setFormatter (.layout .ascii)]
    let coded := Hooks.none.through [Hooks.setFormatter .oneLine]
    let spec : Spec := { alternate := true, width := 3 }
    coded.formatter = .oneLine ∧
      (r.render ⟨false, 10⟩).captured coded = ⟨"error: b: a: c\n", true⟩ ∧
      h.formatter = .layout .ascii ∧
      (r.display spec).captured h = ⟨"b  : a  : c  ", true⟩ ∧
      (r.formatted ⟨false, 10⟩ spec).captured h =
        ⟨"= Error: =\nc [main.rs:3:5]\n    ~> #0: b\n", true⟩ := by
  intro site inner r h coded spec
  obtain ⟨-, -, -, -, -, -, hlayout⟩ := Report.renderings_agree
    [Hooks.setFormatter .oneLine, Hooks.setFormatter (.layout .ascii)]
  obtain ⟨-, -, -, -, -, hcode, -⟩ := Report.renderings_agree [Hooks.setFormatter .oneLine]
  have inForce : h.formatter = .layout .ascii := rfl
  obtain ⟨hspec, -, htext, -⟩ := hlayout .ascii inForce r
  refine ⟨rfl, (hcode _ rfl r ⟨false, 10⟩ .plain).trans ?_, inForce, by decide +kernel,
    ((hspec ⟨false, 10⟩ spec).1.trans (htext ⟨false, 10⟩)).trans ?_⟩
  · decide +kernel
  · decide +kernel

end CauseChain
