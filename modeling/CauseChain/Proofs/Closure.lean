import CauseChain.Report.Render

/-!
# What holds of every display

Displays are put together in few ways, whatever code overrides bring in and however deep reports are
nested in reports. A property that each of these ways preserves holds of every display. Of code that
leaves the registries alone fewer ways are asked for.
-/

set_option autoImplicit false

namespace CauseChain

namespace Rendering

/-- A property of all that is put together from renderings that have it, as long as nobody asks what
the registries hold or changes them. -/
structure Closed (C : Rendering → Prop) : Prop where
  unmarked : ∀ t, t.marks = [] → C (steady t)
  entered : ∀ g, C (steady (Hooks.marked [.entered g]))
  andThen : ∀ f g, C f → C g → C (f.andThen g)
  capture : ∀ f next, C f → (∀ c, C (next c)) → C (f.capture next)

/-- A property that survives the registries as well. A look-up is part of the display of a frame,
and stands or falls with it. -/
structure FullyClosed (C : Rendering → Prop) : Prop extends Closed C where
  choose : ∀ type (F : Option Hook → Rendering), (∀ found, C (F found)) →
    C fun h => F (h.override? type) h
  setOverride : ∀ type o, C (Hooks.setOverride type o)
  removal : ∀ type, C (Rendering.removal type)
  setFormatter : ∀ f, C (Hooks.setFormatter f)
  frame : ∀ (f : Frame) spec, C (f.shown spec) → C (f.display spec)

namespace Closed
variable {C : Rendering → Prop} (hC : Closed C)
include hC

theorem skip : C Rendering.skip := hC.unmarked .skip rfl

theorem failure : C Rendering.failure := hC.unmarked .failure rfl

theorem text (s : String) : C (Rendering.text s) := hC.unmarked (.ofText s) rfl

theorem guest (g : Guest) {f : Rendering} (hf : C f) : C (Rendering.guest g f) :=
  hC.andThen (steady (Hooks.marked [.entered g])) f (hC.entered g) hf

theorem all {fs : List Rendering} (hfs : ∀ f ∈ fs, C f) : C (Rendering.all fs) := by
  induction fs with
  | nil => exact hC.skip
  | cons f rest ih =>
    rw [all_cons]
    have hrest := ih fun g hg => hfs g (List.mem_cons_of_mem f hg)
    exact hC.andThen f _ (hfs f List.mem_cons_self) hrest

theorem intersperse (s : String) {fs : List Rendering} (hfs : ∀ f ∈ fs, C f) :
    ∀ f ∈ fs.intersperse (Rendering.text s), C f := by
  induction fs with
  | nil => exact hfs
  | cons f rest ih =>
    cases rest with
    | nil => exact hfs
    | cons g rest =>
      have hrest := ih fun g hg => hfs g (List.mem_cons_of_mem f hg)
      rw [List.intersperse_cons_cons]
      exact List.forall_mem_cons.mpr ⟨hfs f List.mem_cons_self,
        List.forall_mem_cons.mpr ⟨hC.text s, hrest⟩⟩

theorem chainForm (spec : Spec) {fs : List Rendering} (hfs : ∀ f ∈ fs, C f) :
    C (CauseChain.chainForm spec fs) := by
  unfold CauseChain.chainForm
  split
  · exact hC.all (hC.intersperse ": " hfs)
  · cases fs with
    | nil => exact hC.skip
    | cons f rest => exact hfs f List.mem_cons_self

theorem handler {payload : Spec → Rendering} (hp : ∀ spec, C (payload spec)) (handler : Handler)
    (type : String) (spec : Spec) : C (handler.apply type payload spec) := by
  cases handler with
  | error => exact hp spec
  | display => exact hp spec
  | any => exact hC.text _
  | reworded r =>
    unfold Handler.apply
    refine hC.capture _ _ (hp .plain) fun c => ?_
    split
    · exact hC.text _
    · exact hC.failure

theorem value (v : Value) (spec : Spec) : C ((Payload.value v).display spec) :=
  hC.guest .payload (hC.unmarked _ (Value.marks_display v spec))

theorem subjects {f : Frame} {payload : Spec → Rendering} (hp : ∀ spec, C (payload spec))
    (subject : Subject .override) (spec : Spec) : C (overrideSubjects f payload subject spec) := by
  cases subject with
  | handled => exact hC.handler hp f.handler f.typeName spec
  | payload => exact hp spec

/-- Code that leaves the registries alone. -/
theorem code_of_inert {r : Role} {shows : Subject r → Spec → Rendering}
    (hshows : ∀ subject spec, C (shows subject spec)) (code : Code r) (inert : code.Inert) :
    C (code.run shows) := by
  induction code with
  | done => exact hC.skip
  | fail => exact hC.failure
  | write s next ih =>
    rw [Code.run_write]
    exact hC.andThen _ _ (hC.text s) (ih hshows inert)
  | display subject spec next ih =>
    rw [Code.run_display]
    exact hC.andThen _ _ (hshows subject spec) (ih hshows inert)
  | capture subject spec next ih =>
    rw [Code.run_capture]
    exact hC.capture _ _ (hshows subject spec) fun c => ih c hshows (inert c)
  | _ => exact inert.elim

theorem shownBy {f : Frame} {payload : Spec → Rendering} (hp : ∀ spec, C (payload spec))
    (found : Option Hook) (spec : Spec)
    (hcode : ∀ hook, found = some hook → C (hook.override.show f payload spec)) :
    C (CauseChain.shownBy found f payload spec) := by
  have hhandler := hC.handler hp f.handler f.typeName spec
  cases found with
  | none => exact hhandler
  | some hook =>
    change C (hook.show f payload spec)
    unfold Hook.show
    split
    · exact hC.guest .override (hcode hook rfl)
    · exact hhandler

end Closed

namespace FullyClosed
variable {C : Rendering → Prop} (hC : FullyClosed C)
include hC

theorem code {r : Role} {shows : Subject r → Spec → Rendering}
    (hshows : ∀ subject spec, C (shows subject spec)) (code : Code r) : C (code.run shows) := by
  induction code with
  | done => exact hC.skip
  | fail => exact hC.failure
  | write s next ih =>
    rw [Code.run_write]
    exact hC.andThen _ _ (hC.text s) (ih hshows)
  | display subject spec next ih =>
    rw [Code.run_display]
    exact hC.andThen _ _ (hshows subject spec) (ih hshows)
  | capture subject spec next ih =>
    rw [Code.run_capture]
    exact hC.capture _ _ (hshows subject spec) fun c => ih c hshows
  | setOverride type o next _ ih =>
    rw [Code.run_setOverride]
    exact hC.andThen _ _ (hC.setOverride type o) (ih hshows)
  | removeOverride type next ih =>
    rw [Code.run_removeOverride]
    exact hC.choose type (fun found => (Rendering.removal type).andThen
      ((next found.isSome).run _)) fun found =>
        hC.andThen _ _ (hC.removal type) (ih found.isSome hshows)
  | setLayout l next ih =>
    rw [Code.run_setLayout]
    exact hC.andThen _ _ (hC.setFormatter (.layout l)) (ih hshows)
  | setFormatter format next _ ih =>
    rw [Code.run_setFormatter]
    exact hC.andThen _ _ (hC.setFormatter (.code format)) (ih hshows)

theorem shown {f : Frame} (hp : ∀ spec, C (f.payload.display spec)) (spec : Spec) :
    C (f.shown spec) :=
  hC.choose f.typeName _ fun found => hC.shownBy hp found spec fun hook _ =>
    hC.code (hC.subjects hp) (hook.override f spec)

/-- Every payload, by induction on what is nested in it. -/
theorem payload (p : Payload) : ∀ spec, C (p.display spec) := by
  induction p using Payload.induct with
  | value v => exact hC.value v
  | report chain ih =>
    intro spec
    rw [Payload.display_report]
    refine hC.chainForm spec fun g hg => ?_
    obtain ⟨f, hf, rfl⟩ := List.mem_map.mp hg
    exact hC.frame f spec (hC.shown (ih f hf) spec)

theorem display (f : Frame) (spec : Spec) : C (f.display spec) :=
  hC.frame f spec (hC.shown (hC.payload f.payload) spec)

end FullyClosed

end Rendering

/-! ## Registries that displays leave alone -/

/-- Every override that is registered is code that leaves the registries alone. -/
def Hooks.Inert (h : Hooks) : Prop :=
  ∀ type hook, h.override? type = some hook → hook.override.Inert

theorem Hooks.inert_none : Hooks.none.Inert := by
  intro type hook hfound
  cases hfound

namespace Hooks.Inert
variable {h : Hooks} (inert : h.Inert)
include inert

omit inert in
theorem closed_leaves (h : Hooks) : Rendering.Closed fun f => f.leaves h = h where
  unmarked t ht := Rendering.leaves_steady ht h
  entered g := rfl
  andThen f g hf hg := by
    by_cases ok : (f h).ok = true
    · rw [Rendering.leaves_andThen_of_ok f g h ok, hf, hg]
    · rw [Rendering.leaves_andThen_of_not_ok f g h (by simpa using ok), hf]
  capture f next hf hnext := by rw [Rendering.leaves_capture, hf, hnext]

/-- What every way of putting displays together preserves holds of all frames, if a look-up from these
registries preserves it as well. -/
theorem display_of_closed {C : Rendering → Prop} (hC : Rendering.Closed C)
    (hframe : ∀ (f : Frame) spec,
      C (shownBy (h.override? f.typeName) f f.payload.display spec) → C (f.display spec))
    (f : Frame) (spec : Spec) : C (f.display spec) := by
  have hstep : ∀ f : Frame, (∀ spec, C (f.payload.display spec)) → ∀ spec, C (f.display spec) := by
    intro f hp spec
    refine hframe f spec (hC.shownBy hp (h.override? f.typeName) spec fun hook hfound => ?_)
    exact hC.code_of_inert (hC.subjects hp) _ (inert f.typeName hook hfound f spec)
  refine hstep f (fun spec => ?_) spec
  induction f.payload using Payload.induct generalizing spec with
  | value v => exact hC.value v spec
  | report chain ih =>
    rw [Payload.display_report]
    refine hC.chainForm spec fun g hg => ?_
    obtain ⟨f, hf, rfl⟩ := List.mem_map.mp hg
    exact hstep f (ih f hf) spec

theorem leaves_display (f : Frame) (spec : Spec) : (f.display spec).leaves h = h :=
  inert.display_of_closed (closed_leaves h)
    (fun f spec hshown => (f.leaves_display spec h).trans hshown) f spec

end Hooks.Inert

end CauseChain
