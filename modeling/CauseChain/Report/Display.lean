import CauseChain.Hooks.Rendering
import CauseChain.Value.Display

/-!
# Displaying reports

A frame is displayed by the override for its payload type, if one is registered, and else by its
handler. A report is displayed as its latest frame, or in the alternate form as all its frames
with colons between them; either way every frame is displayed under the specification given for
the report. A payload that is a report is displayed as that report is.
-/

set_option autoImplicit false

namespace CauseChain

/-- Frames already turned into displays, put together as the display of their report. -/
def chainForm (spec : Spec) (frames : List Rendering) : Rendering :=
  if spec.alternate then Rendering.all (frames.intersperse (Rendering.text ": "))
  else frames.head?.getD Rendering.skip

/-- How a handler displays a payload of a named type, given how the payload displays itself. -/
def Handler.apply (handler : Handler) (type : String) (payload : Spec → Rendering) (spec : Spec) :
    Rendering :=
  match handler with
  | .error => payload spec
  | .display => payload spec
  | .any => Rendering.text (TypeName.placeholder type)
  | .reworded r => (payload .plain).capture fun c =>
    if c.ok then Rendering.text (r.display c.text) else Rendering.failure

/-- What the subjects of an override are, for a frame with a payload that displays itself so. -/
def overrideSubjects (f : Frame) (payload : Spec → Rendering) : Subject .override → Spec → Rendering
  | .handled => f.handler.apply f.typeName payload
  | .payload => payload

/-- How an override displays a frame, given how the payload displays itself. -/
def Override.show (o : Override) (f : Frame) (payload : Spec → Rendering) (spec : Spec) :
    Rendering :=
  (o f spec).run (overrideSubjects f payload)

/-- How a stored override displays a frame: one that was registered for another type than that of
the payload leaves the frame to its handler. -/
def Hook.show (hook : Hook) (f : Frame) (payload : Spec → Rendering) (spec : Spec) : Rendering :=
  if f.holds hook.type then Rendering.guest .override (hook.override.show f payload spec)
  else f.handler.apply f.typeName payload spec

/-- How a frame is displayed by the hook that was found for it, or by its handler. -/
def shownBy (found : Option Hook) (f : Frame) (payload : Spec → Rendering) (spec : Spec) :
    Rendering :=
  match found with
  | some hook => hook.show f payload spec
  | none => f.handler.apply f.typeName payload spec

/-- How a frame is displayed, given how its payload displays itself. -/
def hooked (f : Frame) (payload : Spec → Rendering) (spec : Spec) : Rendering := fun h =>
  h.lookUpOverride f.typeName ++ shownBy (h.override? f.typeName) f payload spec h

mutual

def Payload.display : Payload → Spec → Rendering
  | .value v, spec => Rendering.guest .payload (Rendering.steady (v.display spec))
  | .report chain, spec => chainForm spec (displaysOnto chain spec []).reverse

def displaysOnto : List (FrameOf Payload) → Spec → List Rendering → List Rendering
  | [], _, done => done
  | f :: below, spec, done => displaysOnto below spec (f.display spec :: done)

def FrameOf.display : FrameOf Payload → Spec → Rendering
  | ⟨p, handler, location⟩, spec => hooked ⟨p, handler, location⟩ (fun s => p.display s) spec

end

/-- How a frame is displayed by its handler, whatever overrides are registered. -/
def FrameOf.unhooked (f : Frame) (spec : Spec) : Rendering :=
  f.handler.apply f.typeName f.payload.display spec

def Report.display (r : Report) (spec : Spec) : Rendering :=
  chainForm spec (r.frames.map fun f => f.display spec)

/-! ## The displays of a chain -/

theorem displaysOnto_eq (fs : List Frame) (spec : Spec) (done : List Rendering) :
    displaysOnto fs spec done = (fs.map fun f => f.display spec).reverse ++ done := by
  induction fs generalizing done with
  | nil => rfl
  | cons f below ih => simp [displaysOnto, ih]

@[simp] theorem Payload.display_report (chain : List Frame) (spec : Spec) :
    (Payload.report chain).display spec = (Report.mk chain).display spec := by
  simp [Payload.display, Report.display, displaysOnto_eq]

theorem FrameOf.display_eq (f : Frame) (spec : Spec) :
    f.display spec = hooked f f.payload.display spec := by
  cases f
  rfl

/-! ## The display of a frame -/

namespace FrameOf
variable (f : Frame) (spec : Spec) (h : Hooks)

/-- How a frame is displayed by the override in force, or by its handler. -/
def shown : Rendering := fun h => shownBy (h.override? f.typeName) f f.payload.display spec h

theorem display_apply : f.display spec h = h.lookUpOverride f.typeName ++ f.shown spec h := by
  rw [display_eq]
  rfl

theorem marks_display : (f.display spec h).marks =
    .acquired .overrides :: .found f.typeName (h.override? f.typeName) :: .released .overrides
      :: (f.shown spec h).marks := by
  rw [display_apply, Transcript.marks_append _ _ rfl, Hooks.lookUpOverride, Hooks.marks_marked]
  rfl

theorem captured_display : (f.display spec).captured h = (f.shown spec).captured h := by
  rw [Rendering.captured, display_apply, Transcript.text_append _ _ rfl, Transcript.ok_append]
  simp [Hooks.lookUpOverride, Rendering.captured]

theorem leaves_display : (f.display spec).leaves h = (f.shown spec).leaves h := by
  rw [Rendering.leaves, display_apply, Hooks.after_append h _ _ rfl, Hooks.after_lookUpOverride]
  rfl

variable {f h}

theorem shown_of_none (found : h.override? f.typeName = none) :
    f.shown spec h = f.unhooked spec h := by
  rw [shown, found]
  rfl

theorem shown_of_some {hook : Hook} (found : h.override? f.typeName = some hook)
    (type : hook.type = f.typeName) :
    f.shown spec h =
      Rendering.guest .override (hook.override.show f f.payload.display spec) h := by
  rw [shown, found, shownBy, Hook.show, if_pos]
  simp [holds, type]

end FrameOf

end CauseChain
