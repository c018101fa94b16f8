import CauseChain.Report.Outcome

/-!
# Layers upon a computation

A value passes every layer as it is. Anything else becomes a report at the first layer, unless it is
one already, and every layer that has a context puts one frame on top. So the frames of the outcome
are the contexts, the last layer's first, over what the first layer made of the start.
-/

set_option autoImplicit false

namespace CauseChain

namespace Layer

/-- The frame that a layer puts on a report, if it has a context. -/
def frame? (layer : Layer) : Option Frame :=
  match layer.addition with
  | none => none
  | some ⟨.eager, p⟩ => some ⟨p, .display, layer.location⟩
  | some ⟨.lazy, p⟩ => some ⟨p, .display, layer.location⟩
  | some ⟨.custom handler, p⟩ => some ⟨p, handler, layer.location⟩

/-- Whether a layer has a context that is only made when it is needed. -/
def isDeferred (layer : Layer) : Bool :=
  match layer.addition with
  | some ⟨.lazy, _⟩ => true
  | _ => false

/-- The context that a layer is given, used or not. -/
def context? (layer : Layer) : Option Payload := layer.addition.map Addition.context

/-- The frames that layers put on a report, the last layer's first. -/
def frames (layers : List Layer) : List Frame := (layers.filterMap frame?).reverse

theorem frames_cons (layer : Layer) (rest : List Layer) :
    frames (layer :: rest) = frames rest ++ layer.frame?.toList := by
  rw [frames, List.filterMap_cons]
  cases layer.frame? with
  | none => exact (List.append_nil _).symm
  | some f => exact List.reverse_cons

theorem isSome_frame? (layer : Layer) : layer.frame?.isSome = layer.addition.isSome := by
  rcases layer with ⟨_ | ⟨manner, p⟩, l⟩
  · rfl
  · cases manner <;> rfl

theorem length_frames (layers : List Layer) :
    (frames layers).length = layers.countP fun layer => layer.addition.isSome := by
  rw [frames, List.length_reverse, List.length_filterMap_eq_countP]
  simp only [isSome_frame?]

/-! ## One layer -/

theorem apply_value (layer : Layer) (v : Value) :
    layer.apply (.value v) = { outcome := .ok v, unused := layer.context? } :=
  rfl

theorem apply_of_report {layer : Layer} {start : Start} {r : Report}
    (h : start.outcome layer.location = .error r) :
    layer.apply start =
      { outcome := .error ⟨layer.frame?.toList ++ r.frames⟩, called := layer.isDeferred } := by
  unfold apply
  rw [h]
  rcases layer with ⟨_ | ⟨manner, p⟩, l⟩
  · rfl
  · cases manner <;> rfl

/-- What a start becomes at the first layer decides all that follows. -/
theorem applyAll_of_report {first : Layer} {start : Start} {r : Report}
    (h : start.outcome first.location = .error r) (rest : List Layer) :
    applyAll start (first :: rest) = applyAll (.report r) (first :: rest) := by
  have hreport : (Start.report r).outcome first.location = .error r := rfl
  rw [applyAll, applyAll, apply_of_report h, apply_of_report hreport]

/-! ## Any number of layers -/

theorem applyAll_value (v : Value) (layers : List Layer) :
    applyAll (.value v) layers =
      (.value v, layers.map fun layer => { outcome := .ok v, unused := layer.context? }) := by
  induction layers with
  | nil => rfl
  | cons layer rest ih =>
    rw [applyAll, apply_value]
    simp only [Start.ofOutcome, ih, List.map_cons]

/-- Layers ended in a report: their contexts stand over a chain, each context that is only made when
it is needed was made at its layer, no other one was, and none was left over. -/
structure EndIn (layers : List Layer) (below : List Frame) (run : Start × List Layered) : Prop where
  report : run.1 = .report ⟨frames layers ++ below⟩
  called : run.2.map Layered.called = layers.map isDeferred
  unused : run.2.map Layered.unused = layers.map fun _ => none

theorem endIn_applyAll_report (r : Report) (layers : List Layer) :
    EndIn layers r.frames (applyAll (.report r) layers) := by
  induction layers generalizing r with
  | nil => exact ⟨rfl, rfl, rfl⟩
  | cons layer rest ih =>
    have hreport : (Start.report r).outcome layer.location = .error r := rfl
    have hrest := ih ⟨layer.frame?.toList ++ r.frames⟩
    rw [applyAll, apply_of_report hreport]
    refine ⟨hrest.report.trans ?_, ?_, ?_⟩
    · rw [frames_cons, List.append_assoc]
    · exact congrArg (layer.isDeferred :: ·) hrest.called
    · exact congrArg (none :: ·) hrest.unused

theorem endIn_applyAll {first : Layer} {start : Start} {r : Report}
    (h : start.outcome first.location = .error r) (rest : List Layer) :
    EndIn (first :: rest) r.frames (applyAll start (first :: rest)) := by
  rw [applyAll_of_report h]
  exact endIn_applyAll_report r (first :: rest)

/-- What layers make of a computation, of which there is at least one. A value comes back from every
layer, with no context made and every context left over. An error, or nothing where a value of a type
was expected, is the root of a report, displayed as an error and placed at the first layer; a report
stays as it is. Over this stand the contexts of the layers, the last one first. -/
theorem layers_add_contexts (first : Layer) (rest : List Layer) :
    let layers := first :: rest
    (∀ v : Value, applyAll (.value v) layers =
      (.value v, layers.map fun layer =>
        { outcome := .ok v, called := false, unused := layer.context? })) ∧
    (∀ e : Value, EndIn layers [⟨.value e, .error, first.location⟩] (applyAll (.error e) layers)) ∧
    (∀ type : String, EndIn layers [⟨.value (.missing ⟨type⟩), .error, first.location⟩]
      (applyAll (.nothing type) layers)) ∧
    ∀ r : Report, EndIn layers r.frames (applyAll (.report r) layers) ∧
      (Report.mk (frames layers ++ r.frames)).count =
        r.count + layers.countP fun layer => layer.addition.isSome := by
  intro layers
  refine ⟨fun v => applyAll_value v layers, fun e => ?_, fun type => ?_, fun r => ⟨?_, ?_⟩⟩
  · have herror : (Start.error e).outcome first.location =
        .error ⟨[⟨.value e, .error, first.location⟩]⟩ := rfl
    exact endIn_applyAll herror rest
  · have hnothing : (Start.nothing type).outcome first.location =
        .error ⟨[⟨.value (.missing ⟨type⟩), .error, first.location⟩]⟩ := rfl
    exact endIn_applyAll hnothing rest
  · exact endIn_applyAll_report r layers
  · rw [Report.count, List.length_append, length_frames, Nat.add_comm]
    rfl

end Layer

end CauseChain
