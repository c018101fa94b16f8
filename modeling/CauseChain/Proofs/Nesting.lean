import CauseChain.Proofs.Closure
import CauseChain.Proofs.Turns
import CauseChain.Report.Chain

/-!
# Reports within reports

A frame whose payload is a report, with the handler for things that have a display, is shown as this
report is. So the display of a report comes down to its pieces: frames of its own and frames of the
reports in it, at any depth, and an empty piece for every empty report. In the alternate form the
pieces stand in order with colons between them; in the other form there is the first piece only.
Every piece is displayed under the whole specification, and nothing else is. What overrides do to
the registries on the way does not matter, as long as none is found for the type of reports.
-/

set_option autoImplicit false

namespace CauseChain

/-! ## Pieces -/

mutual

/-- The pieces of a payload in its frame: those of the report that is shown, of which an empty one
leaves a piece without a frame, or the frame itself. -/
def Payload.pieces : Payload → Handler → Location → List (Option (FrameOf Payload))
  | .report chain, .display, _ => if chain.isEmpty then [none] else chainPieces chain
  | p, handler, l => [some ⟨p, handler, l⟩]

def chainPieces : List (FrameOf Payload) → List (Option (FrameOf Payload))
  | [] => []
  | ⟨p, handler, l⟩ :: below => p.pieces handler l ++ chainPieces below

end

mutual

/-- The frame that is reached from head to head through reports that are shown, unless one of them
is empty. -/
def Payload.front? : Payload → Handler → Location → Option (FrameOf Payload)
  | .report chain, .display, _ => chainFront? chain
  | p, handler, l => some ⟨p, handler, l⟩

def chainFront? : List (FrameOf Payload) → Option (FrameOf Payload)
  | [] => none
  | ⟨p, handler, l⟩ :: _ => p.front? handler l

end

def FrameOf.pieces (f : Frame) : List (Option Frame) := f.payload.pieces f.handler f.location

def FrameOf.front? (f : Frame) : Option Frame := f.payload.front? f.handler f.location

/-- How a piece is displayed: as its frame, or not at all if there is none. -/
def pieceDisplay (spec : Spec) (piece : Option Frame) : Rendering :=
  piece.elim Rendering.skip fun f => f.display spec

namespace FrameOf

theorem pieces_cases (f : Frame) :
    (f.pieces = [some f] ∧ f.front? = some f) ∨ ∃ chain l, f = ⟨.report chain, .display, l⟩ := by
  rcases f with ⟨v | chain, handler, l⟩
  · exact .inl ⟨rfl, rfl⟩
  · cases handler with
    | display => exact .inr ⟨chain, l, rfl⟩
    | _ => exact .inl ⟨rfl, rfl⟩

/-- What holds of a frame that is a piece of its own, and of a frame that shows a report whenever it
holds of the frames of this report, holds of every frame. -/
theorem induct {M : Frame → Prop}
    (own : ∀ f : Frame, f.pieces = [some f] → f.front? = some f → M f)
    (nested : ∀ (chain : List Frame) l, (∀ f ∈ chain, M f) → M ⟨.report chain, .display, l⟩)
    (f : Frame) : M f := by
  suffices h : ∀ p : Payload, ∀ handler l, M ⟨p, handler, l⟩ from h f.payload f.handler f.location
  intro p
  induction p using Payload.induct with
  | value v => exact fun handler l => own _ rfl rfl
  | report chain ih =>
    intro handler l
    rcases pieces_cases ⟨.report chain, handler, l⟩ with ⟨hown, hfront⟩ | ⟨chain', l', hf⟩
    · exact own _ hown hfront
    · cases hf
      exact nested chain l fun f hf => ih f hf f.handler f.location

end FrameOf

theorem chainPieces_cons (f : Frame) (below : List Frame) :
    chainPieces (f :: below) = f.pieces ++ chainPieces below := rfl

theorem FrameOf.pieces_nested_cons (head : Frame) (below : List Frame) (l : Location) :
    FrameOf.pieces ⟨.report (head :: below), .display, l⟩ = chainPieces (head :: below) := rfl

theorem FrameOf.pieces_ne_nil (f : Frame) : f.pieces ≠ [] := by
  induction f using FrameOf.induct with
  | own f hown hfront =>
    rw [hown]
    exact List.cons_ne_nil _ _
  | nested chain l ih =>
    cases chain with
    | nil => exact List.cons_ne_nil _ _
    | cons head below =>
      rw [pieces_nested_cons, chainPieces_cons]
      exact List.append_ne_nil_of_left_ne_nil (ih head List.mem_cons_self) (chainPieces below)

theorem chainPieces_ne_nil {chain : List Frame} (nonempty : chain ≠ []) :
    chainPieces chain ≠ [] := by
  obtain ⟨f, below, rfl⟩ := List.exists_cons_of_ne_nil nonempty
  rw [chainPieces_cons]
  exact List.append_ne_nil_of_left_ne_nil f.pieces_ne_nil (chainPieces below)

namespace Report

def pieces (r : Report) : List (Option Frame) := chainPieces r.frames

def front? (r : Report) : Option Frame := chainFront? r.frames

theorem display_of_alternate {spec : Spec} (alternate : spec.alternate = true) (r : Report) :
    r.display spec = Rendering.separated ": " (r.frames.map fun f => f.display spec) := by
  rw [display, chainForm, if_pos alternate]
  rfl

theorem display_of_not_alternate {spec : Spec} (alternate : spec.alternate = false) (r : Report) :
    r.display spec = (r.frames.head?.map fun f => f.display spec).getD Rendering.skip := by
  rw [display, chainForm, if_neg (by simp [alternate]), List.head?_map]

end Report

/-! ## Runs that write the same -/

namespace Rendering

/-- From these hooks, both write the same and leave the same. -/
structure Agree (h : Hooks) (f g : Rendering) : Prop where
  captured : f.captured h = g.captured h
  leaves : f.leaves h = g.leaves h

variable {h : Hooks} {f g f' g' : Rendering}

theorem Agree.refl (h : Hooks) (f : Rendering) : Agree h f f := ⟨rfl, rfl⟩

theorem Agree.trans {k : Rendering} (hfg : Agree h f g) (hgk : Agree h g k) : Agree h f k :=
  ⟨hfg.captured.trans hgk.captured, hfg.leaves.trans hgk.leaves⟩

theorem Agree.andThen (hf : Agree h f f') (hg : (f h).ok = true → Agree (f.leaves h) g g') :
    Agree h (f.andThen g) (f'.andThen g') := by
  have hok : (f h).ok = (f' h).ok := congrArg Captured.ok hf.captured
  by_cases ok : (f h).ok = true
  · obtain ⟨hcaptured, hleaves⟩ := hg ok
    constructor
    · rw [captured_andThen, captured_andThen, ← hf.captured, ← hf.leaves, hcaptured]
    · rw [leaves_andThen_of_ok f g h ok, leaves_andThen_of_ok f' g' h (hok ▸ ok), ← hf.leaves,
        hleaves]
  · have failed : (f h).ok = false := by simpa using ok
    have failed' : (f' h).ok = false := hok ▸ failed
    constructor
    · rw [captured_andThen, captured_andThen, ← hf.captured,
        Captured.andThen_of_not_ok failed, Captured.andThen_of_not_ok failed]
    · rw [leaves_andThen_of_not_ok f g h failed, leaves_andThen_of_not_ok f' g' h failed',
        hf.leaves]

/-! ## Types that no override is found for -/

/-- From these hooks, no look-up finds an override for the type. -/
def Overlooks (f : Rendering) (type : String) (h : Hooks) : Prop :=
  ∀ hook, .found type (some hook) ∉ (f h).marks

variable {type : String}

theorem Overlooks.left (hfg : (f.andThen g).Overlooks type h) : f.Overlooks type h := by
  intro hook hmem
  apply hfg hook
  by_cases ok : (f h).ok = true
  · rw [andThen_of_ok f g h ok, Transcript.marks_append _ _ ok]
    exact List.mem_append_left _ hmem
  · rwa [andThen_of_not_ok f g h (by simpa using ok)]

theorem Overlooks.right (hfg : (f.andThen g).Overlooks type h) (ok : (f h).ok = true) :
    g.Overlooks type (f.leaves h) := by
  intro hook hmem
  apply hfg hook
  rw [andThen_of_ok f g h ok, Transcript.marks_append _ _ ok]
  exact List.mem_append_right _ hmem

end Rendering

/-- Where overrides leave the registries alone, none is found for a type that has none. -/
theorem Hooks.Inert.overlooks {h : Hooks} (inert : h.Inert) {type : String}
    (free : h.override? type = Option.none) (r : Report) (spec : Spec) :
    (r.display spec).Overlooks type h := by
  have hC : Rendering.Closed fun f => f.leaves h = h ∧ f.Overlooks type h := by
    have hleaves := closed_leaves h
    refine ⟨fun t ht => ⟨hleaves.unmarked t ht, fun hook => ?_⟩, fun g => ⟨rfl, fun hook => ?_⟩,
      fun f g hf hg => ⟨hleaves.andThen f g hf.1 hg.1, fun hook => ?_⟩,
      fun f next hf hnext => ⟨hleaves.capture f next hf.1 fun c => (hnext c).1, fun hook => ?_⟩⟩
    · rw [Rendering.steady, ht]
      exact List.not_mem_nil
    · simp [Rendering.steady]
    · by_cases ok : (f h).ok = true
      · rw [Rendering.andThen_of_ok f g h ok, Transcript.marks_append _ _ ok, hf.1]
        exact fun hmem => (List.mem_append.mp hmem).elim (hf.2 hook) (hg.2 hook)
      · rw [Rendering.andThen_of_not_ok f g h (by simpa using ok)]
        exact hf.2 hook
    · rw [Rendering.capture_eq, Transcript.marks_append _ _ (Transcript.ok_muted _),
        Transcript.marks_muted, hf.1]
      exact fun hmem => (List.mem_append.mp hmem).elim (hf.2 hook) ((hnext _).2 hook)
  have hframe : ∀ f spec, (FrameOf.display f spec).leaves h = h ∧
      (FrameOf.display f spec).Overlooks type h := by
    refine inert.display_of_closed hC fun f spec hshown => ⟨?_, fun hook hmem => ?_⟩
    · exact (f.leaves_display spec h).trans hshown.1
    · rw [FrameOf.marks_display] at hmem
      simp only [List.mem_cons, reduceCtorEq, HookEvent.found.injEq, false_or] at hmem
      rcases hmem with ⟨rfl, hfound⟩ | hlater
      · rw [free] at hfound
        cases hfound
      · exact hshown.2 hook hlater
  have hreport : (r.display spec).leaves h = h ∧ (r.display spec).Overlooks type h := by
    refine hC.chainForm spec fun g hg => ?_
    obtain ⟨f, -, rfl⟩ := List.mem_map.mp hg
    exact hframe f spec
  exact hreport.2

/-! ## A report in a frame -/

section Nested
variable {spec : Spec} {h : Hooks}

theorem agree_nested {chain : List Frame} {l : Location}
    (free : (FrameOf.display ⟨.report chain, .display, l⟩ spec).Overlooks TypeName.report h) :
    Rendering.Agree h (FrameOf.display ⟨.report chain, .display, l⟩ spec)
        ((Report.mk chain).display spec) ∧
      ((Report.mk chain).display spec).Overlooks TypeName.report h := by
  generalize hf : (⟨.report chain, .display, l⟩ : Frame) = f at free
  have htype : f.typeName = TypeName.report := by
    subst hf
    rfl
  have hnone : h.override? f.typeName = none := by
    rw [htype]
    cases hfound : h.override? TypeName.report with
    | none => rfl
    | some hook =>
      refine absurd ?_ (free hook)
      rw [FrameOf.marks_display, htype, hfound]
      simp
  have hshown : f.shown spec h = (Report.mk chain).display spec h := by
    rw [FrameOf.shown_of_none spec hnone, ← Payload.display_report]
    subst hf
    rfl
  refine ⟨⟨?_, ?_⟩, fun hook hmem => free hook ?_⟩
  · rw [FrameOf.captured_display, Rendering.captured, hshown, Rendering.captured]
  · rw [FrameOf.leaves_display, Rendering.leaves, hshown, Rendering.leaves]
  · rw [FrameOf.marks_display, hshown]
    exact List.mem_cons_of_mem _ (List.mem_cons_of_mem _ (List.mem_cons_of_mem _ hmem))

theorem agree_chainPieces {chain : List Frame}
    (hframes : ∀ f ∈ chain, ∀ h, (f.display spec).Overlooks TypeName.report h →
      Rendering.Agree h (f.display spec)
        (Rendering.separated ": " (f.pieces.map (pieceDisplay spec))))
    (free : (Rendering.separated ": " (chain.map fun f => f.display spec)).Overlooks
      TypeName.report h) :
    Rendering.Agree h (Rendering.separated ": " (chain.map fun f => f.display spec))
      (Rendering.separated ": " ((chainPieces chain).map (pieceDisplay spec))) := by
  induction chain generalizing h with
  | nil => exact .refl h _
  | cons f rest ih =>
    have hf := hframes f List.mem_cons_self
    by_cases hrest : rest = []
    · subst rest
      rw [List.map_singleton, Rendering.separated_singleton] at free ⊢
      rw [chainPieces_cons, chainPieces, List.append_nil]
      exact hf h free
    · have hmore : (rest.map fun f => f.display spec) ≠ [] := by simpa using hrest
      rw [List.map_cons, Rendering.separated_cons ": " _ hmore] at free ⊢
      rw [chainPieces_cons, List.map_append, Rendering.separated_append ": "
        (by simpa using f.pieces_ne_nil) (by simpa using chainPieces_ne_nil hrest)]
      refine (hf h free.left).andThen fun ok => ?_
      refine (Rendering.Agree.refl _ (Rendering.text ": ")).andThen fun _ => ?_
      exact ih (fun g hg => hframes g (List.mem_cons_of_mem f hg)) ((free.right ok).right rfl)

theorem agree_pieces (alternate : spec.alternate = true) (f : Frame) :
    ∀ h, (f.display spec).Overlooks TypeName.report h →
      Rendering.Agree h (f.display spec)
        (Rendering.separated ": " (f.pieces.map (pieceDisplay spec))) := by
  induction f using FrameOf.induct with
  | own f hown hfront =>
    intro h free
    rw [hown, List.map_singleton, Rendering.separated_singleton]
    exact .refl h _
  | nested chain l ih =>
    intro h free
    obtain ⟨hagree, hfree⟩ := agree_nested free
    refine hagree.trans ?_
    rw [Report.display_of_alternate alternate] at hfree ⊢
    cases chain with
    | nil => exact .refl h _
    | cons head below => exact agree_chainPieces ih hfree

theorem agree_front (alternate : spec.alternate = false) (f : Frame) :
    ∀ h, (f.display spec).Overlooks TypeName.report h →
      Rendering.Agree h (f.display spec) (pieceDisplay spec f.front?) := by
  induction f using FrameOf.induct with
  | own f hown hfront =>
    intro h free
    rw [hfront]
    exact .refl h _
  | nested chain l ih =>
    intro h free
    obtain ⟨hagree, hfree⟩ := agree_nested free
    refine hagree.trans ?_
    rw [Report.display_of_not_alternate alternate] at hfree ⊢
    cases chain with
    | nil => exact .refl h _
    | cons head below => exact ih head List.mem_cons_self h hfree

end Nested

namespace Report

/-- Whatever is nested in whatever: the alternate display of a report is that of its pieces with
colons between them, each under the whole specification, and its other display is that of the frame
in front, or empty. Set under another report, its alternate display follows the other's after a
colon. -/
theorem display_in_pieces (spec : Spec) :
    (∀ (r : Report) (h : Hooks), (r.display spec).Overlooks TypeName.report h →
      (spec.alternate = true → (r.display spec).captured h =
        .joined ": " (Rendering.each (r.pieces.map (pieceDisplay spec)) h)) ∧
      (spec.alternate = false → (r.display spec).captured h =
        (pieceDisplay spec r.front?).captured h)) ∧
    (spec.alternate = true → ∀ a b : Report, a.frames ≠ [] → b.frames ≠ [] →
      (a.under b).display spec =
        (b.display spec).andThen ((Rendering.text ": ").andThen (a.display spec))) := by
  refine ⟨fun r h free => ⟨fun alternate => ?_, fun alternate => ?_⟩, fun alternate a b ha hb => ?_⟩
  · rw [display_of_alternate alternate] at free ⊢
    have hagree := agree_chainPieces (fun f _ => agree_pieces alternate f) free
    rw [hagree.captured, Rendering.captured_separated]
    rfl
  · rw [display_of_not_alternate alternate] at free ⊢
    rcases r with ⟨_ | ⟨head, below⟩⟩
    · rfl
    · exact (agree_front alternate head h free).captured
  · have ha' : (a.frames.map fun f => f.display spec) ≠ [] := by simpa using ha
    have hb' : (b.frames.map fun f => f.display spec) ≠ [] := by simpa using hb
    rw [display_of_alternate alternate, display_of_alternate alternate,
      display_of_alternate alternate, frames_under, List.map_append,
      Rendering.separated_append ": " hb' ha']

/-- A width is a width for every piece, and an empty report is a piece without any text. -/
theorem display_in_pieces_padded :
    let l : Location := ⟨"main.rs", 3, 5⟩
    let inner : Report := ⟨[⟨.value (.string "b"), .display, l⟩, ⟨.report [], .display, l⟩]⟩
    let outer : Report := ⟨[⟨inner.payload, .display, l⟩, ⟨.value (.literal "a"), .display, l⟩]⟩
    let spec : Spec := { alternate := true, align := some .right, width := 3 }
    let headOnly : Spec := { align := some .right, width := 3 }
    (outer.display spec).Overlooks TypeName.report .none ∧
      (outer.display headOnly).Overlooks TypeName.report .none ∧
      (outer.display spec).captured .none = ⟨"  b: :   a", true⟩ ∧
      (outer.display headOnly).captured .none = ⟨"  b", true⟩ ∧
      (outer.under inner).display spec =
        (inner.display spec).andThen ((Rendering.text ": ").andThen (outer.display spec)) := by
  intro l inner outer spec headOnly
  have free : ∀ spec, (outer.display spec).Overlooks TypeName.report .none :=
    Hooks.inert_none.overlooks rfl outer
  have hpieces := (display_in_pieces spec).1 outer .none (free spec)
  have hfront := (display_in_pieces headOnly).1 outer .none (free headOnly)
  have hunder := (display_in_pieces spec).2 rfl outer inner (List.cons_ne_nil _ _)
    (List.cons_ne_nil _ _)
  refine ⟨free spec, free headOnly, (hpieces.1 rfl).trans ?_, (hfront.2 rfl).trans ?_, hunder⟩
  · decide +kernel
  · decide +kernel

end Report

end CauseChain
