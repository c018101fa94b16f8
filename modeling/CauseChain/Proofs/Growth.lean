import CauseChain.Hooks.Stock
import CauseChain.Proofs.Closure
import CauseChain.Proofs.Lines
import CauseChain.Report.Chain

/-!
# Rendering grows with the chain

A layout writes a banner, the line of the root and a numbered line for every later context. Whatever
is put on top of a report that is not empty adds lines at the end, and leaves what was rendered
before as it is. The overrides are fixed: the display of a frame may change the formatter, but
leaves the overrides as it found them. What a display writes depends on the overrides alone.
-/

set_option autoImplicit false

namespace CauseChain

/-! ## Displays depend on the overrides alone -/

/-- What a run writes, and what overrides it leaves, depends on no more than the overrides. -/
def Rendering.ByOverrides (f : Rendering) : Prop :=
  ∀ h h' : Hooks, h.override? = h'.override? →
    f.captured h = f.captured h' ∧ (f.leaves h).override? = (f.leaves h').override?

theorem Hooks.override?_apply {h h' : Hooks} (same : h.override? = h'.override?) (e : HookEvent) :
    (h.apply e).override? = (h'.apply e).override? := by
  cases e with
  | overrideSet type o => simp only [apply, same]
  | overrideRemoved type => simp only [apply, same]
  | _ => exact same

theorem Hooks.override?_applyAll {h h' : Hooks} (same : h.override? = h'.override?)
    (es : List HookEvent) : (h.applyAll es).override? = (h'.applyAll es).override? := by
  induction es generalizing h h' with
  | nil => exact same
  | cons e rest ih => exact ih (override?_apply same e)

namespace Rendering

theorem byOverrides_of_eq {f : Rendering}
    (hf : ∀ h h' : Hooks, h.override? = h'.override? → f h = f h') : f.ByOverrides := by
  intro h h' same
  refine ⟨by rw [captured, captured, hf h h' same], ?_⟩
  rw [leaves, leaves, hf h h' same, Hooks.after_eq_applyAll, Hooks.after_eq_applyAll]
  exact Hooks.override?_applyAll same (f h').marks

theorem byOverrides_steady (t : Transcript HookEvent) : (steady t).ByOverrides :=
  byOverrides_of_eq fun _ _ _ => rfl

theorem ByOverrides.andThen {f g : Rendering} (hf : f.ByOverrides) (hg : g.ByOverrides) :
    (f.andThen g).ByOverrides := by
  intro h h' same
  -- both runs of `f` write the same and leave the same overrides, and this is all that `g` sees
  obtain ⟨hcaptured, hleaves⟩ := hf h h' same
  obtain ⟨hcaptured', hleaves'⟩ := hg _ _ hleaves
  have hok : (f h).ok = (f h').ok := congrArg Captured.ok hcaptured
  refine ⟨by rw [captured_andThen, captured_andThen, hcaptured, hcaptured'], ?_⟩
  by_cases ok : (f h).ok = true
  · rw [leaves_andThen_of_ok f g h ok, leaves_andThen_of_ok f g h' (hok ▸ ok), hleaves']
  · have failed : (f h).ok = false := by simpa using ok
    rw [leaves_andThen_of_not_ok f g h failed, leaves_andThen_of_not_ok f g h' (hok ▸ failed),
      hleaves]

theorem hasOverride_congr {h h' : Hooks} (same : h.override? = h'.override?) (type : String) :
    h.hasOverride type = h'.hasOverride type := by
  rw [Hooks.hasOverride, Hooks.hasOverride, same]

theorem fullyClosed_byOverrides : FullyClosed ByOverrides where
  unmarked t _ := byOverrides_steady t
  entered g := byOverrides_steady _
  andThen f g hf hg := hf.andThen hg
  capture f next hf hnext := by
    intro h h' same
    obtain ⟨hcaptured, hleaves⟩ := hf h h' same
    rw [captured_capture, captured_capture, leaves_capture, leaves_capture, hcaptured]
    exact hnext (f.captured h') (f.leaves h) (f.leaves h') hleaves
  choose type F hF := by
    intro h h' same
    have hfound : h.override? type = h'.override? type := by rw [same]
    have hsame := hF (h.override? type) h h' same
    refine ⟨hsame.1.trans ?_, hsame.2.trans ?_⟩ <;> rw [hfound] <;> rfl
  setOverride type o := byOverrides_of_eq fun h h' same => by
    rw [Hooks.setOverride, Hooks.setOverride, hasOverride_congr same]
  removal type := byOverrides_of_eq fun h h' same => by
    rw [removal, removal, Hooks.removeOverride, Hooks.removeOverride, hasOverride_congr same]
  -- the events of this change may differ: one registry may hold a formatter, and the other none
  setFormatter f := by
    have hkeeps : ∀ h : Hooks, (leaves (Hooks.setFormatter f) h).override? = h.override? := by
      intro h
      rw [leaves, Hooks.after_eq_applyAll, Hooks.setFormatter, Hooks.marks_marked]
      cases h.formatter? <;> rfl
    intro h h' same
    refine ⟨by simp [captured, Hooks.setFormatter], ?_⟩
    rw [hkeeps, hkeeps, same]
  frame f spec hshown := by
    intro h h' same
    rw [FrameOf.captured_display, FrameOf.captured_display, FrameOf.leaves_display,
      FrameOf.leaves_display]
    exact hshown h h' same

/-! ## Runs at fixed overrides -/

/-- A run that comes to its end and leaves the overrides as they are. -/
structure Succeeds (f : Rendering) (h : Hooks) : Prop where
  byOverrides : f.ByOverrides
  ok : (f h).ok = true
  fixed : (f.leaves h).override? = h.override?

theorem each_congr {fs : List Rendering} {h h' : Hooks} (hfs : ∀ f ∈ fs, f.ByOverrides)
    (same : h.override? = h'.override?) : each fs h = each fs h' := by
  induction fs generalizing h h' with
  | nil => rfl
  | cons f rest ih =>
    obtain ⟨hcaptured, hleaves⟩ := hfs f List.mem_cons_self h h' same
    have hok : (f h).ok = (f h').ok := congrArg Captured.ok hcaptured
    have hrest := ih (fun g hg => hfs g (List.mem_cons_of_mem f hg)) hleaves
    rw [each, each, hcaptured, hok, hrest]

variable {h : Hooks}

theorem each_append_of_succeeds {before later : List Rendering}
    (hbefore : ∀ f ∈ before, f.Succeeds h) (hlater : ∀ f ∈ later, f.ByOverrides) :
    each (before ++ later) h = before.map (fun f => f.captured h) ++ each later h := by
  induction before with
  | nil => rfl
  | cons f rest ih =>
    have hf := hbefore f List.mem_cons_self
    have hrest : ∀ g ∈ rest, g.Succeeds h := fun g hg => hbefore g (List.mem_cons_of_mem f hg)
    have hby : ∀ g ∈ rest ++ later, g.ByOverrides := by
      intro g hg
      rcases List.mem_append.mp hg with hg | hg
      · exact (hrest g hg).byOverrides
      · exact hlater g hg
    rw [List.cons_append, each_cons_of_ok hf.ok, each_congr hby hf.fixed, ih hrest]
    rfl

theorem each_of_succeeds {fs : List Rendering} (hfs : ∀ f ∈ fs, f.Succeeds h) :
    each fs h = fs.map fun f => f.captured h := by
  have heach := each_append_of_succeeds hfs (List.forall_mem_nil ByOverrides)
  rwa [List.append_nil, each, List.append_nil] at heach

end Rendering

/-! ## Lines -/

/-- A frame is displayed to its end, and the overrides stay the same. -/
def Hooks.Shows (h : Hooks) (f : Frame) : Prop :=
  (f.display .plain h).ok = true ∧ ((f.display .plain).leaves h).override? = h.override?

def Hooks.message (h : Hooks) (f : Frame) : String := (f.display .plain h).text

theorem Hooks.Inert.shows {h : Hooks} (inert : h.Inert) {f : Frame}
    (ok : (f.display .plain h).ok = true) : h.Shows f :=
  ⟨ok, by rw [inert.leaves_display]⟩

theorem Hooks.Shows.succeeds {h : Hooks} {f : Frame} (shows : h.Shows f) :
    (f.display .plain).Succeeds h :=
  ⟨Rendering.fullyClosed_byOverrides.display f .plain, shows.1, shows.2⟩

/-- Every frame has its turn, and comes to what it comes to at the start. -/
theorem Hooks.each_of_shows {h : Hooks} {fs : List Frame} (shows : ∀ f ∈ fs, h.Shows f) :
    Rendering.each (fs.map fun f => f.display .plain) h =
      fs.map fun f => (f.display .plain).captured h := by
  have hdisplays : ∀ d ∈ fs.map (fun f => f.display .plain), d.Succeeds h :=
    List.forall_mem_map.mpr fun f hf => (shows f hf).succeeds
  rw [Rendering.each_of_succeeds hdisplays, List.map_map]
  rfl

namespace Layout
variable (l : Layout) (o : Options) {h : Hooks}

/-- The lines of frames that are given from the oldest on, with so many frames below the first. -/
def shownLines (h : Hooks) (n : Nat) (fs : List Frame) : List String :=
  (fs.zipIdx n).map fun (f, n) => l.lineText o n f (h.message f)

/-- The lines of contexts that are given from the oldest on, and numbered from `first` on. -/
def contextTexts (h : Hooks) (first : Nat) (contexts : List Frame) : List String :=
  (contexts.zipIdx first).map fun (c, index) => l.lineText o (index + 1) c (h.message c)

theorem shownLines_succ (first : Nat) (contexts : List Frame) :
    l.shownLines o h (first + 1) contexts = l.contextTexts o h first contexts := by
  rw [shownLines, contextTexts, List.zipIdx_succ, List.map_map]
  rfl

theorem shownLines_append (n : Nat) (fs later : List Frame) :
    l.shownLines o h n (fs ++ later) =
      l.shownLines o h n fs ++ l.shownLines o h (n + fs.length) later := by
  rw [shownLines, List.zipIdx_append, List.map_append]
  rfl

theorem linesSoFar_of_shows (n : Nat) {fs : List Frame} (shows : ∀ f ∈ fs, h.Shows f) :
    l.linesSoFar o n fs (fs.map fun f => (f.display .plain).captured h) =
      l.shownLines o h n fs := by
  induction fs generalizing n with
  | nil => rfl
  | cons f rest ih =>
    have hf : ((f.display .plain).captured h).ok = true := (shows f List.mem_cons_self).1
    have hrest := ih (n + 1) fun g hg => shows g (List.mem_cons_of_mem f hg)
    rw [List.map_cons, linesSoFar_cons, l.lineSoFar_of_ok o n f hf, hrest]
    rfl

theorem captured_render (r : Report) (shows : ∀ f ∈ r.frames, h.Shows f) :
    (l.render r o).captured h =
      ⟨l.bannerText o ++ String.join (l.shownLines o h 0 r.frames.reverse), true⟩ := by
  have holdest : ∀ f ∈ r.frames.reverse, h.Shows f := fun f hf => shows f (List.mem_reverse.mp hf)
  have hok : ∀ turn ∈ r.frames.reverse.map fun f => (f.display .plain).captured h,
      turn.ok = true := List.forall_mem_map.mpr fun f hf => (holdest f hf).1
  rw [captured_render_eq, Hooks.each_of_shows holdest, l.linesSoFar_of_shows o 0 holdest,
    List.all_eq_true.mpr hok]

/-- Frames on top of others get lines after theirs. -/
theorem captured_render_append {newer older : List Frame}
    (shows : ∀ f ∈ newer ++ older, h.Shows f) :
    (l.render ⟨newer ++ older⟩ o).captured h = ⟨(l.render ⟨older⟩ o h).text ++
      String.join (l.shownLines o h older.length newer.reverse), true⟩ := by
  have holder : ∀ f ∈ older, h.Shows f := fun f hf => shows f (List.mem_append_right newer hf)
  have hold : (l.render ⟨older⟩ o h).text = _ :=
    congrArg Captured.text (l.captured_render o ⟨older⟩ holder)
  rw [l.captured_render o ⟨newer ++ older⟩ shows, hold, List.reverse_append, shownLines_append,
    String.join_append, List.length_reverse, Nat.zero_add, String.append_assoc]

theorem captured_render_contexts {newer older : List Frame} (nonempty : older ≠ [])
    (shows : ∀ f ∈ newer ++ older, h.Shows f) :
    (l.render ⟨newer ++ older⟩ o).captured h = ⟨(l.render ⟨older⟩ o h).text ++
      String.join (l.contextTexts o h (older.length - 1) newer.reverse), true⟩ := by
  have hlength : older.length - 1 + 1 = older.length :=
    Nat.sub_add_cancel (List.length_pos_iff.mpr nonempty)
  rw [l.captured_render_append o shows, ← shownLines_succ, hlength]

end Layout

/-! ## Growth -/

/-- One thing that is put on top of a report: a context, or the frames of a report. -/
inductive Growth where
  | context (c : Frame)
  | report (s : Report)

def Growth.added : Growth → List Frame
  | context c => [c]
  | report s => s.frames.reverse

def Report.growBy (r : Report) : Growth → Report
  | .context c => r.push c
  | .report s => r.under s

def Report.grow (r : Report) (steps : List Growth) : Report := steps.foldl growBy r

theorem Report.frames_growBy (r : Report) (step : Growth) :
    (r.growBy step).frames = step.added.reverse ++ r.frames := by
  cases step with
  | context c => rfl
  | report s => rw [growBy, frames_under, Growth.added, List.reverse_reverse]

theorem Report.frames_grow (r : Report) (steps : List Growth) :
    (r.grow steps).frames = (steps.flatMap Growth.added).reverse ++ r.frames := by
  induction steps generalizing r with
  | nil => rfl
  | cons step rest ih =>
    change ((r.growBy step).grow rest).frames = _
    rw [ih, frames_growBy, List.flatMap_cons, List.reverse_append, List.append_assoc]

/-- Under a layout with whatever texts and styles, under whatever options, a report without frames
is rendered as the banner alone, and one with a frame as the banner, the message and the place of the
frame. What is put on top of a report that is not empty adds lines with numbers at the end, the
oldest new frame first, and changes nothing of what was rendered before, however long the growth goes
on. -/
theorem Layout.render_grows (l : Layout) (o : Options) (h : Hooks) :
    (h.formatter = .layout l → ∀ r : Report, (r.render o).captured h = (l.render r o).captured h) ∧
    (l.render .empty o).captured h = ⟨l.bannerText o, true⟩ ∧
    (∀ f : Frame, h.Shows f → (l.render (.single f) o).captured h =
      ⟨l.bannerText o ++ (h.message f ++ l.location.before ++ f.location.text ++ l.location.after
        ++ "\n"), true⟩) ∧
    (∀ (r : Report) (c : Frame), r.frames ≠ [] → (∀ f ∈ c :: r.frames, h.Shows f) →
      (l.render (r.push c) o).captured h = ⟨(l.render r o h).text ++
        (l.index.before ++ o.styled l.indexStyle (toString (r.count - 1)) ++ l.index.after
          ++ h.message c ++ "\n"), true⟩) ∧
    (∀ r s : Report, r.frames ≠ [] → (∀ f ∈ s.frames ++ r.frames, h.Shows f) →
      (l.render (r.under s) o).captured h = ⟨(l.render r o h).text ++
        String.join (l.contextTexts o h (r.count - 1) s.frames.reverse), true⟩) ∧
    (∀ (r : Report) (steps : List Growth), r.frames ≠ [] →
      (∀ f ∈ (r.grow steps).frames, h.Shows f) →
      (l.render (r.grow steps) o).captured h = ⟨(l.render r o h).text ++
        String.join (l.contextTexts o h (r.count - 1) (steps.flatMap Growth.added)), true⟩) := by
  refine ⟨fun inForce r => r.captured_formatted inForce o .plain, ?_, fun f shows => ?_,
    fun r c nonempty shows => ?_, fun r s nonempty shows => ?_, fun r steps nonempty shows => ?_⟩
  · have hnone : ∀ f ∈ Report.empty.frames, h.Shows f := List.forall_mem_nil _
    rw [l.captured_render o .empty hnone]
    exact congrArg (Captured.mk · true) String.append_empty
  · have hone : ∀ g ∈ (Report.single f).frames, h.Shows g := List.forall_mem_singleton.mpr shows
    rw [l.captured_render o (.single f) hone]
    change Captured.mk (_ ++ String.join [l.lineText o 0 f (h.message f)]) true = _
    simp [lineText, lead, tail, String.append_assoc]
  · have hall : ∀ f ∈ [c] ++ r.frames, h.Shows f := shows
    refine (l.captured_render_contexts o nonempty hall).trans ?_
    change Captured.mk (_ ++ String.join [l.lineText o (r.count - 1 + 1) c (h.message c)]) true = _
    rw [String.join_cons, String.join_nil, String.append_empty]
    rfl
  · have hframes : r.under s = ⟨s.frames ++ r.frames⟩ := Report.ext_frames (Report.frames_under r s)
    rw [hframes]
    exact l.captured_render_contexts o nonempty shows
  · have hframes := Report.frames_grow r steps
    have hgrown : r.grow steps = ⟨(steps.flatMap Growth.added).reverse ++ r.frames⟩ :=
      Report.ext_frames hframes
    rw [hframes] at shows
    rw [hgrown, l.captured_render_contexts o nonempty shows, List.reverse_reverse]
    rfl

theorem Hooks.inert_overrideSet (type : String) {o : Override} (ho : o.Inert) :
    (Hooks.none.apply (.overrideSet type o)).Inert := by
  intro t hook hfound
  change (if t = type then some (Hook.mk type o) else Option.none) = some hook at hfound
  split at hfound
  · cases hfound
    exact ho
  · simp at hfound

/-- A constant override hides the payload, whatever the handler and the specification. -/
theorem FrameOf.captured_display_constant (f : Frame) (s : String) (spec : Spec) (h : Hooks) :
    (f.display spec).captured (h.apply (.overrideSet f.typeName (.constant s))) = ⟨s, true⟩ := by
  have hfound : (h.apply (.overrideSet f.typeName (.constant s))).override? f.typeName =
      some ⟨f.typeName, .constant s⟩ := if_pos rfl
  rw [captured_display, Rendering.captured, shown_of_some spec hfound rfl]
  change (Rendering.guest .override _).captured _ = _
  rw [Rendering.captured_guest, Override.captured_show_constant]

theorem Hooks.message_constant (f : Frame) (s : String) (h : Hooks) :
    (h.apply (.overrideSet f.typeName (.constant s))).message f = s :=
  congrArg Captured.text (f.captured_display_constant s .plain h)

theorem Hooks.shows_constant (f : Frame) (s : String) :
    (Hooks.none.apply (.overrideSet f.typeName (.constant s))).Shows f :=
  (inert_overrideSet f.typeName (Override.inert_constant s)).shows
    (congrArg Captured.ok (f.captured_display_constant s .plain Hooks.none))

/-- A secret is kept in every line, and two contexts have two numbers. -/
theorem Layout.render_grows_redacted :
    let secret : Frame := ⟨.value (.bool true), .display, ⟨"main.rs", 3, 5⟩⟩
    let h := Hooks.none.apply (.overrideSet secret.typeName (.constant "redacted"))
    let r := (Report.single secret).grow [.context secret, .report (.single secret)]
    (∀ f ∈ r.frames, h.Shows f) ∧
      (Layout.ascii.render r ⟨false, 11⟩).captured h = ⟨"= Error: ==\n" ++
        "redacted [main.rs:3:5]\n    ~> #0: redacted\n    ~> #1: redacted\n", true⟩ ∧
      (Layout.ascii.render r ⟨true, 11⟩).captured h =
        ⟨"=\x1b[1m\x1b[38;2;91;0;0m Error: \x1b[0m==\n" ++ "redacted [main.rs:3:5]\n" ++
          "    ~> #\x1b[1m0\x1b[0m: redacted\n    ~> #\x1b[1m1\x1b[0m: redacted\n", true⟩ := by
  intro secret h r
  have shows : h.Shows secret := Hooks.shows_constant secret "redacted"
  have hmessage : h.message secret = "redacted" := Hooks.message_constant secret "redacted" .none
  have hall : ∀ f ∈ r.frames, h.Shows f := by
    intro f hf
    have hsame : f ∈ List.replicate 3 secret := hf
    rw [List.eq_of_mem_replicate hsame]
    exact shows
  have hcontexts : ∀ o : Options, Layout.ascii.contextTexts o h 0 [secret, secret] =
      [Layout.ascii.lineText o 1 secret "redacted", Layout.ascii.lineText o 2 secret "redacted"] := by
    intro o
    rw [← hmessage]
    rfl
  have hgrown : ∀ o : Options, (Layout.ascii.render r o).captured h =
      ⟨Layout.ascii.bannerText o ++ ("redacted" ++ Layout.ascii.location.before ++
        secret.location.text ++ Layout.ascii.location.after ++ "\n") ++ String.join
          [Layout.ascii.lineText o 1 secret "redacted",
            Layout.ascii.lineText o 2 secret "redacted"], true⟩ := by
    intro o
    obtain ⟨-, -, hsingle, -, -, hgrow⟩ := Layout.render_grows Layout.ascii o h
    have hroot : (Layout.ascii.render (.single secret) o h).text = _ :=
      congrArg Captured.text (hsingle secret shows)
    have hsteps := hgrow (.single secret) [.context secret, .report (.single secret)]
      (List.cons_ne_nil _ _) hall
    rw [hroot, hmessage] at hsteps
    rw [← hcontexts o]
    exact hsteps
  refine ⟨hall, (hgrown ⟨false, 11⟩).trans ?_, (hgrown ⟨true, 11⟩).trans ?_⟩
  · decide +kernel
  · decide +kernel

end CauseChain
