import CauseChain.Output.Delivery
import CauseChain.Proofs.Growth
import CauseChain.Proofs.Nesting

/-!
# Displays that fail

A display that fails ends whatever it is part of. A rendering shows the frames of a report from the
root up and the alternate display shows them from the head down, so they stop at different frames,
and both have written what belongs to the frames before, what stands in front of the display that
fails, and what this display wrote itself. The display of a frame is what it comes to in its turn:
an override may change the registries for the frames after it. Where the overrides stay as they are,
it makes no difference whose turn it is.
-/

set_option autoImplicit false

namespace CauseChain

/-- A run that shows things in turn fails if and only if one of these turns fails. What it has
written by then is said by `upTo`, given the turns that have come to their end and what the last one
has written. -/
structure Captured.CutOff (c : Captured) (turns : List Captured)
    (upTo : List Captured → String → String) : Prop where
  fails : c.ok = false ↔ ∃ turn ∈ turns, turn.ok = false
  text : ∀ done p, turns = done ++ [⟨p, false⟩] → c.text = upTo done p

theorem Captured.cutOff_of_ok {c : Captured} {turns : List Captured}
    {upTo : List Captured → String → String} (ok : c.ok = turns.all Captured.ok)
    (text : ∀ done p, turns = done ++ [⟨p, false⟩] → c.text = upTo done p) :
    c.CutOff turns upTo := by
  refine ⟨?_, text⟩
  rw [ok, List.all_eq_false]
  simp

theorem Captured.CutOff.eq_mk {c : Captured} {turns done : List Captured} {p : String}
    {upTo : List Captured → String → String} (hc : c.CutOff turns upTo)
    (hturns : turns = done ++ [⟨p, false⟩]) : c = ⟨upTo done p, false⟩ := by
  have failed : c.ok = false := hc.fails.mpr ⟨⟨p, false⟩, by simp [hturns], rfl⟩
  rw [← hc.text done p hturns, ← failed]

/-! ## Turns at fixed overrides -/

/-- Whatever the display of a frame does, it leaves the overrides as they are. -/
def FrameOf.Keeps (f : Frame) (spec : Spec) (h : Hooks) : Prop :=
  ((f.display spec).leaves h).override? = h.override?

section Fixed
variable {spec : Spec} {h : Hooks}

theorem FrameOf.Keeps.succeeds {f : Frame} (keeps : f.Keeps spec h)
    (ok : (f.display spec h).ok = true) : (f.display spec).Succeeds h :=
  ⟨Rendering.fullyClosed_byOverrides.display f spec, ok, keeps⟩

theorem each_of_first_failing {before later : List Frame} {f : Frame}
    (keeps : ∀ g ∈ before, g.Keeps spec h) (ok : ∀ g ∈ before, (g.display spec h).ok = true)
    (failed : (f.display spec h).ok = false) :
    Rendering.each ((before ++ f :: later).map fun g => g.display spec) h =
      before.map (fun g => (g.display spec).captured h) ++ [⟨(f.display spec h).text, false⟩] := by
  have hbefore : ∀ d ∈ before.map (fun g => g.display spec), d.Succeeds h :=
    List.forall_mem_map.mpr fun g hg => (keeps g hg).succeeds (ok g hg)
  have hlater : ∀ d ∈ (f :: later).map (fun g => g.display spec), d.ByOverrides :=
    List.forall_mem_map.mpr fun g _ => Rendering.fullyClosed_byOverrides.display g spec
  rw [List.map_append, Rendering.each_append_of_succeeds hbefore hlater, List.map_cons,
    Rendering.each_cons_of_not_ok failed, List.map_map, Rendering.captured, failed]
  rfl

theorem each_fails_iff {fs : List Frame} (keeps : ∀ f ∈ fs, f.Keeps spec h) :
    (∃ turn ∈ Rendering.each (fs.map fun f => f.display spec) h, turn.ok = false) ↔
      ∃ f ∈ fs, (f.display spec h).ok = false := by
  -- the first frame with a failing display, if there is one, is the first turn to fail
  cases hfound : fs.find? fun f => !(f.display spec h).ok with
  | some f =>
    obtain ⟨failed, before, later, rfl, hbefore⟩ := List.find?_eq_some_iff_append.mp hfound
    have hfailed : (f.display spec h).ok = false := by simpa using failed
    have hf : f ∈ before ++ f :: later := List.mem_append_right before List.mem_cons_self
    have hkeeps : ∀ g ∈ before, g.Keeps spec h := fun g hg => keeps g (List.mem_append_left _ hg)
    have hok : ∀ g ∈ before, (g.display spec h).ok = true := by simpa using hbefore
    rw [each_of_first_failing hkeeps hok hfailed]
    exact ⟨fun _ => ⟨f, hf, hfailed⟩, fun _ => ⟨_, List.mem_concat_self, rfl⟩⟩
  | none =>
    have hok : ∀ f ∈ fs, (f.display spec h).ok = true := by
      simpa using List.find?_eq_none.mp hfound
    have hall : ∀ d ∈ fs.map (fun f => f.display spec), d.Succeeds h :=
      List.forall_mem_map.mpr fun f hf => (keeps f hf).succeeds (hok f hf)
    rw [Rendering.each_of_succeeds hall]
    constructor
    · rintro ⟨turn, hturn, failed⟩
      obtain ⟨d, hd, rfl⟩ := List.mem_map.mp hturn
      have hd' : (d h).ok = false := failed
      rw [(hall d hd).ok] at hd'
      cases hd'
    · rintro ⟨f, hf, failed⟩
      rw [hok f hf] at failed
      cases failed

end Fixed

/-! ## Lines up to a failure -/

namespace Layout
variable (l : Layout) (o : Options)

def lineTexts (n : Nat) (fs : List Frame) (turns : List Captured) : List String :=
  List.zipWith (fun (f, n) turn => l.lineText o n f turn.text) (fs.zipIdx n) turns

/-- The text of a rendering that fails at a frame, given all frames from the oldest on. -/
def upTo (fs : List Frame) (done : List Captured) (p : String) : String :=
  l.bannerText o ++ String.join (l.lineTexts o 0 fs done) ++ l.lead o done.length ++ p

theorem lineTexts_cons (n : Nat) (f : Frame) (rest : List Frame) (turn : Captured)
    (turns : List Captured) : l.lineTexts o n (f :: rest) (turn :: turns) =
      l.lineText o n f turn.text :: l.lineTexts o (n + 1) rest turns := rfl

theorem linesSoFar_concat (n : Nat) {fs : List Frame} {done : List Captured} (p : String)
    (ok : ∀ turn ∈ done, turn.ok = true) (more : done.length < fs.length) :
    l.linesSoFar o n fs (done ++ [⟨p, false⟩]) =
      l.lineTexts o n fs done ++ [l.lead o (n + done.length) ++ p] := by
  induction done generalizing n fs with
  | nil =>
    obtain ⟨f, rest, rfl⟩ := List.exists_cons_of_length_pos more
    simp [linesSoFar, lineSoFar, lineTexts]
  | cons turn done ih =>
    obtain ⟨f, rest, rfl⟩ := List.exists_cons_of_length_pos (Nat.zero_lt_of_lt more)
    have hmore : done.length < rest.length := Nat.lt_of_succ_lt_succ more
    have hrest := ih (n + 1) (fun t ht => ok t (List.mem_cons_of_mem turn ht)) hmore
    rw [List.cons_append, linesSoFar_cons, lineTexts_cons, hrest,
      l.lineSoFar_of_ok o n f (ok turn List.mem_cons_self), List.length_cons, Nat.add_assoc,
      Nat.add_comm 1]
    rfl

theorem cutOff_render (r : Report) (h : Hooks) :
    ((l.render r o).captured h).CutOff
      (Rendering.each (r.frames.reverse.map fun f => f.display .plain) h)
      (l.upTo o r.frames.reverse) := by
  rw [captured_render_eq]
  refine Captured.cutOff_of_ok rfl fun done p hturns => ?_
  have hok := (Rendering.each_eq_append hturns).1
  have hlength := Rendering.length_each_le (r.frames.reverse.map fun f => f.display .plain) h
  rw [hturns, List.length_append, List.length_map] at hlength
  simp only [hturns, l.linesSoFar_concat o 0 p hok hlength, String.join_append, String.join_cons,
    String.join_nil, String.append_empty, Nat.zero_add, upTo, String.append_assoc]

end Layout

namespace Report
variable (r : Report) {h : Hooks}

theorem cutOff_formatted {l : Layout} (inForce : h.formatter = .layout l) (o : Options)
    (spec : Spec) :
    ((r.formatted o spec).captured h).CutOff
      (Rendering.each (r.frames.reverse.map fun f => f.display .plain) h)
      (l.upTo o r.frames.reverse) := by
  rw [r.captured_formatted inForce]
  exact l.cutOff_render o r h

theorem cutOff_display {spec : Spec} (alternate : spec.alternate = true) (h : Hooks) :
    ((r.display spec).captured h).CutOff
      (Rendering.each (r.frames.map fun f => f.display spec) h)
      fun done p => String.join (done.map fun turn => turn.text ++ ": ") ++ p := by
  rw [display_of_alternate alternate, Rendering.captured_separated]
  refine Captured.cutOff_of_ok rfl fun done p hturns => ?_
  rw [hturns, Captured.text_joined_concat]

/-- A rendering, printed, returned or seen as a debug form, fails at the oldest frame that fails in
its turn, the alternate display at the newest, and the other display at the head or not at all; what
has been written by then is all that belongs before the failure and nothing else. If no display
changes the overrides, it is the first frame on the way with a failing display that fails, however
many there are after it. -/
theorem cut_off_at_failing_frame (h : Hooks) :
    (∀ (l : Layout) (o : Options), h.formatter = .layout l →
      let turns := Rendering.each (r.frames.reverse.map fun f => f.display .plain) h
      ((r.render o).captured h).CutOff turns (l.upTo o r.frames.reverse) ∧
      (∀ pretty, ((r.debug pretty).captured h).CutOff turns (l.upTo .plain r.frames.reverse)) ∧
      ∀ (σ : Type) (d : Device σ) (s : σ),
        let w := r.deliver o d s h
        (w.ending = .broken → (∃ turn ∈ turns, turn.ok = false) ∧
          w.accepted.toList = bytesOf (r.render o h).text) ∧
        ((∃ turn ∈ turns, turn.ok = false) → w.ending = .broken ∨ ∃ e, w.ending = .refused e)) ∧
    (∀ spec : Spec, spec.alternate = true →
      ((r.display spec).captured h).CutOff
        (Rendering.each (r.frames.map fun f => f.display spec) h)
        fun done p => String.join (done.map fun turn => turn.text ++ ": ") ++ p) ∧
    (∀ spec : Spec, spec.alternate = false →
      ((r.display spec h).ok = false ↔
        ∃ f, r.current? = some f ∧ (f.display spec h).ok = false) ∧
      ∀ f, r.current? = some f → (r.display spec).captured h = (f.display spec).captured h) ∧
    ∀ (spec : Spec) (fs : List Frame), (∀ f ∈ fs, f.Keeps spec h) →
      let turns := Rendering.each (fs.map fun f => f.display spec) h
      ((∃ turn ∈ turns, turn.ok = false) ↔ ∃ f ∈ fs, (f.display spec h).ok = false) ∧
      ∀ before f later, fs = before ++ f :: later →
        (∀ g ∈ before, (g.display spec h).ok = true) → (f.display spec h).ok = false →
        turns = before.map (fun g => (g.display spec).captured h) ++
          [⟨(f.display spec h).text, false⟩] := by
  refine ⟨fun l o inForce => ?_, fun spec alternate => r.cutOff_display alternate h,
    fun spec alternate => ?_, fun spec fs keeps => ?_⟩
  · have hrender := r.cutOff_formatted inForce o .plain
    have hdebug (pretty : Bool) := r.cutOff_formatted inForce .plain { alternate := pretty }
    refine ⟨hrender, hdebug, fun σ d s => ⟨fun broken => ?_, fun failing => ?_⟩⟩
    · obtain ⟨failed, haccepted⟩ := (r.render o h).accepted_of_broken d s h broken
      exact ⟨hrender.fails.mp failed, haccepted⟩
    · exact (r.render o h).ending_of_not_ok d s h (hrender.fails.mpr failing)
  · rw [display_of_not_alternate alternate]
    rcases r with ⟨_ | ⟨head, below⟩⟩
    · simp [current?, Rendering.skip]
    · simp [current?]
  · refine ⟨each_fails_iff keeps, ?_⟩
    rintro before f later rfl ok failed
    exact each_of_first_failing (fun g hg => keeps g (List.mem_append_left _ hg)) ok failed

/-- Two of five frames fail: the rendering stops at the older and the display at the newer. -/
theorem cut_off_at_failing_frame_twice :
    let site : Location := ⟨"main.rs", 3, 5⟩
    let failing (s : String) : Frame :=
      ⟨.value (.foreign (.steady .shown "T" "" (.ofText s ++ .failure) (.atom ""))), .display, site⟩
    let showing (s : String) : Frame := ⟨.value (.string s), .display, site⟩
    let r : Report := ⟨[showing "e", failing "d", showing "c", failing "b", showing "a"]⟩
    (∀ f ∈ r.frames.reverse, f.Keeps .plain .none) ∧
      (r.render .plain).captured .none =
        ⟨"━━━━━━━━━━━━━━━━━━━━━━━━━━━━━━━━━━━━ Error: ━━━━━━━━━━━━━━━━━━━━━━━━━━━━━━━━━━━━\n" ++
          "a [main.rs:3:5]\n    ~> #0: b", false⟩ ∧
      (r.display .alternated).captured .none = ⟨"e: d", false⟩ ∧
      (r.display .plain).captured .none = ⟨"e", true⟩ := by
  intro site failing showing r
  obtain ⟨hlayout, halternate, hhead, hfixed⟩ := r.cut_off_at_failing_frame .none
  have keeps : ∀ f ∈ r.frames.reverse, f.Keeps .plain .none := by
    intro f hf
    rw [FrameOf.Keeps, Hooks.inert_none.leaves_display]
  have holder := (hfixed .plain r.frames.reverse keeps).2 [showing "a"] (failing "b")
    [showing "c", failing "d", showing "e"] rfl (by decide +kernel) (by decide +kernel)
  have hnewer : Rendering.each (r.frames.map fun f => f.display .alternated) .none =
      [⟨"e", true⟩] ++ [⟨"d", false⟩] := by decide +kernel
  have hrender := (hlayout .standard .plain rfl).1.eq_mk holder
  have hdisplay := (halternate .alternated rfl).eq_mk hnewer
  have hplain := (hhead .plain rfl).2 (showing "e") rfl
  refine ⟨keeps, hrender.trans ?_, hdisplay.trans ?_, hplain.trans ?_⟩
  · decide +kernel
  · decide +kernel
  · decide +kernel

end Report

end CauseChain
