import CauseChain.Proofs.Turns
import CauseChain.Report.Render

/-!
# The texts of a rendering

What a layout writes around the messages of a report, put together from the texts of the layout and
decimal digits. With colors, the sequences of a style stand on either side of the title and of every
number. A line is the display of its frame between two texts that depend on no more than the place
of the frame and how many frames there are below it.
-/

set_option autoImplicit false

namespace CauseChain

/-- A text as it stands in a style: with colors, between the sequences of the style. -/
def Options.styled (o : Options) (style : Style) (s : String) : String :=
  if o.colors then style.brackets.before ++ s ++ style.brackets.after else s

namespace Layout
variable (l : Layout) (o : Options)

theorem ok_painted (style : Style) (s : String) : (painted o style s).ok = true := by
  rw [painted, Style.ok_paint]
  rfl

theorem marks_painted (style : Style) (s : String) : (painted o style s).marks = [] :=
  Style.marks_paint _ (Transcript.marks_ofTexts _)

theorem text_painted (style : Style) (s : String) :
    (painted o style s).text = o.styled style s := by
  rw [painted, Style.text_paint _ rfl, text_fitted ⟨rfl, rfl⟩, Options.styled]
  cases o.colors with
  | true => rfl
  | false => exact String.append_empty.trans String.empty_append

/-! ## Banners -/

/-- A title with so many fill characters on either side of it. -/
def bannerLine (left : Nat) (title : String) (right : Nat) : String :=
  String.ofList (List.replicate left l.fill) ++ title ++
    String.ofList (List.replicate right l.fill) ++ "\n"

/-- The title between halves of what it leaves of the columns; the second one has the odd
character. -/
def bannerText : String :=
  let room := o.columns - l.title.length
  l.bannerLine (room / 2) (o.styled l.bannerStyle l.title) (room - room / 2)

theorem ok_banner : (l.banner o).ok = true := by
  simp [banner, ok_painted]

theorem marks_banner : (l.banner o).marks = [] := by
  refine Transcript.marks_append_eq_nil (Transcript.marks_append_eq_nil ?_ ?_) ?_
  · exact Transcript.marks_ofTexts _
  · exact marks_painted o l.bannerStyle l.title
  · exact Transcript.marks_ofTexts _

theorem text_banner : (l.banner o).text = l.bannerText o := by
  have hok : (Transcript.ofTexts (Spec.fillers l.fill (fillAround o.columns l.title.length).1) ++
      painted o l.bannerStyle l.title).ok = true := by
    rw [Transcript.ok_append, ok_painted]
    rfl
  rw [banner, Transcript.text_append _ _ hok, Transcript.text_append _ _ rfl,
    Transcript.text_ofTexts, Transcript.text_ofTexts, String.join_append, Spec.join_fillers,
    Spec.join_fillers, text_painted]
  simp [bannerText, bannerLine, fillAround, String.append_assoc]

/-! ## Lines -/

/-- What stands before the message of a frame with so many frames below it. -/
def lead : Nat → String
  | 0 => ""
  | index + 1 => l.index.before ++ o.styled l.indexStyle (toString index) ++ l.index.after

/-- What stands behind the message: the place, if it is the root's, and a line break. -/
def tail (site : Location) : Nat → String
  | 0 => l.location.before ++ site.text ++ l.location.after ++ "\n"
  | _ + 1 => "\n"

def lineText (n : Nat) (f : Frame) (message : String) : String :=
  l.lead o n ++ message ++ l.tail f.location n

/-- The line of a frame that has a number of frames below it. -/
def lineAt : Nat → Frame → Rendering
  | 0, f => l.rootLine f
  | index + 1, f => l.contextLine o index f

def front : Nat → Transcript HookEvent
  | 0 => .skip
  | index + 1 => l.number o index

def back (site : Location) : Nat → Transcript HookEvent
  | 0 => l.place site
  | _ + 1 => .ofText "\n"

theorem lines_eq (fs : List Frame) :
    l.lines o fs = fs.zipIdx.map fun (f, n) => l.lineAt o n f := by
  cases fs with
  | nil => rfl
  | cons root contexts =>
    rw [lines, List.zipIdx_cons, List.map_cons, List.zipIdx_succ, List.map_map]
    rfl

theorem lineAt_eq (n : Nat) (f : Frame) :
    l.lineAt o n f = (Rendering.steady (l.front o n)).andThen
      ((f.display .plain).andThen (Rendering.steady (l.back f.location n))) := by
  cases n with
  | zero => exact (Rendering.skip_andThen _).symm
  | succ index =>
    rw [lineAt, contextLine, Rendering.all_cons, Rendering.all_cons, Rendering.all_singleton]
    rfl

theorem ok_number (index : Nat) : (l.number o index).ok = true := by
  simp [number, ok_painted]

theorem text_number (index : Nat) : (l.number o index).text = l.lead o (index + 1) := by
  have hok : (Transcript.ofText l.index.before ++ painted o l.indexStyle (toString index)).ok =
      true := by
    rw [Transcript.ok_append, ok_painted]
    rfl
  rw [number, Transcript.text_append _ _ hok, Transcript.text_append _ _ rfl,
    Transcript.text_ofText, Transcript.text_ofText, text_painted, lead]

theorem text_place (site : Location) : (l.place site).text = l.tail site 0 := by
  simp [place, tail, Transcript.text_ofTexts, String.join, Location.text, String.append_assoc]

theorem ok_front (n : Nat) : (l.front o n).ok = true := by
  cases n with
  | zero => rfl
  | succ index => exact l.ok_number o index

theorem marks_front (n : Nat) : (l.front o n).marks = [] := by
  cases n with
  | zero => rfl
  | succ index =>
    refine Transcript.marks_append_eq_nil (Transcript.marks_append_eq_nil rfl ?_) rfl
    exact marks_painted o l.indexStyle (toString index)

theorem text_front (n : Nat) : (l.front o n).text = l.lead o n := by
  cases n with
  | zero => exact Transcript.text_skip
  | succ index => exact l.text_number o index

theorem ok_back (site : Location) (n : Nat) : (l.back site n).ok = true := by
  cases n <;> rfl

theorem marks_back (site : Location) (n : Nat) : (l.back site n).marks = [] := by
  cases n with
  | zero => exact Transcript.marks_ofTexts _
  | succ index => exact Transcript.marks_ofText _

theorem text_back (site : Location) (n : Nat) : (l.back site n).text = l.tail site n := by
  cases n with
  | zero => exact l.text_place site
  | succ index => exact Transcript.text_ofText "\n"

variable {h : Hooks}

theorem captured_front (n : Nat) (h : Hooks) :
    (Rendering.steady (l.front o n)).captured h = ⟨l.lead o n, true⟩ := by
  rw [← text_front, ← l.ok_front o n]
  rfl

theorem captured_back (site : Location) (n : Nat) (h : Hooks) :
    (Rendering.steady (l.back site n)).captured h = ⟨l.tail site n, true⟩ := by
  rw [← text_back, ← l.ok_back site n]
  rfl

theorem captured_lineAt (n : Nat) (f : Frame) :
    (l.lineAt o n f).captured h = Captured.andThen ⟨l.lead o n, true⟩
      (((f.display .plain).captured h).andThen ⟨l.tail f.location n, true⟩) := by
  rw [lineAt_eq, Rendering.captured_andThen, Rendering.captured_andThen,
    Rendering.leaves_steady (l.marks_front o n), captured_front, captured_back]

theorem leaves_lineAt (n : Nat) {f : Frame} (ok : (f.display .plain h).ok = true) :
    (l.lineAt o n f).leaves h = (f.display .plain).leaves h := by
  have hfront := Rendering.leaves_steady (l.marks_front o n) h
  have hok : (f.display .plain ((Rendering.steady (l.front o n)).leaves h)).ok = true := by
    rw [hfront, ok]
  rw [lineAt_eq, Rendering.leaves_andThen_of_ok _ _ h (l.ok_front o n),
    Rendering.leaves_andThen_of_ok _ _ _ hok, hfront, Rendering.leaves_steady (l.marks_back _ n)]

/-! ## What is written of a rendering -/

/-- A line as far as it is written: in full if the display of its frame came to its end. -/
def lineSoFar (n : Nat) (f : Frame) (turn : Captured) : String :=
  l.lead o n ++ turn.text ++ if turn.ok then l.tail f.location n else ""

def linesSoFar (n : Nat) (fs : List Frame) (turns : List Captured) : List String :=
  List.zipWith (fun (f, n) turn => l.lineSoFar o n f turn) (fs.zipIdx n) turns

theorem linesSoFar_cons (n : Nat) (f : Frame) (rest : List Frame) (turn : Captured)
    (turns : List Captured) : l.linesSoFar o n (f :: rest) (turn :: turns) =
      l.lineSoFar o n f turn :: l.linesSoFar o (n + 1) rest turns := rfl

theorem lineSoFar_of_ok (n : Nat) (f : Frame) {turn : Captured} (ok : turn.ok = true) :
    l.lineSoFar o n f turn = l.lineText o n f turn.text := by
  rw [lineSoFar, if_pos ok, lineText]

/-- All that is written of lines, whatever number they start with. -/
theorem captured_lines (n : Nat) (fs : List Frame) (h : Hooks) :
    (Rendering.all ((fs.zipIdx n).map fun (f, n) => l.lineAt o n f)).captured h =
      ⟨String.join (l.linesSoFar o n fs (Rendering.each (fs.map fun f => f.display .plain) h)),
        (Rendering.each (fs.map fun f => f.display .plain) h).all Captured.ok⟩ := by
  induction fs generalizing n h with
  | nil => rfl
  | cons f rest ih =>
    rw [List.zipIdx_cons, List.map_cons, List.map_cons, Rendering.all_cons,
      Rendering.captured_andThen, captured_lineAt]
    cases ok : (f.display .plain h).ok with
    | false =>
      have hf : (f.display .plain).captured h = ⟨(f.display .plain h).text, false⟩ := by
        rw [Rendering.captured, ok]
      rw [Rendering.each_cons_of_not_ok ok, hf]
      simp [Captured.andThen, linesSoFar, lineSoFar]
    -- the later lines start from what this display leaves
    | true =>
      have hf : (f.display .plain).captured h = ⟨(f.display .plain h).text, true⟩ := by
        rw [Rendering.captured, ok]
      rw [Rendering.each_cons_of_ok ok, hf, l.leaves_lineAt o n ok, ih]
      simp [Captured.andThen, linesSoFar, lineSoFar, String.append_assoc]

theorem render_eq (r : Report) :
    l.render r o =
      (Rendering.steady (l.banner o)).andThen (Rendering.all (l.lines o r.frames.reverse)) :=
  Rendering.all_cons _ _

/-- All that is written of a rendering, whatever its displays do. -/
theorem captured_render_eq (r : Report) (h : Hooks) :
    (l.render r o).captured h =
      ⟨l.bannerText o ++ String.join (l.linesSoFar o 0 r.frames.reverse
          (Rendering.each (r.frames.reverse.map fun f => f.display .plain) h)),
        (Rendering.each (r.frames.reverse.map fun f => f.display .plain) h).all Captured.ok⟩ := by
  have hbanner : (Rendering.steady (l.banner o)).captured h = ⟨l.bannerText o, true⟩ := by
    rw [← text_banner, ← l.ok_banner o]
    rfl
  have hleaves := Rendering.leaves_steady (l.marks_banner o) h
  rw [render_eq, Rendering.captured_andThen, hbanner, hleaves, lines_eq, captured_lines]
  rfl

end Layout

namespace Report
variable (r : Report)

/-- Whatever the formatter in force, asking for it writes nothing. -/
theorem captured_formatted_eq_format (o : Options) (spec : Spec) (h : Hooks) :
    (r.formatted o spec).captured h = (h.formatter.format r o spec).captured h := by
  rw [Rendering.captured, formatted, Transcript.text_append _ _ rfl, Transcript.text_append _ _ rfl]
  simp [Hooks.lookUpFormatter, Rendering.captured]

theorem captured_formatted {l : Layout} {h : Hooks} (inForce : h.formatter = .layout l)
    (o : Options) (spec : Spec) : (r.formatted o spec).captured h = (l.render r o).captured h := by
  rw [captured_formatted_eq_format, inForce, Formatter.format]

end Report

end CauseChain
