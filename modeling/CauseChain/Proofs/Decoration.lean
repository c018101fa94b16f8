import CauseChain.Proofs.Failure
import CauseChain.Proofs.StyledText

/-!
# Colors are decoration

A rendering is put together from texts that each have a style, the same ones with colors and without.
A terminal shows every one of them in its own style and nothing but them, as long as no escape comes
from the texts themselves.
-/

set_option autoImplicit false

namespace CauseChain

/-! ## Texts without a character -/

def Lacks (s : String) (c : Char) : Prop := c ∉ s.toList

instance (s : String) (c : Char) : Decidable (Lacks s c) :=
  inferInstanceAs (Decidable (c ∉ s.toList))

section Lacks
variable {c : Char}

theorem Lacks.append {s t : String} (hs : Lacks s c) (ht : Lacks t c) : Lacks (s ++ t) c := by
  intro hmem
  rw [String.toList_append] at hmem
  exact (List.mem_append.mp hmem).elim hs ht

theorem lacks_join {ss : List String} (hss : ∀ s ∈ ss, Lacks s c) : Lacks (String.join ss) c := by
  intro hmem
  rw [String.toList_join] at hmem
  obtain ⟨s, hs, hin⟩ := List.mem_flatMap.mp hmem
  exact hss s hs hin

theorem lacks_toString (hc : c.isDigit = false) (n : Nat) : Lacks (toString n) c := by
  intro hmem
  rw [show toString n = n.repr from rfl, Nat.toList_repr] at hmem
  rw [Sgr.isDigit_of_mem_toDigits hmem] at hc
  cases hc

theorem lacks_fillers {fill : Char} (hne : fill ≠ c) (n : Nat) :
    Lacks (String.join (Spec.fillers fill n)) c := by
  rw [Lacks, Spec.join_fillers, String.toList_ofList]
  exact fun hmem => hne (List.eq_of_mem_replicate hmem).symm

theorem Location.lacks_text {site : Location} (file : Lacks site.file c)
    (hc : c.isDigit = false) (hcolon : Lacks ":" c) : Lacks site.text c :=
  (((file.append hcolon).append (lacks_toString hc site.line)).append hcolon).append
    (lacks_toString hc site.column)

/-- No text of a layout has a certain character. -/
structure Layout.Without (l : Layout) (c : Char) : Prop where
  fill : l.fill ≠ c
  title : Lacks l.title c
  locationBefore : Lacks l.location.before c
  locationAfter : Lacks l.location.after c
  indexBefore : Lacks l.index.before c
  indexAfter : Lacks l.index.after c

end Lacks

/-! ## Texts in a style -/

/-- A text in a style. -/
structure Ink where
  style : Style
  text : String

namespace Ink

def plain (s : String) : Ink := ⟨.plain, s⟩

/-- What is written of a text in a style, with colors or without. -/
def written (o : Options) (i : Ink) : String := o.styled i.style i.text

/-- The characters of a text, each with the pen of its style. -/
def cells (i : Ink) : List (Char × Sgr.Pen) := i.text.toList.map fun c => (c, i.style.pen)

def tokens (i : Ink) : List Sgr.Token := i.style.around (i.text.toList.map .glyph)

@[simp] theorem written_mk (o : Options) (style : Style) (s : String) :
    written o ⟨style, s⟩ = o.styled style s := rfl

@[simp] theorem written_plain (o : Options) (s : String) : (plain s).written o = s := by
  change o.styled .plain s = s
  rw [Options.styled]
  cases o.colors with
  | true => exact String.append_empty.trans String.empty_append
  | false => rfl

theorem written_without_colors (columns : Nat) : written ⟨false, columns⟩ = text := rfl

theorem reads_written (columns : Nat) {i : Ink} (free : Lacks i.text Sgr.escape) :
    Sgr.Reads (i.written ⟨true, columns⟩) i.tokens :=
  i.style.reads_brackets (Sgr.reads_glyphs free)

/-- Each text leaves the pen as it was at the start, so the next one is shown in its own style. -/
theorem showTokens_flatMap (inks : List Ink) :
    Sgr.showTokens .default (inks.flatMap tokens) = (inks.flatMap cells, .default) := by
  induction inks with
  | nil => rfl
  | cons i rest ih =>
    have hi : Sgr.showTokens .default i.tokens = (i.cells, .default) :=
      i.style.showTokens_around i.text.toList
    rw [List.flatMap_cons, Sgr.showTokens_append, hi, ih, List.flatMap_cons]

theorem shown_written (columns : Nat) {inks : List Ink} (free : ∀ i ∈ inks, Lacks i.text Sgr.escape) :
    Sgr.shown .default (String.join (inks.map (written ⟨true, columns⟩))) =
      (inks.flatMap cells, .default) := by
  have hreads : Sgr.Reads (String.join (inks.map (written ⟨true, columns⟩))) (inks.flatMap tokens) :=
    Sgr.reads_join inks fun i hi => reads_written columns (free i hi)
  rw [Sgr.shown, hreads.tokens_eq, showTokens_flatMap]

theorem map_fst_cells (inks : List Ink) :
    (inks.flatMap cells).map Prod.fst = (String.join (inks.map text)).toList := by
  rw [String.toList_join, List.map_flatMap, List.flatMap_map]
  simp [cells, Function.comp_def]

theorem erase_written (columns : Nat) {inks : List Ink} (free : ∀ i ∈ inks, Lacks i.text Sgr.escape) :
    Sgr.erase (String.join (inks.map (written ⟨true, columns⟩))) = String.join (inks.map text) := by
  apply String.toList_inj.mp
  rw [Sgr.toList_erase .default, shown_written columns free, map_fst_cells]

end Ink

/-! ## The texts of a rendering -/

namespace Report

/-- What comes of each frame in a rendering, from the root up. -/
def turns (r : Report) (h : Hooks) : List Captured :=
  Rendering.each (r.frames.reverse.map fun f => f.display .plain) h

/-- The messages of the frames from the root up, each as it comes in its turn. -/
def messages (r : Report) (h : Hooks) : List String := (r.turns h).map Captured.text

end Report

namespace Layout
variable (l : Layout)

def bannerInks (columns : Nat) : List Ink :=
  let (before, after) := fillAround columns l.title.length
  [.plain (String.join (Spec.fillers l.fill before)), ⟨l.bannerStyle, l.title⟩,
    .plain (String.join (Spec.fillers l.fill after) ++ "\n")]

def leadInks : Nat → List Ink
  | 0 => []
  | index + 1 => [.plain l.index.before, ⟨l.indexStyle, toString index⟩, .plain l.index.after]

/-- The texts of a line, as far as it is written. -/
def lineInks (n : Nat) (f : Frame) (turn : Captured) : List Ink :=
  l.leadInks n ++ [.plain turn.text, .plain (if turn.ok then l.tail f.location n else "")]

def lineInksFrom (n : Nat) (fs : List Frame) (turns : List Captured) : List Ink :=
  (List.zipWith (fun (f, n) turn => l.lineInks n f turn) (fs.zipIdx n) turns).flatten

/-- The texts of a rendering, in the order in which they are written, given all frames from the
oldest on and what comes of their displays: the title in the style of the banner, every number in
the style of numbers, and all else plain. -/
def inks (columns : Nat) (fs : List Frame) (turns : List Captured) : List Ink :=
  l.bannerInks columns ++ l.lineInksFrom 0 fs turns

variable (o : Options)

theorem bannerText_eq :
    l.bannerText o = String.join ((l.bannerInks o.columns).map (Ink.written o)) := by
  simp [bannerText, bannerLine, bannerInks, fillAround, Spec.join_fillers, String.append_assoc]

theorem lead_eq (n : Nat) : l.lead o n = String.join ((l.leadInks n).map (Ink.written o)) := by
  cases n with
  | zero => rfl
  | succ index => simp [lead, leadInks, String.append_assoc]

theorem lineSoFar_eq (n : Nat) (f : Frame) (turn : Captured) :
    l.lineSoFar o n f turn = String.join ((l.lineInks n f turn).map (Ink.written o)) := by
  rw [lineSoFar, lead_eq, lineInks, List.map_append, String.join_append]
  simp [String.append_assoc]

theorem linesSoFar_eq (n : Nat) (fs : List Frame) (turns : List Captured) :
    String.join (l.linesSoFar o n fs turns) =
      String.join ((l.lineInksFrom n fs turns).map (Ink.written o)) := by
  induction fs generalizing n turns with
  | nil => rfl
  | cons f rest ih =>
    cases turns with
    | nil => rfl
    | cons turn turns =>
      have hcons : l.lineInksFrom n (f :: rest) (turn :: turns) =
          l.lineInks n f turn ++ l.lineInksFrom (n + 1) rest turns := rfl
      rw [linesSoFar_cons, String.join_cons, lineSoFar_eq, ih, hcons, List.map_append,
        String.join_append]

theorem captured_render_turns (r : Report) (h : Hooks) :
    (l.render r o).captured h =
      ⟨l.bannerText o ++ String.join (l.linesSoFar o 0 r.frames.reverse (r.turns h)),
        (r.turns h).all Captured.ok⟩ :=
  l.captured_render_eq o r h

theorem captured_render_inks (r : Report) (h : Hooks) :
    (l.render r o).captured h =
      ⟨String.join ((l.inks o.columns r.frames.reverse (r.turns h)).map (Ink.written o)),
        (r.turns h).all Captured.ok⟩ := by
  rw [captured_render_turns, bannerText_eq, linesSoFar_eq, inks, List.map_append,
    String.join_append]

variable {l}

theorem Without.leadInks {c : Char} (free : l.Without c) (hc : c.isDigit = false) (n : Nat) :
    ∀ i ∈ l.leadInks n, Lacks i.text c := by
  cases n with
  | zero => exact List.forall_mem_nil _
  | succ index =>
    simp only [Layout.leadInks, List.forall_mem_cons]
    exact ⟨free.indexBefore, lacks_toString hc index, free.indexAfter, List.forall_mem_nil _⟩

/-- What there is for every frame comes of the frame, its number and its turn. -/
theorem mem_numbered {α : Type} {line : Frame × Nat → Captured → α} {fs : List Frame}
    {turns : List Captured} {x : α} (hx : x ∈ List.zipWith line fs.zipIdx turns) :
    ∃ f n turn, turn ∈ turns ∧ (n = 0 → fs.head? = some f) ∧ x = line (f, n) turn := by
  obtain ⟨n, hn, rfl⟩ := List.mem_iff_getElem.mp hx
  rw [List.length_zipWith, List.length_zipIdx, Nat.lt_min] at hn
  refine ⟨fs[n], n, turns[n], List.getElem_mem hn.2, ?_, ?_⟩
  · rintro rfl
    rw [List.head?_eq_getElem?, List.getElem?_eq_getElem]
  · rw [List.getElem_zipWith, List.getElem_zipIdx, Nat.zero_add]

theorem lacks_bannerInks (fill : l.fill ≠ Sgr.escape) (title : Lacks l.title Sgr.escape)
    (columns : Nat) : ∀ i ∈ l.bannerInks columns, Lacks i.text Sgr.escape := by
  simp only [Layout.bannerInks, List.forall_mem_cons]
  refine ⟨?_, title, ?_, List.forall_mem_nil _⟩
  · exact lacks_fillers fill _
  · exact (lacks_fillers fill _).append (by decide)

section Escapes
variable (free : l.Without Sgr.escape)
include free

theorem Without.tail {site : Location} (n : Nat) (file : n = 0 → Lacks site.file Sgr.escape) :
    Lacks (l.tail site n) Sgr.escape := by
  cases n with
  | zero =>
    have hsite := Location.lacks_text (file rfl) (by decide) (by decide)
    exact ((free.locationBefore.append hsite).append free.locationAfter).append (by decide)
  | succ index => exact (by decide : Lacks "\n" Sgr.escape)

theorem Without.bannerInks (columns : Nat) :
    ∀ i ∈ l.bannerInks columns, Lacks i.text Sgr.escape :=
  lacks_bannerInks free.fill free.title columns

theorem Without.lineInks {n : Nat} {f : Frame} {turn : Captured}
    (file : n = 0 → Lacks f.location.file Sgr.escape)
    (message : Lacks turn.text Sgr.escape) :
    ∀ i ∈ l.lineInks n f turn, Lacks i.text Sgr.escape := by
  intro i hi
  rcases List.mem_append.mp hi with hi | hi
  · exact free.leadInks rfl n i hi
  · simp only [List.mem_cons, List.not_mem_nil, or_false] at hi
    rcases hi with rfl | rfl
    · exact message
    · cases turn.ok with
      | true => exact free.tail n file
      | false => exact (by decide : Lacks "" Sgr.escape)

theorem Without.lineInksFrom {fs : List Frame} {turns : List Captured}
    (root : ∀ f, fs.head? = some f → Lacks f.location.file Sgr.escape)
    (messages : ∀ turn ∈ turns, Lacks turn.text Sgr.escape) :
    ∀ i ∈ l.lineInksFrom 0 fs turns, Lacks i.text Sgr.escape := by
  intro i hi
  obtain ⟨line, hline, hin⟩ := List.mem_flatten.mp hi
  obtain ⟨f, n, turn, hturn, hroot, rfl⟩ := mem_numbered hline
  exact free.lineInks (fun hn => root f (hroot hn)) (messages turn hturn) i hin

theorem Without.inks (columns : Nat) {fs : List Frame} {turns : List Captured}
    (root : ∀ f, fs.head? = some f → Lacks f.location.file Sgr.escape)
    (messages : ∀ turn ∈ turns, Lacks turn.text Sgr.escape) :
    ∀ i ∈ l.inks columns fs turns, Lacks i.text Sgr.escape := by
  intro i hi
  rcases List.mem_append.mp hi with hi | hi
  · exact free.bannerInks columns i hi
  · exact free.lineInksFrom root messages i hi

end Escapes

/-! ## Colors and no colors -/

/-- If no escape comes from the layout, the file of the root or a message, colors only decorate. The
plain rendering has no escape and is what is left of the colored one when the sequences are erased.
In its default state, a terminal shows the title and every number of the colored one in their styles,
all else in the default state, and ends in it. -/
theorem colors_decorate (l : Layout) (r : Report) (h : Hooks) (columns : Nat)
    (free : l.Without Sgr.escape)
    (root : ∀ f, r.root? = some f → Lacks f.location.file Sgr.escape)
    (messages : ∀ m ∈ r.messages h, Lacks m Sgr.escape) :
    let inks := l.inks columns r.frames.reverse (r.turns h)
    let plain := (l.render r ⟨false, columns⟩).captured h
    let colored := (l.render r ⟨true, columns⟩).captured h
    plain.text = String.join (inks.map Ink.text) ∧
    Lacks plain.text Sgr.escape ∧
    Sgr.erase colored.text = plain.text ∧
    Sgr.shown .default colored.text = (inks.flatMap Ink.cells, .default) ∧
    colored.ok = plain.ok ∧
    (h.formatter = .layout l → ∀ spec : Spec,
      (r.formatted ⟨false, columns⟩ spec).captured h = plain ∧
      (r.formatted ⟨true, columns⟩ spec).captured h = colored) := by
  intro inks plain colored
  have hroot : ∀ f, r.frames.reverse.head? = some f → Lacks f.location.file Sgr.escape := by
    rw [List.head?_reverse]
    exact root
  have hinks : ∀ i ∈ inks, Lacks i.text Sgr.escape :=
    free.inks columns hroot fun turn hturn => messages turn.text (List.mem_map_of_mem hturn)
  have hplain : plain.text = String.join (inks.map Ink.text) := by
    simp only [plain, captured_render_inks, Ink.written_without_colors, inks]
  have hcolored : colored.text = String.join (inks.map (Ink.written ⟨true, columns⟩)) := by
    simp only [colored, captured_render_inks, inks]
  refine ⟨hplain, ?_, ?_, ?_, ?_, fun inForce spec => ⟨?_, ?_⟩⟩
  · rw [hplain]
    exact lacks_join (List.forall_mem_map.mpr hinks)
  · rw [hcolored, hplain]
    exact Ink.erase_written columns hinks
  · rw [hcolored]
    exact Ink.shown_written columns hinks
  · simp only [colored, plain, captured_render_inks]
  · exact r.captured_formatted inForce ⟨false, columns⟩ spec
  · exact r.captured_formatted inForce ⟨true, columns⟩ spec

theorem colors_decorate_two :
    let site : Location := ⟨"m.rs", 3, 5⟩
    let r : Report := ⟨[⟨.value (.string "b"), .display, site⟩,
      ⟨.value (.string "a"), .display, site⟩]⟩
    let colored := (Layout.unicode.render r ⟨true, 9⟩).captured .none
    Layout.unicode.Without Sgr.escape ∧
      (∀ f, r.root? = some f → Lacks f.location.file Sgr.escape) ∧
      (∀ m ∈ r.messages .none, Lacks m Sgr.escape) ∧
      colored.text = "\x1b[1m\x1b[38;2;91;0;0m Error: \x1b[0m━\na [m.rs:3:5]\n" ++
        "    ~> #\x1b[1m0\x1b[0m: b\n" ∧
      Sgr.erase colored.text = " Error: ━\na [m.rs:3:5]\n    ~> #0: b\n" ∧
      (Sgr.shown .default colored.text).2 = .default := by
  intro site r colored
  have free : Layout.unicode.Without Sgr.escape := by constructor <;> decide
  have root : ∀ f, r.root? = some f → Lacks f.location.file Sgr.escape := by
    rintro f ⟨⟩
    decide
  have hmessages : r.messages .none = ["a", "b"] := by decide +kernel
  have messages : ∀ m ∈ r.messages .none, Lacks m Sgr.escape := by
    rw [hmessages]
    decide
  obtain ⟨hplain, -, herase, hshown, -⟩ :=
    Layout.unicode.colors_decorate r .none 9 free root messages
  refine ⟨free, root, messages, ?_, ?_, ?_⟩
  · decide +kernel
  · refine herase.trans (hplain.trans ?_)
    decide +kernel
  · rw [hshown]

end Layout

end CauseChain
