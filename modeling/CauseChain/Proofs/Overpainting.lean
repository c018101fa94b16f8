import CauseChain.Proofs.Encoding
import CauseChain.Value.Display

/-!
# Paint over paint

A painted value can be painted again. Whatever is asked of the outermost display is asked of the
value in the middle, and the sequences of every layer stand around it as they are. Each layer adds
its attributes to those of the layers around it and its color replaces theirs; the first reset behind
the value takes all of them back, and by then there is nothing left to show.
-/

set_option autoImplicit false

namespace CauseChain

namespace Style
variable {ε : Type}

/-- How something is displayed in a style, given how it is displayed on its own. -/
def inStyle (s : Style) (display : Spec → Transcript ε) (spec : Spec) : Transcript ε :=
  s.paint (display spec)

/-- How something is displayed that was painted again and again, the outermost style first. -/
def inStyles (styles : List Style) (display : Spec → Transcript ε) : Spec → Transcript ε :=
  styles.foldr inStyle display

theorem display_styled (s : Style) (text : String) :
    ((Value.styled s text).display : Spec → Transcript ε) = s.inStyle (Value.string text).display := by
  funext spec
  rfl

section Layers
variable (styles : List Style) {display : Spec → Transcript ε} {spec : Spec}

theorem ok_inStyles : (inStyles styles display spec).ok = (display spec).ok := by
  induction styles with
  | nil => rfl
  | cons s rest ih => exact (s.ok_paint _).trans ih

variable {styles}

theorem inStyles_of_isPlain (allPlain : ∀ s ∈ styles, s.isPlain = true) :
    inStyles styles display spec = display spec := by
  induction styles with
  | nil => rfl
  | cons s rest ih =>
    obtain ⟨hs, hrest⟩ := List.forall_mem_cons.mp allPlain
    obtain rfl := eq_plain_of_isPlain hs
    exact ih hrest

end Layers

/-- What a text is read as when it is painted in several styles. -/
def aroundAll (styles : List Style) (ts : List Sgr.Token) : List Sgr.Token := styles.foldr around ts

theorem reads_inStyles (styles : List Style) {display : Spec → Transcript ε} {spec : Spec}
    (ok : (display spec).ok = true) (free : Sgr.escape ∉ (display spec).text.toList) :
    Sgr.Reads (inStyles styles display spec).text
      (aroundAll styles ((display spec).text.toList.map .glyph)) := by
  induction styles with
  | nil => exact Sgr.reads_glyphs free
  | cons s rest ih => exact s.reads_paint ((ok_inStyles rest).trans ok) ih

end Style

/-! ## The pen under several styles -/

namespace Sgr.Pen
variable (p : Pen)

theorem has_restyled (s : Style) (a : Attribute) :
    (p.restyled s).attributes.has a = true ↔ s.attributes.has a = true ∨ p.attributes.has a = true := by
  have hsame : (p.restyled s).attributes = p.attributes.addAll s.attributes.toList := by
    obtain ⟨_ | ⟨c, ground⟩, attributes⟩ := s
    · rfl
    · cases ground <;> rfl
  rw [hsame, Attributes.has_addAll, Bool.or_eq_true, decide_eq_true_iff, Attributes.mem_toList]

theorem on_restyled (s : Style) (ground : Ground) :
    (p.restyled s).on ground = (s.colorOn? ground).or (p.on ground) := by
  obtain ⟨_ | ⟨c, ground'⟩, attributes⟩ := s
  · cases ground <;> rfl
  · cases ground <;> cases ground' <;> rfl

def restyledAll (styles : List Style) : Pen := styles.foldl restyled p

theorem has_restyledAll (styles : List Style) (a : Attribute) :
    (p.restyledAll styles).attributes.has a = true ↔
      (∃ s ∈ styles, s.attributes.has a = true) ∨ p.attributes.has a = true := by
  induction styles generalizing p with
  | nil => simp [restyledAll]
  | cons s rest ih =>
    change ((p.restyled s).restyledAll rest).attributes.has a = true ↔ _
    rw [ih, has_restyled, or_left_comm, ← or_assoc]
    simp only [List.mem_cons, exists_eq_or_imp]

theorem on_restyledAll (styles : List Style) (ground : Ground) :
    (p.restyledAll styles).on ground =
      (styles.filterMap fun s => s.colorOn? ground).getLast?.or (p.on ground) :=
  Style.foldl_keeps_last (fun q : Pen => q.on ground) (fun q s => q.on_restyled s ground) styles p

end Sgr.Pen

namespace Style
open Sgr

/-- The first reset takes back all layers, so the pen in the end is the default one as soon as a single
style is not plain. -/
theorem showTokens_aroundAll (styles : List Style) (p : Pen) (cs : List Char) :
    showTokens p (aroundAll styles (cs.map .glyph)) =
      (cs.map fun c => (c, p.restyledAll styles),
        if styles.all isPlain then p else .default) := by
  -- an inner layer starts with the pen that the outer ones have selected, so any pen has to do
  induction styles generalizing p with
  | nil => exact showTokens_glyphs p cs
  | cons s rest ih =>
    change showTokens p (s.around (aroundAll rest (cs.map .glyph))) = _
    rw [around, List.all_cons]
    split
    next isPlain =>
      obtain rfl := eq_plain_of_isPlain isPlain
      rw [ih, isPlain, Bool.true_and]
      rfl
    next notPlain =>
      rw [showTokens_append, showTokens_append, showTokens_selects, Pen.foldl_select_selections, ih,
        Bool.eq_false_iff.mpr notPlain]
      simp [showTokens, Pen.select_reset, Pen.restyledAll]

/-- A value that is painted in several styles, the outermost first, when its own display succeeds and
has no escape. Without the sequences, the display is the value's own under the same specification, so
a width or a precision is met by the characters of the value alone. A terminal in its default state
shows each of them, the padding as well, with the attributes of all the styles and on either ground
with the color of the innermost style that has one there, and is in its default state afterwards.
Styles that are all plain leave the display as it is. -/
theorem painting_composes {ε : Type} (styles : List Style) (display : Spec → Transcript ε)
    (spec : Spec) (ok : (display spec).ok = true) (free : escape ∉ (display spec).text.toList) :
    let bare := (display spec).text
    let painted := inStyles styles display spec
    painted.ok = true ∧
    erase painted.text = bare ∧
    (∃ p : Pen,
      shown .default painted.text = (bare.toList.map fun c => (c, p), .default) ∧
      (∀ a, p.attributes.has a = true ↔ ∃ s ∈ styles, s.attributes.has a = true) ∧
      ∀ ground, p.on ground = (styles.filterMap fun s => s.colorOn? ground).getLast?) ∧
    ((∀ s ∈ styles, s.isPlain = true) → painted = display spec ∧ escape ∉ painted.text.toList) := by
  intro bare painted
  have hshown : shown .default painted.text =
      (bare.toList.map fun c => (c, Pen.default.restyledAll styles), .default) := by
    rw [shown, (reads_inStyles styles ok free).tokens_eq, showTokens_aroundAll, ite_self]
  refine ⟨(ok_inStyles styles).trans ok, ?_, ⟨_, hshown, fun a => ?_, fun ground => ?_⟩,
    fun allPlain => ?_⟩
  · exact erase_eq_of_cells (congrArg Prod.fst hshown)
  · have hnone : Pen.default.attributes.has a = false := by cases a <;> rfl
    rw [Pen.has_restyledAll, hnone]
    simp
  · have hnone : Pen.default.on ground = none := by cases ground <;> rfl
    rw [Pen.on_restyledAll, hnone, Option.or_none]
  · have hsame : painted = display spec := inStyles_of_isPlain allPlain
    exact ⟨hsame, hsame ▸ free⟩

theorem painting_composes_padded :
    let outer : List Style := [(plain.fg .blue).having .bold, plain, (plain.bg .red).having .underline]
    let value := Value.styled (plain.fg .green) "ab"
    let spec : Spec := { fill := '*', align := some .center, width := 4 }
    let painted := (inStyles outer value.display spec : Writing).text
    ((Value.string "ab").display spec : Writing).ok = true ∧
      escape ∉ ((Value.string "ab").display spec : Writing).text.toList ∧
      painted = "\x1b[1m\x1b[34m" ++ "\x1b[4m\x1b[41m" ++ "\x1b[32m" ++ "*ab*" ++
        "\x1b[0m\x1b[0m\x1b[0m" ∧
      erase painted = "*ab*" ∧
      ∃ p : Pen,
        shown .default painted = ([('*', p), ('a', p), ('b', p), ('*', p)], .default) ∧
        (p.attributes.has .bold = true ∧ p.attributes.has .underline = true ∧
          ¬ p.attributes.has .italic = true) ∧
        p.on .foreground = some .green ∧ p.on .background = some .red := by
  intro outer value spec painted
  let styles : List Style := outer ++ [plain.fg .green]
  let display : Spec → Writing := (Value.string "ab").display
  have hlayers : inStyles outer value.display = inStyles styles display := by
    rw [display_styled]
    rfl
  have hbare : (display spec).text = "*ab*" := by decide +kernel
  have free : escape ∉ (display spec).text.toList := by
    rw [hbare]
    decide
  obtain ⟨-, herase, ⟨p, hshown, hattributes, hcolors⟩, -⟩ :=
    painting_composes styles display spec rfl free
  rw [hbare] at herase hshown
  rw [← hlayers] at herase hshown
  refine ⟨rfl, free, by decide +kernel, herase, p, hshown, ⟨?_, ?_, ?_⟩, ?_, ?_⟩
  · exact (hattributes .bold).mpr (by decide)
  · exact (hattributes .underline).mpr (by decide)
  · exact mt (hattributes .italic).mp (by decide)
  · exact hcolors .foreground
  · exact hcolors .background

end Style

end CauseChain
