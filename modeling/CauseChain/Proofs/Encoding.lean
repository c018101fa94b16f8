import CauseChain.Proofs.StyledText

/-!
# Styles and their codes

A style is known by the attributes that were asked for and by the last color. Its codes say no more
and no less: a terminal that obeys the standard has these attributes and this color afterwards, and
nothing else, so that two styles never have the same codes.
-/

set_option autoImplicit false

namespace CauseChain

namespace Sgr

/-! ## The standard -/

/-- The attributes by their numbers in the standard. -/
def attributeCodes : List (Nat × Attribute) := [
  (1, .bold), (2, .dim), (3, .italic), (4, .underline), (7, .inverse), (9, .strikethrough)]

/-- The named colors by their numbers in the standard. -/
def colorCodes : Ground → List (Nat × Color)
  | .foreground => [
    (30, .black), (31, .red), (32, .green), (33, .yellow), (34, .blue), (35, .magenta), (36, .cyan),
    (37, .white), (90, .brightBlack), (91, .brightRed), (92, .brightGreen), (93, .brightYellow),
    (94, .brightBlue), (95, .brightMagenta), (96, .brightCyan), (97, .brightWhite)]
  | .background => [
    (40, .black), (41, .red), (42, .green), (43, .yellow), (44, .blue), (45, .magenta), (46, .cyan),
    (47, .white), (100, .brightBlack), (101, .brightRed), (102, .brightGreen), (103, .brightYellow),
    (104, .brightBlue), (105, .brightMagenta), (106, .brightCyan), (107, .brightWhite)]

namespace Pen

def on (p : Pen) : Ground → Option Color
  | .foreground => p.foreground
  | .background => p.background

def obeyOne (p : Pen) (n : Nat) : Pen :=
  if n = 0 then default
  else match attributeCodes.lookup n with
    | some a => { p with attributes := p.attributes.add a }
    | none =>
      match (colorCodes .foreground).lookup n with
      | some c => p.colored .foreground c
      | none =>
        match (colorCodes .background).lookup n with
        | some c => p.colored .background c
        | none => p

/-- What the standard has the parameters of a sequence do to a pen. -/
def obey (p : Pen) : List Nat → Pen
  | 38 :: 2 :: r :: g :: b :: rest =>
    (p.colored .foreground (.rgb r.toUInt8 g.toUInt8 b.toUInt8)).obey rest
  | 48 :: 2 :: r :: g :: b :: rest =>
    (p.colored .background (.rgb r.toUInt8 g.toUInt8 b.toUInt8)).obey rest
  | n :: rest => (p.obeyOne n).obey rest
  | [] => p

end Pen

theorem find?_eq_lookup {α : Type} {n : Nat} {q : α → Bool} {codes : List (Nat × α)}
    (h : ∀ e ∈ codes, q e.2 = (n == e.1)) : (codes.map Prod.snd).find? q = codes.lookup n := by
  induction codes with
  | nil => rfl
  | cons e rest ih =>
    have he := h e List.mem_cons_self
    have hrest := ih fun d hd => h d (List.mem_cons_of_mem e hd)
    obtain ⟨m, a⟩ := e
    rw [List.map_cons, List.find?_cons, List.lookup_cons, he, hrest]

theorem find?_attribute (n : Nat) :
    (Attribute.all.find? fun a => a.parameter == n) = attributeCodes.lookup n := by
  have hcodes : ∀ e ∈ attributeCodes, e.2.parameter = e.1 := by decide
  have hall : Attribute.all = attributeCodes.map Prod.snd := rfl
  rw [hall]
  refine find?_eq_lookup fun e he => ?_
  rw [hcodes e he, BEq.comm]

theorem find?_color (ground : Ground) (n : Nat) :
    (Color.named.find? fun c => c.parameters ground == [n]) = (colorCodes ground).lookup n := by
  have hcodes : ∀ e ∈ colorCodes ground, e.2.parameters ground = [e.1] := by
    cases ground <;> decide
  have hnamed : Color.named = (colorCodes ground).map Prod.snd := by cases ground <;> rfl
  rw [hnamed]
  refine find?_eq_lookup fun e he => ?_
  rw [hcodes e he, Bool.eq_iff_iff, beq_iff_eq, beq_iff_eq, List.singleton_inj]
  exact eq_comm

theorem Pen.selectOne_eq_obeyOne (p : Pen) (n : Nat) : p.selectOne n = p.obeyOne n := by
  rw [selectOne, find?_attribute, find?_color, find?_color]
  rfl

theorem Pen.select_eq_obey (p : Pen) (ns : List Nat) : p.select ns = p.obey ns := by
  fun_induction Pen.select p ns with
  | case1 p r g b rest ih => exact ih
  | case2 p r g b rest ih => exact ih
  | case3 p n rest hfg hbg ih =>
    rw [obey, ih, selectOne_eq_obeyOne]
    · exact hfg
    · exact hbg
  | case4 p => rfl

end Sgr

namespace Style

/-! ## What a style is built of -/

def Call.color? : Call → Option (Color × Ground)
  | .having _ => none
  | .colored ground c => some (c, ground)

/-- The color of the last call that has one. -/
def lastColor? (calls : List Call) : Option (Color × Ground) := (calls.filterMap Call.color?).getLast?

theorem has_foldl_call (calls : List Call) (s : Style) (a : Attribute) :
    (calls.foldl call s).attributes.has a = true ↔ .having a ∈ calls ∨ s.attributes.has a = true := by
  induction calls generalizing s with
  | nil => simp
  | cons c rest ih =>
    rw [List.foldl_cons, ih, List.mem_cons]
    cases c with
    | having b =>
      change _ ∨ (s.attributes.add b).has a = true ↔ _
      rw [Attributes.has_add, Bool.or_eq_true, decide_eq_true_iff, Call.having.injEq,
        or_left_comm, ← or_assoc, eq_comm]
    | colored ground c =>
      have hsame : (s.call (.colored ground c)).attributes = s.attributes := by cases ground <;> rfl
      rw [hsame]
      simp

/-- If what is seen of a state is what a step writes, or else what was seen before it, then what is
seen in the end was written last. -/
theorem foldl_keeps_last {σ α β : Type} {step : σ → α → σ} (seen : σ → Option β)
    {write : α → Option β} (h : ∀ p x, seen (step p x) = (write x).or (seen p)) (xs : List α)
    (p : σ) : seen (xs.foldl step p) = (xs.filterMap write).getLast?.or (seen p) := by
  induction xs generalizing p with
  | nil => rfl
  | cons x rest ih =>
    rw [List.foldl_cons, ih, h, List.filterMap_cons]
    cases write x with
    | none => rw [Option.none_or]
    | some b =>
      change _ = (List.getLast? (b :: rest.filterMap write)).or (seen p)
      rw [List.getLast?_cons]
      cases (rest.filterMap write).getLast? <;> rfl

theorem color_foldl_call (calls : List Call) (s : Style) :
    (calls.foldl call s).color = (lastColor? calls).or s.color := by
  refine foldl_keeps_last color (fun s c => ?_) calls s
  cases c with
  | having a => rfl
  | colored ground c => cases ground <;> rfl

section Build
variable (calls : List Call)

theorem has_build (a : Attribute) :
    (build calls).attributes.has a = true ↔ .having a ∈ calls := by
  have hplain : plain.attributes.has a = false := by cases a <;> rfl
  rw [build, has_foldl_call, hplain]
  simp

theorem color_build : (build calls).color = lastColor? calls := by
  rw [build, color_foldl_call]
  exact Option.or_none

end Build

theorem ext_has_color {s t : Style} (has : ∀ a, s.attributes.has a = true ↔ t.attributes.has a = true)
    (color : s.color = t.color) : s = t := by
  obtain ⟨color', attributes⟩ := s
  obtain rfl : color' = t.color := color
  have hattributes : attributes = t.attributes := Attributes.ext_has fun a => Bool.eq_iff_iff.mpr (has a)
  rw [hattributes]

theorem build_eq_build_iff {calls calls' : List Call} :
    build calls = build calls' ↔
      (∀ a, .having a ∈ calls ↔ .having a ∈ calls') ∧ lastColor? calls = lastColor? calls' := by
  constructor
  · intro h
    refine ⟨fun a => ?_, ?_⟩
    · rw [← has_build, ← has_build, h]
    · rw [← color_build, ← color_build, h]
  · rintro ⟨has, color⟩
    refine ext_has_color (fun a => ?_) ?_
    · rw [has_build, has_build]
      exact has a
    · rw [color_build, color_build]
      exact color

/-! ## What its codes say -/

theorem tokens_opening (s : Style) : Sgr.tokens s.opening.toList = s.selections.map .select :=
  s.reads_opening.tokens_eq

theorem foldl_obey_selections (s : Style) : s.selections.foldl Sgr.Pen.obey .default = s.pen := by
  rw [← restyled_default, ← Sgr.Pen.foldl_select_selections]
  congr 1
  funext p ns
  exact (p.select_eq_obey ns).symm

theorem on_pen (s : Style) (ground : Ground) (c : Color) :
    s.pen.on ground = some c ↔ s.color = some (c, ground) := by
  obtain ⟨_ | ⟨c', ground'⟩, attributes⟩ := s
  · cases ground <;> simp [pen, colorOn?, Sgr.Pen.on]
  · cases ground <;> cases ground' <;> simp [pen, colorOn?, Sgr.Pen.on, Option.filter]

theorem pen_injective {s t : Style} (h : s.pen = t.pen) : s = t := by
  refine ext_has_color (fun a => ?_) ?_
  · have hattributes : s.attributes = t.attributes := congrArg Sgr.Pen.attributes h
    rw [hattributes]
  · ext ⟨c, ground⟩
    rw [← on_pen, ← on_pen, h]

theorem opening_injective {s t : Style} (h : s.opening = t.opening) : s = t := by
  have hselects : s.selections.map Sgr.Token.select = t.selections.map Sgr.Token.select := by
    rw [← tokens_opening, ← tokens_opening, h]
  have hselections : s.selections = t.selections :=
    (List.map_inj_right fun _ _ => Sgr.Token.select.inj).mp hselects
  apply pen_injective
  rw [← foldl_obey_selections, ← foldl_obey_selections, hselections]

theorem opening_eq_empty_iff (s : Style) : s.opening = "" ↔ s.isPlain = true := by
  constructor
  · intro h
    obtain rfl : s = plain := opening_injective h
    rfl
  · intro h
    rw [eq_plain_of_isPlain h]
    rfl

/-- Styles that are built by calls, and what they write before a text. Which attributes were asked for
and which color came last is all that tells styles apart, and the codes tell them apart just so; there
are none if and only if the style is plain. A terminal reads sequences and no character, and if it
obeys the standard it has each attribute that was asked for and no other, and the last color on its
ground and no other. -/
theorem codes_are_canonical (calls calls' : List Call) :
    (build calls = build calls' ↔
      (∀ a, .having a ∈ calls ↔ .having a ∈ calls') ∧ lastColor? calls = lastColor? calls') ∧
    ((build calls).opening = (build calls').opening ↔ build calls = build calls') ∧
    ((build calls).opening = "" ↔ (build calls).isPlain = true) ∧
    ∃ sequences : List (List Nat),
      Sgr.tokens (build calls).opening.toList = sequences.map .select ∧
      let p := sequences.foldl Sgr.Pen.obey .default
      (∀ a, p.attributes.has a = true ↔ .having a ∈ calls) ∧
        ∀ ground c, p.on ground = some c ↔ lastColor? calls = some (c, ground) := by
  refine ⟨build_eq_build_iff, ⟨opening_injective, congrArg opening⟩, opening_eq_empty_iff _,
    (build calls).selections, tokens_opening _, ?_⟩
  rw [foldl_obey_selections]
  refine ⟨fun a => has_build calls a, fun ground c => ?_⟩
  rw [on_pen, color_build]

end Style

end CauseChain
