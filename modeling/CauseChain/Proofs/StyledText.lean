import CauseChain.Terminal.Sgr

/-!
# How styled text is read

Text without escapes is read as its characters and a sequence as its parameters, whatever stands
behind them. So a painted text can be read piece by piece: the sequences of a style add its
attributes and its color to a pen, and the reset behind the text gives the default pen back.
-/

set_option autoImplicit false

namespace CauseChain

namespace Sgr

/-! ## Texts that are read for themselves -/

/-- A text that is read as certain tokens whatever stands behind it. -/
def Reads (s : String) (ts : List Token) : Prop :=
  ∀ rest, tokens (s.toList ++ rest) = ts ++ tokens rest

theorem Reads.tokens_eq {s : String} {ts : List Token} (h : Reads s ts) : tokens s.toList = ts := by
  have hs := h []
  rw [List.append_nil] at hs
  exact hs.trans (List.append_nil ts)

theorem reads_empty : Reads "" [] := fun _ => rfl

theorem Reads.append {s s' : String} {ts ts' : List Token} (h : Reads s ts) (h' : Reads s' ts') :
    Reads (s ++ s') (ts ++ ts') := by
  intro rest
  rw [String.toList_append, List.append_assoc, h, h', List.append_assoc]

theorem reads_join {α : Type} (xs : List α) {text : α → String} {read : α → List Token}
    (h : ∀ x ∈ xs, Reads (text x) (read x)) :
    Reads (String.join (xs.map text)) (xs.flatMap read) := by
  induction xs with
  | nil => exact reads_empty
  | cons x rest ih =>
    rw [List.map_cons, String.join_cons, List.flatMap_cons]
    exact (h x List.mem_cons_self).append (ih fun y hy => h y (List.mem_cons_of_mem x hy))

theorem tokens_glyphs {cs : List Char} (free : escape ∉ cs) (rest : List Char) :
    tokens (cs ++ rest) = cs.map .glyph ++ tokens rest := by
  induction cs with
  | nil => rfl
  | cons c cs ih =>
    simp only [List.mem_cons, not_or] at free
    have hne : (c == escape) = false := by simpa using Ne.symm free.1
    rw [List.map_cons, List.cons_append, List.cons_append, ← ih free.2]
    simp [tokens, tokensFrom, State.pending, hne]

theorem reads_glyphs {s : String} (free : escape ∉ s.toList) : Reads s (s.toList.map .glyph) :=
  tokens_glyphs free

/-! ## Sequences -/

/-- What stands between the opening and the end of a sequence. -/
def written (ps : List Nat) : List Char := [';'].intercalate (ps.map fun n => Nat.toDigits 10 n)

theorem toList_sequence (ps : List Nat) :
    (Style.sequence ps).toList = escape :: '[' :: (written ps ++ ['m']) := by
  simp [Style.sequence, written, escape, String.toList_intercalate, Function.comp_def]

theorem isDigit_of_mem_toDigits {n : Nat} {c : Char} (hc : c ∈ Nat.toDigits 10 n) :
    c.isDigit = true :=
  Nat.isDigit_of_mem_toDigits (by omega) (by omega) hc

theorem isParameter_of_mem_written {ps : List Nat} {c : Char} (hc : c ∈ written ps) :
    isParameter c = true := by
  induction ps with
  | nil => simp [written] at hc
  | cons n rest ih =>
    cases rest with
    | nil =>
      rw [written, List.map_cons, List.map_nil, List.intercalate_singleton] at hc
      rw [isParameter, isDigit_of_mem_toDigits hc, Bool.true_or]
    | cons m rest =>
      rw [written, List.map_cons, List.map_cons, List.intercalate_cons_cons, List.mem_append,
        List.mem_append] at hc
      rcases hc with (hc | hc) | hc
      · rw [isParameter, isDigit_of_mem_toDigits hc, Bool.true_or]
      · rw [List.mem_singleton.mp hc]
        rfl
      · exact ih hc

theorem numbers_written {ps : List Nat} (nonempty : ps ≠ []) : numbers (written ps) = ps := by
  have hfree : ∀ ds ∈ ps.map fun n => Nat.toDigits 10 n, ';' ∉ ds := by
    intro ds hds hmem
    obtain ⟨n, -, rfl⟩ := List.mem_map.mp hds
    have hdigit := isDigit_of_mem_toDigits hmem
    revert hdigit
    decide
  have hsplit : (written ps).splitOn ';' = ps.map fun n => Nat.toDigits 10 n :=
    List.splitOn_intercalate ';' hfree (by simpa using nonempty)
  have hdigits : ∀ n, (Nat.toDigits 10 n).foldl (fun n d => 10 * n + (d.toNat - 48)) 0 = n :=
    fun n => Nat.ofDigitChars_ten_toDigits
  rw [List.splitOn] at hsplit
  rw [numbers, hsplit, List.map_map]
  simp [Function.comp_def, hdigits]

theorem tokensFrom_within (read : List Char) {cs : List Char}
    (parameters : ∀ c ∈ cs, isParameter c = true) (rest : List Char) :
    tokensFrom (.within read) (cs ++ rest) = tokensFrom (.within (cs.reverse ++ read)) rest := by
  induction cs generalizing read with
  | nil => rfl
  | cons c cs ih =>
    have hc := parameters c List.mem_cons_self
    rw [List.cons_append, tokensFrom, if_pos hc,
      ih (c :: read) fun d hd => parameters d (List.mem_cons_of_mem c hd), List.reverse_cons,
      List.append_assoc, List.singleton_append]

theorem reads_sequence {ps : List Nat} (nonempty : ps ≠ []) :
    Reads (Style.sequence ps) [.select ps] := by
  intro rest
  have hparameters : ∀ c ∈ written ps, isParameter c = true := fun c => isParameter_of_mem_written
  rw [toList_sequence, List.cons_append, List.cons_append, List.append_assoc]
  change tokensFrom (.within []) (written ps ++ ('m' :: rest)) = _
  rw [tokensFrom_within [] hparameters, List.append_nil]
  change .select (numbers (written ps).reverse.reverse) :: tokens rest = _
  rw [List.reverse_reverse, numbers_written nonempty]
  rfl

/-! ## What a terminal shows -/

theorem showTokens_append (p : Pen) (ts ts' : List Token) :
    showTokens p (ts ++ ts') =
      ((showTokens p ts).1 ++ (showTokens (showTokens p ts).2 ts').1,
        (showTokens (showTokens p ts).2 ts').2) := by
  induction ts generalizing p with
  | nil => rfl
  | cons t rest ih =>
    cases t with
    | glyph c => rw [List.cons_append, showTokens, ih, showTokens, List.cons_append]
    | select ns => exact ih (p.select ns)

theorem showTokens_glyphs (p : Pen) (cs : List Char) :
    showTokens p (cs.map .glyph) = (cs.map fun c => (c, p), p) := by
  induction cs with
  | nil => rfl
  | cons c cs ih => rw [List.map_cons, showTokens, ih, List.map_cons]

theorem showTokens_selects (p : Pen) (selections : List (List Nat)) :
    showTokens p (selections.map .select) = ([], selections.foldl Pen.select p) := by
  induction selections generalizing p with
  | nil => rfl
  | cons ns rest ih => exact ih (p.select ns)

/-- What is left of a text without its sequences is what a terminal shows, whatever its pen. -/
theorem toList_erase (p : Pen) (s : String) : (erase s).toList = (shown p s).1.map Prod.fst := by
  rw [erase, String.toList_ofList, shown]
  induction tokens s.toList generalizing p with
  | nil => rfl
  | cons t rest ih =>
    cases t with
    | glyph c => simp [showTokens, ← ih p]
    | select ns => exact ih (p.select ns)

theorem erase_eq_of_cells {p q : Pen} {s t : String}
    (h : (shown p s).1 = t.toList.map fun c => (c, q)) : erase s = t := by
  apply String.toList_inj.mp
  rw [toList_erase p, h, List.map_map]
  exact List.map_id t.toList

theorem erase_of_free {s : String} (free : escape ∉ s.toList) : erase s = s := by
  have hcells : (shown .default s).1 = s.toList.map fun c => (c, Pen.default) := by
    rw [shown, (reads_glyphs free).tokens_eq, showTokens_glyphs]
  exact erase_eq_of_cells hcells

theorem erase_of_selects {s : String} {selections : List (List Nat)}
    (h : Reads s (selections.map .select)) : erase s = "" := by
  apply String.toList_inj.mp
  rw [toList_erase .default, shown, h.tokens_eq, showTokens_selects]
  rfl

end Sgr

/-! ## Styles and pens -/

namespace Attributes

def addAll (s : Attributes) (as : List Attribute) : Attributes := as.foldl add s

theorem has_addAll (s : Attributes) (as : List Attribute) (a : Attribute) :
    (s.addAll as).has a = (decide (a ∈ as) || s.has a) := by
  induction as generalizing s with
  | nil => rfl
  | cons b rest ih =>
    change ((s.add b).addAll rest).has a = _
    rw [ih, has_add]
    by_cases hb : b = a
    · simp [hb]
    · simp [hb, Ne.symm hb]

theorem addAll_toList (s : Attributes) : none.addAll s.toList = s := by
  refine ext_has fun a => ?_
  have hnone : none.has a = false := by cases a <;> rfl
  rw [has_addAll, hnone, Bool.or_false]
  simp

end Attributes

namespace Sgr.Pen
variable (p : Pen)

theorem select_attribute (a : Attribute) :
    p.select [a.parameter] = { p with attributes := p.attributes.add a } := by
  cases a <;> rfl

theorem select_color (ground : Ground) (c : Color) :
    p.select (c.parameters ground) = p.colored ground c := by
  cases c with
  | rgb r g b => cases ground <;> simp [Color.parameters, select]
  | _ => cases ground <;> rfl

theorem select_reset : p.select [0] = .default := by
  simp [select, selectOne]

/-- A pen when a style is selected on top of what it has. -/
def restyled (s : Style) : Pen :=
  let q := { p with attributes := p.attributes.addAll s.attributes.toList }
  match s.color with
  | none => q
  | some (c, ground) => q.colored ground c

theorem foldl_select_attributes (as : List Attribute) :
    (as.map fun a => [a.parameter]).foldl select p =
      { p with attributes := p.attributes.addAll as } := by
  induction as generalizing p with
  | nil => rfl
  | cons a rest ih =>
    rw [List.map_cons, List.foldl_cons, select_attribute, ih]
    rfl

theorem foldl_select_selections (s : Style) : s.selections.foldl select p = p.restyled s := by
  rw [Style.selections, List.foldl_append, foldl_select_attributes, restyled]
  cases s.color with
  | none => rfl
  | some colored => exact select_color _ colored.2 colored.1

end Sgr.Pen

namespace Style
open Sgr

def colorOn? (s : Style) (ground : Ground) : Option Color :=
  (s.color.filter fun colored => colored.2 == ground).map Prod.fst

/-- The pen that writes in a style. -/
def pen (s : Style) : Pen where
  attributes := s.attributes
  foreground := s.colorOn? .foreground
  background := s.colorOn? .background

@[simp] theorem pen_plain : plain.pen = .default := rfl

theorem restyled_default (s : Style) : Pen.default.restyled s = s.pen := by
  have hattributes : Pen.default.attributes.addAll s.attributes.toList = s.attributes :=
    s.attributes.addAll_toList
  rw [Pen.restyled, hattributes]
  obtain ⟨_ | ⟨c, ground⟩, attributes⟩ := s
  · rfl
  · cases ground <;> rfl

theorem eq_plain_of_isPlain {s : Style} (isPlain : s.isPlain = true) : s = plain := by
  simp only [Style.isPlain, Bool.and_eq_true, Option.isNone_iff_eq_none, beq_iff_eq] at isPlain
  obtain ⟨color, attributes⟩ := s
  obtain ⟨rfl, rfl⟩ := isPlain
  rfl

/-- What a text is read as when it is painted in a style. -/
def around (s : Style) (ts : List Token) : List Token :=
  if s.isPlain then ts else s.selections.map .select ++ ts ++ [.select [0]]

theorem selection_ne_nil {s : Style} {ps : List Nat} (hps : ps ∈ s.selections) : ps ≠ [] := by
  rcases List.mem_append.mp hps with hps | hps
  · obtain ⟨a, -, rfl⟩ := List.mem_map.mp hps
    exact List.cons_ne_nil _ _
  · rw [Option.mem_toList, Option.map_eq_some_iff] at hps
    obtain ⟨⟨c, ground⟩, -, rfl⟩ := hps
    cases c <;> exact List.cons_ne_nil _ _

theorem reads_opening (s : Style) : Reads s.opening (s.selections.map .select) := by
  have hselects : s.selections.map Token.select = s.selections.flatMap fun ps => [.select ps] :=
    List.map_eq_flatMap
  rw [opening_eq, hselects]
  exact reads_join s.selections fun ps hps => reads_sequence (selection_ne_nil hps)

theorem reads_reset : Reads reset [.select [0]] := reads_sequence (List.cons_ne_nil 0 [])

/-- Nothing in the brackets of a style is shown. -/
theorem erase_brackets (s : Style) :
    erase s.brackets.before = "" ∧ erase s.brackets.after = "" := by
  rw [brackets]
  split
  · exact ⟨rfl, rfl⟩
  · have hreset : Reads reset ([[0]].map .select) := reads_reset
    exact ⟨erase_of_selects s.reads_opening, erase_of_selects hreset⟩

theorem reads_brackets (s : Style) {text : String} {ts : List Token} (h : Reads text ts) :
    Reads (s.brackets.before ++ text ++ s.brackets.after) (s.around ts) := by
  rw [brackets, around]
  split
  · rw [String.empty_append, String.append_empty]
    exact h
  · exact (s.reads_opening.append h).append reads_reset

theorem reads_paint {ε : Type} (s : Style) {body : Transcript ε} (ok : body.ok = true)
    {ts : List Token} (h : Reads body.text ts) : Reads (s.paint body).text (s.around ts) := by
  rw [text_paint s ok]
  exact s.reads_brackets h

theorem showTokens_around (s : Style) (cs : List Char) :
    showTokens .default (s.around (cs.map .glyph)) = (cs.map fun c => (c, s.pen), .default) := by
  rw [around]
  split
  next isPlain =>
    obtain rfl := eq_plain_of_isPlain isPlain
    rw [showTokens_glyphs, pen_plain]
  next =>
    rw [showTokens_append, showTokens_append, showTokens_selects, Pen.foldl_select_selections,
      restyled_default, showTokens_glyphs]
    simp [showTokens, Pen.select_reset]

end Style

end CauseChain
