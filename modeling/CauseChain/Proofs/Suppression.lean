import CauseChain.Terminal.Stream
import CauseChain.Proofs.Decoration
import CauseChain.Proofs.Detection

/-!
# When a rendering has escapes

The choice of the process and the environment decide whether a rendering is colored before anything
else is asked. A colored rendering styles its title, so it has an escape, and a plain one has none
but those of its texts: the two sides of a decision show in the text.
-/

set_option autoImplicit false

namespace CauseChain

/-! ## The decision -/

/-- The environment refuses color, whatever the bytes of the refusal. -/
def Environment.Refuses (env : Environment) : Prop :=
  ∃ bytes, env.bytes? "NO_COLOR" = some bytes ∧ bytes ≠ ByteArray.empty

/-- A variable, if it is set, is set to a text. -/
def Environment.Textual (env : Environment) (name : String) : Prop :=
  ∀ bytes, env.bytes? name = some bytes → ∃ s : String, bytes = s.toUTF8

theorem ColorPolicy.choice_foldl_set (choices : List ColorChoice) (p : ColorPolicy) :
    (choices.foldl set p).choice = choices.getLast?.getD p.choice := by
  induction choices generalizing p with
  | nil => rfl
  | cons c rest ih =>
    rw [List.foldl_cons, ih, choice_set, List.getLast?_cons]
    rfl

section Decision
variable {env : Environment} {stream : StreamState}

theorem any_refusal :
    ((env.bytes? "NO_COLOR").any fun bytes => !bytes.isEmpty) = true ↔ env.Refuses := by
  rw [Option.any_eq_true]
  refine exists_congr fun bytes => and_congr Iff.rfl ?_
  rw [Bool.not_eq_true', ByteArray.isEmpty, beq_eq_false_iff_ne, ne_eq, ByteArray.size_eq_zero_iff]

theorem usesColor_of_refuses (refuses : env.Refuses) (choice : ColorChoice) :
    usesColor choice env stream = false := by
  cases choice <;> simp [usesColor, any_refusal.mpr refuses]

theorem usesColor_always (free : ¬ env.Refuses) : usesColor .always env stream = true := by
  rw [usesColor, Bool.not_eq_true']
  exact Bool.eq_false_iff.mpr fun h => free (any_refusal.mp h)

/-- A refusal that is a text is heard by both readers of the variable. -/
theorem ofStream_of_refuses (textual : env.Textual "NO_COLOR") (refuses : env.Refuses)
    (isTerminal : Bool) : ColorLevel.ofStream env.text? isTerminal = .none := by
  obtain ⟨bytes, hbytes, hne⟩ := refuses
  obtain ⟨s, rfl⟩ := textual bytes hbytes
  have hs : env.text? "NO_COLOR" = some s := by
    rw [Environment.text?, hbytes, Option.bind_some, String.fromUTF8?]
    exact dif_pos s.isValidUTF8
  exact ColorLevel.ofStream_of_refusing ⟨s, hs, fun h => hne (h ▸ rfl)⟩

theorem usesColor_auto (textual : env.Textual "NO_COLOR") :
    usesColor .auto env stream = (ColorLevel.ofStream env.text? stream.isTerminal).basic := by
  by_cases refuses : env.Refuses
  · rw [usesColor_of_refuses refuses, ofStream_of_refuses textual refuses]
    rfl
  · have hfree : ((env.bytes? "NO_COLOR").any fun bytes => !bytes.isEmpty) = false :=
      Bool.eq_false_iff.mpr fun h => refuses (any_refusal.mp h)
    rw [usesColor, hfree, Bool.not_false, Bool.true_and]

end Decision

/-! ## What a rendering shows of it -/

namespace Layout

/-- The layouts that come with the library: no escape is in their texts, and the title is bold and
dark red. -/
structure Stock (l : Layout) : Prop where
  free : l.Without Sgr.escape
  title : l.bannerStyle.brackets.before ++ l.title ++ l.bannerStyle.brackets.after =
    "\x1b[1m\x1b[38;2;91;0;0m Error: \x1b[0m"

theorem stock_unicode : unicode.Stock := ⟨by constructor <;> decide, by decide⟩

theorem stock_ascii : ascii.Stock := ⟨by constructor <;> decide, by decide⟩

theorem stock_of_preset {l : Layout} (preset : l = unicode ∨ l = ascii) : l.Stock := by
  rcases preset with rfl | rfl
  · exact stock_unicode
  · exact stock_ascii

end Layout

namespace Report
variable {l : Layout} {h : Hooks} (r : Report)

theorem text_render (inForce : h.formatter = .layout l) (o : Options) :
    ((r.render o).captured h).text =
      String.join ((l.inks o.columns r.frames.reverse (r.turns h)).map (Ink.written o)) := by
  rw [render, r.captured_formatted inForce, l.captured_render_inks]

theorem lacks_render (stock : l.Stock) (inForce : h.formatter = .layout l)
    (root : ∀ f, r.root? = some f → Lacks f.location.file Sgr.escape)
    (messages : ∀ m ∈ r.messages h, Lacks m Sgr.escape) {o : Options} (plain : o.colors = false) :
    Lacks ((r.render o).captured h).text Sgr.escape := by
  obtain ⟨_, columns⟩ := o
  obtain rfl : _ = false := plain
  have hroot : ∀ f, r.frames.reverse.head? = some f → Lacks f.location.file Sgr.escape := by
    rw [List.head?_reverse]
    exact root
  rw [r.text_render inForce, Ink.written_without_colors]
  exact lacks_join (List.forall_mem_map.mpr (stock.free.inks columns hroot fun turn hturn =>
    messages turn.text (List.mem_map_of_mem hturn)))

/-- A colored rendering: the left part of the banner, the title in its style, and all else. -/
theorem title_render (stock : l.Stock) (inForce : h.formatter = .layout l) {o : Options}
    (colored : o.colors = true) :
    ∃ rest, ((r.render o).captured h).text =
      String.join (Spec.fillers l.fill (Layout.fillAround o.columns l.title.length).1) ++
        "\x1b[1m\x1b[38;2;91;0;0m Error: \x1b[0m" ++ rest := by
  obtain ⟨_, columns⟩ := o
  obtain rfl : _ = true := colored
  let left := String.join (Spec.fillers l.fill (Layout.fillAround columns l.title.length).1)
  obtain ⟨others, hinks⟩ : ∃ others, l.inks columns r.frames.reverse (r.turns h) =
      .plain left :: ⟨l.bannerStyle, l.title⟩ :: others := ⟨_, rfl⟩
  refine ⟨String.join (others.map (Ink.written ⟨true, columns⟩)), ?_⟩
  rw [r.text_render inForce, hinks, List.map_cons, List.map_cons, String.join_cons, String.join_cons,
    Ink.written_plain, Ink.written_mk, Options.styled, if_pos rfl, stock.title, String.append_assoc]

theorem escape_mem_render (stock : l.Stock) (inForce : h.formatter = .layout l) {o : Options}
    (colored : o.colors = true) : Sgr.escape ∈ ((r.render o).captured h).text.toList := by
  obtain ⟨rest, htext⟩ := r.title_render stock inForce colored
  rw [htext, String.toList_append, String.toList_append]
  have htitle : Sgr.escape ∈ "\x1b[1m\x1b[38;2;91;0;0m Error: \x1b[0m".toList := by decide
  exact List.mem_append_left _ (List.mem_append_right _ htitle)

/-- How colors are suppressed, whatever choices a process has made one after the other, whatever is
in its environment and whatever its stream is. The last choice counts. A rendering in a layout of the
library, of texts without escapes, has none itself if color is never to be used or is refused; if it
is always to be used and not refused, the title is styled; and if it is to be used as the stream
allows, there are escapes just if the level that the stream is given has color. The last speaks of
environments in which a refusal is a text. There is always a column to write in. -/
theorem escapes_follow_policy (choices : List ColorChoice) (env : Environment)
    (stream : StreamState) (l : Layout) (r : Report) (h : Hooks)
    (preset : l = .unicode ∨ l = .ascii) (inForce : h.formatter = .layout l)
    (root : ∀ f, r.root? = some f → Lacks f.location.file Sgr.escape)
    (messages : ∀ m ∈ r.messages h, Lacks m Sgr.escape) :
    let choice := (choices.foldl ColorPolicy.set {}).choice
    let o := Options.ofStream choice env stream
    let out := ((r.render o).captured h).text
    choice = choices.getLast?.getD .auto ∧
    (choice = .never ∨ env.Refuses → Lacks out Sgr.escape) ∧
    (choice = .always → ¬ env.Refuses → ∃ rest, out =
      String.join (Spec.fillers l.fill (Layout.fillAround o.columns l.title.length).1) ++
        "\x1b[1m\x1b[38;2;91;0;0m Error: \x1b[0m" ++ rest) ∧
    (choice = .auto → env.Textual "NO_COLOR" → (Sgr.escape ∈ out.toList ↔
      (ColorLevel.ofStream env.text? stream.isTerminal).basic = true)) ∧
    0 < o.columns := by
  intro choice o out
  have stock := Layout.stock_of_preset preset
  have hcolors : o.colors = usesColor choice env stream := rfl
  refine ⟨ColorPolicy.choice_foldl_set choices {}, ?_, ?_, ?_, Options.columnsOf_pos stream.window⟩
  · intro hsuppressed
    refine r.lacks_render stock inForce root messages (hcolors.trans ?_)
    rcases hsuppressed with hnever | refuses
    · rw [hnever]
      rfl
    · exact usesColor_of_refuses refuses choice
  · intro halways free
    refine r.title_render stock inForce (hcolors.trans ?_)
    rw [halways]
    exact usesColor_always free
  · intro hauto textual
    rw [hauto, usesColor_auto textual] at hcolors
    cases hbasic : (ColorLevel.ofStream env.text? stream.isTerminal).basic with
    | false =>
      have hlacks := r.lacks_render stock inForce root messages (hcolors.trans hbasic)
      exact iff_of_false hlacks Bool.false_ne_true
    | true =>
      exact iff_of_true (r.escape_mem_render stock inForce (hcolors.trans hbasic)) rfl

theorem escapes_follow_policy_two :
    let site : Location := ⟨"m.rs", 3, 5⟩
    let r : Report := ⟨[⟨.value (.string "b"), .display, site⟩,
      ⟨.value (.string "a"), .display, site⟩]⟩
    let refusing := (Environment.empty.set "FORCE_COLOR" "3".toUTF8).set "NO_COLOR" "1".toUTF8
    let silent := (Environment.empty.set "TERM" "dumb".toUTF8).set "NO_COLOR" "".toUTF8
    let asking := Environment.empty.set "FORCE_COLOR" "2".toUTF8
    let out := fun (choice : ColorChoice) env stream =>
      ((r.render (Options.ofStream choice env stream)).captured .none).text
    Hooks.none.formatter = .layout .unicode ∧
      (∀ f, r.root? = some f → Lacks f.location.file Sgr.escape) ∧
      (∀ m ∈ r.messages .none, Lacks m Sgr.escape) ∧
      (refusing.Refuses ∧ Lacks (out .always refusing (.terminal ⟨10, 1⟩)) Sgr.escape) ∧
      (¬ silent.Refuses ∧ ∃ rest, out .always silent (.terminal ⟨10, 1⟩) =
        "━" ++ "\x1b[1m\x1b[38;2;91;0;0m Error: \x1b[0m" ++ rest) ∧
      asking.Textual "NO_COLOR" ∧ Sgr.escape ∈ (out .auto asking .file).toList := by
  intro site r refusing silent asking out
  have root : ∀ f, r.root? = some f → Lacks f.location.file Sgr.escape := by
    rintro f ⟨⟩
    decide
  have hmessages : r.messages .none = ["a", "b"] := by decide +kernel
  have messages : ∀ m ∈ r.messages .none, Lacks m Sgr.escape := by
    rw [hmessages]
    decide
  have run := fun choices env stream =>
    escapes_follow_policy choices env stream .unicode r .none (.inl rfl) rfl root messages
  have refuses : refusing.Refuses := ⟨"1".toUTF8, rfl, by decide⟩
  have free : ¬ silent.Refuses := by
    rintro ⟨bytes, hbytes, hne⟩
    exact hne (Option.some.inj hbytes).symm
  have textual : asking.Textual "NO_COLOR" := fun bytes hbytes => by cases hbytes
  refine ⟨rfl, root, messages, ⟨refuses, ?_⟩, ⟨free, ?_⟩, textual, ?_⟩
  · exact (run [.never, .always] refusing (.terminal ⟨10, 1⟩)).2.1 (.inr refuses)
  · obtain ⟨rest, htext⟩ := (run [.never, .always] silent (.terminal ⟨10, 1⟩)).2.2.1 rfl free
    have hfill : String.join (Spec.fillers '━' (Layout.fillAround 10 8).1) = "━" := by decide
    exact ⟨rest, htext.trans (by rw [← hfill]; rfl)⟩
  · exact ((run [.always, .auto] asking .file).2.2.2.1 rfl textual).mpr (by decide +kernel)

end Report

end CauseChain
