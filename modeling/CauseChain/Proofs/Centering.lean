import CauseChain.Proofs.Decoration
import CauseChain.Proofs.Encoding

/-!
# Banners

A banner is a title with fill characters on either side of it, as many as the columns leave room for,
and one more behind it than before it if they do not come out even. A title that is too wide stands
alone and is not cut. Colors put sequences around the title and change nothing else, and whatever the
report is, its rendering starts with the same banner.
-/

set_option autoImplicit false

namespace CauseChain

namespace Layout
variable (l : Layout)

theorem fillAround_even (columns length : Nat) :
    (fillAround columns length).2 = (fillAround columns length).1 ∨
      (fillAround columns length).2 = (fillAround columns length).1 + 1 := by
  simp only [fillAround]
  omega

theorem length_bannerLine (left : Nat) (title : String) (right : Nat) :
    (l.bannerLine left title right).length = left + title.length + right + 1 := by
  have hbreak : "\n".length = 1 := by decide
  simp [bannerLine, hbreak]

section Banner
variable (columns : Nat)

theorem text_plain_banner : (l.banner ⟨false, columns⟩).text =
    l.bannerLine (fillAround columns l.title.length).1 l.title
      (fillAround columns l.title.length).2 :=
  l.text_banner ⟨false, columns⟩

theorem text_colored_banner : (l.banner ⟨true, columns⟩).text =
    l.bannerLine (fillAround columns l.title.length).1
      (l.bannerStyle.brackets.before ++ l.title ++ l.bannerStyle.brackets.after)
      (fillAround columns l.title.length).2 :=
  l.text_banner ⟨true, columns⟩

variable {l}

theorem erase_banner (fill : l.fill ≠ Sgr.escape) (title : Lacks l.title Sgr.escape)
    (colors : Bool) :
    Sgr.erase (l.banner ⟨colors, columns⟩).text = (l.banner ⟨false, columns⟩).text := by
  have hfree := lacks_bannerInks fill title columns
  rw [text_banner, text_banner, bannerText_eq, bannerText_eq, Ink.written_without_colors]
  cases colors with
  | true => exact Ink.erase_written columns hfree
  | false =>
    rw [Ink.written_without_colors]
    exact Sgr.erase_of_free (lacks_join (List.forall_mem_map.mpr hfree))

end Banner

/-- The banner of any layout at any number of columns. There is a number of fill characters before the
title and one behind it, and they make up what the title leaves of the columns, if it leaves any; the
second is the first or one more. Without colors the banner is these characters, the title and a line
break, and with colors there are sequences around the title, which show nothing. If the layout itself
has no escapes, nothing else is left of it either way when sequences are erased. The rendering of every
report starts with it, also if another specification was asked for or a frame fails. -/
theorem banner_is_centered (l : Layout) (columns : Nat) :
    ∃ left right : Nat,
      left + right = columns - l.title.length ∧
      left + l.title.length + right = max columns l.title.length ∧
      (right = left ∨ right = left + 1) ∧
      (l.banner ⟨false, columns⟩).text = l.bannerLine left l.title right ∧
      (l.banner ⟨false, columns⟩).text.length = max columns l.title.length + 1 ∧
      (l.banner ⟨true, columns⟩).text = l.bannerLine left
        (l.bannerStyle.brackets.before ++ l.title ++ l.bannerStyle.brackets.after) right ∧
      (Sgr.erase l.bannerStyle.brackets.before = "" ∧
        Sgr.erase l.bannerStyle.brackets.after = "") ∧
      ∀ colors : Bool,
        (l.fill ≠ Sgr.escape → Lacks l.title Sgr.escape →
          Sgr.erase (l.banner ⟨colors, columns⟩).text = (l.banner ⟨false, columns⟩).text) ∧
        ∀ (r : Report) (h : Hooks),
          (∃ rest, ((l.render r ⟨colors, columns⟩).captured h).text =
            (l.banner ⟨colors, columns⟩).text ++ rest) ∧
          (h.formatter = .layout l → ∀ spec, (r.formatted ⟨colors, columns⟩ spec).captured h =
            (l.render r ⟨colors, columns⟩).captured h) := by
  have hsum := fillAround_sum columns l.title.length
  have hwidth : (fillAround columns l.title.length).1 + l.title.length +
      (fillAround columns l.title.length).2 = max columns l.title.length := by omega
  refine ⟨_, _, hsum, hwidth, fillAround_even _ _, l.text_plain_banner columns, ?_,
    l.text_colored_banner columns, l.bannerStyle.erase_brackets,
    fun colors => ⟨fun fill title => erase_banner columns fill title colors,
      fun r h => ⟨?_, fun inForce spec => r.captured_formatted inForce _ spec⟩⟩⟩
  · rw [text_plain_banner, length_bannerLine, hwidth]
  · rw [captured_render_turns, text_banner]
    exact ⟨_, rfl⟩

theorem banner_is_centered_odd :
    let l : Layout := { unicode with fill := '·', title := "é!", bannerStyle := Style.plain.fg .red }
    let h : Hooks := Hooks.none.apply (.formatterSet (.layout l))
    let r : Report := ⟨[⟨.value (.string "a"), .display, ⟨"m.rs", 3, 5⟩⟩]⟩
    l.fill ≠ Sgr.escape ∧ Lacks l.title Sgr.escape ∧ h.formatter = .layout l ∧
      (l.banner ⟨false, 7⟩).text = "··é!···\n" ∧
      (l.banner ⟨true, 7⟩).text = "··\x1b[31mé!\x1b[0m···\n" ∧
      Sgr.erase (l.banner ⟨true, 7⟩).text = "··é!···\n" ∧
      (∃ rest, ((r.formatted ⟨true, 7⟩ .plain).captured h).text =
        "··\x1b[31mé!\x1b[0m···\n" ++ rest) ∧
      (l.banner ⟨false, 1⟩).text = "é!\n" := by
  intro l h r
  have hfill : l.fill ≠ Sgr.escape := by decide
  have htitle : Lacks l.title Sgr.escape := by decide
  have hlength : l.title.length = 2 := by decide
  obtain ⟨left, right, hsum, -, heven, hplain, -, hcolored, -, hall⟩ := l.banner_is_centered 7
  obtain ⟨narrow, narrow', hnarrow, -, -, halone, -⟩ := l.banner_is_centered 1
  rw [hlength] at hsum hnarrow
  obtain ⟨rfl, rfl⟩ : left = 2 ∧ right = 3 := by omega
  obtain ⟨rfl, rfl⟩ : narrow = 0 ∧ narrow' = 0 := by omega
  have hplain : (l.banner ⟨false, 7⟩).text = "··é!···\n" := hplain.trans (by decide +kernel)
  have hcolored : (l.banner ⟨true, 7⟩).text = "··\x1b[31mé!\x1b[0m···\n" :=
    hcolored.trans (by decide +kernel)
  obtain ⟨herase, hrender⟩ := hall true
  obtain ⟨⟨rest, hrest⟩, hformatted⟩ := hrender r h
  refine ⟨hfill, htitle, rfl, hplain, hcolored, (herase hfill htitle).trans hplain, ⟨rest, ?_⟩,
    halone.trans (by decide +kernel)⟩
  rw [hformatted rfl, hrest, hcolored]

end Layout

end CauseChain
