import CauseChain.Proofs.Failure

/-!
# Printing breaks off only at a display that fails

Printing has no result, and what a device fails with is nobody's concern. There is one way in which
it does not return: a display fails while the device has taken all that was written before. So a
report whose displays succeed can be printed on any device, and a device that has failed keeps the
printing of any report from being broken off.
-/

set_option autoImplicit false

namespace CauseChain

/-! ## A device has failed if and only if something was not taken -/

theorem Device.writeAll_error_eq_none_iff {σ : Type} (d : Device σ) (bytes : List UInt8) (s : σ) :
    (d.writeAll bytes s).error = none ↔ (d.writeAll bytes s).accepted = bytes := by
  constructor
  · exact d.writeAll_accepted bytes s
  · intro all
    fun_induction Device.writeAll d bytes s with
    | case1 s => rfl
    | case2 bytes s hne next hwrite => exact absurd all.symm hne
    | case3 bytes s hne n next hwrite rest ih =>
      refine ih ((List.append_right_inj (bytes.take (n + 1))).mp ?_)
      rw [List.take_append_drop]
      exact all
    | case4 bytes s hne next hwrite ih => exact ih all
    | case5 bytes s hne e next hwrite => exact absurd all.symm hne

namespace Delivery
variable {σ : Type} (d : Device σ)

theorem foldl_step_error {x : Delivery σ} (going : x.error = none) (es : List (Entry HookEvent))
    (all : (es.foldl (step d) x).accepted.toList =
      x.accepted.toList ++ bytesOf (String.join (es.map Entry.written))) :
    (es.foldl (step d) x).error = none := by
  induction es generalizing x with
  | nil => exact going
  | cons entry rest ih =>
    obtain ⟨state, accepted, hooks, error⟩ := x
    obtain rfl : error = none := going
    rw [List.foldl_cons, List.map_cons, String.join_cons, bytesOf_append] at all
    rw [List.foldl_cons]
    cases entry with
    | mark m => exact ih rfl all
    | text s =>
      have hpart := d.writeAll_accepted_prefix (bytesOf s) state
      have hiff := d.writeAll_error_eq_none_iff (bytesOf s) state
      simp only [step, Entry.written] at all ⊢
      generalize d.writeAll (bytesOf s) state = handed at hpart hiff all ⊢
      cases herror : handed.error with
      | none =>
        rw [herror] at all
        refine ih (x := ⟨handed.state, accepted ++ handed.accepted, hooks, none⟩) rfl ?_
        rw [all]
        simp [hiff.mp herror]
      -- what was taken of this text is all of it, so nothing can have failed
      | some e =>
        rw [herror, foldl_step_of_error d rfl] at all
        have htaken : handed.accepted = bytesOf s ++ bytesOf (String.join (rest.map Entry.written)) :=
          (List.append_right_inj accepted.toList).mp (by simpa using all)
        have hlength := hpart.length_le
        rw [htaken, List.length_append] at hlength
        have hrest : bytesOf (String.join (rest.map Entry.written)) = [] :=
          List.eq_nil_of_length_eq_zero (by omega)
        rw [hrest, List.append_nil] at htaken
        rw [hiff.mpr htaken] at herror
        cases herror

theorem run_error_eq_none_iff (s : σ) (h : Hooks) (t : Transcript HookEvent) :
    (run d s h t).error = none ↔ (run d s h t).accepted.toList = bytesOf t.text := by
  constructor
  · exact (run_accepted d s h t).2
  · intro all
    rw [run, ← Array.foldl_toList] at all ⊢
    refine foldl_step_error d rfl t.entries.toList ?_
    rw [← Transcript.text_eq_join]
    exact all

end Delivery

namespace Transcript
variable {σ : Type} (t : Transcript HookEvent) (d : Device σ) (s : σ) (h : Hooks)

theorem accepted_deliver : (t.deliver d s h).accepted = (Delivery.run d s h t).accepted := by
  cases going : (Delivery.run d s h t).error with
  | some e => rw [deliver_of_error t d s h going]
  | none =>
    cases ok : t.ok with
    | true => rw [deliver_of_ok t d s h going ok]
    | false => rw [deliver_of_not_ok t d s h going ok]

theorem ending_eq_broken_iff :
    (t.deliver d s h).ending = .broken ↔
      t.ok = false ∧ (t.deliver d s h).accepted.toList = bytesOf t.text := by
  constructor
  · exact t.accepted_of_broken d s h
  · rintro ⟨failed, all⟩
    rw [accepted_deliver] at all
    have going := (Delivery.run_error_eq_none_iff d s h t).mpr all
    rw [deliver_of_not_ok t d s h going failed]

end Transcript

/-! ## Printing -/

/-- What shows things in turn fails if and only if the last turn that there is fails. -/
theorem Captured.CutOff.fails_each {c : Captured} {fs : List Rendering} {h : Hooks}
    {upTo : List Captured → String → String} (hc : c.CutOff (Rendering.each fs h) upTo) :
    c.ok = false ↔
      ∃ done p, Rendering.each fs h = done ++ [⟨p, false⟩] ∧ c.text = upTo done p := by
  constructor
  · intro failed
    obtain ⟨turn, hturn, failing⟩ := hc.fails.mp failed
    rcases Rendering.each_cases fs h with hok | ⟨done, p, hturns⟩
    · rw [hok turn hturn] at failing
      cases failing
    · exact ⟨done, p, hturns, hc.text done p hturns⟩
  · rintro ⟨done, p, hturns, -⟩
    refine hc.fails.mpr ⟨⟨p, false⟩, ?_, rfl⟩
    rw [hturns]
    exact List.mem_concat_self

namespace Report
variable {σ : Type} (r : Report) (o : Options) (d : Device σ) (s : σ) (h : Hooks)

theorem broken_print_iff :
    (r.print o d s h).broken = true ↔ (r.deliver o d s h).ending = .broken := by
  simp only [print]
  cases (r.deliver o d s h).ending <;> simp

variable {d} in
theorem accepted_deliver_of_never (never : ∀ bytes s, (d.writeAll bytes s).error = none) :
    (r.deliver o d s h).accepted.toList = bytesOf (r.render o h).text := by
  rw [deliver, Transcript.accepted_deliver]
  exact (Delivery.run_accepted d s h (r.render o h)).2 (Delivery.run_error never s h _)

variable {d} in
theorem broken_print_of_never (never : ∀ bytes s, (d.writeAll bytes s).error = none)
    (failed : (r.render o h).ok = false) : (r.print o d s h).broken = true := by
  have all := r.accepted_deliver_of_never o s h never
  rw [broken_print_iff]
  exact ((r.render o h).ending_eq_broken_iff d s h).mpr ⟨failed, all⟩

variable {h} in
theorem text_render_of_each {l : Layout} (inForce : h.formatter = .layout l)
    {done : List Captured} {p : String}
    (hturns : Rendering.each (r.frames.reverse.map fun f => f.display .plain) h =
      done ++ [⟨p, false⟩]) :
    (r.render o h).text = l.upTo o r.frames.reverse done p :=
  (r.cutOff_formatted inForce o .plain).text done p hturns

/-- Printing returns, whatever becomes of the device, unless the report cannot be formatted and the
device has taken all that was written until then. In a layout this is a frame that fails in its turn
while no write has failed before. -/
theorem print_breaks_off_iff :
    ((r.print o d s h).broken = true ↔ (r.render o h).ok = false ∧
      (r.deliver o d s h).accepted.toList = bytesOf (r.render o h).text) ∧
    ∀ l : Layout, h.formatter = .layout l →
      ((r.print o d s h).broken = true ↔ ∃ done p,
        Rendering.each (r.frames.reverse.map fun f => f.display .plain) h = done ++ [⟨p, false⟩] ∧
          (r.deliver o d s h).accepted.toList = bytesOf (l.upTo o r.frames.reverse done p)) := by
  have hiff := (r.broken_print_iff o d s h).trans ((r.render o h).ending_eq_broken_iff d s h)
  refine ⟨hiff, fun l inForce => hiff.trans ?_⟩
  have hcut : ((r.render o).captured h).CutOff _ _ := r.cutOff_formatted inForce o .plain
  have hfails : (r.render o h).ok = false ↔ _ := hcut.fails_each
  constructor
  · rintro ⟨failed, all⟩
    obtain ⟨done, p, hturns, htext⟩ := hfails.mp failed
    exact ⟨done, p, hturns, all.trans (congrArg bytesOf htext)⟩
  · rintro ⟨done, p, hturns, all⟩
    have htext := r.text_render_of_each o inForce hturns
    exact ⟨hfails.mpr ⟨done, p, hturns, htext⟩, all.trans (congrArg bytesOf htext).symm⟩

/-- A display that fails on a file with room, and one that succeeds on a full file. -/
theorem print_breaks_off_iff_half :
    let site : Location := ⟨"main.rs", 3, 5⟩
    let failing : Frame :=
      ⟨.value (.foreign (.steady .shown "T" "" (.ofText "half" ++ .failure) (.atom ""))), .display,
        site⟩
    let showing : Frame := ⟨.value (.string "whole"), .display, site⟩
    Hooks.none.formatter = .layout .standard ∧
      ((Report.single failing).print .plain (fileDevice false).device (fileDevice false).start
        .none).broken = true ∧
      ((Report.single showing).print .plain (fileDevice true).device (fileDevice true).start
        .none).broken = false := by
  intro site failing showing
  have inForce : Hooks.none.formatter = .layout .standard := rfl
  have hturns : Rendering.each ((Report.single failing).frames.reverse.map fun f =>
      f.display .plain) .none = [] ++ [⟨"half", false⟩] := by
    decide +kernel
  have ok : ((Report.single showing).render .plain .none).ok = true := by decide +kernel
  clear_value failing showing
  obtain ⟨-, hfailing⟩ := (Report.single failing).print_breaks_off_iff .plain
    (fileDevice false).device (fileDevice false).start .none
  obtain ⟨hshowing, -⟩ := (Report.single showing).print_breaks_off_iff .plain
    (fileDevice true).device (fileDevice true).start .none
  have htext := (Report.single failing).text_render_of_each .plain inForce hturns
  refine ⟨inForce, (hfailing .standard inForce).mpr ⟨[], "half", hturns, ?_⟩, ?_⟩
  · rw [accepted_deliver_of_never _ _ _ _ (Bounded.error_writeAll rfl)]
    exact congrArg bytesOf htext
  · rw [Bool.eq_false_iff]
    intro broken
    rw [(hshowing.mp broken).1] at ok
    cases ok

/-- Not every printing returns: a display may fail before the device does. -/
theorem not_print_returns :
    ¬ ∀ (r : Report) (o : Options) (b : Bounded) (h : Hooks),
      (r.print o b.device b.start h).broken = false := by
  intro returns
  have failed : ((Report.single ⟨.value (.foreign (.steady .shown "T" ""
      (.ofText "half" ++ .failure) (.atom ""))), .display, ⟨"main.rs", 3, 5⟩⟩).render
      .plain .none).ok = false := by
    decide +kernel
  generalize Report.single _ = r at failed
  have never := Bounded.error_writeAll (b := fileDevice false) rfl
  have broken := r.broken_print_of_never .plain (fileDevice false).start .none never failed
  rw [returns] at broken
  cases broken

end Report

end CauseChain
