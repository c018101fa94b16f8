import CauseChain.Hooks.Rendering

/-!
# Runs in turn

Renderings form a monoid under "and then". Of a sequence of runs, each starts from the hooks that the
ones before have left, and what comes of it can be listed up to the first that fails. What a sequence
writes, with or without a text between its members, is read off this list.
-/

set_option autoImplicit false

namespace CauseChain

namespace Captured

/-- What several runs come to with a text between each and the next. -/
def joined (separator : String) (cs : List Captured) : Captured :=
  ⟨separator.intercalate (cs.map text), cs.all ok⟩

theorem text_joined_concat (separator : String) (done : List Captured) (last : Captured) :
    (joined separator (done ++ [last])).text =
      String.join (done.map fun c => c.text ++ separator) ++ last.text := by
  simp only [joined]
  induction done with
  | nil => simp
  | cons c rest ih =>
    have hmore : (rest ++ [last]).map text ≠ [] := by simp
    rw [List.cons_append, List.map_cons, String.intercalate_cons_of_ne_nil hmore, ih,
      List.map_cons, String.join_cons]
    simp only [String.append_assoc]

theorem andThen_of_not_ok {a : Captured} (failed : a.ok = false) (b : Captured) :
    a.andThen b = a := by
  simp [andThen, failed]

end Captured

namespace Rendering

/-! ## The monoid -/

theorem skip_andThen (f : Rendering) : skip.andThen f = f := by
  funext h
  exact Transcript.skip_append (f h)

theorem andThen_skip (f : Rendering) : f.andThen skip = f := by
  funext h
  by_cases ok : (f h).ok = true
  · rw [andThen_of_ok f skip h ok]
    exact Transcript.append_skip (f h)
  · rw [andThen_of_not_ok f skip h (by simpa using ok)]

theorem andThen_assoc (f g k : Rendering) : (f.andThen g).andThen k = f.andThen (g.andThen k) := by
  funext h
  by_cases okf : (f h).ok = true
  · by_cases okg : (g (f.leaves h)).ok = true
    · have ok : (f.andThen g h).ok = true := by
        rw [andThen_of_ok f g h okf, Transcript.ok_append, okf, okg]
        rfl
      calc (f.andThen g).andThen k h
          = f h ++ g (f.leaves h) ++ k (g.leaves (f.leaves h)) := by
            rw [andThen_of_ok _ k h ok, leaves_andThen_of_ok f g h okf, andThen_of_ok f g h okf]
        _ = f h ++ g.andThen k (f.leaves h) := by
            rw [andThen_of_ok g k _ okg, Transcript.append_assoc]
        _ = f.andThen (g.andThen k) h := (andThen_of_ok f _ h okf).symm
    · have failed : (g (f.leaves h)).ok = false := by simpa using okg
      have failed' : (f.andThen g h).ok = false := by
        rw [andThen_of_ok f g h okf, Transcript.ok_append, failed, Bool.and_false]
      rw [andThen_of_not_ok _ k h failed', andThen_of_ok f g h okf, andThen_of_ok f _ h okf,
        andThen_of_not_ok g k _ failed]
  · have failed : (f h).ok = false := by simpa using okf
    have failed' : (f.andThen g h).ok = false := by rw [andThen_of_not_ok f g h failed, failed]
    rw [andThen_of_not_ok _ k h failed', andThen_of_not_ok f g h failed,
      andThen_of_not_ok f _ h failed]

theorem all_singleton (f : Rendering) : all [f] = f := by
  rw [all_cons, all_nil, andThen_skip]

/-- Runs with a text between each and the next. -/
def separated (separator : String) (fs : List Rendering) : Rendering :=
  all (fs.intersperse (text separator))

theorem separated_singleton (separator : String) (f : Rendering) : separated separator [f] = f :=
  all_singleton f

theorem separated_cons (separator : String) (f : Rendering) {rest : List Rendering}
    (nonempty : rest ≠ []) :
    separated separator (f :: rest) =
      f.andThen ((text separator).andThen (separated separator rest)) := by
  obtain ⟨g, rest, rfl⟩ := List.exists_cons_of_ne_nil nonempty
  rw [separated, List.intersperse_cons_cons, all_cons, all_cons]
  rfl

theorem separated_append (separator : String) {fs gs : List Rendering} (hfs : fs ≠ [])
    (hgs : gs ≠ []) :
    separated separator (fs ++ gs) =
      (separated separator fs).andThen ((text separator).andThen (separated separator gs)) := by
  induction fs with
  | nil => exact absurd rfl hfs
  | cons f rest ih =>
    by_cases hrest : rest = []
    · subst rest
      rw [List.singleton_append, separated_cons separator f hgs, separated_singleton]
    · have hmore : rest ++ gs ≠ [] := List.append_ne_nil_of_left_ne_nil hrest gs
      rw [List.cons_append, separated_cons separator f hmore, ih hrest,
        separated_cons separator f hrest, andThen_assoc, andThen_assoc]

/-! ## What comes of each run -/

/-- What comes of each of several runs, one after the other up to the first that fails. -/
def each : List Rendering → Hooks → List Captured
  | [], _ => []
  | f :: rest, h => f.captured h :: if (f h).ok then each rest (f.leaves h) else []

variable {f : Rendering} {h : Hooks}

theorem each_cons_of_ok (ok : (f h).ok = true) (rest : List Rendering) :
    each (f :: rest) h = f.captured h :: each rest (f.leaves h) := by
  rw [each, if_pos ok]

theorem each_cons_of_not_ok (failed : (f h).ok = false) (rest : List Rendering) :
    each (f :: rest) h = [f.captured h] := by
  simp [each, failed]

theorem each_ne_nil {fs : List Rendering} (nonempty : fs ≠ []) (h : Hooks) : each fs h ≠ [] := by
  obtain ⟨f, rest, rfl⟩ := List.exists_cons_of_ne_nil nonempty
  exact List.cons_ne_nil _ _

theorem length_each_le (fs : List Rendering) (h : Hooks) : (each fs h).length ≤ fs.length := by
  induction fs generalizing h with
  | nil => exact Nat.le_refl 0
  | cons f rest ih =>
    have hrest := ih (f.leaves h)
    rw [each, List.length_cons, List.length_cons]
    split
    · omega
    · simp

theorem length_each_of_ok {fs : List Rendering} {h : Hooks} (ok : ∀ c ∈ each fs h, c.ok = true) :
    (each fs h).length = fs.length := by
  induction fs generalizing h with
  | nil => rfl
  | cons f rest ih =>
    have hf : (f h).ok = true := ok (f.captured h) List.mem_cons_self
    rw [each_cons_of_ok hf] at ok ⊢
    rw [List.length_cons, List.length_cons, ih fun c hc => ok c (List.mem_cons_of_mem _ hc)]

theorem each_eq_append {fs : List Rendering} {h : Hooks} {done later : List Captured} {c : Captured}
    (heach : each fs h = done ++ c :: later) :
    (∀ d ∈ done, d.ok = true) ∧ (c.ok = false → later = []) := by
  induction fs generalizing h done with
  | nil => simp [each] at heach
  | cons f rest ih =>
    by_cases ok : (f h).ok = true
    · rw [each_cons_of_ok ok] at heach
      cases done with
      | nil =>
        obtain ⟨rfl, -⟩ := List.cons.inj heach
        exact ⟨fun d hd => absurd hd List.not_mem_nil, fun failed => absurd ok (by simp_all [captured])⟩
      | cons d done =>
        obtain ⟨rfl, hrest⟩ := List.cons.inj heach
        obtain ⟨hdone, hlater⟩ := ih hrest
        exact ⟨List.forall_mem_cons.mpr ⟨ok, hdone⟩, hlater⟩
    · rw [each_cons_of_not_ok (by simpa using ok)] at heach
      cases done with
      | nil =>
        obtain ⟨-, hlater⟩ := List.cons.inj heach
        exact ⟨fun d hd => absurd hd List.not_mem_nil, fun _ => hlater.symm⟩
      | cons d done => simp at heach

/-- Either every run comes to its end, or the last one that there is fails. -/
theorem each_cases (fs : List Rendering) (h : Hooks) :
    (∀ c ∈ each fs h, c.ok = true) ∨ ∃ done p, each fs h = done ++ [⟨p, false⟩] := by
  by_cases hfail : ∃ c ∈ each fs h, c.ok = false
  · obtain ⟨c, hc, failed⟩ := hfail
    obtain ⟨done, later, heach⟩ := List.append_of_mem hc
    obtain rfl := (each_eq_append heach).2 failed
    refine .inr ⟨done, c.text, ?_⟩
    rw [heach, ← failed]
  · refine .inl fun c hc => ?_
    cases ok : c.ok with
    | true => rfl
    | false => exact absurd ⟨c, hc, ok⟩ hfail

theorem captured_separated (separator : String) (fs : List Rendering) (h : Hooks) :
    (separated separator fs).captured h = .joined separator (each fs h) := by
  induction fs generalizing h with
  | nil => rfl
  | cons f rest ih =>
    by_cases hrest : rest = []
    · subst rest
      rw [separated_singleton]
      cases ok : (f h).ok <;> simp [each, Captured.joined, captured, ok]
    · rw [separated_cons separator f hrest, captured_andThen]
      by_cases ok : (f h).ok = true
      · have htext : (text separator).captured (f.leaves h) = ⟨separator, true⟩ := by
          simp [captured, text]
        have hmore : (each rest (f.leaves h)).map Captured.text ≠ [] := by
          simpa using each_ne_nil hrest (f.leaves h)
        rw [captured_andThen, htext, each_cons_of_ok ok]
        change (f.captured h).andThen (Captured.andThen ⟨separator, true⟩
          ((separated separator rest).captured (f.leaves h))) = _
        rw [ih]
        simp [Captured.andThen, Captured.joined, captured, ok,
          String.intercalate_cons_of_ne_nil hmore, String.append_assoc]
      · have failed : (f h).ok = false := by simpa using ok
        rw [Captured.andThen_of_not_ok failed, each_cons_of_not_ok failed]
        simp [Captured.joined, captured, failed]

end Rendering

end CauseChain
