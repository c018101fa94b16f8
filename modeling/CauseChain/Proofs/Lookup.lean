import CauseChain.Proofs.ChainAlgebra

/-!
# Looking frames up

The latest frame, the root and the latest frame with a payload of a given type are found by separate
walks down a chain, and all three follow the order in which the frames were put on top. When a report
is hung under another one, the frames of the other one are looked at first, and of the one that hangs
below them comes what they do not have.
-/

set_option autoImplicit false

namespace CauseChain

namespace FrameOf

theorem holds_iff (f : Frame) (type : String) : f.holds type = true ↔ f.typeName = type := beq_iff_eq

end FrameOf

namespace Report
variable (r s : Report) (type : String)

/-! ## The walks -/

theorem find?_eq_seek? : r.find? type = r.iter.seek? type :=
  (r.iter.seek?_eq_find? type).symm

theorem root?_eq_last? : r.root? = r.iter.last? none := by
  rw [Iteration.last?_eq_getLast?, Option.or_none]
  rfl

theorem current?_eq_next? : r.current? = r.iter.next?.map Prod.fst := by
  rcases r with ⟨_ | ⟨f, below⟩⟩ <;> rfl

/-! ## What is found -/

variable {type}

theorem find?_eq_some_iff {f : Frame} : r.find? type = some f ↔
    ∃ newer older, r.frames = newer ++ f :: older ∧ f.typeName = type ∧
      ∀ g ∈ newer, g.typeName ≠ type := by
  rw [find?, List.find?_eq_some_iff_append, FrameOf.holds_iff]
  constructor
  · rintro ⟨hf, newer, older, hframes, hnewer⟩
    refine ⟨newer, older, hframes, hf, fun g hg hsame => ?_⟩
    have hg := hnewer g hg
    rw [(g.holds_iff type).mpr hsame] at hg
    cases hg
  · rintro ⟨newer, older, hframes, hf, hnewer⟩
    refine ⟨hf, newer, older, hframes, fun g hg => ?_⟩
    rw [Bool.not_eq_true']
    exact Bool.eq_false_iff.mpr fun hsame => hnewer g hg ((g.holds_iff type).mp hsame)

theorem find?_eq_none_iff : r.find? type = none ↔ ∀ f ∈ r.frames, f.typeName ≠ type := by
  rw [find?, List.find?_eq_none]
  exact forall₂_congr fun f _ => not_congr (f.holds_iff type)

theorem current?As_eq_some_iff {f : Frame} :
    r.current?As type = some f ↔ r.current? = some f ∧ f.typeName = type := by
  rw [current?As, Option.filter_eq_some_iff, FrameOf.holds_iff]

theorem find?_of_current? {f : Frame} (current : r.current? = some f) (hf : f.typeName = type) :
    r.find? type = some f := by
  obtain ⟨below, hframes⟩ := List.head?_eq_some_iff.mp current
  exact r.find?_eq_some_iff.mpr ⟨[], below, hframes, hf, List.forall_mem_nil _⟩

/-! ## What the operations do to it -/

variable (type)

theorem find?_push (f : Frame) :
    (r.push f).find? type = if f.typeName = type then some f else r.find? type := by
  rw [find?, frames_push, List.find?_cons, find?]
  by_cases hf : f.typeName = type
  · rw [if_pos hf, (f.holds_iff type).mpr hf]
  · rw [if_neg hf, Bool.eq_false_iff.mpr (mt (f.holds_iff type).mp hf)]

theorem find?_under : (r.under s).find? type = (s.find? type).or (r.find? type) := by
  rw [find?, frames_under, List.find?_append]
  rfl

theorem root?_under : (r.under s).root? = if r.isEmpty then s.root? else r.root? := by
  rw [root?, frames_under, List.getLast?_append]
  rcases r with ⟨_ | ⟨f, below⟩⟩ <;> rfl

theorem current?_under : (r.under s).current? = if s.isEmpty then r.current? else s.current? := by
  rw [current?, frames_under]
  rcases s with ⟨_ | ⟨f, below⟩⟩ <;> rfl

end Report

/-- What is looked up, in reports that are built in any way. Each lookup is what its walk comes to. The
frame that is found for a type is the latest one of the chain whose payload has that very type, and
nothing is found if and only if there is none; a report in a payload counts as one payload, whatever
it holds. A new frame is found first if it has the type; a report on top of another is searched first,
gives the latest frame if it has one, and gives the root only if the other has none. The latest frame
is returned for a type if and only if it has the type, and is what is found then. -/
theorem lookups_follow_chain (type : String) :
    (∀ r : Report, r.find? type = r.iter.seek? type ∧ r.root? = r.iter.last? none ∧
      r.current? = r.iter.next?.map Prod.fst) ∧
    (∀ (b : Build) (f : Frame), b.report.find? type = some f ↔
      ∃ newer older, b.frames = newer ++ f :: older ∧ f.typeName = type ∧
        ∀ g ∈ newer, g.typeName ≠ type) ∧
    (∀ b : Build, b.report.find? type = none ↔ ∀ f ∈ b.frames, f.typeName ≠ type) ∧
    (∀ (r : Report) (p : Payload) (handler : Handler) (l : Location),
      (r.push ⟨p, handler, l⟩).find? type =
        if p.typeName = type then some ⟨p, handler, l⟩ else r.find? type) ∧
    (∀ (r inner : Report) (handler : Handler) (l : Location),
      (r.push ⟨inner.payload, handler, l⟩).find? type =
        if TypeName.report = type then some ⟨inner.payload, handler, l⟩ else r.find? type) ∧
    (∀ r s : Report,
      (r.under s).find? type = (s.find? type).or (r.find? type) ∧
      (r.under s).root? = (if r.isEmpty then s.root? else r.root?) ∧
      (r.under s).current? = if s.isEmpty then r.current? else s.current?) ∧
    (∀ (r : Report) (f : Frame),
      (r.current?As type = some f ↔ r.current? = some f ∧ f.typeName = type) ∧
      (r.current?As type = some f ↔ r.current? = some f ∧ r.find? type = some f)) := by
  refine ⟨fun r => ⟨r.find?_eq_seek? type, r.root?_eq_last?, r.current?_eq_next?⟩,
    fun b f => ?_, fun b => ?_, fun r p handler l => r.find?_push type ⟨p, handler, l⟩,
    fun r inner handler l => r.find?_push type ⟨inner.payload, handler, l⟩,
    fun r s => ⟨r.find?_under s type, r.root?_under s, r.current?_under s⟩,
    fun r f => ⟨r.current?As_eq_some_iff, ?_⟩⟩
  · rw [Report.find?_eq_some_iff, b.frames_report]
  · rw [Report.find?_eq_none_iff, b.frames_report]
  · rw [r.current?As_eq_some_iff]
    refine and_congr_right fun current => ⟨r.find?_of_current? current, fun found => ?_⟩
    obtain ⟨-, -, -, hf, -⟩ := r.find?_eq_some_iff.mp found
    exact hf

end CauseChain
