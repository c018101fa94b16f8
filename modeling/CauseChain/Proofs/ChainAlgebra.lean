import CauseChain.Report.Chain

/-!
# The algebra of chains

To an iteration a report is nothing but the list of its frames: pushing conses, merging appends, and
taking leaves nothing behind. The walks are compared with these lists once; what holds of lists then
holds of every report that a program builds, with reports nested in reports as payloads.
-/

set_option autoImplicit false

namespace CauseChain

namespace Report

theorem frames_take (r : Report) : r.take.1.frames = r.frames := rfl

theorem under_assoc (r s t : Report) : (r.under s).under t = r.under (s.under t) := by
  apply ext_frames
  rw [frames_under, frames_under, frames_under, frames_under, List.append_assoc]

theorem under_empty (r : Report) : r.under empty = r := by
  apply ext_frames
  rw [frames_under, frames_empty, List.nil_append]

theorem empty_under (r : Report) : empty.under r = r := by
  apply ext_frames
  rw [frames_under, frames_empty, List.append_nil]

theorem count_under (r s : Report) : (r.under s).count = r.count + s.count := by
  rw [count, frames_under, List.length_append, Nat.add_comm]
  rfl

end Report

/-- A report as a program builds it. -/
inductive Build where
  | empty
  | single (p : Payload) (handler : Handler) (l : Location)
  | wrap (inner : Build) (handler : Handler) (l : Location)
  | push (b : Build) (p : Payload) (handler : Handler) (l : Location)
  | cover (b inner : Build) (handler : Handler) (l : Location)
  | under (cause context : Build)
  | taken (b : Build)
  | left (b : Build)

namespace Build

/-- What the operations make. -/
def report : Build → Report
  | empty => .empty
  | single p handler l => .single ⟨p, handler, l⟩
  | wrap inner handler l => .single ⟨inner.report.payload, handler, l⟩
  | push b p handler l => b.report.push ⟨p, handler, l⟩
  | cover b inner handler l => b.report.push ⟨inner.report.payload, handler, l⟩
  | under cause context => cause.report.under context.report
  | taken b => b.report.take.1
  | left b => b.report.take.2

/-- What should be read, the latest frame first. -/
def frames : Build → List Frame
  | empty => []
  | single p handler l => [⟨p, handler, l⟩]
  | wrap inner handler l => [⟨.report inner.frames, handler, l⟩]
  | push b p handler l => ⟨p, handler, l⟩ :: b.frames
  | cover b inner handler l => ⟨.report inner.frames, handler, l⟩ :: b.frames
  | under cause context => context.frames ++ cause.frames
  | taken b => b.frames
  | left _ => []

theorem frames_report (b : Build) : b.report.frames = b.frames := by
  induction b with
  | empty => rfl
  | single p handler l => rfl
  | wrap inner handler l ih => rw [report, Report.frames_single, Report.payload, ih, frames]
  | push b p handler l ih => rw [report, Report.frames_push, ih, frames]
  | cover b inner handler l ih ihInner =>
    rw [report, Report.frames_push, Report.payload, ihInner, ih, frames]
  | under cause context ihCause ihContext =>
    rw [report, Report.frames_under, ihCause, ihContext, frames]
  | taken b ih => exact ih
  | left b ih => rfl

/-- What an iteration reads from a report, however it was built, and what this says of the
operations: merging is associative with the empty report on either side as identity, a push is a
merge with a report of one frame, and the counts add up. No merge ever writes to a slot in which a
chain hangs. -/
theorem report_algebra :
    (∀ b : Build, b.report.iter.collect = b.frames ∧ b.report.count = b.frames.length) ∧
    Report.empty.iter.collect = [] ∧
    (∀ (r : Report) (p : Payload) (handler : Handler) (l : Location),
      (r.push ⟨p, handler, l⟩).iter.collect = ⟨p, handler, l⟩ :: r.iter.collect ∧
      r.push ⟨p, handler, l⟩ = r.under (.single ⟨p, handler, l⟩)) ∧
    (∀ r s : Report,
      (r.under s).iter.collect = s.iter.collect ++ r.iter.collect ∧
      (r.under s).count = r.count + s.count ∧
      (r.merge s).displaced = .empty) ∧
    (∀ (head : Frame) (below : List Frame),
      (Slot.walk [head] below).hanging = [] ∧
      (Slot.walk [head] below).above.reverse = head :: below) ∧
    (∀ r : Report, r.take.1.iter.collect = r.iter.collect ∧ r.take.2.iter.collect = []) ∧
    (∀ r s t : Report, (r.under s).under t = r.under (s.under t)) ∧
    (∀ r : Report, r.under .empty = r ∧ Report.empty.under r = r) := by
  refine ⟨fun b => ⟨?_, ?_⟩, ?_, fun r p handler l => ⟨?_, ?_⟩, fun r s => ⟨?_, ?_, ?_⟩,
    fun head below => ⟨?_, ?_⟩, fun r => ⟨?_, ?_⟩, Report.under_assoc,
    fun r => ⟨Report.under_empty r, Report.empty_under r⟩⟩
  · rw [Report.collect_iter, frames_report]
  · rw [Report.count, frames_report]
  · exact Report.collect_iter .empty
  · rw [Report.collect_iter, Report.collect_iter, Report.frames_push]
  · exact (Report.under_single r ⟨p, handler, l⟩).symm
  · rw [Report.collect_iter, Report.collect_iter, Report.collect_iter, Report.frames_under]
  · exact Report.count_under r s
  · exact Report.displaced_merge r s
  · exact Slot.hanging_walk [head] below
  · exact Slot.above_walk [head] below
  · rw [Report.collect_iter, Report.collect_iter, Report.frames_take]
  · exact Report.collect_iter .empty

end Build

end CauseChain
