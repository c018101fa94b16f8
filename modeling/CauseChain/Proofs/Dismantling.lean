import CauseChain.Report.Teardown
import CauseChain.Proofs.Conservation
import Mathlib.Logic.Function.Iterate

/-!
# A chain is taken apart node by node

Taking a chain apart comes to its end, releases what it holds in the order of its frames, and frees
no node that still has a chain in its slot. So nothing is ever let go of from within the freeing of a
node but its payload, and what is still to be done is bounded by the nesting of reports in one
another: the length of a chain does not count.
-/

set_option autoImplicit false

namespace CauseChain

mutual

/-- How deep reports are nested in a payload. -/
def Payload.depth : Payload → Nat
  | .value _ => 0
  | .report chain => chainDepth chain + 1

def chainDepth : List (FrameOf Payload) → Nat
  | [] => 0
  | ⟨p, _, _⟩ :: below => max p.depth (chainDepth below)

end

@[simp] theorem Payload.depth_report (chain : List Frame) :
    (Payload.report chain).depth = chainDepth chain + 1 := rfl

@[simp] theorem chainDepth_cons (f : Frame) (below : List Frame) :
    chainDepth (f :: below) = max f.payload.depth (chainDepth below) := rfl

namespace Node

def mark (n : Node) : Released := n.frame.payload.mark

end Node

namespace Duty

/-- If a node is about to be freed, it has nothing in its slot. -/
def Bare : Duty → Prop
  | free n => n.slot = []
  | _ => True

/-- How many duties there can be at one time until this one is done. A chain of one node needs less
room than others, since there is nothing to walk along below it: this is what lets a walk drop node
after node in the room that it has. -/
def room : Duty → Nat
  | drop [] => 1
  | drop [f] => 2 * f.payload.depth + 2
  | drop (f :: g :: below) => 2 * chainDepth (f :: g :: below) + 4
  | walk [] => 1
  | walk (f :: below) => 2 * chainDepth (f :: below) + 3
  | free n => 2 * n.frame.payload.depth + 2
  | release p => 2 * p.depth + 2

/-- Each duty, done before those that follow it, keeps within a bound. -/
def Fit (bound : Nat) : List Duty → Prop
  | [] => True
  | duty :: rest => duty.room + rest.length ≤ bound ∧ Fit bound rest

theorem room_pos (duty : Duty) : 0 < duty.room := by
  unfold room
  split <;> omega

theorem room_drop_le (chain : List Frame) : (drop chain).room ≤ 2 * chainDepth chain + 4 := by
  match chain with
  | [] => simp only [room]; omega
  | [f] => simp only [room, chainDepth_cons]; omega
  | f :: g :: below => exact Nat.le_refl _

theorem room_walk_le (chain : List Frame) : (walk chain).room ≤ 2 * chainDepth chain + 3 := by
  cases chain with
  | nil => simp only [room]; omega
  | cons f below => exact Nat.le_refl _

theorem length_le_of_fit {bound : Nat} {duties : List Duty} (h : Fit bound duties) :
    duties.length ≤ bound := by
  cases duties with
  | nil => exact Nat.zero_le _
  | cons duty rest =>
    have hpos := duty.room_pos
    have hroom := h.1
    rw [List.length_cons]
    omega

theorem bare_parts (duty : Duty) : ∀ part ∈ duty.parts, part.Bare := by
  intro part hpart
  cases duty with
  | drop chain =>
    cases chain with
    | nil => simp at hpart
    | cons f below =>
      rw [parts_drop_cons, List.mem_pair] at hpart
      rcases hpart with rfl | rfl
      · trivial
      · rfl
  | walk chain =>
    cases chain with
    | nil => simp at hpart
    | cons f below =>
      rw [parts_walk_cons, List.mem_pair] at hpart
      rcases hpart with rfl | rfl <;> trivial
  | free n =>
    rw [parts, List.mem_pair] at hpart
    rcases hpart with rfl | rfl <;> trivial
  | release p =>
    cases p with
    | value v => simp at hpart
    | report chain =>
      rw [parts_release_report, List.mem_singleton] at hpart
      subst hpart
      trivial

theorem fit_pair {bound : Nat} {first second : Duty} {rest : List Duty}
    (hfirst : first.room + (rest.length + 1) ≤ bound) (hsecond : second.room + rest.length ≤ bound)
    (hrest : Fit bound rest) : Fit bound ([first, second] ++ rest) :=
  ⟨hfirst, hsecond, hrest⟩

/-- The parts of a duty keep within the room that it has. -/
theorem fit_parts {bound : Nat} {duty : Duty} {rest : List Duty} (hbare : duty.Bare)
    (h : Fit bound (duty :: rest)) : Fit bound (duty.parts ++ rest) := by
  obtain ⟨hroom, hrest⟩ := h
  cases duty with
  | drop chain =>
    match chain with
    | [] => exact hrest
    | [f] =>
      simp only [room] at hroom
      refine fit_pair ?_ ?_ hrest
      · simp only [room]; omega
      · simp only [room]; omega
    | f :: g :: below =>
      simp only [room, chainDepth_cons] at hroom
      refine fit_pair ?_ ?_ hrest
      · simp only [room, chainDepth_cons]; omega
      · simp only [room]; omega
  | walk chain =>
    cases chain with
    | nil => exact hrest
    | cons f below =>
      have hwalk := room_walk_le below
      simp only [room, chainDepth_cons] at hroom
      rw [parts_walk_cons]
      refine fit_pair ?_ ?_ hrest
      · simp only [room]; omega
      · omega
  | free n =>
    have hslot : n.slot = [] := hbare
    simp only [room] at hroom
    rw [parts, hslot]
    refine fit_pair ?_ ?_ hrest
    · simp only [room]; omega
    · exact hroom
  | release p =>
    cases p with
    | value v => exact hrest
    | report chain =>
      have hdrop := room_drop_le chain
      simp only [room, Payload.depth_report] at hroom
      rw [parts_release_report, List.singleton_append]
      exact ⟨by omega, hrest⟩

end Duty

namespace Teardown

/-! ## What every step preserves -/

/-- No node is freed, or about to be, with a chain in its slot, and what is still to be done keeps
within a bound. -/
structure Flat (bound : Nat) (t : Teardown) : Prop where
  bare : ∀ duty ∈ t.duties, duty.Bare
  freed : ∀ n ∈ t.freed, n.slot = []
  fit : Duty.Fit bound t.duties

theorem flat_ofChain (chain : List Frame) : Flat (2 * chainDepth chain + 4) (ofChain chain) where
  bare := by
    intro duty hduty
    rw [List.mem_singleton.mp hduty]
    trivial
  freed := by
    intro n hn
    cases hn
  fit := ⟨Duty.room_drop_le chain, trivial⟩

theorem Flat.step {bound : Nat} {t : Teardown} (h : Flat bound t) : Flat bound t.step := by
  rcases t with ⟨_ | ⟨duty, rest⟩, freed, released⟩
  · exact h
  · have hduty := h.bare duty List.mem_cons_self
    refine ⟨?_, ?_, Duty.fit_parts hduty h.fit⟩
    · intro d hd
      rcases List.mem_append.mp hd with hpart | hrest
      · exact duty.bare_parts d hpart
      · exact h.bare d (List.mem_cons_of_mem duty hrest)
    · intro n hn
      rcases List.mem_append.mp hn with hbefore | hnow
      · exact h.freed n hbefore
      · cases duty with
        | free m =>
          rw [List.mem_singleton.mp hnow]
          exact hduty
        | drop _ => cases hnow
        | walk _ => cases hnow
        | release _ => cases hnow

theorem flat_iterate (chain : List Frame) (k : Nat) :
    Flat (2 * chainDepth chain + 4) (Teardown.step^[k] (ofChain chain)) :=
  Function.Iterate.rec _ (flat_ofChain chain) (fun _ h => h.step) k

/-! ## Duties come to their end -/

/-- Whatever is still to be done after them, the duties come to their end, and until then free these
nodes and release this. -/
def Ends (duties : List Duty) (nodes : List Node) (out : List Released) : Prop :=
  ∀ t : Teardown, ∃ k, Teardown.step^[k] { t with duties := duties ++ t.duties } =
    { t with freed := t.freed ++ nodes, released := t.released ++ out }

theorem Ends.nil : Ends [] [] [] := by
  intro t
  refine ⟨0, ?_⟩
  simp

theorem Ends.append {first second : List Duty} {nodes nodes' : List Node}
    {out out' : List Released} (h : Ends first nodes out) (h' : Ends second nodes' out') :
    Ends (first ++ second) (nodes ++ nodes') (out ++ out') := by
  intro t
  obtain ⟨k, hk⟩ := h { t with duties := second ++ t.duties }
  obtain ⟨k', hk'⟩ := h' { t with freed := t.freed ++ nodes, released := t.released ++ out }
  refine ⟨k' + k, ?_⟩
  rw [Function.iterate_add_apply, List.append_assoc, hk, hk', List.append_assoc, List.append_assoc]

theorem Ends.of_parts {duty : Duty} {nodes : List Node} {out : List Released}
    (h : Ends duty.parts nodes out) : Ends [duty] (duty.frees ++ nodes) (duty.releases ++ out) := by
  intro t
  obtain ⟨k, hk⟩ :=
    h { t with freed := t.freed ++ duty.frees, released := t.released ++ duty.releases }
  refine ⟨k + 1, ?_⟩
  rw [Function.iterate_succ_apply]
  exact hk.trans (by rw [List.append_assoc, List.append_assoc])

/-- The duties come to their end and release just what the nodes that they free carried. -/
def Frees (duties : List Duty) (out : List Released) : Prop :=
  ∃ nodes, nodes.map Node.mark = out ∧ Ends duties nodes out

theorem Frees.append {first second : List Duty} {out out' : List Released} (h : Frees first out)
    (h' : Frees second out') : Frees (first ++ second) (out ++ out') := by
  obtain ⟨nodes, hnodes, hends⟩ := h
  obtain ⟨nodes', hnodes', hends'⟩ := h'
  refine ⟨nodes ++ nodes', ?_, hends.append hends'⟩
  rw [List.map_append, hnodes, hnodes']

theorem frees_drop_nil : Frees [.drop []] [] := ⟨[], rfl, .of_parts .nil⟩

theorem frees_drop_cons {head : Frame} {below : List Frame} {first last : List Released}
    (hwalk : Frees [.walk below] first) (hfree : Frees [.free ⟨head, []⟩] last) :
    Frees [.drop (head :: below)] (first ++ last) := by
  obtain ⟨nodes, hnodes, hends⟩ := hwalk.append hfree
  exact ⟨nodes, hnodes, .of_parts hends⟩

theorem frees_walk_nil : Frees [.walk []] [] := ⟨[], rfl, .of_parts .nil⟩

theorem frees_walk_cons {f : Frame} {below : List Frame} {first last : List Released}
    (hdrop : Frees [.drop [f]] first) (hwalk : Frees [.walk below] last) :
    Frees [.walk (f :: below)] (first ++ last) := by
  obtain ⟨nodes, hnodes, hends⟩ := hdrop.append hwalk
  exact ⟨nodes, hnodes, .of_parts hends⟩

/-! ## The order of releasing -/

/-- A payload is released first, and then what the nodes within it carried. -/
def Releases (p : Payload) : Prop :=
  ∃ nodes, p.mark :: nodes.map Node.mark = p.release ∧ Ends [.release p] nodes p.release

theorem Releases.frees {f : Frame} (h : Releases f.payload) :
    Frees [.free ⟨f, []⟩] f.payload.release := by
  obtain ⟨nodes, hnodes, hends⟩ := h
  -- the slot was emptied, so the payload is all that there is to let go of
  have hparts : Ends [.drop [], .release f.payload] nodes f.payload.release :=
    (Ends.of_parts .nil : Ends [.drop []] [] []).append hends
  exact ⟨⟨f, []⟩ :: nodes, hnodes, .of_parts hparts⟩

theorem frees_drop_single {f : Frame} (h : Releases f.payload) :
    Frees [.drop [f]] f.payload.release :=
  frees_drop_cons frees_walk_nil h.frees

theorem frees_walk {chain : List Frame} (h : ∀ f ∈ chain, Releases f.payload) :
    Frees [.walk chain] (chain.flatMap fun f => f.payload.release) := by
  induction chain with
  | nil => exact frees_walk_nil
  | cons f below ih =>
    rw [List.flatMap_cons]
    have hf := h f List.mem_cons_self
    exact frees_walk_cons (frees_drop_single hf) (ih fun g hg => h g (List.mem_cons_of_mem f hg))

theorem frees_drop {chain : List Frame} (h : ∀ f ∈ chain, Releases f.payload) :
    Frees [.drop chain] (Report.mk chain).release := by
  cases chain with
  | nil => exact frees_drop_nil
  | cons head below =>
    rw [Report.release_cons]
    have hwalk := frees_walk fun f hf => h f (List.mem_cons_of_mem head hf)
    exact frees_drop_cons hwalk (h head List.mem_cons_self).frees

/-- By induction on how reports are nested: the rule holds of a report as soon as it holds of the
payloads of its frames. -/
theorem releases (p : Payload) : Releases p := by
  induction p using Payload.induct with
  | value v => exact ⟨[], rfl, .of_parts .nil⟩
  | report chain ih =>
    -- the chain is let go of at once, so all that its nodes carried comes behind the report
    obtain ⟨nodes, hnodes, hends⟩ := frees_drop ih
    refine ⟨nodes, ?_, ?_⟩
    · rw [hnodes, Payload.release_report]
      rfl
    · rw [Payload.release_report]
      exact .of_parts hends

theorem finishes (chain : List Frame) :
    ∃ k, let t := Teardown.step^[k] (ofChain chain)
      t.duties = [] ∧ t.released = (Report.mk chain).release ∧ t.freed.map Node.mark = t.released := by
  obtain ⟨nodes, hnodes, hends⟩ := frees_drop fun f (_ : f ∈ chain) => releases f.payload
  obtain ⟨k, hk⟩ := hends { duties := [] }
  refine ⟨k, ?_⟩
  have hk' : Teardown.step^[k] (ofChain chain) =
      { duties := [], freed := nodes, released := (Report.mk chain).release } := hk
  rw [hk']
  exact ⟨rfl, rfl, hnodes⟩

/-- The owner of a chain lets go of it. This comes to its end, and until then the payloads below the
head are released from the top down, and that of the head last: just those that the chain holds at
any depth, one for each node that is freed. A payload that is a report is released, at its turn, with
its own chain, by the same rule. At no step is a node freed, or about to be, with a chain in its
slot, and what is still to be done is bounded by the depth of the nesting alone. -/
theorem taken_apart_in_order (head : Frame) (below : List Frame) :
    let start := Teardown.ofChain (head :: below)
    (∃ k, let t := Teardown.step^[k] start
      t.duties = [] ∧
      t.released = (Report.mk (head :: below)).release ∧
      t.released = (below.flatMap fun f => f.payload.release) ++ head.payload.release ∧
      (t.released : Multiset Released) = chainHoldings (head :: below) ∧
      t.freed.map Node.mark = t.released) ∧
    (∀ v : Value, (Payload.value v).release = [.value v]) ∧
    (∀ chain : List Frame, (Payload.report chain).release = .report :: (Report.mk chain).release) ∧
    Report.empty.release = [] ∧
    ∀ k, let t := Teardown.step^[k] start
      (∀ n, .free n ∈ t.duties ∨ n ∈ t.freed → n.slot = []) ∧
      t.duties.length ≤ 2 * chainDepth (head :: below) + 4 := by
  intro start
  refine ⟨?_, Payload.release_value, Payload.release_report, rfl, fun k => ⟨fun n hn => ?_, ?_⟩⟩
  · obtain ⟨k, hduties, hreleased, hfreed⟩ := finishes (head :: below)
    refine ⟨k, hduties, hreleased, ?_, ?_, hfreed⟩
    · rw [hreleased, Report.release_cons]
    · rw [hreleased]
      exact Report.coe_release ⟨head :: below⟩
  · have hflat := flat_iterate (head :: below) k
    rcases hn with hpending | hfreed
    · exact hflat.bare (.free n) hpending
    · exact hflat.freed n hfreed
  · exact Duty.length_le_of_fit (flat_iterate (head :: below) k).fit

end Teardown

end CauseChain
