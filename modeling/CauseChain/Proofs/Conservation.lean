import CauseChain.Shelf
import Mathlib.Algebra.Order.Group.Multiset
import Mathlib.Data.Multiset.Filter
import Mathlib.Tactic.Abel

/-!
# Payloads are neither lost nor doubled

Along every run over a shelf, what was handed over is, payload by payload, what the live reports
hold at any depth, what was given back, and what was released. One balance per operation carries
this; a run adds them up. Releasing is no exception: a chain releases exactly what it holds.
-/

set_option autoImplicit false

namespace CauseChain

mutual

/-- A payload itself and, if it is a report, all that its frames hold. -/
def Payload.holdings : Payload → Multiset Released
  | .value v => {.value v}
  | .report chain => .report ::ₘ chainHoldings chain

def chainHoldings : List (FrameOf Payload) → Multiset Released
  | [] => 0
  | ⟨p, _, _⟩ :: below => p.holdings + chainHoldings below

end

def Report.holdings (r : Report) : Multiset Released := chainHoldings r.frames

def Shelf.holdings (s : Shelf) : Multiset Released := (s.slots.map Report.holdings).sum

def Start.holdings : Start → Multiset Released
  | .value v => {.value v}
  | .error e => {.value e}
  | .report r => r.holdings
  | .nothing type => {.value (.missing ⟨type⟩)}

def Outcome.holdings : Outcome → Multiset Released
  | .ok v => {.value v}
  | .error r => r.holdings

def Released.value? : Released → Option Value
  | .value v => some v
  | .report => none

/-! ## What a report holds -/

@[simp] theorem Report.holdings_empty : Report.empty.holdings = 0 := rfl

theorem chainHoldings_cons (f : Frame) (below : List Frame) :
    chainHoldings (f :: below) = f.payload.holdings + chainHoldings below := rfl

theorem Report.holdings_cons (f : Frame) (below : List Frame) :
    (Report.mk (f :: below)).holdings = f.payload.holdings + (Report.mk below).holdings := rfl

@[simp] theorem Report.holdings_single (f : Frame) :
    (Report.single f).holdings = f.payload.holdings := by
  change f.payload.holdings + 0 = f.payload.holdings
  exact add_zero _

@[simp] theorem Report.holdings_push (r : Report) (f : Frame) :
    (r.push f).holdings = f.payload.holdings + r.holdings := rfl

theorem chainHoldings_append (fs gs : List Frame) :
    chainHoldings (fs ++ gs) = chainHoldings fs + chainHoldings gs := by
  induction fs with
  | nil => exact (zero_add _).symm
  | cons f below ih => rw [List.cons_append, chainHoldings_cons, ih, chainHoldings_cons, add_assoc]

theorem Report.holdings_merge (cause context : Report) :
    (cause.merge context).report.holdings + (cause.merge context).displaced.holdings =
      cause.holdings + context.holdings := by
  have hframes := Report.frames_under cause context
  change (cause.merge context).report.frames = _ at hframes
  rw [displaced_merge, holdings_empty, add_zero, holdings, hframes, chainHoldings_append, add_comm]
  rfl

mutual

theorem Payload.coe_release : ∀ p : Payload, (p.release : Multiset Released) = p.holdings
  | .value v => rfl
  | .report chain => by
    rw [Payload.release_report, Payload.holdings, ← Multiset.cons_coe, chain_coe_release chain]

theorem chain_coe_release : ∀ chain : List (FrameOf Payload),
    ((Report.mk chain).release : Multiset Released) = chainHoldings chain
  | [] => rfl
  | ⟨p, h, l⟩ :: below => by
    rw [Report.release_cons, ← Multiset.coe_add, down_coe_release below, Payload.coe_release p,
      add_comm]
    rfl

theorem down_coe_release : ∀ chain : List (FrameOf Payload),
    ((chain.flatMap fun f => f.payload.release : List Released) : Multiset Released) =
      chainHoldings chain
  | [] => rfl
  | ⟨p, h, l⟩ :: below => by
    rw [List.flatMap_cons, ← Multiset.coe_add, down_coe_release below, Payload.coe_release p]
    rfl

end

/-- Dropping a report releases each payload that it holds once. -/
theorem Report.coe_release (r : Report) : (r.release : Multiset Released) = r.holdings :=
  chain_coe_release r.frames

/-! ## Slots -/

namespace Shelf

theorem sum_holdings_replicate_empty (n : Nat) :
    ((List.replicate n Report.empty).map Report.holdings).sum = 0 := by
  induction n with
  | zero => rfl
  | succ n ih => rw [List.replicate_succ, List.map_cons, List.sum_cons, ih]; rfl

theorem holdings_set (s : Shelf) (n : Nat) (r : Report) :
    (s.set n r).holdings + (s.get n).holdings = s.holdings + r.holdings := by
  rcases s with ⟨slots⟩
  by_cases hn : n < slots.length
  · have hget : (Shelf.mk slots).get n = slots[n] := by simp [get, hn]
    have hset : ((Shelf.mk slots).set n r).holdings =
        ((slots.take n).map Report.holdings).sum +
          (r.holdings + ((slots.drop (n + 1)).map Report.holdings).sum) := by
      simp only [set, hn, if_true, holdings]
      rw [List.set_eq_take_append_cons_drop, if_pos hn]
      simp only [List.map_append, List.map_cons, List.sum_append, List.sum_cons]
    have hslots : (Shelf.mk slots).holdings =
        ((slots.take n).map Report.holdings).sum +
          (slots[n].holdings + ((slots.drop (n + 1)).map Report.holdings).sum) := by
      rw [holdings, ← List.sum_cons, ← List.map_cons, ← List.drop_eq_getElem_cons hn,
        ← List.sum_append, ← List.map_append, List.take_append_drop]
    rw [hset, hslots, hget]
    abel
  · have hget : (Shelf.mk slots).get n = .empty := by
      simp [get, List.getElem?_eq_none (Nat.le_of_not_lt hn)]
    rw [hget, Report.holdings_empty, add_zero]
    simp only [set, hn, if_false, holdings, List.map_append, List.sum_append, List.map_cons,
      List.map_nil, List.sum_cons, List.sum_nil, sum_holdings_replicate_empty, add_zero]

theorem coe_close (s : Shelf) : (s.close : Multiset Released) = s.holdings := by
  rcases s with ⟨slots⟩
  change ((slots.flatMap Report.release : List Released) : Multiset Released) =
    (slots.map Report.holdings).sum
  induction slots with
  | nil => rfl
  | cons r rest ih =>
    rw [List.flatMap_cons, ← Multiset.coe_add, ih, Report.coe_release, List.map_cons, List.sum_cons]

theorem pull_balance (s : Shelf) (n : Nat) :
    (s.pull n).1.holdings + (s.pull n).2.holdings = s.holdings := by
  have h := holdings_set s n .empty
  rw [Report.holdings_empty, add_zero] at h
  rw [← h, add_comm]
  rfl

end Shelf

/-! ## What is handed over -/

def Origin.handed : Origin → Multiset Released
  | .value v => {.value v}
  | .slot _ => {.report}

def Ended.handed : Ended → Multiset Released
  | .value v => {.value v}
  | .error e => {.value e}
  | .slot _ => 0
  | .nothing type => {.value (.missing ⟨type⟩)}

def additionHanded (a : Option (Addition Origin)) : Multiset Released :=
  (a.map fun a => a.context.handed).getD 0

/-- The payloads that a move brings in. A report that is taken out of a slot brings its frames from
there, but as a payload it is new. -/
def Move.handed : Move → Multiset Released
  | .create _ origin _ _ => origin.handed
  | .push _ origin _ _ => origin.handed
  | .place _ r => r.holdings
  | .layer _ ended addition _ => ended.handed + additionHanded addition
  | .link _ origin _ _ _ => origin.handed
  | .merge _ _ => 0
  | .take _ _ => 0
  | .detach _ _ => 0
  | .relink _ _ => 0
  | .splice _ _ => 0

def contextHoldings (p : Option Payload) : Multiset Released := (p.map Payload.holdings).getD 0

namespace Shelf

theorem supply_balance (s : Shelf) (origin : Origin) :
    (s.supply origin).1.holdings + (s.supply origin).2.holdings = s.holdings + origin.handed := by
  cases origin with
  | value v => exact add_comm _ _
  | slot n =>
    have h := pull_balance s n
    change (.report ::ₘ (s.pull n).1.holdings) + (s.pull n).2.holdings = s.holdings + {.report}
    rw [Multiset.cons_add, h, ← Multiset.singleton_add, add_comm]

theorem supplyAddition_balance (s : Shelf) (a : Option (Addition Origin)) :
    contextHoldings ((s.supplyAddition a).1.map Addition.context) +
      (s.supplyAddition a).2.holdings = s.holdings + additionHanded a := by
  cases a with
  | none => exact add_comm _ _
  | some a => exact supply_balance s a.context

theorem start_balance (s : Shelf) (ended : Ended) :
    (s.start ended).1.holdings + (s.start ended).2.holdings = s.holdings + ended.handed := by
  cases ended with
  | slot n =>
    have h := pull_balance s n
    rwa [← add_zero s.holdings] at h
  | _ => exact add_comm _ _

theorem tail_balance (s : Shelf) (tail : Option Nat) :
    chainHoldings (s.tail tail).1 + (s.tail tail).2.holdings = s.holdings := by
  cases tail with
  | none => exact zero_add _
  | some n => exact pull_balance s n

end Shelf

theorem Start.holdings_outcome (start : Start) (l : Location) :
    (start.outcome l).holdings = start.holdings := by
  cases start with
  | value v => rfl
  | error e => exact Report.holdings_single _
  | report r => rfl
  | nothing type => exact Report.holdings_single _

theorem Layer.apply_balance (layer : Layer) (start : Start) :
    (layer.apply start).outcome.holdings + contextHoldings (layer.apply start).unused =
      start.holdings + contextHoldings (layer.addition.map Addition.context) := by
  rw [← Start.holdings_outcome start layer.location]
  unfold Layer.apply
  cases start.outcome layer.location with
  | ok v => rfl
  | error r =>
    cases layer.addition with
    | none => rfl
    | some a =>
      change a.context.holdings + r.holdings + 0 = r.holdings + a.context.holdings
      rw [add_zero, add_comm]

/-! ## One move -/

def Moved.back (m : Moved) : Multiset Released :=
  ((m.returned.map Released.value).toList : Multiset Released)

/-- What is on the shelf after a move, given back by it, or released. -/
def Moved.holdings (m : Moved) : Multiset Released :=
  m.shelf.holdings + m.back + (m.released : Multiset Released)

theorem contextRelease_eq (p : Option Payload) :
    (((p.map Payload.release).getD [] : List Released) : Multiset Released) =
      contextHoldings p := by
  cases p with
  | none => rfl
  | some p => exact Payload.coe_release p

theorem Moved.holdings_release (m : Moved) (before : List Released) (called : Bool) :
    ({ m with released := before ++ m.released, called := called } : Moved).holdings =
      (before : Multiset Released) + m.holdings := by
  simp only [holdings, back, ← Multiset.coe_add]
  abel

theorem Moved.holdings_shelf (s : Shelf) (released : List Released) (found : Bool) :
    ({ shelf := s, released := released, found := found } : Moved).holdings =
      s.holdings + (released : Multiset Released) := by
  change s.holdings + 0 + (released : Multiset Released) = _
  rw [add_zero]

namespace Shelf

theorem holdings_put (s : Shelf) (n : Nat) (r : Report) :
    (s.put n r).holdings = s.holdings + r.holdings := by
  have h := holdings_set s n r
  rw [← Report.coe_release (s.get n)] at h
  rw [put, Moved.holdings_shelf, h]

theorem holdings_settle (s : Shelf) (slot : Nat) (layered : Layered) :
    (s.settle slot layered).holdings =
      s.holdings + (layered.outcome.holdings + contextHoldings layered.unused) := by
  rcases layered with ⟨outcome, called, unused⟩
  cases outcome with
  | ok v =>
    change s.holdings + {.value v} + (((unused.map Payload.release).getD [] : List Released) :
      Multiset Released) = s.holdings + ({.value v} + contextHoldings unused)
    rw [contextRelease_eq, add_assoc]
  | error r =>
    rw [settle, Moved.holdings_release, contextRelease_eq, holdings_put, add_comm, add_assoc]
    rfl

/-- Exchanging the chain below a head changes what the shelf holds by just these chains. -/
theorem holdings_set_below {s : Shelf} {n : Nat} {head : Frame} {old : List Frame}
    (h : (s.get n).frames = head :: old) (below : List Frame) :
    (s.set n ⟨head :: below⟩).holdings + chainHoldings old = s.holdings + chainHoldings below := by
  have hset := holdings_set s n ⟨head :: below⟩
  have hget : (s.get n).holdings = head.payload.holdings + chainHoldings old := by
    rw [Report.holdings, h, chainHoldings_cons]
  rw [hget, Report.holdings_cons, add_left_comm, add_left_comm s.holdings] at hset
  exact add_left_cancel hset

/-- Everything that was on the shelf or is handed over is then on the shelf, given back, or
released. -/
theorem apply_balance (s : Shelf) (m : Move) : (s.apply m).holdings = s.holdings + m.handed := by
  cases m with
  | create slot origin handler l =>
    rw [Move.handed, ← supply_balance s origin, apply, holdings_put, Report.holdings_single,
      add_comm]
  | push slot origin handler l =>
    rw [Move.handed, ← supply_balance s origin, ← pull_balance (s.supply origin).2 slot, apply,
      holdings_put, Report.holdings_push]
    abel
  | place slot r => exact holdings_put s slot r
  | merge slot other =>
    have hmerge := Report.holdings_merge (s.pull slot).1 ((s.pull slot).2.pull other).1
    rw [Move.handed, add_zero, ← pull_balance s slot, ← pull_balance (s.pull slot).2 other,
      ← add_assoc, ← hmerge, apply, Moved.holdings_release, holdings_put, Report.coe_release]
    abel
  | take source target =>
    rw [Move.handed, add_zero, ← pull_balance s source, apply, holdings_put, add_comm]
  -- the context comes off the shelf before what the layer is put on
  | layer slot ended addition l =>
    have hadd := supplyAddition_balance s addition
    have hstart := start_balance (s.supplyAddition addition).2 ended
    have hlayer := Layer.apply_balance ⟨(s.supplyAddition addition).1, l⟩
      ((s.supplyAddition addition).2.start ended).1
    rw [apply, holdings_settle, hlayer, Move.handed, add_left_comm, ← add_assoc, hstart]
    calc (s.supplyAddition addition).2.holdings + ended.handed
          + contextHoldings ((s.supplyAddition addition).1.map Addition.context)
        = contextHoldings ((s.supplyAddition addition).1.map Addition.context)
          + (s.supplyAddition addition).2.holdings + ended.handed := by abel
      _ = s.holdings + (ended.handed + additionHanded addition) := by rw [hadd]; abel
  | link slot origin handler l tail =>
    have htail := tail_balance (s.supply origin).2 tail
    rw [Move.handed, ← supply_balance s origin, ← htail, apply, holdings_put, Report.holdings,
      chainHoldings_cons]
    abel
  | detach slot target =>
    rw [Move.handed, add_zero, apply]
    split
    · next head next below h =>
      have hset := holdings_set_below h []
      rw [show chainHoldings [] = 0 from rfl, add_zero] at hset
      exact (holdings_put _ _ _).trans hset
    · exact (Moved.holdings_shelf s [] false).trans (add_zero _)
  | relink slot tail =>
    have htail := tail_balance s tail
    rw [Move.handed, add_zero, ← htail, add_comm]
    cases hframes : ((s.tail tail).2.get slot).frames with
    | nil =>
      have happly : s.apply (.relink slot tail) =
          { shelf := (s.tail tail).2, released := (Report.mk (s.tail tail).1).release,
            found := false } := by
        simp only [apply, hframes]
      rw [happly, Moved.holdings_shelf, Report.coe_release]
      rfl
    | cons head old =>
      have happly : s.apply (.relink slot tail) =
          { shelf := (s.tail tail).2.set slot ⟨head :: (s.tail tail).1⟩,
            released := (Report.mk old).release } := by
        simp only [apply, hframes]
      rw [happly, Moved.holdings_shelf, Report.coe_release]
      exact holdings_set_below hframes _
  | splice slot tail =>
    rw [Move.handed, add_zero, ← pull_balance s tail]
    by_cases hempty : (((s.pull tail).2.get slot).isEmpty || (s.pull tail).1.isEmpty) = true
    · have happly : s.apply (.splice slot tail) =
          { shelf := (s.pull tail).2, released := (s.pull tail).1.release, found := false } := by
        simp only [apply, hempty, if_true]
      rw [happly, Moved.holdings_shelf, Report.coe_release, add_comm]
    · have happly : s.apply (.splice slot tail) =
          let merged := (s.pull tail).1.merge ((s.pull tail).2.get slot)
          { shelf := (s.pull tail).2.set slot merged.report,
            released := merged.displaced.release } := by
        simp only [apply, hempty]
        rfl
      have hset := holdings_set (s.pull tail).2 slot
        ((s.pull tail).1.merge ((s.pull tail).2.get slot)).report
      have hmerge := Report.holdings_merge (s.pull tail).1 ((s.pull tail).2.get slot)
      rw [happly, Moved.holdings_shelf, Report.coe_release]
      apply add_right_cancel (b := ((s.pull tail).2.get slot).holdings)
      rw [add_right_comm, hset, add_assoc, hmerge]
      abel

end Shelf

/-! ## What a move releases -/

def Origin.slots : Origin → List Nat
  | .value _ => []
  | .slot n => [n]

def Ended.slots : Ended → List Nat
  | .slot n => [n]
  | _ => []

def additionSlots (a : Option (Addition Origin)) : List Nat :=
  (a.map fun a => a.context.slots).getD []

namespace Move

/-- Whether a move treats reports as wholes, and not the single frames of a chain. -/
def ofReports : Move → Bool
  | .link .. => false
  | .detach .. => false
  | .relink .. => false
  | .splice .. => false
  | _ => true

def target : Move → Nat
  | .create slot _ _ _ => slot
  | .push slot _ _ _ => slot
  | .place slot _ => slot
  | .merge slot _ => slot
  | .take _ target => target
  | .layer slot _ _ _ => slot
  | .link slot _ _ _ _ => slot
  | .detach _ target => target
  | .relink slot _ => slot
  | .splice slot _ => slot

/-- The slots that a move of reports takes reports out of, before it puts one into its target. -/
def sources : Move → List Nat
  | .create _ origin _ _ => origin.slots
  | .push slot origin _ _ => slot :: origin.slots
  | .merge slot other => [slot, other]
  | .take source _ => [source]
  | .layer _ ended addition _ => ended.slots ++ additionSlots addition
  | _ => []

/-- The report that a move of reports finds in its target. -/
def overwritten (m : Move) (s : Shelf) : Report :=
  if m.target ∈ m.sources then .empty else s.get m.target

/-- The context that a layer is given. -/
def context? (s : Shelf) : Move → Option Payload
  | .layer _ _ addition _ => (s.supplyAddition addition).1.map Addition.context
  | _ => none

end Move

theorem Layer.unused_apply (layer : Layer) (start : Start) :
    (layer.apply start).unused = match (layer.apply start).outcome with
      | .ok _ => layer.addition.map Addition.context
      | .error _ => none := by
  unfold Layer.apply
  cases start.outcome layer.location with
  | ok v => rfl
  | error r => cases layer.addition <;> rfl

namespace Shelf

theorem get_pull (s : Shelf) (n m : Nat) :
    (s.pull n).2.get m = if m = n then .empty else s.get m :=
  get_set s n m .empty

theorem get_supply (s : Shelf) (origin : Origin) (m : Nat) :
    (s.supply origin).2.get m = if m ∈ origin.slots then .empty else s.get m := by
  cases origin with
  | value v => rfl
  | slot n =>
    simp only [Origin.slots, List.mem_singleton]
    exact get_pull s n m

theorem get_supplyAddition (s : Shelf) (a : Option (Addition Origin)) (m : Nat) :
    (s.supplyAddition a).2.get m = if m ∈ additionSlots a then .empty else s.get m := by
  cases a with
  | none => rfl
  | some a => exact get_supply s a.context m

theorem get_start (s : Shelf) (ended : Ended) (m : Nat) :
    (s.start ended).2.get m = if m ∈ ended.slots then .empty else s.get m := by
  cases ended with
  | slot n =>
    simp only [Ended.slots, List.mem_singleton]
    exact get_pull s n m
  | _ => rfl

/-- A move of reports releases the report that it overwrites, or the context of a layer that gives
its value back, and nothing else. -/
theorem released_apply (s : Shelf) (m : Move) (hm : m.ofReports = true) :
    (s.apply m).released = match (s.apply m).returned with
      | none => (m.overwritten s).release
      | some _ => ((m.context? s).map Payload.release).getD [] := by
  cases m with
  | create slot origin handler l =>
    change ((s.supply origin).2.get slot).release = _
    rw [get_supply]
    rfl
  | push slot origin handler l =>
    have hover : (Move.push slot origin handler l).overwritten s = .empty :=
      if_pos List.mem_cons_self
    change (((s.supply origin).2.pull slot).2.get slot).release = (Move.overwritten _ s).release
    rw [get_pull, if_pos rfl, hover]
  | place slot r => rfl
  | merge slot other =>
    have hover : (Move.merge slot other).overwritten s = .empty := if_pos List.mem_cons_self
    have hget : ((s.pull slot).2.pull other).2.get slot = .empty := by
      rw [get_pull, get_pull, if_pos rfl, ite_self]
    change ((s.pull slot).1.merge ((s.pull slot).2.pull other).1).displaced.release
      ++ (((s.pull slot).2.pull other).2.get slot).release = (Move.overwritten _ s).release
    rw [Report.displaced_merge, hget, hover]
    rfl
  | take source target =>
    change ((s.pull source).2.get target).release = (Move.overwritten _ s).release
    simp only [get_pull, Move.overwritten, Move.target, Move.sources, List.mem_singleton]
  | layer slot ended addition l =>
    have hget : ((s.supplyAddition addition).2.start ended).2.get slot =
        (Move.layer slot ended addition l).overwritten s := by
      rw [get_start, get_supplyAddition, Move.overwritten, Move.target, Move.sources]
      by_cases he : slot ∈ ended.slots <;> simp [he]
    have hunused := Layer.unused_apply ⟨(s.supplyAddition addition).1, l⟩
      ((s.supplyAddition addition).2.start ended).1
    simp only [apply, settle]
    cases hout : (Layer.apply ⟨(s.supplyAddition addition).1, l⟩
        ((s.supplyAddition addition).2.start ended).1).outcome with
    | ok v => simp only [hunused, hout, Move.context?]
    | error r => simp only [hunused, hout, put, hget, Option.map_none, Option.getD_none,
        List.nil_append]
  | _ => simp [Move.ofReports] at hm

end Shelf

/-! ## Runs -/

/-- All payloads that a run brings in. -/
def handedBy (ms : List Move) : Multiset Released := (ms.map Move.handed).sum

/-- All values that a run gives back. -/
def backBy (moved : List Moved) : Multiset Released := (moved.map Moved.back).sum

/-- All that a run releases, in order. -/
def dropLog (moved : List Moved) : List Released := moved.flatMap Moved.released

/-- The values in a multiset of payloads, each by its identity. -/
def identities {ι : Type} (ident : Value → ι) (ps : Multiset Released) : Multiset ι :=
  (ps.filterMap Released.value?).map ident

theorem identities_add {ι : Type} (ident : Value → ι) (ps qs : Multiset Released) :
    identities ident (ps + qs) = identities ident ps + identities ident qs := by
  rw [identities, Multiset.filterMap_add, Multiset.map_add]
  rfl

theorem coe_dropLog_cons (m : Moved) (rest : List Moved) :
    (dropLog (m :: rest) : Multiset Released) =
      (m.released : Multiset Released) + (dropLog rest : Multiset Released) := by
  rw [dropLog, List.flatMap_cons, ← Multiset.coe_add]
  rfl

namespace Shelf

/-- The balance of a run: that of its first move, and that of the rest of it. -/
theorem applyAll_balance (s : Shelf) (ms : List Move) :
    (s.applyAll ms).1.holdings + backBy (s.applyAll ms).2
        + (dropLog (s.applyAll ms).2 : Multiset Released) = s.holdings + handedBy ms := by
  induction ms generalizing s with
  | nil => exact congrArg (· + 0) (add_zero s.holdings)
  | cons m rest ih =>
    have hfirst := apply_balance s m
    have hrest := ih (s.apply m).shelf
    rw [Moved.holdings] at hfirst
    change ((s.apply m).shelf.applyAll rest).1.holdings
        + ((s.apply m).back + backBy ((s.apply m).shelf.applyAll rest).2)
        + (dropLog (s.apply m :: ((s.apply m).shelf.applyAll rest).2) : Multiset Released)
      = s.holdings + (m.handed + handedBy rest)
    rw [coe_dropLog_cons]
    calc _ = ((s.apply m).shelf.applyAll rest).1.holdings
            + backBy ((s.apply m).shelf.applyAll rest).2
            + (dropLog ((s.apply m).shelf.applyAll rest).2 : Multiset Released)
            + ((s.apply m).back + ((s.apply m).released : Multiset Released)) := by abel
      _ = (s.apply m).shelf.holdings + (s.apply m).back + ((s.apply m).released : Multiset Released)
            + handedBy rest := by rw [hrest]; abel
      _ = s.holdings + (m.handed + handedBy rest) := by rw [hfirst, add_assoc]

/-- After every step of every run, each payload that was handed over is in exactly one place: in a
live report, with the caller, or in the log of what was released. The log grows only by a report
that is overwritten and by the context of a layer that gives its value back. Once every slot is
dropped, it lists all that was not given back. -/
theorem applyAll_conserves (ms : List Move) :
    let shelf := (Shelf.applyAll {} ms).1
    let back := backBy (Shelf.applyAll {} ms).2
    let log := dropLog (Shelf.applyAll {} ms).2
    handedBy ms = shelf.holdings + back + (log : Multiset Released) ∧
    (∀ {ι : Type} [DecidableEq ι] (ident : Value → ι), (identities ident (handedBy ms)).Nodup →
      ∀ i ∈ identities ident (handedBy ms),
        (identities ident shelf.holdings).count i + (identities ident back).count i
          + (identities ident log).count i = 1) ∧
    (∀ m, m.ofReports = true →
      (shelf.apply m).released = match (shelf.apply m).returned with
        | none => (m.overwritten shelf).release
        | some _ => ((m.context? shelf).map Payload.release).getD []) ∧
    handedBy ms = back + ((log ++ shelf.close : List Released) : Multiset Released) := by
  intro shelf back log
  have hbalance : handedBy ms = shelf.holdings + back + (log : Multiset Released) := by
    have h := applyAll_balance {} ms
    have hempty : ({} : Shelf).holdings = 0 := rfl
    rw [hempty, zero_add] at h
    exact h.symm
  refine ⟨hbalance, ?_, fun m hm => released_apply shelf m hm, ?_⟩
  · intro ι _ ident hnodup i hi
    have hcount := Multiset.count_eq_one_of_mem hnodup hi
    rw [hbalance, identities_add, identities_add, Multiset.count_add, Multiset.count_add] at hcount
    exact hcount
  · rw [← Multiset.coe_add, coe_close, hbalance]
    abel

/-- A run in which a report is nested in another one, and one of two contexts is not used. -/
theorem applyAll_conserves_nested :
    let site : Location := ⟨"main.rs", 1, 1⟩
    let number : Value → Int := fun v => match v with
      | .integer _ n => n
      | _ => 0
    let value : Int → Value := fun n => .integer .u8 n
    let ms : List Move := [
      .create 0 (.value (value 1)) .display site,
      .push 0 (.value (value 2)) .display site,
      .create 1 (.slot 0) .display site,
      .layer 2 (.value (value 3)) (some ⟨.eager, .value (value 4)⟩) site,
      .layer 2 (.slot 1) (some ⟨.eager, .value (value 5)⟩) site,
      .place 2 .empty]
    (identities number (Shelf.applyAll {} ms).1.holdings).count 5
      + (identities number (backBy (Shelf.applyAll {} ms).2)).count 5
      + (identities number (dropLog (Shelf.applyAll {} ms).2)).count 5 = 1 := by
  intro site number value ms
  obtain ⟨-, honce, -, -⟩ := applyAll_conserves ms
  have hhanded : identities number (handedBy ms) = {1, 2, 3, 4, 5} := by
    decide
  refine honce number ?_ 5 ?_ <;> rw [hhanded] <;> decide

end Shelf

end CauseChain
