import CauseChain.Report.Basic

/-!
# Releasing a report

When the owner of a report lets it go, its payloads are released one after the other: first the
frame below the head, then on down to the root, and the head last. A payload that is itself a
report is released with its own chain, by the same rule and at its turn.
-/

set_option autoImplicit false

namespace CauseChain

/-- One thing that is released: a value, or a report that was a payload. -/
inductive Released where
  | value (v : Value)
  | report

mutual

/-- What a payload releases, put before `later` the other way round. -/
def Payload.releaseOnto : Payload → List Released → List Released
  | .value v, later => .value v :: later
  | .report chain, later => chainReleaseOnto chain (.report :: later)

/-- What a chain releases: the frames below the head first. -/
def chainReleaseOnto : List (FrameOf Payload) → List Released → List Released
  | [], later => later
  | ⟨head, _, _⟩ :: below, later => head.releaseOnto (downReleaseOnto below later)

def downReleaseOnto : List (FrameOf Payload) → List Released → List Released
  | [], later => later
  | ⟨p, _, _⟩ :: below, later => downReleaseOnto below (p.releaseOnto later)

end

def Payload.release (p : Payload) : List Released := (p.releaseOnto []).reverse

def Report.release (r : Report) : List Released := (chainReleaseOnto r.frames []).reverse

/-! ## The rule, frame by frame -/

mutual

theorem Payload.releaseOnto_eq :
    ∀ (p : Payload) (later : List Released), p.releaseOnto later = p.releaseOnto [] ++ later
  | .value v, later => rfl
  | .report chain, later => by
    rw [Payload.releaseOnto, Payload.releaseOnto, chainReleaseOnto_eq chain (.report :: later),
      chainReleaseOnto_eq chain [.report], List.append_assoc]
    rfl

theorem chainReleaseOnto_eq :
    ∀ (fs : List (FrameOf Payload)) (later : List Released),
      chainReleaseOnto fs later = chainReleaseOnto fs [] ++ later
  | [], later => rfl
  | ⟨head, _, _⟩ :: below, later => by
    rw [chainReleaseOnto, chainReleaseOnto,
      Payload.releaseOnto_eq head (downReleaseOnto below later),
      Payload.releaseOnto_eq head (downReleaseOnto below []), downReleaseOnto_eq below later,
      List.append_assoc]

theorem downReleaseOnto_eq :
    ∀ (fs : List (FrameOf Payload)) (later : List Released),
      downReleaseOnto fs later = downReleaseOnto fs [] ++ later
  | [], later => rfl
  | ⟨p, _, _⟩ :: below, later => by
    rw [downReleaseOnto, downReleaseOnto, downReleaseOnto_eq below (p.releaseOnto later),
      downReleaseOnto_eq below (p.releaseOnto []), Payload.releaseOnto_eq p later,
      List.append_assoc]

end

@[simp] theorem Payload.release_value (v : Value) : (Payload.value v).release = [.value v] := rfl

@[simp] theorem Payload.release_report (chain : List Frame) :
    (Payload.report chain).release = .report :: (Report.mk chain).release := by
  rw [Payload.release, Payload.releaseOnto, chainReleaseOnto_eq chain [.report],
    List.reverse_append]
  rfl

theorem downRelease_eq (fs : List Frame) :
    (downReleaseOnto fs []).reverse = fs.flatMap fun f => f.payload.release := by
  induction fs with
  | nil => rfl
  | cons f below ih =>
    cases f with
    | mk p h l =>
      rw [downReleaseOnto, downReleaseOnto_eq below (p.releaseOnto []), List.reverse_append, ih]
      rfl

@[simp] theorem Report.release_empty : Report.empty.release = [] := rfl

/-- The frames below the head from the top down, and the head last. -/
theorem Report.release_cons (head : Frame) (below : List Frame) :
    (Report.mk (head :: below)).release =
      (below.flatMap fun f => f.payload.release) ++ head.payload.release := by
  cases head with
  | mk p h l =>
    rw [Report.release, chainReleaseOnto, Payload.releaseOnto_eq p (downReleaseOnto below []),
      List.reverse_append, downRelease_eq]
    rfl

end CauseChain
