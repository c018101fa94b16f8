import CauseChain.Io.Conversion

/-!
# Errors settle after one conversion

An error may be handed to the host and taken back any number of times, with copies made in between.
Whatever it was at the start, one conversion brings it into its settled form, which no later
conversion changes; what is handed out from then on always looks the same. A code of the system is
there at every moment or never.
-/

set_option autoImplicit false

namespace CauseChain

theorem HostKind.portable_toHost_portable (k : HostKind) :
    k.portable.toHost.portable = k.portable := by
  cases k with
  | known k => cases k <;> rfl
  | _ => rfl

theorem text?_fitted {ε : Type} {spec : Spec} (unsized : spec.Unsized) (s : String) :
    (fitted spec s : Transcript ε).text? = some s := by
  rw [Transcript.text?, text_fitted unsized]
  rfl

theorem Value.text?_string (s : String) : (Value.string s).text? = some s :=
  text?_fitted ⟨rfl, rfl⟩ s

/-! ## One trip to the host and back -/

namespace HostError
variable {e : HostError Value} {E : IoError Value}

theorem toIo?_toHost_of_toIo? (h : e.toIo? = some E) : E.toHost.toIo? = some E := by
  cases e with
  | system c =>
    cases h
    rfl
  | bare k =>
    cases h
    exact congrArg (some ∘ IoError.bare) k.portable_toHost_portable
  | fixed k m =>
    cases h
    exact congrArg (some ∘ IoError.bare) k.portable_toHost_portable
  | rich k inner =>
    obtain ⟨m, -, rfl⟩ := Option.map_eq_some_iff.mp h
    change (Value.string m).text?.map (IoError.described k.portable.toHost.portable) = _
    rw [Value.text?_string, k.portable_toHost_portable]
    rfl

theorem code?_of_toIo? (h : e.toIo? = some E) : E.code? = e.code? := by
  cases e with
  | system c =>
    cases h
    rfl
  | bare k =>
    cases h
    rfl
  | fixed k m =>
    cases h
    rfl
  | rich k inner =>
    obtain ⟨m, -, rfl⟩ := Option.map_eq_some_iff.mp h
    rfl

/-- Errors of the host that nobody can tell apart by kind, code or display, unless the display is
to be set in a width or cut. -/
structure Alike (e e' : HostError Value) : Prop where
  kind : e.kind = e'.kind
  code : e.code? = e'.code?
  display : ∀ spec : Spec, spec.Unsized →
    ((Value.host e).display spec : Writing).text? = ((Value.host e').display spec : Writing).text?

theorem Alike.refl (e : HostError Value) : e.Alike e := ⟨rfl, rfl, fun _ _ => rfl⟩

/-- What is handed out looks like its settled form handed out, although a payload goes out whole the
first time and as mere text ever after. -/
theorem alike_toHost {e : IoError Value} (h : e.toHost.toIo? = some E) :
    e.toHost.Alike E.toHost := by
  cases e with
  | system c =>
    cases h
    exact .refl _
  | bare k =>
    cases h
    change HostError.Alike (.bare k.toHost) (.bare k.toHost.portable.toHost)
    rw [HostKind.toHost_portable_toHost]
    exact .refl _
  | described k m =>
    have hback : (Value.string m).text?.map (IoError.described k.toHost.portable) = some E := h
    rw [Value.text?_string] at hback
    cases hback
    change HostError.Alike (.rich k.toHost _) (.rich k.toHost.portable.toHost _)
    rw [HostKind.toHost_portable_toHost]
    exact .refl _
  | rich k p =>
    have hback : (Value.io (.rich k p)).text?.map (IoError.described k.toHost.portable) = some E := h
    obtain ⟨m, hm, rfl⟩ := Option.map_eq_some_iff.mp hback
    refine ⟨(HostKind.toHost_portable_toHost k).symm, rfl, fun spec unsized => ?_⟩
    exact hm.trans (text?_fitted unsized m).symm

end HostError

/-! ## Runs of conversions and copies -/

namespace Held

/-- What is carried inside an error and shown by it. -/
def payload? : Held → Option Value
  | .ours e => e.payload?
  | .host e => e.inner?
  | .gone => none

/-- What an error is on this side once it has been converted. -/
def settled? : Held → Option (IoError Value)
  | .ours e => e.toHost.toIo?
  | .host e => e.toIo?
  | .gone => none

/-- Whether a step is a conversion, and not one that does not apply. -/
def converts : Held → Hop → Bool
  | .ours _, .out => true
  | .host _, .back => true
  | _, _ => false

theorem isSome_text?_io {p : Value} (k : Kind) (ok : (p.display .plain : Writing).ok = true) :
    (Value.io (.rich k p)).text?.isSome = true := by
  have hok : ((Value.io (.rich k p)).display .plain : Writing).ok = true := by
    simp [Value.display, ok]
  rw [Value.text?, Transcript.text?, if_pos hok]
  rfl

theorem exists_settled {x : Held} (present : x ≠ .gone)
    (shown : ∀ p ∈ x.payload?, (p.display .plain : Writing).ok = true) :
    ∃ E, x.settled? = some E := by
  apply Option.isSome_iff_exists.mp
  cases x with
  | gone => exact absurd rfl present
  | ours e =>
    cases e with
    | rich k p =>
      have hp := isSome_text?_io k (shown p rfl)
      rwa [settled?, IoError.toHost, HostError.toIo?, Option.isSome_map]
    | described k m =>
      rw [settled?, IoError.toHost, HostError.toIo?, Value.text?_string]
      rfl
    | _ => rfl
  | host e =>
    cases e with
    | rich k inner =>
      have hinner := shown inner rfl
      rw [settled?, HostError.toIo?, Option.isSome_map, Value.text?, Transcript.text?,
        if_pos hinner]
      rfl
    | _ => rfl

theorem code?_of_settled {x : Held} {E : IoError Value} (h : x.settled? = some E) :
    x.code? = E.code? := by
  cases x with
  | ours e => exact (e.code?_toHost.symm.trans (HostError.code?_of_toIo? h).symm)
  | host e => exact (HostError.code?_of_toIo? h).symm
  | gone => cases h

end Held

/-- An error in hand, and whether there has been a conversion yet. -/
structure Visit where
  held : Held
  converted : Bool

namespace Visit

def next? (v : Visit) (hop : Hop) : Option Visit :=
  (v.held.step hop).map fun x => ⟨x, v.converted || v.held.converts hop⟩

/-- All that is in hand along a run, the start included. -/
def trail? (v : Visit) : List Hop → Option (List Visit)
  | [] => some [v]
  | hop :: hops => (v.next? hop).bind fun w => (w.trail? hops).map (v :: ·)

/-- What an error is, given the form that it settles in. -/
structure Settled (E : IoError Value) (v : Visit) : Prop where
  form : v.held.settled? = some E
  ours : v.converted = true → ∀ e, v.held = .ours e → e = E
  host : v.converted = true → ∀ e, v.held = .host e → e.Alike E.toHost

variable {E : IoError Value} {v : Visit}

theorem Settled.next (hv : v.Settled E) {hop : Hop} (closed : hop ≠ .inner) :
    ∃ w, v.next? hop = some w ∧ w.Settled E := by
  obtain ⟨held, converted⟩ := v
  obtain ⟨form, ours, host⟩ := hv
  -- a step that is no conversion leaves the error as it is
  have hsame : Visit.Settled E ⟨held, converted || false⟩ := by
    rw [Bool.or_false]
    exact ⟨form, ours, host⟩
  cases held with
  | gone => cases form
  | ours e =>
    cases hop with
    | inner => exact absurd rfl closed
    | out =>
      refine ⟨_, rfl, form, fun _ e' he' => ?_, fun _ e' he' => ?_⟩
      · cases he'
      · cases he'
        exact HostError.alike_toHost form
    | _ => exact ⟨_, rfl, hsame⟩
  | host e =>
    have hback : e.toIo? = some E := form
    cases hop with
    | inner => exact absurd rfl closed
    | back =>
      refine ⟨⟨.ours E, converted || true⟩, ?_, HostError.toIo?_toHost_of_toIo? hback, fun _ e' he' => ?_,
        fun _ e' he' => ?_⟩
      · rw [next?, Held.step, hback]
        rfl
      · cases he'
        rfl
      · cases he'
    | _ => exact ⟨_, rfl, hsame⟩

theorem Settled.trail (hv : v.Settled E) {hops : List Hop} (closed : Hop.inner ∉ hops) :
    ∃ visits, v.trail? hops = some visits ∧ visits.length = hops.length + 1 ∧
      ∀ w ∈ visits, w.Settled E := by
  induction hops generalizing v with
  | nil =>
    refine ⟨[v], rfl, rfl, fun w hw => ?_⟩
    rwa [List.mem_singleton.mp hw]
  | cons hop hops ih =>
    obtain ⟨w, hw, hsettled⟩ := hv.next fun h => closed (h ▸ List.mem_cons_self)
    obtain ⟨visits, htrail, hlength, hall⟩ :=
      ih hsettled fun h => closed (List.mem_cons_of_mem hop h)
    refine ⟨v :: visits, ?_, ?_, ?_⟩
    · rw [trail?, hw, Option.bind_some, htrail]
      rfl
    · rw [List.length_cons, hlength, List.length_cons]
    · exact List.forall_mem_cons.mpr ⟨hv, hall⟩

end Visit

namespace Held

/-- From any error at hand, whatever conversions and copies follow: they all succeed, what is on
this side after a conversion is one and the same error, what is with the host after a conversion
looks one and the same, and a code is there at every moment or never. A payload that goes out whole
can be taken out of the host's error again, with its own kind. -/
theorem conversions_settle (x : Held) (hops : List Hop) (present : x ≠ .gone)
    (closed : Hop.inner ∉ hops)
    (shown : ∀ p ∈ x.payload?, (p.display .plain : Writing).ok = true) :
    (∃ visits, (Visit.mk x false).trail? hops = some visits ∧
      visits.length = hops.length + 1 ∧
      (∃ E, x.settled? = some E ∧ ∀ v ∈ visits, v.converted = true →
        (∀ e, v.held = .ours e → e = E) ∧ (∀ e, v.held = .host e → e.Alike E.toHost)) ∧
      ∀ v ∈ visits, v.held.code? = x.code?) ∧
    ∀ (k : Kind) (p : Value),
      (IoError.rich k p).toHost.inner? = some (.io (.rich k p)) ∧
      (host (IoError.rich k p).toHost).step .inner = some (.ours (.rich k p)) := by
  obtain ⟨E, hE⟩ := exists_settled present shown
  have hstart : (Visit.mk x false).Settled E := ⟨hE, by simp, by simp⟩
  obtain ⟨visits, htrail, hlength, hall⟩ := hstart.trail closed
  refine ⟨⟨visits, htrail, hlength, ⟨E, hE, fun v hv made => ?_⟩, fun v hv => ?_⟩,
    fun k p => ⟨rfl, rfl⟩⟩
  · exact ⟨(hall v hv).ours made, (hall v hv).host made⟩
  · rw [code?_of_settled (hall v hv).form, code?_of_settled hE]

/-- A kind that the host cannot carry and a payload that it shows but does not keep. -/
theorem conversions_settle_loop :
    let x : Held := .ours (.rich .filesystemLoop (.integer .u8 7))
    let hops : List Hop := [.out, .copy, .back, .copy, .out, .back]
    x ≠ .gone ∧ Hop.inner ∉ hops ∧
      (∀ p ∈ x.payload?, (p.display .plain : Writing).ok = true) ∧
      ∃ visits, (Visit.mk x false).trail? hops = some visits ∧ visits.length = 7 ∧
        ∀ v ∈ visits, v.converted = true → ∀ e, v.held = .ours e →
          e = .described .other
            "I/O error (filesystem loop or indirection limit (e.g. symlink loop)): 7" := by
  intro x hops
  have present : x ≠ .gone := by simp [x]
  have closed : Hop.inner ∉ hops := by decide
  have shown : ∀ p ∈ x.payload?, (p.display .plain : Writing).ok = true := by
    intro p hp
    cases hp
    rfl
  obtain ⟨⟨visits, htrail, hlength, ⟨E, hE, hmade⟩, -⟩, -⟩ :=
    conversions_settle x hops present closed shown
  refine ⟨present, closed, shown, visits, htrail, hlength, fun v hv made e he => ?_⟩
  have hform : x.settled? = some (.described .other
    "I/O error (filesystem loop or indirection limit (e.g. symlink loop)): 7") := by rfl
  rw [(hmade v hv made).1 e he]
  exact Option.some.inj (hE.symm.trans hform)

end Held

end CauseChain
