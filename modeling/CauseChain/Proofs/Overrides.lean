import CauseChain.Hooks.Stock
import CauseChain.Proofs.Closure

/-!
# The latest override decides

A frame is displayed by the override that was registered last for the type of its payload, unless it
was removed since, and else by its handler. The registries are read off the log of all events
before: look-ups agree with the log wherever they happen, also within the displays of nested reports
and of other overrides. An override is always found under the type that it was registered for.
-/

set_option autoImplicit false

namespace CauseChain

/-! ## The registries and the log -/

/-- What an event makes of the override for a type, if it is about that type. -/
def HookEvent.setting? (type : String) : HookEvent → Option (Option Override)
  | .overrideSet t o => if t = type then some (some o) else none
  | .overrideRemoved t => if t = type then some none else none
  | _ => none

@[simp] theorem HookEvent.setting?_acquired (type : String) (r : Registry) :
    (acquired r).setting? type = none := rfl

@[simp] theorem HookEvent.setting?_released (type : String) (r : Registry) :
    (released r).setting? type = none := rfl

@[simp] theorem HookEvent.setting?_entered (type : String) (g : Guest) :
    (entered g).setting? type = none := rfl

/-- The override that was registered last for a type, unless it was removed since. -/
def latest (type : String) (es : List HookEvent) : Option Override :=
  (es.reverse.findSome? (HookEvent.setting? type)).join

/-- The registries after all events so far. -/
def Hooks.replay (es : List HookEvent) : Hooks := Hooks.none.applyAll es

namespace Hooks

theorem override?_apply_eq (h : Hooks) (e : HookEvent) (type : String) :
    (h.apply e).override? type = match e.setting? type with
      | some setting => setting.map (Hook.mk type)
      | .none => h.override? type := by
  cases e with
  | overrideSet t o =>
    by_cases same : t = type
    · simp [apply, HookEvent.setting?, same]
    · have different : ¬ type = t := fun h => same h.symm
      simp [apply, HookEvent.setting?, same, different]
  | overrideRemoved t =>
    by_cases same : t = type
    · simp [apply, HookEvent.setting?, same]
    · have different : ¬ type = t := fun h => same h.symm
      simp [apply, HookEvent.setting?, same, different]
  | _ => rfl

theorem override?_applyAll_eq (h : Hooks) (es : List HookEvent) (type : String) :
    (h.applyAll es).override? type = match es.reverse.findSome? (HookEvent.setting? type) with
      | some setting => setting.map (Hook.mk type)
      | .none => h.override? type := by
  induction es generalizing h with
  | nil => rfl
  | cons e rest ih =>
    rw [applyAll_cons, ih, List.reverse_cons, List.findSome?_append]
    cases rest.reverse.findSome? (HookEvent.setting? type) with
    | some setting => rfl
    | none =>
      rw [override?_apply_eq]
      cases he : e.setting? type <;> simp [he]

theorem override?_replay (es : List HookEvent) (type : String) :
    (replay es).override? type = (latest type es).map (Hook.mk type) := by
  rw [replay, override?_applyAll_eq, latest]
  cases es.reverse.findSome? (HookEvent.setting? type) <;> rfl

theorem replay_append (es later : List HookEvent) :
    replay (es ++ later) = (replay es).applyAll later :=
  applyAll_append none es later

theorem hasOverride_replay (es : List HookEvent) (type : String) :
    (replay es).hasOverride type = (latest type es).isSome := by
  rw [hasOverride, override?_replay, Option.isSome_map]

theorem removed_replay_iff (es : List HookEvent) (type : String) :
    ((replay es).removeOverride type).removed = true ↔ ∃ o, latest type es = some o := by
  rw [removed_removeOverride, hasOverride_replay, Option.isSome_iff_exists]

end Hooks

theorem latest_append_of_forall {type : String} {later : List HookEvent}
    (others : ∀ e ∈ later, e.setting? type = none) (es : List HookEvent) :
    latest type (es ++ later) = latest type es := by
  have hnone : later.reverse.findSome? (HookEvent.setting? type) = none :=
    List.findSome?_eq_none_iff.mpr fun e he => others e (List.mem_reverse.mp he)
  rw [latest, List.reverse_append, List.findSome?_append, hnone, Option.none_or, latest]

theorem latest_changing (type : String) (es : List HookEvent) (e : HookEvent) (held : Bool) :
    latest type (es ++ (Hooks.changing e held).marks) = match e.setting? type with
      | some setting => setting
      | none => latest type es := by
  rw [Hooks.changing, Hooks.marks_marked, latest]
  cases he : e.setting? type <;> cases held <;>
    simp [Hooks.discarding, List.findSome?_cons, he, latest]

theorem latest_setOverride (h : Hooks) (es : List HookEvent) (type : String) (o : Override) :
    latest type (es ++ (h.setOverride type o).marks) = some o := by
  rw [Hooks.setOverride, latest_changing, HookEvent.setting?, if_pos rfl]

theorem latest_removeOverride (h : Hooks) (es : List HookEvent) (type : String) :
    latest type (es ++ (h.removeOverride type).done.marks) = none := by
  rw [Hooks.removeOverride, latest_changing, HookEvent.setting?, if_pos rfl]

theorem latest_setOverride_ne {other type : String} (different : other ≠ type) (h : Hooks)
    (es : List HookEvent) (o : Override) :
    latest other (es ++ (h.setOverride type o).marks) = latest other es := by
  rw [Hooks.setOverride, latest_changing, HookEvent.setting?, if_neg different.symm]

theorem latest_removeOverride_ne {other type : String} (different : other ≠ type) (h : Hooks)
    (es : List HookEvent) :
    latest other (es ++ (h.removeOverride type).done.marks) = latest other es := by
  rw [Hooks.removeOverride, latest_changing, HookEvent.setting?, if_neg different.symm]

/-! ## One frame -/

namespace FrameOf
variable (f : Frame) (spec : Spec)

/-- What is to be displayed for a frame, given the override that was registered last. -/
def expected (o : Option Override) : Rendering :=
  match o with
  | some o => o.show f f.payload.display spec
  | none => f.unhooked spec

theorem shown_replay (past : List HookEvent) :
    (f.shown spec).captured (.replay past) =
        (f.expected spec (latest f.typeName past)).captured (.replay past) ∧
      (f.shown spec).leaves (.replay past) =
        (f.expected spec (latest f.typeName past)).leaves (.replay past) := by
  have hfound := Hooks.override?_replay past f.typeName
  cases hlatest : latest f.typeName past with
  | none =>
    rw [hlatest, Option.map_none] at hfound
    simp only [Rendering.captured, Rendering.leaves, f.shown_of_none spec hfound, expected,
      and_self]
  | some o =>
    rw [hlatest, Option.map_some] at hfound
    simp only [Rendering.captured, Rendering.leaves, f.shown_of_some spec hfound rfl]
    exact ⟨Rendering.captured_guest _ _ .override, Rendering.leaves_guest _ _ .override⟩

/-- Displaying a frame does what the override does that was registered last, or the handler. -/
theorem display_replay (past : List HookEvent) :
    (f.display spec).captured (.replay past) =
        (f.expected spec (latest f.typeName past)).captured (.replay past) ∧
      (f.display spec).leaves (.replay past) =
        (f.expected spec (latest f.typeName past)).leaves (.replay past) := by
  rw [captured_display, leaves_display]
  exact f.shown_replay spec past

end FrameOf

/-! ## Frames without a report -/

/-- A rendering that does the same whatever is registered. -/
def Rendering.Blind (f : Rendering) : Prop := ∀ h h' : Hooks, f h = f h'

theorem Rendering.closed_blind : Rendering.Closed Rendering.Blind where
  unmarked t _ := fun _ _ => rfl
  entered g := fun _ _ => rfl
  andThen f g hf hg := by
    intro h h'
    simp only [andThen, hf h h', hg (h.after (f h')) (h'.after (f h'))]
  capture f next hf hnext := by
    intro h h'
    simp only [capture, hf h h', hnext _ (h.after (f h')) (h'.after (f h'))]

namespace FrameOf
variable {f : Frame} {v : Value} (plain : f.payload = .value v)
include plain

theorem blind_payload (spec : Spec) : (f.payload.display spec).Blind := by
  rw [plain]
  exact Rendering.closed_blind.value v spec

theorem blind_unhooked (spec : Spec) : (f.unhooked spec).Blind :=
  Rendering.closed_blind.handler (blind_payload plain) f.handler f.typeName spec

theorem blind_payloadDebug (pretty : Bool) : (f.payloadDebug pretty).Blind := by
  have hdebug : ∀ pretty, (f.payload.debug pretty).Blind := by
    intro pretty h h'
    rw [plain]
    rfl
  have hC := Rendering.closed_blind
  unfold payloadDebug Handler.applyDebug
  cases f.handler with
  | error => exact hdebug pretty
  | display => exact hdebug pretty
  | any => exact hC.text _
  | reworded r =>
    refine hC.all fun g hg => ?_
    simp only [List.mem_cons, List.not_mem_nil, or_false] at hg
    rcases hg with rfl | rfl | rfl
    · exact hC.text r.debugBefore
    · exact hdebug false
    · exact hC.text r.debugAfter

theorem blind_expected {o : Option Override} (inert : ∀ o' ∈ o, o'.Inert) (spec : Spec) :
    (f.expected spec o).Blind := by
  have hC := Rendering.closed_blind
  cases o with
  | none => exact blind_unhooked plain spec
  | some o =>
    exact hC.code_of_inert (hC.subjects (blind_payload plain)) _ (inert o rfl f spec)

/-- Events about other types do not change how a frame is displayed that holds no report. -/
theorem captured_display_append {past later : List HookEvent}
    (others : ∀ e ∈ later, e.setting? f.typeName = none)
    (inert : ∀ o ∈ latest f.typeName past, o.Inert) (spec : Spec) :
    (f.display spec).captured (.replay (past ++ later)) =
      (f.display spec).captured (.replay past) := by
  have hblind := blind_expected plain inert spec (.replay (past ++ later)) (.replay past)
  rw [(f.display_replay spec (past ++ later)).1, (f.display_replay spec past).1,
    latest_append_of_forall others, Rendering.captured, Rendering.captured, hblind]

end FrameOf

/-! ## Look-ups anywhere in a run -/

/-- Every look-up is part of the display of a frame: this display runs in full from the registries
that the events before it leave, and finds what they hold. -/
def Hooks.Accounts (h : Hooks) (es : List HookEvent) : Prop :=
  ∀ before after type found, es = before ++ .found type found :: after →
    ∃ past rest f spec, before = past ++ [.acquired .overrides] ∧
      FrameOf.typeName f = type ∧ found = (h.applyAll past).override? type ∧
      es = past ++ (f.display spec (h.applyAll past)).marks ++ rest

namespace Hooks
variable {h : Hooks}

theorem accounts_of_forall {es : List HookEvent} (hes : ∀ type found, .found type found ∉ es) :
    h.Accounts es := by
  intro before after type found heq
  refine absurd ?_ (hes type found)
  rw [heq]
  exact List.mem_append_right before List.mem_cons_self

theorem accounts_changing {e : HookEvent} {held : Bool} (he : ∀ type found, e ≠ .found type found) :
    h.Accounts (changing e held).marks := by
  refine accounts_of_forall fun type found => ?_
  have hne : ¬ .found type found = e := fun same => he type found same.symm
  rw [changing, marks_marked]
  cases held <;> simp [discarding, hne]

theorem Accounts.append {es later : List HookEvent} (hes : h.Accounts es)
    (hlater : (h.applyAll es).Accounts later) : h.Accounts (es ++ later) := by
  intro before after type found heq
  rcases List.append_eq_append_iff.mp heq with ⟨mid, hbefore, hmid⟩ | ⟨mid, hes', hmid⟩
  -- the look-up is one of the later events
  · obtain ⟨past, rest, f, spec, rfl, htype, hfound, hsplit⟩ := hlater mid after type found hmid
    refine ⟨es ++ past, rest, f, spec, ?_, htype, ?_, ?_⟩
    · rw [hbefore, List.append_assoc]
    · rw [applyAll_append, hfound]
    · rw [applyAll_append, List.append_assoc, List.append_assoc, ← List.append_assoc past, hsplit]
  · cases mid with
    -- no display begins with its look-up: the lock is acquired before it
    | nil =>
      rw [List.nil_append] at hmid
      obtain ⟨past, rest, f, spec, hpast, htype, hfound, hsplit⟩ :=
        hlater [] after type found hmid.symm
      simp at hpast
    | cons e mid =>
      obtain ⟨rfl, hafter⟩ := List.cons.inj hmid
      obtain ⟨past, rest, f, spec, hpast, htype, hfound, hsplit⟩ :=
        hes before mid type found hes'
      refine ⟨past, rest ++ later, f, spec, hpast, htype, hfound, ?_⟩
      rw [← List.append_assoc, ← hsplit]

end Hooks

theorem Rendering.fullyClosed_accounts :
    Rendering.FullyClosed fun f => ∀ h : Hooks, h.Accounts (f h).marks where
  unmarked t ht h := by
    rw [steady, ht]
    exact Hooks.accounts_of_forall fun _ _ => List.not_mem_nil
  entered g h := Hooks.accounts_of_forall fun type found => by simp [steady]
  andThen f g hf hg h := by
    by_cases ok : (f h).ok = true
    · rw [andThen_of_ok f g h ok, Transcript.marks_append _ _ ok]
      have hlater := hg (f.leaves h)
      rw [leaves_eq_applyAll] at hlater ⊢
      exact (hf h).append hlater
    · rw [andThen_of_not_ok f g h (by simpa using ok)]
      exact hf h
  capture f next hf hnext h := by
    rw [capture_eq, Transcript.marks_append _ _ (Transcript.ok_muted _), Transcript.marks_muted]
    have hlater := hnext (f.captured h) (f.leaves h)
    rw [leaves_eq_applyAll] at hlater ⊢
    exact (hf h).append hlater
  choose type F hF h := hF (h.override? type) h
  setOverride type o h := Hooks.accounts_changing fun _ _ => HookEvent.noConfusion
  removal type h := Hooks.accounts_changing fun _ _ => HookEvent.noConfusion
  setFormatter f h := Hooks.accounts_of_forall fun t found => by
    rw [Hooks.setFormatter, Hooks.marks_marked]
    cases h.formatter?.isSome <;> simp [Hooks.discarding]
  frame f spec hshown h := by
    intro before after type found heq
    rw [FrameOf.marks_display] at heq
    rcases before with _ | ⟨e, _ | ⟨e', _ | ⟨e'', before⟩⟩⟩
    · simp at heq
    -- the look-up of the frame itself
    · simp only [List.cons_append, List.nil_append, List.cons.injEq, HookEvent.found.injEq] at heq
      obtain ⟨rfl, ⟨rfl, rfl⟩, -⟩ := heq
      exact ⟨[], [], f, spec, rfl, rfl, rfl, by simp⟩
    · simp at heq
    -- a look-up later on
    · simp only [List.cons_append, List.cons.injEq] at heq
      obtain ⟨rfl, rfl, rfl, hrest⟩ := heq
      obtain ⟨past, rest, g, spec', rfl, htype, hfound, hsplit⟩ :=
        hshown h before after type found hrest
      refine ⟨_ :: _ :: _ :: past, rest, g, spec', rfl, htype, hfound, ?_⟩
      rw [FrameOf.marks_display, hsplit]
      rfl

/-! ## Sessions -/

/-- What a program does with frames and overrides. -/
inductive Action where
  | make (f : Frame)
  | register (type : String) (o : Override)
  | remove (type : String)
  | display (n : Nat) (spec : Spec)

/-- The frames that a program has made, the registries, and the log of all events. -/
structure Session where
  made : List Frame := []
  hooks : Hooks := .none
  log : List HookEvent := []

namespace Session

/-- What runs when an action is performed. -/
def runs (s : Session) : Action → Rendering
  | .make _ => Rendering.skip
  | .register type o => Hooks.setOverride type o
  | .remove type => Rendering.removal type
  | .display n spec => (s.made[n]?.map fun f => f.display spec).getD Rendering.skip

def madeBy (s : Session) : Action → List Frame
  | .make f => s.made ++ [f]
  | _ => s.made

def perform (s : Session) (a : Action) : Session where
  made := s.madeBy a
  hooks := (s.runs a).leaves s.hooks
  log := s.log ++ (s.runs a s.hooks).marks

def performAll (s : Session) (actions : List Action) : Session := actions.foldl perform s

/-- The registries are those of the log, and the log accounts for its look-ups. -/
structure Sound (s : Session) : Prop where
  hooks : s.hooks = .replay s.log
  accounts : Hooks.none.Accounts s.log

theorem accounts_runs (s : Session) (a : Action) (h : Hooks) : h.Accounts (s.runs a h).marks := by
  have hC := Rendering.fullyClosed_accounts
  cases a with
  | make f => exact hC.skip h
  | register type o => exact hC.setOverride type o h
  | remove type => exact hC.removal type h
  | display n spec =>
    change h.Accounts (((s.made[n]?.map fun f => f.display spec).getD Rendering.skip) h).marks
    cases s.made[n]? with
    | none => exact hC.skip h
    | some f => exact hC.display f spec h

theorem Sound.perform {s : Session} (hs : s.Sound) (a : Action) : (s.perform a).Sound where
  hooks := by
    change (s.runs a).leaves s.hooks = .replay (s.log ++ (s.runs a s.hooks).marks)
    rw [Rendering.leaves_eq_applyAll, Hooks.replay_append, ← hs.hooks]
  accounts := by
    have hruns := accounts_runs s a s.hooks
    refine hs.accounts.append ?_
    change (Hooks.replay s.log).Accounts _
    rw [← hs.hooks]
    exact hruns

theorem Sound.performAll {s : Session} (hs : s.Sound) (actions : List Action) :
    (s.performAll actions).Sound := by
  induction actions generalizing s with
  | nil => exact hs
  | cons a rest ih => exact ih (hs.perform a)

theorem sound_start : ({} : Session).Sound where
  hooks := rfl
  accounts := Hooks.accounts_of_forall fun _ _ => List.not_mem_nil

/-- Along every run, whatever overrides do while they display: a frame is displayed by the override
that was registered last for the type of its payload, unless it was removed since, and else by its
handler. So is every frame for which a look-up happens anywhere in the log, from the registries of
that moment, and the frames of nested reports are displayed as frames are. Where there is no report
in a payload, other types do not matter. A removal answers whether there was an override, wherever it
happens, and there is none afterwards. An override is always found under the type that it was
registered for. -/
theorem displays_latest (actions : List Action) :
    let s := performAll {} actions
    (∀ (n : Nat) (f : Frame) (spec : Spec), s.made[n]? = some f →
      (s.runs (.display n spec)).captured s.hooks =
        (f.expected spec (latest f.typeName s.log)).captured s.hooks) ∧
    (∀ before after type found, s.log = before ++ .found type found :: after →
      ∃ past rest f spec, before = past ++ [.acquired .overrides] ∧
        FrameOf.typeName f = type ∧ found = (latest type past).map (Hook.mk type) ∧
        s.log = past ++ (f.display spec (.replay past)).marks ++ rest) ∧
    (∀ (past : List HookEvent) (f : Frame) (spec : Spec),
      (f.display spec).captured (.replay past) =
          (f.expected spec (latest f.typeName past)).captured (.replay past) ∧
        (f.display spec).leaves (.replay past) =
          (f.expected spec (latest f.typeName past)).leaves (.replay past)) ∧
    (∀ (chain : List Frame) (spec : Spec), (Payload.report chain).display spec =
      chainForm spec (chain.map fun f => f.display spec)) ∧
    (∀ (f : Frame) (v : Value), f.payload = .value v →
      (∀ past later, (∀ e ∈ later, e.setting? f.typeName = none) →
        (∀ o ∈ latest f.typeName past, o.Inert) → ∀ spec,
          (f.display spec).captured (.replay (past ++ later)) =
            (f.display spec).captured (.replay past)) ∧
      (∀ (spec : Spec) (h h' : Hooks), f.unhooked spec h = f.unhooked spec h') ∧
      (∀ (pretty : Bool) (h h' : Hooks), f.payloadDebug pretty h = f.payloadDebug pretty h')) ∧
    (∀ type, s.hooks.hasOverride type = (latest type s.log).isSome ∧
      ((s.hooks.removeOverride type).removed = true ↔ ∃ o, latest type s.log = some o) ∧
      (s.perform (.remove type)).log = s.log ++ (s.hooks.removeOverride type).done.marks ∧
      (∀ o, latest type (s.perform (.register type o)).log = some o) ∧
      latest type (s.perform (.remove type)).log = none ∧
      (∀ other ≠ type,
        (∀ o, latest other (s.perform (.register type o)).log = latest other s.log) ∧
        latest other (s.perform (.remove type)).log = latest other s.log) ∧
      ∀ (f : Frame) (spec : Spec), f.typeName = type →
        (f.display spec).captured (s.perform (.remove type)).hooks =
          (f.unhooked spec).captured (s.perform (.remove type)).hooks) ∧
    (∀ past type,
      (((Hooks.replay past).removeOverride type).removed = true ↔ ∃ o, latest type past = some o) ∧
      ∀ hook, (Hooks.replay past).override? type = some hook → hook.type = type) := by
  intro s
  have hs : s.Sound := sound_start.performAll actions
  refine ⟨fun n f spec hf => ?_, fun before after type found heq => ?_,
    fun past f spec => f.display_replay spec past,
    fun chain spec => Payload.display_report chain spec,
    fun f v plain => ⟨fun past later others inert spec => ?_, ?_, ?_⟩,
    fun type => ⟨?_, ?_, rfl, ?_, ?_, ?_, ?_⟩,
    fun past type => ⟨Hooks.removed_replay_iff past type, fun hook hfound => ?_⟩⟩
  · have hruns : s.runs (.display n spec) = f.display spec := by simp [runs, hf]
    rw [hruns, hs.hooks]
    exact (f.display_replay spec s.log).1
  · obtain ⟨past, rest, f, spec, hbefore, htype, hfound, hsplit⟩ :=
      hs.accounts before after type found heq
    refine ⟨past, rest, f, spec, hbefore, htype, ?_, hsplit⟩
    rw [hfound]
    exact Hooks.override?_replay past type
  · exact FrameOf.captured_display_append plain others inert spec
  · exact FrameOf.blind_unhooked plain
  · exact FrameOf.blind_payloadDebug plain
  · rw [hs.hooks, Hooks.hasOverride_replay]
  · rw [hs.hooks]
    exact Hooks.removed_replay_iff s.log type
  · exact latest_setOverride s.hooks s.log type
  · exact latest_removeOverride s.hooks s.log type
  · intro other different
    exact ⟨latest_setOverride_ne different s.hooks s.log,
      latest_removeOverride_ne different s.hooks s.log⟩
  · rintro f spec rfl
    have hnone : latest f.typeName (s.perform (.remove f.typeName)).log = none :=
      latest_removeOverride s.hooks s.log f.typeName
    rw [(hs.perform (.remove f.typeName)).hooks, (f.display_replay spec _).1, hnone]
    rfl
  · rw [Hooks.override?_replay] at hfound
    obtain ⟨o, -, rfl⟩ := Option.map_eq_some_iff.mp hfound
    rfl

/-- An override that takes the place of another one, and is then removed. -/
theorem displays_latest_replaced :
    let f : Frame := ⟨.value (.bool true), .display, ⟨"main.rs", 3, 5⟩⟩
    let s := performAll {} [.make f, .register f.typeName (.constant "once"),
      .register f.typeName (.constant "again")]
    (s.hooks.removeOverride f.typeName).removed = true ∧
      s.hooks.hasOverride f.typeName = true ∧
      (s.runs (.display 0 .plain)).captured s.hooks = ⟨"again", true⟩ ∧
      (f.display .plain).captured (s.perform (.remove f.typeName)).hooks =
        (f.unhooked .plain).captured (s.perform (.remove f.typeName)).hooks := by
  intro f s
  obtain ⟨hdisplay, -, -, -, -, hsettings, -⟩ := displays_latest
    [.make f, .register f.typeName (.constant "once"), .register f.typeName (.constant "again")]
  obtain ⟨hheld, hanswer, -, -, -, -, hremoved⟩ := hsettings f.typeName
  have hlatest : latest f.typeName s.log = some (.constant "again") :=
    latest_setOverride _ _ f.typeName (.constant "again")
  refine ⟨hanswer.mpr ⟨_, hlatest⟩, ?_, ?_, hremoved f .plain rfl⟩
  · rw [hheld]
    exact congrArg Option.isSome hlatest
  · refine (hdisplay 0 f .plain rfl).trans ?_
    change (f.expected .plain (latest f.typeName s.log)).captured s.hooks = _
    rw [hlatest]
    exact Override.captured_show_constant "again" f f.payload.display .plain s.hooks

end Session

end CauseChain
