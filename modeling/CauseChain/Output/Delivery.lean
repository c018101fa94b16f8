import CauseChain.Hooks.Rendering
import CauseChain.Output.Device
import CauseChain.Report.Render

/-!
# Writing reports to devices and sinks

The text of a run is handed to a device piece by piece. The first piece that the device fails to
take ends the run, and its error is the result; a run that fails on its own while the device has
not is broken off. A run that comes to its end is followed by a flush.

A sink that takes a limited number of characters stops a run at the first text that does not fit:
what fits of it is taken, and nothing of the run happens afterwards.
-/

set_option autoImplicit false

namespace CauseChain

def bytesOf (s : String) : List UInt8 := s.toUTF8.data.toList

theorem bytesOf_append (s t : String) : bytesOf (s ++ t) = bytesOf s ++ bytesOf t := by
  simp [bytesOf, String.toByteArray_append, ByteArray.data_append]

/-- How far the delivery of a run has come. -/
structure Delivery (σ : Type) where
  state : σ
  accepted : Array UInt8
  hooks : Hooks
  error : Option (HostError Value)

namespace Delivery
variable {σ : Type}

def start (s : σ) (h : Hooks) : Delivery σ := ⟨s, #[], h, none⟩

def step (d : Device σ) (x : Delivery σ) (e : Entry HookEvent) : Delivery σ :=
  match x with
  | ⟨state, accepted, hooks, some error⟩ => ⟨state, accepted, hooks, some error⟩
  | ⟨state, accepted, hooks, none⟩ =>
    match e with
    | .mark m => ⟨state, accepted, hooks.apply m, none⟩
    | .text s =>
      let handed := d.writeAll (bytesOf s) state
      ⟨handed.state, accepted ++ handed.accepted, hooks, handed.error⟩

def run (d : Device σ) (s : σ) (h : Hooks) (t : Transcript HookEvent) : Delivery σ :=
  t.entries.foldl (step d) (start s h)

end Delivery

/-- How writing a report ended: with a flush, with the first error of the device, or broken off
because the report could not be formatted. -/
inductive Ending where
  | flushed (error : Option (HostError Value))
  | refused (error : HostError Value)
  | broken

namespace Ending

def brokenMessage : String :=
  "a formatting trait implementation returned an error when the underlying stream did not"

def error? : Ending → Option (HostError Value)
  | .flushed e => e
  | .refused e => some e
  | .broken => none

end Ending

/-- What came of writing a report to a device. -/
structure Written (σ : Type) where
  ending : Ending
  state : σ
  accepted : Array UInt8
  hooks : Hooks

def Transcript.deliver {σ : Type} (t : Transcript HookEvent) (d : Device σ) (s : σ) (h : Hooks) :
    Written σ :=
  let x := Delivery.run d s h t
  match x.error with
  | some e => ⟨.refused e, x.state, x.accepted, x.hooks⟩
  | none =>
    if t.ok then
      let (e, last) := d.flush x.state
      ⟨.flushed e, last, x.accepted, x.hooks⟩
    else ⟨.broken, x.state, x.accepted, x.hooks⟩

/-! ## What arrives -/

namespace Delivery
variable {σ : Type} (d : Device σ)

theorem foldl_step_of_error {x : Delivery σ} {e : HostError Value} (failed : x.error = some e)
    (es : List (Entry HookEvent)) : es.foldl (step d) x = x := by
  induction es with
  | nil => rfl
  | cons entry rest ih =>
    have hstep : step d x entry = x := by
      obtain ⟨state, accepted, hooks, error⟩ := x
      cases failed
      rfl
    rw [List.foldl_cons, hstep, ih]

/-- As long as the device does not fail it takes every byte, and in any case none out of turn. -/
theorem foldl_step_accepted {x : Delivery σ} (going : x.error = none)
    (es : List (Entry HookEvent)) :
    ∃ taken, (es.foldl (step d) x).accepted.toList = x.accepted.toList ++ taken ∧
      taken <+: bytesOf (String.join (es.map Entry.written)) ∧
      ((es.foldl (step d) x).error = none →
        taken = bytesOf (String.join (es.map Entry.written))) := by
  induction es generalizing x with
  | nil => exact ⟨[], by simp, List.nil_prefix, fun _ => rfl⟩
  | cons entry rest ih =>
    obtain ⟨state, accepted, hooks, error⟩ := x
    obtain rfl : error = none := going
    rw [List.foldl_cons, List.map_cons, String.join_cons, bytesOf_append]
    cases entry with
    | mark m => exact ih rfl
    | text s =>
      have hpart := Device.writeAll_accepted_prefix d (bytesOf s) state
      have hall := d.writeAll_accepted (bytesOf s) state
      simp only [step, Entry.written]
      generalize d.writeAll (bytesOf s) state = handed at hpart hall ⊢
      cases herror : handed.error with
      | none =>
        obtain ⟨taken, htaken, hbefore, hend⟩ :=
          ih (x := ⟨handed.state, accepted ++ handed.accepted, hooks, none⟩) rfl
        refine ⟨bytesOf s ++ taken, ?_, (List.prefix_append_right_inj _).mpr hbefore, ?_⟩
        · rw [htaken, hall herror]
          simp
        · intro h
          rw [hend h]
      | some e =>
        rw [foldl_step_of_error d rfl]
        refine ⟨handed.accepted, by simp, hpart.trans (List.prefix_append _ _), ?_⟩
        intro h
        cases h

theorem run_accepted (s : σ) (h : Hooks) (t : Transcript HookEvent) :
    (run d s h t).accepted.toList <+: bytesOf t.text ∧
      ((run d s h t).error = none → (run d s h t).accepted.toList = bytesOf t.text) := by
  obtain ⟨taken, htaken, hpart, hall⟩ :=
    foldl_step_accepted d (x := start s h) rfl t.entries.toList
  rw [← Transcript.text_eq_join] at hpart hall
  rw [run, ← Array.foldl_toList, htaken]
  exact ⟨hpart, hall⟩

/-- On a device that never fails for good, no delivery does. -/
theorem run_error {d : Device σ}
    (never : ∀ bytes s, (d.writeAll bytes s).error = none) (s : σ) (h : Hooks)
    (t : Transcript HookEvent) : (run d s h t).error = none := by
  have hstep : ∀ (x : Delivery σ) entry, x.error = none → (step d x entry).error = none := by
    rintro ⟨state, accepted, hooks, error⟩ entry going
    obtain rfl : error = none := going
    cases entry with
    | text s => exact never (bytesOf s) state
    | mark m => rfl
  refine Array.foldl_induction (fun _ (x : Delivery σ) => x.error = none) rfl ?_
  intro i x going
  exact hstep x _ going

end Delivery

namespace Transcript
variable {σ : Type} (t : Transcript HookEvent) (d : Device σ) (s : σ) (h : Hooks)

theorem deliver_of_error {e : HostError Value} (failed : (Delivery.run d s h t).error = some e) :
    t.deliver d s h = ⟨.refused e, (Delivery.run d s h t).state, (Delivery.run d s h t).accepted,
      (Delivery.run d s h t).hooks⟩ := by
  simp only [deliver, failed]

theorem deliver_of_ok (going : (Delivery.run d s h t).error = none) (ok : t.ok = true) :
    t.deliver d s h = ⟨.flushed (d.flush (Delivery.run d s h t).state).1,
      (d.flush (Delivery.run d s h t).state).2, (Delivery.run d s h t).accepted,
      (Delivery.run d s h t).hooks⟩ := by
  simp only [deliver, going, ok, if_true]

theorem deliver_of_not_ok (going : (Delivery.run d s h t).error = none) (failed : t.ok = false) :
    t.deliver d s h = ⟨.broken, (Delivery.run d s h t).state, (Delivery.run d s h t).accepted,
      (Delivery.run d s h t).hooks⟩ := by
  simp [deliver, going, failed]

theorem ending_of_not_ok (failed : t.ok = false) :
    (t.deliver d s h).ending = .broken ∨ ∃ e, (t.deliver d s h).ending = .refused e := by
  cases going : (Delivery.run d s h t).error with
  | none =>
    rw [deliver_of_not_ok t d s h going failed]
    exact .inl rfl
  | some e =>
    rw [deliver_of_error t d s h going]
    exact .inr ⟨e, rfl⟩

theorem accepted_isPrefix : (t.deliver d s h).accepted.toList <+: bytesOf t.text := by
  have hpart := (Delivery.run_accepted d s h t).1
  cases going : (Delivery.run d s h t).error with
  | some e => rwa [deliver_of_error t d s h going]
  | none =>
    cases ok : t.ok with
    | true => rwa [deliver_of_ok t d s h going ok]
    | false => rwa [deliver_of_not_ok t d s h going ok]

theorem accepted_of_flushed {e : Option (HostError Value)}
    (flushed : (t.deliver d s h).ending = .flushed e) :
    t.ok = true ∧ (t.deliver d s h).accepted.toList = bytesOf t.text := by
  cases going : (Delivery.run d s h t).error with
  | some e =>
    rw [deliver_of_error t d s h going] at flushed
    cases flushed
  | none =>
    cases ok : t.ok with
    | true =>
      rw [deliver_of_ok t d s h going ok]
      exact ⟨rfl, (Delivery.run_accepted d s h t).2 going⟩
    | false =>
      rw [deliver_of_not_ok t d s h going ok] at flushed
      cases flushed

theorem accepted_of_broken (broken : (t.deliver d s h).ending = .broken) :
    t.ok = false ∧ (t.deliver d s h).accepted.toList = bytesOf t.text := by
  cases going : (Delivery.run d s h t).error with
  | some e =>
    rw [deliver_of_error t d s h going] at broken
    cases broken
  | none =>
    cases ok : t.ok with
    | true =>
      rw [deliver_of_ok t d s h going ok] at broken
      cases broken
    | false =>
      rw [deliver_of_not_ok t d s h going ok]
      exact ⟨rfl, (Delivery.run_accepted d s h t).2 going⟩

end Transcript

def Report.deliver {σ : Type} (r : Report) (o : Options) (d : Device σ) (s : σ) (h : Hooks) :
    Written σ :=
  (r.render o h).deliver d s h

def longestText (bytes : ByteArray) : Nat → String
  | 0 => ""
  | n + 1 => (String.fromUTF8? (bytes.extract 0 (n + 1))).getD (longestText bytes n)

namespace Written
variable {σ : Type}

def text (w : Written σ) : String :=
  let bytes := ByteArray.mk w.accepted
  longestText bytes bytes.size

end Written

def fileDevice (full : Bool) : Bounded :=
  { limit := if full then some 0 else none
    refusal := .failing (.bare (.known .storageFull))
    interrupts := false }

/-- What printing a report left: what arrived, the state of the device, the hooks, and whether the
report was broken off. -/
structure Printed (σ : Type) where
  text : String
  state : σ
  hooks : Hooks
  broken : Bool

/-- Prints a report on a device. Errors of the device are nobody's concern, but a report that cannot
be formatted is broken off all the same. -/
def Report.print {σ : Type} (r : Report) (o : Options) (d : Device σ) (s : σ) (h : Hooks) :
    Printed σ :=
  let w := r.deliver o d s h
  { text := w.text
    state := w.state
    hooks := w.hooks
    broken := match w.ending with
      | .broken => true
      | _ => false }

/-! ## Sinks with little room -/

/-- What has happened of a run whose text goes to a sink, and the room that is left there. -/
structure Filling where
  entries : Array (Entry HookEvent) := #[]
  room : Nat
  ok : Bool := true

namespace Filling

def step (x : Filling) (e : Entry HookEvent) : Filling :=
  match x with
  | ⟨entries, room, ok⟩ =>
    if ok then
      match e with
      | .mark m => ⟨entries.push (.mark m), room, true⟩
      | .text s =>
        if s.length ≤ room then ⟨entries.push (.text s), room - s.length, true⟩
        else ⟨entries.push (.text (String.ofList (s.toList.take room))), 0, false⟩
    else ⟨entries, room, ok⟩

end Filling

/-- What happens of a run whose text goes to a sink that takes `limit` characters. -/
def Transcript.within (limit : Nat) (t : Transcript HookEvent) : Transcript HookEvent :=
  let x := t.entries.foldl Filling.step { room := limit }
  { entries := x.entries, ok := x.ok && t.ok }

end CauseChain
