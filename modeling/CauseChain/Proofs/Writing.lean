import CauseChain.Proofs.Failure

/-!
# Calls on a device

A device that is watched answers as it would otherwise, and every call on it is recorded with its
answer. What a report written to it has led to can be read off the record: the bytes that were
taken, the call at which the device failed for good if there was one, and whether it was flushed.
-/

set_option autoImplicit false

namespace CauseChain

/-! ## Records of calls -/

def Answer.map {σ τ : Type} (f : σ → τ) : Answer σ → Answer τ
  | .took n next => .took n (f next)
  | .interrupted next => .interrupted (f next)
  | .failed e next => .failed e (f next)

inductive Call where
  | write (bytes : List UInt8) (answer : Answer Unit)
  | flush (error : Option (HostError Value))

namespace Call

def accepted : Call → List UInt8
  | .write bytes (.took n _) => bytes.take n
  | _ => []

/-- A write after which the device is asked again or handed more. -/
def GoesOn : Call → Prop
  | .write _ (.took n _) => 0 < n
  | .write _ (.interrupted _) => True
  | _ => False

/-- The error that a write ends with for good. -/
def failure? : Call → Option (HostError Value)
  | .write _ (.took 0 _) => some HostError.nothingTaken
  | .write _ (.failed e _) => some e
  | _ => none

end Call

/-- The device with a record of the calls on it, the latest at the end. -/
def Device.watched {σ : Type} (d : Device σ) : Device (σ × List Call) where
  write s bytes :=
    let answer := d.write s.1 bytes
    answer.map fun next => (next, s.2 ++ [.write bytes (answer.map fun _ => ())])
  flush s :=
    let (e, next) := d.flush s.1
    (e, (next, s.2 ++ [.flush e]))
  patient bytes := by
    have hwf := InvImage.wf (fun s : σ × List Call => s.1) (d.patient bytes)
    refine Subrelation.wf (fun {next s} hwrite => ?_) hwf
    change d.write s.1 bytes = .interrupted next.1
    cases hanswer : d.write s.1 bytes <;> simp [hanswer, Answer.map] at hwrite
    rw [← hwrite]

/-- Writes that come to an end, or to an error: each goes on but the one that fails, and that is the
last. -/
def Stops (calls : List Call) : Option (HostError Value) → Prop
  | none => ∀ c ∈ calls, c.GoesOn
  | some e => ∃ before last, calls = before ++ [last] ∧ (∀ c ∈ before, c.GoesOn) ∧
      last.failure? = some e

/-- Calls that account for bytes that were taken and for an error. -/
structure Records (calls : List Call) (accepted : List UInt8) (error : Option (HostError Value)) :
    Prop where
  accepted : calls.flatMap Call.accepted = accepted
  stops : Stops calls error

namespace Records
variable {calls later : List Call} {accepted more : List UInt8} {error : Option (HostError Value)}

theorem nil : Records [] [] none := ⟨rfl, List.forall_mem_nil Call.GoesOn⟩

theorem append (hcalls : Records calls accepted none) (hlater : Records later more error) :
    Records (calls ++ later) (accepted ++ more) error := by
  obtain ⟨haccepted, hgoes⟩ := hcalls
  obtain ⟨hmore, hstops⟩ := hlater
  refine ⟨by rw [List.flatMap_append, haccepted, hmore], ?_⟩
  cases error with
  | none => exact List.forall_mem_append.mpr ⟨hgoes, hstops⟩
  | some e =>
    obtain ⟨before, last, rfl, hbefore, hlast⟩ := hstops
    refine ⟨calls ++ before, last, (List.append_assoc _ _ _).symm, ?_, hlast⟩
    exact List.forall_mem_append.mpr ⟨hgoes, hbefore⟩

theorem of_goesOn {c : Call} (hc : c.GoesOn) : Records [c] c.accepted none :=
  ⟨List.flatMap_singleton _ _, List.forall_mem_singleton.mpr hc⟩

theorem of_failure {c : Call} {e : HostError Value} (hc : c.failure? = some e)
    (none_taken : c.accepted = []) : Records [c] [] (some e) :=
  ⟨by rw [List.flatMap_singleton, none_taken], [], c, rfl, List.forall_mem_nil Call.GoesOn, hc⟩

end Records

/-! ## Writing to a watched device -/

section Watched
variable {σ : Type} (d : Device σ)

theorem Device.write_watched (s : σ) (log : List Call) (bytes : List UInt8) :
    d.watched.write (s, log) bytes = (d.write s bytes).map fun next =>
      (next, log ++ [.write bytes ((d.write s bytes).map fun _ => ())]) := rfl

theorem Device.writeAll_watched (bytes : List UInt8) (s : σ) (log : List Call) :
    ∃ calls, d.watched.writeAll bytes (s, log) =
        ⟨((d.writeAll bytes s).state, log ++ calls), (d.writeAll bytes s).accepted,
          (d.writeAll bytes s).error⟩ ∧
      Records calls (d.writeAll bytes s).accepted (d.writeAll bytes s).error := by
  fun_induction Device.writeAll d bytes s generalizing log with
  | case1 s =>
    refine ⟨[], ?_, .nil⟩
    rw [writeAll_nil, List.append_nil]
  | case2 bytes s hne next hwrite =>
    have hwatched : d.watched.write (s, log) bytes =
        .took 0 (next, log ++ [.write bytes (.took 0 ())]) := by
      rw [write_watched, hwrite]
      rfl
    refine ⟨[.write bytes (.took 0 ())], ?_, .of_failure rfl rfl⟩
    rw [d.watched.writeAll_of_took_none hne hwatched]
  | case3 bytes s hne n next hwrite rest ih =>
    have hwatched : d.watched.write (s, log) bytes =
        .took (n + 1) (next, log ++ [.write bytes (.took (n + 1) ())]) := by
      rw [write_watched, hwrite]
      rfl
    obtain ⟨calls, hrest, hcalls⟩ := ih (log ++ [.write bytes (.took (n + 1) ())])
    have hfirst : Records [.write bytes (.took (n + 1) ())] (bytes.take (n + 1)) none :=
      .of_goesOn n.succ_pos
    refine ⟨_ :: calls, ?_, hfirst.append hcalls⟩
    rw [d.watched.writeAll_of_took hne hwatched, hrest]
    simp [rest]
  | case4 bytes s hne next hwrite ih =>
    have hwatched : d.watched.write (s, log) bytes =
        .interrupted (next, log ++ [.write bytes (.interrupted ())]) := by
      rw [write_watched, hwrite]
      rfl
    obtain ⟨calls, hrest, hcalls⟩ := ih (log ++ [.write bytes (.interrupted ())])
    have hfirst : Records [.write bytes (.interrupted ())] [] none := .of_goesOn trivial
    refine ⟨_ :: calls, ?_, hfirst.append hcalls⟩
    rw [d.watched.writeAll_of_interrupted hne hwatched, hrest, List.append_assoc]
    rfl
  | case5 bytes s hne e next hwrite =>
    have hwatched : d.watched.write (s, log) bytes =
        .failed e (next, log ++ [.write bytes (.failed e ())]) := by
      rw [write_watched, hwrite]
      rfl
    refine ⟨[.write bytes (.failed e ())], ?_, .of_failure rfl rfl⟩
    rw [d.watched.writeAll_of_failed hne hwatched]

/-- A delivery that has come as far, with a record of the calls up to there. -/
def Delivery.recorded (x : Delivery σ) (log : List Call) : Delivery (σ × List Call) :=
  ⟨(x.state, log), x.accepted, x.hooks, x.error⟩

theorem Delivery.foldl_step_watched {x : Delivery σ} (going : x.error = none) (log : List Call)
    (es : List (Entry HookEvent)) :
    ∃ calls taken, es.foldl (step d.watched) (x.recorded log) =
        (es.foldl (step d) x).recorded (log ++ calls) ∧
      (es.foldl (step d) x).accepted.toList = x.accepted.toList ++ taken ∧
      Records calls taken (es.foldl (step d) x).error := by
  induction es generalizing x log with
  | nil =>
    refine ⟨[], [], ?_, (List.append_nil _).symm, ?_⟩
    · rw [List.append_nil]
      rfl
    · rw [List.foldl_nil, going]
      exact .nil
  | cons entry rest ih =>
    obtain ⟨state, accepted, hooks, error⟩ := x
    obtain rfl : error = none := going
    cases entry with
    | mark m => exact ih (x := ⟨state, accepted, hooks.apply m, none⟩) rfl log
    | text s =>
      obtain ⟨calls, hwatched, hcalls⟩ := d.writeAll_watched (bytesOf s) state log
      simp only [List.foldl_cons, step, recorded, hwatched]
      generalize d.writeAll (bytesOf s) state = handed at hcalls ⊢
      cases herror : handed.error with
      | none =>
        rw [herror] at hcalls
        obtain ⟨later, taken, hfold, htaken, hlater⟩ :=
          ih (x := ⟨handed.state, accepted ++ handed.accepted, hooks, none⟩) rfl (log ++ calls)
        refine ⟨calls ++ later, handed.accepted ++ taken, ?_, ?_, hcalls.append hlater⟩
        · rw [← List.append_assoc]
          exact hfold
        · rw [htaken]
          simp
      | some e =>
        rw [herror] at hcalls
        rw [foldl_step_of_error d.watched rfl, foldl_step_of_error d rfl]
        exact ⟨calls, handed.accepted, rfl, by simp, hcalls⟩

theorem Delivery.run_watched (s : σ) (h : Hooks) (t : Transcript HookEvent) :
    ∃ calls, run d.watched (s, []) h t = (run d s h t).recorded calls ∧
      Records calls (run d s h t).accepted.toList (run d s h t).error := by
  obtain ⟨calls, taken, hfold, htaken, hcalls⟩ :=
    foldl_step_watched d (x := start s h) rfl [] t.entries.toList
  obtain rfl : _ = taken := htaken
  rw [run, run, ← Array.foldl_toList, ← Array.foldl_toList]
  exact ⟨calls, hfold, hcalls⟩

end Watched

/-- What the end of a writing says of the calls on the device: after writes that went on there is
one flush and its result, or a write that failed for good and its error, or nothing. -/
def Ending.Follows : Ending → List Call → Prop
  | .flushed e, calls => ∃ writes, calls = writes ++ [.flush e] ∧ ∀ c ∈ writes, c.GoesOn
  | .refused e, calls => Stops calls (some e)
  | .broken, calls => ∀ c ∈ calls, c.GoesOn

theorem Transcript.deliver_watched {σ : Type} (t : Transcript HookEvent) (d : Device σ) (s : σ)
    (h : Hooks) :
    ∃ calls, t.deliver d.watched (s, []) h =
        ⟨(t.deliver d s h).ending, ((t.deliver d s h).state, calls), (t.deliver d s h).accepted,
          (t.deliver d s h).hooks⟩ ∧
      (t.deliver d s h).accepted.toList = calls.flatMap Call.accepted ∧
      (t.deliver d s h).ending.Follows calls := by
  obtain ⟨calls, hrun, haccepted, hstops⟩ := Delivery.run_watched d s h t
  have herror : (Delivery.run d.watched (s, []) h t).error = (Delivery.run d s h t).error := by
    rw [hrun]
    rfl
  cases going : (Delivery.run d s h t).error with
  | some e =>
    rw [going] at herror hstops
    rw [deliver_of_error t d s h going, deliver_of_error t d.watched _ h herror, hrun]
    exact ⟨calls, rfl, haccepted.symm, hstops⟩
  | none =>
    rw [going] at herror hstops
    cases ok : t.ok with
    | false =>
      rw [deliver_of_not_ok t d s h going ok, deliver_of_not_ok t d.watched _ h herror ok, hrun]
      exact ⟨calls, rfl, haccepted.symm, hstops⟩
    | true =>
      rw [deliver_of_ok t d s h going ok, deliver_of_ok t d.watched _ h herror ok, hrun]
      refine ⟨calls ++ [.flush (d.flush (Delivery.run d s h t).state).1], rfl, ?_, calls, rfl, hstops⟩
      rw [List.flatMap_append, haccepted, List.flatMap_singleton]
      exact (List.append_nil _).symm

/-- A report is written in one of three ways. If every frame can be displayed and no write fails for
good, all bytes of the rendering are taken, then the device is flushed, once, and how this went is
the result. If a write fails for good, its error is the result, what was taken before is the
beginning of the rendering, and there is no other call. If a frame cannot be displayed and the
device has not failed before, the writing is broken off with all taken up to the failing display. -/
theorem Report.written_in_calls {σ : Type} (r : Report) (o : Options) (d : Device σ) (s : σ)
    {l : Layout} {h : Hooks} (inForce : h.formatter = .layout l) :
    let w := r.deliver o d s h
    let turns := Rendering.each (r.frames.reverse.map fun f => f.display .plain) h
    ∃ calls,
      r.deliver o d.watched (s, []) h = ⟨w.ending, (w.state, calls), w.accepted, w.hooks⟩ ∧
      w.accepted.toList = calls.flatMap Call.accepted ∧
      w.ending.Follows calls ∧
      match w.ending with
      | .flushed _ => (∀ turn ∈ turns, turn.ok = true) ∧
          w.accepted.toList = bytesOf (r.render o h).text
      | .refused _ => w.accepted.toList <+: bytesOf (r.render o h).text
      | .broken => ∃ done p, turns = done ++ [⟨p, false⟩] ∧
          w.accepted.toList = bytesOf (l.upTo o r.frames.reverse done p) := by
  intro w turns
  have hcut : ((r.render o).captured h).CutOff turns (l.upTo o r.frames.reverse) :=
    r.cutOff_formatted inForce o .plain
  obtain ⟨calls, hwatched, haccepted, hfollows⟩ := (r.render o h).deliver_watched d s h
  refine ⟨calls, hwatched, haccepted, hfollows, ?_⟩
  cases hending : w.ending with
  | flushed e =>
    obtain ⟨ok, hall⟩ := (r.render o h).accepted_of_flushed d s h hending
    refine ⟨fun turn hturn => ?_, hall⟩
    cases hturned : turn.ok with
    | true => rfl
    | false =>
      have failed : (r.render o h).ok = false := hcut.fails.mpr ⟨turn, hturn, hturned⟩
      rw [ok] at failed
      cases failed
  | refused e => exact (r.render o h).accepted_isPrefix d s h
  | broken =>
    obtain ⟨failed, hall⟩ := (r.render o h).accepted_of_broken d s h hending
    obtain ⟨turn, hturn, failing⟩ := hcut.fails.mp failed
    rcases Rendering.each_cases (r.frames.reverse.map fun f => f.display .plain) h with
      hok | ⟨done, p, hturns⟩
    · rw [hok turn hturn] at failing
      cases failing
    · have htext := hcut.text done p hturns
      exact ⟨done, p, hturns, hall.trans (congrArg bytesOf htext)⟩

/-- A device that is interrupted at every other call is handed all there is before a failing
display, and is not flushed. -/
theorem Report.written_in_calls_interrupted :
    let site : Location := ⟨"main.rs", 3, 5⟩
    let failing : Frame :=
      ⟨.value (.foreign (.steady .shown "T" "" (.ofText "b" ++ .failure) (.atom ""))), .display,
        site⟩
    let r : Report := ⟨[failing, ⟨.value (.string "a"), .display, site⟩]⟩
    let b : Bounded := { limit := none, refusal := .silent, interrupts := true }
    let w := r.deliver .plain b.device b.start .none
    Hooks.none.formatter = .layout .standard ∧ w.ending = .broken ∧
      w.accepted.toList = bytesOf
        ("━━━━━━━━━━━━━━━━━━━━━━━━━━━━━━━━━━━━ Error: ━━━━━━━━━━━━━━━━━━━━━━━━━━━━━━━━━━━━\n" ++
          "a [main.rs:3:5]\n    ~> #0: b") ∧
      ∃ calls,
        r.deliver .plain b.device.watched (b.start, []) .none =
          ⟨.broken, (w.state, calls), w.accepted, w.hooks⟩ ∧
        w.accepted.toList = calls.flatMap Call.accepted ∧ ∀ c ∈ calls, c.GoesOn := by
  intro site failing r b w
  have hw : r.deliver .plain b.device b.start .none = w := rfl
  clear_value w
  have inForce : Hooks.none.formatter = .layout .standard := rfl
  have going := Delivery.run_error (Bounded.error_writeAll (b := b) rfl) b.start .none
    (r.render .plain .none)
  have failed : (r.render .plain .none).ok = false := by decide +kernel
  have hending : w.ending = .broken := by
    rw [← hw, Report.deliver, Transcript.deliver_of_not_ok _ _ _ _ going failed]
  have hwritten := r.written_in_calls .plain b.device b.start inForce
  dsimp only at hwritten
  rw [hw, hending] at hwritten
  obtain ⟨calls, hwatched, haccepted, hgoes, done, p, hturns, hall⟩ := hwritten
  have hfound : Rendering.each (r.frames.reverse.map fun f => f.display .plain) .none =
      [⟨"a", true⟩] ++ [⟨"b", false⟩] := by decide +kernel
  obtain ⟨rfl, hlast⟩ := List.append_inj' (hturns.symm.trans hfound) rfl
  obtain ⟨rfl⟩ := hlast
  refine ⟨inForce, hending, hall.trans (congrArg bytesOf ?_), calls, hwatched, haccepted, hgoes⟩
  decide +kernel

end CauseChain
