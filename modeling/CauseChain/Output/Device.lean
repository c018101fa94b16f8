import CauseChain.Value.Display

/-!
# Output devices

A device is handed bytes and answers each time: it took some, it was interrupted and is to be
asked again, or it failed. It is not interrupted for ever when it is asked again with the same
bytes. `writeAll` hands over bytes until all are taken, and takes an answer that none were for a
failure.
-/

set_option autoImplicit false

namespace CauseChain

/-- How a device in some state answers when it is handed bytes. -/
inductive Answer (σ : Type) where
  | took (n : Nat) (next : σ)
  | interrupted (next : σ)
  | failed (e : HostError Value) (next : σ)

/-- Something that bytes can be written to, with states of type `σ`. -/
structure Device (σ : Type) where
  write : σ → List UInt8 → Answer σ
  flush : σ → Option (HostError Value) × σ
  patient : ∀ bytes, WellFounded fun next s => write s bytes = .interrupted next

/-- What came of handing bytes to a device. -/
structure Handed (σ : Type) where
  state : σ
  accepted : List UInt8
  error : Option (HostError Value)

/-- What is left to hand over gets shorter, or it stays the same and the device was interrupted. -/
theorem Device.handing_wf {σ : Type} (d : Device σ) :
    WellFounded fun y x : List UInt8 × σ => y.1.length < x.1.length ∨
      (y.1 = x.1 ∧ d.write x.2 x.1 = .interrupted y.2) := by
  have hacc : ∀ n bytes, bytes.length = n → ∀ s, Acc (fun y x : List UInt8 × σ =>
      y.1.length < x.1.length ∨ (y.1 = x.1 ∧ d.write x.2 x.1 = .interrupted y.2)) (bytes, s) := by
    intro n
    induction n using Nat.strongRecOn with
    | ind n shorter =>
      intro bytes hlength s
      induction (d.patient bytes).apply s with
      | intro s _ retried =>
        constructor
        rintro ⟨left, next⟩ (hless | ⟨rfl, hinterrupted⟩)
        · exact shorter left.length (hlength ▸ hless) left rfl next
        · exact retried next hinterrupted
  exact ⟨fun x => hacc x.1.length x.1 rfl x.2⟩

/-- Hands bytes to a device until it has taken them all or fails. -/
def Device.writeAll {σ : Type} (d : Device σ) (bytes : List UInt8) (s : σ) : Handed σ :=
  if bytes = [] then ⟨s, [], none⟩
  else
    match h : d.write s bytes with
    | .took 0 next => ⟨next, [], some HostError.nothingTaken⟩
    | .took (n + 1) next =>
      let rest := d.writeAll (bytes.drop (n + 1)) next
      { rest with accepted := bytes.take (n + 1) ++ rest.accepted }
    | .interrupted next => d.writeAll bytes next
    | .failed e next => ⟨next, [], some e⟩
termination_by d.handing_wf.wrap (bytes, s)
decreasing_by
  · rename_i hne
    have hpos : 0 < bytes.length := List.length_pos_iff.mpr hne
    left
    simp only [WellFounded.val_wrap, List.length_drop]
    omega
  · exact .inr ⟨rfl, h⟩

/-! ## One answer after the other -/

namespace Device
variable {σ : Type} (d : Device σ) {bytes : List UInt8} {s next : σ}

theorem writeAll_nil (s : σ) : d.writeAll [] s = ⟨s, [], none⟩ := by
  rw [writeAll, if_pos rfl]

theorem writeAll_of_took_none (nonempty : bytes ≠ []) (hwrite : d.write s bytes = .took 0 next) :
    d.writeAll bytes s = ⟨next, [], some HostError.nothingTaken⟩ := by
  rw [writeAll, if_neg nonempty]
  split <;> simp_all

theorem writeAll_of_took {n : Nat} (nonempty : bytes ≠ [])
    (hwrite : d.write s bytes = .took (n + 1) next) :
    d.writeAll bytes s =
      { d.writeAll (bytes.drop (n + 1)) next with
        accepted := bytes.take (n + 1) ++ (d.writeAll (bytes.drop (n + 1)) next).accepted } := by
  rw [writeAll, if_neg nonempty]
  split <;> simp_all

theorem writeAll_of_interrupted (nonempty : bytes ≠ [])
    (hwrite : d.write s bytes = .interrupted next) :
    d.writeAll bytes s = d.writeAll bytes next := by
  rw [writeAll, if_neg nonempty]
  split <;> simp_all

theorem writeAll_of_failed {e : HostError Value} (nonempty : bytes ≠ [])
    (hwrite : d.write s bytes = .failed e next) : d.writeAll bytes s = ⟨next, [], some e⟩ := by
  rw [writeAll, if_neg nonempty]
  split <;> simp_all

end Device

/-! ## What is taken of the bytes handed over -/

theorem Device.writeAll_accepted_prefix {σ : Type} (d : Device σ) (bytes : List UInt8) (s : σ) :
    (d.writeAll bytes s).accepted <+: bytes := by
  fun_induction Device.writeAll d bytes s with
  | case1 s => exact List.prefix_refl _
  | case2 bytes s hne next h => exact List.nil_prefix
  | case3 bytes s hne n next h rest ih =>
    obtain ⟨tail, htail⟩ := ih
    refine ⟨tail, ?_⟩
    simp only [rest] at *
    rw [List.append_assoc, htail, List.take_append_drop]
  | case4 bytes s hne next h ih => exact ih
  | case5 bytes s hne e next h => exact List.nil_prefix

theorem Device.writeAll_accepted {σ : Type} (d : Device σ) (bytes : List UInt8) (s : σ)
    (h : (d.writeAll bytes s).error = none) : (d.writeAll bytes s).accepted = bytes := by
  fun_induction Device.writeAll d bytes s with
  | case1 s => rfl
  | case2 bytes s hne next hw => simp at h
  | case3 bytes s hne n next hw rest ih =>
    simp only [rest] at *
    rw [ih h, List.take_append_drop]
  | case4 bytes s hne next hw ih => exact ih h
  | case5 bytes s hne e next hw => simp at h

/-! ## Bounded devices -/

/-- What becomes of the bytes that a bounded device has no room for: it fails, it takes none of
them, or it has room for all and fails only when it is flushed. -/
inductive Refusal where
  | failing (e : HostError Value)
  | silent
  | onFlush (e : HostError Value)

/-- A device with room for a number of bytes, if it is bounded at all; it may be interrupted at
every other call, the first one included. -/
structure Bounded where
  limit : Option Nat
  refusal : Refusal
  interrupts : Bool

/-- What a bounded device has taken so far, and whether its next call is interrupted. -/
structure BoundedState where
  taken : Nat
  interruptNext : Bool

namespace Bounded

def start (b : Bounded) : BoundedState := ⟨0, b.interrupts⟩

/-- How many of `length` bytes there is room for. -/
def room (b : Bounded) (taken length : Nat) : Nat :=
  match b.refusal, b.limit with
  | .onFlush _, _ => length
  | _, none => length
  | _, some limit => min (limit - taken) length

def write (b : Bounded) (s : BoundedState) (bytes : List UInt8) : Answer BoundedState :=
  if s.interruptNext then .interrupted { s with interruptNext := false }
  else
    let n := b.room s.taken bytes.length
    let next := ⟨s.taken + n, b.interrupts⟩
    match n, b.refusal with
    | 0, .failing e => .failed e next
    | _, _ => .took n next

def device (b : Bounded) : Device BoundedState where
  write := b.write
  flush s :=
    match b.refusal with
    | .onFlush e => (some e, s)
    | _ => (none, s)
  patient bytes := by
    -- an interruption is never followed by another
    apply Subrelation.wf (r := InvImage (· < ·) fun s : BoundedState => s.interruptNext.toNat)
    · intro next s h
      change next.interruptNext.toNat < s.interruptNext.toNat
      by_cases hi : s.interruptNext = true
      · rw [write, if_pos hi, Answer.interrupted.injEq] at h
        subst h
        rw [hi]
        exact Nat.zero_lt_one
      · exfalso
        rw [write, if_neg hi] at h
        revert h
        dsimp only
        split <;> simp
    · exact InvImage.wf _ Nat.lt_wfRel.wf

/-- A device without a bound never fails for good. -/
theorem error_writeAll {b : Bounded} (unbounded : b.limit = none) (bytes : List UInt8)
    (s : BoundedState) : (b.device.writeAll bytes s).error = none := by
  have hroom : ∀ taken length, b.room taken length = length := by
    intro taken length
    rw [room, unbounded]
    cases b.refusal <;> rfl
  have htakes : ∀ s bytes next e, bytes ≠ [] →
      b.write s bytes ≠ .took 0 next ∧ b.write s bytes ≠ .failed e next := by
    intro s bytes next e hne
    have hlength : bytes.length ≠ 0 := by simpa using hne
    rw [write]
    split
    · simp
    · dsimp only
      rw [hroom]
      split <;> simp_all
  fun_induction Device.writeAll b.device bytes s with
  | case1 s => rfl
  | case2 bytes s hne next hwrite =>
    exact absurd hwrite (htakes s bytes next HostError.nothingTaken hne).1
  | case3 bytes s hne n next hwrite rest ih => exact ih
  | case4 bytes s hne next hwrite ih => exact ih
  | case5 bytes s hne e next hwrite => exact absurd hwrite (htakes s bytes next e hne).2

end Bounded

end CauseChain
