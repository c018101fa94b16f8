import CauseChain.Proofs.Settling

/-!
# Errors that come back from the host

An error that is handed to the host and taken back keeps its kind and its code, but for two kinds that
the host has no name for. Its text comes back as it went, unless it has a payload: such an error goes
out whole and comes back as a message, so that one more heading stands before its text.
-/

set_option autoImplicit false

namespace CauseChain

/-- The host has a name for the kind. -/
def Kind.KnownToHost (k : Kind) : Prop := k ≠ .filesystemLoop ∧ k ≠ .inProgress

theorem Kind.KnownToHost.toHost_portable {k : Kind} (h : k.KnownToHost) : k.toHost.portable = k := by
  cases k with
  | filesystemLoop => exact absurd rfl h.1
  | inProgress => exact absurd rfl h.2
  | _ => rfl

theorem Value.display_io {ε : Type} (e : IoError Value) (spec : Spec) :
    ((Value.io e).display spec : Transcript ε) = (Value.io e).display .plain := by
  cases e <;> rfl

namespace IoError

/-- What stands before the text of an error when it has come back from the host. -/
def headingOnReturn (e : IoError Value) : String :=
  match e.payload? with
  | none => ""
  | some _ => "I/O error (" ++ e.kind.text ++ "): "

theorem text?_described (k : Kind) (m : String) :
    (Value.io (.described k m)).text? = some ("I/O error (" ++ k.text ++ "): " ++ m) := by
  refine Transcript.text?_eq_some_iff.mpr ⟨rfl, ?_⟩
  change (Transcript.ofTexts ["I/O error (", k.text, "): ", m]).text = _
  rw [Transcript.text_ofTexts]
  simp [String.append_assoc]

theorem toIo?_toHost_of_no_payload {e : IoError Value} (known : e.kind.KnownToHost)
    (empty : e.payload? = none) : e.toHost.toIo? = some e := by
  cases e with
  | system c => rfl
  | bare k => exact congrArg (some ∘ IoError.bare) known.toHost_portable
  | described k m =>
    have hkind : k.toHost.portable = k := known.toHost_portable
    change (Value.string m).text?.map (described k.toHost.portable) = _
    rw [Value.text?_string, hkind]
    rfl
  | rich k p => cases empty

theorem toIo?_toHost_of_rich {k : Kind} {p : Value} {m : String} (known : k.KnownToHost)
    (text : (Value.io (.rich k p)).text? = some m) :
    (rich k p).toHost.toIo? = some (.described k m) := by
  change (Value.io (.rich k p)).text?.map (described k.toHost.portable) = _
  rw [text, known.toHost_portable]
  rfl

theorem exists_text? {e : IoError Value}
    (shown : ∀ p ∈ e.payload?, (p.display .plain : Writing).ok = true) :
    ∃ m, (Value.io e).text? = some m := by
  cases e with
  | rich k p => exact Option.isSome_iff_exists.mp (Held.isSome_text?_io k (shown p rfl))
  | _ => exact ⟨_, rfl⟩

/-- An error that has been to the host, if the host has a name for its kind and its payload can be
shown: its kind and its code are the same, and so is its text, whatever the specification; but an error
with a payload is shown as a message under its heading once more. -/
theorem comes_back_shown (e : IoError Value) (known : e.kind.KnownToHost)
    (shown : ∀ p ∈ e.payload?, (p.display .plain : Writing).ok = true) :
    ∃ E, e.toHost.toIo? = some E ∧ E.kind = e.kind ∧ E.code? = e.code? ∧
      ∃ m, ∀ spec, ((Value.io e).display spec : Writing).text? = some m ∧
        ((Value.io E).display spec : Writing).text? = some (e.headingOnReturn ++ m) := by
  obtain ⟨m, hm⟩ := exists_text? shown
  cases e with
  | rich k p =>
    refine ⟨.described k m, toIo?_toHost_of_rich known hm, rfl, rfl, m, fun spec => ?_⟩
    rw [Value.display_io, Value.display_io]
    exact ⟨hm, text?_described k m⟩
  | _ =>
    refine ⟨_, toIo?_toHost_of_no_payload known rfl, rfl, rfl, m, fun spec => ?_⟩
    rw [Value.display_io]
    exact ⟨hm, hm.trans (congrArg some String.empty_append.symm)⟩

theorem comes_back_shown_nested :
    let e : IoError Value := .rich .deadlock (.io (.rich .timedOut (.integer .u8 7)))
    e.kind.KnownToHost ∧ (∀ p ∈ e.payload?, (p.display .plain : Writing).ok = true) ∧
      ∃ E, e.toHost.toIo? = some E ∧ E.kind = .deadlock ∧ E.code? = none ∧
        (Value.io E).text? =
          some "I/O error (deadlock): I/O error (deadlock): I/O error (timed out): 7" := by
  intro e
  have known : e.kind.KnownToHost := ⟨by decide, by decide⟩
  have shown : ∀ p ∈ e.payload?, (p.display .plain : Writing).ok = true := by
    rintro p ⟨⟩
    rfl
  have hm : (Value.io e).text? = some "I/O error (deadlock): I/O error (timed out): 7" := by rfl
  obtain ⟨E, hback, hkind, hcode, m, htext⟩ := comes_back_shown e known shown
  obtain ⟨hsent, hreturned⟩ := htext .plain
  obtain rfl : m = _ := Option.some.inj (hsent.symm.trans hm)
  exact ⟨known, shown, E, hback, hkind, hcode, hreturned⟩

/-- The text of an error with a payload is not the same on its return. -/
theorem not_comes_back_alike :
    ¬ ∀ e : IoError Value, e.kind.KnownToHost →
      (∀ p ∈ e.payload?, (p.display .plain : Writing).ok = true) →
        ∃ E, e.toHost.toIo? = some E ∧ E.kind = e.kind ∧ E.code? = e.code? ∧
          (Value.io E).text? = (Value.io e).text? := by
  intro alike
  let e : IoError Value := .rich .invalidData (.string "bad sector")
  have known : e.kind.KnownToHost := ⟨by decide, by decide⟩
  have shown : ∀ p ∈ e.payload?, (p.display .plain : Writing).ok = true := by
    rintro p ⟨⟩
    rfl
  obtain ⟨E, hback, -, -, htext⟩ := alike e known shown
  have hm : (Value.io e).text? = some "I/O error (invalid data): bad sector" := by rfl
  have hthere : e.toHost.toIo? = some (.described .invalidData "I/O error (invalid data): bad sector") :=
    toIo?_toHost_of_rich known hm
  obtain rfl : _ = E := Option.some.inj (hthere.symm.trans hback)
  rw [text?_described, hm] at htext
  exact absurd (Option.some.inj htext) (by decide)

end IoError

end CauseChain
