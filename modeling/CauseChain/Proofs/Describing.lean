import CauseChain.Io.WindowsCode

/-!
# A description is the message of the host

The host puts a code in parentheses behind its message. Whatever the message is, the last parenthesis
that is opened in this way is the host's own: an opening does not overlap with itself, and no numeral
has a parenthesis.
-/

set_option autoImplicit false

namespace CauseChain.WindowsCode

/-- A code in the upper half of the range is read as a negative number. -/
theorem signed_eq (c : WindowsCode) :
    c.signed = if 2 * c.raw.toNat < UInt32.size then (c.raw.toNat : Int)
      else c.raw.toNat - UInt32.size := by
  have hbits : c.signed = c.raw.toBitVec.toInt := rfl
  rw [hbits, BitVec.toInt_eq_toNat_cond]
  rfl

theorem parenthesis_not_mem_toString (n : Int) : '(' ∉ (toString n).toList := by
  have hdigits : ∀ m : Nat, '(' ∉ m.repr.toList := by
    intro m hmem
    rw [Nat.toList_repr] at hmem
    exact absurd (Nat.isDigit_of_mem_toDigits (by omega) (by omega) hmem) (by decide)
  cases n with
  | ofNat m => exact hdigits m
  | negSucc m =>
    have hminus : toString (Int.negSucc m) = "-" ++ m.succ.repr := rfl
    rw [hminus, String.toList_append, List.mem_append, not_or]
    exact ⟨by decide, hdigits m.succ⟩

theorem opening_eq : opening = ' ' :: '(' :: "os error ".toList := by decide

/-- An opening that starts within another one would have its parenthesis further on. -/
theorem not_opening {cs : List Char} (absent : '(' ∉ cs) : ¬ opening <:+: '(' :: cs := by
  rw [opening_eq]
  intro hin
  rcases List.infix_cons_iff.mp hin with hfront | hlater
  · exact absurd (List.cons_prefix_cons.mp hfront).1 (by decide)
  · exact absent (hlater.subset (by simp))

theorem beforeLast?_opening {after : List Char} (absent : '(' ∉ after) (before : List Char) :
    beforeLast? opening (before ++ (opening ++ after)) = some before := by
  have hlast : ¬ opening <:+: '(' :: "os error ".toList ++ after := by
    rw [List.cons_append]
    refine not_opening fun hmem => ?_
    rcases List.mem_append.mp hmem with hmem | hmem
    · exact absurd hmem (by decide)
    · exact absent hmem
  rw [opening_eq] at hlast ⊢
  exact beforeLast?_append hlast before

/-- The text of a host for an error: what it has to say of it, and the number in parentheses. -/
def rendered (text : String) (n : Int) : String := text ++ " (os error " ++ toString n ++ ")"

theorem message_rendered (text : String) (n : Int) : message (rendered text n) = text := by
  have hrendered : (rendered text n).toList =
      text.toList ++ (opening ++ (toString n ++ ")").toList) := by
    rw [rendered, String.append_assoc, String.append_assoc, String.toList_append,
      String.toList_append]
    rfl
  have habsent : '(' ∉ (toString n ++ ")").toList := by
    rw [String.toList_append, List.mem_append, not_or]
    exact ⟨parenthesis_not_mem_toString n, by decide⟩
  rw [message, hrendered, beforeLast?_opening habsent]
  exact String.ofList_toList

/-- Describing inverts what the host does, for every code and whatever the host says of it: if the text
of the host for a code is a message and the code in parentheses, read as a signed number, then the
description is that message, also where the message itself has such parentheses. -/
theorem describe_inverts_host (host : Int → String) (c : WindowsCode) (text : String)
    (rendering : host c.signed = text ++ " (os error " ++ toString c.signed ++ ")") :
    (c.signed = if 2 * c.raw.toNat < UInt32.size then (c.raw.toNat : Int)
      else c.raw.toNat - UInt32.size) ∧
    c.describe host = text := by
  refine ⟨c.signed_eq, ?_⟩
  rw [describe, rendering]
  exact message_rendered text c.signed

theorem describe_inverts_host_twice :
    let c : WindowsCode := ⟨4294967295⟩
    let text := "gone (os error -1) (os error "
    let host : Int → String := fun n => text ++ " (os error " ++ toString n ++ ")"
    host c.signed = "gone (os error -1) (os error  (os error -1)" ∧
      host c.signed = text ++ " (os error " ++ toString c.signed ++ ")" ∧
      c.describe host = "gone (os error -1) (os error " := by
  intro c text host
  exact ⟨by decide, rfl, (describe_inverts_host host c text rfl).2⟩

end CauseChain.WindowsCode
