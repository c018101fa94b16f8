import CauseChain.Proofs.Detection

/-!
# Depths demanded by numerals

A numeral that can be read in 32 bits demands its number, and three at most. So larger numbers demand
no less, up to the largest one that can be read; beyond it a numeral counts as any other text.
-/

set_option autoImplicit false

namespace CauseChain

namespace Numeral

/-- A text writes a number in decimal, with any number of zeros before it. -/
structure Writes (s : String) (n : Nat) : Prop where
  nonempty : s ≠ ""
  digits : ∀ c ∈ s.toList, c.isDigit = true
  value : Nat.ofDigitChars 10 s.toList 0 = n

theorem writes_toString (n : Nat) : Writes (toString n) n := by
  have hchars : (toString n).toList = Nat.toDigits 10 n := Nat.toList_repr
  refine ⟨?_, ?_, ?_⟩
  · intro hempty
    rw [hempty] at hchars
    exact Nat.toDigits_ne_nil hchars.symm
  · intro c hc
    rw [hchars] at hc
    exact Nat.isDigit_of_mem_toDigits (by omega) (by omega) hc
  · rw [hchars, Nat.ofDigitChars_ten_toDigits]

theorem Writes.zero {s : String} {n : Nat} (h : Writes s n) : Writes ("0" ++ s) n := by
  have hchars : ("0" ++ s).toList = '0' :: s.toList := String.toList_append
  refine ⟨?_, ?_, ?_⟩
  · intro hempty
    rw [hempty] at hchars
    cases hchars
  · rw [hchars]
    exact List.forall_mem_cons.mpr ⟨by decide, h.digits⟩
  · rw [hchars, Nat.ofDigitChars_cons]
    exact h.value

theorem digit?_of_isDigit {c : Char} (h : c.isDigit = true) :
    digit? c = some (c.toNat - '0'.toNat) := by
  rw [Char.isDigit, Bool.and_eq_true, decide_eq_true_iff, decide_eq_true_iff] at h
  exact if_pos h

theorem le_ofDigitChars (cs : List Char) (v : Nat) : v ≤ Nat.ofDigitChars 10 cs v := by
  induction cs generalizing v with
  | nil => exact Nat.le_refl v
  | cons c rest ih =>
    rw [Nat.ofDigitChars_cons]
    refine Nat.le_trans ?_ (ih _)
    omega

theorem magnitude_cons {bound : Nat} {fault : NumeralFault} {c : Char} (h : c.isDigit = true)
    (v : Nat) (rest : List Char) :
    magnitude bound fault v (c :: rest) =
      if 10 * v + (c.toNat - '0'.toNat) ≤ bound then
        magnitude bound fault (10 * v + (c.toNat - '0'.toNat)) rest
      else .error fault := by
  rw [magnitude, digit?_of_isDigit h]

/-- Digits are read as their number, unless it is out of range; nothing but the range can be wrong
with them. -/
theorem magnitude_of_digits {bound : Nat} (fault : NumeralFault) {cs : List Char}
    (digits : ∀ c ∈ cs, c.isDigit = true) {v : Nat} (hv : v ≤ bound) :
    magnitude bound fault v cs =
      if Nat.ofDigitChars 10 cs v ≤ bound then .ok (Nat.ofDigitChars 10 cs v) else .error fault := by
  induction cs generalizing v with
  | nil => exact (if_pos hv).symm
  | cons c rest ih =>
    have hrest := fun d hd => digits d (List.mem_cons_of_mem c hd)
    rw [magnitude_cons (digits c List.mem_cons_self), Nat.ofDigitChars_cons]
    generalize 10 * v + (c.toNat - '0'.toNat) = w
    by_cases hw : w ≤ bound
    · exact (if_pos hw).trans (ih hrest hw)
    -- what is out of range stays so, whatever digits follow
    · have hgrown := le_ofDigitChars rest w
      rw [if_neg hw, if_neg (by omega)]

theorem unsigned_of_writes {bound n : Nat} {s : String} (h : Writes s n) :
    unsigned bound s = if n ≤ bound then .ok n else .error .tooLarge := by
  have hread := magnitude_of_digits .tooLarge h.digits (Nat.zero_le bound)
  rw [h.value] at hread
  rw [unsigned]
  split
  next hnil => exact absurd (String.toList_eq_nil_iff.mp hnil) h.nonempty
  next hplus =>
    have hsign : '+'.isDigit = true := h.digits '+' (by rw [hplus]; exact List.mem_cons_self)
    exact absurd hsign (by decide)
  next => exact hread

end Numeral

namespace ColorLevel
open Variables

theorem ofDepth_le_iff {d d' : Nat} (h : d ≤ 3) : ofDepth d ≤ ofDepth d' ↔ d ≤ d' := by
  refine ⟨?_, ofDepth_le_ofDepth⟩
  rintro ⟨hbasic, hpalette, hmixed⟩
  have hone : 1 ≤ d → 1 ≤ d' := fun hd => of_decide_eq_true (hbasic (decide_eq_true hd))
  have htwo : 2 ≤ d → 2 ≤ d' := fun hd => of_decide_eq_true (hpalette (decide_eq_true hd))
  have hthree : 3 ≤ d → 3 ≤ d' := fun hd => of_decide_eq_true (hmixed (decide_eq_true hd))
  omega

/-- The depth that a number demands. -/
def depthOfNumber (n : Nat) : Nat := if n < UInt32.size then min n 3 else 1

theorem depthOfNumber_eq_min_iff {n : Nat} : depthOfNumber n = min n 3 ↔ n < UInt32.size := by
  unfold depthOfNumber UInt32.size
  split <;> omega

theorem depthOfNumber_le_three (n : Nat) : depthOfNumber n ≤ 3 := by
  unfold depthOfNumber
  split <;> omega

theorem depthOfNumber_pos {n : Nat} (h : 1 ≤ n) : 0 < depthOfNumber n := by
  unfold depthOfNumber
  split <;> omega

theorem depthOfNumber_le_iff {m n : Nat} (hm : 1 ≤ m) (hmn : m ≤ n) :
    depthOfNumber m ≤ depthOfNumber n ↔ n < UInt32.size ∨ m = 1 ∨ UInt32.size ≤ m := by
  unfold depthOfNumber UInt32.size
  split <;> split <;> omega

theorem depthOf_of_writes {s : String} {n : Nat} (h : Numeral.Writes s n) :
    depthOf s = depthOfNumber n := by
  have hword : s ≠ "false" := by
    rintro rfl
    exact absurd (h.digits 'f' (by decide)) (by decide)
  have hrange : n ≤ UInt32.size - 1 ↔ n < UInt32.size := Nat.le_sub_one_iff_lt (by decide)
  rw [depthOf, if_neg h.nonempty, if_neg hword, Numeral.unsigned_of_writes h, depthOfNumber]
  by_cases hn : n < UInt32.size
  · rw [if_pos hn, if_pos (hrange.mpr hn)]
  · rw [if_neg hn, if_neg (mt hrange.mp hn)]

section Demanded
variable {env : Variables} {s : String} {n : Nat} (written : Numeral.Writes s n)
include written

theorem demands_of_writes : (env.set "FORCE_COLOR" s).Demands (depthOfNumber n) := by
  rw [← depthOf_of_writes written]
  exact .depth (set_self env _ s)

theorem ofStream_of_writes (free : ¬ env.Refusing) (hn : 1 ≤ n) (isTerminal : Bool) :
    ofStream (env.set "FORCE_COLOR" s) isTerminal = ofDepth (depthOfNumber n) := by
  have hrefusal : env.set "FORCE_COLOR" s "NO_COLOR" = env "NO_COLOR" :=
    set_of_ne env (by decide) s
  refine ofStream_of_demands ?_ (demands_of_writes written) (depthOfNumber_pos hn)
  rwa [refusing_congr hrefusal]

end Demanded

/-- What a numeral demands where color is not refused. In the range of 32 bits it is the number itself,
three at most; beyond it, it is one, as for a text that is no numeral. A larger number leads to no lower
level, on any stream, unless the larger one alone is out of range and the smaller one asks for more
than basic color. -/
theorem numeral_saturates_in_range (env : Variables) (s : String) (n : Nat)
    (free : ¬ env.Refusing) (written : Numeral.Writes s n) :
    demandedDepth (env.set "FORCE_COLOR" s) = (if n < UInt32.size then min n 3 else 1) ∧
    (demandedDepth (env.set "FORCE_COLOR" s) = min n 3 ↔ n < UInt32.size) ∧
    ∀ (s' : String) (m : Nat), Numeral.Writes s' m → 1 ≤ m → m ≤ n → ∀ isTerminal,
      (ofStream (env.set "FORCE_COLOR" s') isTerminal ≤ ofStream (env.set "FORCE_COLOR" s) isTerminal ↔
        n < UInt32.size ∨ m = 1 ∨ UInt32.size ≤ m) := by
  have hdepth : demandedDepth (env.set "FORCE_COLOR" s) = depthOfNumber n :=
    demandedDepth_of_demands (demands_of_writes written)
  refine ⟨hdepth, ?_, ?_⟩
  · rw [hdepth, depthOfNumber_eq_min_iff]
  · intro s' m written' hm hmn isTerminal
    rw [ofStream_of_writes written' free hm, ofStream_of_writes written free (Nat.le_trans hm hmn),
      ofDepth_le_iff (depthOfNumber_le_three m), depthOfNumber_le_iff hm hmn]

theorem numeral_saturates_in_range_largest :
    let env : Variables := fun _ => Option.none
    ¬ env.Refusing ∧ Numeral.Writes "004294967295" 4294967295 ∧ Numeral.Writes "2" 2 ∧
      demandedDepth (env.set "FORCE_COLOR" "004294967295") = 3 ∧
      ofStream (env.set "FORCE_COLOR" "2") false ≤
        ofStream (env.set "FORCE_COLOR" "004294967295") false := by
  intro env
  have free : ¬ env.Refusing := not_refusing_of_eq_none rfl
  have written : Numeral.Writes "004294967295" 4294967295 :=
    (Numeral.writes_toString 4294967295).zero.zero
  have written' : Numeral.Writes "2" 2 := Numeral.writes_toString 2
  obtain ⟨hdepth, -, hle⟩ := numeral_saturates_in_range env _ _ free written
  refine ⟨free, written, written', hdepth, ?_⟩
  exact (hle "2" 2 written' (by decide) (by decide) false).mpr (.inl (by decide))

/-- The first number that is out of range demands basic color, where two demands a palette. -/
theorem not_numerals_saturate :
    (¬ ∀ (env : Variables) (s : String) (n : Nat), ¬ env.Refusing → Numeral.Writes s n →
      demandedDepth (env.set "FORCE_COLOR" s) = min n 3) ∧
    ¬ ∀ (env : Variables) (s s' : String) (m n : Nat), ¬ env.Refusing →
      Numeral.Writes s' m → Numeral.Writes s n → 1 ≤ m → m ≤ n → ∀ isTerminal,
        ofStream (env.set "FORCE_COLOR" s') isTerminal ≤
          ofStream (env.set "FORCE_COLOR" s) isTerminal := by
  let env : Variables := fun _ => Option.none
  have free : ¬ env.Refusing := not_refusing_of_eq_none rfl
  have written : Numeral.Writes "4294967296" 4294967296 := Numeral.writes_toString 4294967296
  have written' : Numeral.Writes "2" 2 := Numeral.writes_toString 2
  constructor
  · intro saturates
    have hdepth := saturates env _ _ free written
    rw [demandedDepth_of_demands (demands_of_writes written)] at hdepth
    exact absurd hdepth (by decide)
  · intro grows
    have hle := grows env _ _ 2 4294967296 free written' written (by decide) (by decide) false
    rw [ofStream_of_writes written' free (by decide), ofStream_of_writes written free (by decide)] at hle
    exact absurd hle (by decide)

end ColorLevel

end CauseChain
