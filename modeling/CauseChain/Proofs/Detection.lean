import CauseChain.Terminal.ColorLevel

/-!
# What a level is judged by

A refusal outweighs a demand, and a demand outweighs all that is known of the terminal. A build
service can only add basic color where nothing else has been said. No other variable counts.
-/

set_option autoImplicit false

namespace CauseChain

namespace Variables

def set (env : Variables) (name value : String) : Variables :=
  fun other => if other = name then some value else env other

theorem set_self (env : Variables) (name value : String) : env.set name value name = some value :=
  if_pos rfl

theorem set_of_ne (env : Variables) {name other : String} (h : other ≠ name) (value : String) :
    env.set name value other = env other :=
  if_neg h

theorem differs_iff {env : Variables} {name text : String} :
    env.differs name text = true ↔ ∃ v, env name = some v ∧ v ≠ text := by
  rw [differs]
  cases env name with
  | none => simp
  | some v => simp

theorem differs_eq_false_iff {env : Variables} {name text : String} :
    env.differs name text = false ↔ env name = none ∨ env name = some text := by
  rw [differs]
  cases env name with
  | none => simp
  | some v => simp

theorem value_eq_iff {env : Variables} {name text : String} (nonempty : text ≠ "") :
    (env.value name == text) = true ↔ env name = some text := by
  rw [value, beq_iff_eq]
  cases env name with
  | none => simpa using nonempty.symm
  | some v => simp

/-- Color is refused. -/
def Refusing (env : Variables) : Prop := ∃ v, env "NO_COLOR" = some v ∧ v ≠ ""

/-- A depth is asked for. The variable that can only ask for basic color is heard just where the one
that can ask for any depth is absent. -/
inductive Demands (env : Variables) : Nat → Prop where
  | depth {v : String} : env "FORCE_COLOR" = some v → env.Demands (ColorLevel.depthOf v)
  | basic {v : String} :
    env "FORCE_COLOR" = none → env "CLICOLOR_FORCE" = some v → v ≠ "0" → env.Demands 1

/-- No color is asked for. -/
def Undemanding (env : Variables) : Prop := ∀ d, env.Demands d → d = 0

theorem not_refusing_of_eq_none {env : Variables} (h : env "NO_COLOR" = none) : ¬ env.Refusing := by
  rintro ⟨v, hv, -⟩
  rw [h] at hv
  cases hv

theorem refusing_congr {env env' : Variables} (h : env' "NO_COLOR" = env "NO_COLOR") :
    env'.Refusing ↔ env.Refusing := by
  rw [Refusing, Refusing, h]

theorem Demands.congr {env env' : Variables} {d : Nat} (h : env.Demands d)
    (hforce : env' "FORCE_COLOR" = env "FORCE_COLOR")
    (hbasic : env' "CLICOLOR_FORCE" = env "CLICOLOR_FORCE") : env'.Demands d := by
  cases h with
  | depth hv => exact .depth (hforce.trans hv)
  | basic hnone hv hne => exact .basic (hforce.trans hnone) (hbasic.trans hv) hne

def AgreeOn (names : List String) (env env' : Variables) : Prop :=
  ∀ name ∈ names, env' name = env name

instance (names : List String) (env env' : Variables) : Decidable (AgreeOn names env env') :=
  inferInstanceAs (Decidable (∀ name ∈ names, env' name = env name))

end Variables

namespace ColorLevel
open Variables
variable {env env' : Variables} {isTerminal : Bool}

/-! ## The order of levels -/

/-- A level is at most another one that shows all that it shows. -/
instance : LE ColorLevel where
  le l m := l.basic ≤ m.basic ∧ l.ansi256 ≤ m.ansi256 ∧ l.truecolor ≤ m.truecolor

instance (l m : ColorLevel) : Decidable (l ≤ m) :=
  inferInstanceAs (Decidable (l.basic ≤ m.basic ∧ l.ansi256 ≤ m.ansi256 ∧ l.truecolor ≤ m.truecolor))

theorem level_le_refl (l : ColorLevel) : l ≤ l := ⟨id, id, id⟩

theorem none_le (l : ColorLevel) : none ≤ l := ⟨nofun, nofun, nofun⟩

theorem ofDepth_le_ofDepth {d d' : Nat} (h : d ≤ d') : ofDepth d ≤ ofDepth d' := by
  have hflag : ∀ n, decide (n ≤ d) ≤ decide (n ≤ d') := by
    intro n hn
    exact decide_eq_true (Nat.le_trans (of_decide_eq_true hn) h)
  exact ⟨hflag 1, hflag 2, hflag 3⟩

/-! ## Refusals and demands -/

theorem demandedDepth_of_demands {d : Nat} (h : env.Demands d) : demandedDepth env = d := by
  cases h with
  | depth hforce => rw [demandedDepth, hforce]
  | basic hforce hbasic hne =>
    rw [demandedDepth, hforce]
    exact if_pos (differs_iff.mpr ⟨_, hbasic, hne⟩)

theorem demands_demandedDepth (h : 0 < demandedDepth env) : env.Demands (demandedDepth env) := by
  cases hforce : env "FORCE_COLOR" with
  | some v =>
    have hdepth : demandedDepth env = depthOf v := by rw [demandedDepth, hforce]
    rw [hdepth]
    exact .depth hforce
  | none =>
    have hdepth : demandedDepth env = if env.differs "CLICOLOR_FORCE" "0" then 1 else 0 := by
      rw [demandedDepth, hforce]
    rw [hdepth] at h ⊢
    split at h
    next hbasic =>
      obtain ⟨v, hv, hne⟩ := differs_iff.mp hbasic
      rw [if_pos hbasic]
      exact .basic hforce hv hne
    next => exact absurd h (Nat.lt_irrefl 0)

theorem undemanding_iff : env.Undemanding ↔ ¬ 0 < demandedDepth env := by
  constructor
  · intro h hpos
    exact Nat.ne_of_gt hpos (h _ (demands_demandedDepth hpos))
  · intro h d hd
    rw [← demandedDepth_of_demands hd]
    exact Nat.eq_zero_of_not_pos h

theorem ofStream_of_refusing (h : env.Refusing) : ofStream env isTerminal = none := by
  rw [ofStream, if_pos (differs_iff.mpr h)]

theorem ofStream_of_demands (free : ¬ env.Refusing) {d : Nat} (h : env.Demands d) (hpos : 0 < d) :
    ofStream env isTerminal = ofDepth d := by
  rw [ofStream, if_neg (mt differs_iff.mp free), demandedDepth_of_demands h, if_pos hpos]

theorem ofStream_false (free : ¬ env.Refusing) (undemanding : env.Undemanding) :
    ofStream env false = none := by
  rw [ofStream, if_neg (mt differs_iff.mp free), if_neg (undemanding_iff.mp undemanding), Bool.not_false,
    Bool.or_true]
  rfl

/-! ## What is known of the terminal -/

/-- Nothing is refused or asked for, and the stream is a terminal that can show more than text. -/
structure AsksTerminal (env : Variables) (isTerminal : Bool) : Prop where
  free : ¬ env.Refusing
  undemanding : env.Undemanding
  able : env "TERM" ≠ some "dumb"
  terminal : isTerminal = true

theorem able_iff : ¬ (env.value "TERM" == "dumb" || !isTerminal) = true ↔
    env "TERM" ≠ some "dumb" ∧ isTerminal = true := by
  have hdumb : (env.value "TERM" == "dumb") = true ↔ env "TERM" = some "dumb" :=
    value_eq_iff (by decide)
  rw [Bool.or_eq_true, hdumb, not_or, Bool.not_eq_true', Bool.not_eq_false]

theorem ofStream_of_asksTerminal (h : AsksTerminal env isTerminal) :
    ofStream env isTerminal = ofDepth (terminalDepth env) := by
  rw [ofStream, if_neg (mt differs_iff.mp h.free), if_neg (undemanding_iff.mp h.undemanding),
    if_neg (able_iff.mpr ⟨h.able, h.terminal⟩)]

/-- The variables that alone decide whether the terminal is asked, and that it answers with. -/
def decisive : List String :=
  ["NO_COLOR", "FORCE_COLOR", "CLICOLOR_FORCE", "TERM", "COLORTERM", "TERM_PROGRAM"]

/-- The variables that count where nothing decisive is known. -/
def hints : List String := ["CLICOLOR", "CI", "NODE"] ++ BuildService.marks

/-- Nothing decisive tells two environments apart. -/
structure SameEvidence (env env' : Variables) : Prop where
  refusal : env' "NO_COLOR" = env "NO_COLOR"
  depth : env' "FORCE_COLOR" = env "FORCE_COLOR"
  basic : env' "CLICOLOR_FORCE" = env "CLICOLOR_FORCE"
  term : env' "TERM" = env "TERM"
  colorterm : env' "COLORTERM" = env "COLORTERM"
  program : env' "TERM_PROGRAM" = env "TERM_PROGRAM"

theorem sameEvidence_of_agreeOn (agree : AgreeOn decisive env env') : SameEvidence env env' := by
  constructor
  all_goals exact agree _ (by decide)

section SameEvidence
variable (same : SameEvidence env env')
include same

theorem demandedDepth_congr : demandedDepth env' = demandedDepth env := by
  rw [demandedDepth, demandedDepth, differs, differs, same.depth, same.basic]

/-- Only the depth of the terminal can tell such environments apart, and only where it is asked. -/
theorem ofStream_congr
    (asked : AsksTerminal env isTerminal → terminalDepth env' = terminalDepth env) :
    ofStream env' isTerminal = ofStream env isTerminal := by
  rw [ofStream, ofStream, demandedDepth_congr same, differs, value, same.refusal, same.term, ← differs,
    ← value]
  split
  · rfl
  split
  · rfl
  split
  · rfl
  next hfree hdemand hable =>
    have hboth := able_iff.mp hable
    rw [asked ⟨mt differs_iff.mpr hfree, undemanding_iff.mpr hdemand, hboth.1, hboth.2⟩]

theorem asksTerminal_congr (h : AsksTerminal env isTerminal) : AsksTerminal env' isTerminal := by
  refine ⟨?_, ?_, ?_, h.terminal⟩
  · rw [refusing_congr same.refusal]
    exact h.free
  · rw [undemanding_iff, demandedDepth_congr same]
    exact undemanding_iff.mp h.undemanding
  · rw [same.term]
    exact h.able

theorem mixesColors_congr : mixesColors env' = mixesColors env := by
  simp only [mixesColors, value, same.term, same.colorterm, same.program]

theorem hasPalette_congr : hasPalette env' = hasPalette env := by
  simp only [hasPalette, value, same.term, same.program]

theorem terminalDepth_congr (hcolors : hasColors env' = hasColors env) :
    terminalDepth env' = terminalDepth env := by
  rw [terminalDepth, terminalDepth, mixesColors_congr same, hasPalette_congr same, hcolors]

end SameEvidence

theorem hasColors_congr (hterm : env' "TERM" = env "TERM") (agree : AgreeOn hints env env') :
    hasColors env' = hasColors env := by
  have hwish := agree "CLICOLOR" (by decide)
  have hci := agree "CI" (by decide)
  have hnode := agree "NODE" (by decide)
  have hmarks : BuildService.marks.any env'.present = BuildService.marks.any env.present := by
    rw [Bool.eq_iff_iff, List.any_eq_true, List.any_eq_true]
    refine exists_congr fun name => and_congr_right fun hname => ?_
    rw [present, present, agree name (List.mem_append_right _ hname)]
  simp only [hasColors, BuildService.detected, differs, present, hterm, hwish, hci, hnode] at hmarks ⊢
  rw [hmarks]

/-! ## Build services -/

section BuildService
variable {name : String} (mark : name ∈ BuildService.marks) (v : String)
include mark

theorem sameEvidence_set_mark : SameEvidence env (env.set name v) := by
  refine sameEvidence_of_agreeOn fun other hother => ?_
  refine set_of_ne env ?_ v
  rintro rfl
  revert hother
  exact (by decide : ∀ n ∈ BuildService.marks, n ∉ decisive) _ mark

theorem hasColors_set_mark : hasColors (env.set name v) = true := by
  have hmark : BuildService.marks.any (env.set name v).present = true := by
    refine List.any_eq_true.mpr ⟨name, mark, ?_⟩
    rw [present, set_self]
    rfl
  rw [hasColors, BuildService.detected, hmark, Bool.or_true, Bool.or_true]

/-- The mark of a build service gives a terminal color, if it had none. -/
theorem terminalDepth_set_mark :
    terminalDepth (env.set name v) = max 1 (terminalDepth env) := by
  have same : SameEvidence env (env.set name v) := sameEvidence_set_mark mark v
  rw [terminalDepth, mixesColors_congr same, hasPalette_congr same, hasColors_set_mark mark v,
    if_pos rfl, terminalDepth]
  split
  · rfl
  split
  · rfl
  split <;> rfl

theorem ofStream_set_mark (asks : AsksTerminal env isTerminal) :
    ofStream (env.set name v) isTerminal = ofDepth (max 1 (terminalDepth env)) := by
  have asks' := asksTerminal_congr (sameEvidence_set_mark mark v) asks
  rw [ofStream_of_asksTerminal asks', terminalDepth_set_mark mark v]

end BuildService

theorem colorless_of_terminalDepth (h : terminalDepth env = 0) :
    env "TERM" = Option.none ∧ (env "CLICOLOR" = Option.none ∨ env "CLICOLOR" = some "0") := by
  have hcolors : ¬ hasColors env = true := by
    intro hcolors
    rw [terminalDepth, if_pos hcolors] at h
    split at h
    · cases h
    split at h
    · cases h
    · cases h
  rw [hasColors, Bool.or_eq_true, Bool.or_eq_true, not_or, not_or] at hcolors
  obtain ⟨⟨hterm, hwish⟩, -⟩ := hcolors
  refine ⟨?_, differs_eq_false_iff.mp (Bool.eq_false_iff.mpr hwish)⟩
  rwa [present, Bool.not_eq_true, Option.isSome_eq_false_iff, Option.isNone_iff_eq_none] at hterm

/-- The level of a stream, judged by any variables. A refusal leaves no color. Otherwise a demand for
a depth is met, on any stream and whatever else is set. Otherwise only a terminal has color. The mark
of one more build service never takes color away; it makes a difference only on a terminal where
nothing is demanded and where neither the terminal nor the user says anything of color, and then
between no color and basic color. The variables named here are all that count. -/
theorem judged_in_order (env : Variables) :
    (env.Refusing → ∀ isTerminal, ofStream env isTerminal = none) ∧
    (¬ env.Refusing → ∀ d, env.Demands d → 0 < d → ∀ (env' : Variables) (isTerminal : Bool),
      AgreeOn ["NO_COLOR", "FORCE_COLOR", "CLICOLOR_FORCE"] env env' →
        ofStream env' isTerminal = ofDepth d) ∧
    (¬ env.Refusing → env.Undemanding →
      ofStream env false = none ∧ ofStream env false ≤ ofStream env true) ∧
    (∀ name ∈ BuildService.marks, ∀ (v : String) (isTerminal : Bool),
      ofStream env isTerminal ≤ ofStream (env.set name v) isTerminal ∧
        (ofStream (env.set name v) isTerminal ≠ ofStream env isTerminal →
          isTerminal = true ∧ ¬ env.Refusing ∧ env.Undemanding ∧ env "TERM" = Option.none ∧
            (env "CLICOLOR" = Option.none ∨ env "CLICOLOR" = some "0") ∧
            ofStream env isTerminal = none ∧ ofStream (env.set name v) isTerminal = ofDepth 1)) ∧
    ∀ env' : Variables, AgreeOn (decisive ++ hints) env env' →
      ∀ isTerminal, ofStream env' isTerminal = ofStream env isTerminal := by
  refine ⟨fun refusing _ => ofStream_of_refusing refusing, ?_, ?_, ?_, ?_⟩
  · intro free d demands hpos env' isTerminal agree
    have hrefusal := agree "NO_COLOR" (by decide)
    have hforce := agree "FORCE_COLOR" (by decide)
    have hbasic := agree "CLICOLOR_FORCE" (by decide)
    rw [← refusing_congr hrefusal] at free
    exact ofStream_of_demands free (demands.congr hforce hbasic) hpos
  · intro free undemanding
    rw [ofStream_false free undemanding]
    exact ⟨rfl, none_le _⟩
  · intro name mark v isTerminal
    by_cases asks : AsksTerminal env isTerminal
    · rw [ofStream_set_mark mark v asks, ofStream_of_asksTerminal asks]
      refine ⟨ofDepth_le_ofDepth (Nat.le_max_right 1 _), fun hne => ?_⟩
      have hzero : terminalDepth env = 0 := by
        cases hdepth : terminalDepth env with
        | zero => rfl
        | succ d =>
          rw [hdepth, Nat.max_eq_right (Nat.le_add_left 1 d)] at hne
          exact absurd rfl hne
      obtain ⟨hterm, hwish⟩ := colorless_of_terminalDepth hzero
      rw [hzero]
      exact ⟨asks.terminal, asks.free, asks.undemanding, hterm, hwish, rfl, rfl⟩
    · have hsame : ofStream (env.set name v) isTerminal = ofStream env isTerminal :=
        ofStream_congr (sameEvidence_set_mark mark v) fun h => absurd h asks
      rw [hsame]
      exact ⟨level_le_refl _, fun hne => absurd rfl hne⟩
  · intro env' agree isTerminal
    have same := sameEvidence_of_agreeOn fun n hn => agree n (List.mem_append_left hints hn)
    have hhints : AgreeOn hints env env' := fun n hn => agree n (List.mem_append_right decisive hn)
    have hcolors := hasColors_congr same.term hhints
    exact ofStream_congr same fun _ => terminalDepth_congr same hcolors

theorem judged_in_order_demanded :
    let env : Variables := set (fun _ => Option.none) "FORCE_COLOR" "2"
    let env' : Variables := (env.set "TERM" "dumb").set "CI" "true"
    ¬ env.Refusing ∧ env.Demands 2 ∧
      AgreeOn ["NO_COLOR", "FORCE_COLOR", "CLICOLOR_FORCE"] env env' ∧
      ofStream env' false = ofDepth 2 := by
  intro env env'
  have free : ¬ env.Refusing := not_refusing_of_eq_none rfl
  have demands : env.Demands 2 := .depth (set_self _ _ _)
  have agree : AgreeOn ["NO_COLOR", "FORCE_COLOR", "CLICOLOR_FORCE"] env env' := by decide
  obtain ⟨-, demanded, -⟩ := judged_in_order env
  exact ⟨free, demands, agree, demanded free 2 demands (by decide) env' false agree⟩

end ColorLevel
end CauseChain
