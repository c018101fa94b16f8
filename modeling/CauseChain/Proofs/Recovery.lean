import CauseChain.Io.WindowsCode
import CauseChain.Proofs.Decoration

/-!
# What a plain rendering is made of can be read off it

A plain rendering is cut into its lines, the line of the root at the last opening of a place, and the
place at its last two colons. The messages may look like anything but a line break, since what is
behind them on their lines has no such opening and what stands before them is known from their
number.
-/

set_option autoImplicit false

namespace CauseChain

/-! ## Cutting texts -/

/-- What stands before the last occurrence of a mark, and what stands behind it. -/
def cutLast? (mark cs : List Char) : Option (List Char × List Char) :=
  (WindowsCode.beforeLast? mark cs).map fun before => (before, cs.drop (before ++ mark).length)

theorem cutLast?_append {c : Char} {cs after : List Char} (last : ¬ (c :: cs) <:+: cs ++ after)
    (before : List Char) :
    cutLast? (c :: cs) (before ++ (c :: cs ++ after)) = some (before, after) := by
  rw [cutLast?, WindowsCode.beforeLast?_append last, Option.map_some, ← List.append_assoc,
    List.drop_left]

theorem cutLast?_char {c : Char} {after : List Char} (absent : c ∉ after) (before : List Char) :
    cutLast? [c] (before ++ c :: after) = some (before, after) :=
  cutLast?_append (fun hin => absent (hin.subset List.mem_cons_self)) before

/-- Two characters do not occur one after the other in a text if they do not in its first part, the
first of them is not in the rest, and the rest does not start with the second. -/
theorem not_pair_append {c d : Char} {cs rest : List Char} (first : ¬ [c, d] <:+: cs)
    (absent : c ∉ rest) (start : rest.head? ≠ some d) : ¬ [c, d] <:+: cs ++ rest := by
  induction cs with
  | nil => exact fun hin => absent (hin.subset List.mem_cons_self)
  | cons e cs ih =>
    intro hin
    obtain ⟨hfront, hcs⟩ := not_or.mp (mt List.infix_cons_iff.mpr first)
    rcases List.infix_cons_iff.mp hin with hstart | hrest
    · obtain ⟨rfl, hd⟩ := List.cons_prefix_cons.mp hstart
      cases cs with
      | nil =>
        obtain ⟨later, rfl⟩ := hd
        exact start rfl
      | cons e' cs =>
        obtain ⟨rfl, -⟩ := List.cons_prefix_cons.mp hd
        exact hfront ⟨cs, rfl⟩
    · exact ih hcs hrest

theorem splitOn_lines {ls : List (List Char)} (unbroken : ∀ cs ∈ ls, '\n' ∉ cs) :
    (ls.flatMap fun cs => cs ++ ['\n']).splitOn '\n' = ls ++ [[]] := by
  induction ls with
  | nil => rfl
  | cons cs rest ih =>
    obtain ⟨hcs, hrest⟩ := List.forall_mem_cons.mp unbroken
    rw [List.flatMap_cons, List.append_assoc, List.singleton_append,
      List.splitOn_append_cons_self_of_not_mem hcs, ih hrest, List.cons_append]

/-! ## Reading a place -/

def readNumber (cs : List Char) : Nat := Nat.ofDigitChars 10 cs 0

theorem readNumber_toString (n : Nat) : readNumber (toString n).toList = n := by
  rw [show toString n = n.repr from rfl, Nat.toList_repr]
  exact Nat.ofDigitChars_ten_toDigits

namespace Location

def read? (cs : List Char) : Option Location := do
  let (before, column) ← cutLast? [':'] cs
  let (file, line) ← cutLast? [':'] before
  some ⟨String.ofList file, readNumber line, readNumber column⟩

theorem read?_text (site : Location) : read? site.text.toList = some site := by
  have hsite : site.text.toList = (site.file.toList ++ ':' :: (toString site.line).toList) ++
      ':' :: (toString site.column).toList := by
    simp [text]
  have hcolumn := cutLast?_char (lacks_toString (c := ':') rfl site.column)
    (site.file.toList ++ ':' :: (toString site.line).toList)
  have hline := cutLast?_char (lacks_toString (c := ':') rfl site.line) site.file.toList
  rw [read?, hsite, hcolumn]
  simp only [Option.bind_eq_bind, Option.bind_some, hline, readNumber_toString, String.ofList_toList]

/-- No place is opened within a place. -/
theorem not_opening {site : Location} (file : ¬ [' ', '['] <:+: site.file.toList) :
    ¬ [' ', '['] <:+: ['['] ++ (site.text ++ "]").toList := by
  have hrest : (site.text ++ "]").toList =
      site.file.toList ++ (":" ++ toString site.line ++ ":" ++ toString site.column ++ "]").toList := by
    simp [text]
  have hspace : Lacks (":" ++ toString site.line ++ ":" ++ toString site.column ++ "]") ' ' := by
    have hcolon : Lacks ":" ' ' := by decide
    exact (((hcolon.append (lacks_toString rfl site.line)).append hcolon).append
      (lacks_toString rfl site.column)).append (by decide)
  have hstart : (":" ++ toString site.line ++ ":" ++ toString site.column ++ "]").toList.head? ≠
      some '[' := by
    simp
  rw [hrest]
  intro hin
  rcases List.infix_cons_iff.mp hin with hfront | hlater
  · exact absurd (List.cons_prefix_cons.mp hfront).1 (by decide)
  · exact not_pair_append file hspace hstart hlater

end Location

/-! ## The lines of a plain rendering -/

/-- A layout without line breaks, in which places stand in brackets behind a space. -/
structure Layout.Legible (l : Layout) : Prop where
  unbroken : l.Without '\n'
  location : l.location = ⟨" [", "]"⟩

theorem Layout.legible_unicode : Layout.unicode.Legible :=
  ⟨by constructor <;> decide, rfl⟩

theorem Layout.legible_ascii : Layout.ascii.Legible :=
  ⟨by constructor <;> decide, rfl⟩

namespace Layout
variable (l : Layout) (columns : Nat)

def bannerBody : List Char :=
  let (before, after) := fillAround columns l.title.length
  List.replicate before l.fill ++ l.title.toList ++ List.replicate after l.fill

def ending (site : Location) : Nat → String
  | 0 => l.location.before ++ site.text ++ l.location.after
  | _ + 1 => ""

/-- A plain line without its line break. -/
def lineBody (n : Nat) (f : Frame) (turn : Captured) : List Char :=
  (l.lead .plain n ++ turn.text ++ l.ending f.location n).toList

def lineBodies (n : Nat) (fs : List Frame) (turns : List Captured) : List (List Char) :=
  List.zipWith (fun (f, n) turn => l.lineBody n f turn) (fs.zipIdx n) turns

theorem lineBodies_cons (n : Nat) (f : Frame) (rest : List Frame) (turn : Captured)
    (turns : List Captured) : l.lineBodies n (f :: rest) (turn :: turns) =
      l.lineBody n f turn :: l.lineBodies (n + 1) rest turns := rfl

theorem lead_plainly (n : Nat) : l.lead ⟨false, columns⟩ n = l.lead .plain n := by
  cases n with
  | zero => rfl
  | succ index => rfl

theorem toList_bannerText :
    (l.bannerText ⟨false, columns⟩).toList = l.bannerBody columns ++ ['\n'] := by
  simp [bannerText, Options.styled, bannerLine, bannerBody, fillAround]

theorem tail_eq (site : Location) (n : Nat) : l.tail site n = l.ending site n ++ "\n" := by
  cases n with
  | zero => rfl
  | succ index => rfl

theorem toList_lineSoFar (n : Nat) (f : Frame) {turn : Captured} (ok : turn.ok = true) :
    (l.lineSoFar ⟨false, columns⟩ n f turn).toList = l.lineBody n f turn ++ ['\n'] := by
  rw [l.lineSoFar_of_ok _ n f ok, lineText, lead_plainly, tail_eq, lineBody]
  simp

theorem toList_linesSoFar (n : Nat) (fs : List Frame) {turns : List Captured}
    (ok : ∀ turn ∈ turns, turn.ok = true) :
    (String.join (l.linesSoFar ⟨false, columns⟩ n fs turns)).toList =
      (l.lineBodies n fs turns).flatMap fun cs => cs ++ ['\n'] := by
  induction fs generalizing n turns with
  | nil => rfl
  | cons f rest ih =>
    cases turns with
    | nil => rfl
    | cons turn turns =>
      obtain ⟨hturn, hturns⟩ := List.forall_mem_cons.mp ok
      rw [linesSoFar_cons, String.join_cons, String.toList_append,
        l.toList_lineSoFar columns n f hturn, ih (n + 1) hturns, lineBodies_cons,
        List.flatMap_cons]

theorem length_lineBodies (n : Nat) {fs : List Frame} {turns : List Captured}
    (same : turns.length = fs.length) : (l.lineBodies n fs turns).length = fs.length := by
  rw [lineBodies, List.length_zipWith, List.length_zipIdx, same, Nat.min_self]

variable {l}

theorem Legible.bannerBody (legible : l.Legible) : '\n' ∉ l.bannerBody columns := by
  intro hmem
  rcases List.mem_append.mp hmem with hmem | hmem
  · rcases List.mem_append.mp hmem with hmem | hmem
    · exact legible.unbroken.fill (List.eq_of_mem_replicate hmem).symm
    · exact legible.unbroken.title hmem
  · exact legible.unbroken.fill (List.eq_of_mem_replicate hmem).symm

theorem Legible.lead (legible : l.Legible) (n : Nat) : Lacks (l.lead .plain n) '\n' := by
  rw [lead_eq, Options.plain, Ink.written_without_colors]
  exact lacks_join (List.forall_mem_map.mpr (legible.unbroken.leadInks rfl n))

theorem Legible.lineBody (legible : l.Legible) {n : Nat} {f : Frame} {turn : Captured}
    (file : n = 0 → Lacks f.location.file '\n') (message : Lacks turn.text '\n') :
    '\n' ∉ l.lineBody n f turn := by
  refine ((legible.lead n).append message).append ?_
  cases n with
  | zero =>
    have hsite := Location.lacks_text (file rfl) rfl (by decide)
    exact (legible.unbroken.locationBefore.append hsite).append legible.unbroken.locationAfter
  | succ index => exact (by decide : Lacks "" '\n')

theorem Legible.lineBodies (legible : l.Legible) {fs : List Frame} {turns : List Captured}
    (root : ∀ f, fs.head? = some f → Lacks f.location.file '\n')
    (messages : ∀ turn ∈ turns, Lacks turn.text '\n') :
    ∀ cs ∈ l.lineBodies 0 fs turns, '\n' ∉ cs := by
  intro cs hcs
  obtain ⟨f, n, turn, hturn, hroot, rfl⟩ := mem_numbered hcs
  exact legible.lineBody (fun hn => root f (hroot hn)) (messages turn hturn)

end Layout

/-! ## Reading a plain rendering -/

/-- What can be read off a rendering: the messages from the root up, and the place of the root. -/
structure Reading where
  messages : List String
  place : Option Location
  deriving DecidableEq, Repr

def readRoot? (cs : List Char) : Option (String × Location) := do
  let (message, place) ← cutLast? [' ', '['] cs
  let site ← Location.read? place.dropLast
  some (String.ofList message, site)

namespace Layout
variable (l : Layout)

/-- What stands behind the number of a context, which is known from where its line is. -/
def readContext (index : Nat) (cs : List Char) : String :=
  String.ofList (cs.drop (l.lead .plain (index + 1)).length)

def read? (s : String) : Option Reading :=
  match (s.toList.splitOn '\n').tail.dropLast with
  | [] => some ⟨[], none⟩
  | root :: contexts => (readRoot? root).map fun (message, site) =>
    ⟨message :: contexts.zipIdx.map fun (cs, index) => l.readContext index cs, some site⟩

theorem readContext_lineBody (index : Nat) (f : Frame) (turn : Captured) :
    l.readContext index (l.lineBody (index + 1) f turn) = turn.text := by
  rw [readContext, lineBody, ending, String.append_empty, String.toList_append,
    ← String.length_toList, List.drop_left, String.ofList_toList]

theorem map_readContext (n : Nat) (fs : List Frame) {turns : List Captured}
    (same : turns.length = fs.length) :
    ((l.lineBodies (n + 1) fs turns).zipIdx n).map (fun (cs, index) => l.readContext index cs) =
      turns.map Captured.text := by
  induction fs generalizing n turns with
  | nil =>
    rw [List.eq_nil_of_length_eq_zero same]
    rfl
  | cons f rest ih =>
    obtain ⟨turn, turns, rfl⟩ := List.exists_cons_of_length_eq_add_one same
    rw [lineBodies_cons, List.zipIdx_cons, List.map_cons, List.map_cons,
      ih (n + 1) (Nat.succ.inj same)]
    exact congrArg (· :: _) (l.readContext_lineBody n f turn)

variable {l}

theorem Legible.readRoot?_lineBody (legible : l.Legible) {f : Frame}
    (file : ¬ [' ', '['] <:+: f.location.file.toList) (turn : Captured) :
    readRoot? (l.lineBody 0 f turn) = some (turn.text, f.location) := by
  have hline : l.lineBody 0 f turn =
      turn.text.toList ++ ([' ', '['] ++ (f.location.text ++ "]").toList) := by
    rw [Layout.lineBody, ending, legible.location]
    simp [Layout.lead]
  have hplace : (f.location.text ++ "]").toList.dropLast = f.location.text.toList := by simp
  rw [readRoot?, hline, cutLast?_append (Location.not_opening file)]
  simp only [Option.bind_eq_bind, Option.bind_some, hplace, Location.read?_text,
    String.ofList_toList]

end Layout

/-! ## Nothing is lost -/

namespace Report

/-- No message has a line break, nor the file of the root, in which no place seems to be opened. -/
structure Legible (r : Report) (h : Hooks) : Prop where
  messages : ∀ m ∈ r.messages h, Lacks m '\n'
  file : ∀ f, r.root? = some f →
    Lacks f.location.file '\n' ∧ ¬ [' ', '['] <:+: f.location.file.toList

end Report

namespace Layout
variable (l : Layout) (columns : Nat) (r : Report) (h : Hooks)

/-- The lines of a plain rendering, each without its line break. -/
def bodies : List (List Char) :=
  l.bannerBody columns :: l.lineBodies 0 r.frames.reverse (r.turns h)

variable {l columns r h} (ok : (l.render r ⟨false, columns⟩ h).ok = true)
include ok

theorem turns_of_ok : ∀ turn ∈ r.turns h, turn.ok = true := by
  have hok := congrArg Captured.ok (l.captured_render_turns ⟨false, columns⟩ r h)
  exact List.all_eq_true.mp (hok.symm.trans ok)

theorem length_turns : (r.turns h).length = r.frames.reverse.length := by
  have hlength := Rendering.length_each_of_ok (turns_of_ok ok)
  rwa [List.length_map] at hlength

theorem length_messages : (r.messages h).length = r.count := by
  rw [Report.messages, List.length_map, length_turns ok, List.length_reverse, Report.count]

theorem length_bodies : (l.bodies columns r h).length = r.count + 1 := by
  rw [bodies, List.length_cons, l.length_lineBodies 0 (length_turns ok), List.length_reverse,
    Report.count]

theorem toList_render :
    (l.render r ⟨false, columns⟩ h).text.toList =
      (l.bodies columns r h).flatMap fun cs => cs ++ ['\n'] := by
  have htext : (l.render r ⟨false, columns⟩ h).text = _ :=
    congrArg Captured.text (l.captured_render_turns ⟨false, columns⟩ r h)
  rw [htext, String.toList_append, toList_bannerText,
    l.toList_linesSoFar columns 0 r.frames.reverse (turns_of_ok ok), bodies, List.flatMap_cons]

omit ok

variable (legible : l.Legible) (readable : r.Legible h)
include legible readable

theorem Legible.bodies : ∀ cs ∈ l.bodies columns r h, '\n' ∉ cs := by
  have hroot : ∀ f, r.frames.reverse.head? = some f → Lacks f.location.file '\n' := by
    intro f hf
    rw [List.head?_reverse] at hf
    exact (readable.file f hf).1
  have hmessages := List.forall_mem_map.mp readable.messages
  refine List.forall_mem_cons.mpr ⟨legible.bannerBody columns, ?_⟩
  exact legible.lineBodies hroot hmessages

include ok

theorem Legible.read?_render :
    l.read? (l.render r ⟨false, columns⟩ h).text =
      some ⟨r.messages h, r.root?.map FrameOf.location⟩ := by
  have hlines : ((l.render r ⟨false, columns⟩ h).text.toList.splitOn '\n').tail.dropLast =
      l.lineBodies 0 r.frames.reverse (r.turns h) := by
    rw [toList_render ok, splitOn_lines (legible.bodies readable), Layout.bodies, List.cons_append,
      List.tail_cons, List.dropLast_concat]
  have hlength := length_turns ok
  have hfile := readable.file
  rw [Report.root?, ← List.head?_reverse] at hfile ⊢
  rw [read?, hlines, Report.messages]
  generalize r.turns h = turns at hlength ⊢
  generalize r.frames.reverse = fs at hlength hfile ⊢
  cases fs with
  | nil =>
    rw [List.eq_nil_of_length_eq_zero hlength]
    rfl
  | cons root contexts =>
    obtain ⟨turn, turns, rfl⟩ := List.exists_cons_of_length_eq_add_one hlength
    have hcontexts := l.map_readContext 0 contexts (Nat.succ.inj hlength)
    have hread := legible.readRoot?_lineBody (hfile root rfl).2 turn
    rw [lineBodies_cons]
    simp only [hread, Option.map_some, hcontexts, List.map_cons, List.head?_cons]

omit legible readable ok

/-- From a plain rendering in one of the stock layouts, or any layout as legible as they are, the
messages and the place of the root can be read off, whatever the messages look like as long as they
stay on their lines. So reports with equal renderings have as many frames, with the same messages in
the same order, and the same place of the root. A rendering has a line for each frame and one more,
and each of them is ended by a line break. -/
theorem plain_rendering_loses_nothing :
    Layout.unicode.Legible ∧ Layout.ascii.Legible ∧
    ∀ (l : Layout) (columns : Nat), l.Legible →
      (∀ (r : Report) (h : Hooks) (s : String), r.Legible h →
        (l.render r ⟨false, columns⟩ h).text? = some s →
        l.read? s = some ⟨r.messages h, r.root?.map FrameOf.location⟩ ∧
        (r.messages h).length = r.count ∧
        ∃ lines : List (List Char), lines.length = r.count + 1 ∧ (∀ cs ∈ lines, '\n' ∉ cs) ∧
          s.toList = lines.flatMap fun cs => cs ++ ['\n']) ∧
      (∀ (r r' : Report) (h h' : Hooks) (s : String), r.Legible h → r'.Legible h' →
        (l.render r ⟨false, columns⟩ h).text? = some s →
        (l.render r' ⟨false, columns⟩ h').text? = some s →
        r.count = r'.count ∧ r.messages h = r'.messages h' ∧
          r.root?.map FrameOf.location = r'.root?.map FrameOf.location) := by
  refine ⟨legible_unicode, legible_ascii, fun l columns legible => ⟨?_, ?_⟩⟩
  · intro r h s readable rendered
    obtain ⟨ok, rfl⟩ := Transcript.text?_eq_some_iff.mp rendered
    exact ⟨legible.read?_render ok readable, length_messages ok, l.bodies columns r h,
      length_bodies ok, legible.bodies readable, toList_render ok⟩
  · intro r r' h h' s readable readable' rendered rendered'
    obtain ⟨ok, htext⟩ := Transcript.text?_eq_some_iff.mp rendered
    obtain ⟨ok', htext'⟩ := Transcript.text?_eq_some_iff.mp rendered'
    have hread := legible.read?_render ok readable
    have hread' := legible.read?_render ok' readable'
    rw [htext] at hread
    rw [htext', hread] at hread'
    obtain ⟨hmessages, hplace⟩ := Reading.mk.inj (Option.some.inj hread')
    refine ⟨?_, hmessages, hplace⟩
    rw [← length_messages ok, hmessages, length_messages ok']

/-- Two reports with messages that imitate the line of a root and the number of a context. -/
theorem plain_rendering_loses_nothing_imitated :
    let site : Location := ⟨"m.rs", 3, 5⟩
    let showing (s : String) : Frame := ⟨.value (.string s), .display, site⟩
    let foreign (s : String) : Frame :=
      ⟨.value (.foreign (.steady .shown "T" "" (.ofText s) (.atom ""))), .display, site⟩
    let r : Report := ⟨[showing "~> #7: [", showing "a [b.rs:1:2]"]⟩
    let r' : Report := ⟨[showing "~> #7: [", foreign "a [b.rs:1:2]"]⟩
    let s := "= Error: =\na [b.rs:1:2] [m.rs:3:5]\n    ~> #0: ~> #7: [\n"
    r.Legible .none ∧ r'.Legible .none ∧
      (Layout.ascii.render r ⟨false, 10⟩ .none).text? = some s ∧
      (Layout.ascii.render r' ⟨false, 10⟩ .none).text? = some s ∧
      Layout.ascii.read? s = some ⟨["a [b.rs:1:2]", "~> #7: ["], some site⟩ ∧
      r.messages .none = r'.messages .none := by
  intro site showing foreign r r' s
  obtain ⟨-, legible, hall⟩ := plain_rendering_loses_nothing
  obtain ⟨hread, hinjective⟩ := hall .ascii 10 legible
  have hmessages : r.messages .none = ["a [b.rs:1:2]", "~> #7: ["] := by decide +kernel
  have hmessages' : r'.messages .none = ["a [b.rs:1:2]", "~> #7: ["] := by decide +kernel
  have readable : r.Legible .none := by
    refine ⟨?_, ?_⟩
    · rw [hmessages]
      decide
    · rintro f ⟨⟩
      decide
  have readable' : r'.Legible .none := by
    refine ⟨?_, ?_⟩
    · rw [hmessages']
      decide
    · rintro f ⟨⟩
      decide
  have rendered : (Layout.ascii.render r ⟨false, 10⟩ .none).text? = some s := by decide +kernel
  have rendered' : (Layout.ascii.render r' ⟨false, 10⟩ .none).text? = some s := by decide +kernel
  refine ⟨readable, readable', rendered, rendered', ?_, ?_⟩
  · rw [(hread r .none s readable rendered).1, hmessages]
    rfl
  · exact (hinjective r r' .none .none s readable readable' rendered rendered').2.1

end Layout

end CauseChain
