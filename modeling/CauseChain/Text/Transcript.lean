import CauseChain.Text.Spec

/-!
# Transcripts

A `Transcript` records what one formatting run did, in order: the texts it wrote, the marks it
left between them, and whether it came to its end or failed. Nothing is said of where the texts
go: a sink that refuses a text is run over the transcript afterwards. Transcripts form a monoid
under "and then", in which nothing follows a failure.
-/

set_option autoImplicit false

namespace CauseChain

/-- One entry of a transcript: a text that was written, or a mark that writes nothing. -/
inductive Entry (ε : Type) where
  | text (s : String)
  | mark (e : ε)

/-- What a formatting run did, and whether it succeeded. -/
structure Transcript (ε : Type) where
  entries : Array (Entry ε) := #[]
  ok : Bool := true

/-- A transcript of texts alone. -/
abbrev Writing := Transcript Empty

namespace Entry
variable {ε : Type}

def written : Entry ε → String
  | .text s => s
  | .mark _ => ""

def mark? : Entry ε → Option ε
  | .text _ => none
  | .mark e => some e

def lift : Entry Empty → Entry ε
  | .text s => .text s

end Entry

namespace Transcript
variable {ε : Type}

def skip : Transcript ε := {}

def failure : Transcript ε := { ok := false }

/-- One text was written. -/
def ofText (s : String) : Transcript ε := { entries := #[.text s] }

/-- The texts were written one by one. -/
def ofTexts (ss : List String) : Transcript ε := { entries := (ss.map Entry.text).toArray }

/-- `b` runs after `a`, unless `a` failed. -/
def andThen (a b : Transcript ε) : Transcript ε :=
  if a.ok then { entries := a.entries ++ b.entries, ok := b.ok } else a

instance : Append (Transcript ε) where append := andThen

/-- Runs one after the other, up to the first that fails. -/
def concat (ts : List (Transcript ε)) : Transcript ε := ts.foldl andThen skip

def text (t : Transcript ε) : String := t.entries.foldl (fun s e => s ++ e.written) ""

def text? (t : Transcript ε) : Option String := if t.ok then some t.text else none

def noTextMessage : String := "a Display implementation returned an error unexpectedly: Error"

/-- A run that left no marks, seen as one that could have left some. -/
def lift (t : Writing) : Transcript ε := { entries := t.entries.map Entry.lift, ok := t.ok }

def marks (t : Transcript ε) : List ε := t.entries.toList.filterMap Entry.mark?

/-- What remains of a run whose text goes elsewhere: its marks. -/
def muted (t : Transcript ε) : Transcript ε :=
  { entries := t.entries.filter fun e => e.mark?.isSome }

/-- Four spaces before the first character of every line; `fresh` says that a line begins here. -/
def indentChars (fresh : Bool) : List Char → List Char
  | [] => []
  | c :: rest =>
    (if fresh then [' ', ' ', ' ', ' '] else []) ++ c :: indentChars (c == '\n') rest

def freshAfter (fresh : Bool) (cs : List Char) : Bool :=
  match cs.getLast? with
  | none => fresh
  | some c => c == '\n'

def indentEntry (state : Array (Entry ε) × Bool) : Entry ε → Array (Entry ε) × Bool
  | .text s =>
    let cs := s.toList
    (state.1.push (.text (String.ofList (indentChars state.2 cs))), freshAfter state.2 cs)
  | .mark e => (state.1.push (.mark e), state.2)

def indented (t : Transcript ε) : Transcript ε :=
  { t with entries := (t.entries.foldl indentEntry (#[], true)).1 }

/-! ## The monoid -/

theorem append_def (a b : Transcript ε) : a ++ b = a.andThen b := rfl

@[simp] theorem skip_append (t : Transcript ε) : skip ++ t = t := by
  simp [append_def, andThen, skip]

@[simp] theorem append_skip (t : Transcript ε) : t ++ skip = t := by
  cases t with
  | mk entries ok => cases ok <;> simp [append_def, andThen, skip]

theorem append_assoc (a b c : Transcript ε) : a ++ b ++ c = a ++ (b ++ c) := by
  cases ha : a.ok <;> cases hb : b.ok <;> simp [append_def, andThen, ha, hb]

theorem append_of_not_ok {a : Transcript ε} (h : a.ok = false) (b : Transcript ε) : a ++ b = a := by
  simp [append_def, andThen, h]

@[simp] theorem ok_append (a b : Transcript ε) : (a ++ b).ok = (a.ok && b.ok) := by
  cases h : a.ok <;> simp [append_def, andThen, h]

@[simp] theorem ok_skip : (skip : Transcript ε).ok = true := rfl

@[simp] theorem ok_failure : (failure : Transcript ε).ok = false := rfl

@[simp] theorem ok_ofText (s : String) : (ofText s : Transcript ε).ok = true := rfl

@[simp] theorem ok_ofTexts (ss : List String) : (ofTexts ss : Transcript ε).ok = true := rfl

/-! ## The written text -/

theorem foldl_written (s : String) (es : List (Entry ε)) :
    es.foldl (fun s e => s ++ e.written) s = s ++ String.join (es.map Entry.written) := by
  induction es generalizing s with
  | nil => simp [String.join]
  | cons e rest ih =>
    rw [List.foldl_cons, ih, List.map_cons, String.join_cons, String.append_assoc]

theorem text_eq_join (t : Transcript ε) :
    t.text = String.join (t.entries.toList.map Entry.written) := by
  rw [text, ← Array.foldl_toList, foldl_written]
  simp

@[simp] theorem text_skip : (skip : Transcript ε).text = "" := rfl

@[simp] theorem text_failure : (failure : Transcript ε).text = "" := rfl

@[simp] theorem text_ofText (s : String) : (ofText s : Transcript ε).text = s := by
  simp [text, ofText, Entry.written]

theorem text_ofTexts (ss : List String) : (ofTexts ss : Transcript ε).text = String.join ss := by
  rw [text_eq_join]
  simp [ofTexts, Function.comp_def, Entry.written]

theorem text_append (a b : Transcript ε) (ok : a.ok = true) : (a ++ b).text = a.text ++ b.text := by
  simp [text_eq_join, append_def, andThen, ok, String.join_append]

theorem text?_eq_some_iff {t : Transcript ε} {s : String} :
    t.text? = some s ↔ t.ok = true ∧ t.text = s := by
  cases ok : t.ok <;> simp [text?, ok]

/-! ## The marks -/

@[simp] theorem marks_skip : (skip : Transcript ε).marks = [] := rfl

@[simp] theorem marks_failure : (failure : Transcript ε).marks = [] := rfl

@[simp] theorem marks_ofText (s : String) : (ofText s : Transcript ε).marks = [] := rfl

@[simp] theorem marks_ofTexts (ss : List String) : (ofTexts ss : Transcript ε).marks = [] := by
  simp [marks, ofTexts, List.filterMap_map, Function.comp_def, Entry.mark?]

@[simp] theorem marks_lift (t : Writing) : (t.lift : Transcript ε).marks = [] := by
  rw [marks, lift, Array.toList_map, List.filterMap_map, List.filterMap_eq_nil_iff]
  intro e _
  cases e with
  | text s => rfl
  | mark e => exact e.elim

theorem marks_append (a b : Transcript ε) (ok : a.ok = true) :
    (a ++ b).marks = a.marks ++ b.marks := by
  simp [marks, append_def, andThen, ok]

theorem marks_append_eq_nil {a b : Transcript ε} (ha : a.marks = []) (hb : b.marks = []) :
    (a ++ b).marks = [] := by
  by_cases ok : a.ok = true
  · rw [marks_append a b ok, ha, hb, List.append_nil]
  · rw [append_of_not_ok (by simpa using ok), ha]

@[simp] theorem ok_muted (t : Transcript ε) : t.muted.ok = true := rfl

theorem filterMap_mark?_filter (es : List (Entry ε)) :
    (es.filter fun e => e.mark?.isSome).filterMap Entry.mark? = es.filterMap Entry.mark? := by
  induction es with
  | nil => rfl
  | cons e rest ih =>
    cases e with
    | text s => exact ih
    | mark e => exact congrArg (e :: ·) ih

@[simp] theorem marks_muted (t : Transcript ε) : t.muted.marks = t.marks := by
  simp only [marks, muted, Array.toList_filter]
  exact filterMap_mark?_filter t.entries.toList

theorem join_written_filter (es : List (Entry ε)) :
    String.join ((es.filter fun e => e.mark?.isSome).map Entry.written) = "" := by
  induction es with
  | nil => rfl
  | cons e rest ih =>
    cases e with
    | text s => exact ih
    | mark e =>
      rw [List.filter_cons_of_pos (by rfl), List.map_cons, String.join_cons, ih]
      rfl

@[simp] theorem text_muted (t : Transcript ε) : t.muted.text = "" := by
  rw [text_eq_join, muted, Array.toList_filter]
  exact join_written_filter t.entries.toList

end Transcript

end CauseChain
