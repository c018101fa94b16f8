import CauseChain.Hooks.Code
import CauseChain.Text.Transcript

/-!
# The hook registries

`Hooks` holds at most one override for each payload type and at most one formatter. An override is
stored with the type that it was registered for. Every look-up and every change leaves marks of what
it did: a lock is acquired and released around it, a look-up for an override says what it found, and
a hook that is replaced or removed is let go of, in a change, before the lock is released. The marks
of changes say exactly how the registries evolve along a run.
-/

set_option autoImplicit false

namespace CauseChain

/-- The registries, each with its own lock. -/
inductive Registry where
  | overrides
  | formatter
  deriving DecidableEq, Repr

/-- Code from outside that a run enters: the display of a payload, an override, a formatter, or
the end of a hook that a registry lets go of. -/
inductive Guest where
  | payload
  | override
  | formatter
  | discarded
  deriving DecidableEq, Repr

/-- An override as it is stored, with the payload type that it was registered for. -/
structure Hook where
  type : String
  override : Override

/-- What a run does besides writing text. -/
inductive HookEvent where
  | acquired (r : Registry)
  | released (r : Registry)
  | found (type : String) (hook : Option Hook)
  | entered (g : Guest)
  | overrideSet (type : String) (override : Override)
  | overrideRemoved (type : String)
  | formatterSet (f : Formatter)

/-- The hooks that are registered. -/
structure Hooks where
  override? : String → Option Hook := fun _ => none
  formatter? : Option Formatter := none

namespace Hooks

def none : Hooks := {}

def apply (h : Hooks) : HookEvent → Hooks
  | .overrideSet type o =>
    { h with override? := fun t => if t = type then some ⟨type, o⟩ else h.override? t }
  | .overrideRemoved type =>
    { h with override? := fun t => if t = type then Option.none else h.override? t }
  | .formatterSet f => { h with formatter? := some f }
  | _ => h

def applyAll (h : Hooks) (es : List HookEvent) : Hooks := es.foldl apply h

def applyEntry (h : Hooks) : Entry HookEvent → Hooks
  | .text _ => h
  | .mark e => h.apply e

/-- The registries after a run. -/
def after (h : Hooks) (t : Transcript HookEvent) : Hooks := t.entries.foldl applyEntry h

@[simp] theorem after_skip (h : Hooks) : h.after .skip = h := rfl

theorem after_append (h : Hooks) (a b : Transcript HookEvent) (ok : a.ok = true) :
    h.after (a ++ b) = (h.after a).after b := by
  simp [after, Transcript.append_def, Transcript.andThen, ok]

def formatter (h : Hooks) : Formatter := h.formatter?.getD (.layout .standard)

def marked (events : List HookEvent) : Transcript HookEvent :=
  { entries := (events.map Entry.mark).toArray }

/-- A look-up of the formatter, which holds the lock for no longer than it takes. -/
def lookUpFormatter : Transcript HookEvent := marked [.acquired .formatter, .released .formatter]

def lookUpOverride (type : String) (h : Hooks) : Transcript HookEvent :=
  marked [.acquired .overrides, .found type (h.override? type), .released .overrides]

def hasOverride (h : Hooks) (type : String) : Bool := (h.override? type).isSome

/-- A hook that a registry held, if there was one, comes to its end. That of a hook which is replaced
or removed while it runs is marked here too, although its code is kept until this run is over. -/
def discarding (held : Bool) : List HookEvent := if held then [.entered .discarded] else []

/-- A change of the overrides, after which the override that was there comes to its end. -/
def changing (e : HookEvent) (held : Bool) : Transcript HookEvent :=
  marked (.acquired .overrides :: e :: discarding held ++ [.released .overrides])

def setOverride (type : String) (o : Override) (h : Hooks) : Transcript HookEvent :=
  changing (.overrideSet type o) (h.hasOverride type)

/-- What a removal does, and its answer: whether there was an override to remove. -/
structure Removal where
  done : Transcript HookEvent
  removed : Bool

def removeOverride (type : String) (h : Hooks) : Removal :=
  let held := h.hasOverride type
  ⟨changing (.overrideRemoved type) held, held⟩

def setFormatter (f : Formatter) (h : Hooks) : Transcript HookEvent :=
  marked (.acquired .formatter :: discarding h.formatter?.isSome
    ++ [.formatterSet f, .released .formatter])

@[simp] theorem removed_removeOverride (h : Hooks) (type : String) :
    (h.removeOverride type).removed = h.hasOverride type := rfl

/-! ## Marks and registries -/

@[simp] theorem marks_marked (es : List HookEvent) : (marked es).marks = es := by
  simp [marked, Transcript.marks, List.filterMap_map, Function.comp_def, Entry.mark?]

@[simp] theorem ok_marked (es : List HookEvent) : (marked es).ok = true := rfl

@[simp] theorem text_marked (es : List HookEvent) : (marked es).text = "" := by
  rw [Transcript.text_eq_join, marked]
  induction es with
  | nil => rfl
  | cons e rest ih => simpa [Entry.written] using ih

@[simp] theorem applyAll_nil (h : Hooks) : h.applyAll [] = h := rfl

@[simp] theorem applyAll_cons (h : Hooks) (e : HookEvent) (es : List HookEvent) :
    h.applyAll (e :: es) = (h.apply e).applyAll es := rfl

theorem applyAll_append (h : Hooks) (es later : List HookEvent) :
    h.applyAll (es ++ later) = (h.applyAll es).applyAll later :=
  List.foldl_append

/-- The registries evolve by the marks of a run alone. -/
theorem after_eq_applyAll (h : Hooks) (t : Transcript HookEvent) :
    h.after t = h.applyAll t.marks := by
  rw [after, Transcript.marks, ← Array.foldl_toList]
  induction t.entries.toList generalizing h with
  | nil => rfl
  | cons e rest ih =>
    cases e with
    | text s => exact ih h
    | mark e => exact ih (h.apply e)

@[simp] theorem after_muted (h : Hooks) (t : Transcript HookEvent) :
    h.after t.muted = h.after t := by
  rw [after_eq_applyAll, after_eq_applyAll, Transcript.marks_muted]

@[simp] theorem after_lookUpOverride (h : Hooks) (type : String) :
    h.after (h.lookUpOverride type) = h := by
  rw [after_eq_applyAll, lookUpOverride, marks_marked]
  rfl

end Hooks

end CauseChain
