import CauseChain.Report.Display

/-!
# Rendering reports

A rendered report is a banner, a line for the root with its place, and a numbered line for every
later context in the order in which they were put on top. That is what a layout writes; the
formatter in force may be another. No frame of a layout sees the specification that the rendering
as a whole was asked for: each is displayed plainly.
-/

set_option autoImplicit false

namespace CauseChain

namespace Layout

def painted (o : Options) (style : Style) (s : String) : Transcript HookEvent :=
  (if o.colors then style else Style.plain).paint (fitted .plain s)

def banner (l : Layout) (o : Options) : Transcript HookEvent :=
  let (before, after) := fillAround o.columns l.title.length
  .ofTexts (Spec.fillers l.fill before) ++ painted o l.bannerStyle l.title
    ++ .ofTexts (Spec.fillers l.fill after ++ ["\n"])

def place (l : Layout) (site : Location) : Transcript HookEvent :=
  .ofTexts [l.location.before, site.file, ":", toString site.line, ":", toString site.column,
    l.location.after, "\n"]

def number (l : Layout) (o : Options) (index : Nat) : Transcript HookEvent :=
  .ofText l.index.before ++ painted o l.indexStyle (toString index) ++ .ofText l.index.after

def rootLine (l : Layout) (f : Frame) : Rendering :=
  (f.display .plain).andThen (Rendering.steady (l.place f.location))

def contextLine (l : Layout) (o : Options) (index : Nat) (f : Frame) : Rendering :=
  Rendering.all [Rendering.steady (l.number o index), f.display .plain, Rendering.text "\n"]

def lines (l : Layout) (o : Options) : List Frame → List Rendering
  | [] => []
  | root :: contexts =>
    l.rootLine root :: contexts.zipIdx.map fun (f, index) => l.contextLine o index f

/-- A report in this layout. -/
def render (l : Layout) (r : Report) (o : Options) : Rendering :=
  Rendering.all (Rendering.steady (l.banner o) :: l.lines o r.frames.reverse)

end Layout

def formatterSubjects : Subject .formatter → Spec → Rendering
  | .frame f, spec => f.display spec
  | .report r, spec => r.display spec
  | .layout l r o, _ => l.render r o

def Formatter.format (f : Formatter) (r : Report) (o : Options) (spec : Spec) : Rendering :=
  match f with
  | .layout l => l.render r o
  | .code format => (format r o spec).run formatterSubjects

namespace Report

/-- A report as the formatter in force lays it out, under a specification for the whole. -/
def formatted (r : Report) (o : Options) (spec : Spec) : Rendering := fun h =>
  Hooks.lookUpFormatter ++ Hooks.marked [.entered .formatter] ++ h.formatter.format r o spec h

def render (r : Report) (o : Options) : Rendering := r.formatted o .plain

/-- The debug form of a report, on one line or pretty: its rendering with plain options. -/
def debug (r : Report) (pretty : Bool) : Rendering :=
  r.formatted .plain { alternate := pretty }

end Report

def Payload.debug (p : Payload) (pretty : Bool) : Rendering :=
  match p with
  | .value v => Rendering.guest .payload (Rendering.steady (v.debug pretty))
  | .report chain => (Report.mk chain).debug pretty

def Handler.applyDebug (handler : Handler) (p : Payload) (pretty : Bool) : Rendering :=
  match handler with
  | .error => p.debug pretty
  | .display => p.debug pretty
  | .any => Rendering.text (TypeName.placeholder p.typeName)
  | .reworded r =>
    Rendering.all [Rendering.text r.debugBefore, p.debug false, Rendering.text r.debugAfter]

namespace FrameOf

def payloadDebug (f : Frame) (pretty : Bool) : Rendering := f.handler.applyDebug f.payload pretty

def debug (f : Frame) (pretty : Bool) : Rendering := fun h =>
  (Shape.record "ReportFrame" [
    ("payload", .leaf (f.payloadDebug pretty h)),
    ("type_name", .quoted f.typeName),
    ("location", f.location.shape)]).print pretty

end FrameOf

/-- The text of what a payload holds: the display of a value that has one and the label of one
that has none, and all of a report. -/
def Payload.content : Payload → Rendering
  | .value (.foreign f) =>
    match f.nature with
    | .sealed => Rendering.text f.label
    | _ => (Payload.value (.foreign f)).display .plain
  | .value v => (Payload.value v).display .plain
  | .report chain => (Payload.report chain).display .alternated

end CauseChain
