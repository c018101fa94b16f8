import CauseChain.Report.Render

/-!
# Ready-made hooks

Overrides and formatters for common needs, and a handler that speaks up.
-/

set_option autoImplicit false

namespace CauseChain

namespace Override

def constant (s : String) : Override := fun _ _ => .write s .done

def wrapped (s : String) : Override := fun _ _ =>
  .write s (.display .handled .plain (.write s .done))

def forwarded : Override := fun _ spec => .display .handled spec .done

/-- Displays the type of the payload and the place of the frame behind a text. -/
def located (s : String) : Override := fun f _ =>
  .writeAll [s, " ", f.typeName, " @ ", f.location.text] .done

def content (p : Payload) (next : Captured → Code .override) : Code .override :=
  match p with
  | .value (.foreign f) =>
    match f.nature with
    | .sealed => next ⟨f.label, true⟩
    | _ => .capture .payload .plain next
  | .value _ => .capture .payload .plain next
  | .report _ => .capture .payload .alternated next

/-- Displays what the payload holds behind a text; `broken` stands in for a display that fails,
given what it wrote before. -/
def prefaced (s : String) (broken : String → String) : Override := fun f _ =>
  content f.payload fun c => .writeAll [s, if c.ok then c.text else broken c.text] .done

def padded (s : String) : Override := fun _ spec => .writeAll (spec.fit s) .done

def failing (s : String) : Override := fun _ _ => .write s .fail

/-- Removes the override for the type of the payload, which is the one that runs, and displays a
text and whether one was there to remove. -/
def passing (s : String) : Override := fun f _ =>
  .removeOverride f.typeName fun removed => .writeAll [s, toString removed] .done

theorem inert_constant (s : String) : (constant s).Inert := fun _ _ => trivial

theorem captured_show_constant (s : String) (f : Frame) (payload : Spec → Rendering) (spec : Spec)
    (h : Hooks) : ((constant s).show f payload spec).captured h = ⟨s, true⟩ := by
  change ((Code.write s .done).run (overrideSubjects f payload)).captured h = _
  rw [Code.run_write, Code.run_done, Rendering.captured_andThen]
  simp [Rendering.captured, Rendering.text, Rendering.skip, Captured.andThen]

end Override

namespace Formatter

/-- One frame per line, the latest first. -/
def newestFirst : Formatter := .code fun r _ _ =>
  r.frames.foldr (fun f next => .display (.frame f) .plain (.write "\n" next)) .done

def oneLine : Formatter := .code fun r _ _ =>
  .write "error: " (.display (.report r) .alternated (.write "\n" .done))

def options : Formatter := .code fun r o _ =>
  .writeAll [(o.shape.print false : Writing).text, " ", toString r.count] .done

def narrow : Formatter := .code fun r o _ =>
  .display (.layout .ascii r { o with columns := o.columns / 2 }) .plain .done

/-- Gives way to the ASCII layout, and displays the report one last time. -/
def passing : Formatter := .code fun r _ _ =>
  .setLayout .ascii (.write "once " (.display (.report r) .plain (.write "\n" .done)))

def failing (s : String) : Formatter := .code fun _ _ _ => .write s .fail

end Formatter

/-- A handler that shows payloads in capitals, with an exclamation mark. -/
def Handler.shout : Handler :=
  .reworded {
    name := "Shout"
    display := fun s => s.map Char.toUpper ++ "!"
    debugBefore := "Shouting("
    debugAfter := ")" }

end CauseChain
