import ScriptDialog.Dialog.Basic
import ScriptDialog.Layout
import ScriptDialog.Widget

/-! One frame of a dialog's inside: the controls on their grid and the row of buttons. -/
namespace ScriptDialog.Panel

/-- The controls after a frame, which a fault may have cut short. -/
structure Drawn where
  calls : List Call
  controls : List Control
  /-- Whether any value changed. -/
  outcome : Except WidgetFault Bool

/-- The tooltip of a control under the pointer. -/
def tooltip (cue : Cue) (hint : Value) : Performed WidgetFault Unit :=
  if hint.truthy then do
    .call .askHovered
    if cue.hovered then .call (.setTooltip hint)
  else pure ()

/-- Draws one control between its own id and its own width. -/
def drawControl (frame : Frame) (cell : Value) (index : Nat) (c : Control) :
    Performed WidgetFault (Option Kind) := do
  let rect ← Widget.fit (Layout.cellRect cell (.float Layout.defaultPadding) c)
  let cue := frame.cue index
  .bracket (.pushId (toString index)) .popId do
    let x ← Widget.fit (frame.cursor.1.plus rect.x)
    let y ← Widget.fit (frame.cursor.2.plus rect.y)
    .call (.setCursor (.float x) (.float y))
    let kind? ← .bracket (.pushItemWidth rect.width) .popItemWidth
      (Widget.draw cue c rect.width rect.height)
    tooltip cue c.hint
    return kind?

/-- Draws the controls in order, the first under `index`; a fault leaves the rest as they were. -/
def drawControls (frame : Frame) (cell : Value) : Nat → List Control → Drawn
  | _, [] => ⟨[], [], .ok false⟩
  | index, c :: rest =>
    let here := drawControl frame cell index c
    match here.outcome with
    | .error fault => ⟨here.calls, c :: rest, .error fault⟩
    | .ok kind? =>
      let after := drawControls frame cell (index + 1) rest
      ⟨here.calls ++ after.calls, { c with kind := kind?.getD c.kind } :: after.controls,
        (kind?.isSome || ·) <$> after.outcome⟩

/-- The height at which the row of buttons starts: under the grid. -/
def below (frame : Frame) (cell : Value) (controls : List Control) :
    Except ValueFault Double := do
  let (_, rows) ← Layout.gridExtent controls
  let ch ← Layout.side cell 1
  let rows ← (Double.ofInt rows).mapError .number
  frame.cursor.2.plus (rows.mul ch)

/-- Draws all controls and leaves the cursor under them. -/
def draw (frame : Frame) (cell : Value) (controls : List Control) : Drawn :=
  let drawn := drawControls frame cell 0 controls
  match drawn.outcome with
  | .error fault => ⟨.getCursor :: drawn.calls, drawn.controls, .error fault⟩
  | .ok changed =>
    match below frame cell controls with
    | .error fault => ⟨.getCursor :: drawn.calls, drawn.controls, .error (.unfit fault)⟩
    | .ok y =>
      ⟨.getCursor :: drawn.calls ++ [.setCursor frame.cursor.1 (.float y)], drawn.controls,
        .ok changed⟩

/-- The index after the label keeps equal labels apart. -/
def buttonLabel (index : Nat) (b : Button) : Text :=
  b.label ++ ("##button" ++ toString index : String)

def buttonCalls (index : Nat) (b : Button) : List Call :=
  (if index = 0 then [] else [.sameLine]) ++ [.button (buttonLabel index b)]

def rowCalls (buttons : List Button) : List Call :=
  .separator :: (buttons.mapIdx buttonCalls).flatten

/-- The last button that reports a click. -/
def clickedButton? (frame : Frame) (buttons : List Button) : Option Nat :=
  ((List.range buttons.length).filter frame.clicked).getLast?

end ScriptDialog.Panel
