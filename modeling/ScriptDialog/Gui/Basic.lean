import ScriptDialog.Gui.Window
import ScriptDialog.Notice
import ScriptDialog.Panel

/-! A dialog on the screen: made once, drawn frame by frame, and closed once. -/
namespace ScriptDialog

structure Gui where
  host : Host
  window : Window
  /-- The size of a grid cell: a pair of doubles. -/
  cell : Value
  title : String
  /-- The time of the last frame. -/
  lastFrame : Double
  closed : Bool
  /-- A button was pressed. -/
  finished : Bool

namespace Gui

/-- The calls that make the renderer, if the host offers one. -/
def rendererCalls (host : Host) : List Call :=
  (if host.renderer = .factory then [.createRenderer] else []) ++ .newRenderer ::
    if host.refreshesFont then [.refreshFont] else []

/-- Makes the renderer that the host offers. -/
def createRenderer (host : Host) : Performed GuiFault Unit :=
  match host.importFailure with
  | some reason => .fail (.importFailed reason)
  | none =>
    match host.renderer with
    | .missing => .fail .noRenderer
    | .factory | .plain => host.calls (rendererCalls host)

def create (host : Host) (window : Window) (cell : Value) (title : String) (now : Double) :
    Performed GuiFault Gui := do
  let width ← .ofExcept ((Layout.side cell 0).mapError .unfit)
  let height ← .ofExcept ((Layout.side cell 1).mapError .unfit)
  host.calls [.createContext, .setContext, .darkStyle]
  createRenderer host
  return ⟨host, window, .pair (.float width) (.float height), title, now, false, false⟩

/-- The shortest time between frames. -/
def leastDelta : Double := .ofDecimal false 1 (-4)

/-- The pixels of a window, at least one on each side, and those of its framebuffer. -/
structure Pixels where
  width : Int
  height : Int
  bufferWidth : Number
  bufferHeight : Number

def pixels (host : Host) (window : Window) : Except NumberFault Pixels := do
  let width ← window.width.toInt
  let height ← window.height.toInt
  let bufferWidth ← Number.mul window.width host.scale
  let bufferHeight ← Number.mul window.height host.scale
  return ⟨max 1 width, max 1 height, bufferWidth, bufferHeight⟩

/-- The framebuffer pixels for each pixel of a side. -/
def sideScale (buffer : Number) (side : Double) : Except NumberFault Double :=
  (·.div side) <$> buffer.toDouble

/-- Tells the widget library the time since the last frame and the size of the window. -/
def sync (g : Gui) (delta : Double) : Performed NumberFault Unit := do
  .call (.deltaTime (Double.larger delta leastDelta))
  let p ← .ofExcept (pixels g.host g.window)
  let width ← .ofExcept (Double.ofInt p.width)
  let height ← .ofExcept (Double.ofInt p.height)
  .call (.displaySize width height)
  let x ← .ofExcept (sideScale p.bufferWidth width)
  let y ← .ofExcept (sideScale p.bufferHeight height)
  .call (.framebufferScale x y)

/-- Dark grey. -/
def background : Call :=
  let shade := Double.ofDecimal false 12 (-2)
  .clearColor shade shade shade (.whole 1)

/-- A frame's effect on the dialog, the toolkit and the log. -/
structure Step where
  gui : Gui
  dialog : Dialog
  calls : List Call
  notices : List Notice
  /-- Whether a button was pressed. -/
  outcome : Except GuiFault Bool

/-- The calls that open a frame and its one window. -/
def opening (g : Gui) : List Call :=
  [.newFrame, .placeWindow, .sizeWindow g.window.width g.window.height, .beginWindow g.title]

/-- The calls that put a frame on the screen. -/
def presenting : List Call :=
  [.renderFrame, background, .clearWindow, .getDrawData, .renderDrawData]

/-- The row of buttons, in a dialog that has one. -/
def buttonRow (d : Dialog) : List Call := if d.usesButtons then Panel.rowCalls d.buttons else []

def clicked? (frame : Frame) (d : Dialog) : Option Nat :=
  if d.usesButtons then Panel.clickedButton? frame d.buttons else none

/-- Draws one frame at the time `now`. A click that is seen presses the button once the frame
stands. A closed dialog draws nothing. -/
def drawFrame (g : Gui) (d : Dialog) (frame : Frame) (now : Double) : Step :=
  if g.closed then ⟨g, d, [], [], .ok false⟩
  else
    let synced := g.sync (now.sub g.lastFrame)
    match synced.outcome with
    | .error fault => ⟨g, d, .setContext :: synced.calls, [], .error (.unfit (.number fault))⟩
    | .ok () =>
      let g := { g with lastFrame := now }
      let panel := Panel.draw frame g.cell d.controls
      let d := { d with controls := panel.controls }
      let before := .setContext :: synced.calls ++ g.opening ++ panel.calls
      match panel.outcome with
      | .error fault => ⟨g, d, before ++ [.endWindow], [], .error (.widget fault)⟩
      | .ok _ =>
        let calls := before ++ buttonRow d ++ .endWindow :: presenting
        match clicked? frame d with
        | none => ⟨g, d, calls, [], .ok false⟩
        | some index =>
          ⟨{ g with finished := true }, d.push (.int index), calls, d.pushNotices (.int index),
            .ok true⟩

def closing (host : Host) : List Call :=
  (if host.shutsDown then [.shutdownRenderer] else []) ++ [.destroyContext, .closeWindow]

/-- Closes the dialog. Closing it again does nothing. -/
def close (g : Gui) : Gui × List Call :=
  if g.closed then (g, []) else ({ g with closed := true }, closing g.host)

end Gui

end ScriptDialog
