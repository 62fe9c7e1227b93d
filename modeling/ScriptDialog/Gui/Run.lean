import ScriptDialog.Config.Basic
import ScriptDialog.Gui.Broken

/-! Running a dialog: a window is opened, the event loop draws frames until a button is pressed or
the window is closed, and the values are read back. -/
namespace ScriptDialog

inductive RunFault where
  | gui (fault : GuiFault)
  | unfit (fault : ValueFault)
  | control (fault : ControlFault)
  /-- The event loop fails with this text. -/
  | loop (text : String)

def RunFault.message : RunFault → String
  | .gui fault => fault.message
  | .unfit fault => fault.message
  | .control fault => fault.message
  | .loop text => text

/-- What the event loop delivers until it ends, also once it was asked to end. `detach` takes the
window off the loop's list first; a frame may fail at one of its calls, with a text. -/
inductive Event where
  | fail (text : String)
  | close (detach : Bool)
  | tick (detach : Bool) (frame : Frame) (dt : Value) (broken? : Option (Nat × String))

/-- A dialog in the event loop. -/
structure Running where
  gui : Gui
  dialog : Dialog
  clock : Double
  /-- The window is on the loop's list. -/
  attached : Bool
  calls : List Call
  notices : List Notice

namespace Running

def log (r : Running) (calls : List Call) : Running := { r with calls := r.calls ++ calls }

def detachIf (r : Running) (detach : Bool) : Running :=
  { r with attached := r.attached && !detach }

/-- Asks the loop to end. -/
def exit (r : Running) : Running := r.log [.exitLoop]

/-- Draws a frame while the window is on the list; with a pressed button the loop is to end. -/
def drawTick (r : Running) (frame : Frame) (dt : Value) (broken? : Option (Nat × String)) :
    Running × Option RunFault :=
  if r.attached then
    let step := (Gui.Request.draw frame r.clock broken?).serve r.gui r.dialog
    let r := { r.log (.drawWindow dt :: step.calls) with
      gui := step.gui, dialog := step.dialog, notices := r.notices ++ step.notices }
    match step.outcome with
    | .error fault => (r, some (.gui fault))
    | .ok pressed => (if pressed then r.exit else r, none)
  else (r, none)

def handle (r : Running) : Event → Running × Option RunFault
  | .fail text => (r, some (.loop text))
  | .close detach => (((r.detachIf detach).log [.closeEvent]).exit, none)
  | .tick detach frame dt broken? =>
    let r := (r.detachIf detach).log [.tickEvent]
    drawTick { r with clock := frame.now.getD r.clock } frame dt broken?

/-- Handles events until they end or one fails. -/
def loop (r : Running) : List Event → Running × Option RunFault
  | [] => (r, none)
  | event :: events =>
    match r.handle event with
    | (r, some fault) => (r, some fault)
    | (r, none) => loop r events

/-- Closing without a pressed button is announced, and pushes none. -/
def closingNotices (r : Running) : List Notice :=
  if r.gui.finished then [] else .closedUnpressed :: r.dialog.pushNotices .null

/-- Takes the drawing off the clock and closes the dialog; one without a pressed button counts as
cancelled. -/
def finish (r : Running) : Running × Except GuiFault Unit :=
  let dialog := if r.gui.finished then r.dialog else r.dialog.push .null
  let (gui, closing) := r.gui.closeOn
  ({ r.log (.unschedule :: closing.calls) with
      gui, dialog, notices := r.notices ++ r.closingNotices }, closing.outcome)

end Running

namespace Run

/-- A run's effect on the dialog, the toolkit and the log. -/
structure Result where
  dialog : Dialog
  calls : List Call
  notices : List Notice
  outcome : Except RunFault Reading

/-- How often frames are drawn: as often as possible unless the rate is positive. -/
def scheduleCall (fps : Value) : Except ValueFault Call := do
  if ← Value.holds .atMost fps (.int 0) then return .schedule
  let rate ← fps.toDouble.mapError .number
  return .scheduleEvery ((Double.whole 1).div rate)

/-- Opens the window and the dialog in it, and sets the drawing on the clock. -/
def start (config : Config) (host : Host) (d : Dialog) (title : String) (fps : Value)
    (now : Double) : Performed RunFault Gui := do
  let cell := Value.pair (.int config.cellSize.1) (.int config.cellSize.2)
  let least := Value.pair (.int config.windowSize.1) (.int config.windowSize.2)
  let (width, height) ←
    .ofExcept ((Layout.windowSize d.controls cell least d.usesButtons).mapError .unfit)
  let place := Value.pair (.int config.windowPos.1) (.int config.windowPos.2)
  let window ← (Window.create host (.int width) (.int height) title place true).mapFault .gui
  let gui ← (Gui.create host window cell title now).mapFault .gui
  (host.call .pushHandlers).mapFault .gui
  let timer ← .ofExcept ((scheduleCall fps).mapError .unfit)
  (host.call timer).mapFault .gui
  return gui

/-- Runs the dialog over the events and reads it back. Once the loop was entered, the dialog is
closed in any case, and a fault of the closing goes before one of the loop. -/
def dialog (config : Config) (host : Host) (d : Dialog) (title : String) (fps : Value)
    (now : Double) (events : List Event) : Result :=
  let started := start config host d title fps now
  match started.outcome with
  | .error fault => ⟨d, started.calls, [], .error fault⟩
  | .ok gui =>
    let (r, fault?) := Running.loop ⟨gui, d, now, true, started.calls ++ [.runLoop], []⟩ events
    let (r, closed) := r.finish
    match closed, fault? with
    | .error fault, _ => ⟨r.dialog, r.calls, r.notices, .error (.gui fault)⟩
    | .ok (), some fault => ⟨r.dialog, r.calls, r.notices, .error fault⟩
    | .ok (), none =>
      ⟨r.dialog, r.calls, r.notices ++ r.dialog.readBackNotices,
        r.dialog.readBack.mapError .control⟩

end Run

end ScriptDialog
