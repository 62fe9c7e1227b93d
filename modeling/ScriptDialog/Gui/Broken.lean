import ScriptDialog.Gui.Basic

/-! A toolkit that fails. The call that fails is the last one of the frame, apart from the endings
of what is open by then; the values taken until then stay, and no button is pressed. A closing that
fails gives up nothing more. -/
namespace ScriptDialog

namespace Call

/-- The call that ends what this one begins. -/
def ending? : Call → Option Call
  | .beginWindow _ => some .endWindow
  | .pushId _ => some .popId
  | .pushItemWidth _ => some .popItemWidth
  | _ => none

def ends : Call → Bool
  | .endWindow | .popId | .popItemWidth => true
  | _ => false

/-- The end of a control; what its widget reports is taken then. -/
def isPopId : Call → Bool
  | .popId => true
  | _ => false

/-- The endings that are due after one more call, the innermost first. -/
def due (endings : List Call) (c : Call) : List Call :=
  match c.ending? with
  | some ending => ending :: endings
  | none => if c.ends then endings.tail else endings

end Call

namespace Gui

/-- The endings that are left when a call fails behind others. A beginning that fails has none; an
ending that fails is not made again. -/
def endings (before : List Call) (c : Call) : List Call :=
  (if c.ends then before ++ [c] else before).foldl Call.due []

/-- A frame in which the call at a place fails with a text; one with fewer calls stands as it is. -/
def drawBroken (g : Gui) (d : Dialog) (frame : Frame) (now : Double) (place : Nat) (text : String) :
    Step :=
  let s := g.drawFrame d frame now
  match s.calls[place]? with
  | none => s
  | some c =>
    let before := s.calls.take place
    let synced := (g.sync (now.sub g.lastFrame)).calls.length < place
    let drawn := before.countP Call.isPopId
    ⟨{ g with lastFrame := if synced then now else g.lastFrame },
      { d with controls := s.dialog.controls.take drawn ++ d.controls.drop drawn },
      before ++ c :: endings before c, [], .error (.widget (.toolkit text))⟩

/-- What a program asks of a dialog on the screen. -/
inductive Request where
  /-- A frame at a time; the toolkit may fail at one of its calls. -/
  | draw (frame : Frame) (now : Double) (broken? : Option (Nat × String))
  | close

def Request.serve (g : Gui) (d : Dialog) : Request → Step
  | .draw frame now none => g.drawFrame d frame now
  | .draw frame now (some (place, text)) => g.drawBroken d frame now place text
  | .close => ⟨g.close.1, d, g.close.2, [], .ok false⟩

/-- Closes the dialog on a host that may fail at one of the calls. -/
def closeOn (g : Gui) : Gui × Performed GuiFault Unit :=
  if g.closed then (g, pure ()) else ({ g with closed := true }, g.host.calls (closing g.host))

end Gui

end ScriptDialog
