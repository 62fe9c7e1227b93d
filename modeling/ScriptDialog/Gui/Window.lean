import ScriptDialog.Toolkit.Call
import ScriptDialog.Value.Numeric
import ScriptDialog.Value.Sequence
import ScriptDialog.Widget

/-! The window of a dialog and what the toolkit offers on the host. -/
namespace ScriptDialog

inductive GuiFault where
  | importFailed (reason : String)
  | noRenderer
  /-- A call on the toolkit fails with this text. -/
  | toolkit (text : String)
  | widget (fault : WidgetFault)
  | unfit (fault : ValueFault)

def GuiFault.message : GuiFault → String
  | .importFailed reason => "imgui.integrations.pyglet を import できない: " ++ reason
  | .noRenderer => "imgui.integrations.pyglet に renderer がありません"
  | .toolkit text => text
  | .widget fault => fault.message
  | .unfit fault => fault.message

/-- How the integration of the widget library makes its renderer. -/
inductive RendererOffer where
  | factory
  | plain
  | missing
  deriving DecidableEq, Repr

structure Host where
  /-- The size windows get, where it is not the one asked for. -/
  width : Option Number
  height : Option Number
  /-- Framebuffer pixels per window pixel. -/
  scale : Number
  renderer : RendererOffer
  refreshesFont : Bool
  shutsDown : Bool
  /-- The integration cannot be loaded, for this reason. -/
  importFailure : Option String
  /-- The text with which a call fails, where a dialog is set up or closed. -/
  failure? : Call → Option String

/-- The toolkit in its usual state. -/
def Host.usual : Host := ⟨none, none, .int 1, .factory, true, true, none, fun _ => none⟩

/-- A call on the host. One that fails has done nothing and is not among the calls that were
made. -/
def Host.call (host : Host) (c : Call) : Performed GuiFault Unit :=
  match host.failure? c with
  | none => .call c
  | some text => .fail (.toolkit text)

/-- Calls on the host, as far as they succeed. -/
def Host.calls (host : Host) : List Call → Performed GuiFault Unit
  | [] => pure ()
  | c :: calls => do
    host.call c
    host.calls calls

/-- A window with the size that the host gave it. -/
structure Window where
  width : Number
  height : Number

namespace Window

def given (host : Host) (width height : Int) : Window :=
  ⟨host.width.getD (.int width), host.height.getD (.int height)⟩

/-- The first two places of a position, as integers. -/
def position (place : Value) : Except ValueFault (Int × Int) := do
  let x ← place.itemAt 0
  let x ← x.toInt.mapError .number
  let y ← place.itemAt 1
  let y ← y.toInt.mapError .number
  return (x, y)

/-- Opens a window of fixed size, and moves it if a position is given; null is none. -/
def create (host : Host) (width height : Value) (caption : String) (place : Value)
    (vsync : Bool) : Performed GuiFault Window := do
  let width ← .ofExcept (width.toInt.mapError (.unfit <| .number ·))
  let height ← .ofExcept (height.toInt.mapError (.unfit <| .number ·))
  host.call (.openWindow width height caption vsync)
  match place with
  | .atom .null => pure ()
  | place =>
    let (x, y) ← .ofExcept ((position place).mapError .unfit)
    host.call (.moveWindow x y)
  return given host width height

end Window

end ScriptDialog
