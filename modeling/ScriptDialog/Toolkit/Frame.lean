import ScriptDialog.Value

/-! What the toolkit answers during one frame. -/
namespace ScriptDialog

/-- The answers while the widget of one control is drawn. -/
structure Cue where
  changed : Bool
  /-- The value the widget reports; the one it was given when absent. -/
  value : Option Value
  hovered : Bool
  /-- The widget fails with this text. -/
  failure : Option String

/-- Nothing happens to the widget. -/
def Cue.idle : Cue := ⟨false, none, false, none⟩

structure Frame where
  /-- Where the first control's place is counted from. -/
  cursor : Value × Value
  /-- The answers by the index of the control. -/
  cue : Nat → Cue
  /-- The buttons that report a click. -/
  clicked : Nat → Bool
  /-- The time the clock is set to; it stands still when absent. -/
  now : Option Double

end ScriptDialog
