import ScriptDialog.Button
import ScriptDialog.Control.Saved

/-! Dialogs: controls, buttons, and the button that was pressed. -/
namespace ScriptDialog

structure Dialog where
  controls : List Control
  buttons : List Button
  /-- Without buttons only the values are read back. -/
  usesButtons : Bool
  pressed : Option Nat

/-- What a script reads back. -/
structure Reading where
  /-- The label of the pressed button, unless it cancels; absent in a dialog without buttons. -/
  answer : Option (Option Text)
  /-- One value per name, in the order of first use. -/
  values : List (Value × Value)

namespace Dialog

/-- The index that a value stands for: an integer that is no flag and counts a button. -/
def index? (d : Dialog) (v : Value) : Option Nat :=
  match v with
  | .atom (.int n) => if 0 ≤ n ∧ n < d.buttons.length then some n.toNat else none
  | _ => none

/-- Any value that is no index means that no button was pressed. -/
def push (d : Dialog) (v : Value) : Dialog := { d with pressed := d.index? v }

def pressedButton (d : Dialog) : Option Button := d.pressed.bind fun i => d.buttons[i]?

/-- The value of the last control with a name stands under the place of the first. -/
def values (controls : List Control) : Except ControlFault (List (Value × Value)) :=
  controls.foldlM (fun found c => do
    let value ← c.readBack
    let name ← c.name.asKey.mapError .unfit
    return Value.putUnder name value found) []

/-- The label of the pressed button; none when there is none or it cancels. -/
def answer (d : Dialog) : Option Text :=
  d.pressedButton.bind fun b => if b.id = some .cancel then none else some b.label

def readBack (d : Dialog) : Except ControlFault Reading := do
  let values ← values d.controls
  return ⟨if d.usesButtons then some d.answer else none, values⟩

end Dialog

end ScriptDialog
