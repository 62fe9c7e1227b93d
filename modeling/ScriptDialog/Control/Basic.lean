import ScriptDialog.Value.Sequence

/-! The controls of a dialog: a name, a place on the grid, and a value of the control's kind. A
script's records give every field its type; the program around a dialog may put any value into any
field, and what the value is good for shows when it is used. -/
namespace ScriptDialog

inductive Kind where
  /-- A place without a value. -/
  | bare
  /-- A value without any way to read or write it. -/
  | unformed
  | label (text : Value)
  | edit (multiline : Bool) (value : Value)
  | intEdit (value min max : Value)
  | floatEdit (value min max step : Value)
  | dropdown (value items : Value)
  | checkbox (label value : Value)
  /-- The flag is the kind's own; `alpha` says whether the transparency is in use. -/
  | color (declaredAlpha : Bool) (value alpha : Value)

structure Control where
  name : Value
  hint : Value
  x : Value
  y : Value
  width : Value
  height : Value
  kind : Kind

namespace Kind

/-- A value that is not among the items becomes the first of them. -/
def dropdownAmong (value : Value) (items : List Value) : Kind :=
  match items with
  | [] => .dropdown value (.tuple [])
  | first :: rest =>
    .dropdown (if (first :: rest).any value.same then value else first) (.tuple (first :: rest))

/-- The kind as a new control has it. Bounds that leave no room become the widest ones: all of
32 bits, or all finite numbers. -/
def settle : Kind → Except ValueFault Kind
  | .intEdit value min max => do
    let crossed ← Value.holds .atLeast min max
    return if crossed then .intEdit value (.int Numeral.int32Min) (.int Numeral.int32Max)
      else .intEdit value min max
  | .floatEdit value min max step => do
    let ordered ← Value.holds .less min max
    return if ordered then .floatEdit value min max step
      else .floatEdit value (.float (.neg .largest)) (.float .largest) step
  | .dropdown value items => dropdownAmong value <$> items.parts
  | kind => .ok kind

/-- Integers as bounds never keep a control from being made. -/
theorem settle_intEdit (value : Value) (min max : Int) :
    settle (.intEdit value (.int min) (.int max)) =
      .ok (if max ≤ min then .intEdit value (.int Numeral.int32Min) (.int Numeral.int32Max)
        else .intEdit value (.int min) (.int max)) := by
  simp [settle, bind, Except.bind, pure, Except.pure]

def className : Kind → String
  | .bare | .unformed => ""
  | .label _ => "label"
  | .edit false _ => "edit"
  | .edit true _ => "textbox"
  | .intEdit .. => "intedit"
  | .floatEdit .. => "floatedit"
  | .dropdown .. => "dropdown"
  | .checkbox .. => "checkbox"
  | .color false .. => "color"
  | .color true .. => "coloralpha"

/-- The kind of control, as messages name it. -/
def typeName : Kind → String
  | .bare => "DialogControl"
  | .unformed => "PersistableControl"
  | .label _ => "LabelControl"
  | .edit false _ => "EditControl"
  | .edit true _ => "TextboxControl"
  | .intEdit .. => "IntEditControl"
  | .floatEdit .. => "FloatEditControl"
  | .dropdown .. => "DropdownControl"
  | .checkbox .. => "CheckboxControl"
  | .color false .. => "ColorControl"
  | .color true .. => "ColorAlphaControl"

end Kind

namespace Control

def className (c : Control) : String := c.kind.className

/-- Whether the value can be saved. -/
def persists (c : Control) : Bool :=
  match c.kind with
  | .bare | .label _ => false
  | _ => true

/-- Whether the control has the name; one whose name is no text has none. -/
def isNamed (c : Control) (name : String) : Bool :=
  match c.name with
  | .atom (.text t) => t == name
  | _ => false

/-- The value of the control, if its kind has one. -/
def value? (c : Control) : Option Value :=
  match c.kind with
  | .bare | .unformed | .label _ => none
  | .edit _ value | .intEdit value .. | .floatEdit value .. | .dropdown value _ |
    .checkbox _ value | .color _ value _ => some value

end Control

end ScriptDialog
