import ScriptDialog.Control.Basic
import ScriptDialog.Toolkit.Call
import ScriptDialog.Toolkit.Frame
import ScriptDialog.Value.Numeric

/-! Widgets: each kind of control shows its value in a widget of the toolkit and takes a changed
value back, within its bounds. -/
namespace ScriptDialog

inductive WidgetFault where
  /-- No widget shows a control of the class. -/
  | unsupported (className : String)
  /-- A colour with fewer than three channels. -/
  | missingChannels (count : Nat)
  /-- The toolkit itself fails. -/
  | toolkit (text : String)
  | unfit (fault : ValueFault)

def WidgetFault.message : WidgetFault → String
  | .unsupported className => "未対応のコントロールです: " ++ Literal.ofText className
  | .missingChannels count => "not enough values to unpack (expected 3, got " ++
      toString count ++ ")"
  | .toolkit text => text
  | .unfit fault => fault.message

namespace Widget

/-- Brings an integer into bounds; a lower bound above the upper one wins. -/
def clampInt (value lo hi : Value) : Except NumberFault Int := do
  let lo ← lo.toInt
  let hi ← hi.toInt
  let value ← value.toInt
  return max lo (min hi value)

/-- Brings a number into bounds; what is no number becomes the lower one. -/
def clampDouble (value lo hi : Value) : Except NumberFault Double := do
  let value ← value.toDouble
  let lo ← lo.toDouble
  if value.isNaN then return lo
  let hi ← hi.toDouble
  return Double.larger lo (Double.smaller hi value)

/-- The place of the value among the items, the first when it is none of them; −1 without items. -/
def dropdownIndex (value items : Value) : Except ValueFault Int :=
  if items.truthy then (fun place => ((place.getD 0 : Nat) : Int)) <$> items.placeIn? value
  else .ok (-1)

/-- The index for a control, which has to have items. -/
def indexOf (c : Control) : Except ValueFault Int :=
  match c.kind with
  | .dropdown value items => dropdownIndex value items
  | kind => .error (.noMember kind.typeName "items")

/-- A channel as a fraction. -/
def fraction (n : Int) : Except NumberFault Double :=
  (fun x => x.div (.whole 255)) <$> Double.ofInt n

/-- The channels as fractions; a fourth one is the opacity. -/
def toFractions (c : Color) (withAlpha : Bool) : Except NumberFault (List Double) := do
  let r ← fraction c.r
  let g ← fraction c.g
  let b ← fraction c.b
  if withAlpha then
    let a ← fraction c.a
    return [r, g, b, (Double.whole 1).sub a]
  else return [r, g, b]

/-- A value that has to be a colour. -/
def colorOf (v : Value) : Except ValueFault Color :=
  match v with
  | .color c => .ok c
  | v => .error (.noMember v.kindName "r")

/-- A fraction as a byte. -/
def toByte (v : Value) : Except NumberFault Int := do
  let x ← v.toDouble
  let n ← (x.mul (.whole 255)).round
  return max 0 (min 255 n)

/-- The colour of fractions. Without a fourth one the transparency of `base` stays. -/
def ofFractions (values : List Value) (base : Color) : Except WidgetFault Color := do
  let bytes ← ((values.take 3).mapM toByte).mapError fun fault => .unfit (.number fault)
  match bytes with
  | [r, g, b] =>
    match values[3]? with
    | none => return ⟨r, g, b, base.a⟩
    | some opacity =>
      let opacity ← (toByte opacity).mapError fun fault => .unfit (.number fault)
      return ⟨r, g, b, 255 - opacity⟩
  | bytes => throw (.missingChannels bytes.length)

/-- The name of the widget for a class of controls. -/
def nameFor (c : Control) : Except WidgetFault String :=
  match c.kind with
  | .bare | .unformed => .error (.unsupported c.className)
  | .color .. => .ok "widget_color"
  | _ => .ok ("widget_" ++ c.className)

/-- All widgets have one label; the ids around them keep them apart. -/
def valueLabel : String := "##value"

/-- Makes the call of a widget, which may fail. -/
def ask (cue : Cue) (c : Call) : Performed WidgetFault Unit :=
  ⟨[c], match cue.failure with
    | some text => .error (.toolkit text)
    | none => .ok ()⟩

/-- A step that needs no call and that a value may be unfit for. -/
def fit {α : Type} (x : Except ValueFault α) : Performed WidgetFault α :=
  .ofExcept (x.mapError .unfit)

/-- A step that needs no call and that a value may be no number for. -/
def fitNumber {α : Type} (x : Except NumberFault α) : Performed WidgetFault α :=
  fit (x.mapError .number)

/-- The text that a widget shows of a value. -/
def textOf (v : Value) : Performed WidgetFault Text := fitNumber v.asText

/-- What the widget reports: the value it was given unless the cue says otherwise. -/
def reply (cue : Cue) (current : Value) : Value := cue.value.getD current

def drawEdit (cue : Cue) (multiline : Bool) (value : Value) (width height : Double) :
    Performed WidgetFault (Option Kind) := do
  let text ← textOf value
  ask cue (if multiline then .inputTextArea valueLabel text width height
    else .inputText valueLabel text)
  return if cue.changed then some (.edit multiline (reply cue (.text text))) else none

/-- The widget counts within 32 bits, whatever the bounds are. -/
def drawInt (cue : Cue) (value min max : Value) : Performed WidgetFault (Option Kind) := do
  let current ← fitNumber (clampInt value (.int Numeral.int32Min) (.int Numeral.int32Max))
  ask cue (.inputInt valueLabel current)
  if cue.changed then
    let n ← fitNumber (clampInt (reply cue (.int current)) min max)
    return some (.intEdit (.int n) min max)
  else return none

/-- A positive step brings buttons with it. -/
def stepSize (step : Value) : Performed WidgetFault Double := do
  if ← fit (Value.holds .greater step (.int 0)) then fitNumber step.toDouble else return .zero

def drawFloat (cue : Cue) (value min max step : Value) : Performed WidgetFault (Option Kind) := do
  let size ← stepSize step
  let current ← fitNumber value.toDouble
  ask cue (.inputFloat valueLabel current size (size.mul (.whole 10)) "%g")
  if cue.changed then
    let x ← fitNumber (clampDouble (reply cue (.float current)) min max)
    return some (.floatEdit (.float x) min max step)
  else return none

/-- Without items the value is shown as text. -/
def drawDropdown (cue : Cue) (value items : Value) : Performed WidgetFault (Option Kind) := do
  let index ← fit (dropdownIndex value items)
  if index < 0 then
    ask cue (.disabledText (← textOf value))
    return none
  else
    let choices ← fit items.parts
    ask cue (.combo valueLabel index choices)
    if cue.changed then
      let choice ← fitNumber (reply cue (.int index)).toInt
      let item ← fit (items.itemAt choice)
      return some (.dropdown item items)
    else return none

def drawCheckbox (cue : Cue) (label value : Value) : Performed WidgetFault (Option Kind) := do
  let text ← textOf label
  ask cue (.checkbox (text ++ valueLabel) value.truthy)
  return if cue.changed then
    some (.checkbox label (.bool (reply cue (.bool value.truthy)).truthy)) else none

def drawColor (cue : Cue) (declared : Bool) (value alpha : Value) :
    Performed WidgetFault (Option Kind) := do
  let base ← fit (colorOf value)
  let channels ← fitNumber (toFractions base alpha.truthy)
  ask cue (.colorEdit valueLabel channels alpha.truthy)
  if cue.changed then
    let out ← fit (reply cue (.list (channels.map Value.float))).parts
    let color ← .ofExcept (ofFractions out base)
    return some (.color declared (.color color) alpha)
  else return none

/-- Draws the widget of a control; gives its kind with the new value if the user changed it. -/
def draw (cue : Cue) (c : Control) (width height : Double) : Performed WidgetFault (Option Kind) :=
  match c.kind with
  | .bare | .unformed => .fail (.unsupported c.className)
  | .label text => do
    ask cue (.text (← textOf text))
    return none
  | .edit multiline value => drawEdit cue multiline value width height
  | .intEdit value min max => drawInt cue value min max
  | .floatEdit value min max step => drawFloat cue value min max step
  | .dropdown value items => drawDropdown cue value items
  | .checkbox label value => drawCheckbox cue label value
  | .color declared value alpha => drawColor cue declared value alpha

end Widget

end ScriptDialog
