import ScriptDialog.Control.Record
import ScriptDialog.Dialog.Basic

/-! Dialogs from the definition a script passes: records of controls, labels of buttons, and pairs
that give buttons a meaning by their label. -/
namespace ScriptDialog.Dialog

/-- Text, or a number in its plain form. -/
def textOf (part : TextPart) (v : Value) : Except BuildFault Text :=
  match v with
  | .atom (.text t) => .ok t
  | v =>
    match v.plainNumber? with
    | some n => (Text.whole <$> n.plainText).mapError fun fault => .unfit (.number fault)
    | none => .error (.showing v (.notText part v))

/-- A pair of a name and a label. -/
def idPair (entry : Value) : Except BuildFault (Value × Value) :=
  match entry.items? with
  | some [name, label] => .ok (name, label)
  | _ => .error (.showing entry (.badIdEntry entry))

/-- The pairs of a mapping or a list; anything else has none. -/
def idPairs (ids : Value) : Except BuildFault (List (Value × Value)) :=
  match ids with
  | .map entries => .ok (entries.map fun (key, label) => (.atom key, label))
  | ids =>
    match ids.items? with
    | some items => items.mapM idPair
    | none => .ok []

def labelButtons (labels : Value) : Except BuildFault (List Button) :=
  match labels.items? with
  | some items => items.mapM fun label => (Button.mk none ·) <$> textOf .label label
  | none => .ok []

/-- Gives the meaning to the first button with the label, if there is one. -/
def assignId? (id : Option ButtonId) (label : Text) : List Button → Option (List Button)
  | [] => none
  | b :: rest =>
    if b.label = label then some ({ b with id := id } :: rest)
    else (assignId? id label rest).map (b :: ·)

def assignPair (buttons : List Button) (pair : Value × Value) :
    Except BuildFault (List Button) := do
  let name ← textOf .idName pair.1
  let label ← textOf .label pair.2
  match assignId? (ButtonId.ofName? name) label buttons with
  | some buttons => return buttons
  | none => throw (.undeclaredLabel name)

/-- The declared buttons, or the default ones when none are declared. -/
def buildButtons (labels ids : Value) (includeButtons : Bool) : Except BuildFault (List Button) :=
  if includeButtons then do
    let declared ← labelButtons labels
    let pairs ← idPairs ids
    let buttons ← pairs.foldlM assignPair declared
    return if buttons.isEmpty then Button.defaults else buttons
  else .ok Button.defaults

def buildControls (controls : Value) : Except BuildFault (List Control) :=
  match controls.items? with
  | none => .error .controlsNoList
  | some records => records.mapM Control.ofRecord

def build (controls labels ids : Value) (includeButtons : Bool) : Except BuildFault Dialog := do
  let controls ← buildControls controls
  let buttons ← buildButtons labels ids includeButtons
  return ⟨controls, buttons, includeButtons, none⟩

end ScriptDialog.Dialog
