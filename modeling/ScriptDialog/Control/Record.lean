import ScriptDialog.Control.Basic
import ScriptDialog.Field
import ScriptDialog.Text.Lower

/-! Controls from the records of a script. A record needs a known class; every other field that is
missing or of the wrong type has its default. -/
namespace ScriptDialog

/-- The parts of a dialog's definition that have to be text. -/
inductive TextPart where
  | label
  | idName
  deriving DecidableEq, Repr

def TextPart.describe : TextPart → String
  | .label => "button label"
  | .idName => "button id name"

/-- Why a dialog cannot be built. -/
inductive BuildFault where
  | controlsNoList
  | recordNoMapping (record : Value)
  | unknownClass (name : Text)
  | badIdEntry (entry : Value)
  | notText (part : TextPart) (value : Value)
  | undeclaredLabel (idName : Text)
  | unfit (fault : ValueFault)

def BuildFault.message : BuildFault → Text
  | .controlsNoList => "Cannot create config dialog from something non-table"
  | .recordNoMapping record => "bad control table entry: " ++ record.literalText
  | .unknownClass name => "bad control table entry: class=" ++ Literal.ofText name
  | .badIdEntry entry => "button id entry must be a (name, label) pair: got=" ++ entry.literalText
  | .notText part value => part.describe ++ " must be a string: got=" ++ value.literalText
  | .undeclaredLabel idName => "Invalid button for id " ++ idName
  | .unfit fault => fault.message

/-- A fault that shows a value in its message; a value that cannot be written is a fault itself. -/
def BuildFault.showing (value : Value) (fault : BuildFault) : BuildFault :=
  if value.writable then fault else .unfit (.number .tooWideToWrite)

namespace Control

/-- The fields that controls of all classes share. -/
def common (record : Value) (kind : Kind) : Except NumberFault Control := do
  let x ← Field.int record "x" 0
  let y ← Field.int record "y" 0
  let width ← Field.int record "width" 1
  let height ← Field.int record "height" 1
  return ⟨.text (Field.text record "name" ""), .text (Field.text record "hint" ""), .int x, .int y,
    .int width, .int height, kind⟩

/-- A field `text` goes before the field `value`. -/
def editKind (multiline : Bool) (record : Value) : Kind :=
  .edit multiline (.text (Field.text record "text" (Field.text record "value" "")))

def intEditKind (record : Value) : Except NumberFault Kind := do
  let value ← Field.int record "value" 0
  let min ← Field.int record "min" Numeral.int32Min
  let max ← Field.int record "max" Numeral.int32Max
  return .intEdit (.int value) (.int min) (.int max)

def floatEditKind (record : Value) : Except NumberFault Kind := do
  let value ← Field.double record "value" .zero
  let min ← Field.double record "min" (.neg .largest)
  let max ← Field.double record "max" .largest
  let step ← Field.double record "step" .zero
  return .floatEdit (.float value) (.float min) (.float max) (.float step)

def colorKind (alpha : Bool) (record : Value) : Except NumberFault Kind := do
  let value ← Color.ofText (Field.text record "value" "")
  return .color alpha (.color value) (.bool alpha)

def dropdownKind (record : Value) : Kind :=
  .dropdown (.text (Field.text record "value" ""))
    (.tuple ((Field.texts record "items").map Value.text))

def checkboxKind (record : Value) : Kind :=
  .checkbox (.text (Field.text record "label" "")) (.bool (Field.flag record "value" false))

/-- How the records of each class are read. -/
def readers : List (Text × (Value → Except NumberFault Kind)) := [
  ("label", fun record => .ok (.label (.text (Field.text record "label" "")))),
  ("edit", fun record => .ok (editKind false record)),
  ("textbox", fun record => .ok (editKind true record)),
  ("intedit", intEditKind),
  ("floatedit", floatEditKind),
  ("dropdown", fun record => .ok (dropdownKind record)),
  ("checkbox", fun record => .ok (checkboxKind record)),
  ("color", colorKind false),
  ("coloralpha", colorKind true)]

/-- The class that a record names, in lower case. -/
def recordClass (record : Value) : Text := Lower.ofText (Field.text record "class" "")

/-- The shared fields are read before those of the class. -/
def readAs (reader : Value → Except NumberFault Kind) (record : Value) :
    Except ValueFault Control := do
  let control ← (common record .bare).mapError .number
  let kind ← (reader record).mapError .number
  let kind ← kind.settle
  return { control with kind := kind }

def ofRecord (record : Value) : Except BuildFault Control :=
  match record.entries? with
  | none => .error (.showing record (.recordNoMapping record))
  | some _ =>
    match readers.lookup (recordClass record) with
    | none => .error (.unknownClass (recordClass record))
    | some reader => (readAs reader record).mapError .unfit

end Control

end ScriptDialog
