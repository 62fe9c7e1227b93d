import ScriptDialog.Control.Basic

/-! Controls made and changed by the program around them, without the reading of records: a field
holds what it is given, and only a new control's bounds and choice are put right. -/
namespace ScriptDialog

inductive AssignFault where
  /-- A new control is given a field that its kind does not declare. -/
  | undeclared (typeName field : String)
  /-- The kind has no such field. -/
  | absent (typeName field : String)
  /-- The field is worked out from others. -/
  | computed (typeName field : String)
  /-- The field belongs to the kind and not to one control. -/
  | fixed (typeName field : String)
  | unfit (fault : ValueFault)

def AssignFault.message : AssignFault → String
  | .undeclared typeName field =>
    typeName ++ ".__init__() got an unexpected keyword argument '" ++ field ++ "'"
  | .absent typeName field => (ValueFault.noMember typeName field).message
  | .computed typeName field =>
    "property '" ++ field ++ "' of '" ++ typeName ++ "' object has no setter"
  | .fixed typeName field =>
    "'" ++ typeName ++ "' object attribute '" ++ field ++ "' is read-only"
  | .unfit fault => fault.message

namespace Kind

/-- The kind with one of its fields replaced, if it has the field. -/
def assign? (kind : Kind) (field : String) (v : Value) : Option Kind :=
  match kind, field with
  | .label _, "label" => some (.label v)
  | .edit multiline _, "value" => some (.edit multiline v)
  | .intEdit _ min max, "value" => some (.intEdit v min max)
  | .intEdit value _ max, "min" => some (.intEdit value v max)
  | .intEdit value min _, "max" => some (.intEdit value min v)
  | .floatEdit _ min max step, "value" => some (.floatEdit v min max step)
  | .floatEdit value _ max step, "min" => some (.floatEdit value v max step)
  | .floatEdit value min _ step, "max" => some (.floatEdit value min v step)
  | .floatEdit value min max _, "step" => some (.floatEdit value min max v)
  | .dropdown _ items, "value" => some (.dropdown v items)
  | .dropdown value _, "items" => some (.dropdown value v)
  | .checkbox _ value, "label" => some (.checkbox v value)
  | .checkbox text _, "value" => some (.checkbox text v)
  | .color declared _ alpha, "value" => some (.color declared v alpha)
  | .color declared value _, "alpha" => some (.color declared value v)
  | _, _ => none

/-- The names that belong to all kinds as a whole. -/
def sharedNames : List String :=
  ["control_class", "read_back", "serialize_value", "deserialize_value"]

/-- The names that belong to a kind as a whole. -/
def fixedNames : Kind → List String
  | .bare | .unformed => sharedNames
  | .color .. => "with_alpha" :: "from_record" :: sharedNames
  | _ => "from_record" :: sharedNames

end Kind

namespace Control

/-- A new control of the class as it is before any field is given. -/
def blank? (className : String) : Option Control :=
  let kind? : Option Kind := match className with
    | "" => some .bare
    | "persistable" => some .unformed
    | "label" => some (.label (.text ""))
    | "edit" => some (.edit false (.text ""))
    | "textbox" => some (.edit true (.text ""))
    | "intedit" => some (.intEdit (.int 0) (.int Numeral.int32Min) (.int Numeral.int32Max))
    | "floatedit" => some
      (.floatEdit (.float .zero) (.float (.neg .largest)) (.float .largest) (.float .zero))
    | "dropdown" => some (.dropdown (.text "") (.tuple []))
    | "checkbox" => some (.checkbox (.text "") (.bool false))
    | "color" => some (.color false (.color .black) (.bool false))
    | "coloralpha" => some (.color true (.color .black) (.bool true))
    | _ => none
  kind?.map fun kind => ⟨.text "", .text "", .int 0, .int 0, .int 1, .int 1, kind⟩

/-- The control with one field replaced, if it has the field. -/
def assign? (c : Control) (field : String) (v : Value) : Option Control :=
  match field with
  | "name" => some { c with name := v }
  | "hint" => some { c with hint := v }
  | "x" => some { c with x := v }
  | "y" => some { c with y := v }
  | "width" => some { c with width := v }
  | "height" => some { c with height := v }
  | _ => (c.kind.assign? field v).map fun kind => { c with kind }

/-- Puts a value into a field, whatever the value is. -/
def assign (c : Control) (field : String) (v : Value) : Except AssignFault Control :=
  match c.assign? field v with
  | some c => .ok c
  | none =>
    let typeName := c.kind.typeName
    if field = "can_persist_value" then .error (.computed typeName field)
    else if field ∈ c.kind.fixedNames then .error (.fixed typeName field)
    else .error (.absent typeName field)

/-- The control with the given fields; all of them have to be its own. -/
def given (c : Control) (fields : List (String × Value)) : Except AssignFault Control :=
  fields.foldlM (fun c (field, v) =>
    match c.assign? field v with
    | some c => .ok c
    | none => .error (.undeclared c.kind.typeName field)) c

/-- A new control of the class with the given fields, if there is such a class. -/
def create? (className : String) (fields : List (String × Value)) :
    Option (Except AssignFault Control) :=
  (blank? className).map fun c => do
    let c ← c.given fields
    let kind ← c.kind.settle.mapError .unfit
    return { c with kind }

end Control

end ScriptDialog
