import ScriptDialog.Value

/-! Typed fields of dynamic records. A missing field, and one that cannot be read as the wanted
type, is the default; only text that looks like a number and is none is a fault. -/
namespace ScriptDialog.Field

/-- Text, or a number in its plain form. -/
def text? (v : Value) : Option Text :=
  match v with
  | .atom (.text t) => some t
  | v => v.plainNumber?.bind fun n => n.plainText.toOption.map Text.whole

/-- A number that is no flag, or text that denotes one. -/
def double? (v : Value) : Except NumberFault (Option Double) :=
  match v with
  | .atom (.text (.whole s)) => Numeral.read? s.toList
  | v => .ok (v.plainNumber?.bind fun n => n.toDouble.toOption)

/-- A double without its fraction, if 32 bits hold it. -/
def narrow? (x : Double) : Option Int :=
  match x.truncate with
  | .ok n => if Numeral.int32Min ≤ n ∧ n ≤ Numeral.int32Max then some n else none
  | .error _ => none

def int? (v : Value) : Except NumberFault (Option Int) :=
  (fun x => x.bind narrow?) <$> double? v

def flag? : Value → Option Bool
  | .atom (.bool b) => some b
  | _ => none

/-- The value of a field; a record that is no mapping has none. -/
def value? (record : Value) (key : String) : Option Value :=
  record.entries?.bind fun entries => entries.field? key

def text (record : Value) (key : String) (default : Text) : Text :=
  ((value? record key).bind text?).getD default

def flag (record : Value) (key : String) (default : Bool) : Bool :=
  ((value? record key).bind flag?).getD default

def double (record : Value) (key : String) (default : Double) : Except NumberFault Double :=
  match value? record key with
  | none => .ok default
  | some v => (fun x => x.getD default) <$> double? v

def int (record : Value) (key : String) (default : Int) : Except NumberFault Int :=
  match value? record key with
  | none => .ok default
  | some v => (fun n => n.getD default) <$> int? v

/-- A field of the default's type; the default of any other type stands for text. -/
def like (record : Value) (key : String) (default : Value) : Except NumberFault Value :=
  match default with
  | .atom (.bool b) => .ok (.bool (flag record key b))
  | .atom (.int n) => Value.int <$> int record key n
  | .atom (.float x) => Value.float <$> double record key x
  | default => .ok ((((value? record key).bind text?).map Value.text).getD default)

/-- The texts in a list field, in order; items that are none are left out. -/
def texts (record : Value) (key : String) : List Text :=
  match (record.entries?.bind fun entries => entries.get? (.text key)).bind Value.items? with
  | some items => items.filterMap text?
  | none => []

end ScriptDialog.Field
