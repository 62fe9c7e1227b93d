import ScriptDialog.Value
import ScriptDialog.Value.Fault

/-! Values as numbers: numbers stand for themselves, text and bytes for the number they spell. -/
namespace ScriptDialog.Value

/-- Bytes as the characters of ASCII, if they are such. -/
def asciiChars? (bytes : List UInt8) : Option (List Char) :=
  if bytes.all (·.toNat < 0x80) then some (bytes.map fun b => Char.ofNat b.toNat) else none

/-- The integer that a number, a text or bytes denote. -/
def toInt (v : Value) : Except NumberFault Int :=
  match v with
  | .atom (.text (.whole s)) => Numeral.readInt (Literal.ofText s) s.toList
  | .atom (.text t) => .error (.unreadableInt 10 (Literal.ofText t))
  | .atom (.bytes b) =>
    let literal := String.ofList (Literal.ofBytes b)
    match asciiChars? b with
    | some chars => Numeral.readInt literal chars
    | none => .error (.unreadableInt 10 literal)
  | v =>
    match v.number? with
    | some n => n.toInt
    | none => .error (.noInteger v.kindName)

/-- The double that a number, a text or bytes denote. -/
def toDouble (v : Value) : Except NumberFault Double :=
  match v with
  | .atom (.text (.whole s)) => Numeral.readDouble (Literal.ofText s) s.toList
  | .atom (.text t) => .error (.unreadable (Literal.ofText t))
  | .atom (.bytes b) =>
    let literal := String.ofList (Literal.ofBytes b)
    match asciiChars? b with
    | some chars => Numeral.readDouble literal chars
    | none => .error (.unreadable literal)
  | v =>
    match v.number? with
    | some n => n.toDouble
    | none => .error (.noDouble v.kindName)

/-- The text of a number as a label. -/
def plainText (v : Value) : Except NumberFault String :=
  match v.number? with
  | some n => n.plainText
  | none => .error (.noNumber v.kindName)

/-- The sum of a value and a double, in this order. -/
def plus (v : Value) (x : Double) : Except ValueFault Double :=
  match v with
  | .atom (.text _) | .atom (.bytes _) | .list _ | .tuple _ => .error (.doubleAfter v.kindName)
  | v =>
    match v.number? with
    | some n => ((·.add x) <$> n.toDouble).mapError .number
    | none => .error (.noOperation "+" v.kindName "float")

/-- A value that is put after a double. -/
def addend (v : Value) : Except ValueFault Double :=
  match v.number? with
  | some n => n.toDouble.mapError .number
  | none => .error (.noOperation "+" "float" v.kindName)

/-- A whole multiple of a value and a double more. However often a sequence is repeated, a double
cannot follow it. -/
def multiplePlus (count : Int) (v : Value) (x : Double) : Except ValueFault Double :=
  match v with
  | .atom (.text _) | .atom (.bytes _) | .list _ | .tuple _ => .error (.doubleAfter v.kindName)
  | v =>
    match v.number? with
    | some n => do
      let product ← (Number.scale count n).mapError .number
      let total ← product.toDouble.mapError .number
      return total.add x
    | none => .error (.noOperation "*" "int" v.kindName)

@[simp] theorem toInt_int (n : Int) : toInt (.int n) = .ok n := rfl

@[simp] theorem toDouble_int (n : Int) : toDouble (.int n) = Double.ofInt n := rfl

@[simp] theorem toDouble_float (x : Double) : toDouble (.float x) = .ok x := rfl

end ScriptDialog.Value
