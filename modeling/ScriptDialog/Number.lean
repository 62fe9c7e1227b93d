import ScriptDialog.Number.Decimal
import ScriptDialog.Number.Reading

/-! Numbers of the three kinds a script can pass. A flag counts as zero or one. -/
namespace ScriptDialog

/-- What is said about a fault. -/
def NumberFault.message : NumberFault → String
  | .tooWide => "int too large to convert to float"
  | .infinite => "cannot convert float infinity to integer"
  | .notANumber => "cannot convert float NaN to integer"
  | .unreadable literal => "could not convert string to float: " ++ literal
  | .unreadableInt base literal =>
    "invalid literal for int() with base " ++ toString base ++ ": " ++ literal
  | .tooManyDigits count =>
    "Exceeds the limit (4300 digits) for integer string conversion: value has " ++ toString count ++
      " digits; use sys.set_int_max_str_digits() to increase the limit"
  | .tooWideToWrite =>
    "Exceeds the limit (4300 digits) for integer string conversion; " ++
      "use sys.set_int_max_str_digits() to increase the limit"
  | .noInteger kind =>
    "int() argument must be a string, a bytes-like object or a real number, not '" ++ kind ++ "'"
  | .noDouble kind =>
    "float() argument must be a string or a real number, not '" ++ kind ++ "'"
  | .noNumber kind => "must be real number, not " ++ kind

inductive Number where
  | flag (b : Bool)
  | int (n : Int)
  | float (x : Double)
  deriving DecidableEq

namespace Number

def toDouble : Number → Except NumberFault Double
  | .flag b => Double.ofInt (if b then 1 else 0)
  | .int n => Double.ofInt n
  | .float x => .ok x

/-- Drops the fraction. -/
def toInt : Number → Except NumberFault Int
  | .flag b => .ok (if b then 1 else 0)
  | .int n => .ok n
  | .float x => x.truncate

def isNonzero : Number → Bool
  | .flag b => b
  | .int n => n != 0
  | .float x => !x.eq .zero

/-- A number that is no float, as an integer. -/
def whole? : Number → Option Int
  | .flag b => some (if b then 1 else 0)
  | .int n => some n
  | .float _ => none

/-- An integer against a double, without rounding. -/
def compareExact (n : Int) : Double → Option Ordering
  | .nan => none
  | .infinite s => some (if s then .gt else .lt)
  | x@(.finite ..) => some (compare (n * Magnitude.one) x.units)

def compare? (a b : Number) : Option Ordering :=
  match a.whole?, b.whole? with
  | some m, some n => some (compare m n)
  | some m, none =>
    match b with
    | .float y => compareExact m y
    | _ => none
  | none, some n =>
    match a with
    | .float x => (compareExact n x).map Ordering.swap
    | _ => none
  | none, none =>
    match a, b with
    | .float x, .float y =>
      if x.lt y then some .lt else if y.lt x then some .gt else if x.eq y then some .eq else none
    | _, _ => none

def eq (a b : Number) : Bool := compare? a b == some .eq

/-- A whole number times a number: exact unless the second is a float. -/
def scale (count : Int) : Number → Except NumberFault Number
  | .float x => (fun c => .float (c.mul x)) <$> Double.ofInt count
  | .flag b => .ok (.int (if b then count else 0))
  | .int n => .ok (.int (count * n))

/-- The product of two numbers: exact unless one is a float. -/
def mul (a b : Number) : Except NumberFault Number :=
  match a.whole?, b.whole? with
  | some m, some n => .ok (.int (m * n))
  | _, _ => do
    let x ← a.toDouble
    let y ← b.toDouble
    return .float (x.mul y)

/-- The text of a number as a label. -/
def plainText (n : Number) : Except NumberFault String :=
  (fun x => String.ofList (Decimal.plainText x)) <$> n.toDouble

/-- The literal that denotes the number. -/
def literal : Number → List Char
  | .flag b => if b then "True".toList else "False".toList
  | .int n => (toString n).toList
  | .float x => Decimal.exactText x

end Number

end ScriptDialog
