import ScriptDialog.Number.Fault
import ScriptDialog.Number.Magnitude

/-! Binary64 numbers and their arithmetic: each result is the exact one rounded to nearest, a tie to
the even neighbour. -/
namespace ScriptDialog

inductive Double where
  | nan
  | infinite (negative : Bool)
  | finite (negative : Bool) (size : Magnitude)
  deriving DecidableEq

namespace Double

def zero : Double := .finite false .zero

/-- The largest finite number. -/
def largest : Double := .finite false .largest

def isNaN : Double → Bool
  | .nan => true
  | _ => false

/-- The double of `num / den` units with a sign, rounded; beyond the largest number it is
infinite. -/
def rounded (negative : Bool) (num den : Nat) : Double :=
  match Magnitude.round? num den with
  | some size => .finite negative size
  | none => .infinite negative

/-- A whole number of units; zero is positive. -/
def ofUnits (units : Int) : Double := rounded (units < 0) units.natAbs 1

/-- A small whole number. -/
def whole (n : Nat) : Double := rounded false (n * Magnitude.one) 1

/-- The nearest double, if a finite one is nearest. -/
def ofInt? (n : Int) : Option Double :=
  (Magnitude.round? (n.natAbs * Magnitude.one) 1).map (.finite (n < 0) ·)

def ofInt (n : Int) : Except NumberFault Double :=
  (ofInt? n).elim (.error .tooWide) .ok

/-- The value in units, for finite numbers. -/
def units : Double → Int
  | .finite true size => -(size.units : Int)
  | .finite false size => size.units
  | _ => 0

def negative : Double → Bool
  | .nan => false
  | .infinite s => s
  | .finite s _ => s

def neg : Double → Double
  | .nan => .nan
  | .infinite s => .infinite !s
  | .finite s size => .finite (!s) size

def add : Double → Double → Double
  | .nan, _ | _, .nan => .nan
  | .infinite s, .infinite t => if s = t then .infinite s else .nan
  | .infinite s, .finite .. => .infinite s
  | .finite .., .infinite t => .infinite t
  | .finite s a, .finite t b =>
    let sum := units (.finite s a) + units (.finite t b)
    if sum = 0 then .finite (s && t) .zero else ofUnits sum

def sub (x y : Double) : Double := add x (neg y)

def mul : Double → Double → Double
  | .nan, _ | _, .nan => .nan
  | .infinite s, .infinite t => .infinite (s != t)
  | .infinite s, .finite t b => if b.units = 0 then .nan else .infinite (s != t)
  | .finite s a, .infinite t => if a.units = 0 then .nan else .infinite (s != t)
  | .finite s a, .finite t b => rounded (s != t) (a.units * b.units) Magnitude.one

/-- Dividing by zero gives an infinity, or no number when zero is divided. -/
def div : Double → Double → Double
  | .nan, _ | _, .nan => .nan
  | .infinite _, .infinite _ => .nan
  | .infinite s, .finite t _ => .infinite (s != t)
  | .finite s _, .infinite t => .finite (s != t) .zero
  | .finite s a, .finite t b =>
    if b.units = 0 then if a.units = 0 then .nan else .infinite (s != t)
    else rounded (s != t) (a.units * Magnitude.one) b.units

/-- Numeric order: zeros are equal and nothing is ordered against `nan`. -/
def lt : Double → Double → Bool
  | .nan, _ | _, .nan => false
  | .infinite s, .infinite t => s && !t
  | .infinite s, .finite .. => s
  | .finite .., .infinite t => !t
  | x@(.finite ..), y@(.finite ..) => units x < units y

def eq : Double → Double → Bool
  | .nan, _ | _, .nan => false
  | .infinite s, .infinite t => s == t
  | .infinite _, .finite .. | .finite .., .infinite _ => false
  | x@(.finite ..), y@(.finite ..) => units x == units y

/-- The larger one; the first of two that are equal or not ordered. -/
def larger (x y : Double) : Double := if lt x y then y else x

/-- The smaller one; the first of two that are equal or not ordered. -/
def smaller (x y : Double) : Double := if lt y x then y else x

/-- An integer made from the magnitude by `whole`, with the sign put back. -/
def toIntBy (whole : Nat → Nat) : Double → Except NumberFault Int
  | .nan => .error .notANumber
  | .infinite _ => .error .infinite
  | .finite s size => .ok (if s then -(whole size.units : Int) else whole size.units)

/-- Drops the fraction. -/
def truncate (x : Double) : Except NumberFault Int := toIntBy (· / Magnitude.one) x

/-- The integer nearest to `n / 2¹⁰⁷⁴`, a tie going to the even one. -/
def roundHalfEven (n : Nat) : Nat :=
  let below := n / Magnitude.one
  let excess := 2 * (n % Magnitude.one)
  if excess < Magnitude.one ∨ (excess = Magnitude.one ∧ below % 2 = 0) then below else below + 1

def round (x : Double) : Except NumberFault Int := toIntBy roundHalfEven x

/-- The double nearest to `digits · 10 ^ exponent`. Sizes far outside the range are told from the
number of digits alone. -/
def ofDecimal (negative : Bool) (digits : Nat) (exponent : Int) : Double :=
  let top : Int := (Nat.toDigits 10 digits).length + exponent
  if digits = 0 ∨ top < -330 then .finite negative .zero
  else if 310 < top then .infinite negative
  else if 0 ≤ exponent then rounded negative (digits * Nat.pow 10 exponent.toNat * Magnitude.one) 1
  else rounded negative (digits * Magnitude.one) (Nat.pow 10 exponent.natAbs)

end Double

end ScriptDialog
