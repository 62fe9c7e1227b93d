import ScriptDialog.Number.Double

/-! Decimal text of a double. A number of `u` units is `u · 5¹⁰⁷⁴ · 10⁻¹⁰⁷⁴`, so its exact decimal
digits are those of a natural number, and every shorter form is a cut of them. -/
namespace ScriptDialog.Decimal

/-- Significant digits and the place of the point: the value is `0.digits · 10 ^ point`. -/
structure Form where
  digits : List Char
  point : Int
  deriving DecidableEq, Repr

/-- The exact value, counted in `10⁻¹⁰⁷⁴`. -/
def expansion (size : Magnitude) : Nat := size.units * Nat.pow 5 1074

/-- The form of `significand · 10 ^ dropped` in the counting of `expansion`, without trailing
zeros. -/
def Form.of (significand dropped : Nat) : Form :=
  let digits := Nat.toDigits 10 significand
  let kept := (digits.reverse.dropWhile (· = '0')).reverse
  ⟨kept, digits.length + dropped - 1074⟩

/-- The magnitude that `significand · 10 ^ dropped` rounds to is `size`. -/
def readsBack (size : Magnitude) (significand dropped : Nat) : Bool :=
  Magnitude.nearest (significand * Nat.pow 10 dropped) (Nat.pow 5 1074) == size.units

/-- Of `below` and the number after it those that fit, for a value that lies `excess` halves of a
`step` above the first; of both the nearer one, and of two equally near the even one. -/
def neighbour? (fits : Nat → Bool) (below excess step : Nat) : Option Nat :=
  match fits below, fits (below + 1) with
  | true, true =>
    if excess < step ∨ (excess = step ∧ below % 2 = 0) then some below
    else some (below + 1)
  | true, false => some below
  | false, true => some (below + 1)
  | false, false => none

/-- The neighbour of the value that keeps all but `dropped` digits and reads back. -/
def candidate? (size : Magnitude) (dropped : Nat) : Option Nat :=
  let step := Nat.pow 10 dropped
  neighbour? (readsBack size · dropped) (expansion size / step) (2 * (expansion size % step)) step

/-- The fewest digits that read back. Seventeen are always enough. -/
def shortest (size : Magnitude) : Form :=
  let length := (Nat.toDigits 10 (expansion size)).length
  let found := (List.range 17).findSome? fun n =>
    let dropped := length - (n + 1)
    (candidate? size dropped).map fun significand => Form.of significand dropped
  found.getD (Form.of (expansion size) 0)

/-- The value rounded to `count` digits, a tie going to the even neighbour. -/
def cut (count : Nat) (size : Magnitude) : Form :=
  let length := (Nat.toDigits 10 (expansion size)).length
  let dropped := length - count
  let step := Nat.pow 10 dropped
  let below := expansion size / step
  let excess := 2 * (expansion size % step)
  if excess < step ∨ (excess = step ∧ below % 2 = 0) then Form.of below dropped
  else Form.of (below + 1) dropped

/-- How a form is written out. -/
structure Style where
  /-- Numbers from `10 ^ limit` on have an exponent. -/
  limit : Int
  /-- A whole number ends in `.0`. -/
  pointed : Bool

/-- Two digits at least. -/
def exponentText (e : Int) : List Char :=
  let digits := Nat.toDigits 10 e.natAbs
  (if e < 0 then '-' else '+') :: (if digits.length < 2 then '0' :: digits else digits)

/-- Positional from `10⁻⁴` up to the limit, with an exponent elsewhere. -/
def Style.write (style : Style) (form : Form) : List Char :=
  let e := form.point - 1
  let length := form.digits.length
  if -4 ≤ e ∧ e < style.limit then
    if form.point ≤ 0 then
      '0' :: '.' :: List.replicate form.point.natAbs '0' ++ form.digits
    else if length ≤ form.point.toNat then
      form.digits ++ List.replicate (form.point.toNat - length) '0' ++
        (if style.pointed then ['.', '0'] else [])
    else form.digits.take form.point.toNat ++ '.' :: form.digits.drop form.point.toNat
  else
    match form.digits with
    | [] => ['0']
    | [d] => d :: 'e' :: exponentText e
    | d :: rest => d :: '.' :: rest ++ 'e' :: exponentText e

/-- A double with its sign, the finite sizes other than zero written by `form` and `style`. -/
def write (style : Style) (form : Magnitude → Form) : Double → List Char
  | .nan => ['n', 'a', 'n']
  | .infinite s => (if s then ['-'] else []) ++ ['i', 'n', 'f']
  | .finite s size =>
    (if s then ['-'] else []) ++
      (if size.units = 0 then if style.pointed then ['0', '.', '0'] else ['0']
      else style.write (form size))

/-- The text that reads back as the same number: the fewest digits, positional below `10¹⁶`. -/
def exactText (x : Double) : List Char := write ⟨16, true⟩ shortest x

/-- The text with which numbers become labels: fourteen digits at most, positional below `10¹⁴`. -/
def plainText (x : Double) : List Char := write ⟨14, false⟩ (cut 14) x

end ScriptDialog.Decimal
