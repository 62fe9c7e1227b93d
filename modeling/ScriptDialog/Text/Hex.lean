/-! Hexadecimal digits of ASCII. -/
namespace ScriptDialog.Hex

/-- The value of a digit in either case. -/
def value? (c : Char) : Option Nat :=
  let n := c.toNat
  if 0x30 ≤ n ∧ n ≤ 0x39 then some (n - 0x30)
  else if 0x41 ≤ n ∧ n ≤ 0x46 then some (n - 0x41 + 10)
  else if 0x61 ≤ n ∧ n ≤ 0x66 then some (n - 0x61 + 10)
  else none

def isDigit (c : Char) : Bool := (value? c).isSome

def upperDigit (n : Nat) : Char := Char.ofNat (if n < 10 then 0x30 + n else 0x37 + n)

/-- The number that a run of digits denotes; other characters count as zero. -/
def toNat (digits : List Char) : Nat :=
  digits.foldl (fun n c => n * 16 + (value? c).getD 0) 0

/-- Lower-case digits of `n`, at least `width` of them. -/
def padded (width n : Nat) : List Char :=
  let digits := (Nat.toDigits 16 n)
  List.replicate (width - digits.length) '0' ++ digits

/-- Upper-case digits of `n` without padding. -/
def upper (n : Nat) : List Char :=
  (Nat.toDigits 16 n).map fun c => upperDigit ((value? c).getD 0)

end ScriptDialog.Hex
