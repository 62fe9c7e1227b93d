import ScriptDialog.Value

/-! The meaning of plain scalars: nulls, flags and numbers in their several spellings, and text. -/
namespace ScriptDialog.Yaml

def nulls : List String := ["", "~", "null", "Null", "NULL"]

def yesWords : List String :=
  ["yes", "Yes", "YES", "true", "True", "TRUE", "on", "On", "ON"]

def noWords : List String :=
  ["no", "No", "NO", "false", "False", "FALSE", "off", "Off", "OFF"]

def isAsciiDigit (c : Char) : Bool := '0' ≤ c && c ≤ '9'

/-- Digits, or underscores between and after them. -/
def isLoose (digit : Char → Bool) (c : Char) : Bool := digit c || c == '_'

def withoutUnderscores (text : List Char) : List Char := text.filter (· != '_')

/-- A sign and the rest. -/
def scalarSign (text : List Char) : Bool × List Char := Numeral.sign text

/-- Parts of a number in base sixty: one or two digits below sixty. -/
def isSixtieth (part : List Char) : Bool :=
  match part with
  | [d] => isAsciiDigit d
  | [t, d] => '0' ≤ t && t ≤ '5' && isAsciiDigit d
  | _ => false

def ofSixtieths (parts : List Nat) : Nat := parts.foldl (fun n part => n * 60 + part) 0

/-- Splits at colons. -/
def colonParts (text : List Char) : List (List Char) :=
  text.foldr (fun c parts =>
    if c = ':' then [] :: parts
    else match parts with
      | part :: rest => (c :: part) :: rest
      | [] => [[c]]) [[]]

/-- Digits from one to nine first, or a lone zero. -/
def isDecimalRun : List Char → Bool
  | ['0'] => true
  | d :: rest => isAsciiDigit d && d != '0' && rest.all (isLoose isAsciiDigit)
  | [] => false

/-- A decimal integer, refused when it has too many digits. -/
def decimalInt (run : List Char) : Except NumberFault Nat :=
  let run := withoutUnderscores run
  if digitLimit < run.length then .error (.tooManyDigits run.length) else .ok (Digit.toNat run)

def ofDigits (base : Nat) (digits : List Char) : Nat :=
  digits.foldl (fun n c => n * base + (Hex.value? c).getD 0) 0

/-- The integer of digits after a mark for the base. Underscores alone are none. -/
def markedInt (base : Nat) (run : List Char) : Except NumberFault Nat :=
  match withoutUnderscores run with
  | [] => .error (.unreadableInt base (Literal.ofText ""))
  | digits => .ok (ofDigits base digits)

/-- The size of an integer: binary, octal, decimal, hexadecimal or in base sixty. -/
def intSize? (body : List Char) : Option (Except NumberFault Nat) :=
  match body with
  | '0' :: 'b' :: run =>
    if run ≠ [] ∧ run.all (isLoose fun c => c == '0' || c == '1') then
      some (markedInt 2 run)
    else none
  | '0' :: 'x' :: run =>
    if run ≠ [] ∧ run.all (isLoose Hex.isDigit) then
      some (markedInt 16 run)
    else none
  | '0' :: d :: run =>
    if (d :: run).all (isLoose fun c => '0' ≤ c && c ≤ '7') then
      some (.ok (ofDigits 8 (withoutUnderscores (d :: run))))
    else none
  | body =>
    if isDecimalRun body then some (decimalInt body)
    else
      match colonParts body with
      | first :: part :: parts =>
        if first ≠ ['0'] ∧ isDecimalRun first ∧ (part :: parts).all isSixtieth then
          some (do
            let whole ← decimalInt first
            return ofSixtieths (whole :: (part :: parts).map Digit.toNat))
        else none
      | _ => none

def int? (text : List Char) : Option (Except NumberFault Int) :=
  let (minus, body) := scalarSign text
  (intSize? body).map fun size => (fun (n : Nat) => if minus then -(n : Int) else n) <$> size

/-- A complete exponent, which has a sign, or nothing. -/
def isFloatTail (tail : List Char) : Bool :=
  match tail with
  | [] => true
  | e :: s :: run =>
    (e == 'e' || e == 'E') && (s == '-' || s == '+') && run != [] && run.all isAsciiDigit
  | _ => false

/-- A digit, and digits or underscores after it. -/
def isLooseRun : List Char → Bool
  | d :: rest => isAsciiDigit d && rest.all (isLoose isAsciiDigit)
  | [] => false

/-- Digits, a point and perhaps an exponent. -/
def isPointed (body : List Char) : Bool :=
  let whole := body.takeWhile (isLoose isAsciiDigit)
  match body.drop whole.length with
  | '.' :: rest => isLooseRun whole && isFloatTail (rest.dropWhile (isLoose isAsciiDigit))
  | _ => false

/-- A point and digits, for which there is no sign. -/
def isBarePointed (text : List Char) : Bool :=
  match text with
  | '.' :: d :: rest => isAsciiDigit d && isFloatTail (rest.dropWhile (isLoose isAsciiDigit))
  | _ => false

/-- A point, and digits or underscores after it. -/
def isFraction : List Char → Bool
  | '.' :: run => run.all (isLoose isAsciiDigit)
  | _ => false

/-- The sum of parts in base sixty, the last part first. -/
def sumSixtieths (parts : List (List Char)) : Double :=
  let digit (part : List Char) : Double :=
    match Numeral.decimal? (withoutUnderscores part) with
    | some (x, _) => x
    | none => .zero
  (parts.foldl (fun (sum, base) part =>
    (Double.add sum ((digit part).mul base), Double.mul base (.whole 60)))
    (Double.zero, Double.whole 1)).1

/-- A number in base sixty with a point. -/
def sixtiethFloat? (minus : Bool) (body : List Char) : Option Double :=
  match colonParts body with
  | first :: part :: parts =>
    let last := (part :: parts).getLast?.getD []
    let middle := (part :: parts).dropLast
    let seconds := last.takeWhile (· != '.')
    if isLooseRun first && middle.all isSixtieth && isSixtieth seconds &&
        isFraction (last.drop seconds.length) then
      let sum := sumSixtieths (first :: middle ++ [last]).reverse
      some (if minus then sum.neg else sum)
    else none
  | _ => none

def float? (text : List Char) : Option Double :=
  let (minus, body) := scalarSign text
  if body = ".inf".toList ∨ body = ".Inf".toList ∨ body = ".INF".toList then
    some (.infinite minus)
  else if text = ".nan".toList ∨ text = ".NaN".toList ∨ text = ".NAN".toList then some .nan
  else if isPointed body ∨ isBarePointed text then
    (Numeral.decimal? (withoutUnderscores text)).map Prod.fst
  else sixtiethFloat? minus body

/-- The value of a plain scalar. -/
def plainValue (text : List Char) : Except NumberFault Atom :=
  let word := String.ofList text
  if nulls.contains word then .ok .null
  else if yesWords.contains word then .ok (.bool true)
  else if noWords.contains word then .ok (.bool false)
  else
    match float? text, int? text with
    | some x, _ => .ok (.float x)
    | none, some n => Atom.int <$> n
    | none, none => .ok (.text word)

end ScriptDialog.Yaml
