import ScriptDialog.Number.Double
import ScriptDialog.Text.Blank
import ScriptDialog.Text.Digit

/-! Numerals at the start of a text: decimal digits of any script, with sign, fraction and exponent,
and the words for infinity and for no number. -/
namespace ScriptDialog.Numeral

/-- An optional sign; `true` is the minus. -/
def sign : List Char → Bool × List Char
  | '-' :: rest => (true, rest)
  | '+' :: rest => (false, rest)
  | rest => (false, rest)

/-- The longest run of digits and what follows it. -/
def digits (text : List Char) : List Char × List Char := text.span Digit.isDigit

/-- Digits with an optional point, or a point and digits: whole part, fraction, rest. -/
def mantissa? (text : List Char) : Option (List Char × List Char × List Char) :=
  match digits text with
  | ([], '.' :: rest) =>
    match digits rest with
    | ([], _) => none
    | (fraction, rest) => some ([], fraction, rest)
  | ([], _) => none
  | (whole, '.' :: rest) => some (whole, digits rest)
  | (whole, rest) => some (whole, [], rest)

/-- A complete exponent; without one nothing is taken. -/
def exponent (text : List Char) : Int × List Char :=
  match text with
  | [] => (0, [])
  | e :: after =>
    if e = 'e' ∨ e = 'E' then
      let (minus, after) := sign after
      match digits after with
      | ([], _) => (0, text)
      | (run, rest) => (if minus then -(Digit.toNat run : Int) else Digit.toNat run, rest)
    else (0, text)

/-- A decimal numeral at the start: its value and the rest. -/
def decimal? (text : List Char) : Option (Double × List Char) :=
  let (minus, text) := sign text
  (mantissa? text).map fun (whole, fraction, rest) =>
    let (e, rest) := exponent rest
    (.ofDecimal minus (Digit.toNat (whole ++ fraction)) (e - fraction.length), rest)

/-- Whether `c` is the letter `lower` in some spelling. Dotless and dotted forms count as the letter
i. -/
def isLetter (lower c : Char) : Bool :=
  c == lower || c.toNat + 0x20 == lower.toNat || (lower == 'i' && (c == 'ı' || c == 'İ'))

/-- The rest after `word`, in any mixture of cases. -/
def word? : (word : List Char) → List Char → Option (List Char)
  | [], text => some text
  | _ :: _, [] => none
  | w :: word, c :: text => if isLetter w c then word? word text else none

/-- An infinity or no number, spelled out. -/
def named? (text : List Char) : Option (Double × List Char) :=
  let (minus, text) := sign text
  match word? ['i', 'n', 'f'] text with
  | some rest => some (.infinite minus, (word? ['i', 'n', 'i', 't', 'y'] rest).getD rest)
  | none => (word? ['n', 'a', 'n'] text).map fun rest => (.nan, rest)

/-- The part of `text` before its tail `rest`. -/
def before (text rest : List Char) : List Char := text.take (text.length - rest.length)

end ScriptDialog.Numeral
