import ScriptDialog.Number.Numeral
import ScriptDialog.Text.Hex
import ScriptDialog.Text.Literal

/-! Numbers from text: whole texts that are numbers, and numbers at the start of a text. -/
namespace ScriptDialog.Numeral

/-- The information separators are blanks, but no number may stand next to one. -/
def isSeparator (c : Char) : Bool := 0x1C ≤ c.toNat && c.toNat ≤ 0x1F

/-- Digits after `0x`, between blanks. -/
def hexadecimal? (text : List Char) : Option Nat :=
  match Blank.trim text with
  | '0' :: x :: run =>
    if (x = 'x' ∨ x = 'X') ∧ run ≠ [] ∧ run.all Hex.isDigit then some (Hex.toNat run) else none
  | _ => none

/-- The number that the whole text denotes, if it denotes one. -/
def read? (text : List Char) : Except NumberFault (Option Double) :=
  match decimal? (text.dropWhile Blank.isBlank) with
  | some (x, rest) =>
    if rest.all Blank.isBlank then
      if text.any isSeparator then .error (.unreadable (String.ofList (Literal.ofChars text)))
      else .ok (some x)
    else .ok ((hexadecimal? text).bind fun n => Double.ofInt? n)
  | none => .ok ((hexadecimal? text).bind fun n => Double.ofInt? n)

/-- A letter that passes for i in a word but not in a number. -/
def isFalseI (c : Char) : Bool := c == 'ı' || c == 'İ'

/-- The number at the start of the text, zero when none stands there. -/
def readStart (text : List Char) : Except NumberFault Double :=
  let body := text.dropWhile Blank.isBlank
  match (decimal? body).or (named? body) with
  | none => .ok .zero
  | some (x, rest) =>
    let taken := before text rest
    if taken.any isSeparator || taken.any isFalseI then
      .error (.unreadable (String.ofList (Literal.ofChars taken)))
    else .ok x

def int32Min : Int := -2147483648

def int32Max : Int := 2147483647

/-- The nearest integer of 32 bits. -/
def toInt32 (n : Int) : Int := max int32Min (min int32Max n)

/-- The integer at the start of the text within 32 bits, zero when none stands there. More than ten
digits are not converted: they are beyond the bounds. -/
def readIntStart (text : List Char) : Int :=
  let (minus, body) := sign (text.dropWhile Blank.isBlank)
  let run := (digits body).1.dropWhile (· = '0')
  if 10 < run.length then if minus then int32Min else int32Max
  else
    let n : Int := Digit.toNat run
    toInt32 (if minus then -n else n)

/-- Runs of digits with single underscores between them. -/
def groups? : List Char → Option (List Char)
  | [] => none
  | [d] => if Digit.isDigit d then some [d] else none
  | d :: '_' :: rest => if Digit.isDigit d then (groups? rest).map (d :: ·) else none
  | d :: rest => if Digit.isDigit d then (groups? rest).map (d :: ·) else none

/-- The integer that the whole text denotes, shown as `literal` when it denotes none. -/
def readInt (literal : String) (text : List Char) : Except NumberFault Int :=
  let (minus, body) := sign (Blank.trimNumber text)
  match groups? body with
  | none => .error (.unreadableInt 10 literal)
  | some run =>
    if digitLimit < run.length then .error (.tooManyDigits run.length)
    else .ok (if minus then -(Digit.toNat run : Int) else Digit.toNat run)

/-- Takes single underscores between digits out; none when one stands anywhere else. -/
def ungroup? : List Char → Option (List Char)
  | [] => some []
  | c :: '_' :: d :: rest =>
    if Digit.isDigit c && Digit.isDigit d then (ungroup? (d :: rest)).map (c :: ·) else none
  | '_' :: _ => none
  | c :: rest => (ungroup? rest).map (c :: ·)

/-- The double that the whole text denotes, shown as `literal` when it denotes none. -/
def readDouble (literal : String) (text : List Char) : Except NumberFault Double :=
  let read? := (ungroup? (Blank.trimNumber text)).bind fun body =>
    if body.any isFalseI then none else (decimal? body).or (named? body)
  match read? with
  | some (x, []) => .ok x
  | _ => .error (.unreadable literal)

/-- An integer that is not too wide to be written. -/
def writable (n : Int) : Except NumberFault Int :=
  if n.natAbs < Nat.pow 10 digitLimit then .ok n else .error .tooWideToWrite

end ScriptDialog.Numeral
