import ScriptDialog.Text.Ranges

/-! White space: the characters of Unicode that separate words or lines. -/
namespace ScriptDialog.Blank

def ranges : Ranges := [
  (0x9, 0xD), (0x1C, 0x20), (0x85, 0x85), (0xA0, 0xA0), (0x1680, 0x1680), (0x2000, 0x200A),
  (0x2028, 0x2029), (0x202F, 0x202F), (0x205F, 0x205F), (0x3000, 0x3000)]

def isBlank (c : Char) : Bool := ranges.contains c

/-- Leaves out blanks at both ends. -/
def trim (text : List Char) : List Char :=
  ((text.dropWhile isBlank).reverse.dropWhile isBlank).reverse

/-- Blanks that may surround a number: the information separators U+001C to U+001F are not
among them. -/
def aroundNumber (c : Char) : Bool := isBlank c && !(0x1C ≤ c.toNat && c.toNat ≤ 0x1F)

def trimNumber (text : List Char) : List Char :=
  ((text.dropWhile aroundNumber).reverse.dropWhile aroundNumber).reverse

end ScriptDialog.Blank
