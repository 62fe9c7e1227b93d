import ScriptDialog.Text.Hex
import ScriptDialog.Text.Utf8

/-! Inline tokens: text carried as printable ASCII that is free of the delimiters of a saved
dialog. A byte that may not stand for itself is written as `#` and two upper-case digits. -/
namespace ScriptDialog.Token

/-- Control bytes, bytes outside ASCII, and the four marks with a meaning of their own. -/
def reserved (b : UInt8) : Bool :=
  b.toNat ≤ 0x1F || 0x80 ≤ b.toNat || b == 0x23 || b == 0x2C || b == 0x3A || b == 0x7C

def encodeByte (b : UInt8) : List Char :=
  if reserved b then ['#', Hex.upperDigit (b.toNat / 16), Hex.upperDigit (b.toNat % 16)]
  else [Char.ofNat b.toNat]

def encodeChars (text : List Char) : List Char := (Utf8.encode text).flatMap encodeByte

def encode (text : String) : String := String.ofList (encodeChars text.toList)

def hexByte? (b : UInt8) : Option Nat := Hex.value? (Char.ofNat b.toNat)

/-- Resolves `#` with two digits; any other `#` stands for itself. -/
def unescape : List UInt8 → List UInt8
  | 0x23 :: high :: low :: rest =>
    match hexByte? high, hexByte? low with
    | some h, some l => UInt8.ofNat (h * 16 + l) :: unescape rest
    | _, _ => 0x23 :: unescape (high :: low :: rest)
  | b :: rest => b :: unescape rest
  | [] => []

def decodeChars (token : List Char) : List Char :=
  Utf8.decodeLossy (unescape (Utf8.encode token))

/-- Bytes that are no UTF-8 come back as replacement characters. -/
def decode (token : String) : String := String.ofList (decodeChars token.toList)

end ScriptDialog.Token
