import ScriptDialog.Text
import ScriptDialog.Text.Visible

/-! Quoted literals: text and bytes shown in messages with everything invisible escaped. -/
namespace ScriptDialog.Literal

/-- The single quote, unless only the double one does without an escape. -/
def quoteFor (text : List Char) : Char :=
  if text.contains '\'' && !text.contains '"' then '"' else '\''

/-- Escapes that a text and a byte string share. -/
def common? (quote c : Char) : Option (List Char) :=
  if c = '\\' then some ['\\', '\\']
  else if c = quote then some ['\\', c]
  else if c = '\n' then some ['\\', 'n']
  else if c = '\r' then some ['\\', 'r']
  else if c = '\t' then some ['\\', 't']
  else none

def escapeChar (quote c : Char) : List Char :=
  match common? quote c with
  | some escaped => escaped
  | none =>
    if Visible.isVisible c then [c]
    else if c.toNat < 0x100 then '\\' :: 'x' :: Hex.padded 2 c.toNat
    else if c.toNat < 0x10000 then '\\' :: 'u' :: Hex.padded 4 c.toNat
    else '\\' :: 'U' :: Hex.padded 8 c.toNat

def ofChars (text : List Char) : List Char :=
  let quote := quoteFor text
  quote :: text.flatMap (escapeChar quote) ++ [quote]

def escapeGlyph (quote : Char) : Glyph → List Char
  | .char c => escapeChar quote c
  | .lone s => s.escape

def shown : Text → List Char
  | .whole s => ofChars s.toList
  | .torn t =>
    let text := Text.torn t
    let quote := quoteFor text.chars
    quote :: text.glyphs.flatMap (escapeGlyph quote) ++ [quote]

def ofText (text : Text) : String := String.ofList (shown text)

def escapeByte (quote : Char) (b : UInt8) : List Char :=
  let c := Char.ofNat b.toNat
  match common? quote c with
  | some escaped => escaped
  | none => if 0x20 ≤ b.toNat ∧ b.toNat < 0x7F then [c] else '\\' :: 'x' :: Hex.padded 2 b.toNat

def ofBytes (bytes : List UInt8) : List Char :=
  let quote := quoteFor (bytes.map fun b => Char.ofNat b.toNat)
  'b' :: quote :: bytes.flatMap (escapeByte quote) ++ [quote]

end ScriptDialog.Literal
