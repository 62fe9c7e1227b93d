import ScriptDialog.Document.Basic
import ScriptDialog.Text.Hex
import ScriptDialog.Text.Pieces

/-! Writing documents. Text is written as it is, but for quotes, backslashes and control
characters. -/
namespace ScriptDialog.Document

def escapeChar (c : Char) : List Char :=
  if c = '"' then ['\\', '"']
  else if c = '\\' then ['\\', '\\']
  else if c = '\n' then ['\\', 'n']
  else if c = '\r' then ['\\', 'r']
  else if c = '\t' then ['\\', 't']
  else if c = '\x08' then ['\\', 'b']
  else if c = '\x0C' then ['\\', 'f']
  else if c.toNat < 0x20 then '\\' :: 'u' :: Hex.padded 4 c.toNat
  else [c]

def escapeGlyph : Glyph → List Glyph
  | .char c => (escapeChar c).map .char
  | .lone s => [.lone s]

def quote : Glyph := .char '"'

def writeText (text : Text) : List Glyph := quote :: text.glyphs.flatMap escapeGlyph ++ [quote]

/-- Members with a comma and a space between them. -/
def joinMembers (parts : List (List Glyph)) : List Glyph :=
  Pieces.join [.char ',', .char ' '] parts

/-- An object of texts. -/
def writeTexts (members : List (Text × Text)) : List Glyph :=
  .char '\x7b' :: joinMembers (members.map fun (key, value) =>
    writeText key ++ .char ':' :: .char ' ' :: writeText value) ++ [.char '\x7d']

end ScriptDialog.Document
