import ScriptDialog.Document.Basic
import ScriptDialog.Text.Hex

/-! Reading documents. Besides the usual numbers the words for infinity and for no number are
read; a text holds no control characters. -/
namespace ScriptDialog.Document

abbrev Read (α : Type) := Except DocumentFault (α × List Char)

def isSpace (c : Char) : Bool := c == ' ' || c == '\t' || c == '\n' || c == '\r'

def skipSpace (text : List Char) : List Char := text.dropWhile isSpace

/-- Escapes of one letter. -/
def letterEscapes : List (Char × Char) := [('"', '"'), ('\\', '\\'), ('/', '/'), ('b', '\x08'),
  ('f', '\x0C'), ('n', '\n'), ('r', '\r'), ('t', '\t')]

/-- Four hexadecimal digits: their value and the rest. -/
def unit? (text : List Char) : Option (Nat × List Char) :=
  match text with
  | a :: b :: c :: d :: rest =>
    if [a, b, c, d].all Hex.isDigit then some (Hex.toNat [a, b, c, d], rest) else none
  | _ => none

/-- The second half of a pair of surrogates. -/
def lowHalf? (text : List Char) : Option (Nat × List Char) :=
  match text with
  | '\\' :: 'u' :: rest =>
    match unit? rest with
    | some (n, rest) => if 0xDC00 ≤ n ∧ n ≤ 0xDFFF then some (n, rest) else none
    | none => none
  | _ => none

/-- A character or a surrogate by its number. -/
def glyphOf (n : Nat) : Glyph :=
  if surrogate : 0xD800 ≤ n ∧ n < 0xE000 then .lone ⟨n - 0xD800, by omega⟩ else .char (Char.ofNat n)

/-- A character by its code; two halves make one character, and a half without the other stays. -/
def codeEscape? (text : List Char) : Option (Glyph × List Char) :=
  match unit? text with
  | none => none
  | some (n, rest) =>
    if 0xD800 ≤ n ∧ n ≤ 0xDBFF then
      match lowHalf? rest with
      | some (low, rest) =>
        some (.char (Char.ofNat (0x10000 + (n - 0xD800) * 0x400 + (low - 0xDC00))), rest)
      | none => some (glyphOf n, rest)
    else some (glyphOf n, rest)

def escape? (text : List Char) : Option (Glyph × List Char) :=
  match text with
  | 'u' :: rest => codeEscape? rest
  | c :: rest => (letterEscapes.lookup c).map fun image => (.char image, rest)
  | [] => none

/-- The text up to the closing quote, and the rest. -/
def readText : (fuel : Nat) → List Char → Read (List Glyph)
  | 0, _ => .error .malformed
  | _ + 1, [] => .error .malformed
  | fuel + 1, c :: rest =>
    if c = '"' then .ok ([], rest)
    else if c = '\\' then
      match escape? rest with
      | none => .error .malformed
      | some (image, rest) =>
        match readText fuel rest with
        | .error fault => .error fault
        | .ok (text, rest) => .ok (image :: text, rest)
    else if c.toNat < 0x20 then .error .malformed
    else
      match readText fuel rest with
      | .error fault => .error fault
      | .ok (text, rest) => .ok (.char c :: text, rest)

def isAsciiDigit (c : Char) : Bool := '0' ≤ c && c ≤ '9'

/-- A zero, or digits that begin with another. -/
def wholePart? (text : List Char) : Option (List Char × List Char) :=
  match text with
  | '0' :: rest => some (['0'], rest)
  | text =>
    match text.span isAsciiDigit with
    | ([], _) => none
    | (run, rest) => some (run, rest)

/-- A point with digits after it, or nothing. -/
def fractionPart (text : List Char) : List Char × List Char :=
  match text with
  | '.' :: rest =>
    match rest.span isAsciiDigit with
    | ([], _) => ([], text)
    | (run, rest) => ('.' :: run, rest)
  | text => ([], text)

/-- A complete exponent, or nothing. -/
def exponentPart (text : List Char) : List Char × List Char :=
  match text with
  | e :: rest =>
    if e = 'e' ∨ e = 'E' then
      let (sign, rest) := match rest with
        | '+' :: rest => (['+'], rest)
        | '-' :: rest => (['-'], rest)
        | rest => ([], rest)
      match rest.span isAsciiDigit with
      | ([], _) => ([], text)
      | (run, rest) => (e :: sign ++ run, rest)
    else ([], text)
  | [] => ([], text)

/-- A number. An integer may not have too many digits. -/
def readNumber (text : List Char) : Read Document :=
  let (sign, body) := match text with
    | '-' :: rest => (['-'], rest)
    | text => ([], text)
  match wholePart? body with
  | none => .error .malformed
  | some (whole, rest) =>
    let (fraction, rest) := fractionPart rest
    let (exponent, rest) := exponentPart rest
    if fraction = [] ∧ exponent = [] ∧ digitLimit < whole.length then
      .error (.number (.tooManyDigits whole.length))
    else .ok (.number (sign ++ whole ++ fraction ++ exponent), rest)

/-- The rest after a word. -/
def word? : (word : List Char) → List Char → Option (List Char)
  | [], text => some text
  | _ :: _, [] => none
  | w :: word, c :: text => if w = c then word? word text else none

def words : List (List Char × Document) := [
  ("null".toList, .null), ("true".toList, .bool true), ("false".toList, .bool false),
  ("NaN".toList, .number "NaN".toList), ("Infinity".toList, .number "Infinity".toList),
  ("-Infinity".toList, .number "-Infinity".toList)]

/-- A word of the notation at the start. -/
def readWord? (text : List Char) : Option (Document × List Char) :=
  words.findSome? fun (word, value) => (word? word text).map fun rest => (value, rest)

mutual

def readValue : (fuel : Nat) → List Char → Read Document
  | 0, _ => .error .malformed
  | fuel + 1, text =>
    match text with
    | '"' :: rest =>
      match readText (rest.length + 1) rest with
      | .error fault => .error fault
      | .ok (text, rest) => .ok (.quoted (.ofGlyphs text), rest)
    | '[' :: rest =>
      match skipSpace rest with
      | ']' :: rest => .ok (.list [], rest)
      | rest =>
        match readItems fuel rest with
        | .error fault => .error fault
        | .ok (items, rest) => .ok (.list items, rest)
    | '\x7b' :: rest =>
      match skipSpace rest with
      | '\x7d' :: rest => .ok (.object [], rest)
      | rest =>
        match readMembers fuel rest [] with
        | .error fault => .error fault
        | .ok (members, rest) => .ok (.object members, rest)
    | text =>
      match readWord? text with
      | some found => .ok found
      | none => readNumber text

/-- One item or more, up to the closing bracket. -/
def readItems : (fuel : Nat) → List Char → Read (List Document)
  | 0, _ => .error .malformed
  | fuel + 1, text =>
    match readValue fuel text with
    | .error fault => .error fault
    | .ok (item, rest) =>
      match skipSpace rest with
      | ']' :: rest => .ok ([item], rest)
      | ',' :: rest =>
        match readItems fuel (skipSpace rest) with
        | .error fault => .error fault
        | .ok (items, rest) => .ok (item :: items, rest)
      | _ => .error .malformed

/-- One member or more, up to the closing brace. The last of equal keys wins. -/
def readMembers : (fuel : Nat) → List Char → List (Text × Document) →
    Read (List (Text × Document))
  | 0, _, _ => .error .malformed
  | fuel + 1, text, members =>
    match text with
    | '"' :: rest =>
      match readText (rest.length + 1) rest with
      | .error fault => .error fault
      | .ok (key, rest) =>
        match skipSpace rest with
        | ':' :: rest =>
          match readValue fuel (skipSpace rest) with
          | .error fault => .error fault
          | .ok (value, rest) =>
            let members := putMember (.ofGlyphs key) value members
            match skipSpace rest with
            | '\x7d' :: rest => .ok (members, rest)
            | ',' :: rest => readMembers fuel (skipSpace rest) members
            | _ => .error .malformed
        | _ => .error .malformed
    | _ => .error .malformed

end

/-- The document that a whole text holds, between spaces. A list costs two steps of fuel, one for
its bracket and one for its first item. -/
def ofChars (text : List Char) : Except DocumentFault Document :=
  match readValue (2 * text.length + 1) (skipSpace text) with
  | .error fault => .error fault
  | .ok (value, rest) => if skipSpace rest = [] then .ok value else .error .malformed

end ScriptDialog.Document
