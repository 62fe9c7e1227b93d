import ScriptDialog.Yaml.Quoted

/-! Tokens of a configuration text. Indentation opens and closes block collections, and a colon
makes a key of the scalar or flow collection before it on the same line. -/
namespace ScriptDialog.Yaml

inductive Token where
  | directive
  | documentStart
  | documentEnd
  | beginList
  | beginMap
  | endBlock
  | openList
  | closeList
  | openMap
  | closeMap
  | comma
  | entry
  | key
  | value
  | scalar (text : List Char) (plain : Bool)
  deriving DecidableEq

/-- A place where a key may have begun. -/
structure KeyPlace where
  /-- The number of tokens before it. -/
  token : Nat
  /-- Nothing but a key can stand here. -/
  required : Bool
  index : Nat
  line : Nat
  column : Nat

structure Scanner where
  cursor : Cursor
  tokens : List Token
  /-- Flow collections around the place. -/
  depth : Nat
  /-- The column of the innermost block collection; −1 outside all. -/
  indent : Int
  indents : List Int
  keyAllowed : Bool
  /-- The possible key at each depth. -/
  keys : List (Nat × KeyPlace)

namespace Scanner

def start (text : List Char) : Scanner := ⟨.ofText text, [], 0, -1, [], true, []⟩

def column (s : Scanner) : Int := s.cursor.column

def inFlow (s : Scanner) : Bool := s.depth != 0

def emit (s : Scanner) (t : Token) : Scanner := { s with tokens := s.tokens ++ [t] }

/-- Takes `n` characters as a token. -/
def take (s : Scanner) (n : Nat) (t : Token) : Scanner :=
  { s.emit t with cursor := s.cursor.skip n }

def allow (s : Scanner) (allowed : Bool) : Scanner := { s with keyAllowed := allowed }

/-- Passes over spaces, comments and line ends. A new line of a block may begin with a key. -/
def toNextToken : (fuel : Nat) → Scanner → Scanner
  | 0, s => s
  | fuel + 1, s =>
    let c := s.cursor.skipWhile (· = ' ')
    let c := if c.peek? = some '#' then c.skipWhile fun x => !isBreak x else c
    match c.lineBreak? with
    | none => { s with cursor := c }
    | some (_, c) =>
      toNextToken fuel { s with cursor := c, keyAllowed := s.keyAllowed || !s.inFlow }

/-- A key ends on its line and within 1024 characters. -/
def isStale (s : Scanner) (k : KeyPlace) : Bool :=
  k.line != s.cursor.line || 1024 < s.cursor.index - k.index

/-- Forgets the keys that can no longer be; one that was required is an error. -/
def dropStale? (s : Scanner) : Option Scanner :=
  if s.keys.any fun (_, k) => s.isStale k && k.required then none
  else some { s with keys := s.keys.filter fun (_, k) => !s.isStale k }

/-- Forgets the possible key at this depth; one that was required is an error. -/
def dropKey? (s : Scanner) : Option Scanner :=
  match s.keys.lookup s.depth with
  | none => some s
  | some k =>
    if k.required then none
    else some { s with keys := s.keys.filter fun (depth, _) => depth != s.depth }

/-- Notes that a key may begin here. -/
def saveKey? (s : Scanner) : Option Scanner :=
  if s.keyAllowed then do
    let required := !s.inFlow && s.indent == s.column
    let s ← s.dropKey?
    let c := s.cursor
    return { s with
      keys := (s.depth, ⟨s.tokens.length, required, c.index, c.line, c.column⟩) :: s.keys }
  else some s

/-- Closes the block collections to the right of a column. -/
def unwind (s : Scanner) (column : Int) : Scanner :=
  if s.inFlow then s
  else
    let closed := (s.indent :: s.indents).takeWhile (column < ·)
    match (s.indent :: s.indents).drop closed.length with
    | [] =>
      { s with tokens := s.tokens ++ closed.map fun _ => .endBlock, indent := -1, indents := [] }
    | indent :: indents =>
      { s with tokens := s.tokens ++ closed.map fun _ => .endBlock, indent, indents }

/-- Opens a block collection at a column, unless one is open there. -/
def addIndent (s : Scanner) (column : Int) (place : Nat) (t : Token) : Scanner :=
  if s.indent < column then
    { s with
      tokens := s.tokens.take place ++ t :: s.tokens.drop place
      indent := column
      indents := s.indent :: s.indents }
  else s

def insert (s : Scanner) (place : Nat) (t : Token) : Scanner :=
  { s with tokens := s.tokens.take place ++ t :: s.tokens.drop place }

def openFlow? (s : Scanner) (t : Token) : Option Scanner := do
  let s ← s.saveKey?
  return ({ s with depth := s.depth + 1 }.allow true).take 1 t

/-- A flow collection is closed only inside one. -/
def closeFlow? (s : Scanner) (t : Token) : Option Scanner :=
  if s.inFlow then do
    let s ← s.dropKey?
    return ({ s with depth := s.depth - 1 }.allow false).take 1 t
  else none

def comma? (s : Scanner) : Option Scanner := do
  let s ← (s.allow true).dropKey?
  return s.take 1 .comma

def entry? (s : Scanner) : Option Scanner :=
  if s.inFlow then do
    let s ← (s.allow true).dropKey?
    return s.take 1 .entry
  else if s.keyAllowed then do
    let s := s.addIndent s.column s.tokens.length .beginList
    let s ← (s.allow true).dropKey?
    return s.take 1 .entry
  else none

def key? (s : Scanner) : Option Scanner :=
  if s.inFlow then do
    let s ← (s.allow false).dropKey?
    return s.take 1 .key
  else if s.keyAllowed then do
    let s := s.addIndent s.column s.tokens.length .beginMap
    let s ← (s.allow true).dropKey?
    return s.take 1 .key
  else none

/-- A colon after a possible key puts the key's mark before it. -/
def value? (s : Scanner) : Option Scanner :=
  match s.keys.lookup s.depth with
  | some k =>
    let s := { s with keys := s.keys.filter fun (depth, _) => depth != s.depth }
    let s := s.insert k.token .key
    let s := if s.inFlow then s else s.addIndent k.column k.token .beginMap
    some ((s.allow false).take 1 .value)
  | none =>
    if s.inFlow then some ((s.allow false).take 1 .value)
    else if s.keyAllowed then
      let s := s.addIndent s.column s.tokens.length .beginMap
      some ((s.allow true).take 1 .value)
    else none

def quoted? (s : Scanner) (double : Bool) : Option Scanner := do
  let s ← s.saveKey?
  let (text, c) ← quotedScalar? double (s.cursor.rest.length + 1) s.cursor.next []
  return { s.emit (.scalar text false) with cursor := c, keyAllowed := false }

def plain? (s : Scanner) : Option Scanner := do
  let s ← s.saveKey?
  let (text, c, newLine) :=
    plainScalar s.inFlow (s.indent + 1) (s.cursor.rest.length + 1) s.cursor [] false
  return { s.emit (.scalar text true) with cursor := c, keyAllowed := newLine }

/-- A marker line closes every block. -/
def marker? (s : Scanner) (t : Token) : Option Scanner := do
  let s ← (s.unwind (-1)).dropKey?
  return (s.allow false).take 3 t

/-- The number before the point of a version, if the text is one and perhaps a comment. -/
def major? (text : List Char) : Option Nat :=
  let digit (c : Char) : Bool := '0' ≤ c && c ≤ '9'
  let whole := text.takeWhile digit
  match text.drop whole.length with
  | '.' :: rest =>
    let minor := rest.takeWhile digit
    let tail := rest.drop minor.length
    let after := tail.dropWhile (· = ' ')
    let ended := tail = [] ∨ (tail.head? = some ' ' ∧ (after = [] ∨ after.head? = some '#'))
    if whole ≠ [] ∧ minor ≠ [] ∧ ended then some (Hex.toNat whole) else none
  | _ => none

/-- A directive line: a name, and for a version one of the first series. -/
def directive? (s : Scanner) : Option Scanner := do
  let s ← (s.unwind (-1)).dropKey?
  let line := s.cursor.rest.takeWhile fun c => !isBreak c
  let name := (line.drop 1).takeWhile fun c => c.isAlphanum || c == '-' || c == '_'
  let after := line.drop (name.length + 1)
  if name = [] ∨ !(after.head? = none ∨ after.head? = some ' ') then none
  else if name = ['Y', 'A', 'M', 'L'] ∧ major? (after.dropWhile (· = ' ')) ≠ some 1 then none
  else return (s.allow false).take line.length .directive

/-- Characters that no plain scalar begins with, unless something follows that frees them. -/
def isIndicator (c : Char) : Bool :=
  c == '-' || c == '?' || c == ':' || c == ',' || c == '[' || c == ']' || c == '\x7b' ||
    c == '\x7d' || c == '#' || c == '&' || c == '*' || c == '!' || c == '|' || c == '>' ||
    c == '\'' || c == '"' || c == '%' || c == '@' || c == '\x60'

def beginsPlain (s : Scanner) (c : Char) : Bool :=
  !(isGap (some c) || isIndicator c) ||
    (!isGap (s.cursor.ahead? 1) && (c == '-' || (!s.inFlow && (c == '?' || c == ':'))))

/-- The token that begins with `c`. -/
def token? (s : Scanner) (c : Char) : Option Scanner :=
  let alone := isGap (s.cursor.ahead? 1)
  if c = '%' ∧ s.cursor.column = 0 then s.directive?
  else if s.cursor.column = 0 ∧ s.cursor.atMarker '-' then s.marker? .documentStart
  else if s.cursor.column = 0 ∧ s.cursor.atMarker '.' then s.marker? .documentEnd
  else if c = '[' then s.openFlow? .openList
  else if c = '\x7b' then s.openFlow? .openMap
  else if c = ']' then s.closeFlow? .closeList
  else if c = '\x7d' then s.closeFlow? .closeMap
  else if c = ',' then s.comma?
  else if c = '-' ∧ alone then s.entry?
  else if c = '?' ∧ (s.inFlow ∨ alone) then s.key?
  else if c = ':' ∧ (s.inFlow ∨ alone) then s.value?
  else if c = '\'' then s.quoted? false
  else if c = '"' then s.quoted? true
  else if s.beginsPlain c then s.plain?
  else none

/-- All tokens; nothing when a character fits none. -/
def run? : (fuel : Nat) → Scanner → Option (List Token)
  | 0, _ => none
  | fuel + 1, s => do
    let s ← (s.toNextToken (s.cursor.rest.length + 1)).dropStale?
    let s := s.unwind s.column
    match s.cursor.peek? with
    | none =>
      let s ← (s.unwind (-1)).dropKey?
      return s.tokens
    | some c =>
      let s ← s.token? c
      run? fuel s

end Scanner

/-- The tokens of a text of printable characters, a leading byte order mark left out. -/
def tokens? (text : List Char) : Option (List Token) :=
  if text.all printable.contains then
    let body := match text with
      | '\uFEFF' :: rest => rest
      | text => text
    Scanner.run? (body.length + 2) (.start body)
  else none

end ScriptDialog.Yaml
