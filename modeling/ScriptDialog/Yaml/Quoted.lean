import ScriptDialog.Text.Hex
import ScriptDialog.Yaml.Cursor

/-! Scalars over several words and lines: plain ones and quoted ones. A single line break between
words is a space; of several the first is dropped. -/
namespace ScriptDialog.Yaml

/-- Blank lines from here on, with the blanks before the next text. -/
def emptyLines (blank : Char → Bool) (stop : Cursor → Bool) :
    (fuel : Nat) → Cursor → List Char → Option (List Char × Cursor)
  | 0, _, _ => none
  | fuel + 1, c, lines =>
    if stop c then none
    else
      let c := c.skipWhile blank
      match c.lineBreak? with
      | some (b, c) => emptyLines blank stop fuel c (lines ++ [b])
      | none => some (lines, c)

/-- What a line break and the blank lines after it amount to. -/
def folded (first : Char) (more : List Char) : List Char :=
  (if first ≠ '\n' then [first] else if more = [] then [' '] else []) ++ more

/-- A document marker at the start of a line. -/
def atDocumentMarker (c : Cursor) : Bool := c.atMarker '-' || c.atMarker '.'

/-- A colon that separates a key from its value. -/
def endsKey (inFlow : Bool) (after : Option Char) : Bool :=
  isGap after || (inFlow && match after with
    | some c => c == ',' || c == '[' || c == ']' || c == '\x7b' || c == '\x7d'
    | none => false)

/-- The length of a word of a plain scalar. -/
def wordLength (inFlow : Bool) : List Char → Nat
  | [] => 0
  | x :: rest =>
    if x = ' ' ∨ x = '\t' ∨ isBreak x then 0
    else if x = ':' ∧ endsKey inFlow rest.head? then 0
    else if inFlow ∧ (x = ',' ∨ x = '?' ∨ x = '[' ∨ x = ']' ∨ x = '\x7b' ∨ x = '\x7d') then 0
    else wordLength inFlow rest + 1

/-- What follows a word of a plain scalar. -/
inductive Spacing where
  /-- No further word. -/
  | done
  /-- Spaces or folded lines, and whether a line ended. -/
  | gap (text : List Char) (newLine : Bool)
  /-- A document marker after a line's end. -/
  | marker

def plainSpacing (c : Cursor) : Spacing × Cursor :=
  let spaces := c.rest.takeWhile (· = ' ')
  let c := c.skip spaces.length
  match c.lineBreak? with
  | none => (if spaces = [] then .done else .gap spaces false, c)
  | some (b, c) =>
    match emptyLines (· = ' ') atDocumentMarker (c.rest.length + 1) c [] with
    | none => (.marker, c)
    | some (more, c) => (.gap (folded b more) true, c)

/-- The words of a plain scalar, the place after them, and whether a line ended on the way. Words
on later lines stand to the right of `indent`. -/
def plainScalar (inFlow : Bool) (indent : Int) :
    (fuel : Nat) → Cursor → List Char → Bool → List Char × Cursor × Bool
  | 0, c, text, newLine => (text, c, newLine)
  | fuel + 1, c, text, newLine =>
    let length := if c.peek? = some '#' then 0 else wordLength inFlow c.rest
    if length = 0 then (text, c, newLine)
    else
      let word := c.rest.take length
      match plainSpacing (c.skip length) with
      | (.done, c) => (text ++ word, c, false)
      | (.marker, c) => (text ++ word, c, true)
      | (.gap gap broke, c) =>
        if c.peek? = some '#' ∨ (!inFlow ∧ (c.column : Int) < indent) then (text ++ word, c, broke)
        else
          match plainScalar inFlow indent fuel c (text ++ word ++ gap) broke with
          | (longer, after, broke') =>
            if longer.length = (text ++ word ++ gap).length then (text ++ word, after, broke)
            else (longer, after, broke')

/-- Escapes of one letter. -/
def escapes : List (Char × Char) := [('0', '\x00'), ('a', '\x07'), ('b', '\x08'), ('t', '\t'),
  ('\t', '\t'), ('n', '\n'), ('v', '\x0B'), ('f', '\x0C'), ('r', '\r'), ('e', '\x1B'), (' ', ' '),
  ('"', '"'), ('\\', '\\'), ('/', '/'), ('N', '\u0085'), ('_', '\u00A0'), ('L', '\u2028'),
  ('P', '\u2029')]

/-- Escapes by code, and their number of digits. -/
def codeEscapes : List (Char × Nat) := [('x', 2), ('u', 4), ('U', 8)]

def isBlankOrTab (c : Char) : Bool := c == ' ' || c == '\t'

/-- The text after a backslash. -/
def escape? (c : Cursor) : Option (List Char × Cursor) :=
  match c.peek? with
  | none => none
  | some x =>
    match escapes.lookup x, codeEscapes.lookup x with
    | some image, _ => some ([image], c.next)
    | none, some count =>
      let run := (c.rest.drop 1).take count
      if run.length = count ∧ run.all Hex.isDigit then
        some ([Char.ofNat (Hex.toNat run)], c.skip (count + 1))
      else none
    | none, none =>
      match c.lineBreak? with
      | none => none
      | some (_, c) => emptyLines isBlankOrTab atDocumentMarker (c.rest.length + 1) c []

/-- Blanks inside quotes; at a line's end they are dropped and the line is folded. -/
def quotedSpacing? (c : Cursor) : Option (List Char × Cursor) :=
  let blanks := c.rest.takeWhile isBlankOrTab
  let c := c.skip blanks.length
  match c.peek?, c.lineBreak? with
  | none, _ => none
  | _, none => some (blanks, c)
  | _, some (b, c) =>
    (emptyLines isBlankOrTab atDocumentMarker (c.rest.length + 1) c []).map fun (more, c) =>
      (folded b more, c)

/-- The text up to the closing quote, and the place after it. -/
def quotedScalar? (double : Bool) : (fuel : Nat) → Cursor → List Char → Option (List Char × Cursor)
  | 0, _, _ => none
  | fuel + 1, c, text =>
    match c.peek? with
    | none => none
    | some x =>
      if x = '\'' ∧ !double then
        if c.ahead? 1 = some '\'' then quotedScalar? double fuel (c.skip 2) (text ++ ['\''])
        else some (text, c.next)
      else if x = '"' ∧ double then some (text, c.next)
      else if x = '\\' ∧ double then
        match escape? c.next with
        | none => none
        | some (image, c) => quotedScalar? double fuel c (text ++ image)
      else if isBlankOrTab x || isBreak x then
        match quotedSpacing? c with
        | none => none
        | some (gap, c) => quotedScalar? double fuel c (text ++ gap)
      else quotedScalar? double fuel c.next (text ++ [x])

end ScriptDialog.Yaml
