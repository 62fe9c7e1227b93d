import ScriptDialog.Number.Reading

/-! Colours and their text forms. -/
namespace ScriptDialog

/-- Red, green, blue, and the transparency, for which zero is opaque. -/
structure Color where
  r : Int
  g : Int
  b : Int
  a : Int
  deriving DecidableEq, Repr

namespace Color

def black : Color := ⟨0, 0, 0, 0⟩

/-- Every channel is a byte. -/
def InRange (c : Color) : Prop :=
  (0 ≤ c.r ∧ c.r ≤ 255) ∧ (0 ≤ c.g ∧ c.g ≤ 255) ∧ (0 ≤ c.b ∧ c.b ≤ 255) ∧ (0 ≤ c.a ∧ c.a ≤ 255)

/-- The notations `#RGB`, `#RRGGBB` and `#RRGGBBAA`. A single digit stands for two equal ones. -/
def web? (text : List Char) : Option Color :=
  match text with
  | '#' :: digits =>
    match digits.mapM Hex.value? with
    | some [r, g, b] => some ⟨r * 17, g * 17, b * 17, 0⟩
    | some [r, r', g, g', b, b'] => some ⟨r * 16 + r', g * 16 + g', b * 16 + b', 0⟩
    | some [r, r', g, g', b, b', a, a'] =>
      some ⟨r * 16 + r', g * 16 + g', b * 16 + b', a * 16 + a'⟩
    | _ => none
  | _ => none

/-- The channels of a packed number, red lowest. -/
def ofPacked (n : Nat) : Color :=
  ⟨(n % 256 : Nat), (n / 256 % 256 : Nat), (n / 65536 % 256 : Nat), (n / 16777216 % 256 : Nat)⟩

/-- The mark `&H` with one to eight digits, and perhaps `&` at the end. -/
def subtitle? (text : List Char) : Option Color :=
  match text with
  | '&' :: h :: rest =>
    let (run, tail) := rest.span Hex.isDigit
    if (h = 'H' ∨ h = 'h') ∧ 1 ≤ run.length ∧ run.length ≤ 8 ∧ (tail = [] ∨ tail = ['&']) then
      some (ofPacked (Hex.toNat run))
    else none
  | _ => none

/-- Blanks, a run of digits, blanks: the run and the rest. -/
def channelRun? (text : List Char) : Option (List Char × List Char) :=
  match Numeral.digits (text.dropWhile Blank.isBlank) with
  | ([], _) => none
  | (run, rest) => some (run, rest.dropWhile Blank.isBlank)

/-- The three runs of digits in `rgb(r, g, b)`. -/
def callRuns? (text : List Char) : Option (List Char × List Char × List Char) := do
  let rest ← Numeral.word? ['r', 'g', 'b'] text
  let .cons '(' rest := rest | none
  let (r, rest) ← channelRun? rest
  let .cons ',' rest := rest | none
  let (g, rest) ← channelRun? rest
  let .cons ',' rest := rest | none
  let (b, rest) ← channelRun? rest
  if rest = [')'] then some (r, g, b) else none

/-- A channel is at most 255. -/
def channel (run : List Char) : Except NumberFault Int :=
  if digitLimit < run.length then .error (.tooManyDigits run.length)
  else .ok (min 255 (Digit.toNat run))

/-- Reads any of the three notations between blanks; other text is black. -/
def ofChars (text : List Char) : Except NumberFault Color :=
  let text := Blank.trim text
  match (web? text).or (subtitle? text) with
  | some color => .ok color
  | none =>
    match callRuns? text with
    | none => .ok black
    | some (r, g, b) => do
      let r ← channel r
      let g ← channel g
      let b ← channel b
      return ⟨r, g, b, 0⟩

/-- None of the notations holds a surrogate. -/
def ofText : Text → Except NumberFault Color
  | .whole s => ofChars s.toList
  | .torn _ => .ok black

/-- Two digits at least; a minus counts as one. -/
def channelText (n : Int) : List Char :=
  let digits := Hex.upper n.natAbs
  if n < 0 then '-' :: digits
  else List.replicate (2 - digits.length) '0' ++ digits

def hexChars (c : Color) (withAlpha : Bool) : List Char :=
  '#' :: channelText c.r ++ channelText c.g ++ channelText c.b ++
    (if withAlpha then channelText c.a else [])

/-- The form `#RRGGBB`, or `#RRGGBBAA` with the transparency. -/
def hex (c : Color) (withAlpha : Bool) : String := String.ofList (hexChars c withAlpha)

end Color

end ScriptDialog
