import ScriptDialog.Text.Hex

/-! Texts as scripts and files hold them. A surrogate without its partner is no character, yet a
text can hold one; such a text is torn, and there are no bytes for it. -/
namespace ScriptDialog

/-- A surrogate on its own, counted from U+D800. -/
abbrev Surrogate := Fin 0x800

def Surrogate.toNat (s : Surrogate) : Nat := 0xD800 + s.val

/-- The escape that shows a surrogate. -/
def Surrogate.escape (s : Surrogate) : List Char := '\\' :: 'u' :: Hex.padded 4 s.toNat

/-- One position of a text. -/
inductive Glyph where
  | char (c : Char)
  | lone (s : Surrogate)
  deriving DecidableEq, Repr

def Glyph.isLone : Glyph → Bool
  | .char _ => false
  | .lone _ => true

def Glyph.toNat : Glyph → Nat
  | .char c => c.toNat
  | .lone s => s.toNat

/-- A text with a surrogate on its own: the characters before the first one, and all after it. -/
structure Torn where
  before : List Char
  first : Surrogate
  after : List Glyph
  deriving DecidableEq, Repr

namespace Torn

/-- Where the first surrogates stand, and that no bytes stand for them. -/
def message (t : Torn) : String :=
  let position := t.before.length
  let more := (t.after.takeWhile Glyph.isLone).length
  let place :=
    if more = 0 then
      "character '" ++ String.ofList t.first.escape ++ "' in position " ++ toString position
    else "characters in position " ++ toString position ++ "-" ++ toString (position + more)
  "'utf-8' codec can't encode " ++ place ++ ": surrogates not allowed"

end Torn

inductive Text where
  | whole (s : String)
  | torn (t : Torn)
  deriving DecidableEq, Repr

instance : Coe String Text := ⟨.whole⟩

instance : Inhabited Text := ⟨.whole ""⟩

namespace Text

/-- The characters before the first surrogate, and that surrogate with what follows it. -/
def tear : List Glyph → List Char × Option (Surrogate × List Glyph)
  | [] => ([], none)
  | .lone s :: rest => ([], some (s, rest))
  | .char c :: rest => ((tear rest).map (c :: ·) id)

def ofGlyphs (glyphs : List Glyph) : Text :=
  match tear glyphs with
  | (chars, none) => .whole (String.ofList chars)
  | (chars, some (first, after)) => .torn ⟨chars, first, after⟩

def glyphs : Text → List Glyph
  | .whole s => s.toList.map .char
  | .torn t => t.before.map .char ++ .lone t.first :: t.after

instance : Append Text where
  append
    | .whole a, .whole b => .whole (a ++ b)
    | a, b => .ofGlyphs (a.glyphs ++ b.glyphs)

/-- The characters up to the first surrogate. -/
def start : Text → List Char
  | .whole s => s.toList
  | .torn t => t.before

/-- The characters of a text, with the replacement character for each surrogate. -/
def chars : Text → List Char
  | .whole s => s.toList
  | .torn t => t.before ++ '\uFFFD' :: t.after.map fun
    | .char c => c
    | .lone _ => '\uFFFD'

/-- The numbers of a text's glyphs, by which texts are ordered. -/
def codes (t : Text) : List Nat := t.glyphs.map Glyph.toNat

instance : LT Text := ⟨fun a b => List.lt a.codes b.codes⟩

instance : LE Text := ⟨fun a b => List.le a.codes b.codes⟩

instance (a b : Text) : Decidable (a < b) := List.decidableLT a.codes b.codes

instance (a b : Text) : Decidable (a ≤ b) := List.decidableLE a.codes b.codes

@[simp] theorem whole_append (a b : String) : (whole a ++ whole b : Text) = whole (a ++ b) := rfl

@[simp] theorem start_whole (s : String) : start s = s.toList := rfl

@[simp] theorem chars_whole (s : String) : chars s = s.toList := rfl

@[simp] theorem tear_map_char (chars : List Char) : tear (chars.map .char) = (chars, none) := by
  induction chars with
  | nil => rfl
  | cons c chars ih => rw [List.map_cons, tear, ih]; rfl

@[simp] theorem ofGlyphs_map_char (chars : List Char) :
    ofGlyphs (chars.map .char) = String.ofList chars := by
  rw [ofGlyphs, tear_map_char]

theorem tear_torn (before : List Char) (first : Surrogate) (after : List Glyph) :
    tear (before.map .char ++ .lone first :: after) = (before, some (first, after)) := by
  induction before with
  | nil => rfl
  | cons c before ih => rw [List.map_cons, List.cons_append, tear, ih]; rfl

@[simp] theorem ofGlyphs_torn (before : List Char) (first : Surrogate) (after : List Glyph) :
    ofGlyphs (before.map .char ++ .lone first :: after) = .torn ⟨before, first, after⟩ := by
  rw [ofGlyphs, tear_torn]

@[simp] theorem ofGlyphs_glyphs (t : Text) : ofGlyphs t.glyphs = t := by
  cases t with
  | whole s => rw [glyphs, ofGlyphs_map_char, String.ofList_toList]
  | torn t => rw [glyphs, ofGlyphs_torn]

/-- A whole text before another one comes before the first surrogate. -/
theorem start_append (s : String) (t : Text) : (s ++ t : Text).start = s.toList ++ t.start := by
  cases t with
  | whole s' => exact String.toList_append
  | torn t =>
    have joined : (s ++ torn t : Text) =
        ofGlyphs (s.toList.map .char ++ (t.before.map .char ++ .lone t.first :: t.after)) := rfl
    rw [joined, ← List.append_assoc, ← List.map_append, ofGlyphs_torn]
    rfl

end Text

end ScriptDialog
